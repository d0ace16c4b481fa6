import AgentShield.Auth.StaleSessions

/-!
# What an API key may ingest

A key is issued on a request that names its scope and lifetime, its row is stored, and much
later a lookup finds the row and `authorizeIngest` decides on a record.  The row of a key
keeps its organisation, scope and expiry for good (`Reached.key_kept`), so the decision is
known from the request (`issued_key_allows`).

Two requests are not granted what they name.  An empty allowlist is stored as none, which
is the scope of the whole organisation; and a lifetime of no seconds is stored as none,
which never expires.
-/

namespace AgentShield.Auth

open AgentShield.Lib AgentShield.Sdk AgentShield.Server

variable (settings : AuthSettings)

/-! ## A lookup and a decision -/

/-- The key is looked up and asked about a record. -/
def ingestAllowed (rawKey recordOrgId recordAgentId : String) : AuthHandler Bool := do
  let found ← lookupApiKey settings rawKey
  match found with
  | none => return false
  | some key => do
      let result ← authorizeIngest (Caller.apiKey key).principal recordOrgId recordAgentId
      return decide (result = .allow)

/-- The key allows the record in this state of the server. -/
def Allows (w : AuthWorld) (rawKey recordOrgId recordAgentId : String) : Prop :=
  (Async.run (ingestAllowed settings rawKey recordOrgId recordAgentId) w).2 = .ok true

/-- The agent is registered in the organisation. -/
def AuthWorld.HasAgent (w : AuthWorld) (orgId agentId : String) : Prop :=
  agentId ∈ (w.server.db.agents.filter (·.orgId = orgId)).map (·.agentId)

/-- The scope of a row as `authorizeIngest` reads it. -/
def ApiKey.Covers (key : ApiKey) (w : AuthWorld) (agentId : String) : Prop :=
  match key.agentId, key.agentIdAllowlist with
  | none, none => w.HasAgent key.orgId agentId
  | some named, _ => agentId = named
  | none, some allowlist => agentId ∈ allowlist

section Decision

variable {settings : AuthSettings} {w : AuthWorld} {key : ApiKey}

theorem run_authorizeIngest (recordOrgId recordAgentId : String) :
    ∃ result, Async.run (authorizeIngest (Caller.apiKey key).principal recordOrgId
        recordAgentId) w = (w, .ok result) ∧
      (result = .allow ↔ key.orgId = recordOrgId ∧ key.Covers w recordAgentId) := by
  unfold authorizeIngest ApiKey.Covers
  by_cases hOrg : key.orgId = recordOrgId
  · cases hAgent : key.agentId with
    | some named =>
        refine ⟨decideIngest (Caller.apiKey key).principal recordOrgId recordAgentId [], ?_, ?_⟩
        · rw [if_neg fun hAll => by simp [Caller.principal, hAgent] at hAll]
          rfl
        · simp [decideIngest, Caller.principal, hOrg, hAgent]
    | none =>
        cases hList : key.agentIdAllowlist with
        | some allowlist =>
            refine ⟨decideIngest (Caller.apiKey key).principal recordOrgId recordAgentId [],
              ?_, ?_⟩
            · rw [if_neg fun hAll => by simp [Caller.principal, hList] at hAll]
              rfl
            · simp [decideIngest, Caller.principal, hOrg, hAgent, hList]
        | none =>
            refine ⟨decideIngest (Caller.apiKey key).principal recordOrgId recordAgentId
              ((w.server.db.agents.filter (·.orgId = key.orgId)).map (·.agentId)), ?_, ?_⟩
            · rw [if_pos ⟨hOrg, hAgent, hList⟩]
              rfl
            · simp [decideIngest, Caller.principal, hOrg, hAgent, hList, AuthWorld.HasAgent,
                and_assoc]
  · refine ⟨.deny .recordOrgMismatch, ?_, ?_⟩
    · rw [if_neg fun hAll => hOrg hAll.1]
      simp [decideIngest, Caller.principal, hOrg]
    · simp [hOrg]

/-- A key that is found allows the records of its organisation and scope while it is live. -/
theorem allows_iff {rawKey : String} (hRaw : rawKey ≠ "")
    (hFind : w.db.findApiKey (settings.prim.sha256Hex rawKey) = some key)
    (recordOrgId recordAgentId : String) :
    Allows settings w rawKey recordOrgId recordAgentId ↔
      key.active w.server.now = true ∧ recordOrgId = key.orgId ∧ key.Covers w recordAgentId := by
  have hLookup : Async.run (lookupApiKey settings rawKey) w =
      (w, .ok ((some key).filter (ApiKey.active · w.server.now))) := by
    unfold lookupApiKey
    rw [if_neg hRaw]
    show (w, Except.ok (Option.filter _ (w.db.findApiKey _))) = _
    rw [hFind]
  unfold Allows ingestAllowed
  rw [Async.run_bind, hLookup]
  by_cases hActive : key.active w.server.now = true
  · obtain ⟨result, hRun, hAllow⟩ := @run_authorizeIngest w key recordOrgId recordAgentId
    have hFilter : (some key).filter (ApiKey.active · w.server.now) = some key := by
      simp [hActive]
    simp only [hFilter]
    rw [Async.run_bind, hRun]
    simp [hAllow, hActive, eq_comm]
  · have hFilter : (some key).filter (ApiKey.active · w.server.now) = none := by
      simp [hActive]
    simp [hFilter, hActive]

end Decision

/-! ## The row of a key -/

/-- The row with what no statement changes: the organisation, the agents it may speak for, the
hash of the key and its expiry are those of the day it was issued. -/
structure ApiKey.SameGrant (row key : ApiKey) : Prop where
  apiKeyId : key.apiKeyId = row.apiKeyId
  orgId : key.orgId = row.orgId
  agentId : key.agentId = row.agentId
  agentIdAllowlist : key.agentIdAllowlist = row.agentIdAllowlist
  tokenHash : key.tokenHash = row.tokenHash
  createdAt : key.createdAt = row.createdAt
  expiresAt : key.expiresAt = row.expiresAt

theorem ApiKey.SameGrant.set {row key : ApiKey} (h : row.SameGrant key) (st : Statement) :
    row.SameGrant (st.setApiKey key) := by
  cases st <;> simp only [Statement.setApiKey] <;> first | exact h | skip
  all_goals
    split
    · exact ⟨h.1, h.2, h.3, h.4, h.5, h.6, h.7⟩
    · exact h

theorem Reached.key_kept {settings : AuthSettings} {s w : AuthWorld} (h : Reached settings s w)
    {row : ApiKey} (hRow : row ∈ s.db.apiKeys) : ∃ key ∈ w.db.apiKeys, row.SameGrant key := by
  refine h.tables (I := fun db => ∃ key ∈ db.apiKeys, row.SameGrant key) ?_ ?_
  · exact ⟨row, hRow, rfl, rfl, rfl, rfl, rfl, rfl, rfl⟩
  · intro w statement reason _ _ hOld
    obtain ⟨key, hKey, hSame⟩ := hOld
    exact ⟨statement.setApiKey key, List.mem_append_left _ (List.mem_map_of_mem hKey),
      hSame.set statement⟩

/-- The key of an answer is found under its text, with what the request asked for. -/
theorem KeyIssued.found {settings : AuthSettings} {server : World} {db : AuthDb}
    {body : IssueApiKeyRequest} {rawKey : String} {view : ApiKeyView} {w₀ w : AuthWorld}
    {caller : Caller} {issuedAt createdAt : Int} {n : Nat}
    (h : KeyIssued settings body rawKey view w₀ caller issuedAt createdAt n)
    (hReached : Reached settings (.initial server db) w) (hValid : db.Valid settings.prim)
    (hLater : w₀.Later w) :
    ∃ key, w.db.findApiKey (settings.prim.sha256Hex rawKey) = some key ∧
      ApiKey.SameGrant ((body.newKey caller.principal issuedAt).row settings createdAt n) key := by
  obtain ⟨e, he, hStatement, -⟩ := hLater.did h.stored
  obtain ⟨w₁, db₁, hWritten, -, hRest, -⟩ := hReached.entry rfl he
  obtain ⟨-, rfl⟩ := AuthDb.execute_ok hWritten.run
  have hThere : (body.newKey caller.principal issuedAt).row settings createdAt n ∈
      (w₁.wrote e.statement e.reason (w₁.db.apply e.statement)).db.apiKeys := by
    refine List.mem_append_right _ ?_
    rw [hStatement]
    exact List.mem_singleton_self _
  obtain ⟨key, hKey, hSame⟩ := hRest.key_kept hThere
  refine ⟨key, ?_, hSame⟩
  have hFind := (hReached.valid hValid).keyHashes.find_eq hKey
  rw [hSame.tokenHash] at hFind
  rw [h.raw]
  exact hFind

/-! ## What a request asks for -/

/-- The agent is in the scope that the request names. -/
def IssueApiKeyRequest.InScope (body : IssueApiKeyRequest) (w : AuthWorld)
    (orgId agentId : String) : Prop :=
  (body.agentId = none ∧ body.agentIdAllowlist = none ∧ w.HasAgent orgId agentId) ∨
    body.agentId = some agentId ∨
    ∃ allowlist, body.agentIdAllowlist = some allowlist ∧ agentId ∈ allowlist

/-- The lifetime that the request names is not over. -/
def IssueApiKeyRequest.InTime (body : IssueApiKeyRequest) (issuedAt now : Int) : Prop :=
  ∀ ttl ∈ body.ttlSeconds, now ≤ issuedAt + ttl * 1000

/-- The request entitles the key to the record: the record's organisation is the key's, the
agent is in the scope asked for, the lifetime has not run out and the key is not revoked. -/
structure IssueApiKeyRequest.Grants (body : IssueApiKeyRequest) (w : AuthWorld) (key : ApiKey)
    (issuedAt : Int) (recordOrgId recordAgentId : String) : Prop where
  org : recordOrgId = key.orgId
  scope : body.InScope w key.orgId recordAgentId
  inTime : body.InTime issuedAt w.server.now
  unrevoked : key.revokedAt = none

/-- The request names no agents at all, in an empty list. -/
def IssueApiKeyRequest.NamesNobody (body : IssueApiKeyRequest) : Prop :=
  body.agentId = none ∧ body.agentIdAllowlist = some []

/-- The requests and times at which a key is worth more than it was asked for: an empty
allowlist with the scope of the organisation, and a lifetime of no seconds that goes on. -/
def IssueApiKeyRequest.Overgrants (body : IssueApiKeyRequest) (w : AuthWorld) (key : ApiKey)
    (issuedAt : Int) (recordOrgId recordAgentId : String) : Prop :=
  recordOrgId = key.orgId ∧ key.revokedAt = none ∧
    ((body.NamesNobody ∧ w.HasAgent key.orgId recordAgentId ∧
        (body.ttlSeconds = some 0 ∨ body.InTime issuedAt w.server.now)) ∨
      (body.ttlSeconds = some 0 ∧ issuedAt < w.server.now ∧
        body.InScope w key.orgId recordAgentId))

section Request

variable {settings : AuthSettings} {body : IssueApiKeyRequest} {w : AuthWorld} {key : ApiKey}

/-- The stored scope is the requested one, and the organisation for an empty list, which is
stored as if none had been given. -/
theorem covers_iff {p : Principal} {now createdAt : Int} {n : Nat}
    (hSame : ((body.newKey p now).row settings createdAt n).SameGrant key)
    (hOne : body.agentId = none ∨ body.agentIdAllowlist.filter (· ≠ []) = none)
    (agentId : String) :
    key.Covers w agentId ↔ body.InScope w key.orgId agentId ∨
      (body.NamesNobody ∧ w.HasAgent key.orgId agentId) := by
  have hAgent : key.agentId = body.agentId := hSame.agentId
  have hList : key.agentIdAllowlist =
      (body.agentIdAllowlist.filter (· ≠ [])).filter (· ≠ []) := hSame.agentIdAllowlist
  unfold ApiKey.Covers IssueApiKeyRequest.InScope IssueApiKeyRequest.NamesNobody
  rw [hAgent, hList]
  cases hNamed : body.agentId with
  | some named =>
      -- a second scope of a key with an agent is empty at most
      have hEmpty : ∀ allowlist, body.agentIdAllowlist = some allowlist → allowlist = [] := by
        intro allowlist hSome
        simpa [hNamed, hSome] using hOne
      constructor
      · intro hEq
        exact .inl (.inr (.inl (by rw [hEq])))
      · rintro ((⟨hNone, -⟩ | hEq | ⟨allowlist, hSome, hMem⟩) | ⟨⟨hNone, -⟩, -⟩)
        · cases hNone
        · exact (Option.some.inj hEq).symm
        · rw [hEmpty allowlist hSome] at hMem
          cases hMem
        · cases hNone
  | none =>
      cases hNames : body.agentIdAllowlist with
      | none => simp
      | some allowlist =>
          by_cases hNil : allowlist = []
          · subst hNil
            have hNone : ((some ([] : List String)).filter (· ≠ [])).filter (· ≠ []) = none := rfl
            rw [hNone]
            simp
          · have hKept : ((some allowlist).filter (· ≠ [])).filter (· ≠ []) = some allowlist := by
              simp [Option.filter, hNil]
            rw [hKept]
            simp [hNil]

/-- The stored expiry is the requested one, and none for a lifetime of no seconds. -/
theorem active_iff {issuedAt : Int}
    (hExpires : key.expiresAt = keyExpiry issuedAt body.ttlSeconds) :
    key.active w.server.now = true ↔ key.revokedAt = none ∧
      (body.ttlSeconds = some 0 ∨ body.InTime issuedAt w.server.now) := by
  unfold ApiKey.active IssueApiKeyRequest.InTime
  rw [hExpires]
  cases hTtl : body.ttlSeconds with
  | none => simp [keyExpiry]
  | some ttl =>
      by_cases hZero : ttl = 0
      · subst hZero
        simp [keyExpiry]
      · simp [keyExpiry, hZero]

/-- Scope and lifetime are as requested unless the key is worth more: a request that names
nobody, by an empty list, makes a key for every agent of the organisation. -/
theorem grants_iff (issuedAt : Int) (recordOrgId recordAgentId : String) :
    ((recordOrgId = key.orgId ∧ key.revokedAt = none ∧
          (body.ttlSeconds = some 0 ∨ body.InTime issuedAt w.server.now) ∧
          (body.InScope w key.orgId recordAgentId ∨
            (body.NamesNobody ∧ w.HasAgent key.orgId recordAgentId))) ↔
        body.Grants w key issuedAt recordOrgId recordAgentId) ↔
      ¬ body.Overgrants w key issuedAt recordOrgId recordAgentId := by
  have hApart : body.NamesNobody → ¬ body.InScope w key.orgId recordAgentId := by
    rintro ⟨hAgent, hList⟩ (⟨-, hNone, -⟩ | hSome | ⟨allowlist, hSome, hMem⟩)
    · rw [hList] at hNone
      cases hNone
    · rw [hAgent] at hSome
      cases hSome
    · obtain rfl : [] = allowlist := Option.some.inj (hList.symm.trans hSome)
      cases hMem
  have hTime : body.ttlSeconds = some 0 →
      (body.InTime issuedAt w.server.now ↔ ¬ issuedAt < w.server.now) := by
    intro hZero
    unfold IssueApiKeyRequest.InTime
    rw [hZero]
    simp
  constructor
  · rintro hSame ⟨hOrg, hRevoked, ⟨hNobody, hAgent, hAlive⟩ | ⟨hZero, hPast, hScope⟩⟩
    · have hGrants := hSame.1 ⟨hOrg, hRevoked, hAlive, .inr ⟨hNobody, hAgent⟩⟩
      exact hApart hNobody hGrants.scope
    · have hGrants := hSame.1 ⟨hOrg, hRevoked, .inl hZero, .inl hScope⟩
      exact (hTime hZero).1 hGrants.inTime hPast
  · intro hNot
    constructor
    · rintro ⟨hOrg, hRevoked, hAlive, hScope⟩
      have hInScope : body.InScope w key.orgId recordAgentId := by
        rcases hScope with hScope | ⟨hNobody, hAgent⟩
        · exact hScope
        · exact absurd ⟨hOrg, hRevoked, .inl ⟨hNobody, hAgent, hAlive⟩⟩ hNot
      have hInTime : body.InTime issuedAt w.server.now := by
        rcases hAlive with hZero | hInTime
        · refine (hTime hZero).2 fun hPast => hNot ?_
          exact ⟨hOrg, hRevoked, .inr ⟨hZero, hPast, hInScope⟩⟩
        · exact hInTime
      exact ⟨hOrg, hInScope, hInTime, hRevoked⟩
    · intro hGrants
      exact ⟨hGrants.org, hGrants.unrevoked, .inr hGrants.inTime, .inl hGrants.scope⟩

end Request

/-! ## Every key of every run -/

/-- **What an issued key allows**, at any time after it has been handed out and whatever has
happened since: the records of its organisation that its request entitles it to, and no
others unless the request gave an empty allowlist or a lifetime of no seconds. -/
theorem issued_key_allows (settings : AuthSettings) (server : World) (db : AuthDb)
    (hValid : db.Valid settings.prim) (events : List (Event (authService settings)))
    (http : Http) (body : IssueApiKeyRequest) (response : Response)
    (hDone : (Request.issueApiKey http body, response) ∈
      (authRun settings server db events).answers)
    (rawKey : String) (view : ApiKeyView) (hReply : response.reply = .apiKey rawKey view) :
    ∃ key ∈ (authRun settings server db events).state.db.apiKeys,
      key.apiKeyId = view.apiKeyId ∧ key.tokenHash = settings.prim.sha256Hex rawKey ∧
      (∃ issuedAt ≤ view.createdAt, view.expiresAt = keyExpiry issuedAt body.ttlSeconds) ∧
      ∀ issuedAt, view.expiresAt = keyExpiry issuedAt body.ttlSeconds →
        ∀ recordOrgId recordAgentId,
          (Allows settings (authRun settings server db events).state rawKey recordOrgId
              recordAgentId ↔
            recordOrgId = key.orgId ∧ key.revokedAt = none ∧
              (body.ttlSeconds = some 0 ∨
                body.InTime issuedAt (authRun settings server db events).state.server.now) ∧
              (body.InScope (authRun settings server db events).state key.orgId recordAgentId ∨
                (body.NamesNobody ∧ (authRun settings server db events).state.HasAgent key.orgId
                  recordAgentId))) ∧
          ((Allows settings (authRun settings server db events).state rawKey recordOrgId
                recordAgentId ↔
              body.Grants (authRun settings server db events).state key issuedAt recordOrgId
                recordAgentId) ↔
            ¬ body.Overgrants (authRun settings server db events).state key issuedAt recordOrgId
                recordAgentId) := by
  have hReached := authRun_reached settings server db events
  obtain ⟨w₀, hLater, hDelivers⟩ := (authRun_onCourse settings server db events).answered hDone
  obtain ⟨caller, asked, createdAt, n, hIssued⟩ := hDelivers rawKey view hReply
  obtain ⟨key, hFind, hSame⟩ := hIssued.found hReached hValid hLater
  have hRaw : rawKey ≠ "" := by
    rw [hIssued.raw]
    unfold NewApiKey.rawKey
    cases (body.newKey caller.principal asked).keyPrefix <;> simp [KeyPrefix.value]
  have hShown := hIssued.shown
  refine ⟨key, mem_of_find hFind, ?_, ?_, ⟨asked, ?_, ?_⟩, ?_⟩
  · rw [hShown]
    exact hSame.apiKeyId
  · rw [hSame.tokenHash, hIssued.raw]
    rfl
  · rw [hShown]
    exact hIssued.issued
  · rw [hShown]
    rfl
  · intro issuedAt hExpires recordOrgId recordAgentId
    have hStored : key.expiresAt = keyExpiry issuedAt body.ttlSeconds := by
      rw [← hExpires, hSame.expiresAt, hShown]
      rfl
    have hAllows : Allows settings (authRun settings server db events).state rawKey recordOrgId
        recordAgentId ↔
        recordOrgId = key.orgId ∧ key.revokedAt = none ∧
          (body.ttlSeconds = some 0 ∨
            body.InTime issuedAt (authRun settings server db events).state.server.now) ∧
          (body.InScope (authRun settings server db events).state key.orgId recordAgentId ∨
            (body.NamesNobody ∧ (authRun settings server db events).state.HasAgent key.orgId
              recordAgentId)) := by
      rw [allows_iff hRaw hFind, active_iff hStored, covers_iff hSame hIssued.oneScope]
      exact ⟨fun ⟨⟨hRevoked, hTime⟩, hOrg, hScope⟩ => ⟨hOrg, hRevoked, hTime, hScope⟩,
        fun ⟨hOrg, hRevoked, hTime, hScope⟩ => ⟨⟨hRevoked, hTime⟩, hOrg, hScope⟩⟩
    refine ⟨hAllows, ?_⟩
    rw [hAllows]
    exact grants_iff issuedAt recordOrgId recordAgentId

namespace Sample

/-- Two agents are registered. -/
def agentServer : World where
  clock := 1000 * 1000000
  db :=
    { agents := [{ agentId := "x", orgId := demoOrgId, status := .active },
        { agentId := "y", orgId := demoOrgId, status := .active }]
      agentKeys := [] }

def ownerHttp : Http := { cookies := [("shield_session", "one")] }

/-- An owner asks for a key. -/
def keyRequest (body : IssueApiKeyRequest) : List (Event (authService authSettings)) :=
  .request (Request.issueApiKey ownerHttp body) :: steps 0 20

def issued (body : IssueApiKeyRequest) : Pool (authService authSettings) :=
  authRun authSettings agentServer (signedInDb firstSession) (keyRequest body)

def issuedAnswers (body : IssueApiKeyRequest) : List (Request × Response) := (issued body).answers

/-- The text of the key that is issued. -/
def issuedText : String := "as_live_ttttttttttttttttt"

/-- The answer to a request that names one agent, or none in an empty list. -/
def issuedView (agentId : Option String) : ApiKeyView where
  apiKeyId := "uuuuuuuuuuuuuuuuu"
  displayName := ""
  keyPrefix := .live
  agentId := agentId
  agentIdAllowlist := none
  createdAt := 1000
  createdBy := "u"
  expiresAt := none
  lastUsedAt := none
  revokedAt := none

theorem agent_answered : (Request.issueApiKey ownerHttp { agentId := "x" },
    { reply := .apiKey issuedText (issuedView "x") }) ∈ issuedAnswers { agentId := "x" } := by
  decide +kernel

theorem nobody_answered : (Request.issueApiKey ownerHttp { agentIdAllowlist := some [] },
    { reply := .apiKey issuedText (issuedView none) }) ∈
      issuedAnswers { agentIdAllowlist := some [] } := by
  decide +kernel

theorem firstDb_valid : (signedInDb firstSession).Valid authPrim :=
  signedInDb_valid (by simp [KeyUnique, firstSession]) (by simp [KeyUnique, firstSession])

end Sample

/-- The key for one agent allows the records of that agent, and of no other. -/
theorem issued_key_allows_sample :
    Allows Sample.authSettings (Sample.issued { agentId := "x" }).state Sample.issuedText
        demoOrgId "x" ∧
      ¬ Allows Sample.authSettings (Sample.issued { agentId := "x" }).state Sample.issuedText
        demoOrgId "y" := by
  obtain ⟨key, hKey, -, -, -, hAll⟩ := issued_key_allows Sample.authSettings Sample.agentServer
    (Sample.signedInDb Sample.firstSession) Sample.firstDb_valid
    (Sample.keyRequest { agentId := "x" }) Sample.ownerHttp { agentId := "x" }
    { reply := .apiKey Sample.issuedText (Sample.issuedView "x") } Sample.agent_answered
    Sample.issuedText (Sample.issuedView "x") rfl
  have hKeys : ∀ key ∈ (Sample.issued { agentId := "x" }).state.db.apiKeys,
      key.orgId = demoOrgId ∧ key.revokedAt = none := by decide +kernel
  obtain ⟨hOrg, hRevoked⟩ := hKeys key hKey
  have hInTime : IssueApiKeyRequest.InTime { agentId := "x" } 1000
      (Sample.issued { agentId := "x" }).state.server.now := by
    intro ttl hTtl
    cases hTtl
  constructor
  · exact (hAll 1000 rfl demoOrgId "x").1.2
      ⟨hOrg.symm, hRevoked, .inr hInTime, .inl (.inr (.inl rfl))⟩
  · intro hAllows
    rcases ((hAll 1000 rfl demoOrgId "y").1.1 hAllows).2.2.2 with
      (⟨hNone, -⟩ | hSome | ⟨allowlist, hSome, -⟩) | ⟨⟨hNone, -⟩, -⟩
    · cases hNone
    · exact absurd hSome (by decide)
    · cases hSome
    · cases hNone

/-- **An empty allowlist is worth the organisation.**  The request names nobody, and its
key allows a record of an agent of the organisation. -/
theorem empty_allowlist_allows :
    Allows Sample.authSettings (Sample.issued { agentIdAllowlist := some [] }).state
        Sample.issuedText demoOrgId "x" ∧
      ¬ ∀ (settings : AuthSettings) (server : World) (db : AuthDb), db.Valid settings.prim →
        ∀ (events : List (Event (authService settings))) (http : Http)
        (body : IssueApiKeyRequest) (response : Response),
        (Request.issueApiKey http body, response) ∈
          (authRun settings server db events).answers →
        ∀ rawKey view, response.reply = .apiKey rawKey view →
        ∃ key ∈ (authRun settings server db events).state.db.apiKeys,
          key.apiKeyId = view.apiKeyId ∧
          ∃ issuedAt ≤ view.createdAt, view.expiresAt = keyExpiry issuedAt body.ttlSeconds ∧
          ∀ recordOrgId recordAgentId,
            (Allows settings (authRun settings server db events).state rawKey recordOrgId
                recordAgentId ↔
              body.Grants (authRun settings server db events).state key issuedAt recordOrgId
                recordAgentId) := by
  have hAllows : Allows Sample.authSettings
      (Sample.issued { agentIdAllowlist := some [] }).state Sample.issuedText demoOrgId "x" := by
    have hFind : ∃ key ∈ (Sample.issued { agentIdAllowlist := some [] }).state.db.apiKeys,
        (Sample.issued { agentIdAllowlist := some [] }).state.db.findApiKey
          (Sample.authPrim.sha256Hex Sample.issuedText) = some key ∧
        key.active (Sample.issued { agentIdAllowlist := some [] }).state.server.now = true ∧
        key.orgId = demoOrgId ∧ key.agentId = none ∧ key.agentIdAllowlist = none := by
      decide +kernel
    obtain ⟨key, -, hFind, hActive, hOrg, hAgent, hList⟩ := hFind
    refine (allows_iff (by decide) hFind demoOrgId "x").2 ⟨hActive, hOrg.symm, ?_⟩
    have hThere : (Sample.issued { agentIdAllowlist := some [] }).state.HasAgent demoOrgId "x" := by
      unfold AuthWorld.HasAgent
      decide +kernel
    simp only [ApiKey.Covers, hAgent, hList, hOrg]
    exact hThere
  refine ⟨hAllows, fun hAll => ?_⟩
  obtain ⟨key, -, -, issuedAt, -, -, hRecords⟩ := hAll Sample.authSettings Sample.agentServer
    (Sample.signedInDb Sample.firstSession) Sample.firstDb_valid
    (Sample.keyRequest { agentIdAllowlist := some [] }) Sample.ownerHttp
    { agentIdAllowlist := some [] }
    { reply := .apiKey Sample.issuedText (Sample.issuedView none) } Sample.nobody_answered
    Sample.issuedText (Sample.issuedView none) rfl
  rcases ((hRecords demoOrgId "x").1 hAllows).scope with
    ⟨-, hNone, -⟩ | hSome | ⟨allowlist, hSome, hMem⟩
  · cases hNone
  · cases hSome
  · obtain rfl := Option.some.inj hSome
    cases hMem

end AgentShield.Auth
