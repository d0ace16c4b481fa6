import AgentShield.Auth.History

/-!
# Revocation is permanent

A revoked session or key keeps its row, its identifier and its mark, and so does a consumed
token or invite: no statement clears a mark, deletes a row, or gives a row the identifier of
another.  What a session does not keep is its cookie, which a rotation replaces even when
the session is revoked; the cookie that it had is then free, and only a second draw of the
same random text could give it to another session.
-/

namespace AgentShield.Auth

open AgentShield.Lib AgentShield.Sdk AgentShield.Server

/-! ## Marks -/

namespace Statement

variable (st : Statement)

/-- No statement takes a revocation back. -/
theorem setSession_revoked {s : Session} (h : s.revokedAt ≠ none) :
    (st.setSession s).revokedAt ≠ none := by
  cases st <;> simp only [setSession] <;> first | exact h | (split <;> simp [h])

/-- No statement makes a used token fresh. -/
theorem setToken_consumed {t : TokenRow} (h : t.consumedAt ≠ none) :
    (st.setToken t).consumedAt ≠ none := by
  cases st <;> simp only [setToken] <;> first | exact h | (split <;> simp [h])

/-- No statement makes a used invite fresh. -/
theorem setInvite_consumed {i : Invite} (h : i.consumedAt ≠ none) :
    (st.setInvite i).consumedAt ≠ none := by
  cases st <;> simp only [setInvite] <;> first | exact h | (split <;> simp [h])

/-- No statement revives a revoked key. -/
theorem setApiKey_revoked {k : ApiKey} (h : k.revokedAt ≠ none) :
    (st.setApiKey k).revokedAt ≠ none := by
  cases st <;> simp only [setApiKey] <;> first | exact h | (split <;> simp [h])

end Statement

section Marks

variable {settings : AuthSettings} {s w : AuthWorld}

/-- A session that is revoked is so in every later state, and so is every row with its id. -/
theorem Reached.session_revoked (h : Reached settings s w) (hValid : s.db.Valid settings.prim)
    {row : Session} (hRow : row ∈ s.db.sessions) (hRevoked : row.revokedAt ≠ none) :
    AllMarked (·.revokedAt ≠ none) (·.sessionId = row.sessionId) w.db.sessions := by
  refine h.tables (I := fun db => AllMarked (·.revokedAt ≠ none)
    (·.sessionId = row.sessionId) db.sessions) ?_ ?_
  · exact AllMarked.of_unique hValid.sessionIds hRow hRevoked
  · intro w statement reason hWritten hChecked hOld
    obtain ⟨old, hMem, hId⟩ := hOld.exist
    refine hOld.add (fun x => by rw [statement.setSession_sessionId x])
      (fun _ => statement.setSession_revoked) fun new hNew hSame => ?_
    have hFresh := (AuthDb.constraints_addSession hChecked old hMem new hNew).1
    exact hFresh (hId.trans hSame.symm)

/-- A key is revoked under its identifier and under its hash. -/
theorem Reached.apiKey_revoked (h : Reached settings s w) (hValid : s.db.Valid settings.prim)
    {key : ApiKey} (hKey : key ∈ s.db.apiKeys) (hRevoked : key.revokedAt ≠ none) :
    AllMarked (·.revokedAt ≠ none) (·.apiKeyId = key.apiKeyId) w.db.apiKeys ∧
      AllMarked (·.revokedAt ≠ none) (·.tokenHash = key.tokenHash) w.db.apiKeys := by
  refine h.tables (I := fun db =>
    AllMarked (·.revokedAt ≠ none) (·.apiKeyId = key.apiKeyId) db.apiKeys ∧
      AllMarked (·.revokedAt ≠ none) (·.tokenHash = key.tokenHash) db.apiKeys) ?_ ?_
  · exact ⟨.of_unique hValid.apiKeyIds hKey hRevoked, .of_unique hValid.keyHashes hKey hRevoked⟩
  · intro w statement reason hWritten hChecked hOld
    have hFresh := AuthDb.constraints_addApiKey hChecked
    constructor
    · obtain ⟨old, hMem, hId⟩ := hOld.1.exist
      refine hOld.1.add (fun x => by rw [statement.setApiKey_apiKeyId x])
        (fun _ => statement.setApiKey_revoked) fun new hNew hSame => ?_
      exact (hFresh old hMem new hNew).1 (hId.trans hSame.symm)
    · obtain ⟨old, hMem, hHash⟩ := hOld.2.exist
      refine hOld.2.add (fun x => by rw [statement.setApiKey_tokenHash x])
        (fun _ => statement.setApiKey_revoked) fun new hNew hSame => ?_
      exact (hFresh old hMem new hNew).2 (hHash.trans hSame.symm)

/-- A used token is used in every later state. -/
theorem Reached.token_consumed (h : Reached settings s w) (hValid : s.db.Valid settings.prim)
    {token : TokenRow} (hToken : token ∈ s.db.tokens) (hConsumed : token.consumedAt ≠ none) :
    AllMarked (·.consumedAt ≠ none)
      (fun t => (t.kind, t.tokenHash) = (token.kind, token.tokenHash)) w.db.tokens := by
  refine h.tables (I := fun db => AllMarked (·.consumedAt ≠ none)
    (fun t => (t.kind, t.tokenHash) = (token.kind, token.tokenHash)) db.tokens) ?_ ?_
  · exact AllMarked.of_unique hValid.tokens hToken hConsumed
  · intro w statement reason hWritten hChecked hOld
    obtain ⟨old, hMem, hId⟩ := hOld.exist
    refine hOld.add (fun x => by rw [statement.setToken_kind x, statement.setToken_tokenHash x])
      (fun _ => statement.setToken_consumed) fun new hNew hSame => ?_
    exact AuthDb.constraints_addToken hChecked old hMem new hNew (hId.trans hSame.symm)

/-- A used invite is used in every later state. -/
theorem Reached.invite_consumed (h : Reached settings s w) (hValid : s.db.Valid settings.prim)
    {invite : Invite} (hInvite : invite ∈ s.db.invites) (hConsumed : invite.consumedAt ≠ none) :
    AllMarked (·.consumedAt ≠ none) (·.tokenHash = invite.tokenHash) w.db.invites := by
  refine h.tables (I := fun db => AllMarked (·.consumedAt ≠ none)
    (·.tokenHash = invite.tokenHash) db.invites) ?_ ?_
  · exact AllMarked.of_unique hValid.inviteTokens hInvite hConsumed
  · intro w statement reason hWritten hChecked hOld
    obtain ⟨old, hMem, hHash⟩ := hOld.exist
    refine hOld.add (fun x => by rw [statement.setInvite_tokenHash x])
      (fun _ => statement.setInvite_consumed) fun new hNew hSame => ?_
    exact (AuthDb.constraints_addInvite hChecked old hMem new hNew).2 (hHash.trans hSame.symm)

end Marks

/-! ## Cookies -/

/-- The random text of a cookie is never drawn twice, and no session of the tables has a
cookie that is still to be drawn. -/
structure FreshCookies (prim : AuthPrimitives) (db : AuthDb) : Prop where
  apart : ∀ n m, prim.sha256Hex (prim.token n) = prim.sha256Hex (prim.token m) → n = m
  unseen : ∀ row ∈ db.sessions, ∀ n, row.tokenHash ≠ prim.sha256Hex (prim.token n)

/-- The tables have a session for the cookie. -/
def AuthDb.HasCookie (db : AuthDb) (tokenHash : String) : Prop :=
  ∃ row ∈ db.sessions, row.tokenHash = tokenHash

/-- The hash of the random text with a number. -/
def DrawsToken (prim : AuthPrimitives) (n : Nat) (hash : String) : Prop :=
  hash = prim.sha256Hex (prim.token n)

/-- A cookie that is drawn afresh is drawn once and found in no row before. -/
theorem FreshCookies.once {prim : AuthPrimitives} {db : AuthDb} (h : FreshCookies prim db) :
    DrawnOnce db.HasCookie (DrawsToken prim) where
  apart hDraw hDraw' := h.apart _ _ (hDraw.symm.trans hDraw')
  unseen := by
    rintro n tokenHash ⟨row, hRow, rfl⟩
    exact h.unseen row hRow n

/-- The cookies that were in the tables at the start or have been drawn since. -/
def CookieIssued (prim : AuthPrimitives) (s w : AuthWorld) : String → Prop :=
  Issued s.db.HasCookie (DrawsToken prim) w.drawn

section Cookies

variable {settings : AuthSettings} {s w w' : AuthWorld}

/-- A cookie that is given out by a write is the one of the number of the write. -/
theorem setSession_cookie {statement : Statement} {n : Nat}
    (hFresh : statement.Fresh settings.prim n) (row : Session) :
    (statement.setSession row).tokenHash = row.tokenHash ∨
      (statement.setSession row).tokenHash = settings.prim.sha256Hex (settings.prim.token n) := by
  rcases statement.setSession_tokenHash (s := row) with hKeep | ⟨hash, csrf, now, rfl, hNew⟩
  · exact .inl hKeep
  · exact .inr (hNew.trans hFresh)

/-- A new session stands for the token that was drawn for it. -/
theorem addSession_cookie {statement : Statement} {n : Nat}
    (hFresh : statement.Fresh settings.prim n) :
    ∀ row ∈ statement.addSession,
      row.tokenHash = settings.prim.sha256Hex (settings.prim.token n) := by
  intro row hRow
  cases statement <;> simp only [Statement.addSession, List.mem_singleton, List.not_mem_nil]
    at hRow
  subst hRow
  exact hFresh.2

/-- Every cookie of the tables has been issued. -/
theorem Reached.cookies_issued (h : Reached settings s w) :
    ∀ row ∈ w.db.sessions, CookieIssued settings.prim s w row.tokenHash := by
  refine h.invariant (I := fun w => ∀ row ∈ w.db.sessions,
    CookieIssued settings.prim s w row.tokenHash) ?_ ?_ ?_
  · exact fun row hRow => .inl ⟨row, hRow, rfl⟩
  · intro w w' hDb _ _ hDrawn hOld row hRow
    rw [hDb] at hRow
    exact (hOld row hRow).mono hDrawn
  · intro w statement reason db hWritten hOld row hRow
    obtain ⟨-, rfl⟩ := AuthDb.execute_ok hWritten.run
    have hNew : CookieIssued settings.prim s
        (w.wrote statement reason (w.db.apply statement))
        (settings.prim.sha256Hex (settings.prim.token w.drawn)) :=
      .inr ⟨w.drawn, by show w.drawn < w.drawn + 16; omega, rfl⟩
    rcases List.mem_append.1 hRow with hRow | hRow
    · obtain ⟨old, hMem, rfl⟩ := List.mem_map.1 hRow
      rcases setSession_cookie hWritten.fresh old with hKeep | hDraw
      · rw [hKeep]
        exact (hOld old hMem).mono (Nat.le_add_right _ _)
      · rw [hDraw]
        exact hNew
    · rw [addSession_cookie hWritten.fresh row hRow]
      exact hNew

/-- A cookie whose sessions are all revoked is never given to another session. -/
theorem Reached.cookie_dead {w₀ : AuthWorld} (h : Reached settings w w')
    (hFresh : FreshCookies settings.prim w₀.db) {tokenHash : String}
    (hIssued : CookieIssued settings.prim w₀ w tokenHash)
    (hDead : ∀ row ∈ w.db.sessions, row.tokenHash = tokenHash → row.revokedAt ≠ none) :
    ∀ row ∈ w'.db.sessions, row.tokenHash = tokenHash → row.revokedAt ≠ none := by
  refine h.tables (I := fun db => ∀ row ∈ db.sessions, row.tokenHash = tokenHash →
    row.revokedAt ≠ none) hDead ?_
  intro w₁ statement reason hWritten hChecked hOld row hRow hHash
  have hNotNew : ¬ DrawsToken settings.prim w₁.drawn tokenHash :=
    hIssued.not_drawn hFresh.once hWritten.reached.later.drawn
  rcases List.mem_append.1 hRow with hRow | hRow
  · obtain ⟨old, hMem, rfl⟩ := List.mem_map.1 hRow
    rcases setSession_cookie hWritten.fresh old with hKeep | hDraw
    · exact statement.setSession_revoked (hOld old hMem (hKeep.symm.trans hHash))
    · exact absurd (hHash.symm.trans hDraw) hNotNew
  · exact absurd (hHash.symm.trans (addSession_cookie hWritten.fresh row hRow)) hNotNew

end Cookies

/-! ## Lookups -/

section Lookups

variable {settings : AuthSettings} {W : AuthWorld → Prop}

/-- A lookup resolves a row of the tables that it has read, which is live when it looks at
the time. -/
theorem returns_lookupSession {raw : String} {row : Session}
    (h : Async.Returns W (lookupSession settings raw) (some row)) :
    ∃ w, W w ∧ row ∈ w.db.sessions ∧ row.tokenHash = settings.prim.sha256Hex raw ∧
      ∃ w', W w' ∧ row.active w'.server.now = true := by
  unfold lookupSession at h
  by_cases hEmpty : raw = ""
  · rw [if_pos hEmpty] at h
    cases h
  · rw [if_neg hEmpty] at h
    obtain ⟨w, hw, w', hw', hRow⟩ := h
    obtain ⟨hFind, hActive⟩ := Option.filter_eq_some_iff.1 hRow
    have hHash := List.find?_some hFind
    exact ⟨w, hw, mem_of_find hFind, by simpa using hHash, w', hw', hActive⟩

/-- An active session is not revoked. -/
theorem Session.active_revoked {row : Session} {t : Int} (h : row.active t = true) :
    row.revokedAt = none := by
  have hLive : row.revokedAt = none ∧ ¬ row.expiresAt < t := by simpa [active] using h
  exact hLive.1

/-- A key that a look-up answers with stood in some state that the program met, unrevoked. -/
theorem returns_lookupApiKey {raw : String} {row : ApiKey}
    (h : Async.Returns W (lookupApiKey settings raw) (some row)) :
    ∃ w, W w ∧ row ∈ w.db.apiKeys ∧ row.tokenHash = settings.prim.sha256Hex raw ∧
      row.revokedAt = none := by
  unfold lookupApiKey at h
  by_cases hEmpty : raw = ""
  · rw [if_pos hEmpty] at h
    cases h
  · rw [if_neg hEmpty] at h
    obtain ⟨w, hw, w', hw', hRow⟩ := h
    obtain ⟨hFind, hActive⟩ := Option.filter_eq_some_iff.1 hRow
    have hHash := List.find?_some hFind
    simp only [ApiKey.active, Bool.decide_and, Bool.and_eq_true, decide_eq_true_eq] at hActive
    exact ⟨w, hw, mem_of_find hFind, by simpa using hHash, hActive.1⟩

/-- A token that was consumed stood in some state that the program met, unused. -/
theorem returns_consume {kind : TokenKind} {raw : String} {row : TokenRow}
    (h : Async.Returns W (consume settings kind raw) (some row)) :
    ∃ w, W w ∧ row ∈ w.db.tokens ∧ row.kind = kind ∧
      row.tokenHash = settings.prim.sha256Hex raw ∧ row.consumedAt = none := by
  obtain ⟨w, hw, hNow⟩ := Async.returns_read_bind.1 h
  obtain ⟨w', hw', hNext⟩ := Async.returns_read_bind.1 hNow
  cases hFound : (w.db.findToken kind (settings.prim.sha256Hex raw)).filter
      (TokenRow.usable · w'.server.now) with
  | none =>
      simp only [hFound] at hNext
      cases hNext
  | some row' =>
      simp only [hFound] at hNext
      obtain ⟨n, -, hSame⟩ := Async.returns_bind.1 hNext
      obtain rfl := Option.some.inj hSame
      obtain ⟨hFind, hUsable⟩ := Option.filter_eq_some_iff.1 hFound
      have hKey := List.find?_some hFind
      simp only [decide_eq_true_eq] at hKey
      simp only [TokenRow.usable, Bool.decide_and, Bool.and_eq_true, decide_eq_true_eq] at hUsable
      exact ⟨w, hw, mem_of_find hFind, hKey.1, hKey.2, hUsable.1⟩

/-- A refused invite returns nothing. -/
theorem inviteFail_returns {α : Type} {ip userAgent inviteId : Option String} {reason : String}
    {a : α} : ¬ Async.Returns W (inviteFail settings ip userAgent inviteId reason) a := by
  intro h
  obtain ⟨n, -, hRaise⟩ := Async.returns_bind.1 h
  exact Async.returns_raise hRaise

/-- An invite that is accepted was found unconsumed. -/
theorem returns_acceptInvite {http : Http} {body : AcceptInviteRequest} {response : Response}
    (h : Async.Returns W (acceptInvite settings http body) response) :
    ∃ w, W w ∧ ∃ invite ∈ w.db.invites,
      invite.tokenHash = settings.prim.sha256Hex body.token ∧ invite.consumedAt = none := by
  obtain ⟨_, -, h⟩ := Async.returns_bind.1 h
  obtain ⟨_, -, h⟩ := Async.returns_bind.1 h
  obtain ⟨w, hw, h⟩ := Async.returns_read_bind.1 h
  cases hFound : w.db.findInvite (settings.prim.sha256Hex body.token) with
  | none =>
      simp only [hFound] at h
      exact absurd h inviteFail_returns
  | some invite =>
      simp only [hFound] at h
      obtain ⟨_, hChecked, -⟩ := Async.returns_bind.1 h
      have hHash := List.find?_some hFound
      refine ⟨w, hw, invite, mem_of_find hFound, by simpa using hHash, ?_⟩
      by_contra hConsumed
      unfold checkInvite at hChecked
      rw [if_pos hConsumed] at hChecked
      exact inviteFail_returns hChecked

end Lookups

/-! ## Every later lookup -/

/-- The worlds that a run comes to after its first events. -/
def After (settings : AuthSettings) (server : World) (db : AuthDb)
    (events : List (Event (authService settings))) (w : AuthWorld) : Prop :=
  ∃ later, w = (authRun settings server db (events ++ later)).state

/-- A state after a run can be reached from its end. -/
theorem After.reached {settings : AuthSettings} {server : World} {db : AuthDb}
    {events : List (Event (authService settings))} {w : AuthWorld}
    (h : After settings server db events w) :
    Reached settings (authRun settings server db events).state w := by
  obtain ⟨later, rfl⟩ := h
  exact authRun_append settings server db events later

/-- **Revocation is permanent.**  After any events, whatever follows them, no lookup resolves
what was revoked or consumed by then: neither the row of a session or key, under whatever
text, nor any row under its secret. -/
theorem revocation_permanent (settings : AuthSettings) (server : World) (db : AuthDb)
    (hValid : db.Valid settings.prim) (hFresh : FreshCookies settings.prim db)
    (events : List (Event (authService settings))) :
    (∀ row ∈ (authRun settings server db events).state.db.sessions, row.revokedAt ≠ none →
      ∀ raw found, Async.Returns (After settings server db events) (lookupSession settings raw)
          (some found) →
        found.sessionId ≠ row.sessionId ∧ settings.prim.sha256Hex raw ≠ row.tokenHash) ∧
    (∀ key ∈ (authRun settings server db events).state.db.apiKeys, key.revokedAt ≠ none →
      ∀ raw found, Async.Returns (After settings server db events) (lookupApiKey settings raw)
          (some found) →
        found.apiKeyId ≠ key.apiKeyId ∧ settings.prim.sha256Hex raw ≠ key.tokenHash) ∧
    (∀ token ∈ (authRun settings server db events).state.db.tokens, token.consumedAt ≠ none →
      ∀ raw found, Async.Returns (After settings server db events)
          (consume settings token.kind raw) (some found) →
        settings.prim.sha256Hex raw ≠ token.tokenHash) ∧
    (∀ invite ∈ (authRun settings server db events).state.db.invites, invite.consumedAt ≠ none →
      ∀ http body response, Async.Returns (After settings server db events)
          (acceptInvite settings http body) response →
        settings.prim.sha256Hex body.token ≠ invite.tokenHash) := by
  have hStart := authRun_reached settings server db events
  have hValid' := hStart.valid hValid
  refine ⟨?_, ?_, ?_, ?_⟩
  · intro row hRow hRevoked raw found hFound
    obtain ⟨w, hw, hMem, hHash, w', -, hActive⟩ := returns_lookupSession hFound
    have hLive := Session.active_revoked hActive
    constructor
    · intro hId
      exact (hw.reached.session_revoked hValid' hRow hRevoked).mark found hMem hId hLive
    · intro hRaw
      have hIssued := hStart.cookies_issued row hRow
      refine hw.reached.cookie_dead hFresh hIssued (fun other hOther hSame => ?_) found hMem
        (hHash.trans hRaw) hLive
      rw [hValid'.cookies.eq hOther hRow hSame]
      exact hRevoked
  · intro key hKey hRevoked raw found hFound
    obtain ⟨w, hw, hMem, hHash, hLive⟩ := returns_lookupApiKey hFound
    have hDead := hw.reached.apiKey_revoked hValid' hKey hRevoked
    exact ⟨fun hId => hDead.1.mark found hMem hId hLive,
      fun hRaw => hDead.2.mark found hMem (hHash.trans hRaw) hLive⟩
  · intro token hToken hConsumed raw found hFound hRaw
    obtain ⟨w, hw, hMem, hKind, hHash, hFree⟩ := returns_consume hFound
    have hDead := hw.reached.token_consumed hValid' hToken hConsumed
    exact hDead.mark found hMem (by rw [hKind, hHash, hRaw]) hFree
  · intro invite hInvite hConsumed http body response hAccepted hRaw
    obtain ⟨w, hw, found, hMem, hHash, hFree⟩ := returns_acceptInvite hAccepted
    have hDead := hw.reached.invite_consumed hValid' hInvite hConsumed
    exact hDead.mark found hMem (hHash.trans hRaw) hFree

namespace Sample

def authSettings : AuthSettings where
  prim := authPrim
  peppers := peppers
  fernetKeys := fernetKeys

def authServer : World where
  clock := 1000 * 1000000
  db := { agents := [], agentKeys := [] }

/-- A revoked session, and nothing else: not expired, but revoked before the time at which it
is shown. -/
def revokedSession : Session where
  sessionId := "s"
  userId := "u"
  tokenHash := "cookie"
  csrfToken := "csrf"
  createdAt := 0
  lastUsedAt := 0
  expiresAt := 5000
  revokedAt := some 500

def revokedDb : AuthDb := { sessions := [revokedSession] }

theorem revokedDb_valid : revokedDb.Valid authPrim := by
  constructor <;> simp [KeyUnique, revokedDb]

theorem revokedDb_fresh : FreshCookies authPrim revokedDb where
  apart _ _ h := authPrim_token h
  unseen row hRow n hSame := by
    obtain rfl : row = revokedSession := by simpa [revokedDb] using hRow
    have hText : "cookie".toList = List.replicate (n + 1) 't' := by
      rw [← String.toList_ofList (l := List.replicate (n + 1) 't')]
      exact congrArg String.toList hSame
    have hChar : 'c' ∈ List.replicate (n + 1) 't' := by
      rw [← hText]
      decide
    exact absurd (List.eq_of_mem_replicate hChar) (by decide)

end Sample

/-- The cookie of the revoked session resolves nothing in any run. -/
theorem revocation_permanent_sample :
    ¬ Async.Returns (After Sample.authSettings Sample.authServer Sample.revokedDb [])
      (lookupSession Sample.authSettings "cookie") (some Sample.revokedSession) := by
  intro hFound
  have hAll := revocation_permanent Sample.authSettings Sample.authServer Sample.revokedDb
    Sample.revokedDb_valid Sample.revokedDb_fresh []
  have hRow : Sample.revokedSession ∈ (authRun Sample.authSettings Sample.authServer
      Sample.revokedDb []).state.db.sessions := List.mem_singleton_self _
  exact (hAll.1 Sample.revokedSession hRow nofun "cookie" _ hFound).1 rfl

end AgentShield.Auth
