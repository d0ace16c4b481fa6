import AgentShield.Auth.KeyScope
import AgentShield.Auth.SecondFactor

/-!
# What an administrator sees of other organisations

The admin routes take ids from the client.  The routes of invites and keys look for them
among the rows of the caller's organisation; the list of users, the list of sessions and the
revocation of a session do not, and reach the rows of every organisation
(`admin_isolation_iff`).
-/

namespace AgentShield.Auth

open AgentShield.Lib AgentShield.Sdk AgentShield.Server

/-! ## Rows of other organisations -/

/-- The user is a member of other organisations only. -/
def AuthDb.Foreign (db : AuthDb) (orgId userId : String) : Prop :=
  (∃ m ∈ db.memberships, m.userId = userId) ∧
    ∀ m ∈ db.memberships, m.userId = userId → m.orgId ≠ orgId

/-- The rows of other organisations are kept as they are; `foreign` are their users.  Rows of
the tables without an organisation belong to the organisation of their user. -/
structure KeepsForeign (orgId : String) (foreign : String → Prop) (db db' : AuthDb) : Prop where
  users : ∀ u ∈ db.users, foreign u.userId → u ∈ db'.users
  sessions : ∀ s ∈ db.sessions, foreign s.userId → s ∈ db'.sessions
  invites : ∀ i ∈ db.invites, i.orgId ≠ orgId → i ∈ db'.invites
  apiKeys : ∀ k ∈ db.apiKeys, k.orgId ≠ orgId → k ∈ db'.apiKeys

/-- The rows that a reply shows are rows of the organisation. -/
def Reply.ShowsOwn (orgId : String) (foreign : String → Prop) (db : AuthDb) : Reply → Prop
  | users us => ∀ u ∈ us, ¬ foreign u.userId
  | sessions rows => ∀ row ∈ rows, ¬ foreign row.userId
  | invite inviteId _ => ∃ i ∈ db.invites, i.inviteId = inviteId ∧ i.orgId = orgId
  | apiKey _ view => ∃ k ∈ db.apiKeys, k.apiKeyId = view.apiKeyId ∧ k.orgId = orgId
  | apiKeys views => ∀ view ∈ views, ∃ k ∈ db.apiKeys, view = viewOf k ∧ k.orgId = orgId
  | _ => True

/-- What a request of an administrator does to other organisations: it changes none of their
rows and shows none of them. -/
structure Isolated (orgId : String) (db : AuthDb) (w' : AuthWorld)
    (answer : Except Failure Response) : Prop where
  kept : KeepsForeign orgId (db.Foreign orgId) db w'.db
  shown : ∀ response, answer = .ok response →
    response.reply.ShowsOwn orgId (db.Foreign orgId) w'.db

/-- An error shows no row. -/
theorem Isolated.failed {orgId : String} {db : AuthDb} {w' : AuthWorld} {e : Failure}
    (h : KeepsForeign orgId (db.Foreign orgId) db w'.db) : Isolated orgId db w' (.error e) where
  kept := h
  shown _ hOk := absurd hOk nofun

section Keeps

variable {orgId : String} {foreign : String → Prop} {db db' db'' : AuthDb}

theorem KeepsForeign.refl (db : AuthDb) : KeepsForeign orgId foreign db db :=
  ⟨fun _ h _ => h, fun _ h _ => h, fun _ h _ => h, fun _ h _ => h⟩

theorem KeepsForeign.trans (h : KeepsForeign orgId foreign db db')
    (h' : KeepsForeign orgId foreign db' db'') : KeepsForeign orgId foreign db db'' where
  users u hu hForeign := h'.users u (h.users u hu hForeign) hForeign
  sessions s hs hForeign := h'.sessions s (h.sessions s hs hForeign) hForeign
  invites i hi hForeign := h'.invites i (h.invites i hi hForeign) hForeign
  apiKeys k hk hForeign := h'.apiKeys k (h.apiKeys k hk hForeign) hForeign

/-- A statement that does not change a row keeps it. -/
theorem mem_map_append {α : Type} {f : α → α} {rows new : List α} {x : α} (hx : x ∈ rows)
    (hSame : f x = x) : x ∈ rows.map f ++ new :=
  List.mem_append_left _ (List.mem_map.2 ⟨x, hx, hSame⟩)

/-- A statement that changes none of the rows. -/
theorem KeepsForeign.apply {st : Statement}
    (hUsers : ∀ u ∈ db.users, foreign u.userId → st.setUser u = u)
    (hSessions : ∀ s ∈ db.sessions, foreign s.userId → st.setSession s = s)
    (hInvites : ∀ i ∈ db.invites, i.orgId ≠ orgId → st.setInvite i = i)
    (hKeys : ∀ k ∈ db.apiKeys, k.orgId ≠ orgId → st.setApiKey k = k) :
    KeepsForeign orgId foreign db (db.apply st) where
  users u hu hForeign := mem_map_append hu (hUsers u hu hForeign)
  sessions s hs hForeign := mem_map_append hs (hSessions s hs hForeign)
  invites i hi hForeign := mem_map_append hi (hInvites i hi hForeign)
  apiKeys k hk hForeign := mem_map_append hk (hKeys k hk hForeign)

theorem KeepsForeign.audit (row : AuditRow) :
    KeepsForeign orgId foreign db (db.apply (.insertAudit row)) :=
  .apply (fun _ _ _ => rfl) (fun _ _ _ => rfl) (fun _ _ _ => rfl) fun _ _ _ => rfl

end Keeps

theorem Reply.ShowsOwn.later {orgId : String} {foreign : String → Prop} {db db' : AuthDb}
    {reply : Reply} (h : reply.ShowsOwn orgId foreign db)
    (hInvites : ∀ i ∈ db.invites, i ∈ db'.invites)
    (hKeys : ∀ k ∈ db.apiKeys, k ∈ db'.apiKeys) : reply.ShowsOwn orgId foreign db' := by
  cases reply with
  | invite inviteId expiresAt =>
      obtain ⟨i, hi, hSame⟩ := h
      exact ⟨i, hInvites i hi, hSame⟩
  | apiKey raw view =>
      obtain ⟨k, hk, hSame⟩ := h
      exact ⟨k, hKeys k hk, hSame⟩
  | apiKeys views =>
      intro view hView
      obtain ⟨k, hk, hSame⟩ := h view hView
      exact ⟨k, hKeys k hk, hSame⟩
  | _ => exact h

/-! ## An administrator's request -/

/-- An administrator in the enterprise mode has a session. -/
theorem admin_session {settings : AuthSettings} {w : AuthWorld} {http : Http} {caller : Caller}
    (hMode : settings.mode = .enterprise) (hCaller : callerOf settings w http = some caller)
    (hAdmin : caller.principal.isAdmin = true) :
    ∃ row user membership, caller = .session row user membership := by
  cases caller with
  | session row user membership => exact ⟨row, user, membership, rfl⟩
  | apiKey key => cases hAdmin
  | openMode =>
      unfold callerOf at hCaller
      simp only [hMode] at hCaller
      cases hFound : sessionOf settings w http with
      | none =>
          rw [hFound] at hCaller
          obtain ⟨key, -, hKey⟩ := Option.map_eq_some_iff.1 hCaller
          cases hKey
      | some found =>
          rw [hFound] at hCaller
          cases Option.some.inj hCaller
  | apiToken =>
      unfold callerOf at hCaller
      simp only [hMode] at hCaller
      cases hFound : sessionOf settings w http with
      | none =>
          rw [hFound] at hCaller
          obtain ⟨key, -, hKey⟩ := Option.map_eq_some_iff.1 hCaller
          cases hKey
      | some found =>
          rw [hFound] at hCaller
          cases Option.some.inj hCaller

section Request

variable {settings : AuthSettings} {w : AuthWorld} {http : Http} {row : Session} {user : User}
  {membership : Membership}

/-- The caller's own user is not a foreign one. -/
theorem SessionRows.own (h : SessionRows settings w http row user membership) :
    ¬ w.db.Foreign membership.orgId row.userId := by
  intro hForeign
  obtain ⟨hMember, hOwn⟩ := primaryMembership_mem h.member
  have hUser : user.userId = row.userId := by
    simpa using List.find?_some h.owner
  exact hForeign.2 membership hMember (hOwn.trans hUser) rfl

theorem SessionRows.row_mem (h : SessionRows settings w http row user membership) :
    row ∈ w.db.sessions := by
  obtain ⟨raw, -, hFind⟩ := h.cookie
  exact List.mem_of_find?_eq_some hFind

/-- Resolving the caller keeps the rows of others. -/
theorem SessionRows.stamped_keeps (h : SessionRows settings w http row user membership)
    (hValid : w.db.Valid settings.prim) :
    KeepsForeign membership.orgId (w.db.Foreign membership.orgId) w.db
      (w.stamped (.session row user membership)).db := by
  refine .apply (fun _ _ _ => rfl) (fun s hs hForeign => ?_) (fun _ _ _ => rfl) fun _ _ _ => rfl
  refine if_neg fun hSame => h.own ?_
  obtain rfl := hValid.sessionIds.eq hs h.row_mem hSame
  exact hForeign

/-- What is left of a request when its work is done: an audit row and the answer. -/
theorem isolated_audit {orgId : String} {db : AuthDb} {w₁ : AuthWorld} {a : AuditEvent}
    {reason : Reason} {response : Response}
    (hKept : KeepsForeign orgId (db.Foreign orgId) db w₁.db)
    (hShown : response.reply.ShowsOwn orgId (db.Foreign orgId) w₁.db) :
    Async.Ensures (Isolated orgId db)
      (do
        let _ ← insertAudit settings a reason
        return response) w₁ := by
  unfold insertAudit
  refine ensures_executeNow_bind (fun _ => ?_) fun c => .failed hKept
  refine ⟨hKept.trans (.audit _), fun response' hResponse => ?_⟩
  obtain rfl := Except.ok.inj hResponse
  refine hShown.later (fun i hi => ?_) fun k hk => ?_
  · exact mem_map_append hi rfl
  · exact mem_map_append hk rfl

/-- The audit row of a request leaves the sessions as they are. -/
theorem audit_sessions {w₁ : AuthWorld} {a : AuditEvent} {reason : Reason} {response : Response} :
    Async.Ensures (fun w' _ => w'.db.sessions = w₁.db.sessions)
      (do
        let _ ← insertAudit settings a reason
        return response) w₁ := by
  unfold insertAudit
  refine ensures_executeNow_bind (fun _ => ?_) fun c => rfl
  show w₁.db.sessions.map id ++ [] = w₁.db.sessions
  simp

/-- The condition under which an admin request reaches another organisation.  The list of
users and the two routes for sessions do not restrict their statements to the caller's
organisation. -/
def Leaks (w : AuthWorld) (orgId : String) : Request → Prop
  | .adminListUsers _ => ∃ u ∈ w.db.users, w.db.Foreign orgId u.userId
  | .adminListSessions _ userId =>
      w.db.Foreign orgId userId ∧ ∃ s ∈ w.db.sessions, s.userId = userId
  | .adminRevokeSession _ sessionId =>
      ∃ s ∈ w.db.sessions, s.sessionId = sessionId ∧ w.db.Foreign orgId s.userId ∧
        s.revokedAt ≠ some w.server.now
  | _ => False

theorem stamped_users :
    (w.stamped (.session row user membership)).db.users = w.db.users := by
  show w.db.users.map id ++ [] = w.db.users
  simp

/-- The check of the agents that a request names reads, and may end the request. -/
theorem ensures_assertApiKeyAgentScope_bind {Q : AuthWorld → Except Failure Response → Prop}
    {w₁ : AuthWorld} {p : Principal} {body : IssueApiKeyRequest}
    {next : Unit → AuthHandler Response} (hError : ∀ e, Q w₁ (.error e))
    (h : Async.Ensures Q (next ()) w₁) :
    Async.Ensures Q (assertApiKeyAgentScope p body >>= next) w₁ := by
  unfold assertApiKeyAgentScope
  by_cases hNone : body.requested = []
  · rw [if_pos hNone]
    exact h
  · rw [if_neg hNone, Async.bind_assoc']
    exact Async.ensures_read_bind.2
      (Async.ensures_raiseIf_bind.2 ⟨fun _ => hError _, fun _ => h⟩)

section Routes

variable (hRows : SessionRows settings w http row user membership)
  (hCaller : callerOf settings w http = some (.session row user membership))
  (hValid : w.db.Valid settings.prim)

include hRows hCaller hValid

/-- A request that is refused for the caller's role keeps the rows of others. -/
theorem isolated_requireRole {roles : List Role} {route : Route}
    {next : Caller → AuthHandler Response}
    (h : Async.Ensures (Isolated membership.orgId w.db) (next (.session row user membership))
      (w.stamped (.session row user membership))) :
    Async.Ensures (Isolated membership.orgId w.db)
      (requireRole settings roles (http.to route) >>= next) w := by
  have hHere : callerOf settings w (http.to route) = some (.session row user membership) := hCaller
  exact ensures_requireRole_bind hHere (fun _ => .failed (hRows.stamped_keeps hValid)) h

theorem isolated_adminChangeRole (userId : String) (role : Role) :
    Async.Ensures (Isolated membership.orgId w.db)
      (dispatch settings (.adminChangeRole http userId role)) w := by
  refine isolated_requireRole hRows hCaller hValid ?_
  have hKept := hRows.stamped_keeps hValid
  unfold changeRole
  refine ensures_execute_bind (fun _ => ?_) fun c => .failed hKept
  refine isolated_audit (hKept.trans ?_) trivial
  exact .apply (fun _ _ _ => rfl) (fun _ _ _ => rfl) (fun _ _ _ => rfl) fun _ _ _ => rfl

theorem isolated_adminInvite (body : AdminInviteRequest) :
    Async.Ensures (Isolated membership.orgId w.db)
      (dispatch settings (.adminInvite http body)) w := by
  refine isolated_requireRole hRows hCaller hValid ?_
  have hKept := hRows.stamped_keeps hValid
  refine Async.ensures_read_bind.2 ?_
  refine ensures_executeNow_bind (fun _ => ?_) fun c => .failed hKept
  refine Async.ensures_write_bind.2 (isolated_audit (hKept.trans ?_) ?_)
  · exact .apply (fun _ _ _ => rfl) (fun _ _ _ => rfl) (fun _ _ _ => rfl) fun _ _ _ => rfl
  · exact ⟨_, List.mem_append_right _ (List.mem_singleton_self _), rfl, rfl⟩

theorem isolated_listApiKeys :
    Async.Ensures (Isolated membership.orgId w.db) (dispatch settings (.listApiKeys http)) w := by
  refine isolated_requireRole hRows hCaller hValid ?_
  refine ⟨hRows.stamped_keeps hValid, fun response hResponse => ?_⟩
  obtain rfl := Except.ok.inj hResponse
  intro view hView
  obtain ⟨key, hKey, rfl⟩ := List.mem_map.1 hView
  obtain ⟨hMem, hOrg⟩ := List.mem_filter.1 hKey
  exact ⟨key, hMem, rfl, of_decide_eq_true hOrg⟩

theorem isolated_issueApiKey (body : IssueApiKeyRequest) :
    Async.Ensures (Isolated membership.orgId w.db)
      (dispatch settings (.issueApiKey http body)) w := by
  refine isolated_requireRole hRows hCaller hValid ?_
  have hKept := hRows.stamped_keeps hValid
  refine ensures_assertApiKeyAgentScope_bind (fun _ => .failed hKept) ?_
  refine Async.ensures_read_bind.2 ?_
  unfold issueKey
  simp only [Async.bind_assoc']
  refine Async.ensures_raiseIf_bind.2 ⟨fun _ => .failed hKept, fun _ => ?_⟩
  refine Async.ensures_read_bind.2 ?_
  refine ensures_execute_bind (fun _ => ?_) fun c => .failed hKept
  refine isolated_audit (hKept.trans ?_) ?_
  · exact .apply (fun _ _ _ => rfl) (fun _ _ _ => rfl) (fun _ _ _ => rfl) fun _ _ _ => rfl
  · exact ⟨_, List.mem_append_right _ (List.mem_singleton_self _), rfl, rfl⟩

/-- The key that is revoked is one of the organisation, and no other key has its id. -/
theorem isolated_revokeApiKey (apiKeyId : String) :
    Async.Ensures (Isolated membership.orgId w.db)
      (dispatch settings (.revokeApiKey http apiKeyId)) w := by
  refine isolated_requireRole hRows hCaller hValid ?_
  have hKept := hRows.stamped_keeps hValid
  have hKeys : (w.stamped (.session row user membership)).db.apiKeys = w.db.apiKeys := by
    show w.db.apiKeys.map id ++ [] = w.db.apiKeys
    simp
  refine Async.ensures_read_bind.2 ?_
  refine Async.ensures_raiseIf_bind.2 ⟨fun _ => .failed hKept, fun hOwn => ?_⟩
  unfold revokeKey
  refine ensures_executeNow_bind (fun _ => ?_) fun c => .failed hKept
  refine isolated_audit (hKept.trans ?_) trivial
  refine .apply (fun _ _ _ => rfl) (fun _ _ _ => rfl) (fun _ _ _ => rfl) fun k hk hForeign => ?_
  refine if_neg fun hSame => hForeign ?_
  obtain ⟨own, hMem, hId⟩ := not_not.1 hOwn
  obtain ⟨hOwnKey, hOrg⟩ := List.mem_filter.1 hMem
  rw [hKeys] at hk hOwnKey
  have hEq : k = own := hValid.apiKeyIds.eq hk hOwnKey (hSame.trans hId.symm)
  rw [hEq]
  exact of_decide_eq_true hOrg

/-! ### The routes that look at all rows -/

theorem isolated_adminListUsers_iff
    (hRole : (Caller.session row user membership).principal.hasRole adminRoles = true) :
    Async.Ensures (Isolated membership.orgId w.db) (dispatch settings (.adminListUsers http)) w ↔
      ¬ Leaks w membership.orgId (.adminListUsers http) := by
  unfold Async.Ensures
  show Isolated _ _ (Async.run (adminListUsers settings (http.to .adminListUsers)) w).1
    (Async.run (adminListUsers settings (http.to .adminListUsers)) w).2 ↔ _
  rw [run_adminListUsers hCaller hRole]
  constructor
  · rintro h ⟨u, hu, hForeign⟩
    have hShown := h.shown _ rfl
    have hListed : u ∈ (w.stamped (.session row user membership)).db.users := by
      rw [stamped_users]
      exact hu
    exact hShown _ (List.mem_map_of_mem hListed) hForeign
  · intro h
    refine ⟨hRows.stamped_keeps hValid, fun response hResponse => ?_⟩
    obtain rfl := Except.ok.inj hResponse
    intro shown hMem hForeign
    obtain ⟨u, hu, rfl⟩ := List.mem_map.1 hMem
    rw [stamped_users] at hu
    exact h ⟨u, hu, hForeign⟩

/-- A foreign session after the caller has been resolved is one from before. -/
theorem stamped_foreign {s : Session}
    (hs : s ∈ (w.stamped (.session row user membership)).db.sessions)
    (hForeign : w.db.Foreign membership.orgId s.userId) : s ∈ w.db.sessions := by
  rcases List.mem_append.1 hs with hOld | hNew
  · obtain ⟨old, hMem, rfl⟩ := List.mem_map.1 hOld
    rw [Statement.setSession_userId] at hForeign
    have hOther : ¬ old.sessionId = row.sessionId := by
      intro hSame
      obtain rfl := hValid.sessionIds.eq hMem hRows.row_mem hSame
      exact hRows.own hForeign
    have hKept : (Statement.touchSession w.server.now row.sessionId).setSession old = old :=
      if_neg hOther
    rw [hKept]
    exact hMem
  · cases hNew

theorem isolated_adminListSessions_iff (userId : String)
    (hRole : (Caller.session row user membership).principal.hasRole adminRoles = true) :
    Async.Ensures (Isolated membership.orgId w.db)
        (dispatch settings (.adminListSessions http userId)) w ↔
      ¬ Leaks w membership.orgId (.adminListSessions http userId) := by
  have hHere : callerOf settings w (http.to .adminListSessions) =
      some (.session row user membership) := hCaller
  refine (ensures_requireRole_ok_bind hHere hRole).trans ?_
  refine Async.ensures_read_bind.trans ?_
  constructor
  · rintro h ⟨hForeign, s, hs, rfl⟩
    have hShown := h.shown _ rfl
    have hListed : s ∈ (w.stamped (.session row user membership)).db.sessions :=
      (hRows.stamped_keeps hValid).sessions s hs hForeign
    exact hShown (adminSessionRow s)
      (List.mem_map_of_mem (List.mem_filter.2 ⟨hListed, by simp⟩)) hForeign
  · intro h
    refine ⟨hRows.stamped_keeps hValid, fun response hResponse => ?_⟩
    obtain rfl := Except.ok.inj hResponse
    intro shown hMem hForeign
    obtain ⟨s, hs, rfl⟩ := List.mem_map.1 hMem
    obtain ⟨hListed, hOwner⟩ := List.mem_filter.1 hs
    obtain rfl := of_decide_eq_true hOwner
    exact h ⟨hForeign, s, stamped_foreign hRows hCaller hValid hListed hForeign, rfl⟩

theorem isolated_adminRevokeSession_iff (sessionId : String)
    (hRole : (Caller.session row user membership).principal.hasRole adminRoles = true) :
    Async.Ensures (Isolated membership.orgId w.db)
        (dispatch settings (.adminRevokeSession http sessionId)) w ↔
      ¬ Leaks w membership.orgId (.adminRevokeSession http sessionId) := by
  have hHere : callerOf settings w (http.to .adminRevokeSession) =
      some (.session row user membership) := hCaller
  refine (ensures_requireRole_ok_bind hHere hRole).trans ?_
  unfold revokeSession
  refine (ensures_executeNow_ok_bind rfl).trans ?_
  constructor
  · rintro h ⟨s, hs, hId, hForeign, hNotYet⟩
    have hThere := h.kept.sessions s hs hForeign
    rw [audit_sessions] at hThere
    rcases List.mem_append.1 hThere with hOld | hNew
    · obtain ⟨old, -, hSet⟩ := List.mem_map.1 hOld
      have hSameId := Statement.setSession_sessionId
        (.revokeSession w.server.now sessionId) old
      have hRevoked : (Statement.revokeSession w.server.now sessionId).setSession old =
          { old with revokedAt := some w.server.now } :=
        if_pos (by rw [← hSameId]; exact (congrArg Session.sessionId hSet).trans hId)
      have hNow : s = { old with revokedAt := some w.server.now } := hSet.symm.trans hRevoked
      exact hNotYet (congrArg Session.revokedAt hNow)
    · cases hNew
  · intro h
    refine isolated_audit ((hRows.stamped_keeps hValid).trans ?_) trivial
    refine .apply (fun _ _ _ => rfl) (fun s hs hForeign => ?_) (fun _ _ _ => rfl)
      fun _ _ _ => rfl
    by_cases hId : s.sessionId = sessionId
    · have hBefore := stamped_foreign hRows hCaller hValid hs hForeign
      have hRevoked : s.revokedAt = some w.server.now := by
        by_contra hNotYet
        exact h ⟨s, hBefore, hId, hForeign, hNotYet⟩
      show (if s.sessionId = sessionId then { s with revokedAt := some w.server.now } else s) = s
      rw [if_pos hId, ← hRevoked]
    · exact if_neg hId

/-- Whatever an administrator asks for stays in the organisation unless it leaks.  Route by
route: the three that leak are those of the condition, and the others restrict their
statements to the caller's organisation. -/
theorem isolated_iff {req : Request} {roles : List Role} (hAdmin : req.admin? = some (http, roles))
    (hRole : (Caller.session row user membership).principal.hasRole adminRoles = true) :
    Async.Ensures (Isolated membership.orgId w.db) (dispatch settings req) w ↔
      ¬ Leaks w membership.orgId req := by
  have hKeeps : ∀ {req : Request}, (∀ h : Leaks w membership.orgId req, False) →
      Async.Ensures (Isolated membership.orgId w.db) (dispatch settings req) w →
      (Async.Ensures (Isolated membership.orgId w.db) (dispatch settings req) w ↔
        ¬ Leaks w membership.orgId req) :=
    fun hNone hIsolated => iff_of_true hIsolated hNone
  cases req with
  | adminListUsers =>
      cases hAdmin
      exact isolated_adminListUsers_iff hRows hCaller hValid hRole
  | adminListSessions _ userId =>
      cases hAdmin
      exact isolated_adminListSessions_iff hRows hCaller hValid userId hRole
  | adminRevokeSession _ sessionId =>
      cases hAdmin
      exact isolated_adminRevokeSession_iff hRows hCaller hValid sessionId hRole
  | adminChangeRole _ userId role =>
      cases hAdmin
      exact hKeeps (fun h => h) (isolated_adminChangeRole hRows hCaller hValid userId role)
  | adminInvite _ body =>
      cases hAdmin
      exact hKeeps (fun h => h) (isolated_adminInvite hRows hCaller hValid body)
  | issueApiKey _ body =>
      cases hAdmin
      exact hKeeps (fun h => h) (isolated_issueApiKey hRows hCaller hValid body)
  | listApiKeys =>
      cases hAdmin
      exact hKeeps (fun h => h) (isolated_listApiKeys hRows hCaller hValid)
  | revokeApiKey _ apiKeyId =>
      cases hAdmin
      exact hKeeps (fun h => h) (isolated_revokeApiKey hRows hCaller hValid apiKeyId)
  | _ => cases hAdmin

end Routes

end Request

/-- **What stays in an organisation.**  In every state of every run, an administrator's
request leaves the rows of other organisations alone and unseen exactly when it neither lists
their users or sessions nor revokes one of their sessions. -/
theorem admin_isolation_iff (settings : AuthSettings) (server : World) (db : AuthDb)
    (hValid : db.Valid settings.prim) (events : List (Event (authService settings)))
    (req : Request) (http : Http) (roles : List Role) (hAdmin : req.admin? = some (http, roles))
    (caller : Caller)
    (hCaller : callerOf settings (authRun settings server db events).state http = some caller)
    (hRole : caller.principal.isAdmin = true) :
    Async.Ensures (Isolated caller.principal.orgId (authRun settings server db events).state.db)
        (handle settings req) (authRun settings server db events).state ↔
      ¬ (settings.mode = .enterprise ∧
        Leaks (authRun settings server db events).state caller.principal.orgId req) := by
  have hReached := authRun_reached settings server db events
  by_cases hMode : settings.mode = .enterprise
  · obtain ⟨row, user, membership, rfl⟩ := admin_session hMode hCaller hRole
    have hRows := sessionOf_some (callerOf_session hCaller).2
    have hHasRole : (Caller.session row user membership).principal.hasRole adminRoles = true := by
      simpa [Principal.hasRole, Caller.principal] using isAdmin_iff.1 hRole
    have hIff := isolated_iff hRows hCaller (hReached.valid hValid) hAdmin hHasRole
    unfold Async.Ensures
    rw [run_handle hMode]
    refine hIff.trans (not_congr ?_)
    exact ⟨fun h => ⟨hMode, h⟩, fun h => h.2⟩
  · refine iff_of_true ?_ fun h => hMode h.1
    have hRoute : req.route ≠ .seedAdmin ∧ req.route ≠ .otherRouter := by
      cases req <;> cases hAdmin <;> constructor <;> intro hRoute <;> cases hRoute
    unfold handle
    refine Async.ensures_raiseIf_bind.2 ⟨fun _ => .failed (.refl _), fun hThere => ?_⟩
    exact absurd ⟨hMode, hRoute⟩ hThere

namespace Sample

/-- A user of another organisation. -/
def stranger : User := { user with userId := "v", email := "other" }

/-- The tables of two organisations, with a session of the stranger. -/
def twoOrgsDb : AuthDb :=
  { signedInDb firstSession with
    organizations := [demoOrgId, "other-org"]
    users := [user, stranger]
    memberships :=
      [{ userId := "u", orgId := demoOrgId, role := .orgOwner, joinedAt := 0 },
       { userId := "v", orgId := "other-org", role := .orgOwner, joinedAt := 0 }]
    sessions := [session "a" "one", { session "b" "two" with userId := "v" }] }

theorem twoOrgsDb_valid : twoOrgsDb.Valid authPrim := by
  constructor <;> simp [KeyUnique, twoOrgsDb, signedInDb, authDb, AuthDb.hasUser, user, stranger,
    session, resetToken, authPrim]

/-- The state of the two organisations. -/
def twoOrgs : AuthWorld := (authRun authSettings authServer twoOrgsDb []).state

/-- The owner of the first organisation. -/
def ownerCaller : Caller :=
  .session (session "a" "one") user
    { userId := "u", orgId := demoOrgId, role := .orgOwner, joinedAt := 0 }

theorem ownerCaller_resolved : callerOf authSettings twoOrgs ownerHttp = some ownerCaller := by
  decide +kernel

theorem stranger_foreign : twoOrgsDb.Foreign demoOrgId "v" := by
  refine ⟨⟨_, List.mem_cons_of_mem _ (List.mem_singleton_self _), rfl⟩, ?_⟩
  decide

end Sample

/-- Listing the keys shows none of the other organisation. -/
theorem admin_isolation_sample :
    Async.Ensures (Isolated demoOrgId Sample.twoOrgsDb)
      (handle Sample.authSettings (.listApiKeys Sample.ownerHttp)) Sample.twoOrgs :=
  (admin_isolation_iff Sample.authSettings Sample.authServer Sample.twoOrgsDb
    Sample.twoOrgsDb_valid [] (.listApiKeys Sample.ownerHttp) Sample.ownerHttp adminRoles rfl
    Sample.ownerCaller Sample.ownerCaller_resolved rfl).2 fun h => h.2

/-- **An administrator revokes a session of another organisation.** -/
theorem foreign_session_revoked :
    ((Async.run (handle Sample.authSettings (.adminRevokeSession Sample.ownerHttp "b"))
        Sample.twoOrgs).1.db.findSession "b").map (·.revokedAt) = some (some 1000) ∧
      ¬ ∀ (settings : AuthSettings) (server : World) (db : AuthDb), db.Valid settings.prim →
        ∀ (events : List (Event (authService settings))) (req : Request) (http : Http)
          (roles : List Role), req.admin? = some (http, roles) → ∀ caller,
          callerOf settings (authRun settings server db events).state http = some caller →
          caller.principal.isAdmin = true →
          Async.Ensures
            (Isolated caller.principal.orgId (authRun settings server db events).state.db)
            (handle settings req) (authRun settings server db events).state := by
  refine ⟨by decide +kernel, fun hAll => ?_⟩
  have hIsolated := hAll Sample.authSettings Sample.authServer Sample.twoOrgsDb
    Sample.twoOrgsDb_valid [] (.adminRevokeSession Sample.ownerHttp "b") Sample.ownerHttp
    adminRoles rfl Sample.ownerCaller Sample.ownerCaller_resolved rfl
  have hThere := hIsolated.kept.sessions { Sample.session "b" "two" with userId := "v" }
    (List.mem_cons_of_mem _ (List.mem_singleton_self _)) Sample.stranger_foreign
  exact absurd hThere (by decide +kernel)

end AgentShield.Auth
