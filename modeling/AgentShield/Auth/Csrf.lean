import AgentShield.Auth.TenantIsolation
import AgentShield.Auth.IngestAuthorization
import AgentShield.Server.Forbidden

/-!
# Requests without the CSRF token of their session

`requireCsrf` is called by two routes, the refresh of a session and the change of a
password.  Every other state-changing route of both routers serves a session without its
token, unless it refuses the role of the user (`csrf_covers_iff`).  And where a request is
refused, resolving its caller has stamped the session before.
-/

namespace AgentShield.Auth

open AgentShield.Lib AgentShield.Sdk AgentShield.Server

/-! ## Requests to either router -/

inductive SiteRequest where
  | auth (req : Request)
  | main (http : Http) (req : MainRequest)

inductive SiteResponse where
  | auth (res : Response)
  | main (res : MainResponse)

/-- A request with the router that serves it. -/
def site (settings : SiteSettings) : SiteRequest → SiteHandler SiteResponse
  | .auth req => do
      let res ← onAuth (handle settings.auth req)
      return .auth res
  | .main http req => do
      let res ← mainRouter settings http req
      return .main res

/-- The HTTP request of a route that resolves its caller.  Signing up and in, resets,
verification links, recovery and invites are for requests without a session. -/
def Request.http? : Request → Option Http
  | signOut http => some (http.to .signOut)
  | getSession http => some (http.to .getSession)
  | sessionRefresh http => some (http.to .sessionRefresh)
  | passwordChange http _ => some (http.to .passwordChange)
  | emailVerifyRequest http => some (http.to .emailVerifyRequest)
  | totpSetup http => some (http.to .totpSetup)
  | totpConfirm http _ => some (http.to .totpConfirm)
  | totpDisable http _ => some (http.to .totpDisable)
  | adminListUsers http => some (http.to .adminListUsers)
  | adminListSessions http _ => some (http.to .adminListSessions)
  | adminRevokeSession http _ => some (http.to .adminRevokeSession)
  | adminChangeRole http _ _ => some (http.to .adminChangeRole)
  | adminInvite http _ => some (http.to .adminInvite)
  | issueApiKey http _ => some (http.to .issueApiKey)
  | listApiKeys http => some (http.to .listApiKeys)
  | revokeApiKey http _ => some (http.to .revokeApiKey)
  | _ => none

namespace SiteRequest

def http? : SiteRequest → Option Http
  | auth req => req.http?
  | main http req => some { http with method := req.method }

/-- What the request asks outside the server does not answer with 403. -/
def AppsOther (settings : SiteSettings) : SiteRequest → Prop
  | auth _ => True
  | main _ req => req.AppsOther settings.main

/-- The request is refused on its way to its work: its route asks for the CSRF token, or it
does not serve the role. -/
def Guarded (role : Role) : SiteRequest → Prop
  | auth (.sessionRefresh _) => True
  | auth (.passwordChange _ body) =>
      8 ≤ body.newPassword.length ∧ body.newPassword.length ≤ 256
  | auth req => ∃ http roles, req.admin? = some (http, roles) ∧ role ∉ roles
  | main _ _ => False

end SiteRequest

/-! ## Requests that are rejected -/

/-- What the routers store. -/
def AuthWorld.stored (w : AuthWorld) : AuthDb × World := (w.db, w.server)

/-- The answer is 403 and nothing that is stored has changed. -/
def Rejected {α : Type} (w : AuthWorld) (w' : AuthWorld) (r : Except Failure α) : Prop :=
  (∃ e, r = .error e ∧ e.forbidden) ∧ w'.stored = w.stored

namespace Site

def stored (s : Site) : (AuthDb × World) × List Epoch × List ExportModel :=
  (s.auth.stored, s.epochs, s.exports)

def Rejected {α : Type} (s s' : Site) (r : Except Failure α) : Prop :=
  (∃ e, r = .error e ∧ e.forbidden) ∧ s'.stored = s.stored

end Site

section Handlers

variable {settings : AuthSettings} {w : AuthWorld}

theorem other_apiError {status : Nat} {code : ErrorCode}
    {details : Option (List (String × Json))} (h : status ≠ 403) :
    (apiError status code details).Other := h

theorem raises_execute (prim : AuthPrimitives) (statement : Nat → Statement) (reason : Reason) :
    RaisesOther (execute prim statement reason) := by
  refine Async.Raises.call fun w e he => ?_
  cases hExecute : w.db.execute prim (statement w.drawn) with
  | ok db =>
      rw [hExecute] at he
      cases he
  | error c =>
      rw [hExecute] at he
      obtain rfl := Except.error.inj he
      exact id

theorem raises_executeNow (prim : AuthPrimitives) (statement : Int → Nat → Statement)
    (reason : Reason) : RaisesOther (executeNow prim statement reason) :=
  Async.Raises.read_bind fun _ => raises_execute _ _ _

/-- The last write of a handler, and its answer. -/
theorem raises_audit (a : AuditEvent) (reason : Reason) (response : Response) :
    RaisesOther (do
      let _ ← insertAudit settings a reason
      return response) :=
  Async.Raises.bind (raises_executeNow _ _ _) fun _ => Async.Raises.pure _

/-- A handler that answers with 403 to nothing rejects nothing. -/
theorem not_rejected {α : Type} {prog : AuthHandler α} (h : RaisesOther prog)
    (w w' : AuthWorld) : ¬ Async.Ensures (Rejected w) prog w' := by
  rintro ⟨⟨e, hRun, hForbidden⟩, -⟩
  exact h.run (Prod.ext rfl hRun) hForbidden

section Session

variable {http : Http} {row : Session} {user : User} {membership : Membership}

theorem apply_touchSession (db : AuthDb) (now : Int) (sessionId : String) :
    db.apply (.touchSession now sessionId) = { db with
      sessions := db.sessions.map (Statement.touchSession now sessionId).setSession } := by
  show AuthDb.mk (db.organizations ++ []) (db.users.map id ++ []) (db.memberships.map id ++ [])
    (_ ++ []) (db.tokens.map id ++ []) (db.invites.map id ++ [])
    (db.totpCredentials.filterMap some ++ []) (db.apiKeys.map id ++ []) (db.auditLog ++ []) = _
  simp

/-- Stamping a session changes the tables unless it has just been stamped, in the same
millisecond. -/
theorem stamped_stored_iff (hValid : w.db.Valid settings.prim) (hRow : row ∈ w.db.sessions) :
    (w.stamped (.session row user membership)).stored = w.stored ↔
      row.lastUsedAt = w.server.now := by
  have hSet : ∀ s : Session, (Statement.touchSession w.server.now row.sessionId).setSession s =
      if s.sessionId = row.sessionId then { s with lastUsedAt := w.server.now } else s :=
    fun _ => rfl
  have hStored : (w.stamped (.session row user membership)).stored =
      (w.db.apply (.touchSession w.server.now row.sessionId), w.server) := rfl
  rw [hStored, apply_touchSession]
  constructor
  · intro h
    have hSessions : w.db.sessions.map
        (Statement.touchSession w.server.now row.sessionId).setSession = w.db.sessions :=
      congrArg AuthDb.sessions (congrArg Prod.fst h)
    have hStamped : { row with lastUsedAt := w.server.now } ∈ w.db.sessions := by
      rw [← hSessions]
      refine List.mem_map.2 ⟨row, hRow, ?_⟩
      rw [hSet row, if_pos rfl]
    have hSame := hValid.sessionIds.eq hStamped hRow rfl
    exact (congrArg Session.lastUsedAt hSame).symm
  · intro h
    have hSessions : w.db.sessions.map
        (Statement.touchSession w.server.now row.sessionId).setSession = w.db.sessions := by
      refine (List.map_congr_left fun s hs => ?_).trans (List.map_id _)
      by_cases hId : s.sessionId = row.sessionId
      · obtain rfl := hValid.sessionIds.eq hs hRow hId
        rw [hSet s, if_pos rfl, ← h]
        rfl
      · rw [hSet s, if_neg hId]
        rfl
    rw [hSessions]
    rfl

/-- A refusal that follows the resolution of the caller at once. -/
theorem rejected_stamped_iff {α : Type} {e : Failure}
    (hRows : SessionRows settings w http row user membership)
    (hValid : w.db.Valid settings.prim) (h : e.forbidden) :
    Rejected w (w.stamped (.session row user membership)) (.error e : Except Failure α) ↔
      row.lastUsedAt = w.server.now := by
  unfold Rejected
  rw [stamped_stored_iff hValid hRows.row_mem]
  exact and_iff_right ⟨e, rfl, h⟩

/-- A route that looks at the caller and asks for nothing. -/
theorem not_rejected_caller {next : Caller → AuthHandler Response}
    (hCaller : callerOf settings w http = some (.session row user membership))
    (h : RaisesOther (next (.session row user membership))) :
    ¬ Async.Ensures (Rejected w) (principalContext settings http >>= next) w := by
  unfold Async.Ensures
  rw [run_caller_bind hCaller]
  exact not_rejected h _ _

/-- A route for some roles. -/
theorem rejected_requireRole_iff {roles : List Role} {next : Caller → AuthHandler Response}
    (hRows : SessionRows settings w http row user membership)
    (hCaller : callerOf settings w http = some (.session row user membership))
    (hValid : w.db.Valid settings.prim)
    (h : RaisesOther (next (.session row user membership))) :
    Async.Ensures (Rejected w) (requireRole settings roles http >>= next) w ↔
      membership.role ∉ roles ∧ row.lastUsedAt = w.server.now := by
  have hRole : (Caller.session row user membership).principal.hasRole roles = false ↔
      membership.role ∉ roles := by
    simp [Principal.hasRole, Caller.principal]
  have hOpen : (Caller.session row user membership).principal.isOpenSynthetic = false := rfl
  have hForbidden : Failure.forbidden Auth.forbidden := rfl
  rw [Async.ensures_bind]
  unfold Async.Ensures
  rw [run_requireRole hCaller]
  by_cases hDenied : membership.role ∉ roles
  · rw [if_pos ⟨hOpen, hRole.2 hDenied⟩]
    exact (rejected_stamped_iff hRows hValid hForbidden).trans (and_iff_right hDenied).symm
  · rw [if_neg fun hBoth => hDenied (hRole.1 hBoth.2)]
    exact iff_of_false (not_rejected h _ _) fun hBoth => hDenied hBoth.1

/-- A route that asks for the CSRF token rejects a request without it, and leaves the tables
as they were unless the session had to be stamped. -/
theorem rejected_ownSession_iff {next : Caller → String → AuthHandler Response}
    (hRows : SessionRows settings w http row user membership)
    (hCaller : callerOf settings w http = some (.session row user membership))
    (hValid : w.db.Valid settings.prim)
    (hChanging : isStateChanging http = true)
    (hToken : csrfTokenFromHeader http ≠ some row.csrfToken) :
    Async.Ensures (Rejected w)
        (do
          let caller ← principalContext settings http
          let sessionId ← ownSession http caller
          next caller sessionId) w ↔
      row.lastUsedAt = w.server.now := by
  have hRow := hRows.row_mem
  have hFound : ∃ s, (w.stamped (.session row user membership)).db.findSession row.sessionId =
      some s ∧ s.csrfToken = row.csrfToken := by
    have hDb : (w.stamped (.session row user membership)).db =
        w.db.apply (.touchSession w.server.now row.sessionId) := rfl
    have hSome : ((w.stamped (.session row user membership)).db.findSession
        row.sessionId).isSome = true := by
      rw [hDb, apply_touchSession]
      refine List.find?_isSome.2 ⟨_, List.mem_map_of_mem hRow, ?_⟩
      simp [Statement.setSession]
    obtain ⟨s, hs⟩ := Option.isSome_iff_exists.1 hSome
    refine ⟨s, hs, ?_⟩
    have hMem := List.mem_of_find?_eq_some hs
    have hId : s.sessionId = row.sessionId := by simpa using List.find?_some hs
    rw [hDb, apply_touchSession] at hMem
    obtain ⟨old, hOld, rfl⟩ := List.mem_map.1 hMem
    by_cases hSame : old.sessionId = row.sessionId
    · obtain rfl := hValid.sessionIds.eq hOld hRow hSame
      simp [Statement.setSession]
    · simp [Statement.setSession, hSame] at hId
  obtain ⟨s, hs, hCsrf⟩ := hFound
  have hMismatch : csrfMatches http s.csrfToken = false := by
    unfold csrfMatches
    rw [hCsrf]
    simp [hChanging, hToken]
  have hOwn : Async.run (ownSession http (.session row user membership))
      (w.stamped (.session row user membership)) =
        (w.stamped (.session row user membership), .error (apiError 403 .forbidden)) := by
    unfold ownSession
    show Async.run (Async.require ((w.stamped (.session row user membership)).db.findSession
      row.sessionId) unauthorized >>= _) _ = _
    rw [hs]
    show Async.run (requireCsrf http s >>= _) _ = _
    unfold requireCsrf
    rw [Async.run_raiseIf_bind, if_pos hMismatch]
  unfold Async.Ensures
  rw [run_caller_bind hCaller, Async.run_bind, hOwn]
  exact rejected_stamped_iff hRows hValid (e := apiError 403 .forbidden) rfl

/-! ### The routes -/

theorem raises_revokeOwn (caller : Caller) : RaisesOther (revokeOwn settings caller) := by
  unfold revokeOwn
  cases caller.principal.session? with
  | none => exact Async.Raises.pure _
  | some sessionId =>
      refine Async.Raises.bind (raises_executeNow _ _ _) fun _ => ?_
      exact Async.Raises.bind (raises_executeNow _ _ _) fun _ => Async.Raises.pure _

theorem raises_requireSession_bind {α : Type} {caller : Caller} {next : Unit → AuthHandler α}
    (h : RaisesOther (next ())) : RaisesOther (requireSession caller >>= next) :=
  Async.Raises.bind (Async.Raises.raiseIf fun _ => other_apiError (by decide)) fun _ => h

theorem raises_checkCode (credential : TotpCredential) (code : String) :
    RaisesOther (checkCode settings credential code) := by
  refine Async.Raises.bind (Async.Raises.require fun _ => id) fun _ => ?_
  exact Async.Raises.bind (Async.Raises.read _) fun _ => Async.Raises.pure _

theorem raises_withRoles (orgId : String) (users : List User) :
    RaisesOther (withRoles orgId users) := by
  induction users with
  | nil => exact Async.Raises.pure _
  | cons u rest ih =>
      exact Async.Raises.bind (Async.Raises.read _) fun _ =>
        Async.Raises.bind ih fun _ => Async.Raises.pure _

theorem raises_assertApiKeyAgentScope (p : Principal) (body : IssueApiKeyRequest) :
    RaisesOther (assertApiKeyAgentScope p body) := by
  unfold assertApiKeyAgentScope
  by_cases hNone : body.requested = []
  · rw [if_pos hNone]
    exact Async.Raises.pure _
  · rw [if_neg hNone]
    exact Async.Raises.bind (Async.Raises.read _) fun _ =>
      Async.Raises.raiseIf fun _ => other_apiError (by decide)

theorem raises_checkStoredCode (code : String) (credential : Option TotpCredential) :
    RaisesOther (checkStoredCode settings code credential) := by
  cases credential with
  | none => exact Async.Raises.pure _
  | some credential =>
      exact Async.Raises.bind (raises_checkCode credential code) fun _ =>
        Async.Raises.raiseIf fun _ => other_apiError (by decide)

/-- A route of administrators refuses nobody once it has let its caller through: what it
raises from then on are other errors than a 401 and a 403. -/
theorem raises_afterRole {req : Request} {roles : List Role}
    (h : req.admin? = some (http, roles)) :
    ∃ next : Caller → AuthHandler Response,
      (dispatch settings req = requireRole settings roles (http.to req.route) >>= next) ∧
      ∀ caller, RaisesOther (next caller) := by
  cases req with
  | adminListUsers =>
      cases h
      refine ⟨_, rfl, fun caller => ?_⟩
      refine Async.Raises.bind (Async.Raises.read _) fun _ => ?_
      exact Async.Raises.bind (raises_withRoles _ _) fun _ => Async.Raises.pure _
  | adminListSessions _ userId =>
      cases h
      refine ⟨_, rfl, fun caller => ?_⟩
      exact Async.Raises.bind (Async.Raises.read _) fun _ => Async.Raises.pure _
  | adminRevokeSession _ sessionId =>
      cases h
      refine ⟨_, rfl, fun caller => ?_⟩
      exact Async.Raises.bind (raises_executeNow _ _ _) fun _ => raises_audit _ _ _
  | adminChangeRole _ userId role =>
      cases h
      refine ⟨_, rfl, fun caller => ?_⟩
      exact Async.Raises.bind (raises_execute _ _ _) fun _ => raises_audit _ _ _
  | adminInvite _ body =>
      cases h
      refine ⟨_, rfl, fun caller => ?_⟩
      refine Async.Raises.bind (Async.Raises.read _) fun _ => ?_
      refine Async.Raises.bind (raises_executeNow _ _ _) fun _ => ?_
      exact Async.Raises.bind (Async.Raises.write _) fun _ => raises_audit _ _ _
  | issueApiKey _ body =>
      cases h
      refine ⟨_, rfl, fun caller => ?_⟩
      refine Async.Raises.bind (raises_assertApiKeyAgentScope _ _) fun _ => ?_
      refine Async.Raises.bind (Async.Raises.read _) fun now => ?_
      refine Async.Raises.bind ?_ fun _ => raises_audit _ _ _
      refine Async.Raises.bind (Async.Raises.raiseIf fun _ => id) fun _ => ?_
      refine Async.Raises.bind (Async.Raises.read _) fun _ => ?_
      exact Async.Raises.bind (raises_execute _ _ _) fun _ => Async.Raises.pure _
  | listApiKeys =>
      cases h
      refine ⟨_, rfl, fun caller => ?_⟩
      exact Async.Raises.bind (Async.Raises.read _) fun _ => Async.Raises.pure _
  | revokeApiKey _ apiKeyId =>
      cases h
      refine ⟨_, rfl, fun caller => ?_⟩
      refine Async.Raises.bind (Async.Raises.read _) fun _ => ?_
      refine Async.Raises.bind (Async.Raises.raiseIf fun _ => other_withMessage (by decide)) ?_
      intro _
      exact Async.Raises.bind (raises_executeNow _ _ _) fun _ => raises_audit _ _ _
  | _ => cases h

theorem Request.admin?_some {req : Request} {roles : List Role}
    (h : req.admin? = some (http, roles)) (role : Role) :
    req.http? = some (http.to req.route) ∧
      ((SiteRequest.auth req).Guarded role ↔ role ∉ roles) := by
  cases req <;> cases h <;> simp [Request.http?, Request.route, SiteRequest.Guarded, Request.admin?]

/-- The session's own routes. -/
theorem rejected_dispatch_own_iff {req : Request} (hHttp : req.http? = some http)
    (hNone : req.admin? = none) (hRows : SessionRows settings w http row user membership)
    (hCaller : callerOf settings w http = some (.session row user membership))
    (hValid : w.db.Valid settings.prim) (hChanging : isStateChanging http = true)
    (hToken : csrfTokenFromHeader http ≠ some row.csrfToken) :
    Async.Ensures (Rejected w) (dispatch settings req) w ↔
      (SiteRequest.auth req).Guarded membership.role ∧ row.lastUsedAt = w.server.now := by
  -- the routes that ask for nothing
  have hUnguarded : ∀ {prog : AuthHandler Response}, dispatch settings req = prog →
      ¬ Async.Ensures (Rejected w) prog w → ¬ (SiteRequest.auth req).Guarded membership.role →
      (Async.Ensures (Rejected w) (dispatch settings req) w ↔
        (SiteRequest.auth req).Guarded membership.role ∧ row.lastUsedAt = w.server.now) := by
    rintro prog rfl hNot hGuarded
    exact iff_of_false hNot fun h => hGuarded h.1
  cases req with
  | signOut =>
      cases hHttp
      refine hUnguarded rfl (not_rejected_caller hCaller ?_)
        (by simp [SiteRequest.Guarded, Request.admin?])
      exact Async.Raises.bind (raises_revokeOwn _) fun _ => Async.Raises.pure _
  | getSession =>
      cases hHttp
      have hSafe : isStateChanging { method := Route.getSession.method } = false := by
        decide +kernel
      exact absurd (hSafe.symm.trans hChanging) Bool.noConfusion
  | sessionRefresh =>
      cases hHttp
      refine (rejected_ownSession_iff hRows hCaller hValid hChanging hToken).trans ?_
      exact (and_iff_right trivial).symm
  | passwordChange there body =>
      cases hHttp
      have hGuarded : (SiteRequest.auth (.passwordChange there body)).Guarded membership.role ↔
          ¬ (body.newPassword.length < 8 ∨ 256 < body.newPassword.length) := by
        show _ ∧ _ ↔ _
        omega
      rw [hGuarded]
      by_cases hLength : body.newPassword.length < 8 ∨ 256 < body.newPassword.length
      · refine iff_of_false (not_rejected_caller hCaller ?_) fun h => h.1 hLength
        have hCheck : checkNewPassword body.newPassword = Async.raise .validation := if_pos hLength
        rw [hCheck]
        exact id
      · have hCheck : checkNewPassword body.newPassword = pure () := if_neg hLength
        refine Iff.trans ?_ (and_iff_right hLength).symm
        show Async.Ensures (Rejected w) (passwordChange settings _ body) w ↔ _
        unfold passwordChange
        rw [hCheck]
        exact rejected_ownSession_iff hRows hCaller hValid hChanging hToken
  | emailVerifyRequest =>
      cases hHttp
      refine hUnguarded rfl (not_rejected_caller hCaller ?_)
        (by simp [SiteRequest.Guarded, Request.admin?])
      refine raises_requireSession_bind ?_
      refine Async.Raises.bind ?_ fun raw => ?_
      · refine Async.Raises.bind (Async.Raises.read _) fun _ => ?_
        exact Async.Raises.bind (raises_executeNow _ _ _) fun _ => Async.Raises.pure _
      · exact Async.Raises.bind (Async.Raises.write _) fun _ => raises_audit _ _ _
  | totpSetup =>
      cases hHttp
      refine hUnguarded rfl (not_rejected_caller hCaller ?_)
        (by simp [SiteRequest.Guarded, Request.admin?])
      refine raises_requireSession_bind ?_
      exact Async.Raises.bind (raises_executeNow _ _ _) fun _ => raises_audit _ _ _
  | totpConfirm _ code =>
      cases hHttp
      refine hUnguarded rfl (not_rejected_caller hCaller ?_)
        (by simp [SiteRequest.Guarded, Request.admin?])
      refine raises_requireSession_bind ?_
      refine Async.Raises.bind (Async.Raises.read _) fun _ => ?_
      refine Async.Raises.bind (Async.Raises.require fun _ => other_apiError (by decide)) ?_
      intro _
      refine Async.Raises.bind (raises_checkCode _ _) fun _ => ?_
      refine Async.Raises.bind (Async.Raises.raiseIf fun _ => other_apiError (by decide)) ?_
      intro _
      refine Async.Raises.bind (raises_executeNow _ _ _) fun _ => ?_
      exact Async.Raises.bind (raises_executeNow _ _ _) fun _ => raises_audit _ _ _
  | totpDisable _ body =>
      cases hHttp
      refine hUnguarded rfl (not_rejected_caller hCaller ?_)
        (by simp [SiteRequest.Guarded, Request.admin?])
      refine raises_requireSession_bind ?_
      refine Async.Raises.bind (Async.Raises.read _) fun _ => ?_
      refine Async.Raises.bind (Async.Raises.require fun _ => other_apiError (by decide)) ?_
      intro _
      refine Async.Raises.bind (Async.Raises.raiseIf fun _ => other_apiError (by decide)) ?_
      intro _
      refine Async.Raises.bind (Async.Raises.read _) fun credential => ?_
      refine Async.Raises.bind (raises_checkStoredCode _ credential) fun _ => ?_
      refine Async.Raises.bind (raises_execute _ _ _) fun _ => ?_
      exact Async.Raises.bind (raises_executeNow _ _ _) fun _ => raises_audit _ _ _
  | _ => cases hHttp <;> cases hNone

/-- **A route of authentication rejects a request without the token** exactly when it asks
for the token or does not serve the role, and the session has just been stamped. -/
theorem rejected_dispatch_iff {req : Request} (hHttp : req.http? = some http)
    (hRows : SessionRows settings w http row user membership)
    (hCaller : callerOf settings w http = some (.session row user membership))
    (hValid : w.db.Valid settings.prim) (hChanging : isStateChanging http = true)
    (hToken : csrfTokenFromHeader http ≠ some row.csrfToken) :
    Async.Ensures (Rejected w) (dispatch settings req) w ↔
      (SiteRequest.auth req).Guarded membership.role ∧ row.lastUsedAt = w.server.now := by
  cases hAdmin : req.admin? with
  | none => exact rejected_dispatch_own_iff hHttp hAdmin hRows hCaller hValid hChanging hToken
  | some found =>
      obtain ⟨there, roles⟩ := found
      obtain ⟨hThere, hGuarded⟩ := Request.admin?_some hAdmin membership.role
      obtain rfl := Option.some.inj (hHttp.symm.trans hThere)
      obtain ⟨next, hDispatch, hNext⟩ := @raises_afterRole settings _ _ _ hAdmin
      rw [hDispatch, hGuarded]
      exact rejected_requireRole_iff hRows hCaller hValid (hNext _)

end Session

end Handlers

/-! ## Either router -/

section Site

variable {settings : SiteSettings} {s : Site}

/-- A handler of the routes of authentication, with its answer wrapped. -/
theorem rejected_onAuth_iff {prog : AuthHandler Response} :
    Async.Ensures s.Rejected (onAuth prog >>= fun res => pure (SiteResponse.auth res)) s ↔
      Async.Ensures (Rejected s.auth) prog s.auth := by
  rw [Async.ensures_bind]
  unfold Async.Ensures
  rw [run_onAuth]
  have hStored : ∀ w' : AuthWorld, (s.withAuth w').stored = s.stored ↔
      w'.stored = s.auth.stored := by
    intro w'
    show (w'.stored, s.epochs, s.exports) = (s.auth.stored, s.epochs, s.exports) ↔ _
    simp
  cases (Async.run prog s.auth).2 with
  | ok res =>
      refine iff_of_false (fun h => ?_) fun h => ?_
      · obtain ⟨⟨e, he, -⟩, -⟩ := h
        cases he
      · obtain ⟨⟨e, he, -⟩, -⟩ := h
        cases he
  | error e =>
      show (∃ e', _ ∧ _) ∧ (s.withAuth _).stored = s.stored ↔ (∃ e', _ ∧ _) ∧ _
      rw [hStored]
      simp

/-- No route of the main router rejects a request of a caller, with whatever method and
headers it comes, as none of them asks for the token. -/
theorem not_rejected_main {http : Http} {req : MainRequest} {caller : Caller}
    (hApps : req.AppsOther settings.main)
    (hCaller : callerOf settings.auth s.auth { http with method := req.method } = some caller) :
    ¬ Async.Ensures s.Rejected (site settings (.main http req)) s := by
  have hResolved : Resolved settings.auth s.auth { http with method := req.method } caller := by
    unfold Resolved
    rw [run_principalContext, hCaller]
  have hServer : (s.resolved settings http req).archive.world = s.auth.server :=
    principalContext_server _ _
  rintro ⟨⟨e, hRun, hForbidden⟩, hStored⟩
  have hRouter : Async.run (site settings (.main http req)) s =
      Async.run (onArchive (mainRoute settings.main caller.principal.orgId req) >>= fun res =>
        pure (SiteResponse.main res)) (s.resolved settings http req) := by
    unfold site
    rw [Async.run_bind, run_mainRouter hResolved, ← Async.run_bind]
  rw [hRouter, Async.run_bind, run_onArchive] at hRun hStored
  cases hAnswer : (Async.run (mainRoute settings.main caller.principal.orgId req)
      (s.resolved settings http req).archive).2 with
  | ok res =>
      rw [hAnswer] at hRun
      cases hRun
  | error e' =>
      rw [hAnswer] at hRun hStored
      obtain rfl := Except.error.inj hRun
      have hCache := mainRoute_forbidden hApps hAnswer hForbidden
      rw [hServer] at hCache
      have hSame : (Async.run (mainRoute settings.main caller.principal.orgId req)
          (s.resolved settings http req).archive).1.world = s.auth.server :=
        congrArg (fun stored => stored.1.2) hStored
      exact hCache (congrArg (fun w : World => w.cache.store) hSame)

end Site

/-- **Which requests without the token are rejected.**  In every state of every run, a
state-changing request with the cookie of a session and without its CSRF token is answered
with 403, and nothing that is stored changes, exactly when it is guarded and the session has
been stamped in the same millisecond. -/
theorem csrf_covers_iff (settings : SiteSettings) (server : World) (db : AuthDb)
    (hValid : db.Valid settings.auth.prim) (events : List (Event (authService settings.auth)))
    (s : Site) (hReached : s.auth = (authRun settings.auth server db events).state)
    (req : SiteRequest) (hApps : req.AppsOther settings) (http : Http)
    (hHttp : req.http? = some http) (row : Session) (user : User) (membership : Membership)
    (hCaller : callerOf settings.auth s.auth http = some (.session row user membership))
    (hChanging : isStateChanging http = true)
    (hToken : csrfTokenFromHeader http ≠ some row.csrfToken) :
    Async.Ensures s.Rejected (site settings req) s ↔
      req.Guarded membership.role ∧ row.lastUsedAt = s.auth.server.now := by
  have hHere : s.auth.db.Valid settings.auth.prim := by
    rw [hReached]
    exact (authRun_reached settings.auth server db events).valid hValid
  obtain ⟨hMode, hSession⟩ := callerOf_session hCaller
  cases req with
  | auth req =>
      refine rejected_onAuth_iff.trans ?_
      unfold Async.Ensures
      rw [run_handle hMode]
      exact rejected_dispatch_iff hHttp (sessionOf_some hSession) hCaller hHere hChanging hToken
  | main there req =>
      cases hHttp
      exact iff_of_false (not_rejected_main hApps hCaller) fun h => h.1

namespace Sample

def freshDb : AuthDb := signedInDb [{ session "a" "one" with lastUsedAt := 1000 }]

theorem freshDb_valid : freshDb.Valid authPrim :=
  signedInDb_valid (keyUnique_singleton _ _) (keyUnique_singleton _ _)

/-- The owner has a session that has just been stamped. -/
def freshSite : Site where
  auth := (authRun authSettings authServer freshDb []).state

def freshMembership : Membership :=
  { userId := "u", orgId := demoOrgId, role := .orgOwner, joinedAt := 0 }

theorem freshSite_caller (route : Route) :
    callerOf siteSettings.auth freshSite.auth (ownerHttp.to route) =
      some (.session { session "a" "one" with lastUsedAt := 1000 } user freshMembership) := by
  show callerOf authSettings freshSite.auth ownerHttp = _
  decide +kernel

end Sample

/-- The refresh of the session is rejected without its token. -/
theorem csrf_covers_sample :
    Async.Ensures Sample.freshSite.Rejected
      (site Sample.siteSettings (.auth (.sessionRefresh Sample.ownerHttp))) Sample.freshSite :=
  (csrf_covers_iff Sample.siteSettings Sample.authServer Sample.freshDb Sample.freshDb_valid []
    Sample.freshSite rfl (.auth (.sessionRefresh Sample.ownerHttp)) trivial
    (Sample.ownerHttp.to .sessionRefresh) rfl _ Sample.user Sample.freshMembership
    (Sample.freshSite_caller _) (by decide +kernel) (by decide +kernel)).2 ⟨trivial, rfl⟩

/-- **A session is signed out without its token.** -/
theorem cross_site_sign_out :
    ((Async.run (site Sample.siteSettings (.auth (.signOut Sample.ownerHttp)))
        Sample.freshSite).1.auth.db.findSession "a").map (·.revokedAt) = some (some 1000) ∧
      ¬ ∀ (settings : SiteSettings) (server : World) (db : AuthDb), db.Valid settings.auth.prim →
        ∀ (events : List (Event (authService settings.auth))) (s : Site),
          s.auth = (authRun settings.auth server db events).state →
        ∀ req : SiteRequest, req.AppsOther settings → ∀ http : Http, req.http? = some http →
        ∀ (row : Session) (user : User) (membership : Membership),
          callerOf settings.auth s.auth http = some (.session row user membership) →
          isStateChanging http = true → csrfTokenFromHeader http ≠ some row.csrfToken →
          Async.Ensures s.Rejected (site settings req) s := by
  refine ⟨by decide +kernel, fun hAll => ?_⟩
  have hRejected := hAll Sample.siteSettings Sample.authServer Sample.freshDb
    Sample.freshDb_valid [] Sample.freshSite rfl (.auth (.signOut Sample.ownerHttp)) trivial
    (Sample.ownerHttp.to .signOut) rfl _ Sample.user Sample.freshMembership
    (Sample.freshSite_caller _) (by decide +kernel) (by decide +kernel)
  have hKept : (Async.run (site Sample.siteSettings (.auth (.signOut Sample.ownerHttp)))
      Sample.freshSite).1.auth.db.sessions = Sample.freshSite.auth.db.sessions :=
    congrArg (fun stored => stored.1.1.sessions) hRejected.2
  exact absurd hKept (by decide +kernel)

end AgentShield.Auth
