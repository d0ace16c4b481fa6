import AgentShield.Lib.Alone
import AgentShield.Auth.Revocation
import AgentShield.Server.Registry

/-!
# The two routers of one server

A `Site` is everything that the server stores.  Both routers work on it: the routes of
authentication on its tables, and the main router behind `authContext`, which resolves the
caller and hands the organisation on.
-/

namespace AgentShield.Auth

open AgentShield.Lib AgentShield.Sdk AgentShield.Server

/-- The stores of the server, with the tables that only the main router works on. -/
structure Site where
  auth : AuthWorld
  epochs : List Epoch := []
  exports : List ExportModel := []

namespace Site

def archive (s : Site) : Archive where
  world := s.auth.server
  epochs := s.epochs
  exports := s.exports

def withAuth (s : Site) (w : AuthWorld) : Site := { s with auth := w }

def withArchive (s : Site) (a : Archive) : Site where
  auth := { s.auth with server := a.world }
  epochs := a.epochs
  exports := a.exports

end Site

structure SiteSettings where
  auth : AuthSettings
  main : MainSettings

abbrev SiteHandler := Async Site Failure

def onAuth {α : Type} (prog : AuthHandler α) : SiteHandler α :=
  Async.within Site.auth Site.withAuth prog

def onArchive {α : Type} (prog : ArchiveHandler α) : SiteHandler α :=
  Async.within Site.archive Site.withArchive prog

/-- A route of the main router behind the dependency that resolves the caller. -/
def mainRouter (settings : SiteSettings) (http : Http) (req : MainRequest) :
    SiteHandler MainResponse := do
  let ctx ← onAuth (authContext settings.auth { http with method := req.method })
  onArchive (mainRoute settings.main ctx.orgId req)

/-! ## Who a request comes from -/

/-- The request is resolved to this caller. -/
def Resolved (settings : AuthSettings) (w : AuthWorld) (http : Http) (caller : Caller) : Prop :=
  (Async.run (principalContext settings http) w).2 = .ok caller

theorem Resolved.unique {settings : AuthSettings} {w : AuthWorld} {http : Http}
    {caller caller' : Caller} (h : Resolved settings w http caller)
    (h' : Resolved settings w http caller') : caller = caller' :=
  Except.ok.inj (Eq.trans (Eq.symm h) h')

/-! ## What the resolution of a caller does -/

section Resolution

variable {settings : AuthSettings}

/-- The steps of the handler leave the main router's stores alone. -/
abbrev KeepsServer {α : Type} (prog : AuthHandler α) : Prop :=
  Async.Steps (fun _ => True) (fun w w' : AuthWorld => w'.server = w.server) (fun _ => True) prog

theorem principalContext_keepsServer (http : Http) :
    KeepsServer (principalContext settings http) := by
  have hWrites : WritesOnly settings.prim (fun _ _ => True) (principalContext settings http) :=
    principalContext_writes (fun _ _ => trivial) (fun _ _ => trivial) http
  refine hWrites.guarantee fun w w' hStep => ?_
  rcases hStep with ⟨-, -, hServer⟩ | ⟨st, reason, -, -, rfl⟩
  · exact hServer
  · rfl

theorem principalContext_server (http : Http) (w : AuthWorld) :
    (Async.run (principalContext settings http) w).1.server = w.server :=
  (principalContext_keepsServer http).spares.run

end Resolution

/-! ## A run of the main router -/

theorem run_onAuth {α : Type} (prog : AuthHandler α) (s : Site) :
    Async.run (onAuth prog) s =
      (s.withAuth (Async.run prog s.auth).1, (Async.run prog s.auth).2) := by
  refine Async.run_within ?_ ?_ ?_ prog s
  · exact fun _ _ => rfl
  · exact fun _ _ _ => rfl
  · exact fun _ => rfl

theorem run_onArchive {α : Type} (prog : ArchiveHandler α) (s : Site) :
    Async.run (onArchive prog) s =
      (s.withArchive (Async.run prog s.archive).1, (Async.run prog s.archive).2) := by
  refine Async.run_within ?_ ?_ ?_ prog s
  · exact fun _ _ => rfl
  · exact fun _ _ _ => rfl
  · exact fun _ => rfl

/-- The site after the caller of a request has been resolved. -/
def Site.resolved (settings : SiteSettings) (s : Site) (http : Http) (req : MainRequest) : Site :=
  s.withAuth
    (Async.run (principalContext settings.auth { http with method := req.method }) s.auth).1

/-- The context of a resolved request is that of its caller. -/
theorem run_context {settings : SiteSettings} {s : Site} {http : Http} {req : MainRequest}
    {caller : Caller}
    (h : Resolved settings.auth s.auth { http with method := req.method } caller) :
    Async.run (onAuth (authContext settings.auth { http with method := req.method })) s =
      (s.resolved settings http req,
        .ok { orgId := caller.principal.orgId, actor := actorOf caller.principal }) := by
  have hCaller : Async.run (principalContext settings.auth { http with method := req.method })
      s.auth =
        ((Async.run (principalContext settings.auth { http with method := req.method }) s.auth).1,
          .ok caller) := Prod.ext rfl h
  rw [run_onAuth]
  unfold authContext
  rw [Async.run_bind, hCaller]
  rfl

/-- A request without a caller has no context. -/
theorem run_context_unresolved {settings : SiteSettings} {s : Site} {http : Http}
    {req : MainRequest}
    (h : ∀ caller, ¬ Resolved settings.auth s.auth { http with method := req.method } caller) :
    ∃ e, Async.run (onAuth (authContext settings.auth { http with method := req.method })) s =
      (s.resolved settings http req, .error e) := by
  cases hRun : (Async.run (principalContext settings.auth { http with method := req.method })
      s.auth).2 with
  | ok caller => exact absurd hRun (h caller)
  | error e =>
      have hCaller : Async.run (principalContext settings.auth
          { http with method := req.method }) s.auth =
            ((Async.run (principalContext settings.auth { http with method := req.method })
              s.auth).1, .error e) := Prod.ext rfl hRun
      refine ⟨e, ?_⟩
      rw [run_onAuth]
      unfold authContext
      rw [Async.run_bind, hCaller]
      rfl

/-- A route runs with the organisation of its caller, in the site that the resolution left. -/
theorem run_mainRouter {settings : SiteSettings} {s : Site} {http : Http} {req : MainRequest}
    {caller : Caller}
    (h : Resolved settings.auth s.auth { http with method := req.method } caller) :
    Async.run (mainRouter settings http req) s =
      Async.run (onArchive (mainRoute settings.main caller.principal.orgId req))
        (s.resolved settings http req) := by
  unfold mainRouter
  rw [Async.run_bind, run_context h]

/-- A request without a caller gets no further. -/
theorem run_mainRouter_unresolved {settings : SiteSettings} {s : Site} {http : Http}
    {req : MainRequest}
    (h : ∀ caller, ¬ Resolved settings.auth s.auth { http with method := req.method } caller) :
    ∃ e, Async.run (mainRouter settings http req) s =
      (s.resolved settings http req, .error e) := by
  obtain ⟨e, hContext⟩ := run_context_unresolved h
  refine ⟨e, ?_⟩
  unfold mainRouter
  rw [Async.run_bind, hContext]

theorem authContext_keepsServer (settings : AuthSettings) (http : Http) :
    KeepsServer (authContext settings http) := by
  unfold authContext
  exact Async.Steps.bind (principalContext_keepsServer http) fun _ _ => Async.Steps.pure trivial

end AgentShield.Auth
