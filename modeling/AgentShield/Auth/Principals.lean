import AgentShield.Auth.Sessions

/-!
# Who makes a request

The dependencies in front of the routes.  `principalContext` resolves the session cookie,
or else the bearer key, of a request to a `Caller`; the others refuse callers by their role
and kind.
-/

namespace AgentShield.Auth

open AgentShield.Lib AgentShield.Sdk AgentShield.Server

variable (settings : AuthSettings)

/-- The 401 of a request whose caller is not known. -/
def unauthorized : Failure := apiError 401 .unauthorized

/-- The 403 of a caller without the right. -/
def forbidden : Failure := apiError 403 .forbidden

/-- `_bearer`: the token of the Authorization header, whatever the case of its scheme. -/
def bearer (http : Http) : Option String :=
  match nonempty (Dict.get? http.headers "authorization") with
  | none => none
  | some header =>
      if (String.ofList (header.toList.take 7)).toLower = "bearer " then
        some (stripSpace (String.ofList (header.toList.drop 7)))
      else none

/-- The caller of a live session, which is stamped with the time of its use. -/
def resolveActive (row : Session) : AuthHandler (Option Caller) := do
  let found ← fetch fun db => db.findByUserId row.userId
  match found.filter fun u => u.status = .active with
  | none => return none
  | some user => do
      let membership ← fetch fun db => db.primaryMembership user.userId
      match membership with
      | none => return none
      | some membership => do
          let _ ← touchSession settings row.sessionId
          return some (.session row user membership)

/-- `resolve_session`: the session of the cookie, then its user, who must be active, and the
user's membership. The session is touched. -/
def resolveSession (http : Http) : AuthHandler (Option Caller) := do
  match nonempty (Dict.get? http.cookies settings.cookieName) with
  | none => return none
  | some rawCookie => do
      let found ← lookupSession settings rawCookie
      match found with
      | none => return none
      | some row => resolveActive settings row

/-- The text has the shape of an API key. -/
def looksLikeKey (raw : String) : Bool :=
  raw.startsWith KeyPrefix.live.value || raw.startsWith KeyPrefix.test.value

/-- `resolve_api_key`: the key in the header, if it looks like one. The key is touched. -/
def resolveApiKey (http : Http) : AuthHandler (Option Caller) := do
  match (bearer http).filter looksLikeKey with
  | none => return none
  | some raw => do
      let found ← lookupApiKey settings raw
      match found with
      | none => return none
      | some row => do
          let _ ← touchApiKey settings row.apiKeyId
          return some (.apiKey row)

/-- The caller with the one shared token, where one is configured. -/
def resolveApiTokenOnly (http : Http) : Option Caller :=
  if nonempty settings.apiToken ≠ none ∧ bearer http = settings.apiToken then some .apiToken
  else none

/-- A session counts before a key, and a request with neither is refused. -/
def enterpriseContext (http : Http) : AuthHandler Caller := do
  let session ← resolveSession settings http
  match session with
  | some caller => return caller
  | none => do
      let key ← resolveApiKey settings http
      Async.require key unauthorized

/-- `principal_context`: how the caller is found depends on the mode of the server alone. -/
def principalContext (http : Http) : AuthHandler Caller :=
  match settings.mode with
  | .openMode => return .openMode
  | .apiTokenOnly => Async.require (resolveApiTokenOnly settings http) unauthorized
  | .enterprise => enterpriseContext settings http

section Resolution

variable {S : Statement → Reason → Prop} {settings}

/-- Finding the caller by a cookie writes the session's last use, and nothing else. -/
theorem resolveSession_writes (hTouch : ∀ now sessionId, S (.touchSession now sessionId) .plain)
    (http : Http) : WritesOnly settings.prim S (resolveSession settings http) := by
  unfold resolveSession
  cases nonempty (Dict.get? http.cookies settings.cookieName) with
  | none => trivial
  | some raw =>
      refine Async.Steps.bind (Q := fun _ => True) ?_ fun found _ => ?_
      · unfold lookupSession
        split
        · trivial
        · exact Async.Steps.read_bind AuthWorld.Writes.rest fun _ _ =>
            Async.Steps.read_bind AuthWorld.Writes.rest fun _ _ => trivial
      cases found with
      | none => trivial
      | some row =>
          unfold resolveActive
          refine Async.Steps.read_bind AuthWorld.Writes.rest fun w _ => ?_
          simp only
          cases (w.db.findByUserId row.userId).filter fun u => u.status = .active with
          | none => trivial
          | some user =>
              refine Async.Steps.read_bind AuthWorld.Writes.rest fun w' _ => ?_
              simp only
              cases w'.db.primaryMembership user.userId with
              | none => trivial
              | some membership =>
                  exact Async.Steps.bind (executeNow_writes fun now _ => hTouch now _)
                    fun _ _ => trivial

/-- Finding the caller by a key writes the key's last use, and nothing else. -/
theorem resolveApiKey_writes (hTouch : ∀ now apiKeyId, S (.touchApiKey now apiKeyId) .plain)
    (http : Http) : WritesOnly settings.prim S (resolveApiKey settings http) := by
  unfold resolveApiKey
  cases (bearer http).filter looksLikeKey with
  | none => trivial
  | some raw =>
      refine Async.Steps.bind (Q := fun _ => True) ?_ fun found _ => ?_
      · unfold lookupApiKey
        split
        · trivial
        · exact Async.Steps.read_bind AuthWorld.Writes.rest fun _ _ =>
            Async.Steps.read_bind AuthWorld.Writes.rest fun _ _ => trivial
      cases found with
      | none => trivial
      | some row =>
          exact Async.Steps.bind (executeNow_writes fun now _ => hTouch now _)
            fun _ _ => trivial

/-- Resolving a caller stamps its session or key, and that is all. -/
theorem principalContext_writes (hSession : ∀ now sessionId, S (.touchSession now sessionId) .plain)
    (hKey : ∀ now apiKeyId, S (.touchApiKey now apiKeyId) .plain) (http : Http) :
    WritesOnly settings.prim S (principalContext settings http) := by
  have hRequire : ∀ found : Option Caller,
      WritesOnly settings.prim S (Async.require found unauthorized) := by
    intro found
    cases found <;> trivial
  unfold principalContext
  cases settings.mode with
  | openMode => trivial
  | apiTokenOnly => exact hRequire _
  | enterprise =>
      unfold enterpriseContext
      refine Async.Steps.bind (resolveSession_writes hSession http) fun session _ => ?_
      cases session with
      | some caller => trivial
      | none =>
          exact Async.Steps.bind (resolveApiKey_writes hKey http) fun key _ => hRequire key

end Resolution

/-- `require_role`: the caller must have one of the roles; the caller of the open mode passes
any check. -/
def requireRole (roles : List Role) (http : Http) : AuthHandler Caller := do
  let caller ← principalContext settings http
  Async.raiseIf (caller.principal.isOpenSynthetic = false ∧
    caller.principal.hasRole roles = false) forbidden
  return caller

/-- `require_2fa_if_admin`: an administrator who signed in with a session needs a second
factor, and is sent to the page for it.  No route asks for this dependency. -/
def require2faIfAdmin (http : Http) : AuthHandler Caller := do
  let caller ← principalContext settings http
  let p := caller.principal
  Async.raiseIf (p.isOpenSynthetic = false ∧ p.isApiKey = false ∧ p.isAdmin = true ∧
      p.totpEnabled = false)
    (apiError 403 .forbidden (some [("code", .str "totp_setup_required"),
      ("redirect", .str "/settings/2fa-setup?force=admin_role")]))
  return caller

/-- Only keys may ingest.  No route asks for this dependency. -/
def requireApiKeyPrincipal (http : Http) : AuthHandler Caller := do
  let caller ← principalContext settings http
  Async.raiseIf (caller.principal.isOpenSynthetic = false ∧ caller.principal.isApiKey = false)
    forbidden
  return caller

/-- What the routes outside authentication see of their caller. -/
structure AuthContext where
  orgId : String
  actor : String
  deriving DecidableEq

/-- The actor that the other routes write into their rows. -/
def actorOf (p : Principal) : String :=
  match p.authKind with
  | .openMode => "demo"
  | .apiTokenOnly => "api-token"
  | .apiKey => "api-key"
  | .session => "session"

/-- The caller as the other routers know it. -/
def authContext (http : Http) : AuthHandler AuthContext := do
  let caller ← principalContext settings http
  return { orgId := caller.principal.orgId, actor := actorOf caller.principal }

/-- The session of a principal that has one. -/
def Principal.session? (p : Principal) : Option String :=
  if p.isSession then p.sessionId else none

end AgentShield.Auth
