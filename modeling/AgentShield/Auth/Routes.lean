import AgentShield.Auth.Principals

/-!
# The routes of authentication

One handler for each route of `/v1/auth`, and the command line's `seed-admin`.  Each write
is annotated with the reason for it.  What the models of the requests check on their own,
the length of a new password, comes first in the routes that set one, after the caller where
the route resolves one.
-/

namespace AgentShield.Auth

open AgentShield.Lib AgentShield.Sdk AgentShield.Server

/-! ## Requests and replies -/

/-- The body of `POST /v1/auth/sign-up`, which in enterprise mode is refused after the
password's length has been checked. -/
structure SignUpRequest where
  email : String
  password : String
  name : String := ""
  deriving DecidableEq

/-- The body of `POST /v1/auth/sign-in`; the code of the second factor is sent along where
there is one. -/
structure SignInRequest where
  email : String
  password : String
  totpCode : Option String := none
  deriving DecidableEq

structure PasswordResetComplete where
  token : String
  newPassword : String
  deriving DecidableEq

structure PasswordChangeRequest where
  currentPassword : String
  newPassword : String
  deriving DecidableEq

structure TotpDisableRequest where
  password : String
  code : String
  deriving DecidableEq

structure TotpRecoveryRequest where
  email : String
  recoveryCode : String
  deriving DecidableEq

structure AdminInviteRequest where
  email : String
  role : Role
  deriving DecidableEq

structure AcceptInviteRequest where
  token : String
  password : String
  name : String := ""
  deriving DecidableEq

/-- The body of `POST /v1/auth/api-keys`: the key's prefix, the agents it may speak for (one,
a list, or all of the organisation) and its time to live in seconds. -/
structure IssueApiKeyRequest where
  displayName : String := ""
  keyPrefix : KeyPrefix := .live
  agentId : Option String := none
  agentIdAllowlist : Option (List String) := none
  ttlSeconds : Option Int := none
  deriving DecidableEq

/-- The arguments of the command that makes the first administrator, who becomes an owner of
the organisation named. -/
structure SeedAdmin where
  email : String
  org : String := demoOrgId
  name : String := ""
  password : String
  deriving DecidableEq

/-- What a sign-in answers: who has signed in, with the CSRF token of the session. -/
structure SignInResponse where
  userId : String
  email : String
  role : Role
  orgId : String
  csrfToken : String
  requiresTotp : Bool := false
  deriving DecidableEq

/-- What `GET /v1/auth/session` says of the caller.  The CSRF token and the expiry are there
for a session only. -/
structure SessionResponse where
  userId : String
  email : String
  orgId : String
  role : Role
  totpEnabled : Bool
  authKind : AuthKind
  csrfToken : Option String := none
  sessionExpiresAt : Option Int := none
  deriving DecidableEq

structure AdminUser where
  userId : String
  email : String
  name : String
  status : UserStatus
  totpEnabled : Bool
  role : Option Role := none
  lastLoginAt : Option Int := none
  createdAt : Int
  deriving DecidableEq

/-- A session as an administrator sees it.  Neither of its tokens is shown, nor the hash of
the one in the cookie. -/
structure AdminSessionRow where
  sessionId : String
  userId : String
  ip : Option String
  userAgent : Option String
  createdAt : Int
  lastUsedAt : Int
  expiresAt : Int
  revokedAt : Option Int
  deriving DecidableEq

/-- An API key as it is listed: without its secret or the hash of it. -/
structure ApiKeyView where
  apiKeyId : String
  displayName : String
  keyPrefix : KeyPrefix
  agentId : Option String
  agentIdAllowlist : Option (List String)
  createdAt : Int
  createdBy : String
  expiresAt : Option Int
  lastUsedAt : Option Int
  revokedAt : Option Int
  deriving DecidableEq

/-- The bodies of the answers, one for each shape that the routes return.  Secrets and raw
keys appear in `totpSetup`, `totpConfirm` and `apiKey` only, once each. -/
inductive Reply where
  | ok
  | signedIn (r : SignInResponse)
  | session (r : SessionResponse)
  | totpSetup (provisioningUri secret : String)
  | totpConfirm (recoveryCodes : List String)
  | users (users : List AdminUser)
  | sessions (sessions : List AdminSessionRow)
  | invite (inviteId : String) (expiresAt : Int)
  | apiKey (rawKey : String) (view : ApiKeyView)
  | apiKeys (keys : List ApiKeyView)
  | summary (text : String)
  | context (ctx : AuthContext)
  deriving DecidableEq

/-- What a response does to the session cookie: it leaves it alone, sets it to a new raw
token, or clears it. -/
inductive Cookie where
  | keep
  | set (rawToken : String)
  | clear
  deriving DecidableEq

/-- An answer: its body, and what it does to the session cookie. -/
structure Response where
  reply : Reply
  cookie : Cookie := .keep
  deriving DecidableEq

/-- The routes of the accounts, with the command line's one entry and the other routers. -/
inductive Route where
  | signUp
  | signIn
  | signOut
  | getSession
  | sessionRefresh
  | passwordResetRequest
  | passwordResetComplete
  | passwordChange
  | emailVerifyRequest
  | emailVerifyComplete
  | totpSetup
  | totpConfirm
  | totpDisable
  | totpRecovery
  | adminListUsers
  | adminListSessions
  | adminRevokeSession
  | adminChangeRole
  | adminInvite
  | acceptInvite
  | issueApiKey
  | listApiKeys
  | revokeApiKey
  | seedAdmin
  | otherRouter
  deriving DecidableEq, Repr

/-- The method that a route is registered for. -/
def Route.method : Route → String
  | getSession => "GET"
  | adminListUsers => "GET"
  | adminListSessions => "GET"
  | listApiKeys => "GET"
  | revokeApiKey => "DELETE"
  | _ => "POST"

/-- A request to a route, with its body and the parameters of its path.  The last two are
no routes of this router: the command line, and a request to any route of the main router,
which resolves its caller and then works on the other stores. -/
inductive Request where
  | signUp (http : Http) (body : SignUpRequest)
  | signIn (http : Http) (body : SignInRequest)
  | signOut (http : Http)
  | getSession (http : Http)
  | sessionRefresh (http : Http)
  | passwordResetRequest (http : Http) (email : String)
  | passwordResetComplete (body : PasswordResetComplete)
  | passwordChange (http : Http) (body : PasswordChangeRequest)
  | emailVerifyRequest (http : Http)
  | emailVerifyComplete (token : String)
  | totpSetup (http : Http)
  | totpConfirm (http : Http) (code : String)
  | totpDisable (http : Http) (body : TotpDisableRequest)
  | totpRecovery (http : Http) (body : TotpRecoveryRequest)
  | adminListUsers (http : Http)
  | adminListSessions (http : Http) (userId : String)
  | adminRevokeSession (http : Http) (sessionId : String)
  | adminChangeRole (http : Http) (userId : String) (role : Role)
  | adminInvite (http : Http) (body : AdminInviteRequest)
  | acceptInvite (http : Http) (body : AcceptInviteRequest)
  | issueApiKey (http : Http) (body : IssueApiKeyRequest)
  | listApiKeys (http : Http)
  | revokeApiKey (http : Http) (apiKeyId : String)
  | seedAdmin (args : SeedAdmin)
  | otherRouter (http : Http)
  deriving DecidableEq

/-- The route that a request is sent to.  The command line and the routes of the other routers
have routes of their own here, so that every handler has a name. -/
def Request.route : Request → Route
  | signUp .. => .signUp
  | signIn .. => .signIn
  | signOut .. => .signOut
  | getSession .. => .getSession
  | sessionRefresh .. => .sessionRefresh
  | passwordResetRequest .. => .passwordResetRequest
  | passwordResetComplete .. => .passwordResetComplete
  | passwordChange .. => .passwordChange
  | emailVerifyRequest .. => .emailVerifyRequest
  | emailVerifyComplete .. => .emailVerifyComplete
  | totpSetup .. => .totpSetup
  | totpConfirm .. => .totpConfirm
  | totpDisable .. => .totpDisable
  | totpRecovery .. => .totpRecovery
  | adminListUsers .. => .adminListUsers
  | adminListSessions .. => .adminListSessions
  | adminRevokeSession .. => .adminRevokeSession
  | adminChangeRole .. => .adminChangeRole
  | adminInvite .. => .adminInvite
  | acceptInvite .. => .acceptInvite
  | issueApiKey .. => .issueApiKey
  | listApiKeys .. => .listApiKeys
  | revokeApiKey .. => .revokeApiKey
  | seedAdmin .. => .seedAdmin
  | otherRouter .. => .otherRouter

variable (settings : AuthSettings)

/-- A page of the console with a token. -/
def buildUrl (path token : String) : String :=
  String.ofList ((settings.publicBaseUrl.toList.reverse.dropWhile (· = '/')).reverse) ++
    path ++ "?token=" ++ token

/-- A 400 with one detail. -/
def validationError (field value : String) : Failure :=
  apiError 400 .validationError (some [(field, .str value)])

/-- `Field(min_length=8, max_length=256)`. -/
def checkNewPassword (password : String) : AuthHandler Unit :=
  Async.raiseIf (password.length < 8 ∨ 256 < password.length) .validation

/-! ## Sign-up -/

/-- `sign_up`: only outside the enterprise mode, and with an address that has no account yet. -/
def signUp (http : Http) (body : SignUpRequest) : AuthHandler Response := do
  checkNewPassword body.password
  Async.raiseIf (settings.mode = .enterprise) (apiError 403 .enterpriseModeSignupDisabled)
  enforceOrBlock settings { bucket := "sign-up" } http.headers http.client
  let taken ← fetch fun db => db.findByEmail settings.prim body.email
  Async.raiseIf (taken.isSome = true)
    (apiError 409 .validationError (some [("field", .str "email")]))
  let user ← createUser settings
    { email := body.email
      password := body.password
      name := body.name
      orgId := demoOrgId
      role := .orgOwner } .plain
  let ip := clientIp http.headers
  let sess ← createSession settings user.userId ip http.userAgent .plain
  let _ ← insertAudit settings
    { event := .signUpOk
      userId := user.userId
      orgId := demoOrgId
      ip := ip
      userAgent := http.userAgent }
  let raw ← issue settings .emailVerification user.userId
  sendMail user.email (buildUrl settings "/verify-email" raw)
  return {
    reply := .signedIn
      { userId := user.userId
        email := user.email
        role := .orgOwner
        orgId := demoOrgId
        csrfToken := sess.csrfToken }
    cookie := .set sess.rawToken }

/-! ## Sign-in -/

/-- The row of the audit trail that tells of a failed sign-in and why it failed. -/
def signInFailure (ip userAgent : Option String) (email : String) (userId : Option String)
    (reason : String) : AuditEvent where
  event := .signInFail
  userId := userId
  ip := ip
  userAgent := userAgent
  detail := [("reason", .str reason), ("email", .str email)]

/-- The audit row of a refused sign-in, and the refusal. -/
def signInFail (ip userAgent : Option String) (email : String) (userId : Option String)
    (reason : String) (why : Reason := .plain) : AuthHandler Unit := do
  let _ ← insertAudit settings (signInFailure ip userAgent email userId reason) why
  Async.raise unauthorized

/-- An audit row of a sign-in, and the refusal. -/
def signInRefuse (event : AuthEvent) (ip userAgent : Option String) (userId : String)
    (detail : List (String × Json) := []) (failure : Failure := unauthorized) :
    AuthHandler Unit := do
  let _ ← insertAudit settings
    { event := event, userId := userId, ip := ip, userAgent := userAgent, detail := detail }
  Async.raise failure

/-- The account is neither disabled nor locked out.  Both refusals are noted in the audit log,
with reasons of their own, and answered alike before the password is looked at. -/
def checkAccount (ip userAgent : Option String) (email : String) (user : User) :
    AuthHandler Unit := do
  if user.status = .disabled then
    signInFail settings ip userAgent email user.userId "disabled"
  else do
    let now ← nowMs
    if lockoutIsActive user now = true then
      signInRefuse settings .signInLocked ip userAgent user.userId
        [("locked_until", (user.lockedUntil.map Json.int).getD .null)]
    else pure ()

/-- The password is right; a wrong one counts against the account. -/
def checkPassword (ip userAgent : Option String) (body : SignInRequest) (user : User) :
    AuthHandler Unit := do
  if PasswordHasherService.accepts settings.prim settings.peppers body.password user = true then
    pure ()
  else do
    recordFailedLogin settings user ip userAgent
    signInFail settings ip userAgent body.email user.userId "password" (.wrongPassword user)

/-- A valid code for the stored secret; an undecipherable secret is an exception. -/
def checkCode (credential : TotpCredential) (code : String) : AuthHandler Bool := do
  let decrypted ← Async.require
    (TotpService.decrypt settings.prim settings.fernetKeys credential.secretEncrypted
      credential.activeKid) .lookup
  let now ← nowMs
  return TotpService.verify settings.prim decrypted.secret code now

/-- The second factor of a sign-in: a code must be sent along, and it must be the
credential's. -/
def checkCredential (ip userAgent : Option String) (body : SignInRequest) (user : User)
    (credential : TotpCredential) : AuthHandler Unit := do
  match nonempty body.totpCode with
  | none =>
      signInRefuse settings .signInTotpRequired ip userAgent user.userId []
        (apiError 401 .unauthorized (some [("code", .str "totp_required")]))
  | some code => do
      let ok ← checkCode settings credential code
      if ok = true then do
        let _ ← insertAudit settings
          { event := .signInTotpOk, userId := user.userId, ip := ip, userAgent := userAgent }
      else signInRefuse settings .signInTotpFail ip userAgent user.userId

/-- The second factor of a user who has enabled it: a credential must be stored, its secret
must decrypt, and the code must fit the current window. -/
def checkTotp (ip userAgent : Option String) (body : SignInRequest) (user : User) :
    AuthHandler Unit := do
  if user.totpEnabled = true then do
    let found ← fetch fun db => db.findTotpCredential user.userId
    match found with
    | none =>
        signInFail settings ip userAgent body.email user.userId "totp_missing_credential"
    | some credential => checkCredential settings ip userAgent body user credential
  else pure ()

/-- A hash under an old pepper, or with old parameters, is replaced. -/
def rehash (password : String) (user : User) : AuthHandler Unit := do
  if (PasswordHasherService.verify settings.prim settings.peppers password user.passwordHash
      user.passwordPepperKid).needsRehash = true then do
    let _ ← updatePasswordHash settings user.userId password (.rehash user password)
  else pure ()

/-- The session of a user who has passed every check of a path, and its audit row. -/
def issueSession (user : User) (ip userAgent : Option String) (event : AuditEvent)
    (reason : Reason) : AuthHandler Response := do
  let found ← fetch fun db => db.primaryMembership user.userId
  let membership ← Async.require found forbidden
  let sess ← createSession settings user.userId ip userAgent reason
  let _ ← insertAudit settings { event with userId := user.userId, orgId := membership.orgId }
  return {
    reply := .signedIn
      { userId := user.userId
        email := user.email
        role := membership.role
        orgId := membership.orgId
        csrfToken := sess.csrfToken }
    cookie := .set sess.rawToken }

theorem issueSession_writes {S : Statement → Reason → Prop} {settings} {reason : Reason}
    (hSession : ∀ row, S (.insertSession row) reason) (hAudit : ∀ row, S (.insertAudit row) .plain)
    (user : User) (ip userAgent : Option String) (event : AuditEvent) :
    WritesOnly settings.prim S (issueSession settings user ip userAgent event reason) := by
  unfold issueSession createSession
  refine Async.Steps.read_bind AuthWorld.Writes.rest fun w _ => ?_
  refine Async.Steps.require_bind fun membership _ => ?_
  refine Async.Steps.bind (Q := fun _ => True) ?_ fun sess _ => ?_
  · exact Async.Steps.bind (executeNow_writes fun _ _ => hSession _) fun _ _ => trivial
  · exact Async.Steps.bind (insertAudit_writes hAudit _) fun _ _ => trivial

/-- `sign_in`: the limit, the account, the password, the second factor, and then a session.
The password is hashed anew where its parameters or its pepper are old. -/
def signIn (http : Http) (body : SignInRequest) : AuthHandler Response := do
  let ip := clientIp http.headers http.client
  enforceOrBlock settings { bucket := "sign-in" } http.headers ip
  let found ← fetch fun db => db.findByEmail settings.prim body.email
  match found with
  | none => do
      signInFail settings ip http.userAgent body.email none "unknown_email"
      Async.raise unauthorized
  | some user => do
      checkAccount settings ip http.userAgent body.email user
      checkPassword settings ip http.userAgent body user
      checkTotp settings ip http.userAgent body user
      let _ ← resetFailedLogin settings user.userId (.signIn user body.password)
      rehash settings body.password user
      issueSession settings user ip http.userAgent
        { event := .signInOk, ip := ip, userAgent := http.userAgent }
        (.signIn user body.password)

/-! ## The session of the caller -/

/-- A caller with a session revokes it; a caller with a key has none to revoke. -/
def revokeOwn (caller : Caller) : AuthHandler Unit := do
  match caller.principal.session? with
  | none => pure ()
  | some sessionId => do
      let _ ← revokeSession settings sessionId (.signOut caller)
      let _ ← insertAudit settings
        { event := .signOut
          userId := caller.principal.userId
          orgId := caller.principal.orgId } (.caller caller)

/-- `sign_out`: revokes the caller's session and clears the cookie. It asks for no CSRF token.
-/
def signOut (http : Http) : AuthHandler Response := do
  let caller ← principalContext settings http
  revokeOwn settings caller
  return { reply := .ok, cookie := .clear }

/-- The caller as `GET /v1/auth/session` shows it, with the CSRF token and the expiry of the
session's row. -/
def sessionView (p : Principal) (row : Option Session) : SessionResponse where
  userId := p.userId
  email := p.email.getD ""
  orgId := p.orgId
  role := p.role
  totpEnabled := p.totpEnabled
  authKind := p.authKind
  csrfToken := row.map (·.csrfToken)
  sessionExpiresAt := row.map (·.expiresAt)

/-- `get_session`: shows the caller and changes nothing. -/
def getSession (http : Http) : AuthHandler Response := do
  let caller ← principalContext settings http
  match caller.principal.session? with
  | none => return { reply := .session (sessionView caller.principal none) }
  | some sessionId => do
      let row ← fetch fun db => db.findSession sessionId
      return { reply := .session (sessionView caller.principal row) }

/-- The session of the caller, whose CSRF token the request must echo. -/
def ownSession (http : Http) (caller : Caller) : AuthHandler String := do
  let sessionId ← Async.require caller.principal.session? unauthorized
  let found ← fetch fun db => db.findSession sessionId
  let row ← Async.require found unauthorized
  requireCsrf http row
  return sessionId

/-- `session_refresh`: the session gets a new token in place of the one in the old cookie. -/
def sessionRefresh (http : Http) : AuthHandler Response := do
  let caller ← principalContext settings http
  let sessionId ← ownSession http caller
  let issued ← rotateToken settings sessionId (.caller caller)
  let p := caller.principal
  let _ ← insertAudit settings
    { event := .sessionRefresh, userId := p.userId, orgId := p.orgId } (.caller caller)
  return {
    reply := .session { sessionView p none with csrfToken := some issued.csrfToken }
    cookie := .set issued.rawToken }

/-! ## Passwords -/

/-- `password_reset_request`: it answers ok whether the address has an account or not, and
mails a token where it has. -/
def passwordResetRequest (http : Http) (email : String) : AuthHandler Response := do
  enforceOrBlock settings { bucket := "password-reset" } http.headers http.client
  let found ← fetch fun db => db.findByEmail settings.prim email
  match found with
  | none => return { reply := .ok }
  | some user => do
      let raw ← issue settings .passwordReset user.userId
      sendMail user.email (buildUrl settings "/reset-password" raw)
      let _ ← insertAudit settings { event := .passwordResetRequest, userId := user.userId }
      return { reply := .ok }

/-- `password_reset_complete`: the token is used up, the password set, and every session of
the user revoked. -/
def passwordResetComplete (body : PasswordResetComplete) : AuthHandler Response := do
  checkNewPassword body.newPassword
  let consumed ← consume settings .passwordReset body.token
  let token ← Async.require consumed (validationError "reason" "invalid_or_expired_token")
  let passwordHash ← updatePasswordHash settings token.userId body.newPassword
    (.passwordReset token body.newPassword)
  let _ ← revokeAllForUser settings token.userId (.passwordReset token body.newPassword)
  let _ ← insertAudit settings { event := .passwordResetComplete, userId := token.userId }
    (.passwordSet passwordHash)
  return { reply := .ok }

/-- The cookie of the caller's session is rotated, and the fresh one is not sent. -/
def passwordChange (http : Http) (body : PasswordChangeRequest) : AuthHandler Response := do
  let caller ← principalContext settings http
  checkNewPassword body.newPassword
  let sessionId ← ownSession http caller
  let found ← fetch fun db => db.findByUserId caller.principal.userId
  let user ← Async.require found unauthorized
  Async.raiseIf (PasswordHasherService.accepts settings.prim settings.peppers
    body.currentPassword user = false) unauthorized
  let why := Reason.passwordChange caller user body.newPassword
  let passwordHash ← updatePasswordHash settings user.userId body.newPassword why
  let _ ← rotateToken settings sessionId why
  let _ ← insertAudit settings { event := .passwordChange, userId := user.userId }
    (.passwordSet passwordHash)
  return { reply := .ok }

/-! ## Email verification -/

/-- The caller has a session. -/
def requireSession (caller : Caller) : AuthHandler Unit :=
  Async.raiseIf (caller.principal.isSession = false) unauthorized

/-- `email_verify_request`: a token is mailed to the caller's own address, and only its hash
is stored. -/
def emailVerifyRequest (http : Http) : AuthHandler Response := do
  let caller ← principalContext settings http
  requireSession caller
  let p := caller.principal
  let raw ← issue settings .emailVerification p.userId
  sendMail (p.email.getD "") (buildUrl settings "/verify-email" raw)
  let _ ← insertAudit settings { event := .emailVerifyRequest, userId := p.userId }
    (.caller caller)
  return { reply := .ok }

/-- `email_verify_complete`: the token is used up and the address marked as verified. -/
def emailVerifyComplete (token : String) : AuthHandler Response := do
  let consumed ← consume settings .emailVerification token
  let row ← Async.require consumed (validationError "reason" "invalid_or_expired_token")
  let _ ← setEmailVerified settings row.userId (.consumed row)
  let _ ← insertAudit settings { event := .emailVerifyComplete, userId := row.userId }
  return { reply := .ok }

/-! ## TOTP -/

/-- The credential of a setup: a fresh secret, and recovery codes that nobody has seen. -/
def setupCredential (userId : String) (now : Int) (n : Nat) : TotpCredential where
  userId := userId
  secretEncrypted := TotpService.encrypt settings.prim settings.fernetKeys n
    (settings.prim.totpSecret n)
  activeKid := settings.fernetKeys.activeKid
  recoveryCodesHash := TotpService.recoveryHashes settings.prim n
  enabledAt := now

/-- `totp_setup`: a credential is stored for the caller, who must have none, and its secret
shown once. It does not count as a second factor yet. -/
def totpSetup (http : Http) : AuthHandler Response := do
  let caller ← principalContext settings http
  requireSession caller
  let p := caller.principal
  let n ← executeNow settings.prim
    (fun now n => .insertTotpCredential (setupCredential settings p.userId now n))
    (.caller caller)
  let _ ← insertAudit settings { event := .totpSetup, userId := p.userId } (.caller caller)
  let secret := settings.prim.totpSecret n
  return {
    reply := .totpSetup (settings.prim.provisioningUri secret (p.email.getD p.userId)) secret }

/-- `totp_confirm`: a first right code turns the second factor on and answers the recovery
codes. -/
def totpConfirm (http : Http) (code : String) : AuthHandler Response := do
  let caller ← principalContext settings http
  requireSession caller
  let userId := caller.principal.userId
  let found ← fetch fun db => db.findTotpCredential userId
  let credential ← Async.require found (validationError "reason" "no_pending_setup")
  let ok ← checkCode settings credential code
  Async.raiseIf (ok = false) (validationError "reason" "totp_code_mismatch")
  let why := Reason.confirmed caller credential code
  let n ← executeNow settings.prim
    (fun now n => .setRecoveryCodes (TotpService.recoveryHashes settings.prim n) now userId) why
  let _ ← setTotpEnabled settings userId true why
  let _ ← insertAudit settings { event := .totpConfirm, userId := userId } (.caller caller)
  return { reply := .totpConfirm (TotpService.recoveryCodes settings.prim n) }

/-- Where there is a credential, the code must fit it. -/
def checkStoredCode (code : String) : Option TotpCredential → AuthHandler Unit
  | none => pure ()
  | some credential => do
      let ok ← checkCode settings credential code
      Async.raiseIf (ok = false) unauthorized

/-- `totp_disable`: asks for the password and a code, takes the credential away, with its
recovery codes, and switches the second factor off. -/
def totpDisable (http : Http) (body : TotpDisableRequest) : AuthHandler Response := do
  let caller ← principalContext settings http
  requireSession caller
  let userId := caller.principal.userId
  let found ← fetch fun db => db.findByUserId userId
  let user ← Async.require found unauthorized
  Async.raiseIf (PasswordHasherService.accepts settings.prim settings.peppers
    body.password user = false) unauthorized
  let credential ← fetch fun db => db.findTotpCredential userId
  checkStoredCode settings body.code credential
  let _ ← execute settings.prim (fun _ => .deleteTotpCredential userId) (.caller caller)
  let _ ← setTotpEnabled settings userId false (.caller caller)
  let _ ← insertAudit settings { event := .totpDisable, userId := userId } (.caller caller)
  return { reply := .ok }

/-- `totp_recovery`: a recovery code in place of the password and the code of the
authenticator.  The list of hashes is read here and written back below without the code;
between the two another recovery may do the same. -/
def totpRecovery (http : Http) (body : TotpRecoveryRequest) : AuthHandler Response := do
  let found ← fetch fun db => db.findByEmail settings.prim body.email
  let user ← Async.require (found.filter (·.totpEnabled)) unauthorized
  let credential ← fetch fun db => db.findTotpCredential user.userId
  let tc ← Async.require credential unauthorized
  let stored := tc.recoveryCodesHash
  let consumed := TotpService.consumeRecoveryCode settings.prim body.recoveryCode stored
  Async.raiseIf (consumed.1 = false) unauthorized
  let why := Reason.recovery user stored body.recoveryCode
  let _ ← executeNow settings.prim
    (fun now _ => .setRecoveryCodes consumed.2 now user.userId) why
  issueSession settings user (clientIp http.headers) http.userAgent
    { event := .signInRecoveryOk } why

/-! ## Administration -/

/-- The roles that may manage sessions and keys. -/
def adminRoles : List Role := [.orgOwner, .securityAdmin]

/-- An account as an administrator sees it, with its role in the caller's organisation.
Neither the password hash nor anything of the second factor but its being enabled is shown. -/
def adminUser (orgId : String) (db : AuthDb) (u : User) : AdminUser where
  userId := u.userId
  email := u.email
  name := u.name
  status := u.status
  totpEnabled := u.totpEnabled
  role := db.roleFor u.userId orgId
  lastLoginAt := u.lastLoginAt
  createdAt := u.createdAt

/-- The role of each user is read by a statement of its own. -/
def withRoles (orgId : String) : List User → AuthHandler (List AdminUser)
  | [] => return []
  | u :: rest => do
      let first ← fetch fun db => adminUser orgId db u
      let others ← withRoles orgId rest
      return first :: others

/-- `admin_list_users`: all accounts, of every organisation. -/
def adminListUsers (http : Http) : AuthHandler Response := do
  let caller ← requireRole settings adminRoles http
  let rows ← fetch fun db => db.users
  let users ← withRoles caller.principal.orgId rows
  return { reply := .users users }

def adminSessionRow (row : Session) : AdminSessionRow where
  sessionId := row.sessionId
  userId := row.userId
  ip := nonempty row.ip
  userAgent := nonempty row.userAgent
  createdAt := row.createdAt
  lastUsedAt := row.lastUsedAt
  expiresAt := row.expiresAt
  revokedAt := row.revokedAt.filter (· ≠ 0)

/-- `admin_list_sessions`: the sessions of the user named, whatever organisation it is in. -/
def adminListSessions (http : Http) (userId : String) : AuthHandler Response := do
  let _ ← requireRole settings adminRoles http
  let rows ← fetch fun db => db.sessions.filter (·.userId = userId)
  return { reply := .sessions (rows.map adminSessionRow) }

/-- `admin_revoke_session`: an UPDATE by session id, and the row of the audit trail whether it
hit one or not. -/
def adminRevokeSession (http : Http) (sessionId : String) : AuthHandler Response := do
  let caller ← requireRole settings adminRoles http
  let _ ← revokeSession settings sessionId (.caller caller)
  let _ ← insertAudit settings
    { event := .sessionRevoke
      userId := caller.principal.userId
      orgId := caller.principal.orgId
      detail := [("target_session_id", .str sessionId)] } (.caller caller)
  return { reply := .ok }

def Role.value : Role → String
  | orgOwner => "org_owner"
  | securityAdmin => "security_admin"
  | integrationEngineer => "integration_engineer"
  | complianceAuditor => "compliance_auditor"
  | readonlyInvestigator => "readonly_investigator"

/-- `admin_change_role`: the role of a user in the caller's organisation, and the row of the
audit trail whether there was such a member or not. -/
def adminChangeRole (http : Http) (userId : String) (role : Role) : AuthHandler Response := do
  let caller ← requireRole settings [.orgOwner] http
  let p := caller.principal
  let _ ← changeRole settings userId p.orgId role (.caller caller)
  let _ ← insertAudit settings
    { event := .roleChange
      userId := p.userId
      orgId := p.orgId
      detail := [("target_user_id", .str userId), ("new_role", .str role.value)] }
    (.caller caller)
  return { reply := .ok }

/-- The invite that an owner writes, into the owner's organisation.  The token is mailed and
its hash is stored. -/
def newInvite (p : Principal) (body : AdminInviteRequest) (expiresAt now : Int) (n : Nat) :
    Invite where
  inviteId := settings.prim.uuid n
  orgId := p.orgId
  email := body.email
  role := body.role
  invitedBy := p.userId
  expiresAt := expiresAt
  createdAt := now
  tokenHash := settings.prim.sha256Hex (settings.prim.token n)

/-- `admin_invite`: only an owner invites, with any role, and into the owner's own
organisation.  The row is written first; if the mail fails, the invite is there but nobody has
its token. -/
def adminInvite (http : Http) (body : AdminInviteRequest) : AuthHandler Response := do
  let caller ← requireRole settings [.orgOwner] http
  let p := caller.principal
  let expiresFrom ← nowMs
  let expiresAt := expiresFrom + inviteTtlMs
  let n ← executeNow settings.prim
    (fun now n => .insertInvite (newInvite settings p body expiresAt now n)) (.caller caller)
  sendMail body.email (buildUrl settings "/accept-invite" (settings.prim.token n))
  let _ ← insertAudit settings
    { event := .inviteSend
      userId := p.userId
      orgId := p.orgId
      detail := [("target_email", .str body.email), ("role", .str body.role.value)] }
    (.caller caller)
  return { reply := .invite (settings.prim.uuid n) expiresAt }

/-! ## Accepting an invite -/

/-- A refused invite is told to the audit trail with the reason, and answered 401 without it. -/
def inviteFail {α : Type} (ip userAgent : Option String) (inviteId : Option String)
    (reason : String) : AuthHandler α := do
  let _ ← insertAudit settings
    { event := .inviteAcceptFail
      ip := ip
      userAgent := userAgent
      detail := [("reason", .str reason), ("invite_id", (inviteId.map Json.str).getD .null)] }
  Async.raise unauthorized

/-- The invite is neither consumed nor expired, by the row that was read.  A refusal is noted
in the audit log with its reason. -/
def checkInvite (ip userAgent : Option String) (invite : Invite) : AuthHandler Unit := do
  if invite.consumedAt ≠ none then
    inviteFail settings ip userAgent invite.inviteId "already_consumed"
  else do
    let now ← nowMs
    if invite.expiresAt < now then
      inviteFail settings ip userAgent invite.inviteId "expired"
    else pure ()

/-- The user of a usable invite whose address is not taken.  The user is made before the
invite is marked; the unique index on the address is what refuses a second one. -/
def admitInvitee (ip userAgent : Option String) (body : AcceptInviteRequest)
    (invite : Invite) : AuthHandler Response := do
  let why := Reason.acceptInvite invite
  let user ← createUser settings
    { email := invite.email
      password := body.password
      name := body.name
      orgId := invite.orgId
      role := invite.role
      invitedBy := some invite.invitedBy } why
  let _ ← setEmailVerified settings user.userId .plain
  let _ ← executeNow settings.prim (fun now _ => .consumeInvite now invite.inviteId) why
  let _ ← insertAudit settings
    { event := .inviteAcceptOk
      userId := user.userId
      orgId := invite.orgId
      ip := ip
      userAgent := userAgent
      detail := [("invite_id", .str invite.inviteId), ("role", .str invite.role.value)] }
  let sess ← createSession settings user.userId ip userAgent why
  return {
    reply := .signedIn
      { userId := user.userId
        email := user.email
        role := invite.role
        orgId := invite.orgId
        csrfToken := sess.csrfToken }
    cookie := .set sess.rawToken }

/-- `accept_invite`: the invite is looked up by its token, judged, and an account made of it. -/
def acceptInvite (http : Http) (body : AcceptInviteRequest) : AuthHandler Response := do
  checkNewPassword body.password
  let ip := clientIp http.headers http.client
  enforceOrBlock settings { bucket := "invites-accept" } http.headers ip
  let found ← fetch fun db => db.findInvite (settings.prim.sha256Hex body.token)
  match found with
  | none => inviteFail settings ip http.userAgent none "unknown_token"
  | some invite => do
      checkInvite settings ip http.userAgent invite
      let existing ← fetch fun db => db.findByEmail settings.prim invite.email
      match existing with
      | some _ => inviteFail settings ip http.userAgent invite.inviteId "email_collision"
      | none => admitInvitee settings ip http.userAgent body invite

/-! ## API keys -/

/-- The view of a key's row; an empty list of agents is shown as none. -/
def viewOf (row : ApiKey) : ApiKeyView where
  apiKeyId := row.apiKeyId
  displayName := row.displayName
  keyPrefix := row.keyPrefix
  agentId := row.agentId
  agentIdAllowlist := row.agentIdAllowlist.filter (· ≠ [])
  createdAt := row.createdAt
  createdBy := row.createdBy
  expiresAt := row.expiresAt
  lastUsedAt := row.lastUsedAt
  revokedAt := row.revokedAt

/-- The agents that a request names. -/
def IssueApiKeyRequest.requested (body : IssueApiKeyRequest) : List String :=
  (nonempty body.agentId).toList ++ body.agentIdAllowlist.getD []

/-- Every named agent belongs to the organisation. -/
def assertApiKeyAgentScope (p : Principal) (body : IssueApiKeyRequest) : AuthHandler Unit := do
  if body.requested = [] then pure ()
  else do
    let orgAgents ← agentsInOrg p.orgId
    Async.raiseIf (¬ ∀ agent ∈ body.requested, agent ∈ orgAgents)
      (validationError "reason" "agent_outside_org")

/-- A lifetime of no seconds is taken for none. -/
def keyExpiry (now : Int) (ttlSeconds : Option Int) : Option Int :=
  (ttlSeconds.filter (· ≠ 0)).map fun ttl => now + ttl * 1000

/-- The key that a request asks for, in the caller's organisation.  An empty allowlist is
taken for none, so such a key may speak for every agent of the organisation. -/
def IssueApiKeyRequest.newKey (body : IssueApiKeyRequest) (p : Principal) (now : Int) :
    NewApiKey where
  orgId := p.orgId
  createdBy := p.userId
  keyPrefix := body.keyPrefix
  displayName := body.displayName
  agentId := body.agentId
  agentIdAllowlist := body.agentIdAllowlist.filter (· ≠ [])
  expiresAt := keyExpiry now body.ttlSeconds

/-- `issue_api_key_route`: a key for the caller's organisation. The secret is in the answer
and nowhere else. -/
def issueApiKey (http : Http) (body : IssueApiKeyRequest) : AuthHandler Response := do
  let caller ← requireRole settings adminRoles http
  let p := caller.principal
  assertApiKeyAgentScope p body
  let now ← nowMs
  let issued ← issueKey settings (body.newKey p now) (.caller caller)
  let _ ← insertAudit settings
    { event := .apiKeyIssue
      userId := p.userId
      orgId := p.orgId
      detail := [("api_key_id", .str issued.row.apiKeyId), ("prefix", .str body.keyPrefix.value)] }
    (.caller caller)
  return { reply := .apiKey issued.rawKey (viewOf issued.row) }

/-- `list_api_keys`: the keys of the caller's organisation. -/
def listApiKeys (http : Http) : AuthHandler Response := do
  let caller ← requireRole settings adminRoles http
  let rows ← listApiKeysForOrg caller.principal.orgId
  return { reply := .apiKeys (rows.map viewOf) }

/-- `revoke_api_key_route`: a key of another organisation is not found, and is not told apart
from one that does not exist. -/
def revokeApiKey (http : Http) (apiKeyId : String) : AuthHandler Response := do
  let caller ← requireRole settings adminRoles http
  let p := caller.principal
  let rows ← listApiKeysForOrg p.orgId
  Async.raiseIf (¬ ∃ row ∈ rows, row.apiKeyId = apiKeyId)
    (.app (.withMessage 404 .notFound "API key not found."))
  let _ ← revokeKey settings apiKeyId (.caller caller)
  let _ ← insertAudit settings
    { event := .apiKeyRevoke
      userId := p.userId
      orgId := p.orgId
      detail := [("api_key_id", .str apiKeyId)] } (.caller caller)
  return { reply := .ok }

/-! ## The command line -/

/-- The command line's `seed-admin`: an organisation and its first owner, unless the address
has an account. -/
def seedAdmin (args : SeedAdmin) : AuthHandler Response := do
  Async.raiseIf (args.password.length < 8) .validation
  let _ ← execute settings.prim (fun _ => .insertOrganization args.org) .plain
  let existing ← fetch fun db => db.findByEmail settings.prim args.email
  match existing with
  | some user =>
      return { reply := .summary ("shield-server seed-admin: user '" ++ args.email ++
        "' already exists (user_id=" ++ user.userId ++ "); no-op.") }
  | none => do
      let user ← createUser settings
        { email := args.email
          password := args.password
          name := args.name
          orgId := args.org
          role := .orgOwner } .plain
      return { reply := .summary ("shield-server seed-admin: created org_owner user_id=" ++
        user.userId ++ " email=" ++ args.email ++ " org=" ++ args.org) }

/-- A route of the other routers, of which only the caller counts here. -/
def otherRouter (http : Http) : AuthHandler Response := do
  let ctx ← authContext settings http
  return { reply := .context ctx }

end AgentShield.Auth
