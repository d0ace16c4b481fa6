import AgentShield.Auth.Routes

/-!
# The authentication server

The service with every route, and what each of its steps may be.  A step leaves the tables
and the log alone, or it is one write: with the fresh texts of its number, and `Justified`,
that is, with a reason that holds.  Everything that is proved about runs of the service is
a consequence of its steps.
-/

namespace AgentShield.Auth

open AgentShield.Lib AgentShield.Sdk AgentShield.Server

variable (settings : AuthSettings)

/-! ## The service -/

/-- A request as it comes in for a route. -/
def Http.to (http : Http) (route : Route) : Http := { http with method := route.method }

def dispatch : Request → AuthHandler Response
  | .signUp http body => signUp settings (http.to .signUp) body
  | .signIn http body => signIn settings (http.to .signIn) body
  | .signOut http => signOut settings (http.to .signOut)
  | .getSession http => getSession settings (http.to .getSession)
  | .sessionRefresh http => sessionRefresh settings (http.to .sessionRefresh)
  | .passwordResetRequest http email =>
      passwordResetRequest settings (http.to .passwordResetRequest) email
  | .passwordResetComplete body => passwordResetComplete settings body
  | .passwordChange http body => passwordChange settings (http.to .passwordChange) body
  | .emailVerifyRequest http => emailVerifyRequest settings (http.to .emailVerifyRequest)
  | .emailVerifyComplete token => emailVerifyComplete settings token
  | .totpSetup http => totpSetup settings (http.to .totpSetup)
  | .totpConfirm http code => totpConfirm settings (http.to .totpConfirm) code
  | .totpDisable http body => totpDisable settings (http.to .totpDisable) body
  | .totpRecovery http body => totpRecovery settings (http.to .totpRecovery) body
  | .adminListUsers http => adminListUsers settings (http.to .adminListUsers)
  | .adminListSessions http userId =>
      adminListSessions settings (http.to .adminListSessions) userId
  | .adminRevokeSession http sessionId =>
      adminRevokeSession settings (http.to .adminRevokeSession) sessionId
  | .adminChangeRole http userId role =>
      adminChangeRole settings (http.to .adminChangeRole) userId role
  | .adminInvite http body => adminInvite settings (http.to .adminInvite) body
  | .acceptInvite http body => acceptInvite settings (http.to .acceptInvite) body
  | .issueApiKey http body => issueApiKey settings (http.to .issueApiKey) body
  | .listApiKeys http => listApiKeys settings (http.to .listApiKeys)
  | .revokeApiKey http apiKeyId => revokeApiKey settings (http.to .revokeApiKey) apiKeyId
  | .seedAdmin args => seedAdmin settings args
  | .otherRouter http => otherRouter settings http

/-- The router of authentication is mounted in the enterprise mode only. -/
def handle (r : Request) : AuthHandler Response := do
  Async.raiseIf (settings.mode ≠ .enterprise ∧ r.route ≠ .seedAdmin ∧ r.route ≠ .otherRouter)
    (apiError 404 .notFound)
  dispatch settings r

/-- What happens outside the handlers: time passes, the cache goes down and comes back, and
the main router writes its own tables. -/
inductive Outside where
  | tick (ns : Nat)
  | cache (down : Bool)
  | database (db : Database)
  deriving DecidableEq

def outside : Outside → AuthWorld → AuthWorld
  | .tick ns, w => { w with server := w.server.tick ns }
  | .cache down, w => { w with cacheDown := down }
  | .database db, w => { w with server := { w.server with db := db } }

def authService : Service AuthWorld Failure where
  Req := Request
  Res := Response
  handle := handle settings
  Ext := Outside
  external := outside
  fault := .backend

/-- The server with some tables, before its first request. -/
def AuthWorld.initial (server : World) (db : AuthDb) : AuthWorld where
  server := server
  db := db

/-- The server after a run of events. -/
def authRun (server : World) (db : AuthDb) (events : List (Event (authService settings))) :
    Pool (authService settings) :=
  (Pool.start (.initial server db)).run events

/-! ## Fresh texts -/

/-- The random texts of a write are the ones from its number on: every write draws from a
supply of its own, so two writes never share a token, an id or a salt. -/
def Statement.Fresh (prim : AuthPrimitives) (n : Nat) : Statement → Prop
  | insertUser user membership =>
      user.userId = prim.uuid n ∧ membership.userId = prim.uuid n ∧
        ∃ text, user.passwordHash = prim.argon2Hash n text
  | setPasswordHash passwordHash _ _ _ => ∃ text, passwordHash = prim.argon2Hash n text
  | insertSession row =>
      row.sessionId = prim.uuid n ∧ row.tokenHash = prim.sha256Hex (prim.token n)
  | rotateToken tokenHash _ _ _ => tokenHash = prim.sha256Hex (prim.token n)
  | insertToken row => row.tokenHash = prim.sha256Hex (prim.token n) ∧ row.consumedAt = none
  | insertInvite row =>
      row.inviteId = prim.uuid n ∧ row.tokenHash = prim.sha256Hex (prim.token n) ∧
        row.consumedAt = none
  | insertTotpCredential row => row.recoveryCodesHash = TotpService.recoveryHashes prim n
  | insertApiKey row =>
      row.apiKeyId = prim.uuid n ∧
        row.tokenHash = prim.sha256Hex (row.keyPrefix.value ++ prim.token n) ∧
        row.revokedAt = none
  | insertAudit row => row.auditId = prim.uuid n
  | _ => True

/-! ## Reasons -/

/-- A valid code for the stored secret. -/
def CodeAccepted (credential : TotpCredential) (code : String) (t : Int) : Prop :=
  ∃ decrypted, TotpService.decrypt settings.prim settings.fernetKeys credential.secretEncrypted
      credential.activeKid = some decrypted ∧
    TotpService.verify settings.prim decrypted.secret code t = true

/-- The caller was resolved from rows of the tables, a session or key while it was live. -/
def Caller.Seen (w : AuthWorld) : Caller → Prop
  | openMode => settings.mode = .openMode
  | apiToken => settings.mode = .apiTokenOnly
  | session row user membership =>
      w.Saw (row ∈ ·.sessions) ∧ (∃ t ≤ w.server.now, row.active t = true) ∧
        w.Saw (user ∈ ·.users) ∧ user.userId = row.userId ∧ user.status = .active ∧
        w.Saw (·.primaryMembership user.userId = some membership)
  | apiKey key => w.Saw (key ∈ ·.apiKeys) ∧ ∃ t ≤ w.server.now, key.active t = true

/-- A sign-in that has passed its checks, on the row of the user as it was read. -/
structure SignsIn (w : AuthWorld) (user : User) (password : String) : Prop where
  seen : w.Saw (user ∈ ·.users)
  notDisabled : user.status ≠ .disabled
  notLocked : ∃ t ≤ w.server.now, lockoutIsActive user t = false
  verified : PasswordHasherService.accepts settings.prim settings.peppers password user = true
  secondFactor : user.totpEnabled = true → ∃ credential code t, t ≤ w.server.now ∧
    w.Saw (credential ∈ ·.totpCredentials) ∧ credential.userId = user.userId ∧
    CodeAccepted settings credential code t

/-- A recovery that has found its code among the stored ones, in a state of the tables that
its handler has seen and that may have passed. -/
structure Recovers (w : AuthWorld) (user : User) (stored : List String) (code : String) :
    Prop where
  seen : w.Saw (user ∈ ·.users)
  enabled : user.totpEnabled = true
  listed : w.Saw fun db => ∃ credential ∈ db.totpCredentials,
    credential.userId = user.userId ∧ credential.recoveryCodesHash = stored
  member : TotpService.hashRecoveryCode settings.prim code ∈ stored

/-- An invite that was usable when it was read. -/
structure Invited (w : AuthWorld) (invite : Invite) : Prop where
  seen : w.Saw (invite ∈ ·.invites)
  usable : invite.consumedAt = none ∧ ∃ t ≤ w.server.now, ¬ invite.expiresAt < t

/-- A token that was usable when it was read. -/
structure Presents (w : AuthWorld) (row : TokenRow) : Prop where
  seen : w.Saw (row ∈ ·.tokens)
  usable : ∃ t ≤ w.server.now, row.usable t = true

/-- A change of the password of a user whose current one has been verified, by the caller who
owns the account. -/
structure Changes (w : AuthWorld) (caller : Caller) (user : User) : Prop where
  resolved : caller.Seen settings w
  own : user.userId = caller.principal.userId
  seen : w.Saw (user ∈ ·.users)
  verified : ∃ password,
    PasswordHasherService.accepts settings.prim settings.peppers password user = true

/-- A confirmed code for the stored secret of the caller, accepted at some time up to now by
the secret as the handler has read it. -/
structure Confirms (w : AuthWorld) (caller : Caller) (credential : TotpCredential)
    (code : String) : Prop where
  resolved : caller.Seen settings w
  seen : w.Saw (credential ∈ ·.totpCredentials)
  own : credential.userId = caller.principal.userId
  accepted : ∃ t ≤ w.server.now, CodeAccepted settings credential code t

/-- The audit row of a sign-in with a wrong password. -/
def AuditRow.wrongPassword (row : AuditRow) : Bool :=
  row.event = .signInFail ∧ row.detail.head? = some ("reason", .str "password")

/-- A write of the log, by its statement. -/
def AuthWorld.Did (w : AuthWorld) (P : Statement → Prop) (reason : Reason) : Prop :=
  ∃ e ∈ w.log, P e.statement ∧ e.reason = reason

/-- Two writes of the log, in this order. -/
def AuthWorld.DidBoth (w : AuthWorld) (P Q : Statement → Prop) (reason : Reason) : Prop :=
  ∃ e e', [e, e'].Sublist w.log ∧ P e.statement ∧ Q e'.statement ∧
    e.reason = reason ∧ e'.reason = reason

def Statement.createsUser (userId : String) : Statement → Prop
  | insertUser user _ => user.userId = userId
  | _ => False

def Statement.setsCodes (userId : String) : Statement → Prop
  | setRecoveryCodes _ _ u => u = userId
  | _ => False

def Statement.setsHash (passwordHash userId : String) : Statement → Prop
  | setPasswordHash h _ _ u => h = passwordHash ∧ u = userId
  | _ => False

def Statement.rotates (sessionId : String) : Statement → Prop
  | rotateToken _ _ _ s => s = sessionId
  | _ => False

def Statement.revokesAll (userId : String) : Statement → Prop
  | revokeAllForUser _ u => u = userId
  | _ => False

/-- The fresh hash of a password. -/
def freshHash (n : Nat) (password : String) : String × String :=
  PasswordHasherService.hash settings.prim settings.peppers n password

/-- Why a write may be made by a handler of a route, one constructor for each kind of write
that there is. -/
inductive Justified (route : Route) (w : AuthWorld) : Statement → Reason → Prop
  | organization {orgId} : Justified route w (.insertOrganization orgId) .plain
  | user {u m} : Justified route w (.insertUser u m) .plain
  | invitee {u m invite} (h : Invited w invite) (hEmail : u.email = invite.email)
      (hOrg : m.orgId = invite.orgId) (hRole : m.role = invite.role) :
      Justified route w (.insertUser u m) (.acceptInvite invite)
  | failedLogin {user row time now} (hRoute : route = .signIn) (hTime : time ≤ w.server.now) :
      Justified route w (.setFailedLogin (newFailedCount row)
        (lockedUntilFor (newFailedCount row) time) now user.userId) (.failedLogin user row time)
  | succeeded {user password now} (h : SignsIn settings w user password) :
      Justified route w (.resetFailedLogin now user.userId) (.signIn user password)
  | rehashed {user password now} (h : SignsIn settings w user password) :
      Justified route w (.setPasswordHash (freshHash settings w.drawn password).1
        (freshHash settings w.drawn password).2 now user.userId) (.rehash user password)
  | changed {caller user password now} (hRoute : route = .passwordChange)
      (h : Changes settings w caller user) :
      Justified route w (.setPasswordHash (freshHash settings w.drawn password).1
        (freshHash settings w.drawn password).2 now user.userId)
        (.passwordChange caller user password)
  | reset {token password now} (hRoute : route = .passwordResetComplete) (h : Presents w token)
      (hConsumed : ∃ now, w.Did (· = .consumeToken token.kind now token.tokenHash)
        (.consumed token)) :
      Justified route w (.setPasswordHash (freshHash settings w.drawn password).1
        (freshHash settings w.drawn password).2 now token.userId) (.passwordReset token password)
  | totpEnabled {caller credential code now} (h : Confirms settings w caller credential code)
      (hSession : caller.principal.isSession = true) :
      Justified route w (.setTotpEnabled true now caller.principal.userId)
        (.confirmed caller credential code)
  | totpDisabled {caller now} (h : caller.Seen settings w)
      (hSession : caller.principal.isSession = true) :
      Justified route w (.setTotpEnabled false now caller.principal.userId) (.caller caller)
  | verified {token now} (hRoute : route = .emailVerifyComplete) (h : Presents w token) :
      Justified route w (.setEmailVerified now token.userId) (.consumed token)
  | emailVerified {now userId} : Justified route w (.setEmailVerified now userId) .plain
  | roleChanged {caller role userId} (h : caller.Seen settings w)
      (hRole : caller.principal.hasRole [.orgOwner] = true) :
      Justified route w (.setRole role userId caller.principal.orgId) (.caller caller)
  | signedIn {user password row} (h : SignsIn settings w user password)
      (hUser : row.userId = user.userId) :
      Justified route w (.insertSession row) (.signIn user password)
  | recovered {user stored code row} (hRoute : route = .totpRecovery)
      (h : Recovers settings w user stored code)
      (hUser : row.userId = user.userId)
      (hConsumed : w.Did (Statement.setsCodes user.userId) (.recovery user stored code)) :
      Justified route w (.insertSession row) (.recovery user stored code)
  | welcomed {invite row} (h : Invited w invite)
      (hUser : w.Did (Statement.createsUser row.userId) (.acceptInvite invite)) :
      Justified route w (.insertSession row) (.acceptInvite invite)
  | touched {now sessionId} : Justified route w (.touchSession now sessionId) .plain
  | refreshed {caller sessionId tokenHash csrfToken now} (h : caller.Seen settings w)
      (hOwn : caller.principal.session? = some sessionId) :
      Justified route w (.rotateToken tokenHash csrfToken now sessionId) (.caller caller)
  | rotated {caller user password sessionId tokenHash csrfToken now passwordHash}
      (h : Changes settings w caller user) (hOwn : caller.principal.session? = some sessionId)
      (hSet : w.Did (Statement.setsHash passwordHash user.userId)
        (.passwordChange caller user password)) :
      Justified route w (.rotateToken tokenHash csrfToken now sessionId)
        (.passwordChange caller user password)
  | revoked {caller now sessionId} (h : caller.Seen settings w) :
      Justified route w (.revokeSession now sessionId) (.caller caller)
  | signedOut {caller now sessionId} (h : caller.Seen settings w)
      (hOwn : caller.principal.session? = some sessionId) :
      Justified route w (.revokeSession now sessionId) (.signOut caller)
  | revokedAll {token password now passwordHash} (h : Presents w token)
      (hSet : w.Did (Statement.setsHash passwordHash token.userId)
        (.passwordReset token password)) :
      Justified route w (.revokeAllForUser now token.userId) (.passwordReset token password)
  | token {row} : Justified route w (.insertToken row) .plain
  | consumed {row now} (h : Presents w row) :
      Justified route w (.consumeToken row.kind now row.tokenHash) (.consumed row)
  | invited {caller row} (h : caller.Seen settings w)
      (hRole : caller.principal.hasRole [.orgOwner] = true)
      (hOrg : row.orgId = caller.principal.orgId) :
      Justified route w (.insertInvite row) (.caller caller)
  | inviteConsumed {invite now} (h : Invited w invite) :
      Justified route w (.consumeInvite now invite.inviteId) (.acceptInvite invite)
  | totpSetUp {caller row} (h : caller.Seen settings w)
      (hOwn : row.userId = caller.principal.userId) :
      Justified route w (.insertTotpCredential row) (.caller caller)
  | codesRenewed {caller credential code now} (h : Confirms settings w caller credential code) :
      Justified route w (.setRecoveryCodes (TotpService.recoveryHashes settings.prim w.drawn) now
        caller.principal.userId) (.confirmed caller credential code)
  | codeConsumed {user stored code now} (h : Recovers settings w user stored code) :
      Justified route w (.setRecoveryCodes
        (stored.erase (TotpService.hashRecoveryCode settings.prim code)) now user.userId)
        (.recovery user stored code)
  | totpDeleted {caller} (h : caller.Seen settings w) :
      Justified route w (.deleteTotpCredential caller.principal.userId) (.caller caller)
  | keyIssued {caller row} (h : caller.Seen settings w)
      (hRole : caller.principal.hasRole adminRoles = true)
      (hOrg : row.orgId = caller.principal.orgId) :
      Justified route w (.insertApiKey row) (.caller caller)
  | keyTouched {now apiKeyId} : Justified route w (.touchApiKey now apiKeyId) .plain
  | keyRevoked {caller now apiKeyId} (h : caller.Seen settings w)
      (hRole : caller.principal.hasRole adminRoles = true)
      (hSeen : w.Saw fun db => ∃ key ∈ db.apiKeys, key.orgId = caller.principal.orgId ∧
        key.apiKeyId = apiKeyId) :
      Justified route w (.revokeApiKey now apiKeyId) (.caller caller)
  | audited {row} (hRow : row.wrongPassword = false) :
      Justified route w (.insertAudit row) .plain
  | callerAudited {row caller} (h : caller.Seen settings w) (hRow : row.wrongPassword = false) :
      Justified route w (.insertAudit row) (.caller caller)
  | failureAudited {row user} (hRoute : route = .signIn) (hUser : row.userId = some user.userId)
      (hRow : row.wrongPassword = true) : Justified route w (.insertAudit row) (.wrongPassword user)
  | changeAudited {row caller user password sessionId passwordHash}
      (hRoute : route = .passwordChange)
      (hOwn : caller.principal.session? = some sessionId) (hRow : row.wrongPassword = false)
      (hDone : w.DidBoth (Statement.setsHash passwordHash user.userId)
        (Statement.rotates sessionId) (.passwordChange caller user password)) :
      Justified route w (.insertAudit row) (.passwordSet passwordHash)
  | resetAudited {row token password passwordHash} (hRoute : route = .passwordResetComplete)
      (hRow : row.wrongPassword = false)
      (hDone : w.DidBoth (Statement.setsHash passwordHash token.userId)
        (Statement.revokesAll token.userId) (.passwordReset token password)) :
      Justified route w (.insertAudit row) (.passwordSet passwordHash)

/-! ## Steps -/

/-- A step of a handler of a route.  Either it leaves the tables alone, or it runs one
statement with fresh random texts, for a reason that the route allows. -/
inductive AuthStep (route : Route) (w : AuthWorld) : AuthWorld → Prop
  | quiet {w'} (hDb : w'.db = w.db) (hLog : w'.log = w.log)
      (hNow : w'.server.now = w.server.now) (hDrawn : w.drawn ≤ w'.drawn) : AuthStep route w w'
  | write {statement reason db} (hRun : w.db.execute settings.prim statement = .ok db)
      (hFresh : statement.Fresh settings.prim w.drawn)
      (hReason : Justified settings route w statement reason) :
      AuthStep route w (w.wrote statement reason db)

theorem AuthStep.later {route : Route} {w w' : AuthWorld} (h : AuthStep settings route w w') :
    w.Later w' := by
  cases h with
  | quiet hDb hLog hNow hDrawn =>
      exact AuthWorld.later_of_same hDb hLog (Int.le_of_eq hNow.symm) hDrawn
  | write hRun hFresh hReason => exact w.later_wrote _ _ _

/-! ## What a response stands for -/

/-- A key has been issued on a request: its row is stored, under one scope at most. -/
structure KeyIssued (body : IssueApiKeyRequest) (rawKey : String) (view : ApiKeyView)
    (w : AuthWorld) (caller : Caller) (issuedAt createdAt : Int) (n : Nat) : Prop where
  issued : issuedAt ≤ createdAt
  created : createdAt ≤ w.server.now
  oneScope : body.agentId = none ∨ body.agentIdAllowlist.filter (· ≠ []) = none
  stored : w.Did (· = .insertApiKey
    ((body.newKey caller.principal issuedAt).row settings createdAt n)) (.caller caller)
  raw : rawKey = (body.newKey caller.principal issuedAt).rawKey settings n
  shown : view = viewOf { (body.newKey caller.principal issuedAt).row settings createdAt n with
    agentIdAllowlist := (body.newKey caller.principal issuedAt).agentIdAllowlist }

/-- A key that is handed out has been issued. -/
def Delivers : Request → Response → AuthWorld → Prop
  | .issueApiKey _ body, response, w => ∀ rawKey view, response.reply = .apiKey rawKey view →
      ∃ caller issuedAt createdAt n,
        KeyIssued settings body rawKey view w caller issuedAt createdAt n
  | _, _, _ => True

/-- The course of the service. -/
def authCourse : Course AuthWorld Request where
  Later := AuthWorld.Later
  Step r := AuthStep settings r.route
  refl := AuthWorld.Later.refl
  trans := AuthWorld.Later.trans
  rest _ _ := .quiet rfl rfl rfl (Nat.le_refl _)
  later := AuthStep.later settings

end AgentShield.Auth
