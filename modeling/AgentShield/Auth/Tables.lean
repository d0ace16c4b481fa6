import AgentShield.Server.Storage

/-!
# The tables of enterprise authentication

Users with their memberships, sessions, single-use tokens, invites, TOTP credentials, API
keys and the audit log.  A `Statement` is one write: a statement of its own or the whole
transaction of `create_user`.  `AuthDb.execute` runs one, or refuses it with the constraint
that it breaks.

Hashes, random texts and the one-time codes of an authenticator are parameters
(`AuthPrimitives`).
-/

namespace AgentShield.Auth

open AgentShield.Lib AgentShield.Sdk AgentShield.Server

/-- What is computed outside the repository.  The random texts are numbered in the order in
which they are drawn. -/
structure AuthPrimitives where
  /-- `lower(email)` of the database. -/
  lower : String → String
  sha256Hex : String → String
  hmacSha256Hex : String → String → String
  token : Nat → String
  uuid : Nat → String
  argon2Hash : Nat → String → String
  argon2Verify : String → String → Bool
  argon2NeedsRehash : String → Bool
  fernetEncrypt : String → Nat → String → String
  fernetDecrypt : String → String → Option String
  totpSecret : Nat → String
  totpAccepts : String → String → Int → Bool
  isDigit : Char → Bool
  provisioningUri : String → String → String

/-! ## Rows -/

/-- The roles of a member of an organisation, in the order of the enumeration of the source. -/
inductive Role where
  | orgOwner
  | securityAdmin
  | integrationEngineer
  | complianceAuditor
  | readonlyInvestigator
  deriving DecidableEq, Repr

/-- The status of an account. A locked account is let in again once its lock has run out; a
disabled one is not. -/
inductive UserStatus where
  | active
  | locked
  | disabled
  deriving DecidableEq, Repr

/-- A row of `users`: the account with its password hash, the key id of the pepper under it,
and the counter of failed sign-ins with the end of a lock. -/
structure User where
  userId : String
  email : String
  passwordHash : String
  passwordPepperKid : String
  name : String := ""
  status : UserStatus := .active
  emailVerifiedAt : Option Int := none
  failedLoginCount : Nat := 0
  lockedUntil : Option Int := none
  totpEnabled : Bool := false
  createdAt : Int
  updatedAt : Int
  lastLoginAt : Option Int := none
  deriving DecidableEq

/-- A row of `memberships`: the role that a user has in an organisation, and since when. -/
structure Membership where
  userId : String
  orgId : String
  role : Role
  invitedBy : Option String := none
  joinedAt : Int
  deriving DecidableEq

/-- A row of `sessions`. The cookie's token is kept as its hash only, and the CSRF token as it
is. -/
structure Session where
  sessionId : String
  userId : String
  tokenHash : String
  csrfToken : String
  ip : Option String := none
  userAgent : Option String := none
  createdAt : Int
  lastUsedAt : Int
  expiresAt : Int
  revokedAt : Option Int := none
  deriving DecidableEq

/-- The two tables of single-use tokens that are sent by mail. -/
inductive TokenKind where
  | passwordReset
  | emailVerification
  deriving DecidableEq, Repr

/-- The table of a kind. -/
def TokenKind.table : TokenKind → String
  | passwordReset => "password_reset_tokens"
  | emailVerification => "email_verification_tokens"

/-- A row of the table of its kind.  The two tables, for resets and for verifications, have
the same columns. -/
structure TokenRow where
  kind : TokenKind
  tokenHash : String
  userId : String
  expiresAt : Int
  consumedAt : Option Int := none
  createdAt : Int
  deriving DecidableEq

/-- A row of `invites`: an address that may join an organisation with a role, until the invite
expires or is used. -/
structure Invite where
  inviteId : String
  orgId : String
  email : String
  role : Role
  invitedBy : String
  expiresAt : Int
  consumedAt : Option Int := none
  createdAt : Int
  tokenHash : String
  deriving DecidableEq

/-- A row of `totp_credentials`: the secret under a Fernet key, and the hashes of the recovery
codes that are left. -/
structure TotpCredential where
  userId : String
  secretEncrypted : String
  activeKid : String
  recoveryCodesHash : List String
  enabledAt : Int
  lastUsedAt : Option Int := none
  deriving DecidableEq

/-- What an API key starts with: a live key or one for tests. -/
inductive KeyPrefix where
  | live
  | test
  deriving DecidableEq, Repr

def KeyPrefix.value : KeyPrefix → String
  | live => "as_live_"
  | test => "as_test_"

/-- A row of `api_keys`. A key is bound to one agent, to a list of agents or to its whole
organisation. -/
structure ApiKey where
  apiKeyId : String
  orgId : String
  agentId : Option String := none
  agentIdAllowlist : Option (List String) := none
  tokenHash : String
  keyPrefix : KeyPrefix
  displayName : String := ""
  createdBy : String
  createdAt : Int
  expiresAt : Option Int := none
  lastUsedAt : Option Int := none
  revokedAt : Option Int := none
  deriving DecidableEq

/-- The event types of the audit trail, under the source's names.  Refused attempts have types
of their own. -/
inductive AuthEvent where
  | startedInOpenMode
  | signUpOk
  | signUpFail
  | signInOk
  | signInFail
  | signInLocked
  | signInTotpRequired
  | signInTotpFail
  | signInTotpOk
  | signInRecoveryOk
  | signOut
  | sessionRefresh
  | sessionRevoke
  | passwordResetRequest
  | passwordResetComplete
  | passwordChange
  | emailVerifyRequest
  | emailVerifyComplete
  | totpSetup
  | totpConfirm
  | totpDisable
  | roleChange
  | inviteSend
  | inviteAccept
  | inviteAcceptOk
  | inviteAcceptFail
  | apiKeyIssue
  | apiKeyRevoke
  | apiKeyAuthzDeny
  | ratelimitBlock
  | accountLock
  | accountUnlock
  deriving DecidableEq, Repr

/-- A row of `audit_events`: who did what, from where, with the details that the route writes.
-/
structure AuditRow where
  auditId : String
  event : AuthEvent
  userId : Option String := none
  orgId : Option String := none
  ip : Option String := none
  userAgent : Option String := none
  detail : List (String × Json) := []
  createdAt : Int
  deriving DecidableEq

/-- The tables of the accounts, each with its rows in the order of their insertion. -/
structure AuthDb where
  organizations : List String := []
  users : List User := []
  memberships : List Membership := []
  sessions : List Session := []
  tokens : List TokenRow := []
  invites : List Invite := []
  totpCredentials : List TotpCredential := []
  apiKeys : List ApiKey := []
  auditLog : List AuditRow := []
  deriving DecidableEq

/-! ## Statements -/

/-- The statements by which the routes write to the tables, with their arguments.  A statement
is atomic; what a handler does between two of them is not. -/
inductive Statement where
  | insertOrganization (orgId : String)
  | insertUser (user : User) (membership : Membership)
  | setFailedLogin (count : Nat) (lockedUntil : Option Int) (now : Int) (userId : String)
  | resetFailedLogin (now : Int) (userId : String)
  | setPasswordHash (passwordHash pepperKid : String) (now : Int) (userId : String)
  | setTotpEnabled (enabled : Bool) (now : Int) (userId : String)
  | setEmailVerified (now : Int) (userId : String)
  | setRole (role : Role) (userId orgId : String)
  | insertSession (row : Session)
  | touchSession (now : Int) (sessionId : String)
  | rotateToken (tokenHash csrfToken : String) (now : Int) (sessionId : String)
  | revokeSession (now : Int) (sessionId : String)
  | revokeAllForUser (now : Int) (userId : String)
  | insertToken (row : TokenRow)
  | consumeToken (kind : TokenKind) (now : Int) (tokenHash : String)
  | insertInvite (row : Invite)
  | consumeInvite (now : Int) (inviteId : String)
  | insertTotpCredential (row : TotpCredential)
  | setRecoveryCodes (hashes : List String) (now : Int) (userId : String)
  | deleteTotpCredential (userId : String)
  | insertApiKey (row : ApiKey)
  | touchApiKey (now : Int) (apiKeyId : String)
  | revokeApiKey (now : Int) (apiKeyId : String)
  | insertAudit (row : AuditRow)
  deriving DecidableEq

namespace Statement

/-! ### What a statement does to the rows of each table

An update is a function of the row, and an insert adds a row. -/

/-- What an UPDATE does to a row of `users`; a row that it does not select stays as it is. -/
def setUser : Statement → User → User
  | setFailedLogin count lockedUntil now userId, u =>
      if u.userId = userId then
        { u with
          failedLoginCount := count
          lockedUntil := lockedUntil
          status := if lockedUntil = none then u.status else .locked
          updatedAt := now }
      else u
  | resetFailedLogin now userId, u =>
      if u.userId = userId then
        { u with
          failedLoginCount := 0
          lockedUntil := none
          status := if u.status = .locked then .active else u.status
          lastLoginAt := some now
          updatedAt := now }
      else u
  | setPasswordHash passwordHash pepperKid now userId, u =>
      if u.userId = userId then
        { u with passwordHash := passwordHash, passwordPepperKid := pepperKid, updatedAt := now }
      else u
  | setTotpEnabled enabled now userId, u =>
      if u.userId = userId then { u with totpEnabled := enabled, updatedAt := now } else u
  | setEmailVerified now userId, u =>
      if u.userId = userId then { u with emailVerifiedAt := some now, updatedAt := now } else u
  | _, u => u

def addUser : Statement → List User
  | insertUser user _ => [user]
  | _ => []

/-- What an UPDATE does to a row of `memberships`: the role alone can change. -/
def setMembership : Statement → Membership → Membership
  | setRole role userId orgId, m =>
      if m.userId = userId ∧ m.orgId = orgId then { m with role := role } else m
  | _, m => m

def addMembership : Statement → List Membership
  | insertUser _ membership => [membership]
  | _ => []

/-- What an UPDATE does to a row of `sessions`: its token, its times or its revocation. -/
def setSession : Statement → Session → Session
  | touchSession now sessionId, s =>
      if s.sessionId = sessionId then { s with lastUsedAt := now } else s
  | rotateToken tokenHash csrfToken now sessionId, s =>
      if s.sessionId = sessionId then
        { s with tokenHash := tokenHash, csrfToken := csrfToken, lastUsedAt := now }
      else s
  | revokeSession now sessionId, s =>
      if s.sessionId = sessionId then { s with revokedAt := some now } else s
  | revokeAllForUser now userId, s =>
      if s.userId = userId ∧ s.revokedAt = none then { s with revokedAt := some now } else s
  | _, s => s

def addSession : Statement → List Session
  | insertSession row => [row]
  | _ => []

/-- What an UPDATE does to a token. It sets `consumed_at` without looking whether it is set. -/
def setToken : Statement → TokenRow → TokenRow
  | consumeToken kind now tokenHash, t =>
      if t.kind = kind ∧ t.tokenHash = tokenHash then { t with consumedAt := some now } else t
  | _, t => t

def addToken : Statement → List TokenRow
  | insertToken row => [row]
  | _ => []

/-- What an UPDATE does to an invite. -/
def setInvite : Statement → Invite → Invite
  | consumeInvite now inviteId, i =>
      if i.inviteId = inviteId then { i with consumedAt := some now } else i
  | _, i => i

def addInvite : Statement → List Invite
  | insertInvite row => [row]
  | _ => []

/-- `none` deletes the row. -/
def setTotpCredential : Statement → TotpCredential → Option TotpCredential
  | setRecoveryCodes hashes now userId, c =>
      some (if c.userId = userId then
        { c with recoveryCodesHash := hashes, lastUsedAt := some now } else c)
  | deleteTotpCredential userId, c => if c.userId = userId then none else some c
  | _, c => some c

def addTotpCredential : Statement → List TotpCredential
  | insertTotpCredential row => [row]
  | _ => []

/-- What an UPDATE does to an API key: its last use or its revocation. -/
def setApiKey : Statement → ApiKey → ApiKey
  | touchApiKey now apiKeyId, k =>
      if k.apiKeyId = apiKeyId then { k with lastUsedAt := some now } else k
  | revokeApiKey now apiKeyId, k =>
      if k.apiKeyId = apiKeyId then { k with revokedAt := some now } else k
  | _, k => k

def addApiKey : Statement → List ApiKey
  | insertApiKey row => [row]
  | _ => []

def addAudit : Statement → List AuditRow
  | insertAudit row => [row]
  | _ => []

/-- `ON CONFLICT (org_id) DO NOTHING`. -/
def addOrganization (organizations : List String) : Statement → List String
  | insertOrganization orgId => if orgId ∈ organizations then [] else [orgId]
  | _ => []

end Statement

/-- Refuses a statement that breaks a constraint. -/
def check (ok : Prop) [Decidable ok] (c : Constraint) : Except Constraint Unit :=
  if ok then .ok () else .error c

/-- The first row of `ORDER BY joined_at`. -/
def earliest : List Membership → Option Membership
  | [] => none
  | m :: rest =>
      match earliest rest with
      | none => some m
      | some other => if other.joinedAt < m.joinedAt then some other else some m

namespace AuthDb

variable (prim : AuthPrimitives) (db : AuthDb)

/-- The user has a row, on which the foreign keys of the other tables rest. -/
def hasUser (userId : String) : Prop := ∃ u ∈ db.users, u.userId = userId

instance (userId : String) : Decidable (db.hasUser userId) :=
  inferInstanceAs (Decidable (∃ u ∈ db.users, u.userId = userId))

/-- The keys, unique columns and references of the table that a statement writes.  The first
violation is the error that the driver raises, and the tables stay as they were. -/
def constraints : Statement → Except Constraint Unit
  | .insertUser user membership => do
      check (¬ db.hasUser user.userId) (.primaryKey "users")
      check (∀ u ∈ db.users, prim.lower u.email ≠ prim.lower user.email) (.unique "users")
      check (∀ m ∈ db.memberships, ¬ (m.userId = membership.userId ∧ m.orgId = membership.orgId))
        (.primaryKey "memberships")
      check (membership.orgId ∈ db.organizations) (.foreignKey "memberships")
      check (∀ inviter ∈ membership.invitedBy, db.hasUser inviter ∨ inviter = user.userId)
        (.foreignKey "memberships")
  | .insertSession row => do
      check (∀ s ∈ db.sessions, s.sessionId ≠ row.sessionId) (.primaryKey "sessions")
      check (∀ s ∈ db.sessions, s.tokenHash ≠ row.tokenHash) (.unique "sessions")
      check (db.hasUser row.userId) (.foreignKey "sessions")
  | .rotateToken tokenHash _ _ sessionId =>
      -- only where there is a row to update
      check ((∀ s ∈ db.sessions, s.sessionId ≠ sessionId) ∨
        ∀ s ∈ db.sessions, s.sessionId = sessionId ∨ s.tokenHash ≠ tokenHash) (.unique "sessions")
  | .insertToken row => do
      check (∀ t ∈ db.tokens, ¬ (t.kind = row.kind ∧ t.tokenHash = row.tokenHash))
        (.primaryKey row.kind.table)
      check (db.hasUser row.userId) (.foreignKey row.kind.table)
  | .insertInvite row => do
      check (∀ i ∈ db.invites, i.inviteId ≠ row.inviteId) (.primaryKey "invites")
      check (∀ i ∈ db.invites, i.tokenHash ≠ row.tokenHash) (.unique "invites")
      check (row.orgId ∈ db.organizations) (.foreignKey "invites")
      check (db.hasUser row.invitedBy) (.foreignKey "invites")
  | .insertTotpCredential row => do
      check (∀ c ∈ db.totpCredentials, c.userId ≠ row.userId) (.primaryKey "totp_credentials")
      check (db.hasUser row.userId) (.foreignKey "totp_credentials")
  | .insertApiKey row => do
      check (∀ k ∈ db.apiKeys, k.apiKeyId ≠ row.apiKeyId) (.primaryKey "api_keys")
      check (∀ k ∈ db.apiKeys, k.tokenHash ≠ row.tokenHash) (.unique "api_keys")
      check (row.orgId ∈ db.organizations) (.foreignKey "api_keys")
      check (db.hasUser row.createdBy) (.foreignKey "api_keys")
  | .insertAudit row =>
      check (∀ a ∈ db.auditLog, a.auditId ≠ row.auditId) (.primaryKey "audit_log_auth")
  | _ => .ok ()

/-- The tables after a statement: each old row as the statement leaves it, and then the rows
that it adds. -/
def apply (st : Statement) : AuthDb where
  organizations := db.organizations ++ st.addOrganization db.organizations
  users := db.users.map st.setUser ++ st.addUser
  memberships := db.memberships.map st.setMembership ++ st.addMembership
  sessions := db.sessions.map st.setSession ++ st.addSession
  tokens := db.tokens.map st.setToken ++ st.addToken
  invites := db.invites.map st.setInvite ++ st.addInvite
  totpCredentials := db.totpCredentials.filterMap st.setTotpCredential ++ st.addTotpCredential
  apiKeys := db.apiKeys.map st.setApiKey ++ st.addApiKey
  auditLog := db.auditLog ++ st.addAudit

/-- A statement on the tables: the constraints are checked first, and where one fails nothing
is written. -/
def execute (st : Statement) : Except Constraint AuthDb := do
  db.constraints prim st
  return db.apply st

theorem execute_ok {prim : AuthPrimitives} {db db' : AuthDb} {st : Statement}
    (h : db.execute prim st = .ok db') : db.constraints prim st = .ok () ∧ db' = db.apply st := by
  unfold execute at h
  cases hCheck : db.constraints prim st with
  | ok u =>
      rw [hCheck] at h
      exact ⟨rfl, (Except.ok.inj h).symm⟩
  | error c =>
      rw [hCheck] at h
      cases h

/-! ### Lookups -/

/-- `WHERE lower(email) = lower($1)`. -/
def findByEmail (email : String) : Option User :=
  db.users.find? fun u => prim.lower u.email = prim.lower email

def findByUserId (userId : String) : Option User :=
  db.users.find? fun u => u.userId = userId

def findSession (sessionId : String) : Option Session :=
  db.sessions.find? fun s => s.sessionId = sessionId

/-- The session that a cookie stands for, active or not. -/
def findSessionByHash (tokenHash : String) : Option Session :=
  db.sessions.find? fun s => s.tokenHash = tokenHash

/-- The token of its kind with the hash. The kind is the table that it is looked up in. -/
def findToken (kind : TokenKind) (tokenHash : String) : Option TokenRow :=
  db.tokens.find? fun t => t.kind = kind ∧ t.tokenHash = tokenHash

def findInvite (tokenHash : String) : Option Invite :=
  db.invites.find? fun i => i.tokenHash = tokenHash

def findTotpCredential (userId : String) : Option TotpCredential :=
  db.totpCredentials.find? fun c => c.userId = userId

def findApiKey (tokenHash : String) : Option ApiKey :=
  db.apiKeys.find? fun k => k.tokenHash = tokenHash

/-- The first membership of a user by the time of joining. -/
def primaryMembership (userId : String) : Option Membership :=
  earliest (db.memberships.filter fun m => m.userId = userId)

/-- The role of a user in an organisation, if there is a membership. -/
def roleFor (userId orgId : String) : Option Role :=
  (db.memberships.find? fun m => m.userId = userId ∧ m.orgId = orgId).map (·.role)

end AuthDb

end AgentShield.Auth
