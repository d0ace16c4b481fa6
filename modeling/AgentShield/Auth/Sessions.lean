import AgentShield.Auth.Users

/-!
# Sessions, single-use tokens and API keys

A cookie, a token and a key are raw texts that are handed out once; the tables hold their
hashes.  What a lookup makes of the row that it finds is a function of the row and the time
(`Session.active`, `TokenRow.usable`, `ApiKey.active`).
-/

namespace AgentShield.Auth

open AgentShield.Lib AgentShield.Sdk AgentShield.Server

variable (settings : AuthSettings)

/-! ## Sessions -/

/-- What a new or refreshed session hands out: the token for the cookie and the one for the
header. -/
structure IssuedSession where
  rawToken : String
  csrfToken : String
  deriving DecidableEq

/-- The row of a session: two fresh tokens, the first kept as its hash and sent in the cookie,
the second kept as it is and compared with the CSRF header. -/
def newSession (userId : String) (ip userAgent : Option String) (now : Int) (n : Nat) :
    Session where
  sessionId := settings.prim.uuid n
  userId := userId
  tokenHash := settings.prim.sha256Hex (settings.prim.token n)
  csrfToken := settings.prim.token (n + 1)
  ip := ip
  userAgent := userAgent
  createdAt := now
  lastUsedAt := now
  expiresAt := now + settings.sessionTtlSeconds * 1000

/-- `create_session`: stores the row and hands out its tokens. -/
def createSession (userId : String) (ip userAgent : Option String) (reason : Reason) :
    AuthHandler IssuedSession := do
  let n ← executeNow settings.prim
    (fun now n => .insertSession (newSession settings userId ip userAgent now n)) reason
  return { rawToken := settings.prim.token n, csrfToken := settings.prim.token (n + 1) }

/-- Neither revoked nor expired at `now`. -/
def Session.active (row : Session) (now : Int) : Bool :=
  row.revokedAt = none ∧ ¬ row.expiresAt < now

/-- `lookup_session`: the session of a cookie, if it is neither revoked nor expired. -/
def lookupSession (rawToken : String) : AuthHandler (Option Session) := do
  if rawToken = "" then return none
  else do
    let row ← fetch fun db => db.findSessionByHash (settings.prim.sha256Hex rawToken)
    let now ← nowMs
    return row.filter (Session.active · now)

def touchSession (sessionId : String) : AuthHandler Nat :=
  executeNow settings.prim (fun now _ => .touchSession now sessionId) .plain

/-- A fresh cookie and CSRF token for a session that exists. -/
def rotateToken (sessionId : String) (reason : Reason) : AuthHandler IssuedSession := do
  let n ← executeNow settings.prim
    (fun now n => .rotateToken (settings.prim.sha256Hex (settings.prim.token n))
      (settings.prim.token (n + 1)) now sessionId) reason
  return { rawToken := settings.prim.token n, csrfToken := settings.prim.token (n + 1) }

/-- `revoke_session`: one UPDATE by session id. -/
def revokeSession (sessionId : String) (reason : Reason) : AuthHandler Nat :=
  executeNow settings.prim (fun now _ => .revokeSession now sessionId) reason

/-- `revoke_all_for_user`: one UPDATE over the user's sessions that are not revoked yet. -/
def revokeAllForUser (userId : String) (reason : Reason) : AuthHandler Nat :=
  executeNow settings.prim (fun now _ => .revokeAllForUser now userId) reason

/-! ### Cross-site requests -/

/-- The methods for which the source asks for a CSRF token. -/
def isStateChanging (http : Http) : Bool :=
  ["POST", "PATCH", "PUT", "DELETE"].contains http.method.toUpper

/-- The header under either of its spellings. -/
def csrfTokenFromHeader (http : Http) : Option String :=
  (nonempty (Dict.get? http.headers "x-csrf-token"))

/-- The request must echo the CSRF token of the session. -/
def csrfMatches (http : Http) (csrfToken : String) : Bool :=
  !isStateChanging http || csrfTokenFromHeader http == some csrfToken

/-- `require_csrf`: the header must carry the session's CSRF token. -/
def requireCsrf (http : Http) (row : Session) : AuthHandler Unit :=
  Async.raiseIf (csrfMatches http row.csrfToken = false) (apiError 403 .forbidden)

/-! ## Single-use tokens -/

def passwordResetTtlMs : Int := 15 * 60 * 1000
def emailVerifyTtlMs : Int := 24 * 60 * 60 * 1000
def inviteTtlMs : Int := 7 * 24 * 60 * 60 * 1000

/-- How long a mailed token can be used. -/
def TokenKind.ttlMs : TokenKind → Int
  | passwordReset => passwordResetTtlMs
  | emailVerification => emailVerifyTtlMs

/-- Stores a fresh token for the user and returns its raw text, which goes into the mail.
Earlier tokens of the user stay usable. -/
def issue (kind : TokenKind) (userId : String) : AuthHandler String := do
  let expiresFrom ← nowMs
  let n ← executeNow settings.prim
    (fun now n => .insertToken
      { kind := kind
        tokenHash := settings.prim.sha256Hex (settings.prim.token n)
        userId := userId
        expiresAt := expiresFrom + kind.ttlMs
        createdAt := now }) .plain
  return settings.prim.token n

/-- Neither consumed nor expired at `now`. -/
def TokenRow.usable (row : TokenRow) (now : Int) : Bool :=
  row.consumedAt = none ∧ ¬ row.expiresAt < now

/-- Looks a token up and marks it as consumed, in two statements.  The source returns the
user of the row. -/
def consume (kind : TokenKind) (raw : String) : AuthHandler (Option TokenRow) := do
  let found ← fetch fun db => db.findToken kind (settings.prim.sha256Hex raw)
  let now ← nowMs
  match found.filter (TokenRow.usable · now) with
  | none => return none
  | some row => do
      let _ ← executeNow settings.prim
        (fun now _ => .consumeToken kind now (settings.prim.sha256Hex raw)) (.consumed row)
      return some row

/-! ## API keys -/

/-- A key as it is handed out, with the row that is kept of it. -/
structure IssuedApiKey where
  rawKey : String
  row : ApiKey
  deriving DecidableEq

/-- What is asked of a new key: for whom it is, which agents it may speak for, and when it
ends. -/
structure NewApiKey where
  orgId : String
  createdBy : String
  keyPrefix : KeyPrefix
  displayName : String := ""
  agentId : Option String := none
  agentIdAllowlist : Option (List String) := none
  expiresAt : Option Int := none

/-- The secret of a key: its prefix and a fresh token. -/
def NewApiKey.rawKey (new : NewApiKey) (n : Nat) : String :=
  new.keyPrefix.value ++ settings.prim.token n

/-- The row as it is stored, with the hash of the raw key in place of the key.  An empty
allowlist is stored as none. -/
def NewApiKey.row (new : NewApiKey) (now : Int) (n : Nat) : ApiKey where
  apiKeyId := settings.prim.uuid n
  orgId := new.orgId
  agentId := new.agentId
  agentIdAllowlist := new.agentIdAllowlist.filter (· ≠ [])
  tokenHash := settings.prim.sha256Hex (new.rawKey settings n)
  keyPrefix := new.keyPrefix
  displayName := new.displayName
  createdBy := new.createdBy
  createdAt := now
  expiresAt := new.expiresAt

/-- Issues a key.  A scope with both an agent and a list of agents is a `ValueError` that
no handler catches. -/
def issueKey (new : NewApiKey) (reason : Reason) : AuthHandler IssuedApiKey := do
  Async.raiseIf (new.agentId ≠ none ∧ new.agentIdAllowlist ≠ none) .validation
  let now ← nowMs
  let n ← execute settings.prim (fun n => .insertApiKey (new.row settings now n)) reason
  return {
    rawKey := new.rawKey settings n
    row := { new.row settings now n with agentIdAllowlist := new.agentIdAllowlist } }

/-- Neither revoked nor expired at `now`. -/
def ApiKey.active (row : ApiKey) (now : Int) : Bool :=
  row.revokedAt = none ∧ ∀ expires ∈ row.expiresAt, ¬ expires < now

/-- `lookup_api_key`: the key with the hash, if it is neither revoked nor expired. -/
def lookupApiKey (rawKey : String) : AuthHandler (Option ApiKey) := do
  if rawKey = "" then return none
  else do
    let row ← fetch fun db => db.findApiKey (settings.prim.sha256Hex rawKey)
    let now ← nowMs
    return row.filter (ApiKey.active · now)

def touchApiKey (apiKeyId : String) : AuthHandler Nat :=
  executeNow settings.prim (fun now _ => .touchApiKey now apiKeyId) .plain

def revokeKey (apiKeyId : String) (reason : Reason) : AuthHandler Nat :=
  executeNow settings.prim (fun now _ => .revokeApiKey now apiKeyId) reason

/-- `list_api_keys_for_org`: revoked keys are listed too. -/
def listApiKeysForOrg (orgId : String) : AuthHandler (List ApiKey) :=
  fetch fun db => db.apiKeys.filter (·.orgId = orgId)

def agentsInOrg (orgId : String) : AuthHandler (List String) :=
  Async.read fun w => (w.server.db.agents.filter (·.orgId = orgId)).map (·.agentId)

/-! ### Authorisation of an ingest -/

/-- Why a key or a caller may not write a record, in the words of the source. -/
inductive DenyReason where
  | recordOrgMismatch
  | agentOutsideOrg
  | agentOutsideKeyScope
  | agentOutsideAllowlist
  deriving DecidableEq, Repr

/-- The judgement on a record's writer. -/
inductive AuthzResult where
  | allow
  | deny (reason : DenyReason)
  deriving DecidableEq, Repr

/-- The decision of `authorize_ingest`, given the agents of the principal's organisation.  The
agent of a key decides before its allowlist, and only a principal without both is held to the
organisation's agents. -/
def decideIngest (principal : Principal) (recordOrgId recordAgentId : String)
    (members : List String) : AuthzResult :=
  if principal.orgId ≠ recordOrgId then .deny .recordOrgMismatch
  else
    match principal.apiKeyAgentId, principal.apiKeyAgentIdAllowlist with
    | none, none => if recordAgentId ∈ members then .allow else .deny .agentOutsideOrg
    | some agentId, _ =>
        if recordAgentId = agentId then .allow else .deny .agentOutsideKeyScope
    | none, some allowlist =>
        if recordAgentId ∈ allowlist then .allow else .deny .agentOutsideAllowlist

/-- Reads the agents of the organisation for a key that names none. -/
def authorizeIngest (principal : Principal) (recordOrgId recordAgentId : String) :
    AuthHandler AuthzResult :=
  if principal.orgId = recordOrgId ∧ principal.apiKeyAgentId = none ∧
      principal.apiKeyAgentIdAllowlist = none then do
    let members ← agentsInOrg principal.orgId
    return decideIngest principal recordOrgId recordAgentId members
  else return decideIngest principal recordOrgId recordAgentId []

end AgentShield.Auth
