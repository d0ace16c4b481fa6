import AgentShield.Lib.Relational
import AgentShield.Sdk.Json

/-!
# The SQL schema

The tables of the server with their primary keys, unique columns and references, and the
statements and queries that the services issue.  A statement is one of the fixed texts with
the values of its parameters, which are of the types of their columns.

`lower` is `lower(email)` of the database, and the lower case of a text in Python.
-/

namespace AgentShield.Storage

open AgentShield.Lib AgentShield.Lib.Relational AgentShield.Sdk

/-! ## Values and rows -/

inductive Value where
  | null
  | int (n : Int)
  | float (x : PyFloat)
  | bool (b : Bool)
  | text (s : String)
  | texts (xs : List String)
  deriving DecidableEq

def Value.isText : Value → Bool
  | text _ => true
  | _ => false

def Value.isInt : Value → Bool
  | int _ => true
  | _ => false

/-- The value of each column.  A column that has none is null. -/
abbrev Row := String → Value

namespace Row

def of (entries : Dict String Value) : Row := fun c => (Dict.get? entries c).getD .null

/-- `VALUES` for the columns of an insert. -/
def values (columns : List String) (values : List Value) : Row := of (columns.zip values)

/-- `SET` of some columns at once. -/
def assign (r : Row) (sets : Dict String Value) : Row :=
  fun c => (Dict.get? sets c).getD (r c)

/-- The columns that a query names. -/
def only (columns : List String) (r : Row) : Row := fun c => if c ∈ columns then r c else .null

@[simp] theorem only_only (columns : List String) (r : Row) :
    only columns (only columns r) = only columns r := by
  funext c
  by_cases hc : c ∈ columns
  · simp [only, hc]
  · simp [only, hc]

end Row

/-! ## Tables -/

/-- The tables of the two single-use tokens. -/
inductive TokenTable where
  | passwordReset
  | emailVerification
  deriving DecidableEq

inductive TableName where
  | organizations
  | agents
  | agentKeys
  | operations
  | receipts
  | epochs
  | exports
  | interventionLog
  | governanceVerdicts
  | users
  | sessions
  | memberships
  | tokens (table : TokenTable)
  | invites
  | totpCredentials
  | apiKeys
  | auditLogAuth
  deriving DecidableEq

instance : Fintype TableName where
  elems :=
    { .organizations, .agents, .agentKeys, .operations, .receipts, .epochs, .exports,
      .interventionLog, .governanceVerdicts, .users, .sessions, .memberships,
      .tokens .passwordReset, .tokens .emailVerification, .invites, .totpCredentials, .apiKeys,
      .auditLogAuth }
  complete t := by
    cases t with
    | tokens table => cases table <;> decide
    | _ => decide

/-- Every column of a primary key is a `TEXT`.  Memberships alone have two of them. -/
def TableName.primaryKey : TableName → List String
  | organizations => ["org_id"]
  | agents => ["agent_id"]
  | agentKeys => ["kid"]
  | operations => ["operation_id"]
  | receipts => ["receipt_id"]
  | epochs => ["epoch_id"]
  | exports => ["export_id"]
  | interventionLog => ["verdict_id"]
  | governanceVerdicts => ["verdict_id"]
  | users => ["user_id"]
  | sessions => ["session_id"]
  | memberships => ["user_id", "org_id"]
  | tokens _ => ["token_hash"]
  | invites => ["invite_id"]
  | totpCredentials => ["user_id"]
  | apiKeys => ["api_key_id"]
  | auditLogAuth => ["audit_id"]

/-- A key of `TEXT NOT NULL` columns. -/
def textKey (columns : List String) (r : Row) : Option (List Value) :=
  if columns.all (fun c => (r c).isText) = true then some (columns.map r) else none

/-- `UNIQUE (agent_id, seq_no)`. -/
def sequenceKey (r : Row) : Option (List Value) :=
  if (r "agent_id").isText = true ∧ (r "seq_no").isInt = true then
    some [r "agent_id", r "seq_no"]
  else none

/-- `UNIQUE INDEX ... ON users (lower(email))`. -/
def emailKey (lower : String → String) (r : Row) : Option (List Value) :=
  match r "email" with
  | .text email => some [.text (lower email)]
  | _ => none

def TableName.unique (lower : String → String) : TableName → List (Row → Option (List Value))
  | operations => [sequenceKey]
  | receipts => [textKey ["operation_id"]]
  | users => [emailKey lower]
  | sessions => [textKey ["token_hash"]]
  | invites => [textKey ["token_hash"]]
  | apiKeys => [textKey ["token_hash"]]
  | _ => []

/-- A column that refers to the primary key of a table, where it is not null. -/
def reference (column : String) (r : Row) : Option (List Value) :=
  if r column = .null then none else some [r column]

def TableName.foreign : TableName → List (TableName × (Row → Option (List Value)))
  | agentKeys => [(agents, reference "agent_id")]
  | operations => [(agents, reference "agent_id")]
  | receipts => [(operations, reference "operation_id")]
  | sessions => [(users, reference "user_id")]
  | memberships =>
      [(users, reference "user_id"), (organizations, reference "org_id"),
        (users, reference "invited_by")]
  | tokens _ => [(users, reference "user_id")]
  | invites => [(organizations, reference "org_id"), (users, reference "invited_by")]
  | totpCredentials => [(users, reference "user_id")]
  | apiKeys => [(organizations, reference "org_id"), (users, reference "created_by")]
  | _ => []

def schema (lower : String → String) : Schema TableName (List Value) Row := fun t =>
  { primary := textKey t.primaryKey, unique := t.unique lower, foreign := t.foreign }

/-! ## Parameters -/

/-- The type that a column gives to a parameter, with or without null. -/
inductive ParamType where
  | text
  | textOrNull
  | int
  | intOrNull
  | float
  | floatOrNull
  | bool
  | texts
  | textsOrNull
  deriving DecidableEq

def ParamType.fits : ParamType → Value → Bool
  | text, .text _ => true
  | textOrNull, .text _ | textOrNull, .null => true
  | int, .int _ => true
  | intOrNull, .int _ | intOrNull, .null => true
  | float, .float _ => true
  | floatOrNull, .float _ | floatOrNull, .null => true
  | bool, .bool _ => true
  | texts, .texts _ => true
  | textsOrNull, .texts _ | textsOrNull, .null => true
  | _, _ => false

/-- One value for each parameter, of its type. -/
def fitAll : List ParamType → List Value → Bool
  | [], [] => true
  | p :: ps, v :: vs => p.fits v && fitAll ps vs
  | _, _ => false

theorem fitAll_nil {args : List Value} (h : fitAll [] args = true) : args = [] := by
  cases args with
  | nil => rfl
  | cons v vs => cases h

theorem fitAll_cons {p : ParamType} {ps : List ParamType} {args : List Value}
    (h : fitAll (p :: ps) args = true) :
    ∃ v vs, args = v :: vs ∧ p.fits v = true ∧ fitAll ps vs = true := by
  cases args with
  | nil => cases h
  | cons v vs =>
      have hBoth : (p.fits v && fitAll ps vs) = true := h
      rw [Bool.and_eq_true] at hBoth
      exact ⟨v, vs, rfl, hBoth.1, hBoth.2⟩

theorem fits_text {v : Value} (h : ParamType.fits .text v = true) : ∃ s, v = .text s := by
  cases v with
  | text s => exact ⟨s, rfl⟩
  | _ => cases h

theorem fits_int {v : Value} (h : ParamType.fits .int v = true) : ∃ n, v = .int n := by
  cases v with
  | int n => exact ⟨n, rfl⟩
  | _ => cases h

theorem length_of_fitAll {ps : List ParamType} {args : List Value} (h : fitAll ps args = true) :
    args.length = ps.length := by
  induction ps generalizing args with
  | nil =>
      rw [fitAll_nil h]
      rfl
  | cons p ps ih =>
      obtain ⟨v, vs, rfl, -, hRest⟩ := fitAll_cons h
      rw [List.length_cons, List.length_cons, ih hRest]

/-- `$1`, `$2` and so on. -/
def param (args : List Value) (i : Nat) : Value := args.getD (i - 1) .null

/-! ## Statements -/

/-- The texts of the statements that the services send, one constructor for each. -/
inductive Sql where
  | insertOrganizations
  | insertAgents
  | insertAgentKeys
  | setAgentStatus
  | setIntegrationType
  | setKeyStatus
  | deleteAgentKeys
  | deleteAgents
  | insertOperations
  /-- The insert of the governance routes, with three more columns. -/
  | insertGovernedOperations
  | insertReceipts
  | insertInterventionLog
  | insertGovernanceVerdicts
  | setResolution
  | insertEpochs
  | insertExports
  | insertUsers
  | insertMemberships
  | setFailedLogin
  | resetFailedLogin
  | setPasswordHash
  | setTotpEnabled
  | setEmailVerified
  | setRole
  | insertSessions
  | touchSession
  | rotateToken
  | revokeSession
  | revokeAllForUser
  | insertTokens (table : TokenTable)
  | consumeToken (table : TokenTable)
  | insertInvites
  | consumeInvite
  | insertTotpCredentials
  | setRecoveryCodes
  | deleteTotpCredentials
  | insertApiKeys
  | touchApiKey
  | revokeApiKey
  | insertAuditLogAuth
  deriving DecidableEq

namespace Sql

def params : Sql → List ParamType
  | insertOrganizations => [.text, .text, .int]
  | insertAgents => [.text, .text, .text, .text, .text, .text, .int, .int]
  | insertAgentKeys => [.text, .text, .text, .text, .text, .int, .intOrNull]
  | setAgentStatus => [.text, .int, .text]
  | setIntegrationType => [.text, .int, .text]
  | setKeyStatus => [.text, .intOrNull, .text]
  | deleteAgentKeys => [.text]
  | deleteAgents => [.text]
  | insertOperations =>
      [.text, .text, .text, .int, .text, .int, .int, .text, .text, .text, .text, .text, .text,
        .text, .text, .textOrNull, .int]
  | insertGovernedOperations =>
      [.text, .text, .text, .int, .text, .int, .int, .text, .text, .text, .text, .text, .text,
        .text, .text, .textOrNull, .int, .textOrNull, .textOrNull, .textOrNull]
  | insertReceipts => [.text, .text, .text, .int]
  | insertInterventionLog =>
      [.text, .text, .text, .textOrNull, .text, .int, .textOrNull, .int, .int, .textOrNull,
        .textOrNull, .floatOrNull, .int]
  | insertGovernanceVerdicts =>
      [.text, .text, .text, .textOrNull, .text, .text, .text, .float, .floatOrNull, .float,
        .text, .int]
  | setResolution => [.textOrNull, .intOrNull, .text]
  | insertEpochs => [.text, .text, .int, .int, .text, .int, .text, .int]
  | insertExports => [.text, .text, .text, .text, .textOrNull, .int, .intOrNull]
  | insertUsers => [.text, .text, .text, .text, .text, .int]
  | insertMemberships => [.text, .text, .text, .textOrNull, .int]
  | setFailedLogin => [.int, .intOrNull, .int, .text]
  | resetFailedLogin => [.int, .text]
  | setPasswordHash => [.text, .text, .int, .text]
  | setTotpEnabled => [.bool, .int, .text]
  | setEmailVerified => [.int, .text]
  | setRole => [.text, .text, .text]
  | insertSessions =>
      [.text, .text, .text, .text, .textOrNull, .textOrNull, .int, .int, .int]
  | touchSession => [.int, .text]
  | rotateToken => [.text, .text, .int, .text]
  | revokeSession => [.intOrNull, .text]
  | revokeAllForUser => [.intOrNull, .text]
  | insertTokens _ => [.text, .text, .int, .int]
  | consumeToken _ => [.intOrNull, .text]
  | insertInvites => [.text, .text, .text, .text, .text, .int, .int, .text]
  | consumeInvite => [.intOrNull, .text]
  | insertTotpCredentials => [.text, .text, .text, .texts, .int]
  | setRecoveryCodes => [.texts, .intOrNull, .text]
  | deleteTotpCredentials => [.text]
  | insertApiKeys =>
      [.text, .text, .textOrNull, .textsOrNull, .text, .text, .text, .text, .int, .intOrNull]
  | touchApiKey => [.intOrNull, .text]
  | revokeApiKey => [.intOrNull, .text]
  | insertAuditLogAuth =>
      [.text, .textOrNull, .textOrNull, .text, .textOrNull, .textOrNull, .text, .int]

end Sql

/-- A statement that a service issues. -/
structure Statement where
  text : Sql
  args : List Value
  typed : fitAll text.params args = true

/-- `WHERE` a column equals a value: nothing equals null. -/
def whereIs (column : String) (v : Value) (r : Row) : Bool := r column = v ∧ v ≠ .null

def operationColumns : List String :=
  ["operation_id", "org_id", "agent_id", "seq_no", "operation_type", "issued_at", "ttl_ms",
    "nonce", "subject", "action", "payload_hash", "prev_chain_hash", "chain_hash",
    "agent_pubkey_kid", "signature", "r2_payload_key", "created_at"]

/-- What the database makes of the text, given its parameters: the table, the rows that it is
about, and what they become. -/
def Sql.command (args : List Value) : Sql → Command TableName Row
  | insertOrganizations =>
      .insertNew .organizations (.values ["org_id", "name", "created_at", "updated_at"]
        [param args 1, param args 2, param args 3, param args 3])
  | insertAgents =>
      .insert .agents (.values ["agent_id", "org_id", "display_name", "responsible_entity",
        "integration_type", "status", "created_at", "updated_at"] args)
  | insertAgentKeys =>
      .insert .agentKeys (.values ["kid", "agent_id", "public_key", "algorithm", "status",
        "created_at", "retired_at"] args)
  | setAgentStatus =>
      .update .agents (whereIs "agent_id" (param args 3)) fun r =>
        r.assign [("status", param args 1), ("updated_at", param args 2)]
  | setIntegrationType =>
      .update .agents (whereIs "agent_id" (param args 3)) fun r =>
        r.assign [("integration_type", param args 1), ("updated_at", param args 2)]
  | setKeyStatus =>
      .update .agentKeys (whereIs "kid" (param args 3)) fun r =>
        r.assign [("status", param args 1), ("retired_at", param args 2)]
  | deleteAgentKeys => .delete .agentKeys (whereIs "agent_id" (param args 1))
  | deleteAgents => .delete .agents (whereIs "agent_id" (param args 1))
  | insertOperations => .insert .operations (.values operationColumns args)
  | insertGovernedOperations =>
      .insert .operations
        (.values (operationColumns ++ ["correlation_id", "run_id", "phase"]) args)
  | insertReceipts =>
      .insert .receipts (.values ["receipt_id", "operation_id", "r2_receipt_key", "created_at"]
        args)
  | insertInterventionLog =>
      .insert .interventionLog (.values ["verdict_id", "record_id", "correlation_id", "run_id",
        "decision", "step_index", "triggered_rule_id", "tokens_in", "tokens_out", "model_id",
        "served_via", "latency_ms", "created_at"] args)
  | insertGovernanceVerdicts =>
      .insert .governanceVerdicts (.values ["verdict_id", "record_id", "correlation_id",
        "run_id", "org_id", "agent_id", "decision", "risk_score", "latency_ms",
        "prevented_loss", "r2_verdict_key", "created_at"] args)
  | setResolution =>
      .update .governanceVerdicts (whereIs "verdict_id" (param args 3)) fun r =>
        r.assign [("resolution", param args 1), ("resolved_at", param args 2)]
  | insertEpochs =>
      .insert .epochs (.values ["epoch_id", "org_id", "start_time", "end_time", "root_hash",
        "leaf_count", "r2_epoch_key", "created_at"] args)
  | insertExports =>
      .insert .exports (.values ["export_id", "org_id", "status", "query_params",
        "r2_export_key", "created_at", "completed_at"] args)
  | insertUsers =>
      .insert .users (.values ["user_id", "email", "password_hash", "password_pepper_kid",
        "name", "status", "email_verified_at", "failed_login_count", "locked_until",
        "totp_enabled", "created_at", "updated_at", "last_login_at"]
        [param args 1, param args 2, param args 3, param args 4, param args 5, .text "active",
          .null, .int 0, .null, .bool false, param args 6, param args 6, .null])
  | insertMemberships =>
      .insert .memberships (.values ["user_id", "org_id", "role", "invited_by", "joined_at"]
        args)
  | setFailedLogin =>
      .update .users (whereIs "user_id" (param args 4)) fun r =>
        r.assign [("failed_login_count", param args 1), ("locked_until", param args 2),
          ("status", if param args 2 = .null then r "status" else .text "locked"),
          ("updated_at", param args 3)]
  | resetFailedLogin =>
      .update .users (whereIs "user_id" (param args 2)) fun r =>
        r.assign [("failed_login_count", .int 0), ("locked_until", .null),
          ("status", if r "status" = .text "locked" then .text "active" else r "status"),
          ("last_login_at", param args 1), ("updated_at", param args 1)]
  | setPasswordHash =>
      .update .users (whereIs "user_id" (param args 4)) fun r =>
        r.assign [("password_hash", param args 1), ("password_pepper_kid", param args 2),
          ("updated_at", param args 3)]
  | setTotpEnabled =>
      .update .users (whereIs "user_id" (param args 3)) fun r =>
        r.assign [("totp_enabled", param args 1), ("updated_at", param args 2)]
  | setEmailVerified =>
      .update .users (whereIs "user_id" (param args 2)) fun r =>
        r.assign [("email_verified_at", param args 1), ("updated_at", param args 1)]
  | setRole =>
      .update .memberships
        (fun r => whereIs "user_id" (param args 2) r && whereIs "org_id" (param args 3) r)
        fun r => r.assign [("role", param args 1)]
  | insertSessions =>
      .insert .sessions (.values ["session_id", "user_id", "token_hash", "csrf_token", "ip",
        "user_agent", "created_at", "last_used_at", "expires_at", "revoked_at"]
        (args ++ [.null]))
  | touchSession =>
      .update .sessions (whereIs "session_id" (param args 2)) fun r =>
        r.assign [("last_used_at", param args 1)]
  | rotateToken =>
      .update .sessions (whereIs "session_id" (param args 4)) fun r =>
        r.assign [("token_hash", param args 1), ("csrf_token", param args 2),
          ("last_used_at", param args 3)]
  | revokeSession =>
      .update .sessions (whereIs "session_id" (param args 2)) fun r =>
        r.assign [("revoked_at", param args 1)]
  | revokeAllForUser =>
      .update .sessions
        (fun r => whereIs "user_id" (param args 2) r && decide (r "revoked_at" = .null))
        fun r => r.assign [("revoked_at", param args 1)]
  | insertTokens table =>
      .insert (.tokens table) (.values ["token_hash", "user_id", "expires_at", "consumed_at",
        "created_at"] [param args 1, param args 2, param args 3, .null, param args 4])
  | consumeToken table =>
      .update (.tokens table) (whereIs "token_hash" (param args 2)) fun r =>
        r.assign [("consumed_at", param args 1)]
  | insertInvites =>
      .insert .invites (.values ["invite_id", "org_id", "email", "role", "invited_by",
        "expires_at", "consumed_at", "created_at", "token_hash"]
        [param args 1, param args 2, param args 3, param args 4, param args 5, param args 6,
          .null, param args 7, param args 8])
  | consumeInvite =>
      .update .invites (whereIs "invite_id" (param args 2)) fun r =>
        r.assign [("consumed_at", param args 1)]
  | insertTotpCredentials =>
      .insert .totpCredentials (.values ["user_id", "secret_encrypted", "active_kid",
        "recovery_codes_hash", "enabled_at", "last_used_at"] (args ++ [.null]))
  | setRecoveryCodes =>
      .update .totpCredentials (whereIs "user_id" (param args 3)) fun r =>
        r.assign [("recovery_codes_hash", param args 1), ("last_used_at", param args 2)]
  | deleteTotpCredentials => .delete .totpCredentials (whereIs "user_id" (param args 1))
  | insertApiKeys =>
      .insert .apiKeys (.values ["api_key_id", "org_id", "agent_id", "agent_id_allowlist",
        "token_hash", "prefix", "display_name", "created_by", "created_at", "expires_at",
        "last_used_at", "revoked_at"] (args ++ [.null, .null]))
  | touchApiKey =>
      .update .apiKeys (whereIs "api_key_id" (param args 2)) fun r =>
        r.assign [("last_used_at", param args 1)]
  | revokeApiKey =>
      .update .apiKeys (whereIs "api_key_id" (param args 2)) fun r =>
        r.assign [("revoked_at", param args 1)]
  | insertAuditLogAuth =>
      .insert .auditLogAuth (.values ["audit_id", "user_id", "org_id", "event", "ip",
        "user_agent", "detail", "created_at"] args)

/-! ## Queries -/

/-- The texts of the queries that the services send, one constructor for each. -/
inductive Select where
  | agent
  | agentKey
  | publicKey
  | latestOperation
  | operationAt
  | operation
  | receipt
  | verdictOfRecord
  | verdict
  | exportById
  | userByEmail
  | userById
  | failedLoginCount
  | sessionByToken
  | sessionById
  | role
  | token (table : TokenTable)
  | invite
  | totpCredential
  | apiKey
  | agents
  | agentIds
  | agentKeys
  | operations
  | interventionLog
  | governanceVerdicts
  | epochs
  | exports
  | users
  | sessionsOfUser
  | membershipsOfUser
  | apiKeysOfOrg
  deriving DecidableEq

def Select.params : Select → List ParamType
  | agent | agentKey | operation | verdict | exportById | role => [.text, .text]
  | operationAt => [.text, .int]
  | agents | operations | interventionLog | governanceVerdicts | epochs | exports | users => []
  | _ => [.text]

/-- A query that a service issues. -/
structure Question where
  text : Select
  args : List Value
  typed : fitAll text.params args = true

def userColumns : List String :=
  ["user_id", "email", "password_hash", "password_pepper_kid", "name", "status",
    "email_verified_at", "failed_login_count", "locked_until", "totp_enabled", "created_at",
    "updated_at", "last_login_at"]

def sessionColumns : List String :=
  ["session_id", "user_id", "csrf_token", "created_at", "last_used_at", "expires_at",
    "revoked_at"]

def apiKeyColumns : List String :=
  ["api_key_id", "org_id", "agent_id", "agent_id_allowlist", "prefix", "display_name",
    "created_by", "created_at", "expires_at", "last_used_at", "revoked_at"]

/-- A column of integers, for `ORDER BY`. -/
def Value.asInt : Value → Int
  | int n => n
  | _ => 0

/-- `WHERE lower(email) = lower($1)`. -/
def emailIs (lower : String → String) (v : Value) (r : Row) : Bool :=
  match r "email", v with
  | .text email, .text text => lower email = lower text
  | _, _ => false

/-- What the database makes of the text, given its parameters: the table, the rows, their
order and their columns, and whether one row is asked for or all. -/
def Select.query (lower : String → String) (args : List Value) : Select → Query TableName Row
  | agent =>
      { table := .agents
        chosen := fun r => whereIs "agent_id" (param args 1) r && whereIs "org_id" (param args 2) r
        single := true }
  | agentKey =>
      { table := .agentKeys
        chosen := fun r => whereIs "kid" (param args 1) r && whereIs "agent_id" (param args 2) r
        single := true }
  | publicKey =>
      { table := .agentKeys
        chosen := whereIs "kid" (param args 1)
        columns := .only ["public_key", "status"]
        single := true }
  | latestOperation =>
      { table := .operations
        chosen := whereIs "agent_id" (param args 1)
        order := fun r => -(r "seq_no").asInt
        columns := .only ["chain_hash", "seq_no"]
        single := true }
  | operationAt =>
      { table := .operations
        chosen := fun r => whereIs "agent_id" (param args 1) r && whereIs "seq_no" (param args 2) r
        columns := .only ["chain_hash"]
        single := true }
  | operation =>
      { table := .operations
        chosen := fun r =>
          whereIs "operation_id" (param args 1) r && whereIs "org_id" (param args 2) r
        single := true }
  | receipt =>
      { table := .receipts
        chosen := whereIs "operation_id" (param args 1)
        single := true }
  | verdictOfRecord =>
      { table := .governanceVerdicts
        chosen := whereIs "record_id" (param args 1)
        single := true }
  | verdict =>
      { table := .governanceVerdicts
        chosen := fun r =>
          whereIs "verdict_id" (param args 1) r && whereIs "org_id" (param args 2) r
        single := true }
  | exportById =>
      { table := .exports
        chosen := fun r =>
          whereIs "export_id" (param args 1) r && whereIs "org_id" (param args 2) r
        single := true }
  | userByEmail =>
      { table := .users
        chosen := emailIs lower (param args 1)
        columns := .only userColumns
        single := true }
  | userById =>
      { table := .users
        chosen := whereIs "user_id" (param args 1)
        columns := .only userColumns
        single := true }
  | failedLoginCount =>
      { table := .users
        chosen := whereIs "user_id" (param args 1)
        columns := .only ["failed_login_count"]
        single := true }
  | sessionByToken =>
      { table := .sessions
        chosen := whereIs "token_hash" (param args 1)
        columns := .only sessionColumns
        single := true }
  | sessionById =>
      { table := .sessions
        chosen := whereIs "session_id" (param args 1)
        columns := .only sessionColumns
        single := true }
  | role =>
      { table := .memberships
        chosen := fun r => whereIs "user_id" (param args 1) r && whereIs "org_id" (param args 2) r
        columns := .only ["role"]
        single := true }
  | token table =>
      { table := .tokens table
        chosen := whereIs "token_hash" (param args 1)
        columns := .only ["user_id", "expires_at", "consumed_at"]
        single := true }
  | invite =>
      { table := .invites
        chosen := whereIs "token_hash" (param args 1)
        columns := .only ["invite_id", "org_id", "email", "role", "invited_by", "expires_at",
          "consumed_at", "created_at", "token_hash"]
        single := true }
  | totpCredential =>
      { table := .totpCredentials
        chosen := whereIs "user_id" (param args 1)
        columns := .only ["user_id", "secret_encrypted", "active_kid", "recovery_codes_hash"]
        single := true }
  | apiKey =>
      { table := .apiKeys
        chosen := whereIs "token_hash" (param args 1)
        columns := .only apiKeyColumns
        single := true }
  | agents => { table := .agents, chosen := fun _ => true }
  | agentIds =>
      { table := .agents
        chosen := whereIs "org_id" (param args 1)
        columns := .only ["agent_id"] }
  | agentKeys => { table := .agentKeys, chosen := whereIs "agent_id" (param args 1) }
  | operations => { table := .operations, chosen := fun _ => true }
  | interventionLog => { table := .interventionLog, chosen := fun _ => true }
  | governanceVerdicts => { table := .governanceVerdicts, chosen := fun _ => true }
  | epochs => { table := .epochs, chosen := fun _ => true }
  | exports => { table := .exports, chosen := fun _ => true }
  | users => { table := .users, chosen := fun _ => true }
  | sessionsOfUser =>
      { table := .sessions
        chosen := whereIs "user_id" (param args 1)
        columns := .only ["session_id", "user_id", "ip", "user_agent", "created_at",
          "last_used_at", "expires_at", "revoked_at"] }
  | membershipsOfUser =>
      { table := .memberships
        chosen := whereIs "user_id" (param args 1)
        order := fun r => (r "joined_at").asInt
        columns := .only ["org_id", "role"] }
  | apiKeysOfOrg =>
      { table := .apiKeys
        chosen := whereIs "org_id" (param args 1)
        columns := .only apiKeyColumns }

end AgentShield.Storage
