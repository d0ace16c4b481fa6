import AgentShield.Lib.Course
import AgentShield.Auth.Secrets

/-!
# The state of enterprise authentication

The tables, the mails sent, the number of random texts drawn, and the log of the writes.
An entry of the log holds a write with the tables and the time at which it was made, and
the `Reason` that its handler had for it: what it had read and what it had been given.  The
log is an observation of a run; no handler reads it.

Every write owns the sixteen random texts from the number drawn at its time.
-/

namespace AgentShield.Auth

open AgentShield.Lib AgentShield.Sdk AgentShield.Server

/-- The organisation of callers without an account. -/
def demoOrgId : String := "demo-org"

/-- How the server lets callers in, chosen when it starts: everybody, accounts and keys, or
one token from the environment. -/
inductive AuthMode where
  | openMode
  | enterprise
  | apiTokenOnly
  deriving DecidableEq, Repr

/-- The cache behind the rate limits.  Overwriting an entry keeps its expiry in memory and
clears it in Redis. -/
inductive CacheBackend where
  | memory
  | redis
  deriving DecidableEq, Repr

/-- The settings of the accounts, with the primitives that stand for the cryptographic
packages.  Nothing of them changes while the service runs. -/
structure AuthSettings where
  prim : AuthPrimitives
  mode : AuthMode := .enterprise
  apiToken : Option String := none
  peppers : KidList
  fernetKeys : KidList
  cookieName : String := "shield_session"
  sessionTtlSeconds : Int := 7 * 24 * 3600
  publicBaseUrl : String := "http://localhost:3000"
  cache : CacheBackend := .memory

/-! ## Principals -/

/-- How a caller has been let in.  The first and the last stand for a caller without an
account. -/
inductive AuthKind where
  | openMode
  | session
  | apiKey
  | apiTokenOnly
  deriving DecidableEq, Repr

def allRoles : List Role :=
  [.orgOwner, .securityAdmin, .integrationEngineer, .complianceAuditor, .readonlyInvestigator]

/-- Who a request is served for: the organisation, the user and role behind a session, or the
key and the agents it speaks for. -/
structure Principal where
  orgId : String
  userId : String
  role : Role
  authKind : AuthKind
  roles : List Role := []
  sessionId : Option String := none
  email : Option String := none
  totpEnabled : Bool := false
  apiKeyId : Option String := none
  apiKeyAgentId : Option String := none
  apiKeyAgentIdAllowlist : Option (List String) := none
  deriving DecidableEq

namespace Principal

/-- The two roles of administrators. -/
def isAdmin (p : Principal) : Bool := p.role = .orgOwner ∨ p.role = .securityAdmin

def isOpenSynthetic (p : Principal) : Bool := p.authKind = .openMode

def isSession (p : Principal) : Bool := p.authKind = .session

def isApiKey (p : Principal) : Bool := p.authKind = .apiKey

/-- One of the caller's roles is among those asked for. -/
def hasRole (p : Principal) (roles : List Role) : Bool := p.roles.any roles.contains

end Principal

/-- The caller of a server in open mode: an owner with every role. -/
def syntheticDevPrincipal (orgId : String) : Principal where
  orgId := orgId
  userId := "dev-principal"
  role := .orgOwner
  authKind := .openMode
  roles := allRoles
  email := some "dev@shield.local"

/-- The caller of a server with one shared token: an owner with every role. -/
def apiTokenOnlyPrincipal (orgId : String) : Principal where
  orgId := orgId
  userId := "api-token-principal"
  role := .orgOwner
  authKind := .apiTokenOnly
  roles := allRoles

/-- Where a principal comes from: nothing in the open mode, the legacy token, the rows of a
session, its user and their first membership, or the row of an API key. -/
inductive Caller where
  | openMode
  | apiToken
  | session (row : Session) (user : User) (membership : Membership)
  | apiKey (key : ApiKey)
  deriving DecidableEq

/-- The principal of a caller: from the rows behind a session or a key, or made up where the
mode has no accounts. -/
def Caller.principal : Caller → Principal
  | openMode => syntheticDevPrincipal demoOrgId
  | apiToken => apiTokenOnlyPrincipal demoOrgId
  | session row user membership =>
      { orgId := membership.orgId
        userId := user.userId
        role := membership.role
        authKind := .session
        roles := [membership.role]
        sessionId := some row.sessionId
        email := some user.email
        totpEnabled := user.totpEnabled }
  | apiKey key =>
      -- the synthetic role admits a key to ingest, and to no role of a session
      { orgId := key.orgId
        userId := "api-key:" ++ key.apiKeyId
        role := .integrationEngineer
        authKind := .apiKey
        roles := [.integrationEngineer]
        apiKeyId := some key.apiKeyId
        apiKeyAgentId := key.agentId
        apiKeyAgentIdAllowlist := key.agentIdAllowlist }

/-! ## The world -/

/-- What the handler of a write knew.  `wrongPassword` to `acceptInvite` are sign-ins;
`failedLogin` has what the locking read of the counter found and the time read after it.
`passwordSet` is the last write of a change or reset of a password to that hash. -/
inductive Reason where
  | plain
  | caller (caller : Caller)
  | signOut (caller : Caller)
  | wrongPassword (user : User)
  | failedLogin (user : User) (row : Option User) (time : Int)
  | signIn (user : User) (password : String)
  | rehash (user : User) (password : String)
  | recovery (user : User) (stored : List String) (code : String)
  | acceptInvite (invite : Invite)
  | consumed (token : TokenRow)
  | passwordChange (caller : Caller) (user : User) (newPassword : String)
  | passwordReset (token : TokenRow) (newPassword : String)
  | passwordSet (passwordHash : String)
  | confirmed (caller : Caller) (credential : TotpCredential) (code : String)
  deriving DecidableEq

/-- A statement that has been executed: why, on which tables, when, and with which random
values. -/
structure Executed where
  statement : Statement
  reason : Reason
  before : AuthDb
  clock : Int
  drawn : Nat

/-- A mail: its recipient and the link in it. -/
structure Mail where
  recipient : String
  url : String
  deriving DecidableEq

/-- The accounts and the server beside them: the tables, the cache, the mails sent and the log
of what was executed, which only the results read. -/
structure AuthWorld where
  server : World
  db : AuthDb
  mails : List Mail := []
  /-- The cache cannot be reached. -/
  cacheDown : Bool := false
  drawn : Nat := 0
  log : List Executed := []

namespace AuthWorld

/-- The tables before each write so far, and now. -/
def snapshots (w : AuthWorld) : List AuthDb := w.log.map Executed.before ++ [w.db]

/-- The tables were in a state with `P` at some time up to now. -/
def Saw (w : AuthWorld) (P : AuthDb → Prop) : Prop := ∃ db ∈ w.snapshots, P db

/-- The entry of a write that is made now. -/
def entry (w : AuthWorld) (statement : Statement) (reason : Reason) : Executed where
  statement := statement
  reason := reason
  before := w.db
  clock := w.server.now
  drawn := w.drawn

/-- The world after a write that the database accepted. -/
def wrote (w : AuthWorld) (statement : Statement) (reason : Reason) (db : AuthDb) : AuthWorld :=
  { w with
    db := db
    drawn := w.drawn + 16
    log := w.log ++ [w.entry statement reason] }

/-- The order in which worlds follow each other: logs grow at their end, and neither the clock
nor the supply of random texts goes back. -/
structure Later (w w' : AuthWorld) : Prop where
  log : w.log <+: w'.log
  snapshots : w.snapshots <+: w'.snapshots
  now : w.server.now ≤ w'.server.now
  drawn : w.drawn ≤ w'.drawn

theorem Later.refl (w : AuthWorld) : w.Later w :=
  ⟨List.prefix_refl _, List.prefix_refl _, Int.le_refl _, Nat.le_refl _⟩

/-- What is later than something later is later. -/
theorem Later.trans {w₁ w₂ w₃ : AuthWorld} (h : w₁.Later w₂) (h' : w₂.Later w₃) :
    w₁.Later w₃ :=
  ⟨h.log.trans h'.log, h.snapshots.trans h'.snapshots, Int.le_trans h.now h'.now,
    Nat.le_trans h.drawn h'.drawn⟩

/-- What the tables have once been seen to hold they have been seen to hold ever after. -/
theorem Later.saw {w w' : AuthWorld} (h : w.Later w') {P : AuthDb → Prop} (hSaw : w.Saw P) :
    w'.Saw P := by
  obtain ⟨db, hdb, hP⟩ := hSaw
  exact ⟨db, h.snapshots.subset hdb, hP⟩

/-- What the tables hold now they have been seen to hold. -/
theorem saw_now {w : AuthWorld} {P : AuthDb → Prop} (h : P w.db) : w.Saw P :=
  ⟨w.db, by simp [snapshots], h⟩

/-- What was the case before is the case at some entry of the log, or now. -/
theorem saw_iff {w : AuthWorld} {P : AuthDb → Prop} :
    w.Saw P ↔ (∃ e ∈ w.log, P e.before) ∨ P w.db := by
  simp [Saw, snapshots, or_and_right, exists_or]

/-- A statement makes the world later: the log grows by its entry. -/
theorem later_wrote (w : AuthWorld) (statement : Statement) (reason : Reason) (db : AuthDb) :
    w.Later (w.wrote statement reason db) where
  log := List.prefix_append _ _
  snapshots := by
    simp only [snapshots, wrote, List.map_append, List.map_cons, List.map_nil]
    exact List.prefix_append _ _
  now := Int.le_refl _
  drawn := Nat.le_add_right _ _

/-- A step that leaves the tables and the log alone. -/
theorem later_of_same {w w' : AuthWorld} (hDb : w'.db = w.db) (hLog : w'.log = w.log)
    (hNow : w.server.now ≤ w'.server.now) (hDrawn : w.drawn ≤ w'.drawn) : w.Later w' where
  log := by simp only [hLog, List.prefix_refl]
  snapshots := by simp only [snapshots, hDb, hLog, List.prefix_refl]
  now := hNow
  drawn := hDrawn

end AuthWorld

/-! ## Steps of the handlers -/

/-- A handler of the accounts, which may fail at any of its steps. -/
abbrev AuthHandler := Async AuthWorld Failure

/-- An error of the API with the default message of its code. -/
def apiError (statusCode : Nat) (code : ErrorCode)
    (details : Option (List (String × Json)) := none) : Failure :=
  .app { AppError.plain statusCode code with details := details }

def fetch {α : Type} (f : AuthDb → α) : AuthHandler α := Async.read fun w => f w.db

def nowMs : AuthHandler Int := Async.read fun w => w.server.now

/-- One write, from the number of its first random text; the answer is that number. -/
def execute (prim : AuthPrimitives) (statement : Nat → Statement) (reason : Reason) :
    AuthHandler Nat :=
  Async.call fun w =>
    match w.db.execute prim (statement w.drawn) with
    | .ok db => (w.wrote (statement w.drawn) reason db, .ok w.drawn)
    | .error c => ({ w with drawn := w.drawn + 16 }, .error (.database c))

/-- One write that is given the time before it. -/
def executeNow (prim : AuthPrimitives) (statement : Int → Nat → Statement) (reason : Reason) :
    AuthHandler Nat := do
  let now ← nowMs
  execute prim (statement now) reason

/-- The step writes nothing, or a statement in `S` that the database has accepted. -/
def AuthWorld.Writes (prim : AuthPrimitives) (S : Statement → Reason → Prop)
    (w w' : AuthWorld) : Prop :=
  (w'.db = w.db ∧ w'.log = w.log ∧ w'.server = w.server) ∨
    ∃ st reason, S st reason ∧ w.db.constraints prim st = .ok () ∧
      w' = w.wrote st reason (w.db.apply st)

/-- The statements of the handler are in `S`. -/
abbrev WritesOnly {α : Type} (prim : AuthPrimitives) (S : Statement → Reason → Prop)
    (prog : AuthHandler α) : Prop :=
  Async.Steps (fun _ => True) (AuthWorld.Writes prim S) (fun _ => True) prog

section Writes

variable {prim : AuthPrimitives} {S : Statement → Reason → Prop}

theorem AuthWorld.Writes.rest (w : AuthWorld) : w.Writes prim S w := .inl ⟨rfl, rfl, rfl⟩

/-- A statement writes only what its own kind allows. -/
theorem execute_writes {statement : Nat → Statement} {reason : Reason}
    (h : ∀ n, S (statement n) reason) : WritesOnly prim S (execute prim statement reason) := by
  refine Async.Steps.call fun w _ => ?_
  cases hRun : w.db.execute prim (statement w.drawn) with
  | error c => exact .inl ⟨rfl, rfl, rfl⟩
  | ok db =>
      obtain ⟨hChecked, rfl⟩ := AuthDb.execute_ok hRun
      exact .inr ⟨statement w.drawn, reason, h w.drawn, hChecked, rfl⟩

theorem executeNow_writes {statement : Int → Nat → Statement} {reason : Reason}
    (h : ∀ now n, S (statement now n) reason) :
    WritesOnly prim S (executeNow prim statement reason) :=
  Async.Steps.read_bind AuthWorld.Writes.rest fun w _ => execute_writes (h w.server.now)

end Writes

/-- `send_mail`: the mail is sent, and nothing waits for it. -/
def sendMail (recipient url : String) : AuthHandler Unit :=
  Async.write fun w => { w with mails := w.mails ++ [⟨recipient, url⟩] }

/-- One call to the cache; `none` is an exception of the cache. -/
def AuthWorld.callCache {α : Type} (f : World → World × α) (w : AuthWorld) :
    AuthWorld × Option α :=
  if w.cacheDown then (w, none)
  else ({ w with server := { w.server with cache := (f w.server).1.cache } },
    some (f w.server).2)

/-- A call of the cache, which answers nothing where the cache cannot be reached. -/
def onCache {α : Type} (f : World → World × α) : AuthHandler (Option α) :=
  Async.act (AuthWorld.callCache f)

end AgentShield.Auth
