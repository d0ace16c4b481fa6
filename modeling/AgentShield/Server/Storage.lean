import AgentShield.Lib.HashChain
import AgentShield.Server.Config

/-!
# Storage

The three stores behind the server: the database with the constraints of its
schema, the object store and the cache.  An object is the JSON document that its
bytes parse to.  The clock counts nanoseconds: rows and records carry the
milliseconds that `int(time.time() * 1000)` cuts off, the cache compares the time
itself, and an entry is live up to and including its expiry.

Every insert checks the primary key, the unique columns and the references of
its table, and a transaction is all or nothing.
-/

namespace AgentShield.Server

open AgentShield.Lib AgentShield.Sdk

/-! ## The database -/

/-- The status of an agent; only an active one may write.  A frozen agent can be made active
again. -/
inductive AgentStatus where
  | active
  | frozen
  | revoked
  deriving DecidableEq, Repr

/-- The status of a signing key; only an active one may sign.  A retired key is refused like a
revoked one. -/
inductive KeyStatus where
  | active
  | retired
  | revoked
  deriving DecidableEq, Repr

/-- A row of `agents`, with the columns that the routes read. -/
structure Agent where
  agentId : String
  orgId : String
  status : AgentStatus
  deriving DecidableEq, Repr

/-- A row of `agent_keys`: the public key that an agent's records are verified with, under the
id by which the records name it. -/
structure AgentKey where
  kid : String
  agentId : String
  publicKey : String
  status : KeyStatus
  deriving DecidableEq, Repr

/-- A row of `operations`.  The last three columns are set for the records of
the governance routes only. -/
structure OperationRow where
  operationId : String
  orgId : String
  agentId : String
  seqNo : Int
  operationType : String
  issuedAt : Int
  ttlMs : Int
  nonce : String
  subject : String
  action : String
  payloadHash : String
  prevChainHash : String
  chainHash : String
  agentPubkeyKid : String
  signature : String
  r2PayloadKey : Option String
  createdAt : Int
  correlationId : Option String := none
  runId : Option String := none
  phase : Option String := none
  deriving DecidableEq, Repr

/-- A row of `receipts`, which says where the receipt of an operation lies; an operation has
one at most. -/
structure ReceiptRow where
  receiptId : String
  operationId : String
  r2ReceiptKey : String
  createdAt : Int
  deriving DecidableEq, Repr

/-- A row of `governance_verdicts`: what was decided on a record, and how a human resolved it.
-/
structure GovernanceVerdictRow where
  verdictId : String
  recordId : String
  correlationId : String
  runId : Option String
  orgId : String
  agentId : String
  decision : String
  riskScore : PyFloat
  latencyMs : Option PyFloat
  preventedLoss : PyFloat
  r2VerdictKey : String
  createdAt : Int
  resolution : Option String := none
  resolvedAt : Option Int := none
  deriving DecidableEq

/-- A row of `intervention_log`: the costs of a decision, and the rule that has led to it. -/
structure InterventionRow where
  verdictId : String
  recordId : String
  correlationId : String
  runId : Option String
  decision : String
  stepIndex : Nat
  triggeredRuleId : Option String
  tokensIn : Nat
  tokensOut : Nat
  modelId : Option String
  servedVia : Option String
  latencyMs : Option PyFloat
  createdAt : Int
  deriving DecidableEq

/-- The tables of the server, each with its rows in the order in which they were inserted. -/
structure Database where
  agents : List Agent
  agentKeys : List AgentKey
  operations : List OperationRow := []
  receipts : List ReceiptRow := []
  governanceVerdicts : List GovernanceVerdictRow := []
  interventionLog : List InterventionRow := []
  deriving DecidableEq

/-- The INSERTs of the ingest, which are executed in transactions: all of one transaction or
none. -/
inductive Statement where
  | insertOperation (row : OperationRow)
  | insertReceipt (row : ReceiptRow)
  | insertGovernanceVerdict (row : GovernanceVerdictRow)
  | insertInterventionLog (row : InterventionRow)

/-- The row that a statement adds to the operations. -/
def Statement.operation? : Statement → Option OperationRow
  | .insertOperation row => some row
  | _ => none

/-- The row that a statement adds to the verdicts. -/
def Statement.governanceVerdict? : Statement → Option GovernanceVerdictRow
  | .insertGovernanceVerdict row => some row
  | _ => none

namespace Database

/-- The agent with the id in the organisation. -/
def findAgent (db : Database) (agentId orgId : String) : Option Agent :=
  db.agents.find? fun a => a.agentId = agentId ∧ a.orgId = orgId

/-- The key with the id, if it is the agent's. -/
def findAgentKey (db : Database) (kid agentId : String) : Option AgentKey :=
  db.agentKeys.find? fun k => k.kid = kid ∧ k.agentId = agentId

/-- The rows of one agent. -/
def chainOf (db : Database) (agentId : String) : List OperationRow :=
  db.operations.filter fun r => r.agentId = agentId

/-- The row of the agent with the highest sequence number. -/
def latestOperation (db : Database) (agentId : String) : Option OperationRow :=
  HashChain.latest OperationRow.seqNo (db.chainOf agentId)

def findOperation (db : Database) (operationId orgId : String) : Option OperationRow :=
  db.operations.find? fun r => r.operationId = operationId ∧ r.orgId = orgId

def findOperationAt (db : Database) (agentId : String) (seqNo : Int) : Option OperationRow :=
  db.operations.find? fun r => r.agentId = agentId ∧ r.seqNo = seqNo

def findReceipt (db : Database) (operationId : String) : Option ReceiptRow :=
  db.receipts.find? fun r => r.operationId = operationId

/-- One insert, refused when it breaks a constraint of its table, in the order in which the
database looks at them: keys, unique columns, references. -/
def execute (db : Database) : Statement → Except Failure Database
  | .insertOperation row =>
      if ∃ r ∈ db.operations, r.operationId = row.operationId then
        .error (.database (.primaryKey "operations"))
      else if ∃ r ∈ db.operations, r.agentId = row.agentId ∧ r.seqNo = row.seqNo then
        .error (.database (.unique "operations"))
      else if ∃ a ∈ db.agents, a.agentId = row.agentId then
        .ok { db with operations := db.operations ++ [row] }
      else .error (.database (.foreignKey "operations"))
  | .insertReceipt row =>
      if ∃ r ∈ db.receipts, r.receiptId = row.receiptId then
        .error (.database (.primaryKey "receipts"))
      else if ∃ r ∈ db.receipts, r.operationId = row.operationId then
        .error (.database (.unique "receipts"))
      else if ∃ r ∈ db.operations, r.operationId = row.operationId then
        .ok { db with receipts := db.receipts ++ [row] }
      else .error (.database (.foreignKey "receipts"))
  | .insertGovernanceVerdict row =>
      if ∃ r ∈ db.governanceVerdicts, r.verdictId = row.verdictId then
        .error (.database (.primaryKey "governance_verdicts"))
      else .ok { db with governanceVerdicts := db.governanceVerdicts ++ [row] }
  | .insertInterventionLog row =>
      if ∃ r ∈ db.interventionLog, r.verdictId = row.verdictId then
        .error (.database (.primaryKey "intervention_log"))
      else .ok { db with interventionLog := db.interventionLog ++ [row] }

/-- The statements in turn, or none of them. -/
def transaction (db : Database) : List Statement → Except Failure Database
  | [] => .ok db
  | st :: sts =>
      match db.execute st with
      | .ok db' => db'.transaction sts
      | .error e => .error e

/-! ### What an insert and a lookup say -/

/-- An operation that was stored had an id of its own and a sequence number that its agent had
not used. -/
theorem execute_insertOperation {db db' : Database} {row : OperationRow}
    (h : db.execute (.insertOperation row) = .ok db') :
    (∀ r ∈ db.operations, r.operationId ≠ row.operationId) ∧
      (∀ r ∈ db.operations, ¬ (r.agentId = row.agentId ∧ r.seqNo = row.seqNo)) ∧
      db' = { db with operations := db.operations ++ [row] } := by
  simp only [execute] at h
  split at h
  · cases h
  · rename_i hId
    split at h
    · cases h
    · rename_i hSeq
      split at h
      · cases h
        exact ⟨fun r hr he => hId ⟨r, hr, he⟩, fun r hr he => hSeq ⟨r, hr, he⟩, rfl⟩
      · cases h

/-- A receipt that was stored was its operation's first. -/
theorem execute_insertReceipt {db db' : Database} {row : ReceiptRow}
    (h : db.execute (.insertReceipt row) = .ok db') :
    (∀ r ∈ db.receipts, r.operationId ≠ row.operationId) ∧
      db' = { db with receipts := db.receipts ++ [row] } := by
  simp only [execute] at h
  split at h
  · cases h
  · split at h
    · cases h
    · rename_i hOp
      split at h
      · cases h
        exact ⟨fun r hr he => hOp ⟨r, hr, he⟩, rfl⟩
      · cases h

/-- A verdict that was stored had an id of its own. -/
theorem execute_insertGovernanceVerdict {db db' : Database} {row : GovernanceVerdictRow}
    (h : db.execute (.insertGovernanceVerdict row) = .ok db') :
    (∀ r ∈ db.governanceVerdicts, r.verdictId ≠ row.verdictId) ∧
      db' = { db with governanceVerdicts := db.governanceVerdicts ++ [row] } := by
  simp only [execute] at h
  split at h
  · cases h
  · rename_i hId
    cases h
    exact ⟨fun r hr hSame => hId ⟨r, hr, hSame⟩, rfl⟩

theorem execute_insertInterventionLog {db db' : Database} {row : InterventionRow}
    (h : db.execute (.insertInterventionLog row) = .ok db') :
    db' = { db with interventionLog := db.interventionLog ++ [row] } := by
  simp only [execute] at h
  split at h
  · cases h
  · cases h
    rfl

/-- A transaction that goes through executes its first statement and then the others. -/
theorem transaction_cons {db db' : Database} {st : Statement} {sts : List Statement}
    (h : db.transaction (st :: sts) = .ok db') :
    ∃ db₁, db.execute st = .ok db₁ ∧ db₁.transaction sts = .ok db' := by
  unfold transaction at h
  cases hst : db.execute st with
  | ok db₁ => exact ⟨db₁, rfl, by simpa only [hst] using h⟩
  | error e => simp [hst] at h

theorem transaction_nil {db db' : Database} (h : db.transaction [] = .ok db') : db' = db := by
  simpa [transaction] using h.symm

/-! ### What the transactions of the handlers say -/

section Transactions

variable {db db' : Database} {row : OperationRow} {verdict : GovernanceVerdictRow}

/-- A transaction of one operation stores that operation. -/
theorem transaction_operation (h : db.transaction [.insertOperation row] = .ok db') :
    (∀ r ∈ db.operations, r.operationId ≠ row.operationId) ∧
      (∀ r ∈ db.operations, ¬ (r.agentId = row.agentId ∧ r.seqNo = row.seqNo)) ∧
      db' = { db with operations := db.operations ++ [row] } := by
  obtain ⟨db₁, h₁, hNil⟩ := transaction_cons h
  obtain rfl := transaction_nil hNil
  exact execute_insertOperation h₁

/-- An operation with its receipt. -/
theorem transaction_receipt {receipt : ReceiptRow}
    (h : db.transaction [.insertOperation row, .insertReceipt receipt] = .ok db') :
    (∀ r ∈ db.operations, r.operationId ≠ row.operationId) ∧
      (∀ r ∈ db.operations, ¬ (r.agentId = row.agentId ∧ r.seqNo = row.seqNo)) ∧
      (∀ r ∈ db.receipts, r.operationId ≠ receipt.operationId) ∧
      db' = { db with
        operations := db.operations ++ [row]
        receipts := db.receipts ++ [receipt] } := by
  obtain ⟨db₁, h₁, hRest⟩ := transaction_cons h
  obtain ⟨db₂, h₂, hNil⟩ := transaction_cons hRest
  obtain rfl := transaction_nil hNil
  obtain ⟨hId, hSeq, rfl⟩ := execute_insertOperation h₁
  obtain ⟨hReceipt, rfl⟩ := execute_insertReceipt h₂
  exact ⟨hId, hSeq, hReceipt, rfl⟩

theorem transaction_verdict (h : db.transaction [.insertGovernanceVerdict verdict] = .ok db') :
    (∀ r ∈ db.governanceVerdicts, r.verdictId ≠ verdict.verdictId) ∧
      db' = { db with governanceVerdicts := db.governanceVerdicts ++ [verdict] } := by
  obtain ⟨db₁, h₁, hNil⟩ := transaction_cons h
  obtain rfl := transaction_nil hNil
  exact execute_insertGovernanceVerdict h₁

/-- An operation with its verdict and the log row of the verdict. -/
theorem transaction_decision {entry : InterventionRow}
    (h : db.transaction [.insertOperation row, .insertGovernanceVerdict verdict,
      .insertInterventionLog entry] = .ok db') :
    (∀ r ∈ db.operations, r.operationId ≠ row.operationId) ∧
      (∀ r ∈ db.operations, ¬ (r.agentId = row.agentId ∧ r.seqNo = row.seqNo)) ∧
      (∀ r ∈ db.governanceVerdicts, r.verdictId ≠ verdict.verdictId) ∧
      db' = { db with
        operations := db.operations ++ [row]
        governanceVerdicts := db.governanceVerdicts ++ [verdict]
        interventionLog := db.interventionLog ++ [entry] } := by
  obtain ⟨db₁, h₁, hRest⟩ := transaction_cons h
  obtain ⟨db₂, h₂, hRest'⟩ := transaction_cons hRest
  obtain ⟨db₃, h₃, hNil⟩ := transaction_cons hRest'
  obtain rfl := transaction_nil hNil
  obtain ⟨hId, hSeq, rfl⟩ := execute_insertOperation h₁
  obtain ⟨hVerdict, rfl⟩ := execute_insertGovernanceVerdict h₂
  obtain rfl := execute_insertInterventionLog h₃
  exact ⟨hId, hSeq, hVerdict, rfl⟩

end Transactions

/-- A transaction adds the operations of its statements. -/
theorem transaction_operations {db db' : Database} {sts : List Statement}
    (h : db.transaction sts = .ok db') :
    db'.operations = db.operations ++ sts.filterMap Statement.operation? := by
  induction sts generalizing db with
  | nil =>
      obtain rfl := transaction_nil h
      exact (List.append_nil _).symm
  | cons st sts ih =>
      obtain ⟨db₁, h₁, hRest⟩ := transaction_cons h
      rw [ih hRest]
      cases st with
      | insertOperation row =>
          obtain ⟨-, -, rfl⟩ := execute_insertOperation h₁
          exact List.append_assoc _ _ _
      | insertReceipt row =>
          obtain ⟨-, rfl⟩ := execute_insertReceipt h₁
          rfl
      | insertGovernanceVerdict row =>
          obtain ⟨-, rfl⟩ := execute_insertGovernanceVerdict h₁
          rfl
      | insertInterventionLog row =>
          obtain rfl := execute_insertInterventionLog h₁
          rfl

/-- A statement adds its verdict, under an id that no other verdict has. -/
theorem execute_governanceVerdicts {db db' : Database} {st : Statement}
    (h : db.execute st = .ok db') :
    db'.governanceVerdicts = db.governanceVerdicts ++ st.governanceVerdict?.toList ∧
      ∀ row, st.governanceVerdict? = some row →
        ∀ r ∈ db.governanceVerdicts, r.verdictId ≠ row.verdictId := by
  cases st with
  | insertOperation row =>
      obtain ⟨-, -, rfl⟩ := execute_insertOperation h
      exact ⟨(List.append_nil _).symm, fun _ hRow => by cases hRow⟩
  | insertReceipt row =>
      obtain ⟨-, rfl⟩ := execute_insertReceipt h
      exact ⟨(List.append_nil _).symm, fun _ hRow => by cases hRow⟩
  | insertInterventionLog row =>
      obtain rfl := execute_insertInterventionLog h
      exact ⟨(List.append_nil _).symm, fun _ hRow => by cases hRow⟩
  | insertGovernanceVerdict row =>
      obtain ⟨hFresh, rfl⟩ := execute_insertGovernanceVerdict h
      refine ⟨rfl, fun row' hRow => ?_⟩
      obtain rfl := Option.some.inj hRow
      exact hFresh

/-- A transaction adds the verdicts of its statements, and no id twice, statement by
statement. -/
theorem transaction_governanceVerdicts {db db' : Database} {sts : List Statement}
    (h : db.transaction sts = .ok db') :
    db'.governanceVerdicts =
        db.governanceVerdicts ++ sts.filterMap Statement.governanceVerdict? ∧
      ((db.governanceVerdicts.map GovernanceVerdictRow.verdictId).Nodup →
        (db'.governanceVerdicts.map GovernanceVerdictRow.verdictId).Nodup) := by
  induction sts generalizing db with
  | nil =>
      obtain rfl := transaction_nil h
      exact ⟨(List.append_nil _).symm, id⟩
  | cons st sts ih =>
      obtain ⟨db₁, h₁, hRest⟩ := transaction_cons h
      obtain ⟨hRows, hFresh⟩ := execute_governanceVerdicts h₁
      obtain ⟨hMore, hNodup⟩ := ih hRest
      refine ⟨?_, fun hUnique => hNodup ?_⟩
      · rw [hMore, hRows]
        cases hst : st.governanceVerdict? <;> simp [hst]
      · rw [hRows]
        cases hst : st.governanceVerdict? with
        | none => simpa using hUnique
        | some row =>
            simp only [Option.toList_some, List.map_append, List.map_cons, List.map_nil]
            refine List.nodup_append.2 ⟨hUnique, by simp, fun i hi j hj hSame => ?_⟩
            obtain ⟨r, hr, rfl⟩ := List.mem_map.1 hi
            obtain rfl := List.mem_singleton.1 hj
            exact hFresh row hst r hr hSame

/-- The chain of an agent holds its operations and no others. -/
theorem mem_chainOf {db : Database} {agentId : String} {r : OperationRow} :
    r ∈ db.chainOf agentId ↔ r ∈ db.operations ∧ r.agentId = agentId := by
  simp [chainOf]

/-- The latest operation of an agent is one of its operations. -/
theorem latestOperation_mem {db : Database} {agentId : String} {r : OperationRow}
    (h : db.latestOperation agentId = some r) :
    r ∈ db.operations ∧ r.agentId = agentId :=
  mem_chainOf.1 (HashChain.latest_spec h).1

/-- An operation that is found is the organisation's. -/
theorem findOperation_mem {db : Database} {operationId orgId : String} {r : OperationRow}
    (h : db.findOperation operationId orgId = some r) :
    r ∈ db.operations ∧ r.operationId = operationId ∧ r.orgId = orgId := by
  have hProp := List.find?_some h
  exact ⟨List.mem_of_find?_eq_some h, by simpa using hProp⟩

end Database

/-! ## The object store and the cache -/

/-- The content of an object: the document its bytes parse to, or bytes that are
not JSON. -/
inductive Body where
  | document (doc : Json)
  | notJson
  deriving DecidableEq

/-- A stored document, as it is read back. -/
def Body.ofJson (doc : Json) : Body := .document doc.wire

/-- The entries of `MemoryCache` with their expiry on the clock, its streams and the
consumer groups. -/
structure Cache where
  store : Dict String (String × Option Int) := []
  streams : Dict String (List (List (String × String))) := []
  groups : List (String × String) := []
  deriving DecidableEq

/-- The whole state of the server: its clock in nanoseconds and its stores.  The tables are in
a database, the documents in an object store, and the nonces and streams in a cache. -/
structure World where
  clock : Int
  db : Database
  objects : Dict String Body := []
  cache : Cache := {}
  deriving DecidableEq

/-- The nanoseconds of a cache lifetime in seconds. -/
def lifetime (ttlSeconds : Int) : Int := ttlSeconds * 1000000000

namespace Cache

/-- The value under `key` unless it has expired. -/
def live (c : Cache) (clock : Int) (key : String) : Option String :=
  match Dict.get? c.store key with
  | none => none
  | some (value, none) => some value
  | some (value, some expires) => if expires < clock then none else some value

/-- Stores `value` for `ttlSeconds` unless there is a live one. -/
def setIfAbsent (c : Cache) (clock : Int) (key value : String) (ttlSeconds : Int) :
    Cache × Bool :=
  match c.live clock key with
  | some _ => (c, false)
  | none =>
      ({ c with store := Dict.set c.store key (value, some (clock + lifetime ttlSeconds)) },
        true)

/-- Stores `value` and keeps the expiry of the entry it replaces. -/
def set (c : Cache) (key value : String) : Cache :=
  { c with store := Dict.set c.store key (value, (Dict.get? c.store key).bind (·.2)) }

local instance lawfulGroup : LawfulBEq (String × String) := inferInstance

/-- `ensure_group`: the stream and the group are made where they are not there. -/
def ensureGroup (c : Cache) (stream group : String) : Cache :=
  { c with
    streams := match Dict.get? c.streams stream with
      | some _ => c.streams
      | none => Dict.set c.streams stream []
    groups := if (stream, group) ∈ c.groups then c.groups else c.groups ++ [(stream, group)] }

/-- `xadd`: the entry goes to the end of the stream, which is made where it is not there. -/
def xadd (c : Cache) (stream : String) (fields : List (String × String)) : Cache :=
  { c with streams :=
      Dict.set c.streams stream ((Dict.get? c.streams stream).getD [] ++ [fields]) }

/-- The entries of a stream, oldest first. -/
def entries (c : Cache) (stream : String) : List (List (String × String)) :=
  (Dict.get? c.streams stream).getD []

/-- Streams are only appended to. -/
def Extends (c c' : Cache) : Prop := ∀ stream, c.entries stream <+: c'.entries stream

theorem extends_refl (c : Cache) : c.Extends c := fun _ => List.prefix_refl _

/-- No entry is appended. -/
def SameStreams (c c' : Cache) : Prop := ∀ stream, c'.entries stream = c.entries stream

theorem sameStreams_refl (c : Cache) : c.SameStreams c := fun _ => rfl

theorem SameStreams.extends {c c' : Cache} (h : c.SameStreams c') : c.Extends c' := by
  intro stream
  have hSame := h stream
  simp only [hSame, List.prefix_rfl]

/-- A reservation leaves the streams alone. -/
theorem sameStreams_setIfAbsent (c : Cache) (clock : Int) (key value : String)
    (ttlSeconds : Int) : c.SameStreams (c.setIfAbsent clock key value ttlSeconds).1 := by
  unfold setIfAbsent
  split
  · exact c.sameStreams_refl
  · exact c.sameStreams_refl

theorem sameStreams_set (c : Cache) (key value : String) : c.SameStreams (c.set key value) :=
  c.sameStreams_refl

theorem sameStreams_ensureGroup (c : Cache) (stream group : String) :
    c.SameStreams (c.ensureGroup stream group) := by
  intro other
  simp only [entries, ensureGroup]
  cases h : Dict.get? c.streams stream with
  | some _ => rfl
  | none =>
      by_cases hSame : stream = other
      · subst hSame
        simp [h]
      · rw [Dict.get?_set_ne _ _ hSame]

/-- What a stream holds after an append. -/
theorem entries_xadd (c : Cache) (stream : String) (fields : List (String × String)) :
    (c.xadd stream fields).entries stream = c.entries stream ++ [fields] := by
  simp [entries, xadd]

/-- An append leaves every other stream. -/
theorem entries_xadd_ne (c : Cache) {stream other : String} (h : stream ≠ other)
    (fields : List (String × String)) : (c.xadd stream fields).entries other = c.entries other := by
  simp only [entries, xadd]
  rw [Dict.get?_set_ne _ _ h]

theorem extends_xadd (c : Cache) (stream : String) (fields : List (String × String)) :
    c.Extends (c.xadd stream fields) := by
  intro other
  by_cases hSame : stream = other
  · subst hSame
    rw [entries_xadd]
    exact List.prefix_append _ _
  · simp only [c.entries_xadd_ne hSame, List.prefix_rfl]

end Cache

namespace World

/-- `int(time.time() * 1000)`. -/
def now (w : World) : Int := w.clock / 1000000

/-- Time passes. -/
def tick (w : World) (ns : Nat) : World := { w with clock := w.clock + ns }

/-- `put_object`: the body under the key, over what was there. -/
def put (w : World) (key : String) (body : Body) : World :=
  { w with objects := Dict.set w.objects key body }

/-- `get_object`: the body under the key, if one was put. -/
def get (w : World) (key : String) : Option Body := Dict.get? w.objects key

/-- The cache's `set_if_absent` at the time of the world. -/
def setIfAbsent (w : World) (key value : String) (ttlSeconds : Int) : World × Bool :=
  let r := w.cache.setIfAbsent w.clock key value ttlSeconds
  ({ w with cache := r.1 }, r.2)

def cacheSet (w : World) (key value : String) : World :=
  { w with cache := w.cache.set key value }

def ensureGroup (w : World) (stream group : String) : World :=
  { w with cache := w.cache.ensureGroup stream group }

def xadd (w : World) (stream : String) (fields : List (String × String)) : World :=
  { w with cache := w.cache.xadd stream fields }

/-- A transaction on the database of the world. -/
def transaction (w : World) (statements : List Statement) : Except Failure World :=
  (w.db.transaction statements).map fun db => { w with db := db }

/-- A transaction that goes through changes the tables and nothing else. -/
theorem transaction_ok {w w' : World} {statements : List Statement}
    (h : w.transaction statements = .ok w') :
    ∃ db, w.db.transaction statements = .ok db ∧ w' = { w with db := db } := by
  unfold World.transaction at h
  cases hDb : w.db.transaction statements with
  | ok db => exact ⟨db, rfl, by simpa [hDb, Except.map] using h.symm⟩
  | error e => simp [hDb, Except.map] at h

/-- A free key is set, with its expiry. -/
theorem setIfAbsent_free {w : World} {key : String} (value : String) (ttlSeconds : Int)
    (h : w.cache.live w.clock key = none) :
    w.setIfAbsent key value ttlSeconds =
      ({ w with cache := { w.cache with
          store := Dict.set w.cache.store key (value, some (w.clock + lifetime ttlSeconds)) } },
        true) := by
  simp [setIfAbsent, Cache.setIfAbsent, h]

/-- A reservation whose key is live is refused and changes nothing. -/
theorem setIfAbsent_taken {w : World} {key taken : String} (value : String) (ttlSeconds : Int)
    (h : w.cache.live w.clock key = some taken) :
    w.setIfAbsent key value ttlSeconds = (w, false) := by
  simp [setIfAbsent, Cache.setIfAbsent, h]

/-- In any millisecond the clock is past the beginning of it and before its end. -/
theorem now_bounds (w : World) :
    w.now * 1000000 ≤ w.clock ∧ w.clock < (w.now + 1) * 1000000 := by
  unfold now
  omega

/-- The time in milliseconds does not go back where the clock does not. -/
theorem now_mono {w w' : World} (h : w.clock ≤ w'.clock) : w.now ≤ w'.now :=
  Int.ediv_le_ediv (by decide) h

theorem clock_tick (w : World) (ns : Nat) : w.clock ≤ (w.tick ns).clock :=
  Int.le_add_of_nonneg_right (Int.natCast_nonneg ns)

theorem now_tick (w : World) (ns : Nat) : w.now ≤ (w.tick ns).now := now_mono (w.clock_tick ns)

@[simp] theorem get_put_self (w : World) (key : String) (body : Body) :
    (w.put key body).get key = some body := Dict.get?_set_self _ _ _

/-- What a key reads after a put, whether it is the key that was put or not. -/
theorem get_put (w : World) (key key' : String) (body : Body) :
    (w.put key body).get key' = if key = key' then some body else w.get key' :=
  Dict.get?_set _ _ _ _

end World

end AgentShield.Server
