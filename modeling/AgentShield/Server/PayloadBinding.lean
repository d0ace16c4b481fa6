import AgentShield.Server.Completeness

/-!
# What a row says about the payload

A record states the hash of its payload, its agent signs the statement, and the
chain hash of the row covers it.  No ingest route recomputes it.  So in runs
that do not replace stored objects, a row carries the hash that the stored record
states, and it is the hash of the stored payload exactly when the agent stated
the right one.  The records that the SDK finalizes do.
-/

namespace AgentShield.Server

open AgentShield.Lib AgentShield.Lib.Async AgentShield.Sdk

/-! ## The record behind a row -/

/-- A record of either format, as an agent signs it. -/
inductive SignedRecord where
  | operation (rec : OperationRecord)
  | action (rec : ShieldActionRecord)

namespace SignedRecord

/-- The payload hash that the record states. -/
def payloadHash : SignedRecord → String
  | operation rec => rec.payloadHash
  | action rec => rec.payloadHash

/-- The canonical hash of the record's payload. -/
def canonicalHash (prim : Primitives) : SignedRecord → String
  | operation rec => prim.computePayloadHash rec.payload.toJson
  | action rec => computeRecordPayloadHash prim rec

def submission (settings : Settings) : SignedRecord → Submission
  | operation rec => rec.submission (shieldSdkCrypto settings.prim)
  | action rec => recordSubmission settings.prim rec

/-- Where the record is stored. -/
def key : SignedRecord → String
  | operation rec => recordKey rec.orgId rec.agentId rec.operationId
  | action rec => recordKey rec.orgId rec.agentId rec.recordId

def document : SignedRecord → Json
  | operation rec => rec.modelDump
  | action rec => rec.modelDump false

/-- The store keeps the record's payload. -/
def Stores : SignedRecord → Prop
  | operation _ => True
  | action rec => Portable rec.payload

end SignedRecord

/-- The canonical hash of the payload in a row's stored record, read in the
format of the route that inserted the row. -/
def storedPayloadHash (py : Pydantic) (prim : Primitives) (w : World) (row : OperationRow) :
    Option String := do
  let key ← row.r2PayloadKey
  match ← w.get key with
  | .notJson => none
  | .document doc =>
      if row.phase = none then do
        let rec ← OperationRecord.modelValidateJson py doc
        return prim.computePayloadHash rec.payload.toJson
      else do
        let payload ← ActionPayload.modelValidate py (← doc.field? "payload")
        return prim.computePayloadHash (payload.modelDump true)

/-- The row carries the canonical hash of its stored payload. -/
def PayloadBound (py : Pydantic) (prim : Primitives) (w : World) (row : OperationRow) : Prop :=
  storedPayloadHash py prim w row = some row.payloadHash

instance (py : Pydantic) (prim : Primitives) (w : World) (row : OperationRow) :
    Decidable (PayloadBound py prim w row) := by
  unfold PayloadBound
  infer_instance

/-- The row was inserted for the record, which its agent signed and the store
holds, and carries the payload hash that the record states. -/
structure AcceptedFrom (settings : Settings) (w : World) (row : OperationRow)
    (src : SignedRecord) : Prop where
  key : row.r2PayloadKey = some src.key
  stored : w.get src.key = some (.ofJson src.document)
  signed : SignedBy w.db (src.submission settings)
  stated : row.payloadHash = src.payloadHash

/-! ## Reading the stored payload -/

section Stored

variable {settings : Settings} {py : Pydantic} {w : World}

theorem storedPayloadHash_submitted {rec : OperationRecord} {receivedAt seqNo : Int}
    (hStored : w.get (recordKey rec.orgId rec.agentId rec.operationId) =
      some (.ofJson rec.modelDump)) :
    storedPayloadHash py settings.prim w (submittedRow settings rec receivedAt seqNo) =
      some (settings.prim.computePayloadHash rec.payload.toJson) := by
  have hRead := modelValidateJson_modelDump py rec
  have hHash : settings.prim.computePayloadHash rec.wire.payload.toJson =
      settings.prim.computePayloadHash rec.payload.toJson := by
    rw [← settings.prim.computePayloadHash_wire rec.payload.toJson]
    exact congrArg _ (RecordPayload.toJson_wire rec.payload)
  simp [storedPayloadHash, submittedRow, operationRow, hStored, Body.ofJson, hRead, hHash]

/-- The payload in a stored action record. -/
theorem field?_payload (rec : ShieldActionRecord) :
    (rec.modelDump false).wire.field? "payload" = some (rec.payload.modelDump false).wire := by
  rw [Json.field?_wire]
  rfl

theorem storedPayloadHash_governed {rec : ShieldActionRecord} {receivedAt seqNo : Int}
    (hStored : w.get (recordKey rec.orgId rec.agentId rec.recordId) =
      some (.ofJson (rec.modelDump false))) (hPortable : Portable rec.payload) :
    storedPayloadHash py settings.prim w (governedRow settings rec receivedAt seqNo) =
      some (computeRecordPayloadHash settings.prim rec) := by
  have hRead := ActionPayload.modelValidate_modelDump py rec.payload
  have hHash : settings.prim.computePayloadHash (rec.payload.wire.modelDump true) =
      computeRecordPayloadHash settings.prim rec := by
    rw [hPortable.modelDump_wire, Primitives.computePayloadHash_wire]
    rfl
  simp [storedPayloadHash, governedRow, operationsInsert, hStored, Body.ofJson, field?_payload,
    hRead, hHash]

end Stored

/-! ## Runs that replace no object -/

/-- No stored object is replaced by another. -/
def NoOverwrite (w w' : World) : Prop := ∀ e ∈ w.objects, w'.get e.1 = some e.2

instance (w w' : World) : Decidable (NoOverwrite w w') := by
  unfold NoOverwrite
  infer_instance

theorem StoredSince.get {key : String} {body : Body} {w : World}
    (h : StoredSince NoOverwrite key body w) : w.get key = some body := by
  obtain ⟨w₀, hGet, hSteps⟩ := h
  induction hSteps with
  | refl => exact hGet
  | tail _ hStep ih => exact hStep _ (mem_of_get ih)

/-- The evidence of a row names the record that it was accepted from. -/
theorem Evidence.payload {settings : Settings} (py : Pydantic) {w : World} {row : OperationRow}
    {receipt : Option ReceiptRow} (h : Evidence settings NoOverwrite w row receipt) :
    ∃ src, AcceptedFrom settings w row src ∧
      (src.Stores →
        storedPayloadHash py settings.prim w row = some (src.canonicalHash settings.prim)) := by
  cases h with
  | submitted signed stored receipt =>
      rename_i rec receivedAt seqNo receiptId
      have hGet := StoredSince.get stored
      refine ⟨.operation rec, ?_, fun _ => storedPayloadHash_submitted hGet⟩
      exact { key := rfl, stored := hGet, signed := signed, stated := rfl }
  | governed signed stored =>
      rename_i rec receivedAt seqNo
      have hGet := StoredSince.get stored
      refine ⟨.action rec, ?_, fun hPortable => storedPayloadHash_governed hGet hPortable⟩
      exact { key := rfl, stored := hGet, signed := signed, stated := rfl }

/-- Each row carries the payload hash that the stored record states under its
agent's signature.  It is the canonical hash of the stored payload exactly when
the record stated the canonical hash of its payload. -/
def PayloadsStated (settings : Settings) (py : Pydantic) (w : World) : Prop :=
  ∀ row ∈ w.db.operations, ∃ src, AcceptedFrom settings w row src ∧
    (src.Stores → (PayloadBound py settings.prim w row ↔
      src.payloadHash = src.canonicalHash settings.prim))

/-- **Payload binding**, in every state of every run that replaces no stored object: the
object of an accepted operation states the payload hash of its row under the agent's
signature, and it is the hash of the stored payload exactly when the agent has stated the
right one. -/
theorem payload_binding (settings : Settings) (py : Pydantic) (now : Int) (agents : List Agent)
    (agentKeys : List AgentKey) (events : List (Event (ingestService settings)))
    (hKept : (Pool.start (World.initial now agents agentKeys)).Within NoOverwrite events) :
    PayloadsStated settings py (served settings now agents agentKeys events).state := by
  intro row hRow
  have hEvidence := (served_recorded events hKept).evidence row hRow
  obtain ⟨src, hFrom, hHash⟩ := hEvidence.payload py
  refine ⟨src, hFrom, fun hStores => ?_⟩
  unfold PayloadBound
  rw [hHash hStores, hFrom.stated]
  simp [eq_comm]

/-- The records that the SDK finalizes state the right hash. -/
theorem finalizeRecord_payloadHash (prim : Primitives) (rec : ShieldActionRecord) (seed : String) :
    (finalizeRecord prim rec seed).payloadHash =
      computeRecordPayloadHash prim (finalizeRecord prim rec seed) := rfl

namespace Sample

/-- An operation that states a hash of another payload. -/
def misstated : List (Event (ingestService settings)) :=
  served (.submit { operation "op1" "n1" 1000 genesisChainHash with payloadHash := "ph" } "r1")
    0 9

end Sample

set_option maxRecDepth 40000 in
theorem payload_binding_sample :
    PayloadsStated Sample.settings Sample.pydantic
      (served Sample.settings 1000 Sample.agents Sample.agentKeys Sample.recorded).state :=
  payload_binding Sample.settings Sample.pydantic 1000 Sample.agents Sample.agentKeys
    Sample.recorded (by decide)

set_option maxRecDepth 40000 in
/-- **A row need not carry the hash of its stored payload.** -/
theorem misstated_hash_accepted :
    ¬ ∀ (settings : Settings) (py : Pydantic) (now : Int) (agents : List Agent)
      (agentKeys : List AgentKey) (events : List (Event (ingestService settings))),
      ∀ row ∈ (served settings now agents agentKeys events).state.db.operations,
        PayloadBound py settings.prim (served settings now agents agentKeys events).state row := by
  intro h
  have hUnbound : ¬ ∀ row ∈ (served Sample.settings 1000 Sample.agents Sample.agentKeys
      Sample.misstated).state.db.operations,
      PayloadBound Sample.pydantic Sample.settings.prim (served Sample.settings 1000
        Sample.agents Sample.agentKeys Sample.misstated).state row := by
    decide
  exact hUnbound (h Sample.settings Sample.pydantic 1000 Sample.agents Sample.agentKeys
    Sample.misstated)

end AgentShield.Server
