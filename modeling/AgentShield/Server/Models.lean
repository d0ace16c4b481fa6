import AgentShield.Sdk.Validate
import AgentShield.Server.Storage

/-!
# Signed operation records and receipts

The `OperationRecord` that an agent submits, the `EAR` receipt that the server
signs for it, and how both are written to the object store and read back.
Reading a written record gives the record up to the floats without a JSON number
(`modelValidateJson_modelDump`), so its signing text is the one that was signed
(`canonical_signable_wire`).
-/

namespace AgentShield.Server

open AgentShield.Lib AgentShield.Sdk

/-- The payload of an operation record: `dict[str, Any] | str | None`. -/
inductive RecordPayload where
  | none
  | text (s : String)
  | object (fields : List (String × Json))
  deriving DecidableEq

def RecordPayload.toJson : RecordPayload → Json
  | none => .null
  | text s => .str s
  | object fields => .obj fields

structure OperationRecord where
  opVersion : String := ""
  operationId : String := ""
  orgId : String := ""
  agentId : String := ""
  issuedAt : Int := 0
  ttlMs : Int := -1
  nonce : String := ""
  operationType : String := ""
  subject : List (String × Json) := []
  action : List (String × Json) := []
  payload : RecordPayload := .none
  payloadHash : String := ""
  prevChainHash : String := ""
  agentPubkeyKid : String := ""
  signature : String := ""
  deriving DecidableEq

/-- The fields of a record in order, without its signature. -/
def OperationRecord.unsignedFields (r : OperationRecord) : List (String × Json) :=
  [("op_version", .str r.opVersion),
   ("operation_id", .str r.operationId),
   ("org_id", .str r.orgId),
   ("agent_id", .str r.agentId),
   ("issued_at", .int r.issuedAt),
   ("ttl_ms", .int r.ttlMs),
   ("nonce", .str r.nonce),
   ("operation_type", .str r.operationType),
   ("subject", .obj r.subject),
   ("action", .obj r.action),
   ("payload", r.payload.toJson),
   ("payload_hash", .str r.payloadHash),
   ("prev_chain_hash", .str r.prevChainHash),
   ("agent_pubkey_kid", .str r.agentPubkeyKid)]

def OperationRecord.modelDump (r : OperationRecord) : Json :=
  .obj (r.unsignedFields ++ [("signature", .str r.signature)])

/-- The signed part of a record: its dump without the signature. -/
def signable (r : OperationRecord) : Json :=
  match r.modelDump with
  | .obj fields => .obj (fields.filter fun f => f.1 ≠ "signature")
  | j => j

theorem signable_eq (r : OperationRecord) : signable r = .obj r.unsignedFields := by
  simp [signable, OperationRecord.modelDump, OperationRecord.unsignedFields]

/-! ## Reading a record -/

def parsePayload : Json → Option RecordPayload
  | .null => some .none
  | .str s => some (.text s)
  | .obj fields => some (.object fields)
  | _ => none

/-- A record from a document.  Unknown fields are ignored and missing ones have
their defaults. -/
def OperationRecord.modelValidateJson (py : Pydantic) (doc : Json) : Option OperationRecord :=
  match doc with
  | .obj _ => do
      return {
        opVersion := ← readField doc "op_version" "" parseStr
        operationId := ← readField doc "operation_id" "" parseStr
        orgId := ← readField doc "org_id" "" parseStr
        agentId := ← readField doc "agent_id" "" parseStr
        issuedAt := ← readField doc "issued_at" 0 py.intOf
        ttlMs := ← readField doc "ttl_ms" (-1) py.intOf
        nonce := ← readField doc "nonce" "" parseStr
        operationType := ← readField doc "operation_type" "" parseStr
        subject := ← readField doc "subject" [] parseDict
        action := ← readField doc "action" [] parseDict
        payload := ← readField doc "payload" .none parsePayload
        payloadHash := ← readField doc "payload_hash" "" parseStr
        prevChainHash := ← readField doc "prev_chain_hash" "" parseStr
        agentPubkeyKid := ← readField doc "agent_pubkey_kid" "" parseStr
        signature := ← readField doc "signature" "" parseStr }
  | _ => none

def RecordPayload.wire : RecordPayload → RecordPayload
  | none => none
  | text s => text s
  | object fields => object (Json.wireFields fields)

/-- A record as it is read back from the store. -/
def OperationRecord.wire (r : OperationRecord) : OperationRecord :=
  { r with
    subject := Json.wireFields r.subject
    action := Json.wireFields r.action
    payload := r.payload.wire }

theorem RecordPayload.toJson_wire (p : RecordPayload) : p.wire.toJson = p.toJson.wire := by
  cases p <;> rfl

theorem parsePayload_toJson (p : RecordPayload) : parsePayload p.toJson = some p := by
  cases p <;> rfl

theorem OperationRecord.modelDump_wire (r : OperationRecord) :
    r.wire.modelDump = r.modelDump.wire := by
  simp only [modelDump, unsignedFields, OperationRecord.wire, RecordPayload.toJson_wire,
    List.cons_append, List.nil_append, Json.wire, Json.wireFields]

theorem signable_wire (r : OperationRecord) : signable r.wire = (signable r).wire := by
  simp only [signable_eq, OperationRecord.unsignedFields, OperationRecord.wire,
    RecordPayload.toJson_wire, Json.wire, Json.wireFields]

/-- **Reading back**: a stored record is read as the record that was stored. -/
theorem modelValidateJson_modelDump (py : Pydantic) (r : OperationRecord) :
    OperationRecord.modelValidateJson py r.modelDump.wire = some r.wire := by
  rw [← OperationRecord.modelDump_wire]
  simp [OperationRecord.modelValidateJson, OperationRecord.modelDump,
    OperationRecord.unsignedFields, readField, Json.field?, Dict.get?, parseStr, parseDict,
    py.intOf_int, parsePayload_toJson]

/-! ## Receipts -/

structure EAR where
  receiptVersion : String
  receiptId : String
  operationId : String
  orgId : String
  agentId : String
  serverReceivedAt : Int
  seqNo : Int
  chainHash : String
  queueMessageId : String
  receiptHash : String
  elydoraKid : String
  elydoraSignature : String
  deriving DecidableEq

/-- The names of the hashed fields of a receipt. -/
def receiptFieldNames : List String :=
  ["receipt_version", "receipt_id", "operation_id", "org_id", "agent_id",
    "server_received_at", "seq_no", "chain_hash", "queue_message_id"]

/-- The hashed part of a receipt. -/
def EAR.receiptFields (e : EAR) : List (String × Json) :=
  [("receipt_version", .str e.receiptVersion),
   ("receipt_id", .str e.receiptId),
   ("operation_id", .str e.operationId),
   ("org_id", .str e.orgId),
   ("agent_id", .str e.agentId),
   ("server_received_at", .int e.serverReceivedAt),
   ("seq_no", .int e.seqNo),
   ("chain_hash", .str e.chainHash),
   ("queue_message_id", .str e.queueMessageId)]

def EAR.modelDump (e : EAR) : Json :=
  .obj (e.receiptFields ++
    [("receipt_hash", .str e.receiptHash),
     ("elydora_kid", .str e.elydoraKid),
     ("elydora_signature", .str e.elydoraSignature)])

/-! ## The crypto seam -/

/-- The crypto surface that the ingest needs. -/
structure CryptoProvider where
  canonical : Json → String
  verifyEd25519 (publicKey message signature : String) : Bool
  chainHash (prev payloadHash operationId : String) (issuedAt : Int) : String
  receiptHash : Json → String
  signEd25519 (privateKey message : String) : String

/-- The production provider. -/
def shieldSdkCrypto (prim : Primitives) : CryptoProvider where
  canonical := prim.jcsCanonicalize
  verifyEd25519 := prim.verifyEd25519
  chainHash := prim.computeChainHash
  receiptHash := prim.computePayloadHash
  signEd25519 := prim.signEd25519

/-- **The signing text of a record does not change in the store.** -/
theorem canonical_signable_wire (prim : Primitives) (r : OperationRecord) :
    (shieldSdkCrypto prim).canonical (signable r.wire) =
      (shieldSdkCrypto prim).canonical (signable r) := by
  rw [signable_wire]
  exact prim.jcsCanonicalize_wire (signable r)

end AgentShield.Server
