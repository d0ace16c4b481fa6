import AgentShield.Sdk.Schema

/-!
# The signable projection

Which bytes of a record or a verdict are hashed and signed.  The projection is
the dump without `None` fields, less the fields that the server sets later:
`signature` and `chain_hash` of a record, `signature_by_shield` of a verdict.
-/

namespace AgentShield.Sdk

/-- The fields of a record that its signature does not cover. -/
def recordUnsigned : List String := ["signature", "chain_hash"]

/-- The field of a verdict that its signature does not cover. -/
def verdictUnsigned : List String := ["signature_by_shield"]

/-- The dump of a model without the fields named in `drop`. -/
def signableDict (dump : Json) (drop : List String) : Json :=
  match dump with
  | .obj fields => .obj (fields.filter fun f => f.1 ∉ drop)
  | j => j

/-- The part of a record that is signed: all fields that are not none, but the signature and
the chain hash. -/
def recordSignableDict (record : ShieldActionRecord) : Json :=
  signableDict (record.modelDump true) recordUnsigned

/-- The part of a verdict that is signed: all fields that are not none, but the signature. -/
def verdictSignableDict (verdict : GovernanceVerdict) : Json :=
  signableDict (verdict.modelDump true) verdictUnsigned

variable (prim : Primitives)

/-- The text of a record that is signed. -/
def recordSigningString (record : ShieldActionRecord) : String :=
  prim.jcsCanonicalize (recordSignableDict record)

/-- The text of a verdict that is signed. -/
def verdictSigningString (verdict : GovernanceVerdict) : String :=
  prim.jcsCanonicalize (verdictSignableDict verdict)

/-- `compute_record_payload_hash`: the hash of the payload without the fields that are none. -/
def computeRecordPayloadHash (record : ShieldActionRecord) : String :=
  prim.computePayloadHash (record.payload.modelDump true)

/-- The chain hash that the server derives for a record. -/
def deriveChainHash (prevChainHash : String) (record : ShieldActionRecord) : String :=
  prim.computeChainHash prevChainHash record.payloadHash record.recordId record.issuedAt

/-- `sign_record`. -/
def signRecord (record : ShieldActionRecord) (privateKeyBase64url : String) : String :=
  prim.signEd25519 privateKeyBase64url (recordSigningString prim record)

/-- `verify_record`: a record without a signature does not verify. -/
def verifyRecord (record : ShieldActionRecord) (publicKeyBase64url : String) : Bool :=
  match record.signature with
  | none => false
  | some signature =>
      prim.verifyEd25519 publicKeyBase64url (recordSigningString prim record) signature

/-- `sign_verdict`. -/
def signVerdict (verdict : GovernanceVerdict) (privateKeyBase64url : String) : String :=
  prim.signEd25519 privateKeyBase64url (verdictSigningString prim verdict)

/-- `verify_verdict`: a verdict without a signature does not verify. -/
def verifyVerdict (verdict : GovernanceVerdict) (publicKeyBase64url : String) : Bool :=
  match verdict.signatureByShield with
  | none => false
  | some signature =>
      prim.verifyEd25519 publicKeyBase64url (verdictSigningString prim verdict) signature

/-- A record with its payload hash and its signature. -/
def finalizeRecord (record : ShieldActionRecord) (privateKeyBase64url : String) :
    ShieldActionRecord :=
  let hashed := { record with payloadHash := computeRecordPayloadHash prim record }
  { hashed with signature := some (signRecord prim hashed privateKeyBase64url) }

/-- A verdict with the server's signature. -/
def finalizeVerdict (verdict : GovernanceVerdict) (privateKeyBase64url : String) :
    GovernanceVerdict :=
  { verdict with
    signatureByShield := some (signVerdict prim verdict privateKeyBase64url) }

end AgentShield.Sdk
