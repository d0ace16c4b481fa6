import AgentShield.Lib.Async
import AgentShield.Server.Models

/-!
# The signed-operation ingest

`submitOperation` accepts a signed operation record: it validates the fields,
reserves the nonce, checks the agent, its key and the signature, checks that the
record extends the agent's chain, stores the record and a receipt, and inserts
the rows in one transaction.  `verifyOperation` reads an operation back and
re-derives its signature, chain and receipt.

Every storage call is an await: other handlers run between any two of them.
-/

namespace AgentShield.Server

open AgentShield.Lib AgentShield.Lib.Async AgentShield.Sdk

abbrev Handler := Async World Failure

/-! ## Checks that both ingest paths make -/

/-- What an ingest path checks about a submission after its fields: operations and action
records are of different shapes, but the checks are the same. -/
structure Submission where
  orgId : String
  agentId : String
  nonce : String
  ttlMs : Int
  agentPubkeyKid : String
  prevChainHash : String
  /-- Whether the submission's signature verifies under a public key. -/
  signedBy : String → Bool

/-- The cache key that a nonce is reserved under, one for each organisation. -/
def nonceKey (orgId nonce : String) : String := "nonce:" ++ orgId ++ ":" ++ nonce

/-- `ceil(ttl_ms / 1000)`. -/
def nonceTtl (ttlMs : Int) : Int := -(-ttlMs / 1000)

/-- A frozen agent and a revoked one are refused with a 403. -/
def checkAgent (agent : Agent) : Except Failure Unit := do
  refuseIf (agent.status = .frozen) (.app (.plain 403 .agentFrozen))
  refuseIf (agent.status = .revoked)
    (.app (.withMessage 403 .agentFrozen "The agent has been revoked."))

/-- A revoked key and a retired one are refused with a 403. -/
def checkKey (key : AgentKey) : Except Failure Unit := do
  refuseIf (key.status = .revoked) (.app (.plain 403 .keyRevoked))
  refuseIf (key.status = .retired)
    (.app (.withMessage 403 .keyRevoked "The signing key is retired."))

/-- The chain hash that the next record of the agent has to name. -/
def expectedPrev (latest : Option OperationRow) : String :=
  match latest with
  | some row => row.chainHash
  | none => genesisChainHash

/-- The number after that of the latest operation, and one for the first. -/
def nextSeq (latest : Option OperationRow) : Int :=
  match latest with
  | some row => row.seqNo + 1
  | none => 1

/-- The 400 of a record that does not extend its chain, with the hash that was expected. -/
def prevHashMismatch (expected actual : String) : Failure :=
  .app { statusCode := 400
         errorCode := .prevHashMismatch
         message := "The previous chain hash does not match."
         details := some [("expected", .str expected), ("actual", .str actual)] }

/-- Steps 2 to 6: replay detection, the agent, its key, the signature and the
chain head.  Returns the sequence number of the new record. -/
def admitSubmission (sub : Submission) : Handler Int := do
  let fresh ← act fun w =>
    w.setIfAbsent (nonceKey sub.orgId sub.nonce) "1" (nonceTtl sub.ttlMs)
  raiseIf (fresh = false) (.app (.plain 400 .replayDetected))
  let found ← read fun w => w.db.findAgent sub.agentId sub.orgId
  let agent ← require found (.app (.plain 404 .unknownAgent))
  ofExcept (checkAgent agent)
  let foundKey ← read fun w => w.db.findAgentKey sub.agentPubkeyKid sub.agentId
  let key ← require foundKey
    (.app (.withMessage 400 .invalidSignature "Signing key not found for agent."))
  ofExcept (checkKey key)
  raiseIf (sub.signedBy key.publicKey = false) (.app (.plain 400 .invalidSignature))
  let latest ← read fun w => w.db.latestOperation sub.agentId
  raiseIf (sub.prevChainHash ≠ expectedPrev latest)
    (prevHashMismatch (expectedPrev latest) sub.prevChainHash)
  return nextSeq latest

/-! ## Submitting an operation -/

section Submit

variable (text : FloatText)

/-- The fields that must not be empty, with their names as the errors give them. -/
def requiredStrings (rec : OperationRecord) : List (String × String) :=
  [("operation_id", rec.operationId),
   ("org_id", rec.orgId),
   ("agent_id", rec.agentId),
   ("nonce", rec.nonce),
   ("operation_type", rec.operationType),
   ("payload_hash", rec.payloadHash),
   ("prev_chain_hash", rec.prevChainHash),
   ("agent_pubkey_kid", rec.agentPubkeyKid),
   ("signature", rec.signature)]

/-- The text whose size is limited, when there is a payload. -/
def payloadText (p : RecordPayload) : Option String :=
  match p with
  | .none => none
  | .text s => some s
  | .object fields => some (text.jsonDumps (.obj fields))

def invalid (message : String) : Failure :=
  .app (.withMessage 400 .validationError message)

/-- The payload's text has more bytes than allowed. -/
def payloadTooLarge (payload : Option String) : Prop :=
  ∃ s ∈ payload, maxPayloadSize < s.utf8ByteSize

instance (payload : Option String) : Decidable (payloadTooLarge payload) := by
  unfold payloadTooLarge
  infer_instance

/-- The checks of an operation record, in the order of the source: the version, the required
texts, the nonce, the times, the lifetime, and the size of the payload. -/
def validateRecordFields (rec : OperationRecord) (receivedAt : Int) : Except Failure Unit := do
  refuseIf (rec.opVersion ≠ "1.0") (invalid "Unsupported protocol version.")
  requireFields (requiredStrings rec)
  refuseIf (maxNonceLength < rec.nonce.length) (invalid "Nonce too long.")
  refuseIf (rec.issuedAt ≤ 0) (invalid "Invalid issued_at.")
  refuseIf (rec.ttlMs < minTtlMs) (invalid "TTL too low.")
  refuseIf (maxTtlMs < rec.ttlMs) (invalid "TTL too high.")
  refuseIf (rec.issuedAt + rec.ttlMs < receivedAt) (.app (.plain 400 .ttlExpired))
  refuseIf (payloadTooLarge (payloadText text rec.payload))
    (.app (.plain 400 .payloadTooLarge))

variable (crypto : CryptoProvider)

/-- What admission needs of an operation record.  The signature is over the canonical text of
the signed fields. -/
def OperationRecord.submission (rec : OperationRecord) : Submission where
  orgId := rec.orgId
  agentId := rec.agentId
  nonce := rec.nonce
  ttlMs := rec.ttlMs
  agentPubkeyKid := rec.agentPubkeyKid
  prevChainHash := rec.prevChainHash
  signedBy publicKey :=
    crypto.verifyEd25519 publicKey (crypto.canonical (signable rec)) rec.signature

/-- The object key of an operation's record. -/
def recordKey (orgId agentId operationId : String) : String :=
  orgId ++ "/" ++ agentId ++ "/" ++ operationId

/-- Where the receipt of an operation lies. -/
def receiptKey (orgId agentId operationId : String) : String :=
  orgId ++ "/" ++ agentId ++ "/receipts/" ++ operationId

/-- The chain hash of a record: over its previous hash, its payload hash, its id and its time.
-/
def recordChainHash (rec : OperationRecord) : String :=
  crypto.chainHash rec.prevChainHash rec.payloadHash rec.operationId rec.issuedAt

/-- The row of an accepted operation.  The chain hash is computed from the record, and the
open fields are stored as texts. -/
def operationRow (rec : OperationRecord) (receivedAt seqNo : Int) : OperationRow where
  operationId := rec.operationId
  orgId := rec.orgId
  agentId := rec.agentId
  seqNo := seqNo
  operationType := rec.operationType
  issuedAt := rec.issuedAt
  ttlMs := rec.ttlMs
  nonce := rec.nonce
  subject := text.jsonDumps (.obj rec.subject)
  action := text.jsonDumps (.obj rec.action)
  payloadHash := rec.payloadHash
  prevChainHash := rec.prevChainHash
  chainHash := recordChainHash crypto rec
  agentPubkeyKid := rec.agentPubkeyKid
  signature := rec.signature
  r2PayloadKey := some (recordKey rec.orgId rec.agentId rec.operationId)
  createdAt := receivedAt

/-- The receipt of an operation before it is hashed and signed; both of these are over the
receipt with the two fields empty. -/
def unsignedReceipt (rec : OperationRecord) (receivedAt seqNo : Int) (receiptId : String) :
    EAR where
  receiptVersion := "1.0"
  receiptId := receiptId
  operationId := rec.operationId
  orgId := rec.orgId
  agentId := rec.agentId
  serverReceivedAt := receivedAt
  seqNo := seqNo
  chainHash := recordChainHash crypto rec
  queueMessageId := receiptId
  receiptHash := ""
  elydoraKid := elydoraKid
  elydoraSignature := ""

/-- The receipt with its hash and the server's signature over the hash. -/
def signReceipt (serverSigningKey : String) (ear : EAR) : EAR :=
  let receiptHash := crypto.receiptHash (.obj ear.receiptFields)
  { ear with
    receiptHash := receiptHash
    elydoraSignature := crypto.signEd25519 serverSigningKey receiptHash }

/-- The row of a receipt. -/
def receiptRow (rec : OperationRecord) (receivedAt : Int) (receiptId : String) : ReceiptRow where
  receiptId := receiptId
  operationId := rec.operationId
  r2ReceiptKey := receiptKey rec.orgId rec.agentId rec.operationId
  createdAt := receivedAt

/-- The cache key of the hint at an agent's latest hash. -/
def chainHintKey (agentId : String) : String := "chain:" ++ agentId ++ ":latest"

/-- The ingest of a signed operation record.  `receiptId` is the generated id of
the receipt. -/
def submitOperation (serverSigningKey : String) (rec : OperationRecord) (receiptId : String) :
    Handler EAR := do
  let receivedAt ← read World.now
  ofExcept (validateRecordFields text rec receivedAt)
  let seqNo ← admitSubmission (rec.submission crypto)
  write fun w => w.put (recordKey rec.orgId rec.agentId rec.operationId)
    (.ofJson rec.modelDump)
  let ear := signReceipt crypto serverSigningKey
    (unsignedReceipt crypto rec receivedAt seqNo receiptId)
  write fun w => w.put (receiptKey rec.orgId rec.agentId rec.operationId)
    (.ofJson ear.modelDump)
  attempt fun w => w.transaction
    [.insertOperation (operationRow text crypto rec receivedAt seqNo),
     .insertReceipt (receiptRow rec receivedAt receiptId)]
  write fun w => w.cacheSet (chainHintKey rec.agentId) (recordChainHash crypto rec)
  return ear

end Submit

/-! ## Verifying an operation -/

/-- The report of a verification: the verdict, its three checks and the errors.  It is valid
when all three checks have passed. -/
structure VerifyReport where
  valid : Bool
  signature : Bool
  chain : Bool
  receipt : Bool
  errors : List String
  deriving DecidableEq

def VerifyReport.refused (error : String) : VerifyReport where
  valid := false
  signature := false
  chain := false
  receipt := false
  errors := [error]

section Verify

variable (py : Pydantic) (crypto : CryptoProvider)

/-- The signature check of a stored record against the key that it names. -/
def signatureCheck (key : Option AgentKey) (rec : OperationRecord) : Bool × List String :=
  match key with
  | some k =>
      if crypto.verifyEd25519 k.publicKey (crypto.canonical (signable rec)) rec.signature then
        (true, [])
      else (false, ["Ed25519 signature verification failed."])
  | none => (false, ["Signing key \"" ++ rec.agentPubkeyKid ++ "\" not found."])

/-- Whether a row's chain hash is the hash of its own columns. -/
def chainHashMatches (row : OperationRow) : Bool :=
  crypto.chainHash row.prevChainHash row.payloadHash row.operationId row.issuedAt
    = row.chainHash

/-- The chain hash that was stored against the one computed from the row. -/
def chainHashErrors (row : OperationRow) : List String :=
  if chainHashMatches crypto row then [] else ["Chain hash mismatch vs recomputed value."]

/-- Whether a row continues the row before it.  A missing row is no objection. -/
def linksTo (row : OperationRow) (prev : Option OperationRow) : Bool :=
  match prev with
  | some p => p.chainHash = row.prevChainHash
  | none => true

/-- The stored previous hash against that of the operation before. -/
def linkErrors (row : OperationRow) (prev : Option OperationRow) : List String :=
  if linksTo row prev then []
  else ["prev_chain_hash does not link to the previous operation."]

/-- The hashed fields of a stored receipt, or `none` when one is missing. -/
def storedReceiptFields (doc : Json) : List String → Option (List (String × Json))
  | [] => some []
  | name :: names => do
      let value ← doc.field? name
      let rest ← storedReceiptFields doc names
      return (name, value) :: rest

/-- The receipt check of a stored receipt document. -/
def receiptCheck (doc : Json) : Except Failure (Bool × List String) :=
  match storedReceiptFields doc receiptFieldNames, doc.field? "receipt_hash" with
  | some fields, some stored =>
      if .str (crypto.receiptHash (.obj fields)) = stored then .ok (true, [])
      else .ok (false, ["Receipt hash does not match recomputed value."])
  | _, _ => .error .lookup

/-- The independent re-derivation of an operation's signature, chain and receipt, from the
stored record, the key in the registry and the row of the operation before it. -/
def verifyOperation (operationId orgId : String) : Handler VerifyReport := do
  let found ← read fun w => w.db.findOperation operationId orgId
  let operation ← require found
    (.app (.withMessage 404 .notFound "Operation not found."))
  match operation.r2PayloadKey with
  | none => return .refused "Operation has no object-store payload key."
  | some key =>
      if key = "" then return .refused "Operation has no object-store payload key."
      else do
        let raw ← read fun w => w.get key
        match raw with
        | none => return .refused "Record evidence not found in the object store."
        | some .notJson => raise .validation
        | some (.document doc) => do
            let rec ← require (OperationRecord.modelValidateJson py doc) .validation
            let agentKey ← read fun w => w.db.findAgentKey rec.agentPubkeyKid rec.agentId
            let (sigOk, sigErrors) := signatureCheck crypto agentKey rec
            let prev ← if 1 < operation.seqNo then
                read fun w => w.db.findOperationAt operation.agentId (operation.seqNo - 1)
              else pure none
            let chainOk := chainHashMatches crypto operation && linksTo operation prev
            let chainErrors := chainHashErrors crypto operation ++ linkErrors operation prev
            let receiptRow ← read fun w => w.db.findReceipt operationId
            let (receiptOk, receiptErrors) ← match receiptRow with
              | none => pure (false, ["No receipt found for this operation."])
              | some row => do
                  let earRaw ← read fun w => w.get row.r2ReceiptKey
                  match earRaw with
                  | none => pure (false, ["Receipt evidence not found in the object store."])
                  | some .notJson => raise .lookup
                  | some (.document ear) => ofExcept (receiptCheck crypto ear)
            return { valid := sigOk && chainOk && receiptOk
                     signature := sigOk
                     chain := chainOk
                     receipt := receiptOk
                     errors := sigErrors ++ chainErrors ++ receiptErrors }

end Verify

end AgentShield.Server
