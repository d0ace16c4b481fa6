import AgentShield.Server.Ingest
import AgentShield.Sdk.Canonical

/-!
# The governance ingest

`decide` ingests a pre-execution record and returns a signed verdict in one
round trip; `record` ingests a post-execution record.  Both share the checks and
the chain of the signed-operation ingest, under the projection of the action
record.  The governance app owns the decision; what it answers to a record is
part of the request, so that the model covers every app and every state of it.

Accepted records are fanned out to the action stream of their workflow, verdicts
to its verdict stream.
-/

namespace AgentShield.Server

open AgentShield.Lib AgentShield.Lib.Async AgentShield.Sdk

/-- What the governance app answers to a record: an unsigned verdict, or an
exception. -/
abbrev GovernanceApp := ShieldActionRecord → Except Failure GovernanceVerdict

section Ingest

variable (prim : Primitives)

def requiredRecordFields (rec : ShieldActionRecord) : List (String × String) :=
  [("record_id", rec.recordId),
   ("correlation_id", rec.correlationId),
   ("org_id", rec.orgId),
   ("agent_id", rec.agentId),
   ("nonce", rec.nonce),
   ("payload_hash", rec.payloadHash),
   ("prev_chain_hash", rec.prevChainHash),
   ("agent_pubkey_kid", rec.agentPubkeyKid)]

def validateRecord (rec : ShieldActionRecord) (receivedAt : Int) (expectedPhase : Phase) :
    Except Failure Unit := do
  refuseIf (rec.phase ≠ expectedPhase)
    (invalid ("This route requires phase=" ++ expectedPhase.value ++ "."))
  refuseIf (rec.shieldVersion ≠ "1.1") (invalid "Unsupported shield_version.")
  requireFields (requiredRecordFields rec)
  refuseIf (blank (rec.signature.getD "") = true) (invalid "Missing signature.")
  refuseIf (maxNonceLength < rec.nonce.length) (invalid "Nonce too long.")
  refuseIf (rec.issuedAt ≤ 0) (invalid "Invalid issued_at.")
  refuseIf (rec.ttlMs < minTtlMs) (invalid "TTL too low.")
  refuseIf (maxTtlMs < rec.ttlMs) (invalid "TTL too high.")
  refuseIf (rec.issuedAt + rec.ttlMs < receivedAt) (.app (.plain 400 .ttlExpired))
  refuseIf (maxPayloadSize <
      (prim.toFloatText.modelDumpJson (rec.payload.modelDump false)).utf8ByteSize)
    (.app (.plain 400 .payloadTooLarge))

def recordSubmission (rec : ShieldActionRecord) : Submission where
  orgId := rec.orgId
  agentId := rec.agentId
  nonce := rec.nonce
  ttlMs := rec.ttlMs
  agentPubkeyKid := rec.agentPubkeyKid
  prevChainHash := rec.prevChainHash
  signedBy publicKey := verifyRecord prim rec publicKey

/-- Steps 1 to 8, which both phases share: the checks, the chain hash and the
stored record.  Returns the chain hash and the sequence number. -/
def ingestPrefix (rec : ShieldActionRecord) (receivedAt : Int) (expectedPhase : Phase) :
    Handler (String × Int) := do
  ofExcept (validateRecord prim rec receivedAt expectedPhase)
  let seqNo ← admitSubmission (recordSubmission prim rec)
  let chainHash := deriveChainHash prim rec.prevChainHash rec
  write fun w => w.put (recordKey rec.orgId rec.agentId rec.recordId)
    (.ofJson (rec.modelDump false))
  return (chainHash, seqNo)

/-- The row of an accepted action record.  Validation leaves no record without a signature,
and the payload itself lies in the object store. -/
def operationsInsert (rec : ShieldActionRecord) (seqNo : Int) (chainHash : String)
    (receivedAt : Int) : OperationRow where
  operationId := rec.recordId
  orgId := rec.orgId
  agentId := rec.agentId
  seqNo := seqNo
  operationType := rec.operationType
  issuedAt := rec.issuedAt
  ttlMs := rec.ttlMs
  nonce := rec.nonce
  subject := prim.toFloatText.jsonDumps (.obj rec.subject)
  action := prim.toFloatText.jsonDumps (rec.action.modelDump false)
  payloadHash := rec.payloadHash
  prevChainHash := rec.prevChainHash
  chainHash := chainHash
  agentPubkeyKid := rec.agentPubkeyKid
  signature := rec.signature.getD ""
  r2PayloadKey := some (recordKey rec.orgId rec.agentId rec.recordId)
  createdAt := receivedAt
  correlationId := some rec.correlationId
  runId := some rec.runId
  phase := some rec.phase.value

def streamName (streamPrefix workflowId : String) : String := streamPrefix ++ ":" ++ workflowId

/-- Creates the consumer groups of a stream. -/
def ensureGroups (stream : String) : List String → Handler Unit
  | [] => pure ()
  | group :: groups => do
      write fun w => w.ensureGroup stream group
      ensureGroups stream groups

def fanChannel2 (rec : ShieldActionRecord) (chainHash : String) (seqNo : Int)
    (verdictId : String) : Handler Unit := do
  let stream := streamName actionsStreamPrefix rec.workflowId
  ensureGroups stream consumerGroups
  write fun w => w.xadd stream
    [("record_id", rec.recordId),
     ("correlation_id", rec.correlationId),
     ("phase", rec.phase.value),
     ("seq_no", toString seqNo),
     ("chain_hash", chainHash),
     ("verdict_id", verdictId),
     ("record", prim.toFloatText.modelDumpJson (rec.modelDump false))]
  write fun w => w.cacheSet (chainHintKey rec.agentId) chainHash

def fanVerdicts (rec : ShieldActionRecord) (verdict : GovernanceVerdict) : Handler Unit := do
  let stream := streamName verdictsStreamPrefix rec.workflowId
  ensureGroups stream consumerGroups
  write fun w => w.xadd stream
    [("verdict_id", verdict.verdictId),
     ("record_id", rec.recordId),
     ("correlation_id", rec.correlationId),
     ("run_id", rec.runId),
     ("decision", verdict.decision.value),
     ("risk_score", prim.toFloatText.str verdict.riskScore),
     ("phase", rec.phase.value),
     ("verdict", prim.toFloatText.modelDumpJson (verdict.modelDump false))]

/-- `value or 0.0`. -/
def orZero (value : Option PyFloat) : PyFloat := value.getD (.finite 0)

def governanceVerdictInsert (rec : ShieldActionRecord) (verdict : GovernanceVerdict)
    (verdictKey : String) (createdAt : Int) : GovernanceVerdictRow where
  verdictId := verdict.verdictId
  recordId := rec.recordId
  correlationId := rec.correlationId
  runId := some rec.runId
  orgId := rec.orgId
  agentId := rec.agentId
  decision := verdict.decision.value
  riskScore := verdict.riskScore
  latencyMs := verdict.latencyMs
  preventedLoss := orZero verdict.obligations.preventedLoss
  r2VerdictKey := verdictKey
  createdAt := createdAt

/-- The log row of a decision.  The firing rule is the label of the first
reason. -/
def interventionLogInsert (rec : ShieldActionRecord) (verdict : GovernanceVerdict)
    (createdAt : Int) : InterventionRow where
  verdictId := verdict.verdictId
  recordId := rec.recordId
  correlationId := rec.correlationId
  runId := some rec.runId
  decision := verdict.decision.value
  stepIndex := rec.stepIndex
  triggeredRuleId := verdict.reasons.head?.map VerdictReason.label
  tokensIn := 0
  tokensOut := 0
  modelId := none
  servedVia := none
  latencyMs := verdict.latencyMs
  createdAt := createdAt

def verdictObjectKey (orgId agentId verdictId : String) : String :=
  orgId ++ "/" ++ agentId ++ "/verdicts/" ++ verdictId

/-- The verdict of the governance app under the identity of the ingested record,
signed with the server's key. -/
def serveVerdict (serverSigningKey : String) (rec : ShieldActionRecord)
    (verdict : GovernanceVerdict) (servedAt : Int) (latencyMs : PyFloat) :
    GovernanceVerdict :=
  finalizeVerdict prim
    { verdict with
      recordId := some rec.recordId
      correlationId := rec.correlationId
      runId := some rec.runId
      servedAt := some servedAt
      latencyMs := some latencyMs
      shieldKid := some shieldKid }
    serverSigningKey

/-- The synchronous gate of a pre-execution record.  `latencyMs` is the measured latency.  The
governance app is asked between the checks and the insert, and the verdict is put into the
object store before either row is inserted. -/
def Governance.decide (serverSigningKey : String) (rec : ShieldActionRecord)
    (govApp : GovernanceApp) (latencyMs : PyFloat) : Handler GovernanceVerdict := do
  let receivedAt ← read World.now
  let (chainHash, seqNo) ← ingestPrefix prim rec receivedAt .preExec
  let answer ← read fun _ => govApp rec
  let decided ← ofExcept answer
  let servedAt ← read World.now
  let verdict := serveVerdict prim serverSigningKey rec decided servedAt latencyMs
  let verdictKey := verdictObjectKey rec.orgId rec.agentId verdict.verdictId
  write fun w => w.put verdictKey (.ofJson (verdict.modelDump false))
  attempt fun w => w.transaction
    [.insertOperation (operationsInsert prim rec seqNo chainHash receivedAt),
     .insertGovernanceVerdict (governanceVerdictInsert rec verdict verdictKey receivedAt),
     .insertInterventionLog (interventionLogInsert rec verdict receivedAt)]
  fanChannel2 prim rec chainHash seqNo verdict.verdictId
  fanVerdicts prim rec verdict
  return verdict

/-- The part of `decide` before the governance app is asked. -/
def admitDecision (rec : ShieldActionRecord) : Handler (Int × String × Int) := do
  let receivedAt ← read World.now
  let (chainHash, seqNo) ← ingestPrefix prim rec receivedAt .preExec
  return (receivedAt, chainHash, seqNo)

/-- The part of `decide` after its answer: the verdict is signed, stored, inserted with its
operation in one transaction, and sent out. -/
def serveDecision (serverSigningKey : String) (rec : ShieldActionRecord) (latencyMs : PyFloat)
    (admitted : Int × String × Int) (decided : GovernanceVerdict) :
    Handler GovernanceVerdict := do
  let (receivedAt, chainHash, seqNo) := admitted
  let servedAt ← read World.now
  let verdict := serveVerdict prim serverSigningKey rec decided servedAt latencyMs
  let verdictKey := verdictObjectKey rec.orgId rec.agentId verdict.verdictId
  write fun w => w.put verdictKey (.ofJson (verdict.modelDump false))
  attempt fun w => w.transaction
    [.insertOperation (operationsInsert prim rec seqNo chainHash receivedAt),
     .insertGovernanceVerdict (governanceVerdictInsert rec verdict verdictKey receivedAt),
     .insertInterventionLog (interventionLogInsert rec verdict receivedAt)]
  fanChannel2 prim rec chainHash seqNo verdict.verdictId
  fanVerdicts prim rec verdict
  return verdict

theorem Governance.decide_eq (serverSigningKey : String) (rec : ShieldActionRecord)
    (govApp : GovernanceApp) (latencyMs : PyFloat) :
    Governance.decide prim serverSigningKey rec govApp latencyMs =
      (do
        let admitted ← admitDecision prim rec
        let answer ← read fun _ => govApp rec
        let decided ← ofExcept answer
        serveDecision prim serverSigningKey rec latencyMs admitted decided) := by
  unfold Governance.decide admitDecision
  rw [bind_assoc']
  congr 1
  funext receivedAt
  rw [bind_assoc']
  rfl

/-- The acknowledgement of a post-execution record: where it stands in the chain of its agent.
-/
structure RecordAck where
  accepted : Bool
  recordId : String
  correlationId : String
  chainHash : String
  seqNo : Int
  deriving DecidableEq

/-- The ingest of a post-execution record.  The checks are those of `decide`, nobody is asked
for a verdict, and the record is handed to channel 2. -/
def Governance.record (rec : ShieldActionRecord) : Handler RecordAck := do
  let receivedAt ← read World.now
  let (chainHash, seqNo) ← ingestPrefix prim rec receivedAt .postExec
  attempt fun w => w.transaction
    [.insertOperation (operationsInsert prim rec seqNo chainHash receivedAt)]
  fanChannel2 prim rec chainHash seqNo (rec.verdictRef.getD "")
  return { accepted := true
           recordId := rec.recordId
           correlationId := rec.correlationId
           chainHash := chainHash
           seqNo := seqNo }

end Ingest

/-! ## The ingest service -/

/-- A request to one of the three ingest routes, with what its handler draws
from its environment. -/
inductive IngestRequest where
  | submit (rec : OperationRecord) (receiptId : String)
  | decide (rec : ShieldActionRecord) (govApp : GovernanceApp) (latencyMs : PyFloat)
  | record (rec : ShieldActionRecord)

inductive IngestResponse where
  | receipt (ear : EAR)
  | verdict (v : GovernanceVerdict)
  | ack (a : RecordAck)
  deriving DecidableEq

/-- The parameters of a server: its primitives and its signing key. -/
structure Settings where
  prim : Primitives
  serverSigningKey : String

def ingest (settings : Settings) : IngestRequest → Handler IngestResponse
  | .submit rec receiptId => do
      let ear ← submitOperation settings.prim.toFloatText (shieldSdkCrypto settings.prim)
        settings.serverSigningKey rec receiptId
      return .receipt ear
  | .decide rec govApp latencyMs => do
      let v ← Governance.decide settings.prim settings.serverSigningKey rec govApp latencyMs
      return .verdict v
  | .record rec => do
      let a ← Governance.record settings.prim rec
      return .ack a

/-- The server as a pool of ingest handlers.  Outside them only time passes. -/
def ingestService (settings : Settings) : Service World Failure where
  Req := IngestRequest
  Res := IngestResponse
  handle := ingest settings
  Ext := Nat
  external ns w := w.tick ns
  fault := .backend

/-- The server before its first request, at a time in milliseconds. -/
def World.initial (now : Int) (agents : List Agent) (agentKeys : List AgentKey) : World where
  clock := now * 1000000
  db := { agents := agents, agentKeys := agentKeys }

/-- The server after a run of events from empty tables. -/
def served (settings : Settings) (now : Int) (agents : List Agent) (agentKeys : List AgentKey)
    (events : List (Event (ingestService settings))) : Pool (ingestService settings) :=
  (Pool.start (World.initial now agents agentKeys)).run events

theorem served_append (settings : Settings) (now : Int) (agents : List Agent)
    (agentKeys : List AgentKey) (es fs : List (Event (ingestService settings))) :
    served settings now agents agentKeys (es ++ fs) =
      (served settings now agents agentKeys es).run fs :=
  Pool.run_append _ es fs

/-! ## A small server

One organisation, one agent and its key.  The runs that witness or refute a
statement below start here. -/

namespace Sample

def settings : Settings where
  prim := Sdk.Sample.prim
  serverSigningKey := "seed"

def agents : List Agent := [⟨"a", "o", .active⟩]

def agentKeys : List AgentKey := [⟨"k", "a", "pk", .active⟩]

/-- A signed operation of the agent without a payload and with a lifetime of one
second. -/
def operation (operationId nonce : String) (issuedAt : Int) (prevChainHash : String) :
    OperationRecord where
  opVersion := "1.0"
  operationId := operationId
  orgId := "o"
  agentId := "a"
  issuedAt := issuedAt
  ttlMs := 1000
  nonce := nonce
  operationType := "t"
  payloadHash := settings.prim.computePayloadHash .null
  prevChainHash := prevChainHash
  agentPubkeyKid := "k"
  signature := "sig"

/-- The chain hash of an operation. -/
def chainHash (rec : OperationRecord) : String :=
  settings.prim.computeChainHash rec.prevChainHash rec.payloadHash rec.operationId rec.issuedAt

/-- A signed action record of the agent for a tool call, with a lifetime of one
second. -/
def action (recordId nonce : String) (phase : Phase) (issuedAt : Int)
    (prevChainHash payloadHash : String) : ShieldActionRecord where
  recordId := recordId
  correlationId := "c"
  orgId := "o"
  agentId := "a"
  runId := "r"
  issuedAt := issuedAt
  ttlMs := 1000
  nonce := nonce
  phase := phase
  payload := { toolName := some "t" }
  payloadHash := payloadHash
  prevChainHash := prevChainHash
  agentPubkeyKid := "k"
  signature := some "sig"

/-- A request as the `i`th handler, run to its end without a failing step. -/
def served (req : IngestRequest) (i steps : Nat) : List (Event (ingestService settings)) :=
  .request req :: List.replicate steps (.resume i .none)

/-- Time passes, in milliseconds. -/
def wait (ms : Nat) : Event (ingestService settings) := .external (ms * 1000000)

end Sample

end AgentShield.Server
