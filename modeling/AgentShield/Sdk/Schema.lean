import AgentShield.Sdk.Crypto

/-!
# The record and verdict contract

The models of a governed action: the two-phase `ShieldActionRecord` that an
agent signs, and the `GovernanceVerdict` that the server signs.  `modelDump`
writes a model as the JSON object of its fields in order; with `excludeNone` the
fields that are `None` are left out, at every level of models but not inside the
open maps.
-/

namespace AgentShield.Sdk

def shieldVersion : String := "1.1"

/-- Whether a record is about an action before it or after it. -/
inductive Phase where
  | preExec
  | postExec
  deriving DecidableEq, Repr

def Phase.value : Phase → String
  | preExec => "pre_exec"
  | postExec => "post_exec"

/-- The kinds of actions that a record can be about.  The shield's own records are about tool
calls. -/
inductive ActionType where
  | toolCall
  | llmInference
  | decision
  | checkpoint
  | escalation
  deriving DecidableEq, Repr

def ActionType.value : ActionType → String
  | toolCall => "tool_call"
  | llmInference => "llm_inference"
  | decision => "decision"
  | checkpoint => "checkpoint"
  | escalation => "escalation"

/-- The decisions of a guardian on an action, in the order of the enumeration of the source. -/
inductive Decision where
  | pass
  | alert
  | block
  | escalate
  | rollback
  | rewrite
  deriving DecidableEq, Repr

def Decision.value : Decision → String
  | pass => "PASS"
  | alert => "ALERT"
  | block => "BLOCK"
  | escalate => "ESCALATE"
  | rollback => "ROLLBACK"
  | rewrite => "REWRITE"

/-- Where a model was asked: at a provider or on the machine. -/
inductive ServedVia where
  | cloud
  | local
  deriving DecidableEq, Repr

def ServedVia.value : ServedVia → String
  | cloud => "cloud"
  | .local => "local"

/-- The four guardians.  A verdict's reasons name the one they come from. -/
inductive Guardian where
  | defender
  | evaluator
  | supervisor
  | auditor
  deriving DecidableEq, Repr

def Guardian.value : Guardian → String
  | defender => "defender"
  | evaluator => "evaluator"
  | supervisor => "supervisor"
  | auditor => "auditor"

/-- The object of a model's fields, without the `None` fields when asked. -/
def modelObject (excludeNone : Bool) (fields : List (String × Json)) : Json :=
  .obj (if excludeNone then fields.filter fun f => f.2 ≠ .null else fields)

/-! ## The action record -/

/-- The model behind an action and its token counts, which the intervention log adds up. -/
structure LLMUsage where
  model : Option String := none
  promptTokens : Int := 0
  completionTokens : Int := 0
  deriving DecidableEq

def LLMUsage.modelDump (excludeNone : Bool) (u : LLMUsage) : Json :=
  modelObject excludeNone
    [("model", .ofOption .str u.model),
     ("prompt_tokens", .int u.promptTokens),
     ("completion_tokens", .int u.completionTokens)]

/-- The references of a record to a checkpoint, a thread and a snapshot, by which a rollback
finds its way back. -/
structure ActionContext where
  checkpointId : Option String := none
  langgraphThreadId : Option String := none
  envSnapshotRef : Option String := none
  deriving DecidableEq

def ActionContext.modelDump (excludeNone : Bool) (c : ActionContext) : Json :=
  modelObject excludeNone
    [("checkpoint_id", .ofOption .str c.checkpointId),
     ("langgraph_thread_id", .ofOption .str c.langgraphThreadId),
     ("env_snapshot_ref", .ofOption .str c.envSnapshotRef)]

/-- A tool call that a record refers to: the tool, and a digest of its arguments. -/
structure ActionRef where
  tool : Option String := none
  argsDigest : Option String := none
  deriving DecidableEq

def ActionRef.modelDump (excludeNone : Bool) (a : ActionRef) : Json :=
  modelObject excludeNone
    [("tool", .ofOption .str a.tool),
     ("args_digest", .ofOption .str a.argsDigest)]

/-- What the agent did.  `toolArgs` is open: its values are any JSON. -/
structure ActionPayload where
  toolName : Option String := none
  toolArgs : List (String × Json) := []
  toolResult : Json := .null
  toolError : Option String := none
  llm : Option LLMUsage := none
  confidence : Option PyFloat := none
  deriving DecidableEq

/-- The payload of a record as a value, with or without the fields that are none. -/
def ActionPayload.modelDump (excludeNone : Bool) (p : ActionPayload) : Json :=
  modelObject excludeNone
    [("tool_name", .ofOption .str p.toolName),
     ("tool_args", .obj p.toolArgs),
     ("tool_result", p.toolResult),
     ("tool_error", .ofOption .str p.toolError),
     ("llm", .ofOption (LLMUsage.modelDump excludeNone) p.llm),
     ("confidence", .ofOption .float p.confidence)]

/-- A two-phase action record.  `recordId` is the operation id of the chain, and
`chainHash` is never trusted from the client. -/
structure ShieldActionRecord where
  shieldVersion : String := Sdk.shieldVersion
  recordId : String
  correlationId : String
  orgId : String := "demo-org"
  agentId : String := "agentdojo-banking-v1"
  workflowId : String := "banking"
  runId : String
  stepIndex : Nat := 0
  issuedAt : Int
  ttlMs : Int := 30000
  nonce : String
  phase : Phase
  actionType : ActionType := .toolCall
  operationType : String := "tool_call"
  subject : List (String × Json) := []
  action : ActionRef := {}
  payload : ActionPayload := {}
  context : ActionContext := {}
  payloadHash : String := ""
  prevChainHash : String := genesisChainHash
  chainHash : Option String := none
  agentPubkeyKid : String := "agentdojo-banking-v1-key-v1"
  verdictRef : Option String := none
  signature : Option String := none
  deriving DecidableEq

/-- A record as a value: its fields under their names, in the order of the class. -/
def ShieldActionRecord.modelDump (excludeNone : Bool) (r : ShieldActionRecord) : Json :=
  modelObject excludeNone
    [("shield_version", .str r.shieldVersion),
     ("record_id", .str r.recordId),
     ("correlation_id", .str r.correlationId),
     ("org_id", .str r.orgId),
     ("agent_id", .str r.agentId),
     ("workflow_id", .str r.workflowId),
     ("run_id", .str r.runId),
     ("step_index", .int r.stepIndex),
     ("issued_at", .int r.issuedAt),
     ("ttl_ms", .int r.ttlMs),
     ("nonce", .str r.nonce),
     ("phase", .str r.phase.value),
     ("action_type", .str r.actionType.value),
     ("operation_type", .str r.operationType),
     ("subject", .obj r.subject),
     ("action", r.action.modelDump excludeNone),
     ("payload", r.payload.modelDump excludeNone),
     ("context", r.context.modelDump excludeNone),
     ("payload_hash", .str r.payloadHash),
     ("prev_chain_hash", .str r.prevChainHash),
     ("chain_hash", .ofOption .str r.chainHash),
     ("agent_pubkey_kid", .str r.agentPubkeyKid),
     ("verdict_ref", .ofOption .str r.verdictRef),
     ("signature", .ofOption .str r.signature)]

/-! ## The verdict -/

/-- One reason of a verdict: who gives it, its label and its score, and by which model and
from where it was served. -/
structure VerdictReason where
  agent : Option Guardian := none
  label : String
  detail : Option String := none
  score : Option PyFloat := none
  modelId : Option String := none
  servedVia : Option ServedVia := none
  deriving DecidableEq

def VerdictReason.modelDump (excludeNone : Bool) (r : VerdictReason) : Json :=
  modelObject excludeNone
    [("agent", .ofOption (fun a => .str a.value) r.agent),
     ("label", .str r.label),
     ("detail", .ofOption .str r.detail),
     ("score", .ofOption .float r.score),
     ("model_id", .ofOption .str r.modelId),
     ("served_via", .ofOption (fun v => .str v.value) r.servedVia)]

/-- What to roll back to. -/
structure RollbackObligation where
  langgraphCheckpointId : Option String := none
  envSnapshotRef : Option String := none
  deriving DecidableEq

def RollbackObligation.modelDump (excludeNone : Bool) (o : RollbackObligation) : Json :=
  modelObject excludeNone
    [("langgraph_checkpoint_id", .ofOption .str o.langgraphCheckpointId),
     ("env_snapshot_ref", .ofOption .str o.envSnapshotRef)]

/-- What a verdict asks for beside its decision: a human, a rollback, other arguments; and the
loss that was prevented. -/
structure Obligations where
  maskArgs : Option (List String) := none
  rewriteArgs : Option (List (String × Json)) := none
  requireHuman : Option Bool := none
  rollback : Option RollbackObligation := none
  preventedLoss : Option PyFloat := none
  deriving DecidableEq

def Obligations.modelDump (excludeNone : Bool) (o : Obligations) : Json :=
  modelObject excludeNone
    [("mask_args", .ofOption (fun args => .arr (args.map .str)) o.maskArgs),
     ("rewrite_args", .ofOption .obj o.rewriteArgs),
     ("require_human", .ofOption .bool o.requireHuman),
     ("rollback", .ofOption (RollbackObligation.modelDump excludeNone) o.rollback),
     ("prevented_loss", .ofOption .float o.preventedLoss)]

/-- A verdict on a record, signed by the server once it is served.  Until then it has neither
a signature nor the id of a key. -/
structure GovernanceVerdict where
  shieldVersion : String := Sdk.shieldVersion
  verdictId : String
  recordId : Option String := none
  correlationId : String
  runId : Option String := none
  decision : Decision
  riskScore : PyFloat := .finite 0
  reasons : List VerdictReason := []
  obligations : Obligations := {}
  latencyMs : Option PyFloat := none
  servedAt : Option Int := none
  shieldKid : Option String := none
  signatureByShield : Option String := none
  deriving DecidableEq

/-- A verdict as a value: its fields under their names, in the order of the class. -/
def GovernanceVerdict.modelDump (excludeNone : Bool) (v : GovernanceVerdict) : Json :=
  modelObject excludeNone
    [("shield_version", .str v.shieldVersion),
     ("verdict_id", .str v.verdictId),
     ("record_id", .ofOption .str v.recordId),
     ("correlation_id", .str v.correlationId),
     ("run_id", .ofOption .str v.runId),
     ("decision", .str v.decision.value),
     ("risk_score", .float v.riskScore),
     ("reasons", .arr (v.reasons.map (VerdictReason.modelDump excludeNone))),
     ("obligations", v.obligations.modelDump excludeNone),
     ("latency_ms", .ofOption .float v.latencyMs),
     ("served_at", .ofOption .int v.servedAt),
     ("shield_kid", .ofOption .str v.shieldKid),
     ("signature_by_shield", .ofOption .str v.signatureByShield)]

end AgentShield.Sdk
