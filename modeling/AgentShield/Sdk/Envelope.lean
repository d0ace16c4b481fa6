import AgentShield.Sdk.Canonical
import AgentShield.Sdk.Validate

/-!
# Reading envelopes

How a record and a verdict are read from a document.  A stored envelope is read
as the envelope that was stored, up to the floats without a JSON number
(`modelValidate_modelDump`).
-/

namespace AgentShield.Sdk

open AgentShield.Lib

/-- A boolean, a number or a string. -/
def Json.IsScalar : Json → Prop
  | .bool _ => True
  | .int _ => True
  | .float _ => True
  | .str _ => True
  | _ => False

/-- How pydantic reads the scalar fields of the envelopes: `null`, lists and
objects are refused. -/
structure Validator extends Pydantic where
  boolOf : Json → Option Bool
  boolOf_bool : ∀ b, boolOf (.bool b) = some b
  intOf_scalar : ∀ {j i}, intOf j = some i → j.IsScalar
  floatOf_scalar : ∀ {j x}, floatOf j = some x → j.IsScalar

/-- The value of a field without a default. -/
def requiredField {α : Type} (doc : Json) (key : String) (parse : Json → Option α) : Option α :=
  (doc.field? key).bind parse

/-- The member of an enumeration with the given value. -/
def parseEnum {α : Type} (members : List α) (value : α → String) : Json → Option α
  | .str s => members.find? fun a => value a = s
  | _ => none

def Phase.members : List Phase := [preExec, postExec]

def ActionType.members : List ActionType :=
  [toolCall, llmInference, decision, checkpoint, escalation]

def Decision.members : List Decision := [pass, alert, block, escalate, rollback, rewrite]

def ServedVia.members : List ServedVia := [cloud, .local]

def Guardian.members : List Guardian := [defender, evaluator, supervisor, auditor]

/-- `Field(ge=0)`. -/
def parseNat (py : Pydantic) (j : Json) : Option Nat := do
  let i ← py.intOf j
  if 0 ≤ i then some i.toNat else none

/-- The items of a list. -/
def parseItems {α : Type} (parse : Json → Option α) : List Json → Option (List α)
  | [] => some []
  | x :: xs => do
      let a ← parse x
      let as ← parseItems parse xs
      return a :: as

def parseList {α : Type} (parse : Json → Option α) : Json → Option (List α)
  | .arr xs => parseItems parse xs
  | _ => none

/-- `Field(ge=0.0, le=1.0)`: what is above or below is refused. -/
def withinUnit : PyFloat → Prop
  | .finite q => 0 ≤ q ∧ q ≤ 1
  | .nan => True
  | .inf => False
  | .negInf => False

instance (x : PyFloat) : Decidable (withinUnit x) := by
  unfold withinUnit
  split <;> infer_instance

section Reading

variable (v : Validator)

/-! ## The action record -/

def ActionRef.modelValidate (doc : Json) : Option ActionRef := do
  let _ ← closedFields ["tool", "args_digest"] doc
  return {
    tool := ← readField doc "tool" none (parseOption parseStr)
    argsDigest := ← readField doc "args_digest" none (parseOption parseStr) }

def ActionContext.modelValidate (doc : Json) : Option ActionContext := do
  let _ ← closedFields ["checkpoint_id", "langgraph_thread_id", "env_snapshot_ref"] doc
  return {
    checkpointId := ← readField doc "checkpoint_id" none (parseOption parseStr)
    langgraphThreadId := ← readField doc "langgraph_thread_id" none (parseOption parseStr)
    envSnapshotRef := ← readField doc "env_snapshot_ref" none (parseOption parseStr) }

/-- What is generated for the fields of a record that are not given: two ids, the time and the
nonce. -/
structure RecordDefaults where
  recordId : String
  correlationId : String
  issuedAt : Int
  nonce : String

def actionRecordFields : List String :=
  ["shield_version", "record_id", "correlation_id", "org_id", "agent_id", "workflow_id",
    "run_id", "step_index", "issued_at", "ttl_ms", "nonce", "phase", "action_type",
    "operation_type", "subject", "action", "payload", "context", "payload_hash",
    "prev_chain_hash", "chain_hash", "agent_pubkey_kid", "verdict_ref", "signature"]

def ShieldActionRecord.modelValidate (fresh : RecordDefaults) (doc : Json) :
    Option ShieldActionRecord := do
  let _ ← closedFields actionRecordFields doc
  return {
    shieldVersion := ← readField doc "shield_version" Sdk.shieldVersion parseStr
    recordId := ← readField doc "record_id" fresh.recordId parseStr
    correlationId := ← readField doc "correlation_id" fresh.correlationId parseStr
    orgId := ← readField doc "org_id" "demo-org" parseStr
    agentId := ← readField doc "agent_id" "agentdojo-banking-v1" parseStr
    workflowId := ← readField doc "workflow_id" "banking" parseStr
    runId := ← requiredField doc "run_id" parseStr
    stepIndex := ← readField doc "step_index" 0 (parseNat v.toPydantic)
    issuedAt := ← readField doc "issued_at" fresh.issuedAt v.intOf
    ttlMs := ← readField doc "ttl_ms" 30000 v.intOf
    nonce := ← readField doc "nonce" fresh.nonce parseStr
    phase := ← requiredField doc "phase" (parseEnum Phase.members Phase.value)
    actionType := ← readField doc "action_type" .toolCall
      (parseEnum ActionType.members ActionType.value)
    operationType := ← readField doc "operation_type" "tool_call" parseStr
    subject := ← readField doc "subject" [] parseDict
    action := ← readField doc "action" {} ActionRef.modelValidate
    payload := ← readField doc "payload" {} (ActionPayload.modelValidate v.toPydantic)
    context := ← readField doc "context" {} ActionContext.modelValidate
    payloadHash := ← readField doc "payload_hash" "" parseStr
    prevChainHash := ← readField doc "prev_chain_hash" genesisChainHash parseStr
    chainHash := ← readField doc "chain_hash" none (parseOption parseStr)
    agentPubkeyKid := ← readField doc "agent_pubkey_kid" "agentdojo-banking-v1-key-v1" parseStr
    verdictRef := ← readField doc "verdict_ref" none (parseOption parseStr)
    signature := ← readField doc "signature" none (parseOption parseStr) }

/-! ## The verdict -/

def VerdictReason.modelValidate (doc : Json) : Option VerdictReason := do
  let _ ← closedFields ["agent", "label", "detail", "score", "model_id", "served_via"] doc
  return {
    agent := ← readField doc "agent" none
      (parseOption (parseEnum Guardian.members Guardian.value))
    label := ← requiredField doc "label" parseStr
    detail := ← readField doc "detail" none (parseOption parseStr)
    score := ← readField doc "score" none (parseOption v.floatOf)
    modelId := ← readField doc "model_id" none (parseOption parseStr)
    servedVia := ← readField doc "served_via" none
      (parseOption (parseEnum ServedVia.members ServedVia.value)) }

def RollbackObligation.modelValidate (doc : Json) : Option RollbackObligation := do
  let _ ← closedFields ["langgraph_checkpoint_id", "env_snapshot_ref"] doc
  return {
    langgraphCheckpointId :=
      ← readField doc "langgraph_checkpoint_id" none (parseOption parseStr)
    envSnapshotRef := ← readField doc "env_snapshot_ref" none (parseOption parseStr) }

def Obligations.modelValidate (doc : Json) : Option Obligations := do
  let _ ← closedFields
    ["mask_args", "rewrite_args", "require_human", "rollback", "prevented_loss"] doc
  return {
    maskArgs := ← readField doc "mask_args" none (parseOption (parseList parseStr))
    rewriteArgs := ← readField doc "rewrite_args" none (parseOption parseDict)
    requireHuman := ← readField doc "require_human" none (parseOption v.boolOf)
    rollback := ← readField doc "rollback" none (parseOption RollbackObligation.modelValidate)
    preventedLoss := ← readField doc "prevented_loss" none (parseOption v.floatOf) }

def parseRiskScore (j : Json) : Option PyFloat := do
  let x ← v.floatOf j
  if withinUnit x then some x else none

def verdictFields : List String :=
  ["shield_version", "verdict_id", "record_id", "correlation_id", "run_id", "decision",
    "risk_score", "reasons", "obligations", "latency_ms", "served_at", "shield_kid",
    "signature_by_shield"]

/-- A verdict from a document; `freshId` is generated when it names no id.  Names that the
schema does not have are refused, and every field is read leniently, as pydantic reads it. -/
def GovernanceVerdict.modelValidate (freshId : String) (doc : Json) :
    Option GovernanceVerdict := do
  let _ ← closedFields verdictFields doc
  return {
    shieldVersion := ← readField doc "shield_version" Sdk.shieldVersion parseStr
    verdictId := ← readField doc "verdict_id" freshId parseStr
    recordId := ← readField doc "record_id" none (parseOption parseStr)
    correlationId := ← requiredField doc "correlation_id" parseStr
    runId := ← readField doc "run_id" none (parseOption parseStr)
    decision := ← requiredField doc "decision" (parseEnum Decision.members Decision.value)
    riskScore := ← readField doc "risk_score" (.finite 0) (parseRiskScore v)
    reasons := ← readField doc "reasons" [] (parseList (VerdictReason.modelValidate v))
    obligations := ← readField doc "obligations" {} (Obligations.modelValidate v)
    latencyMs := ← readField doc "latency_ms" none (parseOption v.floatOf)
    servedAt := ← readField doc "served_at" none (parseOption v.intOf)
    shieldKid := ← readField doc "shield_kid" none (parseOption parseStr)
    signatureByShield :=
      ← readField doc "signature_by_shield" none (parseOption parseStr) }

end Reading

/-! ## Reading back what was stored -/

section ReadingBack

variable (v : Validator)

private theorem parseOption_int (i : Option Int) :
    parseOption v.intOf (Json.ofOption .int i).wire = some i := by
  cases i with
  | none => rfl
  | some i => exact congrArg (Option.map some) (v.intOf_int i)

private theorem parseOption_bool (b : Option Bool) :
    parseOption v.boolOf (Json.ofOption .bool b).wire = some b := by
  cases b with
  | none => rfl
  | some b => exact congrArg (Option.map some) (v.boolOf_bool b)

private theorem parseNat_nat (n : Nat) : parseNat v.toPydantic (.int n) = some n := by
  simp [parseNat, v.intOf_int]

private theorem parseEnum_phase (p : Phase) :
    parseEnum Phase.members Phase.value (.str p.value) = some p := by
  cases p <;> decide

private theorem parseEnum_actionType (a : ActionType) :
    parseEnum ActionType.members ActionType.value (.str a.value) = some a := by
  cases a <;> decide

private theorem parseEnum_decision (d : Decision) :
    parseEnum Decision.members Decision.value (.str d.value) = some d := by
  cases d <;> decide

private theorem parseOption_servedVia (s : Option ServedVia) :
    parseOption (parseEnum ServedVia.members ServedVia.value)
      (Json.ofOption (fun v => .str v.value) s).wire = some s := by
  cases s with
  | none => rfl
  | some s => cases s <;> decide

private theorem parseOption_guardian (g : Option Guardian) :
    parseOption (parseEnum Guardian.members Guardian.value)
      (Json.ofOption (fun a => .str a.value) g).wire = some g := by
  cases g with
  | none => rfl
  | some g => cases g <;> decide

theorem ActionRef.modelValidate_modelDump (a : ActionRef) :
    ActionRef.modelValidate (a.modelDump false).wire = some a := by
  have hDump : (a.modelDump false).wire = .obj
      [("tool", (Json.ofOption .str a.tool).wire),
       ("args_digest", (Json.ofOption .str a.argsDigest).wire)] := rfl
  rw [hDump]
  simp [ActionRef.modelValidate, closedFields, readField, Json.field?, Dict.get?,
    parseOption_str]

theorem ActionContext.modelValidate_modelDump (c : ActionContext) :
    ActionContext.modelValidate (c.modelDump false).wire = some c := by
  have hDump : (c.modelDump false).wire = .obj
      [("checkpoint_id", (Json.ofOption .str c.checkpointId).wire),
       ("langgraph_thread_id", (Json.ofOption .str c.langgraphThreadId).wire),
       ("env_snapshot_ref", (Json.ofOption .str c.envSnapshotRef).wire)] := rfl
  rw [hDump]
  simp [ActionContext.modelValidate, closedFields, readField, Json.field?, Dict.get?,
    parseOption_str]

/-- A record as it is read back from the store. -/
def ShieldActionRecord.wire (r : ShieldActionRecord) : ShieldActionRecord :=
  { r with
    subject := Json.wireFields r.subject
    payload := r.payload.wire }

/-- **Reading back a record** gives the record that was stored, up to the floats
without a JSON number. -/
theorem ShieldActionRecord.modelValidate_modelDump (fresh : RecordDefaults)
    (r : ShieldActionRecord) :
    ShieldActionRecord.modelValidate v fresh (r.modelDump false).wire = some r.wire := by
  have hDump : (r.modelDump false).wire = .obj
      [("shield_version", .str r.shieldVersion),
       ("record_id", .str r.recordId),
       ("correlation_id", .str r.correlationId),
       ("org_id", .str r.orgId),
       ("agent_id", .str r.agentId),
       ("workflow_id", .str r.workflowId),
       ("run_id", .str r.runId),
       ("step_index", .int r.stepIndex),
       ("issued_at", .int r.issuedAt),
       ("ttl_ms", .int r.ttlMs),
       ("nonce", .str r.nonce),
       ("phase", .str r.phase.value),
       ("action_type", .str r.actionType.value),
       ("operation_type", .str r.operationType),
       ("subject", .obj (Json.wireFields r.subject)),
       ("action", (r.action.modelDump false).wire),
       ("payload", (r.payload.modelDump false).wire),
       ("context", (r.context.modelDump false).wire),
       ("payload_hash", .str r.payloadHash),
       ("prev_chain_hash", .str r.prevChainHash),
       ("chain_hash", (Json.ofOption .str r.chainHash).wire),
       ("agent_pubkey_kid", .str r.agentPubkeyKid),
       ("verdict_ref", (Json.ofOption .str r.verdictRef).wire),
       ("signature", (Json.ofOption .str r.signature).wire)] := rfl
  rw [hDump]
  simp [ShieldActionRecord.modelValidate, closedFields, actionRecordFields, readField,
    requiredField, Json.field?, Dict.get?, parseStr, parseDict, parseOption_str, parseNat_nat,
    parseEnum_phase, parseEnum_actionType, v.intOf_int, ActionRef.modelValidate_modelDump,
    ActionContext.modelValidate_modelDump, ActionPayload.modelValidate_modelDump,
    ShieldActionRecord.wire]

/-- A reason as it is read back from the store. -/
def VerdictReason.wire (r : VerdictReason) : VerdictReason :=
  { r with score := r.score.bind storedFloat }

theorem VerdictReason.modelValidate_modelDump (r : VerdictReason) :
    VerdictReason.modelValidate v (r.modelDump false).wire = some r.wire := by
  have hDump : (r.modelDump false).wire = .obj
      [("agent", (Json.ofOption (fun a => .str a.value) r.agent).wire),
       ("label", .str r.label),
       ("detail", (Json.ofOption .str r.detail).wire),
       ("score", (Json.ofOption .float r.score).wire),
       ("model_id", (Json.ofOption .str r.modelId).wire),
       ("served_via", (Json.ofOption (fun v => .str v.value) r.servedVia).wire)] := rfl
  rw [hDump]
  simp [VerdictReason.modelValidate, closedFields, readField, requiredField, Json.field?,
    Dict.get?, parseStr, parseOption_str, parseOption_float, parseOption_guardian,
    parseOption_servedVia, VerdictReason.wire]

theorem RollbackObligation.modelValidate_modelDump (o : RollbackObligation) :
    RollbackObligation.modelValidate (o.modelDump false).wire = some o := by
  have hDump : (o.modelDump false).wire = .obj
      [("langgraph_checkpoint_id", (Json.ofOption .str o.langgraphCheckpointId).wire),
       ("env_snapshot_ref", (Json.ofOption .str o.envSnapshotRef).wire)] := rfl
  rw [hDump]
  simp [RollbackObligation.modelValidate, closedFields, readField, Json.field?, Dict.get?,
    parseOption_str]

private theorem parseItems_map {α β : Type} {parse : Json → Option β} {f : α → Json} {g : α → β}
    (h : ∀ a, parse (f a).wire = some (g a)) (as : List α) :
    parseItems parse (Json.wireItems (as.map f)) = some (as.map g) := by
  induction as with
  | nil => rfl
  | cons a as ih => simp [Json.wireItems, parseItems, h a, ih]

private theorem parseOption_maskArgs (args : Option (List String)) :
    parseOption (parseList parseStr)
      (Json.ofOption (fun args => .arr (args.map .str)) args).wire = some args := by
  cases args with
  | none => rfl
  | some args =>
      have hStr : ∀ s : String, parseStr (Json.str s).wire = some (id s) := fun _ => rfl
      have hItems := parseItems_map hStr args
      rw [List.map_id] at hItems
      exact congrArg (Option.map some) hItems

private theorem parseOption_rewriteArgs (args : Option (List (String × Json))) :
    parseOption parseDict (Json.ofOption .obj args).wire = some (args.map Json.wireFields) := by
  cases args <;> rfl

private theorem parseOption_rollback (o : Option RollbackObligation) :
    parseOption RollbackObligation.modelValidate
      (Json.ofOption (RollbackObligation.modelDump false) o).wire = some o := by
  cases o with
  | none => rfl
  | some o => exact congrArg (Option.map some) (RollbackObligation.modelValidate_modelDump o)

/-- The obligations as they are read back from the store. -/
def Obligations.wire (o : Obligations) : Obligations :=
  { o with
    rewriteArgs := o.rewriteArgs.map Json.wireFields
    preventedLoss := o.preventedLoss.bind storedFloat }

theorem Obligations.modelValidate_modelDump (o : Obligations) :
    Obligations.modelValidate v (o.modelDump false).wire = some o.wire := by
  have hDump : (o.modelDump false).wire = .obj
      [("mask_args", (Json.ofOption (fun args => .arr (args.map .str)) o.maskArgs).wire),
       ("rewrite_args", (Json.ofOption .obj o.rewriteArgs).wire),
       ("require_human", (Json.ofOption .bool o.requireHuman).wire),
       ("rollback", (Json.ofOption (RollbackObligation.modelDump false) o.rollback).wire),
       ("prevented_loss", (Json.ofOption .float o.preventedLoss).wire)] := rfl
  rw [hDump]
  simp [Obligations.modelValidate, closedFields, readField, Json.field?, Dict.get?,
    parseOption_maskArgs, parseOption_rewriteArgs, parseOption_bool, parseOption_rollback,
    parseOption_float, Obligations.wire]

/-- A verdict as it is read back from the store. -/
def GovernanceVerdict.wire (g : GovernanceVerdict) : GovernanceVerdict :=
  { g with
    reasons := g.reasons.map VerdictReason.wire
    obligations := g.obligations.wire
    latencyMs := g.latencyMs.bind storedFloat }

/-- The document of a verdict as it is read, field by field. -/
private theorem modelDump_verdict_wire (g : GovernanceVerdict) :
    (g.modelDump false).wire = .obj
      [("shield_version", .str g.shieldVersion),
       ("verdict_id", .str g.verdictId),
       ("record_id", (Json.ofOption .str g.recordId).wire),
       ("correlation_id", .str g.correlationId),
       ("run_id", (Json.ofOption .str g.runId).wire),
       ("decision", .str g.decision.value),
       ("risk_score", (Json.float g.riskScore).wire),
       ("reasons", .arr (Json.wireItems (g.reasons.map (VerdictReason.modelDump false)))),
       ("obligations", (g.obligations.modelDump false).wire),
       ("latency_ms", (Json.ofOption .float g.latencyMs).wire),
       ("served_at", (Json.ofOption .int g.servedAt).wire),
       ("shield_kid", (Json.ofOption .str g.shieldKid).wire),
       ("signature_by_shield", (Json.ofOption .str g.signatureByShield).wire)] := rfl

/-- **Reading back a verdict** gives the verdict that was stored, up to the floats
without a JSON number. -/
theorem GovernanceVerdict.modelValidate_modelDump (freshId : String) (g : GovernanceVerdict)
    {q : Rat} (hRisk : g.riskScore = .finite q) (hWithin : withinUnit g.riskScore) :
    GovernanceVerdict.modelValidate v freshId (g.modelDump false).wire = some g.wire := by
  have hReasons := parseItems_map (VerdictReason.modelValidate_modelDump v) g.reasons
  have hScore : parseRiskScore v (Json.float g.riskScore).wire = some g.riskScore := by
    rw [hRisk] at hWithin ⊢
    simp [Json.wire, parseRiskScore, v.floatOf_finite, hWithin]
  rw [modelDump_verdict_wire]
  simp [GovernanceVerdict.modelValidate, closedFields, verdictFields, readField, requiredField,
    Json.field?, Dict.get?, parseStr, parseOption_str, parseEnum_decision, hScore, parseList,
    hReasons, Obligations.modelValidate_modelDump, parseOption_float, parseOption_int,
    GovernanceVerdict.wire]

/-- A verdict whose risk score has no JSON number cannot be read back. -/
theorem GovernanceVerdict.modelValidate_risk (freshId : String) (g : GovernanceVerdict)
    (hRisk : ∀ q, g.riskScore ≠ .finite q) :
    GovernanceVerdict.modelValidate v freshId (g.modelDump false).wire = none := by
  have hNull : v.floatOf .null = none := by
    by_contra hSome
    obtain ⟨x, hx⟩ := Option.ne_none_iff_exists'.1 hSome
    exact v.floatOf_scalar hx
  have hScore : parseRiskScore v (Json.float g.riskScore).wire = none := by
    cases hx : g.riskScore with
    | finite q => exact absurd hx (hRisk q)
    | _ => simp [Json.wire, parseRiskScore, hNull]
  rw [modelDump_verdict_wire]
  simp [GovernanceVerdict.modelValidate, closedFields, verdictFields, readField, requiredField,
    Json.field?, Dict.get?, parseStr, parseOption_str, parseEnum_decision, hScore]

end ReadingBack

end AgentShield.Sdk
