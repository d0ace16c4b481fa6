import AgentShield.Sdk.Canonical

/-!
# The instrumented pipeline elements

The three elements of an instrumented agent: `ShieldGuard` asks for a verdict on
every tool call of an assistant message, `ShieldedToolsExecutor` enforces the
verdicts, and `ShieldRecorder` submits what was run.  They communicate through
the pipeline's extra arguments only, in which a decision is kept under the key of
its tool call.

The transport, the clock and the generated ids are a `Client` over a state `σ`,
so that every client and every server behind it is covered.  The environment of
the tools is a value of type `Env`, and the tools are a `Runtime`.
-/

namespace AgentShield.Sdk

open AgentShield.Lib

/-! ## The failure policy -/

inductive FailMode where
  | opened
  | closed
  deriving DecidableEq, Repr

def failClosedTools : List String :=
  ["send_money", "update_password", "update_scheduled_transaction"]

structure FailPolicy where
  default : FailMode := .opened
  overrides : Dict String FailMode := []
  deriving DecidableEq

/-- The locked default: open, and closed for the money and credential tools. -/
def FailPolicy.ratified : FailPolicy where
  default := .opened
  overrides := failClosedTools.map fun tool => (tool, .closed)

def FailPolicy.failModeFor (policy : FailPolicy) (toolName : String) : FailMode :=
  (Dict.get? policy.overrides toolName).getD policy.default

/-- The local verdict of a gate that did not answer in time.  A tool that fails open gets an
alert and one that fails closed a block. -/
def syntheticDegradedVerdict (record : ShieldActionRecord) (mode : FailMode)
    (detail verdictId : String) : GovernanceVerdict where
  verdictId := verdictId
  recordId := some record.recordId
  correlationId := record.correlationId
  runId := some record.runId
  decision := match mode with
    | .opened => .alert
    | .closed => .block
  riskScore := match mode with
    | .opened => .finite 0
    | .closed => .finite 1
  reasons :=
    [{ agent := some .defender
       label := match mode with
         | .opened => "shield-degraded-warn"
         | .closed => "shield-degraded-fail-closed"
       detail := some detail }]

/-! ## The pipeline -/

structure ToolCall where
  id : Option String
  function : String
  args : List (String × Json)
  deriving DecidableEq

/-- The message of a tool result, which the executor appends for every call, run or not. -/
structure ToolResult where
  content : String
  toolCallId : Option String
  toolCall : ToolCall
  error : Option String
  deriving DecidableEq

inductive Message where
  | assistant (toolCalls : List ToolCall)
  | tool (result : ToolResult)
  | other
  deriving DecidableEq

/-- The tools of a run and what the executor needs of the host.  Tools are functions of the
environment, which they may change. -/
structure Runtime (Env : Type) where
  functions : List String
  runFunction (env : Env) (function : String) (args : List (String × Json)) :
    (Json × Option String) × Env
  /-- A deep copy of the environment, when it can be copied. -/
  modelCopy : Env → Option Env
  outputFormatter : Json → String
  emptyFunctionName : String
  /-- The list that a text denotes, when it denotes one. -/
  stringList : String → Option Json

inductive EscalateMode where
  | block
  | approve
  | live
  deriving DecidableEq, Repr

/-- The exception that a request ended with, by the name of its type. -/
structure RequestFailure where
  typeName : String
  deriving DecidableEq

/-- What a record draws from its environment: its ids, its nonce and its time,
and the id of a degraded verdict on it. -/
structure Draw where
  recordId : String
  correlationId : String
  nonce : String
  issuedAt : Int
  verdictId : String
  deriving DecidableEq

/-- The client of an agent and everything behind it: the random values and clock readings, the
gate, and the submission of records. -/
structure Client (σ : Type) where
  newRunId : σ → String × σ
  draw : σ → Draw × σ
  decide : ShieldActionRecord → σ → Except RequestFailure GovernanceVerdict × σ
  submit : ShieldActionRecord → σ → Except RequestFailure Unit × σ

structure ShieldElementConfig where
  agentPrivateKey : String
  agentPubkeyKid : String := "agentdojo-banking-v1-key-v1"
  orgId : String := "demo-org"
  agentId : String := "agentdojo-banking-v1"
  workflowId : String := "banking"
  runId : Option String := none
  langgraphThreadId : Option String := none
  failPolicy : FailPolicy := .ratified
  escalateMode : EscalateMode := .block
  escalationHandler :
    Option (GovernanceVerdict → ShieldActionRecord → List (String × Json) → Bool) := none

/-- A record and the verdict on it. -/
structure Judgement where
  preRecord : ShieldActionRecord
  verdict : GovernanceVerdict
  deriving DecidableEq

/-- The decision on one tool call, and later what became of the call.  The snapshot is the
environment before the call, to which a rollback returns. -/
structure ShieldDecision (Env : Type) extends Judgement where
  envSnapshot : Env
  degraded : Bool
  executed : Bool := false
  result : Json := .null
  error : Option String := none
  executedArgs : Option (List (String × Json)) := none
  recorded : Bool := false

structure RollbackSignal where
  recordId : String
  correlationId : String
  envSnapshotRef : Option String
  layer1EnvRestored : Bool
  langgraphThreadId : Option String
  langgraphCheckpointId : Option String
  deriving DecidableEq

structure HitlSignal where
  recordId : String
  correlationId : String
  approved : Bool
  deriving DecidableEq

/-- The shield's part of the extra arguments: the decisions by the keys of their calls, the
head of the chain and the step, and the signals for the host. -/
structure ShieldState (Env : Type) where
  decisions : Dict String (ShieldDecision Env) := []
  chainHead : String := genesisChainHash
  step : Nat := 0
  runId : String
  rollbackSignals : List RollbackSignal := []
  hitlSignals : List HitlSignal := []

structure ExtraArgs (Env : Type) where
  shield : Option (ShieldState Env) := none
  shieldRunId : Option String := none

/-- The key of a tool call: its id, or its position. -/
def toolCallKey (toolCall : ToolCall) (index : Nat) : String :=
  toolCall.id.getD ("__shield_idx_" ++ toString index)

/-- The tool calls of the last message. -/
def pendingToolCalls (messages : List Message) : List ToolCall :=
  match messages.getLast? with
  | some (.assistant toolCalls) => toolCalls
  | _ => []

/-- Python's `value or other` on an optional text. -/
def orText (value : Option String) : Option String :=
  match value with
  | some s => if s = "" then none else some s
  | none => none

section Elements

variable {σ Env : Type} (prim : Primitives) (client : Client σ) (cfg : ShieldElementConfig)
  (runtime : Runtime Env)

/-- The shield's state, created on first use.  The run id comes from the configuration, from
the host, or else is drawn. -/
def stateOf (extra : ExtraArgs Env) (s : σ) : ShieldState Env × σ :=
  match extra.shield with
  | some st => (st, s)
  | none =>
      match orText cfg.runId, orText extra.shieldRunId with
      | some runId, _ => ({ runId := runId }, s)
      | none, some runId => ({ runId := runId }, s)
      | none, none =>
          let (runId, s) := client.newRunId s
          ({ runId := runId }, s)

def argsDigest (args : List (String × Json)) : String :=
  "sha256:" ++ prim.sha256Base64url (prim.jcsCanonicalize (.obj args))

def decisionFailureDetail (exc : RequestFailure) : String :=
  exc.typeName ++ ": decision request failed"

/-! ### The guard -/

/-- The signed record of a tool call before it runs.  It stands at the head of the agent's
chain, and its arguments are those that the model has asked for. -/
def preRecord (st : ShieldState Env) (tc : ToolCall) (draw : Draw) : ShieldActionRecord :=
  finalizeRecord prim
    { recordId := draw.recordId
      correlationId := draw.correlationId
      orgId := cfg.orgId
      agentId := cfg.agentId
      workflowId := cfg.workflowId
      runId := st.runId
      stepIndex := st.step
      issuedAt := draw.issuedAt
      nonce := draw.nonce
      phase := .preExec
      actionType := .toolCall
      subject := [("agentdojo_tool_call_id", .ofOption .str tc.id)]
      action := { tool := some tc.function, argsDigest := some (argsDigest prim tc.args) }
      payload := { toolName := some tc.function, toolArgs := tc.args }
      context :=
        { envSnapshotRef := some draw.recordId, langgraphThreadId := cfg.langgraphThreadId }
      prevChainHash := st.chainHead
      agentPubkeyKid := cfg.agentPubkeyKid }
    cfg.agentPrivateKey

/-- The verdict on a record: the answer of the gate, or the degraded verdict of
the tool's fail policy. -/
def gateVerdict (pre : ShieldActionRecord) (tc : ToolCall) (verdictId : String)
    (answer : Except RequestFailure GovernanceVerdict) : GovernanceVerdict × Bool :=
  match answer with
  | .ok verdict => (verdict, false)
  | .error exc =>
      (syntheticDegradedVerdict pre (cfg.failPolicy.failModeFor tc.function)
        (decisionFailureDetail exc) verdictId, true)

/-- The decision on one tool call.  The record is signed and the environment copied before the
gate is asked; an environment that cannot be copied is its own snapshot. -/
def ShieldGuard.decide (env : Env) (tc : ToolCall) (st : ShieldState Env) (s : σ) :
    ShieldDecision Env × σ :=
  let (draw, s) := client.draw s
  let pre := preRecord prim cfg st tc draw
  let snapshot := (runtime.modelCopy env).getD env
  let (answer, s) := client.decide pre s
  let (verdict, degraded) := gateVerdict cfg pre tc draw.verdictId answer
  ({ preRecord := pre, verdict := verdict, envSnapshot := snapshot, degraded := degraded }, s)

/-- The state after a decision on a tool call. -/
def ShieldState.decided (st : ShieldState Env) (index : Nat) (tc : ToolCall)
    (dec : ShieldDecision Env) : ShieldState Env :=
  { st with
    step := st.step + 1
    chainHead := deriveChainHash prim st.chainHead dec.preRecord
    decisions := Dict.set st.decisions (toolCallKey tc index) dec }

/-- The guard's loop over the calls from position `index` on. -/
def ShieldGuard.loop (env : Env) : Nat → List ToolCall → ShieldState Env → σ → ShieldState Env × σ
  | _, [], st, s => (st, s)
  | index, tc :: tcs, st, s =>
      let (dec, s) := ShieldGuard.decide prim client cfg runtime env tc st s
      ShieldGuard.loop env (index + 1) tcs (st.decided prim index tc dec) s

def ShieldGuard.query (env : Env) (messages : List Message) (extra : ExtraArgs Env) (s : σ) :
    ExtraArgs Env × σ :=
  match pendingToolCalls messages with
  | [] => (extra, s)
  | toolCalls =>
      let (st, s) := stateOf client cfg extra s
      let (st, s) := ShieldGuard.loop prim client cfg runtime env 0 toolCalls st s
      ({ extra with shield := some st }, s)

/-! ### The executor -/

/-- The name of a tool argument in a mask path. -/
def maskedArg (path : String) : Option String :=
  let stem := "payload.tool_args."
  if stem.toList <+: path.toList then
    some (String.ofList (path.toList.drop stem.length))
  else none

/-- Redacts one masked argument, when the call has it. -/
def redact (args : List (String × Json)) (path : String) : List (String × Json) :=
  match maskedArg path with
  | none => args
  | some k =>
      match Dict.get? args k with
      | none => args
      | some _ => Dict.set args k (.str "***REDACTED***")

def applyMaskArgs (args : List (String × Json)) (maskArgs : Option (List String)) :
    List (String × Json) :=
  (maskArgs.getD []).foldl redact args

/-- Texts that denote lists are replaced by the lists. -/
def coerceStringLists (args : List (String × Json)) : List (String × Json) :=
  args.map fun arg =>
    match arg.2 with
    | .str s => (arg.1, (runtime.stringList s).getD (.str s))
    | _ => arg

/-- A call of a tool: where it stood in the message, what was run, and the
judgement that it was run under. -/
structure Execution where
  index : Nat
  function : String
  args : List (String × Json)
  judgement : Option Judgement
  deriving DecidableEq

/-- The executor between two calls: the environment, the shield's state, and what is to be
appended to the messages. -/
structure ExecutorState (Env : Type) where
  env : Env
  /-- The environment restored by the last rollback. -/
  restored : Option Env := none
  shield : Option (ShieldState Env)
  toolCalls : List ToolCall := []
  results : List ToolResult := []
  executions : List Execution := []

/-- The result message of a call that was not run. -/
def refusal (tc : ToolCall) (error : String) : ToolResult where
  content := ""
  toolCallId := tc.id
  toolCall := tc
  error := some error

/-- The call is left unrun with an error. -/
def ExecutorState.refuse (x : ExecutorState Env) (tc : ToolCall) (error : String) :
    ExecutorState Env :=
  { x with toolCalls := x.toolCalls ++ [tc], results := x.results ++ [refusal tc error] }

/-- The decision that the executor finds for a call. -/
def ExecutorState.decisionFor (x : ExecutorState Env) (key : String) :
    Option (ShieldDecision Env) :=
  x.shield.bind fun st => Dict.get? st.decisions key

/-- Notes the outcome of a call in its decision. -/
def ExecutorState.setDecision (x : ExecutorState Env) (key : String)
    (dec : Option (ShieldDecision Env)) : ExecutorState Env :=
  match dec with
  | none => x
  | some dec =>
      { x with shield := x.shield.map fun st =>
          { st with decisions := Dict.set st.decisions key dec } }

def ExecutorState.addHitlSignal (x : ExecutorState Env) (signal : HitlSignal) :
    ExecutorState Env :=
  { x with shield := x.shield.map fun st =>
      { st with hitlSignals := st.hitlSignals ++ [signal] } }

def ExecutorState.addRollbackSignal (x : ExecutorState Env) (signal : RollbackSignal) :
    ExecutorState Env :=
  { x with shield := x.shield.map fun st =>
      { st with rollbackSignals := st.rollbackSignals ++ [signal] } }

/-- The answer of the escalation handler, if there is one. -/
def escalationApproved (judgement : Judgement) (args : List (String × Json)) : Bool :=
  match cfg.escalationHandler with
  | some handler => handler judgement.verdict judgement.preRecord args
  | none => false

/-- Whether a call is run under its judgement.  A call without one passes, and an escalation
passes where the host approves it. -/
def mayRun (judgement : Option Judgement) (args : List (String × Json)) : Bool :=
  match judgement with
  | none => true
  | some j =>
      match j.verdict.decision with
      | .pass => true
      | .alert => true
      | .rewrite => true
      | .escalate =>
          match cfg.escalateMode with
          | .approve => true
          | .live => escalationApproved cfg j args
          | .block => false
      | .block => false
      | .rollback => false

/-- The arguments of a call after a rewrite. -/
def rewritten (judgement : Option Judgement) (args : List (String × Json)) :
    List (String × Json) :=
  match judgement with
  | some j =>
      if j.verdict.decision = .rewrite then j.verdict.obligations.rewriteArgs.getD args else args
  | none => args

/-- The arguments with which a call is run. -/
def finalArgs (judgement : Option Judgement) (args : List (String × Json)) :
    List (String × Json) :=
  coerceStringLists runtime
    (applyMaskArgs (rewritten judgement args)
      (judgement.bind fun j => j.verdict.obligations.maskArgs))

/-- Runs a call under its decision, with the arguments of a rewrite where there are some.  The
decision is marked as executed, with the result and the arguments. -/
def ExecutorState.run (x : ExecutorState Env) (index : Nat) (tc : ToolCall)
    (dec : Option (ShieldDecision Env)) : ExecutorState Env :=
  let judgement := dec.map ShieldDecision.toJudgement
  let args := finalArgs runtime judgement tc.args
  let ((toolResult, error), env) := runtime.runFunction x.env tc.function args
  let x := x.setDecision (toolCallKey tc index) (dec.map fun d =>
    { d with executed := true, result := toolResult, error := error, executedArgs := some args })
  { x with
      env := env
      toolCalls := x.toolCalls ++ [{ tc with args := args }]
      executions := x.executions ++
        [{ index := index, function := tc.function, args := args, judgement := judgement }]
      results := x.results ++
        [{ content := runtime.outputFormatter toolResult
           toolCallId := tc.id
           toolCall := { tc with args := args }
           error := error }] }

/-- The note of a rollback: the environment is restored from the snapshot, and
the governance side is told its own target. -/
def ExecutorState.rollBack (x : ExecutorState Env) (dec : ShieldDecision Env) :
    ExecutorState Env :=
  let copy := runtime.modelCopy dec.envSnapshot
  ExecutorState.addRollbackSignal { x with restored := copy.or x.restored }
    { recordId := dec.preRecord.recordId
      correlationId := dec.preRecord.correlationId
      envSnapshotRef := dec.preRecord.context.envSnapshotRef
      layer1EnvRestored := copy.isSome
      langgraphThreadId := dec.preRecord.context.langgraphThreadId
      langgraphCheckpointId :=
        dec.verdict.obligations.rollback.bind RollbackObligation.langgraphCheckpointId }

/-- The glyph, the verb and the outcome of a call that is not run. -/
def skipOutcome : Decision → String × String × Json
  | .rollback => ("↩", "Rolled back", .obj [("rolled_back", .bool true)])
  | .escalate => ("🛑", "Escalated", .obj [("escalated", .bool true)])
  | _ => ("🛑", "Blocked", .obj [("blocked", .bool true)])

/-- `reason or decision.value`. -/
def skipReason (verdict : GovernanceVerdict) : String :=
  (orText (verdict.reasons.head?.map VerdictReason.label)).getD verdict.decision.value

/-- Leaves a call unrun under its decision. -/
def ExecutorState.skip (x : ExecutorState Env) (index : Nat) (tc : ToolCall)
    (dec : ShieldDecision Env) : ExecutorState Env :=
  let (glyph, verb, outcome) := skipOutcome dec.verdict.decision
  let msg := glyph ++ " Agent Shield: " ++ verb ++ " — " ++ skipReason dec.verdict
  let x := if dec.verdict.decision = .rollback then x.rollBack runtime dec else x
  (x.setDecision (toolCallKey tc index)
    (some { dec with executed := false, result := outcome, error := some msg })).refuse tc msg

/-- In live mode the answer to an escalation is signalled, whether it is an approval or not. -/
def ExecutorState.noteEscalation (x : ExecutorState Env) (tc : ToolCall)
    (dec : ShieldDecision Env) : ExecutorState Env :=
  if dec.verdict.decision = .escalate ∧ cfg.escalateMode = .live then
    x.addHitlSignal
      { recordId := dec.preRecord.recordId
        correlationId := dec.preRecord.correlationId
        approved := escalationApproved cfg dec.toJudgement tc.args }
  else x

/-- The call can be run at all. -/
def Runnable (tc : ToolCall) : Prop :=
  tc.function ≠ runtime.emptyFunctionName ∧ tc.function ∈ runtime.functions

instance (tc : ToolCall) : Decidable (Runnable runtime tc) := by
  unfold Runnable
  infer_instance

/-- One round of the executor's loop.  Names that cannot be run are refused before the
decision is looked up, so that nothing is noted in it. -/
def ShieldedToolsExecutor.execute (index : Nat) (tc : ToolCall) (x : ExecutorState Env) :
    ExecutorState Env :=
  if tc.function = runtime.emptyFunctionName then
    x.refuse tc "Empty function name provided. Provide a valid function name."
  else if tc.function ∉ runtime.functions then
    x.refuse tc ("Invalid tool " ++ tc.function ++ " provided.")
  else
    match x.decisionFor (toolCallKey tc index) with
    | none => x.run runtime index tc none
    | some dec =>
        let x := x.noteEscalation cfg tc dec
        if mayRun cfg (some dec.toJudgement) tc.args then x.run runtime index tc (some dec)
        else x.skip runtime index tc dec

def ShieldedToolsExecutor.loop : Nat → List ToolCall → ExecutorState Env → ExecutorState Env
  | _, [], x => x
  | index, tc :: tcs, x =>
      ShieldedToolsExecutor.loop (index + 1) tcs
        (ShieldedToolsExecutor.execute cfg runtime index tc x)

/-- The last message with its tool calls as the executor left them, and the
result messages after it. -/
def withResults (messages : List Message) (toolCalls : List ToolCall)
    (results : List ToolResult) : List Message :=
  messages.dropLast ++ .assistant toolCalls :: results.map .tool

/-- What the executor leaves behind: the environment, the messages with the results, and which
calls were run. -/
structure Executed (Env : Type) where
  env : Env
  messages : List Message
  extra : ExtraArgs Env
  executions : List Execution

def ShieldedToolsExecutor.query (env : Env) (messages : List Message) (extra : ExtraArgs Env) :
    Executed Env :=
  match pendingToolCalls messages with
  | [] => { env := env, messages := messages, extra := extra, executions := [] }
  | toolCalls =>
      let x := ShieldedToolsExecutor.loop cfg runtime 0 toolCalls
        { env := env, shield := extra.shield }
      { env := x.restored.getD x.env
        messages := withResults messages x.toolCalls x.results
        extra := { extra with shield := x.shield }
        executions := x.executions }

/-! ### The recorder -/

/-- The signed record of a tool call after it was decided and maybe run.  Its arguments are
those that were executed, and where nothing ran those that were asked for. -/
def postRecord (st : ShieldState Env) (dec : ShieldDecision Env) (draw : Draw) :
    ShieldActionRecord :=
  finalizeRecord prim
    { recordId := draw.recordId
      correlationId := dec.preRecord.correlationId
      orgId := dec.preRecord.orgId
      agentId := dec.preRecord.agentId
      workflowId := dec.preRecord.workflowId
      runId := dec.preRecord.runId
      stepIndex := st.step
      issuedAt := draw.issuedAt
      nonce := draw.nonce
      phase := .postExec
      actionType := .toolCall
      subject := dec.preRecord.subject
      action := dec.preRecord.action
      payload :=
        { toolName := dec.preRecord.payload.toolName
          toolArgs := dec.executedArgs.getD dec.preRecord.payload.toolArgs
          toolResult := dec.result
          toolError := dec.error }
      prevChainHash := st.chainHead
      agentPubkeyKid := dec.preRecord.agentPubkeyKid
      verdictRef := some dec.verdict.verdictId }
    cfg.agentPrivateKey

/-- One round of the recorder's loop.  A failing submission is suppressed. -/
def ShieldRecorder.submitDecision (key : String) (dec : ShieldDecision Env) (st : ShieldState Env)
    (s : σ) : ShieldState Env × σ :=
  if dec.recorded then (st, s)
  else
    let (draw, s) := client.draw s
    let post := postRecord prim cfg st dec draw
    let (_, s) := client.submit post s
    ({ st with
        step := st.step + 1
        chainHead := deriveChainHash prim st.chainHead post
        decisions := Dict.set st.decisions key { dec with recorded := true } },
      s)

def ShieldRecorder.loop : List (String × ShieldDecision Env) → ShieldState Env → σ →
    ShieldState Env × σ
  | [], st, s => (st, s)
  | (key, dec) :: rest, st, s =>
      let (st, s) := ShieldRecorder.submitDecision prim client cfg key dec st s
      ShieldRecorder.loop rest st s

def ShieldRecorder.query (extra : ExtraArgs Env) (s : σ) : ExtraArgs Env × σ :=
  match extra.shield with
  | none => (extra, s)
  | some st =>
      let (st, s) := ShieldRecorder.loop prim client cfg st.decisions st s
      ({ extra with shield := some st }, s)

/-! ### A pipeline run -/

/-- A run of the loop of the three elements.  Each entry of `rounds` is what the
language model leaves as the messages before a round. -/
def pipelineRun : List (List Message) → Env → ExtraArgs Env → σ → Env × ExtraArgs Env × σ
  | [], env, extra, s => (env, extra, s)
  | messages :: rounds, env, extra, s =>
      let (extra, s) := ShieldGuard.query prim client cfg runtime env messages extra s
      let executed := ShieldedToolsExecutor.query cfg runtime env messages extra
      let (extra, s) := ShieldRecorder.query prim client cfg executed.extra s
      pipelineRun rounds executed.env extra s

end Elements

end AgentShield.Sdk
