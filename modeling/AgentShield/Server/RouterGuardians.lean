import AgentShield.Server.Redelivery

/-!
# Router-backed guardians and their evidence

The guardians behind a model router leave a row of evidence for each record they look at.
A recorder appends the rows and never takes one back.  When a model call fails, a row says
so, the attempt raises, and Channel 2 delivers the record again.  A verdict is handed over
with all the rows of its record.

What an agent answers, and whether its model call fails, is an input of the attempt.  The
guardians' memories are left out, and so are the tools that read them.
-/

namespace AgentShield.Server

open AgentShield.Lib AgentShield.Lib.Async AgentShield.Sdk AgentShield.Governance

/-! ## The recorder -/

structure EvidenceRow extends GuardianEvidence where
  recordId : String
  correlationId : String

/-- What a row says of a model call: the model, its tokens, its time and its costs, and the
tools it has used. -/
structure CallMeasurement where
  modelId : Option String := none
  servedVia : Option ServedVia := none
  promptTokens : Int := 0
  completionTokens : Int := 0
  latencyMs : PyFloat := .finite 0
  costUsd : PyFloat := .finite 0
  memory : Option (List (String × Json)) := none
  toolCalls : List String := []

/-- The row that `record_for_record` appends.  Measurements below zero are taken for zero. -/
def evidenceRow (record : ShieldActionRecord) (guardian : Guardian) (decision : Decision)
    (reasons : List String) (call : CallMeasurement) : EvidenceRow where
  recordId := record.recordId
  correlationId := record.correlationId
  guardian := guardian
  decision := decision
  reasons := reasons
  modelId := call.modelId
  servedVia := call.servedVia
  promptTokens := call.promptTokens.toNat
  completionTokens := call.completionTokens.toNat
  latencyMs := PyFloat.pyMax (.finite 0) call.latencyMs
  costUsd := PyFloat.pyMax (.finite 0) call.costUsd
  memory := call.memory
  toolCalls := call.toolCalls

def forRecord (rows : List EvidenceRow) (recordId : String) : List GuardianEvidence :=
  (rows.filter fun row => row.recordId = recordId).map EvidenceRow.toGuardianEvidence

def hasGuardian (rows : List EvidenceRow) (recordId : String) (guardian : Guardian) : Bool :=
  rows.any fun row => row.recordId = recordId ∧ row.guardian = guardian

/-! ## What an agent answers -/

/-- The content of a message: a text, or blocks with the text of the first. -/
inductive MessageContent where
  | text (s : String)
  | blocks (first : String)

/-- A message of a run: what it used (input and output tokens), its content, and whether it
calls tools. -/
structure AgentMessage where
  usage : Option (Int × Int) := none
  content : Option MessageContent := none
  callsTools : Bool := false

structure AgentRun where
  messages : List AgentMessage
  toolCalls : List String := []
  memory : Option (List (String × Json)) := none
  latencyMs : PyFloat := .finite 0

structure AgentRunSummary where
  text : String := ""
  promptTokens : Int := 0
  completionTokens : Int := 0

/-- The exception of a model call: its class and its message. -/
structure ModelFault where
  errorClass : String
  message : String

def strip (text : PyText) (s : String) : String :=
  String.ofList ((s.toList.dropWhile text.isSpace).reverse.dropWhile text.isSpace).reverse

/-- The text of a message that says something and calls no tool. -/
def AgentMessage.finalText (text : PyText) (m : AgentMessage) : Option String :=
  if m.callsTools then none
  else
    match m.content with
    | none => none
    | some (.text s) => if strip text s = "" then none else some s
    | some (.blocks first) => some first

def extractAgentTextAndUsage (text : PyText) (messages : List AgentMessage) : AgentRunSummary :=
  messages.foldl (fun summary m =>
    { text := (m.finalText text).getD summary.text
      promptTokens := summary.promptTokens + (m.usage.map Prod.fst).getD 0
      completionTokens := summary.completionTokens + (m.usage.map Prod.snd).getD 0 }) {}

/-! ### Prices -/

structure ModelPrice where
  inputUsdPerMtok : Rat
  outputUsdPerMtok : Rat

def cloudPriceTableUsdPerMtok : Dict String ModelPrice :=
  [("claude-haiku-4-5-20251001", ⟨1, 5⟩), ("claude-sonnet-4-6", ⟨3, 15⟩),
   ("claude-opus-4-7", ⟨15, 75⟩)]

/-- The costs of a call.  A model in the house costs nothing, and a cloud model without a
price raises. -/
def costUsd (modelId : String) (servedVia : Option ServedVia)
    (promptTokens completionTokens : Int) : Except PyError PyFloat :=
  if servedVia = some .local then .ok (.finite 0)
  else
    match Dict.get? cloudPriceTableUsdPerMtok modelId with
    | none => .error .keyError
    | some price => .ok (.finite (promptTokens / 1000000 * price.inputUsdPerMtok +
        completionTokens / 1000000 * price.outputUsdPerMtok))

/-! ### What an answer decides -/

def isLineBreak (c : Char) : Bool :=
  let n := c.toNat
  (10 ≤ n && n ≤ 13) || (28 ≤ n && n ≤ 30) || n == 0x85 || n == 0x2028 || n == 0x2029

/-- `text.splitlines()`, with the line that has begun. -/
def splitlines : List Char → List Char → List (List Char)
  | [], [] => []
  | line, [] => [line.reverse]
  | line, '\r' :: '\n' :: cs => line.reverse :: splitlines [] cs
  | line, c :: cs =>
      if isLineBreak c then line.reverse :: splitlines [] cs else splitlines (c :: line) cs

/-- Whether the evaluator's agent found a hallucination, and its reason: the first line that
states one, or else the whole answer. -/
def parseEvaluatorDecision (text : PyText) (answer : String) : Bool × String :=
  let upper := (text.upper answer).toList
  let hallucinated := decide ("DECISION: HALLUCINATED".toList <:+: upper) ||
    "HALLUCINATED".toList.isPrefixOf upper
  let lines := (splitlines [] answer.toList).map fun line => strip text (String.ofList line)
  let stated := lines.find? fun line => "REASON:".toList.isPrefixOf (text.upper line).toList
  let reason :=
    match stated with
    | none => strip text answer
    | some line =>
        let rest := strip text (String.ofList ((line.toList.dropWhile (· ≠ ':')).drop 1))
        if rest = "" then strip text answer else rest
  (hallucinated, reason)

def decisions : List Decision := [.pass, .alert, .block, .escalate, .rollback, .rewrite]

def decisionFromText (text : PyText) (answer : String) (default : Decision) : Decision :=
  let upper := (text.upper (strip text answer)).toList
  (decisions.find? fun decision => decision.value.toList.isPrefixOf upper).getD default

/-! ## The auditor -/

/-- A text that is there and not empty. -/
def textGiven : Option String → Bool
  | none => false
  | some s => s != ""

/-- A record claims a high confidence although its call failed. -/
def detectSelfReportMismatch (records : List ShieldActionRecord) : Bool :=
  records.any fun record =>
    (match record.payload.confidence with
      | none => false
      | some confidence => decide (PyFloat.finite (4 / 5) ≤ confidence)) &&
    textGiven record.payload.toolError

/-- The auditor without a Merkle verifier.  The integrity is the share of the records that
verify under the key, and without a key none does. -/
def Auditor.audit (prim : Primitives) (records : List ShieldActionRecord)
    (publicKey : Option String) : AuditResult :=
  if records = [] then {}
  else
    let valid := records.countP fun record =>
      textGiven record.signature && textGiven publicKey &&
        verifyRecord prim record (publicKey.getD "")
    let chainBroken := valid != records.length
    { integrity := valid / records.length
      chainBroken := chainBroken
      reasons :=
        (if chainBroken then
          [{ agent := some .auditor
             label := "auditor.chain_broken"
             detail := some (toString (records.length - valid) ++ "/" ++
               toString records.length ++ " records failed Ed25519/chain verify")
             score := some (.finite 1) }]
        else []) ++
        (if detectSelfReportMismatch records then
          [{ agent := some .auditor
             label := "auditor.self_report_mismatch"
             detail := some "self-reported confidence contradicts observed outcome"
             score := some (.finite (1 / 2)) }]
        else []) }

/-! ## The guardians -/

structure ResolvedModel where
  model : String
  servedVia : Option ServedVia

structure GuardianModelInvocationError where
  guardian : Guardian
  modelId : String
  errorClass : String
  errorMessage : String

/-- What ends an attempt: a model call that failed, or any other exception. -/
inductive AttemptError where
  | modelInvocation (e : GuardianModelInvocationError)
  | python (e : PyError)

/-- One attempt to evaluate a record, with what the agents and the key resolver answer. -/
structure Attempt where
  record : ShieldActionRecord
  evaluator : Except ModelFault AgentRun
  auditor : Except ModelFault AgentRun
  supervisor : Except ModelFault AgentRun
  publicKey : Except PyError (Option String) := .ok none
  verdictId : String

/-- The state that attempts share: the evaluator's traces and the recorder's rows. -/
structure RouterState where
  traces : Traces := []
  rows : List EvidenceRow := []

abbrev Guarded := Async RouterState AttemptError

/-- The checker of the evaluator and the arbiter of the supervisor are those of the router. -/
structure RouterBackedGuardians where
  evaluator : Evaluator
  policy : SupervisorPolicy := {}
  forRole : String → ResolvedModel
  text : PyText
  prim : Primitives

/-- The answer of a guardian's agent. -/
def invoke (guardian : Guardian) (resolved : ResolvedModel)
    (answer : Except ModelFault AgentRun) : Guarded AgentRun :=
  ofExcept (answer.mapError fun fault => .modelInvocation
    { guardian := guardian
      modelId := resolved.model
      errorClass := fault.errorClass
      errorMessage := fault.message })

/-- A computation that may raise. -/
def python {α : Type} (r : Except PyError α) : Guarded α := ofExcept (r.mapError .python)

/-- `labels or (label,)`. -/
def labelsOr (labels : List String) (label : String) : List String :=
  if labels = [] then [label] else labels

def recordForRecord (row : EvidenceRow) : Guarded Unit :=
  write fun s => { s with rows := s.rows ++ [row] }

/-- What a row says of the run of an agent, with the tokens summed over its messages. -/
def measure (resolved : ResolvedModel) (result : AgentRun) (summary : AgentRunSummary)
    (cost : PyFloat) : CallMeasurement where
  modelId := some resolved.model
  servedVia := resolved.servedVia
  promptTokens := summary.promptTokens
  completionTokens := summary.completionTokens
  latencyMs := result.latencyMs
  costUsd := cost
  memory := result.memory
  toolCalls := result.toolCalls

namespace RouterBackedGuardians

variable (g : RouterBackedGuardians)

/-- The evaluator's checker: the model is asked, its answer read, and the row of evidence
appended before the finding is returned. -/
def check (a : Attempt) : Guarded (Option CheckerReason) := do
  let resolved := g.forRole "evaluator"
  let result ← invoke .evaluator resolved a.evaluator
  let summary := extractAgentTextAndUsage g.text result.messages
  let parsed := parseEvaluatorDecision g.text summary.text
  let label := if parsed.1 then "evaluator.hallucination" else "evaluator.grounded"
  let cost ← python (costUsd resolved.model resolved.servedVia summary.promptTokens
    summary.completionTokens)
  recordForRecord (evidenceRow a.record .evaluator (if parsed.1 then .block else .pass) [label]
    (measure resolved result summary cost))
  return if parsed.1 then
      some
        { label := label
          detail := some (String.ofList (parsed.2.toList.take 240))
          score := some (7 / 10)
          modelId := some resolved.model
          servedVia := resolved.servedVia }
    else none

def finding (a : Attempt) : Guarded (Option CheckerReason) :=
  if g.evaluator.cfg.runHallucination then g.check a else pure none

def evaluate (a : Attempt) : Guarded EvaluatorResult := do
  write fun s =>
    { s with
      traces :=
        if g.evaluator.cfg.traced a.record then Evaluator.appendTrace s.traces a.record
        else s.traces }
  let trace ← read fun s => s.traces.of a.record.runId
  let violations ← python (g.evaluator.violations a.record trace)
  let finding ← g.finding a
  let drift ← python (g.evaluator.driftOf a.record)
  let scored : List (Rat × VerdictReason) :=
    violations.map (fun v => (1, invariantReason v)) ++
      finding.toList.map (fun r => (r.score.getD 0, r.reason)) ++
      drift.toList.map fun d => (d.score, d.reason)
  return {
    anomaly := (scored.map Prod.fst).max?.getD 0
    reasons := scored.map Prod.snd
    structuringOrExfil := !violations.isEmpty }

/-- The audit of a record, with the auditor's tool loop.  The verdict of the audit is computed
without the model, whose run is evidence only. -/
def audit (a : Attempt) (publicKey : Option String) : Guarded AuditResult := do
  let auditResult := Auditor.audit g.prim [a.record] publicKey
  let resolved := g.forRole "auditor"
  let result ← invoke .auditor resolved a.auditor
  let summary := extractAgentTextAndUsage g.text result.messages
  let cost ← python (costUsd resolved.model resolved.servedVia summary.promptTokens
    summary.completionTokens)
  recordForRecord (evidenceRow a.record .auditor
    (if auditResult.chainBroken then .block else .pass)
    (labelsOr (auditResult.reasons.map (·.label)) "auditor.tool_loop")
    (measure resolved result summary cost))
  return auditResult

def recordAuditorIfAbsent (record : ShieldActionRecord) (auditResult : AuditResult) :
    Guarded Unit :=
  write fun s =>
    if hasGuardian s.rows record.recordId .auditor then s
    else
      { s with
        rows := s.rows ++ [evidenceRow record .auditor
          (if auditResult.chainBroken then .block else .pass)
          (labelsOr (auditResult.reasons.map (·.label)) "auditor.integrity") {}] }

/-- The arbiter's decision on a conflict, with its evidence.  An answer that names no decision
is taken for an escalation. -/
def arbitrate (a : Attempt) (signals : GuardianSignals) : Guarded ArbitrationResult := do
  let resolved := g.forRole "supervisor"
  let result ← invoke .supervisor resolved a.supervisor
  let summary := extractAgentTextAndUsage g.text result.messages
  let cost ← python (costUsd resolved.model resolved.servedVia summary.promptTokens
    summary.completionTokens)
  let decision := decisionFromText g.text summary.text .escalate
  let reason : VerdictReason :=
    { agent := some .supervisor
      label := "supervisor.arbitrated"
      detail := some (String.ofList ((strip g.text summary.text).toList.take 240))
      score := some (.finite signals.evaluatorAnomaly)
      modelId := some resolved.model
      servedVia := resolved.servedVia }
  recordForRecord (evidenceRow a.record .supervisor decision [reason.label]
    (measure resolved result summary cost))
  return { decision := decision, reason := some reason }

/-- The supervisor asks its arbiter. -/
def asksArbiter (signals : GuardianSignals) : Bool :=
  !defenderBlocked signals && !(signals.chainBroken || signals.structuringOrExfil) &&
    signals.defenderDecision != .rewrite && isConflict signals g.policy

def arbitration (a : Attempt) (signals : GuardianSignals) : Guarded ArbitrationResult :=
  if g.asksArbiter signals then g.arbitrate a signals else pure { decision := .pass }

def decide (a : Attempt) (signals : GuardianSignals) : Guarded GovernanceVerdict := do
  let _ ← python (aggregateRisk g.policy signals)
  let arbitration ← g.arbitration a signals
  python (Supervisor.decide ⟨g.policy, fun _ _ => arbitration⟩ a.verdictId signals a.record)

def recordSupervisorIfAbsent (record : ShieldActionRecord) (verdict : GovernanceVerdict) :
    Guarded Unit :=
  let own := verdict.reasons.filter fun r => r.agent = some .supervisor
  write fun s =>
    if hasGuardian s.rows record.recordId .supervisor then s
    else
      { s with
        rows := s.rows ++ [evidenceRow record .supervisor verdict.decision
          (labelsOr (own.map (·.label)) "supervisor.aggregate") {}] }

/-- The evaluation of a record up to its verdict: evaluator, key, auditor and supervisor in
turn, each leaving its row. -/
def evaluateRecord (a : Attempt) : Guarded GovernanceVerdict := do
  let evalResult ← g.evaluate a
  let publicKey ← python a.publicKey
  let auditResult ← g.audit a publicKey
  recordAuditorIfAbsent a.record auditResult
  let verdict ← g.decide a (asyncSignals a.record evalResult auditResult)
  recordSupervisorIfAbsent a.record verdict
  return verdict

/-- The label of the row of a failed model call. -/
def modelErrorLabel : String := "guardian.model_error"

def guardianErrorRow (record : ShieldActionRecord) (e : GuardianModelInvocationError) :
    EvidenceRow :=
  evidenceRow record e.guardian .alert [modelErrorLabel, "error:" ++ e.errorClass]
    { modelId := some e.modelId }

/-- The handler of a record, up to the hand-off of its verdict.  The rows of an attempt that
fails stay, and the next attempt adds its own. -/
def handle : Machine RouterState Attempt (Except AttemptError AsyncVerdictHandoff) :=
  fun s a =>
    match run (g.evaluateRecord a) s with
    | (s, .ok verdict) =>
        (.ok (.fromRecord a.record verdict (forRecord s.rows a.record.recordId)), s)
    | (s, .error (.modelInvocation e)) =>
        (.error (.modelInvocation e), { s with rows := s.rows ++ [guardianErrorRow a.record e] })
    | (s, .error e) => (.error e, s)

/-- The state after a history of attempts. -/
def after (attempts : List Attempt) : RouterState := (Machine.run g.handle {} attempts).2

end RouterBackedGuardians

/-- The evidence of a verdict is that of the attempt from `start` to `finish`: a row for a
guardian at most, none of a failed model call, and each row from this attempt. -/
structure EvidenceOfAttempt (start finish : RouterState) (recordId : String)
    (handed : List GuardianEvidence) : Prop where
  oncePerGuardian : (handed.map (·.guardian)).Nodup
  noErrorRow : ∀ row ∈ handed, RouterBackedGuardians.modelErrorLabel ∉ row.reasons
  own : ∀ row ∈ handed, row ∈ forRecord (finish.rows.drop start.rows.length) recordId

/-! ## What a part of an attempt leaves -/

namespace RouterBackedGuardians

/-- Rows of a record, one for each of the guardians and none of a failed call. -/
structure Rows (record : ShieldActionRecord) (guardians : List Guardian)
    (rows : List EvidenceRow) : Prop where
  guardians : rows.map (·.guardian) = guardians
  ofRecord : ∀ row ∈ rows, row.recordId = record.recordId
  honest : ∀ row ∈ rows, modelErrorLabel ∉ row.reasons

theorem Rows.nil (record : ShieldActionRecord) : Rows record [] [] :=
  ⟨rfl, by simp, by simp⟩

theorem Rows.append {record : ShieldActionRecord} {guardians guardians' : List Guardian}
    {rows rows' : List EvidenceRow} (h : Rows record guardians rows)
    (h' : Rows record guardians' rows') :
    Rows record (guardians ++ guardians') (rows ++ rows') where
  guardians := by rw [List.map_append, h.guardians, h'.guardians]
  ofRecord row hMem := (List.mem_append.1 hMem).elim (h.ofRecord row) (h'.ofRecord row)
  honest row hMem := (List.mem_append.1 hMem).elim (h.honest row) (h'.honest row)

theorem Rows.single {record : ShieldActionRecord} {guardian : Guardian} {decision : Decision}
    {reasons : List String} {call : CallMeasurement} (h : modelErrorLabel ∉ reasons) :
    Rows record [guardian] [evidenceRow record guardian decision reasons call] where
  guardians := rfl
  ofRecord row hMem := by
    rw [List.mem_singleton.1 hMem]
    rfl
  honest row hMem := by
    rw [List.mem_singleton.1 hMem]
    exact h

theorem labelsOr_honest {labels : List String} {label : String}
    (hLabels : modelErrorLabel ∉ labels) (hLabel : modelErrorLabel ≠ label) :
    modelErrorLabel ∉ labelsOr labels label := by
  unfold labelsOr
  split
  · simpa using hLabel
  · exact hLabels

/-- A run of `prog` from `s` appends rows: with `P` next to a result, and with `E` where it
raises. -/
def Leaves {α : Type} (prog : Guarded α) (s : RouterState) (P : α → List EvidenceRow → Prop)
    (E : List EvidenceRow → Prop) : Prop :=
  ∃ more, (run prog s).1.rows = s.rows ++ more ∧
    match (run prog s).2 with
    | .ok a => P a more
    | .error _ => E more

section Leaves

variable {α β : Type} {s : RouterState} {P : α → List EvidenceRow → Prop}
  {Q : β → List EvidenceRow → Prop} {E F : List EvidenceRow → Prop}

theorem Leaves.pure {b : β} (h : Q b []) : Leaves (Pure.pure b) s Q F :=
  ⟨[], (List.append_nil _).symm, h⟩

theorem Leaves.bind {prog : Guarded α} {next : α → Guarded β} (hProg : Leaves prog s P E)
    (hRaised : ∀ more, E more → F more)
    (hNext : ∀ a s' more, s'.rows = s.rows ++ more → P a more →
      Leaves (next a) s' (fun b rest => Q b (more ++ rest)) fun rest => F (more ++ rest)) :
    Leaves (prog >>= next) s Q F := by
  obtain ⟨more, hRows, hResult⟩ := hProg
  unfold Leaves
  rw [run_bind]
  match hRun : run prog s with
  | (s', .error e) =>
      rw [hRun] at hRows hResult
      exact ⟨more, hRows, hRaised more hResult⟩
  | (s', .ok a) =>
      rw [hRun] at hRows hResult
      obtain ⟨rest, hRest, hLast⟩ := hNext a s' more hRows hResult
      exact ⟨more ++ rest, by rw [hRest, hRows, List.append_assoc], hLast⟩

theorem Leaves.ofExcept {r : Except AttemptError β} (hRaised : F [])
    (h : ∀ b, r = .ok b → Q b []) : Leaves (ofExcept r) s Q F := by
  refine ⟨[], (List.append_nil _).symm, ?_⟩
  cases r with
  | ok b => exact h b rfl
  | error e => exact hRaised

theorem Leaves.ofExcept_bind {r : Except AttemptError α} {next : α → Guarded β}
    (hRaised : F []) (hNext : ∀ a, r = .ok a → Leaves (next a) s Q F) :
    Leaves (Async.ofExcept r >>= next) s Q F := by
  cases r with
  | ok a => exact hNext a rfl
  | error e => exact ⟨[], (List.append_nil _).symm, hRaised⟩

/-- A step that leaves the rows alone. -/
theorem Leaves.act_bind {f : RouterState → RouterState × α} {next : α → Guarded β}
    (hRows : (f s).1.rows = s.rows) (hNext : Leaves (next (f s).2) (f s).1 Q F) :
    Leaves (act f >>= next) s Q F := by
  obtain ⟨more, hMore, hResult⟩ := hNext
  exact ⟨more, hMore.trans (by rw [hRows]), hResult⟩

theorem Leaves.record_bind {row : EvidenceRow} {next : Unit → Guarded β}
    (hNext : ∀ s', s'.rows = s.rows ++ [row] →
      Leaves (next ()) s' (fun b rest => Q b (row :: rest)) fun rest => F (row :: rest)) :
    Leaves (recordForRecord row >>= next) s Q F := by
  obtain ⟨more, hMore, hResult⟩ := hNext { s with rows := s.rows ++ [row] } rfl
  refine ⟨row :: more, ?_, hResult⟩
  rw [← List.singleton_append, ← List.append_assoc]
  exact hMore

end Leaves

variable {g : RouterBackedGuardians} {a : Attempt} {s : RouterState}

/-! ### The evaluator -/

theorem check_leaves (g : RouterBackedGuardians) (a : Attempt) (s : RouterState) :
    Leaves (g.check a) s
      (fun finding more => Rows a.record [.evaluator] more ∧
        ∀ r, finding = some r → r.agent = some .evaluator)
      (· = []) := by
  refine Leaves.ofExcept_bind rfl fun result _ => Leaves.ofExcept_bind rfl fun cost _ =>
    Leaves.record_bind fun s' _ => Leaves.pure ⟨Rows.single ?_, ?_⟩
  · split <;> decide
  · intro r hFinding
    split at hFinding
    · obtain rfl := Option.some.inj hFinding
      rfl
    · cases hFinding

/-- The guardians whose rows the evaluator leaves. -/
def evaluatorRows (g : RouterBackedGuardians) : List Guardian :=
  if g.evaluator.cfg.runHallucination then [.evaluator] else []

theorem finding_leaves (g : RouterBackedGuardians) (a : Attempt) (s : RouterState) :
    Leaves (g.finding a) s
      (fun finding more => Rows a.record g.evaluatorRows more ∧
        ∀ r, finding = some r → r.agent = some .evaluator)
      (· = []) := by
  unfold finding evaluatorRows
  by_cases hRun : g.evaluator.cfg.runHallucination = true
  · simp only [if_pos hRun]
    exact check_leaves g a s
  · simp only [if_neg hRun]
    exact Leaves.pure ⟨Rows.nil _, fun r h => nomatch h⟩

theorem evaluate_leaves (g : RouterBackedGuardians) (a : Attempt) (s : RouterState) :
    Leaves (g.evaluate a) s
      (fun result more => Rows a.record g.evaluatorRows more ∧
        ∀ r ∈ result.reasons, r.agent = some .evaluator)
      (fun more => Rows a.record [] more ∨ Rows a.record g.evaluatorRows more) := by
  refine Leaves.act_bind rfl (Leaves.act_bind rfl
    (Leaves.ofExcept_bind (.inl (Rows.nil _)) fun violations _ => ?_))
  refine (finding_leaves g a _).bind (fun more hMore => .inl (hMore ▸ Rows.nil _)) ?_
  intro finding s' more _ hMore
  refine Leaves.ofExcept_bind (.inr (by simpa using hMore.1)) fun drift _ =>
    Leaves.pure ⟨?_, ?_⟩
  · simpa using hMore.1
  · intro r hReason
    simp only [List.map_append, List.map_map, List.mem_append, List.mem_map, Function.comp_apply,
      Option.mem_toList] at hReason
    rcases hReason with (⟨v, _, rfl⟩ | ⟨c, hFound, rfl⟩) | ⟨d, _, rfl⟩
    · rfl
    · exact hMore.2 c hFound
    · rfl

/-! ### The auditor -/

/-- The auditor's reasons are its own, and none says that a model call failed. -/
theorem audit_reasons {prim : Primitives} {records : List ShieldActionRecord}
    {publicKey : Option String} {r : VerdictReason}
    (h : r ∈ (Auditor.audit prim records publicKey).reasons) :
    r.agent = some .auditor ∧ r.label ≠ modelErrorLabel := by
  unfold Auditor.audit at h
  split at h
  · cases h
  · simp only [List.mem_append] at h
    rcases h with h | h
    · split at h
      · obtain rfl := List.mem_singleton.1 h
        exact ⟨rfl, by simp [modelErrorLabel]⟩
      · cases h
    · split at h
      · obtain rfl := List.mem_singleton.1 h
        exact ⟨rfl, by simp [modelErrorLabel]⟩
      · cases h

theorem audit_leaves (g : RouterBackedGuardians) (a : Attempt) (publicKey : Option String)
    (s : RouterState) :
    Leaves (g.audit a publicKey) s
      (fun result more => Rows a.record [.auditor] more ∧
        ∀ r ∈ result.reasons, r.agent = some .auditor)
      (· = []) := by
  refine Leaves.ofExcept_bind rfl fun result _ => Leaves.ofExcept_bind rfl fun cost _ =>
    Leaves.record_bind fun s' _ =>
      Leaves.pure ⟨Rows.single (labelsOr_honest ?_ (by decide)), ?_⟩
  · intro hMem
    obtain ⟨r, hReason, hLabel⟩ := List.mem_map.1 hMem
    exact (audit_reasons hReason).2 hLabel
  · intro r hReason
    exact (audit_reasons hReason).1

theorem hasGuardian_of_rows {record : ShieldActionRecord} {guardian : Guardian}
    {guardians : List Guardian} {rows more : List EvidenceRow} (h : Rows record guardians more)
    (hMem : guardian ∈ guardians) :
    hasGuardian (rows ++ more) record.recordId guardian = true := by
  rw [← h.guardians] at hMem
  obtain ⟨row, hRow, hGuardian⟩ := List.mem_map.1 hMem
  have hRecord := h.ofRecord row hRow
  unfold hasGuardian
  rw [List.any_eq_true]
  exact ⟨row, List.mem_append_right _ hRow, by simp [hRecord, hGuardian]⟩

/-- The tool loop has left the auditor's row already. -/
theorem recordAuditorIfAbsent_leaves {record : ShieldActionRecord} {result : AuditResult}
    {s : RouterState} (h : hasGuardian s.rows record.recordId .auditor = true) :
    Leaves (recordAuditorIfAbsent record result) s (fun _ more => more = []) (· = []) := by
  refine ⟨[], ?_, rfl⟩
  show (if _ then s else _ : RouterState).rows = _
  rw [if_pos h, List.append_nil]

/-! ### The supervisor -/

theorem arbitration_leaves (g : RouterBackedGuardians) (a : Attempt) (signals : GuardianSignals)
    (s : RouterState) :
    Leaves (g.arbitration a signals) s
      (fun result more => (Rows a.record [] more ∨ Rows a.record [.supervisor] more) ∧
        ∀ r, result.reason = some r → r.label = "supervisor.arbitrated")
      (· = []) := by
  unfold arbitration
  by_cases hAsks : g.asksArbiter signals = true
  · rw [if_pos hAsks]
    refine Leaves.ofExcept_bind rfl fun result _ => Leaves.ofExcept_bind rfl fun cost _ =>
      Leaves.record_bind fun s' _ =>
        Leaves.pure ⟨.inr (Rows.single (by simp [modelErrorLabel])), ?_⟩
    intro r hReason
    obtain rfl := Option.some.inj hReason
    rfl
  · rw [if_neg hAsks]
    exact Leaves.pure ⟨.inl (Rows.nil _), fun r h => nomatch h⟩

/-- The reasons of a ruling: what the guardians say, and the arbiter's reason where there was
a conflict to decide. -/
theorem rule_reasons {sup : Supervisor} {signals : GuardianSignals} {record : ShieldActionRecord}
    {risk : Rat} {ruling : Ruling} (h : sup.rule signals record risk = .ok ruling)
    (hArbiter : ∀ r, (sup.arbiter signals record).reason = some r →
      r.label = "supervisor.arbitrated") :
    ∀ r ∈ ruling.reasons, r ∈ signals.allReasons ∨ r.label = "supervisor.arbitrated" := by
  intro r hReason
  unfold Supervisor.rule at h
  split at h
  · obtain rfl := Except.ok.inj h
    exact .inl hReason
  · split at h
    · obtain rfl := Except.ok.inj h
      exact .inl hReason
    · split at h
      · cases h
      · split at h <;> obtain rfl := Except.ok.inj h
        · rcases List.mem_append.1 hReason with hAll | hOwn
          · exact .inl hAll
          · obtain rfl := List.mem_singleton.1 hOwn
            right
            cases hGiven : (sup.arbiter signals record).reason with
            | none => rfl
            | some given => exact hArbiter given hGiven
        · exact .inl hReason

/-- The supervisor's own reasons in a verdict do not say that a model call failed. -/
theorem decide_reasons {sup : Supervisor} {verdictId : String} {signals : GuardianSignals}
    {record : ShieldActionRecord} {verdict : GovernanceVerdict}
    (h : sup.decide verdictId signals record = .ok verdict)
    (hArbiter : ∀ r, (sup.arbiter signals record).reason = some r →
      r.label = "supervisor.arbitrated")
    (hSignals : ∀ r ∈ signals.allReasons, r.agent ≠ some .supervisor) :
    modelErrorLabel ∉ (verdict.reasons.filter fun r => r.agent = some .supervisor).map
      (·.label) := by
  intro hMem
  obtain ⟨r, hFilter, hLabel⟩ := List.mem_map.1 hMem
  obtain ⟨hReason, hAgent⟩ := List.mem_filter.1 hFilter
  have hSupervisor : r.agent = some .supervisor := of_decide_eq_true hAgent
  obtain ⟨risk, ruling, -, hRule, rfl⟩ := decide_ok_iff.1 h
  have hCases : r ∈ ruling.reasons ∨ r.label = "supervisor.clean" := by
    unfold Ruling.verdict at hReason
    by_cases hNone : ruling.reasons = []
    · simp only [if_pos hNone, List.mem_singleton] at hReason
      exact .inr (by rw [hReason])
    · simp only [if_neg hNone] at hReason
      exact .inl hReason
  rcases hCases with hRuling | hClean
  · rcases rule_reasons hRule hArbiter r hRuling with hSignal | hArbitrated
    · exact hSignals r hSignal hSupervisor
    · rw [hArbitrated] at hLabel
      exact absurd hLabel (by decide)
  · rw [hClean] at hLabel
    exact absurd hLabel (by decide)

theorem decide_leaves (g : RouterBackedGuardians) (a : Attempt) {signals : GuardianSignals}
    (hSignals : ∀ r ∈ signals.allReasons, r.agent ≠ some .supervisor) (s : RouterState) :
    Leaves (g.decide a signals) s
      (fun verdict more => (Rows a.record [] more ∨ Rows a.record [.supervisor] more) ∧
        modelErrorLabel ∉ (verdict.reasons.filter fun r => r.agent = some .supervisor).map
          (·.label))
      (fun more => Rows a.record [] more ∨ Rows a.record [.supervisor] more) := by
  refine Leaves.ofExcept_bind (.inl (Rows.nil _)) fun risk _ => ?_
  refine (arbitration_leaves g a signals s).bind (fun more hMore => .inl (hMore ▸ Rows.nil _)) ?_
  intro arbitration s' more _ hMore
  refine Leaves.ofExcept (by simpa using hMore.1) fun verdict hVerdict => ?_
  refine ⟨by simpa using hMore.1, ?_⟩
  cases hDecide : Supervisor.decide ⟨g.policy, fun _ _ => arbitration⟩ a.verdictId signals
      a.record with
  | error e =>
      rw [hDecide] at hVerdict
      cases hVerdict
  | ok v =>
      rw [hDecide] at hVerdict
      obtain rfl := Except.ok.inj hVerdict
      exact decide_reasons hDecide hMore.2 hSignals

/-- The supervisor leaves one row, whether its arbiter was asked or not. -/
theorem recordSupervisorIfAbsent_leaves {record : ShieldActionRecord}
    {verdict : GovernanceVerdict} {s : RouterState}
    (hLabels : modelErrorLabel ∉
      (verdict.reasons.filter fun r => r.agent = some .supervisor).map (·.label)) :
    Leaves (recordSupervisorIfAbsent record verdict) s
      (fun _ more =>
        if hasGuardian s.rows record.recordId .supervisor then more = []
        else Rows record [.supervisor] more)
      (· = []) := by
  by_cases hHas : hasGuardian s.rows record.recordId .supervisor = true
  · refine ⟨[], ?_, by simp [recordSupervisorIfAbsent, run, write, act, hHas]⟩
    show (if _ then s else _ : RouterState).rows = _
    rw [if_pos hHas, List.append_nil]
  · refine ⟨[evidenceRow record .supervisor verdict.decision (labelsOr
      ((verdict.reasons.filter fun r => r.agent = some .supervisor).map (·.label))
      "supervisor.aggregate") {}], ?_, ?_⟩
    · show (if _ then s else _ : RouterState).rows = _
      rw [if_neg hHas]
    · show if _ then _ else _
      rw [if_neg hHas]
      exact Rows.single (labelsOr_honest hLabels (by decide))

/-! ## What an attempt leaves -/

/-- The rows of an evaluation with a verdict: one of each guardian that looked at it. -/
def Complete (g : RouterBackedGuardians) (record : ShieldActionRecord)
    (more : List EvidenceRow) : Prop :=
  Rows record (g.evaluatorRows ++ [.auditor]) more ∨
    Rows record (g.evaluatorRows ++ [.auditor] ++ [.supervisor]) more

/-- The rows of an evaluation that raised: the evaluator's, the auditor's too, or none. -/
def Partial (g : RouterBackedGuardians) (record : ShieldActionRecord)
    (more : List EvidenceRow) : Prop :=
  Rows record [] more ∨ Rows record g.evaluatorRows more ∨ g.Complete record more

theorem evaluateRecord_leaves (g : RouterBackedGuardians) (a : Attempt) (s : RouterState) :
    Leaves (g.evaluateRecord a) s (fun _ more => g.Complete a.record more)
      (g.Partial a.record) := by
  refine (evaluate_leaves g a s).bind (fun more h => h.elim .inl fun h => .inr (.inl h)) ?_
  intro evalResult s₁ first _ ⟨hFirst, hEvaluator⟩
  refine Leaves.ofExcept_bind (.inr (.inl (by simpa using hFirst))) fun publicKey _ => ?_
  refine (audit_leaves g a publicKey s₁).bind ?_ ?_
  · rintro more rfl
    exact .inr (.inl (by simpa using hFirst))
  intro auditResult s₂ second hSecondRows ⟨hSecond, hAuditor⟩
  have hBoth : Rows a.record (g.evaluatorRows ++ [.auditor]) (first ++ second) :=
    hFirst.append hSecond
  have hHas : hasGuardian s₂.rows a.record.recordId .auditor = true := by
    rw [hSecondRows]
    exact hasGuardian_of_rows hSecond List.mem_cons_self
  refine (recordAuditorIfAbsent_leaves hHas).bind ?_ ?_
  · rintro more rfl
    exact .inr (.inr (.inl (by simpa using hBoth)))
  rintro - s₃ third - rfl
  have hSignals : ∀ r ∈ (asyncSignals a.record evalResult auditResult).allReasons,
      r.agent ≠ some .supervisor := by
    intro r hReason
    have hSplit : r ∈ evalResult.reasons ∨ r ∈ auditResult.reasons := by
      simpa [GuardianSignals.allReasons, asyncSignals] using hReason
    rcases hSplit with h | h
    · rw [hEvaluator r h]
      decide
    · rw [hAuditor r h]
      decide
  have hComplete : ∀ more, Rows a.record [] more ∨ Rows a.record [.supervisor] more →
      g.Complete a.record (first ++ second ++ more) := by
    rintro more (h | h)
    · exact .inl (by simpa using hBoth.append h)
    · exact .inr (hBoth.append h)
  refine (decide_leaves g a hSignals s₃).bind ?_ ?_
  · intro more h
    exact .inr (.inr (by simpa using hComplete more h))
  intro verdict s₄ fourth hFourthRows ⟨hFourth, hLabels⟩
  refine (recordSupervisorIfAbsent_leaves hLabels).bind ?_ ?_
  · rintro more rfl
    exact .inr (.inr (by simpa using hComplete fourth hFourth))
  intro _ s₅ fifth _ hFifth
  refine Leaves.pure ?_
  rcases hFourth with hNone | hOwn
  · split at hFifth
    · simpa [hFifth] using hComplete fourth (.inl hNone)
    · simpa using hComplete (fourth ++ fifth) (.inr (hNone.append hFifth))
  · rw [hFourthRows, if_pos (hasGuardian_of_rows hOwn List.mem_cons_self)] at hFifth
    simpa [hFifth] using hComplete fourth (.inr hOwn)

/-- The row tells of an attempt: it says that a model call failed, or is of a guardian that
every verdict has a row of. -/
def Telltale (g : RouterBackedGuardians) (row : EvidenceRow) : Prop :=
  modelErrorLabel ∈ row.reasons ∨ row.guardian = .auditor ∨ row.guardian ∈ g.evaluatorRows

/-- Next to each row there is one of its record that tells of an attempt. -/
def Telling (g : RouterBackedGuardians) (rows : List EvidenceRow) : Prop :=
  ∀ row ∈ rows, ∃ r ∈ rows, r.recordId = row.recordId ∧ g.Telltale r

theorem Telling.append {rows more : List EvidenceRow} (h : g.Telling rows)
    (hMore : g.Telling more) : g.Telling (rows ++ more) := by
  intro row hRow
  rcases List.mem_append.1 hRow with hRow | hRow
  · obtain ⟨r, hMem, hTells⟩ := h row hRow
    exact ⟨r, List.mem_append_left _ hMem, hTells⟩
  · obtain ⟨r, hMem, hTells⟩ := hMore row hRow
    exact ⟨r, List.mem_append_right _ hMem, hTells⟩

theorem Rows.telling {record : ShieldActionRecord} {guardians : List Guardian}
    {more : List EvidenceRow} (h : Rows record guardians more)
    (hTells : .auditor ∈ guardians ∨ ∀ guardian ∈ guardians, guardian ∈ g.evaluatorRows) :
    g.Telling more := by
  intro row hRow
  rcases hTells with hAuditor | hEvaluator
  · rw [← h.guardians] at hAuditor
    obtain ⟨r, hMem, hGuardian⟩ := List.mem_map.1 hAuditor
    exact ⟨r, hMem, (h.ofRecord r hMem).trans (h.ofRecord row hRow).symm, .inr (.inl hGuardian)⟩
  · have hMem : row.guardian ∈ guardians := h.guardians ▸ List.mem_map_of_mem hRow
    exact ⟨row, hRow, rfl, .inr (.inr (hEvaluator _ hMem))⟩

theorem Complete.telling {record : ShieldActionRecord} {more : List EvidenceRow}
    (h : g.Complete record more) : g.Telling more := by
  rcases h with h | h
  · exact h.telling (.inl (by simp))
  · exact h.telling (.inl (by simp))

theorem Partial.telling {record : ShieldActionRecord} {more : List EvidenceRow}
    (h : g.Partial record more) : g.Telling more := by
  rcases h with h | h | h
  · exact h.telling (.inr (by simp))
  · exact h.telling (.inr fun _ hMem => hMem)
  · exact h.telling

theorem handle_ok {s' : RouterState} {verdict : GovernanceVerdict}
    (h : run (g.evaluateRecord a) s = (s', .ok verdict)) :
    g.handle s a =
      (.ok (.fromRecord a.record verdict (forRecord s'.rows a.record.recordId)), s') := by
  unfold handle
  rw [h]

/-- A failed model call leaves a row that says so. -/
theorem handle_model_error {s' : RouterState} {e : GuardianModelInvocationError}
    (h : run (g.evaluateRecord a) s = (s', .error (.modelInvocation e))) :
    g.handle s a =
      (.error (.modelInvocation e),
        { s' with rows := s'.rows ++ [guardianErrorRow a.record e] }) := by
  unfold handle
  rw [h]

theorem handle_error {s' : RouterState} {e : PyError}
    (h : run (g.evaluateRecord a) s = (s', .error (.python e))) :
    g.handle s a = (.error (.python e), s') := by
  unfold handle
  rw [h]

/-- What an attempt leaves, and what it hands over with a verdict: rows of its own after the
earlier ones, and all rows of the record. -/
theorem handle_leaves (g : RouterBackedGuardians) (s : RouterState) (a : Attempt) :
    ∃ more, (g.handle s a).2.rows = s.rows ++ more ∧ g.Telling more ∧
      ∀ handoff, (g.handle s a).1 = .ok handoff → g.Complete a.record more ∧
        handoff.guardianEvidence = forRecord (s.rows ++ more) a.record.recordId := by
  obtain ⟨more, hRows, hLast⟩ := evaluateRecord_leaves g a s
  match hRun : run (g.evaluateRecord a) s with
  | (s', .ok verdict) =>
      rw [hRun] at hRows hLast
      rw [handle_ok hRun]
      refine ⟨more, hRows, Complete.telling hLast, fun handoff h => ⟨hLast, ?_⟩⟩
      rw [← hRows, ← Except.ok.inj h]
      rfl
  | (s', .error (.modelInvocation e)) =>
      rw [hRun] at hRows hLast
      rw [handle_model_error hRun]
      refine ⟨more ++ [guardianErrorRow a.record e], ?_, ?_, fun handoff h => by cases h⟩
      · show s'.rows ++ _ = _
        rw [hRows, List.append_assoc]
      · refine (Partial.telling hLast).append fun row hRow => ⟨row, hRow, rfl, .inl ?_⟩
        rw [List.mem_singleton.1 hRow]
        exact List.mem_cons_self
  | (s', .error (.python e)) =>
      rw [hRun] at hRows hLast
      rw [handle_error hRun]
      exact ⟨more, hRows, Partial.telling hLast, fun handoff h => by cases h⟩

theorem after_concat (g : RouterBackedGuardians) (attempts : List Attempt) (a : Attempt) :
    g.after (attempts ++ [a]) = (g.handle (g.after attempts) a).2 := by
  unfold after
  generalize ({} : RouterState) = s
  induction attempts generalizing s with
  | nil => rfl
  | cons first rest ih => exact ih _

theorem telling_after (g : RouterBackedGuardians) (attempts : List Attempt) :
    g.Telling (g.after attempts).rows := by
  induction attempts using List.reverseRecOn with
  | nil => exact fun row hRow => nomatch hRow
  | append_singleton rest a ih =>
      obtain ⟨more, hRows, hTelling, -⟩ := handle_leaves g (g.after rest) a
      rw [after_concat, hRows]
      exact ih.append hTelling

/-! ## Evidence of the successful attempt -/

theorem Complete.rows {record : ShieldActionRecord} {more : List EvidenceRow}
    (h : g.Complete record more) : ∃ guardians, Rows record guardians more ∧
      guardians.Nodup ∧ .auditor ∈ guardians ∧ ∀ guardian ∈ g.evaluatorRows,
        guardian ∈ guardians := by
  have hEvaluator : g.evaluatorRows = [] ∨ g.evaluatorRows = [.evaluator] := by
    unfold evaluatorRows
    split
    · exact .inr rfl
    · exact .inl rfl
  rcases h with h | h
  · refine ⟨_, h, ?_, by simp, by simp +contextual⟩
    rcases hEvaluator with hNone | hOne
    · simp [hNone]
    · simp [hOne]
  · refine ⟨_, h, ?_, by simp, by simp +contextual⟩
    rcases hEvaluator with hNone | hOne
    · simp [hNone]
    · simp [hOne]

/-- An attempt that ends in a verdict or in a failed model call leaves a row of its record. -/
theorem row_left (g : RouterBackedGuardians) (s : RouterState) (a : Attempt)
    (h : ∀ e, (g.handle s a).1 ≠ .error (.python e)) :
    ∃ row ∈ (g.handle s a).2.rows, row.recordId = a.record.recordId := by
  match hRun : run (g.evaluateRecord a) s with
  | (s', .ok verdict) =>
      obtain ⟨more, hRows, -, hLast⟩ := handle_leaves g s a
      have hVerdict : (g.handle s a).1 = .ok _ := congrArg Prod.fst (handle_ok hRun)
      obtain ⟨guardians, hOwn, -, hAuditor, -⟩ := (hLast _ hVerdict).1.rows
      rw [← hOwn.guardians] at hAuditor
      obtain ⟨row, hRow, -⟩ := List.mem_map.1 hAuditor
      exact ⟨row, by rw [hRows]; exact List.mem_append_right _ hRow, hOwn.ofRecord row hRow⟩
  | (s', .error (.modelInvocation e)) =>
      rw [handle_model_error hRun]
      exact ⟨guardianErrorRow a.record e, List.mem_append_right _ List.mem_cons_self, rfl⟩
  | (s', .error (.python e)) =>
      exact absurd (congrArg Prod.fst (handle_error hRun)) (h e)

theorem forRecord_append (rows more : List EvidenceRow) (recordId : String) :
    forRecord (rows ++ more) recordId = forRecord rows recordId ++ forRecord more recordId := by
  simp [forRecord]

theorem Rows.forRecord {record : ShieldActionRecord} {guardians : List Guardian}
    {more : List EvidenceRow} (h : Rows record guardians more) :
    forRecord more record.recordId = more.map EvidenceRow.toGuardianEvidence := by
  unfold Server.forRecord
  rw [List.filter_eq_self.2 fun row hRow => decide_eq_true (h.ofRecord row hRow)]

/-- A row that tells of an earlier attempt spoils the evidence of the next one: a guardian
stands in it twice, or an error that this attempt has not had. -/
theorem spoiled {record : ShieldActionRecord} {rows more : List EvidenceRow}
    {handed : List GuardianEvidence} (hComplete : g.Complete record more)
    (hHanded : handed = forRecord rows record.recordId ++ forRecord more record.recordId)
    {row : EvidenceRow} (hRow : row ∈ rows) (hRecord : row.recordId = record.recordId)
    (hTells : g.Telltale row) :
    ¬ ((handed.map (·.guardian)).Nodup ∧ ∀ r ∈ handed, modelErrorLabel ∉ r.reasons) := by
  rintro ⟨hOnce, hNone⟩
  have hOld : row.toGuardianEvidence ∈ forRecord rows record.recordId :=
    List.mem_map_of_mem (List.mem_filter.2 ⟨hRow, decide_eq_true hRecord⟩)
  have hMem : row.toGuardianEvidence ∈ handed := by
    rw [hHanded]
    exact List.mem_append_left _ hOld
  obtain ⟨guardians, hRows, -, hAuditor, hEvaluator⟩ := hComplete.rows
  have hAgain : row.guardian ∈ guardians → False := by
    intro hGuardian
    rw [hHanded, List.map_append, List.nodup_append] at hOnce
    refine hOnce.2.2 row.guardian (List.mem_map_of_mem hOld) row.guardian ?_ rfl
    rw [hRows.forRecord, List.map_map]
    rw [← hRows.guardians] at hGuardian
    exact hGuardian
  rcases hTells with hError | hOwn | hOwn
  · exact hNone _ hMem hError
  · exact hAgain (hOwn ▸ hAuditor)
  · exact hAgain (hEvaluator _ hOwn)

end RouterBackedGuardians

/-- **Evidence of the successful attempt.**  After any history of attempts, the evidence that
is handed over is that of the successful attempt alone exactly when no earlier row is about
the record: the look-up goes by the record's id and not by the attempt. -/
theorem evidence_of_attempt_iff (g : RouterBackedGuardians) (earlier : List Attempt)
    (a : Attempt) (handoff : AsyncVerdictHandoff)
    (hVerdict : (g.handle (g.after earlier) a).1 = .ok handoff) :
    EvidenceOfAttempt (g.after earlier) (g.handle (g.after earlier) a).2 a.record.recordId
        handoff.guardianEvidence ↔
      ∀ row ∈ (g.after earlier).rows, row.recordId ≠ a.record.recordId := by
  obtain ⟨more, hRows, -, hLast⟩ := RouterBackedGuardians.handle_leaves g (g.after earlier) a
  obtain ⟨hComplete, hHanded⟩ := hLast handoff hVerdict
  rw [RouterBackedGuardians.forRecord_append] at hHanded
  constructor
  · intro hEvidence row hRow hRecord
    obtain ⟨r, hMem, hSame, hTells⟩ :=
      RouterBackedGuardians.telling_after g earlier row hRow
    exact RouterBackedGuardians.spoiled hComplete hHanded hMem (hSame.trans hRecord) hTells
      ⟨hEvidence.oncePerGuardian, hEvidence.noErrorRow⟩
  · intro hFresh
    have hNone : forRecord (g.after earlier).rows a.record.recordId = [] := by
      unfold forRecord
      rw [List.filter_eq_nil_iff.2 fun row hRow => by simpa using hFresh row hRow]
      rfl
    obtain ⟨guardians, hOwn, hNodup, -⟩ := hComplete.rows
    have hMore := hOwn.forRecord
    rw [hNone, List.nil_append, hMore] at hHanded
    refine ⟨?_, ?_, ?_⟩
    · rw [hHanded, List.map_map]
      exact hOwn.guardians ▸ hNodup
    · intro row hRow
      rw [hHanded] at hRow
      obtain ⟨r, hMem, rfl⟩ := List.mem_map.1 hRow
      exact hOwn.honest r hMem
    · intro row hRow
      rw [hRows, List.drop_left, hMore, ← hHanded]
      exact hRow


/-! ## A failed model call and a retry -/

namespace Sample

def router (role : String) : ResolvedModel where
  model := if role = "supervisor" then "claude-opus-4-7"
    else if role = "evaluator" then "claude-sonnet-4-6"
    else "claude-haiku-4-5-20251001"
  servedVia := some .cloud

def routerGuardians : RouterBackedGuardians where
  evaluator := { analyzer := countTransfers }
  forRole := router
  text := Governance.Sample.text
  prim := Sdk.Sample.prim

def answered (text : String) : Except ModelFault AgentRun :=
  .ok { messages := [{ usage := some (900, 40), content := some (.text text) }] }

/-- An attempt at the record `recordId` in which every model call is answered. -/
def attempt (recordId : String) : Attempt where
  record := transfer recordId
  evaluator := answered "DECISION: GROUNDED"
  auditor := answered "The chain is intact."
  supervisor := answered "PASS"
  verdictId := recordId ++ "-late"

/-- The attempt with a failing model call of the evaluator. -/
def failedAttempt (recordId : String) : Attempt :=
  { attempt recordId with
    evaluator := .error { errorClass := "TimeoutError", message := "timed out" } }

/-- What the attempt after a history hands over. -/
def attemptOutcome (earlier : List Attempt) (a : Attempt) :
    Except AttemptError AsyncVerdictHandoff :=
  (routerGuardians.handle (routerGuardians.after earlier) a).1

end Sample

theorem evidence_of_attempt_sample :
    ∃ handoff, Sample.attemptOutcome [] (Sample.attempt "r") = .ok handoff ∧
      EvidenceOfAttempt (Sample.routerGuardians.after [])
        (Sample.routerGuardians.handle (Sample.routerGuardians.after []) (Sample.attempt "r")).2
        "r" handoff.guardianEvidence := by
  have hOk : (Sample.attemptOutcome [] (Sample.attempt "r")).isOk = true := by decide +kernel
  cases hVerdict : Sample.attemptOutcome [] (Sample.attempt "r") with
  | error e =>
      rw [hVerdict] at hOk
      cases hOk
  | ok handoff =>
      have hIff := evidence_of_attempt_iff Sample.routerGuardians [] (Sample.attempt "r") handoff
        hVerdict
      exact ⟨handoff, rfl, hIff.2 fun row hRow => nomatch hRow⟩

/-- **A retried record keeps the row of the failed call.**  The evaluator's model call fails,
and the record is evaluated again: its verdict comes with two rows of the evaluator. -/
theorem retried_record_keeps_error_row :
    (Sample.attemptOutcome [Sample.failedAttempt "r"] (Sample.attempt "r")).toOption.map
        (fun handoff => handoff.guardianEvidence.map (·.guardian)) =
        some [.evaluator, .evaluator, .auditor, .supervisor] ∧
      ¬ ∀ (g : RouterBackedGuardians) (earlier : List Attempt) (a : Attempt)
        (handoff : AsyncVerdictHandoff), (g.handle (g.after earlier) a).1 = .ok handoff →
        EvidenceOfAttempt (g.after earlier) (g.handle (g.after earlier) a).2 a.record.recordId
          handoff.guardianEvidence := by
  have hHanded : (Sample.attemptOutcome [Sample.failedAttempt "r"]
      (Sample.attempt "r")).toOption.map
        (fun handoff => handoff.guardianEvidence.map (·.guardian)) =
      some [.evaluator, .evaluator, .auditor, .supervisor] := by decide +kernel
  refine ⟨hHanded, fun hAll => ?_⟩
  cases hVerdict : Sample.attemptOutcome [Sample.failedAttempt "r"] (Sample.attempt "r") with
  | error e =>
      rw [hVerdict] at hHanded
      cases hHanded
  | ok handoff =>
      have hOnce := (hAll _ _ _ _ hVerdict).oncePerGuardian
      rw [hVerdict] at hHanded
      have hList : handoff.guardianEvidence.map (·.guardian) = _ := Option.some.inj hHanded
      rw [hList] at hOnce
      exact absurd hOnce (by decide)

end AgentShield.Server
