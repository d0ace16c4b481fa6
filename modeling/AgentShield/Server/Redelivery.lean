import AgentShield.Governance.Rulings
import AgentShield.Lib.Machine
import AgentShield.Server.AsyncVerdictWorker

/-!
# The evaluator and redelivery

The evaluator keeps a trace for each run.  A record with a tool name is appended to the
trace of its run, and the analyzer reads the whole trace.  Channel 2 delivers a record at
least once, and the trace has an entry for each delivery.  With the auditor, the evaluator and
the supervisor for its guardians, the handler of the worker hands over the supervisor's verdict
(`makeAsyncChannel2Handler_verdict`).

The analyzer, the hallucination checker and the drift detector are any functions of what
they are given, and may raise.  Scores are exact numbers.
-/

namespace AgentShield.Server

open AgentShield.Lib AgentShield.Sdk AgentShield.Governance

/-! ## The evaluator -/

/-- The reason of a checker, with an exact score, which becomes a float only in the verdict. -/
structure CheckerReason where
  agent : Option Guardian := some .evaluator
  label : String
  detail : Option String := none
  score : Option Rat := none
  modelId : Option String := none
  servedVia : Option ServedVia := none

/-- `check(record, trace)`. -/
abbrev HallucinationChecker :=
  ShieldActionRecord → List Json → Except PyError (Option CheckerReason)

def nullHallucinationChecker : HallucinationChecker := fun _ _ => .ok none

structure DriftScore where
  score : Rat
  baselineKey : String
  embeddingModel : String
  collection : String
  baselineCount : Nat
  servedVia : ServedVia := .local

/-- A detector has `score_result`, or else only `score`. -/
inductive DriftDetector where
  | scoreResult (f : ShieldActionRecord → Except PyError DriftScore)
  | score (f : ShieldActionRecord → Except PyError Rat)

def behaviorBaselineKey (record : ShieldActionRecord) : String :=
  let tool := if toolName record = "" then "<unknown>" else toolName record
  record.orgId ++ "/" ++ record.agentId ++ "/" ++ record.workflowId ++ "/" ++ tool

def nullDriftDetector : DriftDetector := .scoreResult fun record =>
  .ok
    { score := 0
      baselineKey := behaviorBaselineKey record
      embeddingModel := "disabled"
      collection := "disabled"
      baselineCount := 0 }

def DriftDetector.result (drift : DriftDetector) (record : ShieldActionRecord) :
    Except PyError DriftScore :=
  match drift with
  | scoreResult f => f record
  | score f => (f record).map fun d =>
      { score := d
        baselineKey := behaviorBaselineKey record
        embeddingModel := "unknown"
        collection := "unknown"
        baselineCount := 0 }

structure EvaluatorConfig where
  runInvariant : Bool := true
  runHallucination : Bool := true
  driftEnabled : Bool := false

structure Evaluator where
  cfg : EvaluatorConfig := {}
  analyzer : StructuringAnalyzer
  hallucination : HallucinationChecker := nullHallucinationChecker
  drift : DriftDetector := nullDriftDetector

/-- The traces of the runs. -/
abbrev Traces := Dict String (List Json)

def Traces.of (traces : Traces) (runId : String) : List Json := (Dict.get? traces runId).getD []

/-- The record has an entry in the trace of its run. -/
def EvaluatorConfig.traced (cfg : EvaluatorConfig) (record : ShieldActionRecord) : Bool :=
  cfg.runInvariant && toolName record != ""

/-- The analyzer or the checker is given the trace when the record is evaluated. -/
def EvaluatorConfig.readsTrace (cfg : EvaluatorConfig) (record : ShieldActionRecord) : Bool :=
  cfg.traced record || cfg.runHallucination

/-- `format(score, ".3f")` of a score that is not negative: three digits after the point, and
halves go to the even neighbour. -/
def fixed3 (score : Rat) : String :=
  let n := score.num.natAbs * 1000
  let floor := n / score.den
  let rest := n % score.den
  let rounded :=
    if 2 * rest < score.den then floor
    else if score.den < 2 * rest then floor + 1
    else floor + floor % 2
  let digits := toString (rounded % 1000)
  toString (rounded / 1000) ++ "." ++ String.ofList (List.replicate (3 - digits.length) '0') ++
    digits

def invariantReason (v : PolicyViolation) : VerdictReason where
  agent := some .evaluator
  label := v.label
  detail := if v.detail = "" then none else some v.detail
  score := some (.finite 1)
  servedVia := some .local

def CheckerReason.reason (r : CheckerReason) : VerdictReason where
  agent := r.agent
  label := r.label
  detail := r.detail
  score := r.score.map .finite
  modelId := r.modelId
  servedVia := r.servedVia

def DriftScore.reason (d : DriftScore) : VerdictReason where
  agent := some .evaluator
  label := "evaluator.behavior_drift"
  detail := some ("drift score " ++ fixed3 d.score ++ " vs benign baseline " ++
    "baseline_key=" ++ d.baselineKey ++ " embedding_model=" ++ d.embeddingModel ++
    " collection=" ++ d.collection ++ " baseline_count=" ++ toString d.baselineCount)
  score := some (.finite d.score)
  servedVia := some d.servedVia

namespace Evaluator

variable (e : Evaluator)

def appendTrace (traces : Traces) (record : ShieldActionRecord) : Traces :=
  Dict.set traces record.runId (traces.of record.runId ++ [traceEvent record])

def violations (record : ShieldActionRecord) (trace : List Json) :
    Except PyError (List PolicyViolation) :=
  if e.cfg.traced record then e.analyzer trace else .ok []

def finding (record : ShieldActionRecord) (trace : List Json) :
    Except PyError (Option CheckerReason) :=
  if e.cfg.runHallucination then e.hallucination record trace else .ok none

/-- The drift score, where it is positive. -/
def driftOf (record : ShieldActionRecord) : Except PyError (Option DriftScore) :=
  if e.cfg.driftEnabled then
    (e.drift.result record).map fun d => if 0 < d.score then some d else none
  else .ok none

/-- The evaluation of a record over the trace of its run: the violations, the checker's
finding and the drift, of which the worst is the anomaly. -/
def assess (record : ShieldActionRecord) (trace : List Json) : Except PyError EvaluatorResult := do
  let violations ← e.violations record trace
  let finding ← e.finding record trace
  let drift ← e.driftOf record
  let scored : List (Rat × VerdictReason) :=
    violations.map (fun v => (1, invariantReason v)) ++
      finding.toList.map (fun r => (r.score.getD 0, r.reason)) ++
      drift.toList.map fun d => (d.score, d.reason)
  return {
    anomaly := (scored.map Prod.fst).max?.getD 0
    reasons := scored.map Prod.snd
    structuringOrExfil := !violations.isEmpty }

/-- The entry stays in the trace when the evaluation raises. -/
def evaluate (traces : Traces) (record : ShieldActionRecord) :
    Except PyError EvaluatorResult × Traces :=
  let traces := if e.cfg.traced record then appendTrace traces record else traces
  (e.assess record (traces.of record.runId), traces)

end Evaluator

/-! ## The handler -/

/-- What a Channel-2 handler is made of.  The auditor answers from the records and the
key. -/
structure AsyncChannel2 where
  evaluator : Evaluator
  audit : List ShieldActionRecord → Option String → AuditResult
  supervisor : Supervisor
  keyResolver : String → Except PyError (Option String)
  verdictId : ShieldActionRecord → String

namespace AsyncChannel2

variable (h : AsyncChannel2)

def rule (record : ShieldActionRecord) (evalResult : EvaluatorResult) :
    Except PyError GovernanceVerdict := do
  let publicKey ← h.keyResolver record.agentPubkeyKid
  let auditResult := h.audit [record] publicKey
  h.supervisor.decide (h.verdictId record) (asyncSignals record evalResult auditResult) record

/-- The handler of a record up to the hand-off of its verdict. -/
def handle : Machine Traces ShieldActionRecord (Except PyError GovernanceVerdict) :=
  fun traces record =>
    let (evalResult, traces) := h.evaluator.evaluate traces record
    (evalResult >>= h.rule record, traces)

/-- The verdict of a record, if there is one. -/
def verdict (traces : Traces) (record : ShieldActionRecord) : Option GovernanceVerdict :=
  (h.handle traces record).1.toOption

/-- The traces after a history of records. -/
def tracesAfter (records : List ShieldActionRecord) : Traces := (Machine.run h.handle [] records).2

def withAnalysis (analyzer : StructuringAnalyzer) (hallucination : HallucinationChecker) :
    AsyncChannel2 :=
  { h with
    evaluator := { h.evaluator with analyzer := analyzer, hallucination := hallucination } }

/-- The record gets a verdict unless the analyzer or the checker raises. -/
structure Answers (record : ShieldActionRecord) : Prop where
  drift : h.evaluator.cfg.driftEnabled = true → ∃ d, h.evaluator.drift.result record = .ok d
  key : ∃ publicKey, h.keyResolver record.agentPubkeyKid = .ok publicKey
  weighted : h.supervisor.policy.totalWeight ≠ 0

end AsyncChannel2

/-- The handler is given `r` twice instead of once: the second delivery gets the verdict of
the first, and each later record of the run the verdict that it gets after one delivery. -/
structure RedeliveryIdempotent (h : AsyncChannel2) (before : List ShieldActionRecord)
    (r : ShieldActionRecord) (after : List ShieldActionRecord) : Prop where
  again : h.verdict (h.tracesAfter (before ++ [r])) r = h.verdict (h.tracesAfter before) r
  later : ∀ done q rest, after = done ++ q :: rest → q.runId = r.runId →
    h.verdict (h.tracesAfter (before ++ r :: r :: done)) q =
      h.verdict (h.tracesAfter (before ++ r :: done)) q

/-! ## The trace of a run -/

/-- The trace of a run is the list of its traced records. -/
def EvaluatorConfig.events (cfg : EvaluatorConfig) (records : List ShieldActionRecord)
    (runId : String) : List Json :=
  (records.filter fun q => cfg.traced q && q.runId == runId).map traceEvent

section Events

variable {cfg : EvaluatorConfig} {r : ShieldActionRecord} {runId : String}

@[simp] theorem events_append (records more : List ShieldActionRecord) :
    cfg.events (records ++ more) runId = cfg.events records runId ++ cfg.events more runId := by
  simp [EvaluatorConfig.events]

theorem events_cons (r : ShieldActionRecord) (records : List ShieldActionRecord) :
    cfg.events (r :: records) runId = cfg.events [r] runId ++ cfg.events records runId :=
  events_append [r] records

theorem events_of_untraced (h : cfg.traced r = false) : cfg.events [r] runId = [] := by
  simp [EvaluatorConfig.events, h]

theorem events_of_otherRun (h : r.runId ≠ runId) : cfg.events [r] runId = [] := by
  simp [EvaluatorConfig.events, h]

theorem events_of_traced (h : cfg.traced r = true) (hRun : r.runId = runId) :
    cfg.events [r] runId = [traceEvent r] := by
  simp [EvaluatorConfig.events, h, hRun]

/-- One more delivery of a record shows in the trace of its own run only, and only where the
record is traced. -/
theorem events_redelivered (r : ShieldActionRecord) (before rest : List ShieldActionRecord) :
    cfg.events (before ++ r :: rest) runId = cfg.events (before ++ rest) runId ↔
      ¬ (cfg.traced r = true ∧ r.runId = runId) := by
  rw [events_append, events_append, events_cons r rest]
  by_cases hTraced : cfg.traced r = true
  · by_cases hRun : r.runId = runId
    · rw [events_of_traced hTraced hRun]
      simp [hTraced, hRun]
    · rw [events_of_otherRun hRun]
      simp [hRun]
  · have hUntraced : cfg.traced r = false := by simpa using hTraced
    rw [events_of_untraced hUntraced]
    simp [hUntraced]

end Events

namespace AsyncChannel2

variable {h : AsyncChannel2}

/-- One delivery adds the record's entry to the trace of its run. -/
theorem handle_traces (h : AsyncChannel2) (traces : Traces) (record : ShieldActionRecord)
    (runId : String) :
    (h.handle traces record).2.of runId =
      traces.of runId ++ h.evaluator.cfg.events [record] runId := by
  show (Evaluator.evaluate h.evaluator traces record).2.of runId = _
  unfold Evaluator.evaluate
  by_cases hTraced : h.evaluator.cfg.traced record = true
  · simp only [hTraced, if_true, Evaluator.appendTrace, Traces.of, Dict.get?_set]
    by_cases hRun : record.runId = runId
    · simp [events_of_traced hTraced hRun, hRun]
    · simp [events_of_otherRun hRun, hRun]
  · have hUntraced : h.evaluator.cfg.traced record = false := by simpa using hTraced
    simp [hUntraced, events_of_untraced hUntraced]

theorem run_traces (h : AsyncChannel2) (records : List ShieldActionRecord) (traces : Traces)
    (runId : String) :
    (Machine.run h.handle traces records).2.of runId =
      traces.of runId ++ h.evaluator.cfg.events records runId := by
  induction records generalizing traces with
  | nil => simp [EvaluatorConfig.events]
  | cons record records ih =>
      rw [Machine.run_cons]
      show (Machine.run h.handle (h.handle traces record).2 records).2.of runId = _
      rw [ih, handle_traces, events_cons record records, List.append_assoc]

/-- After a history the trace of a run has an entry for each delivery. -/
theorem tracesAfter_of (h : AsyncChannel2) (records : List ShieldActionRecord)
    (runId : String) :
    (h.tracesAfter records).of runId = h.evaluator.cfg.events records runId := by
  unfold tracesAfter
  rw [run_traces]
  rfl

/-- The verdict of a record is a function of the record and of the trace of its run. -/
theorem verdict_tracesAfter (h : AsyncChannel2) (records : List ShieldActionRecord)
    (q : ShieldActionRecord) :
    h.verdict (h.tracesAfter records) q =
      (h.evaluator.assess q (h.evaluator.cfg.events (records ++ [q]) q.runId) >>=
        h.rule q).toOption := by
  have hTrace := handle_traces h (h.tracesAfter records) q q.runId
  rw [tracesAfter_of, ← events_append] at hTrace
  rw [← hTrace]
  rfl

/-! ## The worker's handler -/

/-- The guardians of a worker, with an evaluator that keeps these traces. -/
def guardians (h : AsyncChannel2) (traces : Traces)
    (evidence : ShieldActionRecord → List GuardianEvidence) : Channel2Guardians where
  evaluate record := (h.evaluator.evaluate traces record).1.mapError fun _ => .other "evaluator"
  audit := h.audit
  supervisor := h.supervisor
  verdictId := h.verdictId
  evidence := evidence

/-- A verdict comes from an evaluation, a key and the supervisor. -/
theorem verdict_eq_some {traces : Traces} {record : ShieldActionRecord} {v : GovernanceVerdict} :
    h.verdict traces record = some v ↔ ∃ evalResult publicKey,
      (h.evaluator.evaluate traces record).1 = .ok evalResult ∧
      h.keyResolver record.agentPubkeyKid = .ok publicKey ∧
      h.supervisor.decide (h.verdictId record)
        (asyncSignals record evalResult (h.audit [record] publicKey)) record = .ok v := by
  unfold verdict handle rule
  cases hEvaluated : (h.evaluator.evaluate traces record).1 with
  | error exc => simp [hEvaluated, bind, Except.bind, Except.toOption]
  | ok evalResult =>
      cases hKey : h.keyResolver record.agentPubkeyKid with
      | error exc => simp [hEvaluated, bind, Except.bind, Except.toOption]
      | ok publicKey =>
          simp only [hEvaluated, bind, Except.bind, Except.ok.injEq, exists_and_left,
            exists_eq_left']
          cases h.supervisor.decide (h.verdictId record)
            (asyncSignals record evalResult (h.audit [record] publicKey)) record <;>
              simp [Except.toOption]

/-- The worker's handler hands over the verdict of the record. -/
theorem makeAsyncChannel2Handler_verdict {τ : Type} {traces : Traces}
    {record : ShieldActionRecord} {v : GovernanceVerdict}
    (hVerdict : h.verdict traces record = some v)
    (evidence : ShieldActionRecord → List GuardianEvidence)
    (onVerdict : AsyncVerdictHandoff → Async τ Raised Unit) (s : τ) :
    (makeAsyncChannel2Handler (h.guardians traces evidence)
        (fun kid => Async.ofExcept ((h.keyResolver kid).mapError fun _ => .other "keys"))
        onVerdict record).next s =
      onVerdict (.fromRecord record v (evidence record)) := by
  obtain ⟨evalResult, publicKey, hEvaluated, hKey, hDecide⟩ := verdict_eq_some.1 hVerdict
  unfold makeAsyncChannel2Handler guardians
  simp only [Async.call, Async.ofExcept, hEvaluated, hKey]
  show (Async.done ((h.supervisor.decide (h.verdictId record)
    (asyncSignals record evalResult (h.audit [record] publicKey)) record).mapError
      fun _ => .other "supervisor") >>= fun verdict =>
        onVerdict (.fromRecord record verdict (evidence record))) = _
  rw [hDecide]
  rfl

/-! ## Who gets a verdict -/

theorem exists_bind_ok {ε α β : Type} (x : Except ε α) (f : α → Except ε β) :
    (∃ b, (x >>= f) = .ok b) ↔ ∃ a, x = .ok a ∧ ∃ b, f a = .ok b := by
  cases x <;> simp [bind, Except.bind]

theorem exists_ite_ok {ε α : Type} {c : Prop} [Decidable c] (x : Except ε α) (a₀ : α) :
    (∃ a, (if c then x else .ok a₀) = .ok a) ↔ (c → ∃ a, x = .ok a) := by
  by_cases hc : c <;> simp [hc]

/-- An evaluation succeeds when nothing that it asks raises. -/
theorem assess_isOk (e : Evaluator) (q : ShieldActionRecord) (trace : List Json) :
    (∃ result, e.assess q trace = .ok result) ↔
      (e.cfg.traced q = true → ∃ violations, e.analyzer trace = .ok violations) ∧
      (e.cfg.runHallucination = true → ∃ finding, e.hallucination q trace = .ok finding) ∧
      (e.cfg.driftEnabled = true → ∃ d, e.drift.result q = .ok d) := by
  have hDrift : (∃ drift, e.driftOf q = .ok drift) ↔
      (e.cfg.driftEnabled = true → ∃ d, e.drift.result q = .ok d) := by
    unfold Evaluator.driftOf
    rw [exists_ite_ok]
    cases e.drift.result q <;> simp [Except.map]
  have hPure : ∀ result : EvaluatorResult,
      ∃ result', (pure result : Except PyError EvaluatorResult) = .ok result' :=
    fun result => ⟨result, rfl⟩
  unfold Evaluator.assess Evaluator.violations Evaluator.finding
  simp only [exists_bind_ok, hPure, and_true, exists_and_right, hDrift, exists_ite_ok]

theorem rule_isOk (q : ShieldActionRecord) (evalResult : EvaluatorResult) :
    (∃ v, h.rule q evalResult = .ok v) ↔
      (∃ publicKey, h.keyResolver q.agentPubkeyKid = .ok publicKey) ∧
        h.supervisor.policy.totalWeight ≠ 0 := by
  have hDecide : ∀ publicKey, (∃ v, h.supervisor.decide (h.verdictId q)
      (asyncSignals q evalResult (h.audit [q] publicKey)) q = .ok v) ↔
      h.supervisor.policy.totalWeight ≠ 0 := by
    intro publicKey
    rw [← aggregateRisk_isOk _ (asyncSignals q evalResult (h.audit [q] publicKey))]
    constructor
    · intro hOk
      obtain ⟨v, hDecide⟩ := hOk
      obtain ⟨risk, ruling, hRisk, -, -⟩ := decide_ok_iff.1 hDecide
      exact ⟨risk, hRisk⟩
    · intro hOk
      obtain ⟨risk, hRisk⟩ := hOk
      -- the Defender's decision is a pass, so the ruling does not raise
      have hRule : ∃ ruling, h.supervisor.rule
          (asyncSignals q evalResult (h.audit [q] publicKey)) q risk = .ok ruling := by
        unfold Supervisor.rule
        split_ifs with hBlocked hForced hRewrite hConflict
        · exact ⟨_, rfl⟩
        · exact ⟨_, rfl⟩
        · cases hRewrite
        · exact ⟨_, rfl⟩
        · exact ⟨_, rfl⟩
      obtain ⟨ruling, hRule⟩ := hRule
      exact ⟨_, decide_ok_iff.2 ⟨risk, ruling, hRisk, hRule, rfl⟩⟩
  unfold rule
  simp only [exists_bind_ok, hDecide, exists_and_right]

/-- A record gets a verdict when the analyzer and the checker, where they are asked, do not
raise on its trace and the other parts answer. -/
theorem verdict_isSome (h : AsyncChannel2) (records : List ShieldActionRecord)
    (q : ShieldActionRecord) :
    (∃ v, h.verdict (h.tracesAfter records) q = some v) ↔
      (h.evaluator.cfg.traced q = true → ∃ violations,
        h.evaluator.analyzer (h.evaluator.cfg.events (records ++ [q]) q.runId) =
          .ok violations) ∧
      (h.evaluator.cfg.runHallucination = true → ∃ finding,
        h.evaluator.hallucination q (h.evaluator.cfg.events (records ++ [q]) q.runId) =
          .ok finding) ∧
      h.Answers q := by
  have hSome : ∀ x : Except PyError GovernanceVerdict,
      (∃ v, x.toOption = some v) ↔ ∃ v, x = .ok v := by
    intro x
    cases x <;> simp [Except.toOption]
  rw [verdict_tracesAfter, hSome, exists_bind_ok]
  simp only [rule_isOk, exists_and_right, assess_isOk]
  constructor
  · intro hOk
    obtain ⟨⟨hAnalyzer, hChecker, hDrift⟩, hKey, hWeighted⟩ := hOk
    exact ⟨hAnalyzer, hChecker, hDrift, hKey, hWeighted⟩
  · intro hOk
    obtain ⟨hAnalyzer, hChecker, hAnswers⟩ := hOk
    exact ⟨⟨hAnalyzer, hChecker, hAnswers.drift⟩, hAnswers.key, hAnswers.weighted⟩

theorem verdict_of_not_answers {q : ShieldActionRecord} (hAnswers : ¬ h.Answers q)
    (records : List ShieldActionRecord) : h.verdict (h.tracesAfter records) q = none := by
  by_contra hSome
  have hVerdict := (verdict_isSome h records q).1 (Option.ne_none_iff_exists'.1 hSome)
  exact hAnswers hVerdict.2.2

/-- The verdict of a record whose trace is not read does not depend on it. -/
theorem verdict_of_not_reads {q : ShieldActionRecord}
    (hReads : h.evaluator.cfg.readsTrace q = false) (records more : List ShieldActionRecord) :
    h.verdict (h.tracesAfter records) q = h.verdict (h.tracesAfter more) q := by
  unfold EvaluatorConfig.readsTrace at hReads
  simp only [Bool.or_eq_false_iff] at hReads
  have hAssess : ∀ trace trace', h.evaluator.assess q trace = h.evaluator.assess q trace' := by
    intro trace trace'
    simp [Evaluator.assess, Evaluator.violations, Evaluator.finding, hReads.1, hReads.2]
  rw [verdict_tracesAfter, verdict_tracesAfter, hAssess]

theorem verdict_of_sameTrace {q : ShieldActionRecord} {records more : List ShieldActionRecord}
    (hTraces : h.evaluator.cfg.events more q.runId = h.evaluator.cfg.events records q.runId) :
    h.verdict (h.tracesAfter more) q = h.verdict (h.tracesAfter records) q := by
  rw [verdict_tracesAfter, verdict_tracesAfter, events_append, events_append, hTraces]

/-- A redelivery of a record leaves the verdicts of the other runs as they are. -/
theorem verdict_otherRun {r q : ShieldActionRecord} (hRun : r.runId ≠ q.runId)
    (before rest : List ShieldActionRecord) :
    h.verdict (h.tracesAfter (before ++ r :: rest)) q =
      h.verdict (h.tracesAfter (before ++ rest)) q :=
  verdict_of_sameTrace ((events_redelivered r before rest).2 fun hBoth => hRun hBoth.2)

/-! ## Redelivery -/

/-- An analyzer that finds nothing in one trace and raises on every other. -/
def analyzerOf (trace : List Json) : StructuringAnalyzer := fun given =>
  if given = trace then .ok [] else .error .valueError

/-- A checker that does the same. -/
def checkerOf (trace : List Json) : HallucinationChecker := fun _ given =>
  if given = trace then .ok none else .error .valueError

theorem analyzerOf_isOk (trace given : List Json) :
    (∃ violations, analyzerOf trace given = .ok violations) ↔ given = trace := by
  unfold analyzerOf
  by_cases hGiven : given = trace <;> simp [hGiven]

theorem checkerOf_isOk (trace : List Json) (q : ShieldActionRecord) (given : List Json) :
    (∃ finding, checkerOf trace q given = .ok finding) ↔ given = trace := by
  unfold checkerOf
  by_cases hGiven : given = trace <;> simp [hGiven]

/-- The verdict of a record after two histories, whatever the analyzer and the checker do
with a trace. -/
theorem verdict_indifferent (h : AsyncChannel2) (q : ShieldActionRecord)
    (records more : List ShieldActionRecord) :
    (∀ analyzer hallucination,
      (h.withAnalysis analyzer hallucination).verdict
          ((h.withAnalysis analyzer hallucination).tracesAfter more) q =
        (h.withAnalysis analyzer hallucination).verdict
          ((h.withAnalysis analyzer hallucination).tracesAfter records) q) ↔
      (h.evaluator.cfg.events more q.runId ≠ h.evaluator.cfg.events records q.runId →
        h.evaluator.cfg.readsTrace q = true → ¬ h.Answers q) := by
  constructor
  · intro hAll hTraces hReads hAnswers
    let trace := h.evaluator.cfg.events (records ++ [q]) q.runId
    have hOther : h.evaluator.cfg.events (more ++ [q]) q.runId ≠ trace := by
      intro hSame
      rw [events_append] at hSame
      exact hTraces (List.append_cancel_right (hSame.trans (events_append records [q])))
    let picky := h.withAnalysis (analyzerOf trace) (checkerOf trace)
    have hSome : ∃ v, picky.verdict (picky.tracesAfter records) q = some v :=
      (verdict_isSome picky records q).2
        ⟨fun _ => (analyzerOf_isOk trace _).2 rfl, fun _ => (checkerOf_isOk trace q _).2 rfl,
          hAnswers.drift, hAnswers.key, hAnswers.weighted⟩
    have hMore : ∃ v, picky.verdict (picky.tracesAfter more) q = some v := by
      rw [hAll]
      exact hSome
    obtain ⟨hAnalyzed, hChecked, -⟩ := (verdict_isSome picky more q).1 hMore
    rcases (Bool.or_eq_true _ _).mp hReads with hTraced | hRun
    · exact hOther ((analyzerOf_isOk trace _).1 (hAnalyzed hTraced))
    · exact hOther ((checkerOf_isOk trace q _).1 (hChecked hRun))
  · intro hQuiet analyzer hallucination
    by_cases hTraces : h.evaluator.cfg.events more q.runId =
        h.evaluator.cfg.events records q.runId
    · exact verdict_of_sameTrace hTraces
    by_cases hReads : h.evaluator.cfg.readsTrace q = true
    · have hNot : ¬ (h.withAnalysis analyzer hallucination).Answers q :=
        fun hAnswers => hQuiet hTraces hReads ⟨hAnswers.drift, hAnswers.key, hAnswers.weighted⟩
      rw [verdict_of_not_answers hNot, verdict_of_not_answers hNot]
    · have hSkips : (h.withAnalysis analyzer hallucination).evaluator.cfg.readsTrace q = false :=
        Bool.eq_false_iff.2 hReads
      exact verdict_of_not_reads hSkips more records

end AsyncChannel2

/-- A redelivery compares, for `r` and each later record of its run, the histories with and
without one delivery of `r` in front. -/
theorem redeliveryIdempotent_iff (h : AsyncChannel2) (before : List ShieldActionRecord)
    (r : ShieldActionRecord) (after : List ShieldActionRecord) :
    RedeliveryIdempotent h before r after ↔
      ∀ rest q more, r :: after = rest ++ q :: more → q.runId = r.runId →
        h.verdict (h.tracesAfter (before ++ r :: rest)) q =
          h.verdict (h.tracesAfter (before ++ rest)) q := by
  constructor
  · intro hIdempotent rest q more hSplit hRun
    cases rest with
    | nil =>
        obtain ⟨rfl, -⟩ := List.cons.inj hSplit
        simpa using hIdempotent.again
    | cons first done =>
        obtain ⟨rfl, hAfter⟩ := List.cons.inj hSplit
        exact hIdempotent.later done q more hAfter hRun
  · intro hAll
    have hAgain := hAll [] r after rfl rfl
    refine ⟨by simpa using hAgain, fun done q rest hAfter hRun => ?_⟩
    exact hAll (r :: done) q rest (by rw [hAfter]; rfl) hRun

/-- **Redelivery.**  Whatever the analyzer and the checker do with a trace, a redelivered
record changes no verdict exactly when it has no entry in the trace, or none of the verdicts
of its run that follow from the trace comes about. -/
theorem redelivery_idempotent_iff (h : AsyncChannel2) (before : List ShieldActionRecord)
    (r : ShieldActionRecord) (after : List ShieldActionRecord) :
    (∀ analyzer hallucination,
      RedeliveryIdempotent (h.withAnalysis analyzer hallucination) before r after) ↔
      (h.evaluator.cfg.traced r = true → ∀ q ∈ r :: after, q.runId = r.runId →
        h.evaluator.cfg.readsTrace q = true → ¬ h.Answers q) := by
  simp only [redeliveryIdempotent_iff]
  constructor
  · intro hAll hTraced q hMem hRun
    obtain ⟨rest, more, hSplit⟩ := List.append_of_mem hMem
    have hQuiet := (AsyncChannel2.verdict_indifferent h q (before ++ rest)
      (before ++ r :: rest)).1 fun analyzer hallucination =>
        hAll analyzer hallucination rest q more hSplit hRun
    have hTraces : h.evaluator.cfg.events (before ++ r :: rest) q.runId ≠
        h.evaluator.cfg.events (before ++ rest) q.runId :=
      fun hSame => (events_redelivered r before rest).1 hSame ⟨hTraced, hRun.symm⟩
    exact hQuiet hTraces
  · intro hCond analyzer hallucination rest q more hSplit hRun
    have hMem : q ∈ r :: after := by
      rw [hSplit]
      simp
    refine (AsyncChannel2.verdict_indifferent h q (before ++ rest) (before ++ r :: rest)).2
      (fun hTraces => ?_) analyzer hallucination
    have hTraced : h.evaluator.cfg.traced r = true := by
      by_contra hNot
      exact hTraces ((events_redelivered r before rest).2 fun hBoth => hNot hBoth.1)
    exact hCond hTraced q hMem hRun

/-! ## A redelivered transfer -/

namespace Sample

def isTransfer : Json → Bool
  | .obj [_, _, (_, .arr [.obj [_, _, (_, .obj [(_, .str name), _])]])] => name == "send_money"
  | _ => false

/-- An analyzer that counts the transfers of a trace and allows two. -/
def countTransfers : StructuringAnalyzer := fun trace =>
  if 3 ≤ trace.countP isTransfer then
    .ok [{ label := "invariant.policy", detail := "structuring: >=3 transfers to one recipient" }]
  else .ok []

def asyncHandler : AsyncChannel2 where
  evaluator := { analyzer := countTransfers }
  audit _ _ := {}
  supervisor := defaultSupervisor
  keyResolver _ := .ok none
  verdictId rec := rec.recordId ++ "-late"

/-- An executed transfer of the run. -/
def transfer (recordId : String) : ShieldActionRecord :=
  { action recordId recordId .postExec 1000 genesisChainHash "ph" with
    payload := { toolName := some "send_money" } }

end Sample

/-- **A redelivered transfer counts twice.**  The run has two transfers.  The second is
passed, and blocked when it is delivered again. -/
theorem redelivered_transfer_counted_twice :
    (Sample.asyncHandler.verdict (Sample.asyncHandler.tracesAfter [Sample.transfer "first"])
      (Sample.transfer "second")).map (·.decision) = some .pass ∧
    (Sample.asyncHandler.verdict
      (Sample.asyncHandler.tracesAfter [Sample.transfer "first", Sample.transfer "second"])
      (Sample.transfer "second")).map (·.decision) = some .block ∧
    ¬ ∀ (h : AsyncChannel2) (before : List ShieldActionRecord) (r : ShieldActionRecord)
      (after : List ShieldActionRecord), RedeliveryIdempotent h before r after := by
  have hOnce : (Sample.asyncHandler.verdict
      (Sample.asyncHandler.tracesAfter [Sample.transfer "first"])
      (Sample.transfer "second")).map (·.decision) = some .pass := by decide +kernel
  have hTwice : (Sample.asyncHandler.verdict
      (Sample.asyncHandler.tracesAfter [Sample.transfer "first", Sample.transfer "second"])
      (Sample.transfer "second")).map (·.decision) = some .block := by decide +kernel
  refine ⟨hOnce, hTwice, fun hAll => ?_⟩
  have hAgain := (hAll Sample.asyncHandler [Sample.transfer "first"] (Sample.transfer "second")
    []).again
  have hSame := congrArg (Option.map (·.decision)) hAgain
  rw [hOnce] at hSame
  exact absurd (hTwice.symm.trans hSame) (by decide)

end AgentShield.Server
