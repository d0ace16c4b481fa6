import AgentShield.Governance.Engine

/-!
# The supervisor

The supervisor aggregates the guardians' signals into the final verdict: the hard
overrides first, then an arbiter where the Defender and the Evaluator disagree,
else the more severe of the Defender's decision and the risk band.  On the
synchronous path only the Defender has signals (`signalsFromDefender`).

The weights, the thresholds and the risk are exact numbers.
-/

namespace AgentShield.Governance

open AgentShield.Lib AgentShield.Sdk

/-- The weights of the guardians and the thresholds of the risk.  The default weights add up
to one. -/
structure SupervisorPolicy where
  wDefender : Rat := 7 / 20
  wEvaluator : Rat := 7 / 20
  wAuditor : Rat := 1 / 5
  wBaseline : Rat := 1 / 10
  tAlert : Rat := 1 / 10
  tEscalate : Rat := 3 / 10
  tBlock : Rat := 3 / 5
  deriving DecidableEq

/-- What the guardians report to the Supervisor.  The defaults are those of a guardian that
has not run: no anomaly, full integrity and nothing blocked. -/
structure GuardianSignals where
  defenderDecision : Decision := .pass
  defenderReasons : List VerdictReason := []
  evaluatorAnomaly : Rat := 0
  evaluatorReasons : List VerdictReason := []
  auditorIntegrity : Rat := 1
  auditorReasons : List VerdictReason := []
  baseline : Rat := 0
  evaluatorRan : Bool := false
  structuringOrExfil : Bool := false
  chainBroken : Bool := false
  postExec : Bool := false
  preventedLoss : Option PyFloat := none

/-- All reasons, in the order of the guardians. -/
def GuardianSignals.allReasons (s : GuardianSignals) : List VerdictReason :=
  s.defenderReasons ++ s.evaluatorReasons ++ s.auditorReasons

structure ArbitrationResult where
  decision : Decision
  reason : Option VerdictReason := none

/-- What resolves a conflict between the Defender and the Evaluator. -/
abbrev Arbiter := GuardianSignals → ShieldActionRecord → ArbitrationResult

/-- The Supervisor: its policy and the arbiter that it asks in a conflict. -/
structure Supervisor where
  policy : SupervisorPolicy
  arbiter : Arbiter

/-- The supervisor's severity table.  `REWRITE` is not in it: `Supervisor.rule` raises
where it is looked up. -/
def supervisorSeverity : Decision → Nat
  | .pass => 0
  | .alert => 1
  | .escalate => 2
  | .rollback => 3
  | .block => 4
  | .rewrite => 0

/-- `max((d, d'), key=severity)`. -/
def moreSevere (d d' : Decision) : Decision :=
  if supervisorSeverity d < supervisorSeverity d' then d' else d

/-- `risk_to_decision`: the thresholds that the risk reaches. -/
def riskToDecision (risk : Rat) (p : SupervisorPolicy) : Decision :=
  if risk < p.tAlert then .pass
  else if risk < p.tEscalate then .alert
  else if risk < p.tBlock then .escalate
  else .block

/-- The arbiter that takes the more severe side. -/
def conservativeArbiter : Arbiter := fun s _ =>
  { decision := moreSevere s.defenderDecision (riskToDecision s.evaluatorAnomaly {}) }

/-- The Defender has blocked the action or rolled it back. -/
def defenderBlocked (s : GuardianSignals) : Bool :=
  s.defenderDecision == .block || s.defenderDecision == .rollback

/-- Defender and evaluator are on two sides of the line between letting pass and stopping. -/
def isConflict (s : GuardianSignals) (p : SupervisorPolicy) : Bool :=
  s.evaluatorRan &&
    (supervisorSeverity s.defenderDecision ≤ supervisorSeverity .alert : Bool) !=
      (supervisorSeverity (riskToDecision s.evaluatorAnomaly p) ≤ supervisorSeverity .alert : Bool)

/-- One minus the weighted average of what the guardians let pass, clamped to the unit
interval.  Weights that add up to nothing raise. -/
def aggregateRisk (p : SupervisorPolicy) (s : GuardianSignals) : Except PyError Rat :=
  let defenderPass : Rat := if defenderBlocked s then 0 else 1
  let weights := p.wDefender + p.wEvaluator + p.wAuditor + p.wBaseline
  if weights = 0 then .error .zeroDivisionError
  else
    let wavg := (defenderPass * p.wDefender + (1 - s.evaluatorAnomaly) * p.wEvaluator +
      s.auditorIntegrity * p.wAuditor + (1 - s.baseline) * p.wBaseline) / weights
    .ok (max 0 (min 1 (1 - wavg)))

/-- The decision with the reasons, and what it obliges to: a human's look, or a rollback. -/
structure Ruling where
  decision : Decision
  reasons : List VerdictReason
  escalate : Bool := false
  rollback : Bool := false

/-- The rules in turn: a block of the Defender first, then structuring, a broken chain, a
conflict, and last the risk. -/
def Supervisor.rule (sup : Supervisor) (s : GuardianSignals) (record : ShieldActionRecord)
    (risk : Rat) : Except PyError Ruling :=
  if defenderBlocked s then
    .ok { decision := .block, reasons := s.allReasons, rollback := s.postExec }
  else if s.chainBroken || s.structuringOrExfil then
    .ok { decision := .block, reasons := s.allReasons, escalate := true }
  else if s.defenderDecision = .rewrite then .error .keyError
  else if isConflict s sup.policy then
    let arbitrated := sup.arbiter s record
    let reason := arbitrated.reason.getD
      { agent := some .supervisor
        label := "supervisor.arbitrated"
        detail := some "Defender<->Evaluator conflict resolved by arbitrate()"
        score := some (.finite risk) }
    .ok { decision := arbitrated.decision
          reasons := s.allReasons ++ [reason]
          rollback := arbitrated.decision == .block && s.postExec }
  else
    let decision := moreSevere s.defenderDecision (riskToDecision risk sup.policy)
    .ok { decision := decision
          reasons := s.allReasons
          rollback := (decision == .block || decision == .rollback) && s.postExec }

/-- The verdict of a ruling.  A ruling for a rollback becomes one only after the execution,
and a verdict without reasons is given one by the supervisor. -/
def Ruling.verdict (ruling : Ruling) (verdictId : String) (s : GuardianSignals)
    (record : ShieldActionRecord) (risk : Rat) : GovernanceVerdict :=
  let escalate := ruling.escalate || ruling.decision == .escalate
  let decision :=
    if ruling.rollback then (if s.postExec then .rollback else ruling.decision)
    else ruling.decision
  { verdictId := verdictId
    recordId := some record.recordId
    correlationId := record.correlationId
    runId := some record.runId
    decision := decision
    riskScore := .finite risk
    reasons :=
      if ruling.reasons = [] then
        [{ agent := some .supervisor
           label := "supervisor.clean"
           detail := none
           score := some (.finite risk) }]
      else ruling.reasons
    obligations :=
      { requireHuman := if escalate then some true else none
        rollback :=
          if ruling.rollback then
            some
              { langgraphCheckpointId := record.context.checkpointId
                envSnapshotRef := record.context.envSnapshotRef }
          else none
        preventedLoss :=
          if decision = .block ∨ decision = .rollback then s.preventedLoss else none } }

/-- `decide`: the risk of the signals and the ruling on it, as a verdict. -/
def Supervisor.decide (sup : Supervisor) (verdictId : String) (s : GuardianSignals)
    (record : ShieldActionRecord) : Except PyError GovernanceVerdict := do
  let risk ← aggregateRisk sup.policy s
  let ruling ← sup.rule s record risk
  return ruling.verdict verdictId s record risk

def structuringPrefixes : List String :=
  ["cumulative.structuring", "invariant.", "subject.secret"]

/-- The signals of a decision made by the Defender alone. -/
def signalsFromDefender (verdict : GovernanceVerdict) (phase : Phase) : GuardianSignals where
  defenderDecision := verdict.decision
  defenderReasons := verdict.reasons
  structuringOrExfil := verdict.reasons.any fun r =>
    structuringPrefixes.any fun p => p.toList.isPrefixOf r.label.toList
  postExec := phase == .postExec
  preventedLoss := verdict.obligations.preventedLoss

/-! ## What the supervisor makes of a Defender verdict -/

/-- The supervisor lets a call pass that no guardian has anything against: its
weights do not cancel out, and the band of no risk allows the call. -/
structure PassesClean (p : SupervisorPolicy) : Prop where
  weighted : p.wDefender + p.wEvaluator + p.wAuditor + p.wBaseline ≠ 0
  allows : Allows (riskToDecision 0 p)

instance (p : SupervisorPolicy) : Decidable (PassesClean p) :=
  decidable_of_iff (p.wDefender + p.wEvaluator + p.wAuditor + p.wBaseline ≠ 0 ∧
    Allows (riskToDecision 0 p)) ⟨fun h => ⟨h.1, h.2⟩, fun h => ⟨h.weighted, h.allows⟩⟩

/-- The more severe of two decisions is at least as severe as both. -/
theorem supervisorSeverity_moreSevere (d d' : Decision) :
    supervisorSeverity d ≤ supervisorSeverity (moreSevere d d') ∧
      supervisorSeverity d' ≤ supervisorSeverity (moreSevere d d') := by
  unfold moreSevere
  split
  · rename_i h
    exact ⟨h.le, le_rfl⟩
  · rename_i h
    exact ⟨le_rfl, not_lt.1 h⟩

theorem allows_iff_severity {d : Decision} (h : d ≠ .rewrite) :
    Allows d ↔ supervisorSeverity d ≤ 1 := by
  cases d <;> simp_all [Allows, supervisorSeverity]

/-- A label with one of the structuring prefixes is never that of a pass. -/
theorem structuring_of_pass {label : String} (h : decisionFor label = .pass) :
    (structuringPrefixes.any fun p => p.toList.isPrefixOf label.toList) = false := by
  have hMem : label ∈ passLabels := by
    unfold decisionFor at h
    split at h
    · assumption
    · split at h
      · cases h
      · split at h <;> cases h
  have hAll : ∀ label ∈ passLabels,
      (structuringPrefixes.any fun p => p.toList.isPrefixOf label.toList) = false := by
    decide +kernel
  exact hAll label hMem

/-! ### What `decide` returns -/

section Decide

variable {sup : Supervisor} {verdictId : String} {s : GuardianSignals}
  {record : ShieldActionRecord} {v : GovernanceVerdict} {risk : Rat} {ruling : Ruling}

/-- A verdict is decided exactly when there is a risk and a ruling on it, and it is the
ruling's. -/
theorem decide_ok_iff : sup.decide verdictId s record = .ok v ↔
    ∃ risk ruling, aggregateRisk sup.policy s = .ok risk ∧
      sup.rule s record risk = .ok ruling ∧ ruling.verdict verdictId s record risk = v := by
  unfold Supervisor.decide
  cases aggregateRisk sup.policy s with
  | error exc => simp [bind, Except.bind]
  | ok risk =>
      cases hRule : sup.rule s record risk with
      | error exc => simp [bind, Except.bind, hRule]
      | ok ruling => simp [bind, Except.bind, hRule, pure, Except.pure]

/-- A ruling rolls back only what has been executed, and only what it blocks. -/
theorem rule_rollback (h : sup.rule s record risk = .ok ruling)
    (hRollback : ruling.rollback = true) :
    s.postExec = true ∧ (ruling.decision = .block ∨ ruling.decision = .rollback) := by
  unfold Supervisor.rule at h
  split at h
  · obtain rfl := Except.ok.inj h
    exact ⟨hRollback, .inl rfl⟩
  · split at h
    · obtain rfl := Except.ok.inj h
      cases hRollback
    · split at h
      · cases h
      · split at h <;> obtain rfl := Except.ok.inj h
        · simp only [Bool.and_eq_true, beq_iff_eq] at hRollback
          exact ⟨hRollback.2, .inl hRollback.1⟩
        · simp only [Bool.and_eq_true, Bool.or_eq_true, beq_iff_eq] at hRollback
          exact ⟨hRollback.2, hRollback.1⟩

/-- A ruling that rolls back becomes a `ROLLBACK`. -/
theorem decision_verdict (h : sup.rule s record risk = .ok ruling) :
    (ruling.verdict verdictId s record risk).decision =
      if ruling.rollback then .rollback else ruling.decision := by
  unfold Ruling.verdict
  by_cases hRollback : ruling.rollback = true
  · simp [hRollback, (rule_rollback h hRollback).1]
  · simp [hRollback]

end Decide

/-- **The supervisor never lowers the Defender's decision** on the synchronous path, where
there are no other signals: what it allows the Defender has allowed. -/
theorem allows_of_decide {sup : Supervisor} {verdictId : String} {v final : GovernanceVerdict}
    {record : ShieldActionRecord} {phase : Phase} (hRewrite : v.decision ≠ .rewrite)
    (h : sup.decide verdictId (signalsFromDefender v phase) record = .ok final)
    (hAllows : Allows final.decision) : Allows v.decision := by
  obtain ⟨risk, ruling, -, hRule, rfl⟩ := decide_ok_iff.1 h
  by_contra hNot
  have hSevere : 2 ≤ supervisorSeverity v.decision := by
    rw [allows_iff_severity hRewrite] at hNot
    omega
  have hConflict : isConflict (signalsFromDefender v phase) sup.policy = false := rfl
  have hDefender : (signalsFromDefender v phase).defenderDecision ≠ .rewrite := hRewrite
  -- whatever branch is taken, the ruling is at least as severe
  have hRuling : 2 ≤ supervisorSeverity ruling.decision := by
    unfold Supervisor.rule at hRule
    rw [hConflict, if_neg hDefender] at hRule
    split at hRule
    · obtain rfl := Except.ok.inj hRule
      exact (by decide : 2 ≤ supervisorSeverity .block)
    · split at hRule
      · obtain rfl := Except.ok.inj hRule
        exact (by decide : 2 ≤ supervisorSeverity .block)
      · obtain rfl := Except.ok.inj hRule
        exact hSevere.trans (supervisorSeverity_moreSevere _ _).1
  rw [decision_verdict hRule] at hAllows
  split at hAllows
  · revert hAllows
    decide
  · rcases hAllows with hd | hd <;> rw [hd] at hRuling <;> exact absurd hRuling (by decide)

/-- A verdict whose reasons are all passes stays allowed, under a policy for which clean
signals are no risk. -/
theorem decide_of_pass {sup : Supervisor} (hSup : PassesClean sup.policy) (verdictId : String)
    {v : GovernanceVerdict} (record : ShieldActionRecord) (phase : Phase)
    (hDecision : v.decision = .pass) (hReasons : ∀ r ∈ v.reasons, decisionFor r.label = .pass) :
    ∃ final, sup.decide verdictId (signalsFromDefender v phase) record = .ok final ∧
      Allows final.decision := by
  have hStructuring : (signalsFromDefender v phase).structuringOrExfil = false := by
    simp only [signalsFromDefender, List.any_eq_false]
    intro r hMem
    simp [structuring_of_pass (hReasons r hMem)]
  have hBlocked : defenderBlocked (signalsFromDefender v phase) = false := by
    simp [defenderBlocked, signalsFromDefender, hDecision]
  have hRisk : aggregateRisk sup.policy (signalsFromDefender v phase) = .ok 0 := by
    unfold aggregateRisk
    rw [hBlocked]
    simp [signalsFromDefender, hSup.weighted]
  have hConflict : isConflict (signalsFromDefender v phase) sup.policy = false := rfl
  have hChain : (signalsFromDefender v phase).chainBroken = false := rfl
  have hDefender : (signalsFromDefender v phase).defenderDecision = .pass := hDecision
  have hRule : ∃ d reasons, Allows d ∧ sup.rule (signalsFromDefender v phase) record 0 =
      .ok { decision := d, reasons := reasons } := by
    unfold Supervisor.rule
    rw [hBlocked, hStructuring, hConflict, hChain, hDefender]
    rcases hSup.allows with hBand | hBand
    · exact ⟨.pass, _, .inl rfl, by rw [hBand]; rfl⟩
    · exact ⟨.alert, _, .inr rfl, by rw [hBand]; rfl⟩
  obtain ⟨d, reasons, hAllows, hRule⟩ := hRule
  refine ⟨_, decide_ok_iff.2 ⟨_, _, hRisk, hRule, rfl⟩, ?_⟩
  rw [decision_verdict hRule]
  exact hAllows

end AgentShield.Governance
