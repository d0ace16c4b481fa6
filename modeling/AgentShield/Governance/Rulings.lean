import Mathlib.Tactic.Linarith
import Mathlib.Tactic.Ring
import AgentShield.Governance.Supervisor

/-!
# What the supervisor guarantees

Four properties of `Supervisor.decide`.  Three come with the exact condition under which
they hold: the duty of human review after a hard override, the rollback obligation of a
`ROLLBACK`, and monotonicity in the signals under the default policy.  The fourth always
holds under the default policy: no decision is milder than the Defender's or the risk band.
-/

namespace AgentShield.Governance

open AgentShield.Lib AgentShield.Sdk

section Rulings

variable {sup : Supervisor} {verdictId : String} {s : GuardianSignals}
  {record : ShieldActionRecord} {v : GovernanceVerdict} {risk : Rat} {ruling : Ruling}

/-! ## Hard overrides -/

def SupervisorPolicy.totalWeight (p : SupervisorPolicy) : Rat :=
  p.wDefender + p.wEvaluator + p.wAuditor + p.wBaseline

theorem aggregateRisk_isOk (p : SupervisorPolicy) (s : GuardianSignals) :
    (∃ risk, aggregateRisk p s = .ok risk) ↔ p.totalWeight ≠ 0 := by
  unfold aggregateRisk SupervisorPolicy.totalWeight
  dsimp only
  split
  · rename_i h
    simp [h]
  · rename_i h
    simp [h]

/-- `Supervisor()`. -/
def defaultSupervisor : Supervisor where
  policy := {}
  arbiter := conservativeArbiter

/-- The hard overrides that do not come from the Defender. -/
def overridden (s : GuardianSignals) : Bool := s.chainBroken || s.structuringOrExfil

/-- A hard override blocks.  Human review is required unless the Defender has blocked
already. -/
theorem rule_of_override (sup : Supervisor) (record : ShieldActionRecord) (risk : Rat)
    (h : overridden s = true) :
    ∃ ruling, sup.rule s record risk = .ok ruling ∧ ruling.decision = .block ∧
      ruling.escalate = !defenderBlocked s ∧
      ruling.rollback = (defenderBlocked s && s.postExec) := by
  unfold overridden at h
  unfold Supervisor.rule
  cases hBlocked : defenderBlocked s with
  | true => exact ⟨_, rfl, rfl, rfl, rfl⟩
  | false =>
      simp only [h, if_true]
      exact ⟨_, rfl, rfl, rfl, rfl⟩

/-- **Hard overrides.**  A broken chain or a structuring hit is blocked, and a human has to
look at it, unless the Defender has blocked already: its verdict is returned first, and asks
for nobody. -/
theorem hard_override_requires_human (sup : Supervisor) (verdictId : String)
    (s : GuardianSignals) (record : ShieldActionRecord)
    (hFlag : s.structuringOrExfil = true ∨ s.chainBroken = true) :
    (∃ v, sup.decide verdictId s record = .ok v ∧
        (v.decision = .block ∨ v.decision = .rollback) ∧
        v.obligations.requireHuman = some true) ↔
      s.defenderDecision ≠ .block ∧ s.defenderDecision ≠ .rollback ∧
        sup.policy.totalWeight ≠ 0 := by
  have hOverridden : overridden s = true := by
    unfold overridden
    rcases hFlag with h | h <;> simp [h]
  have hBlocked : defenderBlocked s = false ↔
      s.defenderDecision ≠ .block ∧ s.defenderDecision ≠ .rollback := by
    simp [defenderBlocked]
  rw [← and_assoc, ← hBlocked]
  constructor
  · rintro ⟨v, hDecide, -, hHuman⟩
    obtain ⟨risk, ruling, hRisk, hRule, rfl⟩ := decide_ok_iff.1 hDecide
    obtain ⟨ruling', hRule', hDecision, hEscalate, -⟩ :=
      rule_of_override sup record risk hOverridden
    obtain rfl := Except.ok.inj (hRule.symm.trans hRule')
    have hWeight := (aggregateRisk_isOk sup.policy s).1 ⟨risk, hRisk⟩
    refine ⟨?_, hWeight⟩
    cases hDefender : defenderBlocked s with
    | false => rfl
    | true => simp [Ruling.verdict, hDecision, hEscalate, hDefender] at hHuman
  · rintro ⟨hDefender, hWeight⟩
    obtain ⟨risk, hRisk⟩ := (aggregateRisk_isOk sup.policy s).2 hWeight
    obtain ⟨ruling, hRule, hDecision, hEscalate, hRollback⟩ :=
      rule_of_override sup record risk hOverridden
    refine ⟨_, decide_ok_iff.2 ⟨risk, ruling, hRisk, hRule, rfl⟩, ?_, ?_⟩
    · rw [decision_verdict hRule, hRollback, hDefender]
      exact .inl hDecision
    · simp [Ruling.verdict, hEscalate, hDefender]

namespace Sample

/-- The record that the rulings below are about. -/
def ruled : ShieldActionRecord := (transfer "1" "run-1" "US13" "rent" 100).2

/-- The Defender blocks what is also a structuring hit. -/
def blockedHit : GuardianSignals where
  defenderDecision := .block
  structuringOrExfil := true

end Sample

/-- Nobody has to look at a structuring hit that the Defender blocks. -/
theorem blocked_hit_without_review :
    Sample.blockedHit.structuringOrExfil = true ∧
    ∃ v, defaultSupervisor.decide "v" Sample.blockedHit Sample.ruled = .ok v ∧
      v.decision = .block ∧ v.obligations.requireHuman = none := by
  have hWeight : defaultSupervisor.policy.totalWeight ≠ 0 := by decide +kernel
  obtain ⟨risk, hRisk⟩ := (aggregateRisk_isOk _ Sample.blockedHit).2 hWeight
  exact ⟨rfl, _, decide_ok_iff.2 ⟨risk, _, hRisk, rfl, rfl⟩, rfl, rfl⟩

theorem hard_override_requires_human_sample :
    ∃ v, defaultSupervisor.decide "v" { chainBroken := true } Sample.ruled = .ok v ∧
      (v.decision = .block ∨ v.decision = .rollback) ∧ v.obligations.requireHuman = some true :=
  (hard_override_requires_human defaultSupervisor "v" { chainBroken := true } Sample.ruled
    (.inr rfl)).2 ⟨by decide, by decide, by decide +kernel⟩

/-! ## The rollback obligation -/

/-- A `ROLLBACK` comes with its obligation, no other decision does, and only what has
been executed is rolled back. -/
structure RollbackConsistent (s : GuardianSignals) (v : GovernanceVerdict) : Prop where
  obliged : v.decision = .rollback ↔ v.obligations.rollback.isSome = true
  executed : v.decision = .rollback → s.postExec = true

/-- The arbiter is asked. -/
def Supervisor.arbitrates (sup : Supervisor) (s : GuardianSignals) : Bool :=
  !defenderBlocked s && !overridden s && isConflict s sup.policy

theorem rollback_verdict :
    (ruling.verdict verdictId s record risk).obligations.rollback.isSome = ruling.rollback := by
  unfold Ruling.verdict
  cases ruling.rollback <;> rfl

/-- The one ruling that decides `ROLLBACK` of itself is the arbiter's, as neither the Defender
nor a band of the risk asks for it. -/
theorem rule_decides_rollback (h : sup.rule s record risk = .ok ruling) :
    (ruling.decision = .rollback ∧ ruling.rollback = false) ↔
      sup.arbitrates s = true ∧ (sup.arbiter s record).decision = .rollback := by
  have hBand : ∀ r, riskToDecision r sup.policy ≠ .rollback := by
    intro r
    unfold riskToDecision
    split_ifs <;> decide
  unfold Supervisor.rule at h
  unfold Supervisor.arbitrates overridden
  cases hBlocked : defenderBlocked s with
  | true =>
      rw [hBlocked, if_pos rfl] at h
      obtain rfl := Except.ok.inj h
      simp
  | false =>
      rw [hBlocked] at h
      cases hFlag : s.chainBroken || s.structuringOrExfil with
      | true =>
          rw [hFlag] at h
          obtain rfl := Except.ok.inj h
          simp
      | false =>
          rw [hFlag] at h
          cases hConflict : isConflict s sup.policy with
          | true =>
              rw [hConflict] at h
              simp only [Bool.false_eq_true, if_false, if_true] at h
              split at h
              · cases h
              · obtain rfl := Except.ok.inj h
                cases hArbiter : (sup.arbiter s record).decision <;> simp
          | false =>
              rw [hConflict] at h
              simp only [Bool.false_eq_true, if_false] at h
              split at h
              · cases h
              · obtain rfl := Except.ok.inj h
                -- neither the Defender nor the risk band decides `ROLLBACK` here
                have hDefender : s.defenderDecision ≠ .rollback := by
                  intro hRollback
                  simp [defenderBlocked, hRollback] at hBlocked
                have hNot : moreSevere s.defenderDecision (riskToDecision risk sup.policy) ≠
                    .rollback := by
                  unfold moreSevere
                  split
                  · exact hBand risk
                  · exact hDefender
                simp [hNot]

/-- **Rollback obligation.**  The decision and the obligations agree exactly when no arbiter
has asked for a rollback: its decision is kept as it is, before and after the execution, and
carries no obligation. -/
theorem rollback_obligation_consistent (sup : Supervisor) (verdictId : String)
    (s : GuardianSignals) (record : ShieldActionRecord) {v : GovernanceVerdict}
    (hDecide : sup.decide verdictId s record = .ok v) :
    RollbackConsistent s v ↔
      ¬ (sup.arbitrates s = true ∧ (sup.arbiter s record).decision = .rollback) := by
  obtain ⟨risk, ruling, -, hRule, rfl⟩ := decide_ok_iff.1 hDecide
  rw [← rule_decides_rollback hRule]
  have hDecision : (ruling.verdict verdictId s record risk).decision =
      if ruling.rollback then .rollback else ruling.decision := decision_verdict hRule
  have hObliged : (ruling.verdict verdictId s record risk).obligations.rollback.isSome =
      ruling.rollback := rollback_verdict
  cases hRollback : ruling.rollback with
  | true =>
      rw [hRollback] at hDecision hObliged
      have hExecuted := (rule_rollback hRule hRollback).1
      simp only [Bool.true_eq_false, and_false, not_false_eq_true, iff_true]
      exact ⟨by simp [hDecision, hObliged], fun _ => hExecuted⟩
  | false =>
      rw [hRollback] at hDecision hObliged
      simp only [and_true]
      constructor
      · intro h hRuling
        have hRolled : (ruling.verdict verdictId s record risk).decision = .rollback :=
          hDecision.trans hRuling
        have hSome := h.obliged.1 hRolled
        rw [hObliged] at hSome
        cases hSome
      · intro hNot
        have hKept : (ruling.verdict verdictId s record risk).decision ≠ .rollback := by
          rw [hDecision]
          exact hNot
        exact ⟨by simp [hKept, hObliged], fun hRolled => absurd hRolled hKept⟩

end Rulings

namespace Sample

/-- An arbiter that answers with one decision. -/
def arbitrating (d : Decision) : Supervisor where
  policy := {}
  arbiter _ _ := { decision := d }

/-- The Evaluator alone raises the alarm over an executed action. -/
def conflicting : GuardianSignals where
  evaluatorAnomaly := 19 / 20
  evaluatorRan := true
  postExec := true

end Sample

/-- The arbiter's `ROLLBACK` carries no obligation. -/
theorem arbitrated_rollback_without_obligation :
    ∃ v, (Sample.arbitrating .rollback).decide "v" Sample.conflicting Sample.ruled = .ok v ∧
      v.decision = .rollback ∧ v.obligations.rollback = none ∧
      ¬ RollbackConsistent Sample.conflicting v := by
  have hWeight : (Sample.arbitrating .rollback).policy.totalWeight ≠ 0 := by decide +kernel
  obtain ⟨risk, hRisk⟩ := (aggregateRisk_isOk _ Sample.conflicting).2 hWeight
  have hConflict : isConflict Sample.conflicting {} = true := by decide +kernel
  have hRule : (Sample.arbitrating .rollback).rule Sample.conflicting Sample.ruled risk =
      .ok { decision := .rollback
            reasons := [{ agent := some .supervisor
                          label := "supervisor.arbitrated"
                          detail := some "Defender<->Evaluator conflict resolved by arbitrate()"
                          score := some (.finite risk) }] } := by
    unfold Supervisor.rule
    rw [show (Sample.arbitrating .rollback).policy = {} from rfl, hConflict]
    rfl
  refine ⟨_, decide_ok_iff.2 ⟨risk, _, hRisk, hRule, rfl⟩, rfl, rfl, fun h => ?_⟩
  cases h.obliged.1 rfl

theorem rollback_obligation_consistent_sample :
    ∃ v, (Sample.arbitrating .block).decide "v" Sample.conflicting Sample.ruled = .ok v ∧
      RollbackConsistent Sample.conflicting v := by
  have hWeight : (Sample.arbitrating .block).policy.totalWeight ≠ 0 := by decide +kernel
  obtain ⟨risk, hRisk⟩ := (aggregateRisk_isOk _ Sample.conflicting).2 hWeight
  have hConflict : isConflict Sample.conflicting {} = true := by decide +kernel
  have hDecide : ∃ v,
      (Sample.arbitrating .block).decide "v" Sample.conflicting Sample.ruled = .ok v := by
    unfold Supervisor.decide Supervisor.rule
    rw [hRisk, show (Sample.arbitrating .block).policy = {} from rfl, hConflict]
    exact ⟨_, rfl⟩
  obtain ⟨v, hDecide⟩ := hDecide
  refine ⟨v, hDecide, (rollback_obligation_consistent _ "v" _ _ hDecide).2 fun h => ?_⟩
  cases h.2

/-! ## Monotonicity -/

/-- `PASS < ALERT < ESCALATE`, and `ROLLBACK` and `BLOCK` above them. -/
def rank (d : Decision) : Nat := min 3 (supervisorSeverity d)

/-- The signals of `s'` are those of `s` or worse, with scores between zero and one. -/
structure Worsens (s s' : GuardianSignals) : Prop where
  ordered : s.defenderDecision ∈ [.pass, .alert, .escalate, .block]
  ordered' : s'.defenderDecision ∈ [.pass, .alert, .escalate, .block]
  defender : rank s.defenderDecision ≤ rank s'.defenderDecision
  anomaly : 0 ≤ s.evaluatorAnomaly ∧ s.evaluatorAnomaly ≤ s'.evaluatorAnomaly ∧
    s'.evaluatorAnomaly ≤ 1
  integrity : 0 ≤ s'.auditorIntegrity ∧ s'.auditorIntegrity ≤ s.auditorIntegrity ∧
    s.auditorIntegrity ≤ 1
  baseline : 0 ≤ s.baseline ∧ s.baseline ≤ s'.baseline ∧ s'.baseline ≤ 1
  structuring : s.structuringOrExfil = true → s'.structuringOrExfil = true
  chain : s.chainBroken = true → s'.chainBroken = true
  ran : s.evaluatorRan = s'.evaluatorRan

/-- The aggregate risk when the Defender has not blocked. -/
def residualRisk (s : GuardianSignals) : Rat :=
  7 / 20 * s.evaluatorAnomaly + 1 / 5 * (1 - s.auditorIntegrity) + 1 / 10 * s.baseline

/-- The Evaluator's block stands alone in `s`.  In `s'` the Defender escalates as well, so
that nobody arbitrates, and the aggregate risk stays below a block. -/
structure AgreementIsMilder (s s' : GuardianSignals) : Prop where
  ran : s.evaluatorRan = true
  alone : rank s.defenderDecision ≤ 1
  anomaly : 3 / 5 ≤ s.evaluatorAnomaly
  joined : s'.defenderDecision = .escalate
  notOverridden : overridden s' = false
  residual : residualRisk s' < 3 / 5

/-- The rank of the risk band under the default policy. -/
def bandRank (risk : Rat) : Nat := rank (riskToDecision risk {})

/-- The rank of the final decision of the default supervisor. -/
def finalRank (s : GuardianSignals) : Nat :=
  if defenderBlocked s ∨ overridden s then 3
  else if s.evaluatorRan ∧
      ¬ (rank s.defenderDecision ≤ 1 ↔ bandRank s.evaluatorAnomaly ≤ 1) then
    max (rank s.defenderDecision) (bandRank s.evaluatorAnomaly)
  else max (rank s.defenderDecision) (bandRank (residualRisk s))

section Monotone

variable {s s' : GuardianSignals} {risk risk' : Rat}

theorem rank_moreSevere (d d' : Decision) : rank (moreSevere d d') = max (rank d) (rank d') := by
  unfold rank moreSevere
  split <;> omega

theorem rank_le_one (d : Decision) : rank d ≤ 1 ↔ supervisorSeverity d ≤ 1 := by
  unfold rank
  omega

theorem bandRank_eq (risk : Rat) : bandRank risk =
    if risk < 1 / 10 then 0 else if risk < 3 / 10 then 1 else if risk < 3 / 5 then 2 else 3 := by
  unfold bandRank riskToDecision
  split_ifs <;> rfl

theorem bandRank_mono (h : risk ≤ risk') : bandRank risk ≤ bandRank risk' := by
  rw [bandRank_eq, bandRank_eq]
  split_ifs <;> first | omega | linarith

theorem bandRank_eq_three (risk : Rat) : bandRank risk = 3 ↔ 3 / 5 ≤ risk := by
  rw [bandRank_eq]
  split_ifs with h₁ h₂ h₃
  · simp only [false_iff, not_le]
    linarith
  · simp only [OfNat.one_ne_ofNat, false_iff, not_le]
    linarith
  · simp [h₃]
  · simpa using h₃

theorem bandRank_le_three (risk : Rat) : bandRank risk ≤ 3 := by
  rw [bandRank_eq]
  split_ifs <;> omega

theorem bandRank_le_one (risk : Rat) : bandRank risk ≤ 1 ↔ risk < 3 / 10 := by
  rw [bandRank_eq]
  split_ifs with h₁ h₂ h₃
  · simp only [zero_le, true_iff]
    linarith
  · simp [h₂]
  · simp [h₂]
  · simp [h₂]

/-- The scores lie between zero and one. -/
structure InRange (s : GuardianSignals) : Prop where
  anomaly : 0 ≤ s.evaluatorAnomaly ∧ s.evaluatorAnomaly ≤ 1
  integrity : 0 ≤ s.auditorIntegrity ∧ s.auditorIntegrity ≤ 1
  baseline : 0 ≤ s.baseline ∧ s.baseline ≤ 1

theorem Worsens.inRange (h : Worsens s s') : InRange s ∧ InRange s' :=
  ⟨⟨⟨h.anomaly.1, h.anomaly.2.1.trans h.anomaly.2.2⟩,
    ⟨h.integrity.1.trans h.integrity.2.1, h.integrity.2.2⟩,
    ⟨h.baseline.1, h.baseline.2.1.trans h.baseline.2.2⟩⟩,
   ⟨⟨h.anomaly.1.trans h.anomaly.2.1, h.anomaly.2.2⟩,
    ⟨h.integrity.1, h.integrity.2.1.trans h.integrity.2.2⟩,
    ⟨h.baseline.1.trans h.baseline.2.1, h.baseline.2.2⟩⟩⟩

theorem Worsens.residualRisk_le (h : Worsens s s') : residualRisk s ≤ residualRisk s' := by
  have hAnomaly := h.anomaly.2.1
  have hIntegrity := h.integrity.2.1
  have hBaseline := h.baseline.2.1
  unfold residualRisk
  linarith

theorem aggregateRisk_default (h : InRange s) (hBlocked : defenderBlocked s = false) :
    aggregateRisk {} s = .ok (residualRisk s) := by
  obtain ⟨⟨hA, hA'⟩, ⟨hI, hI'⟩, ⟨hB, hB'⟩⟩ := h
  have hLow : 0 ≤ residualRisk s := by
    unfold residualRisk
    linarith
  have hHigh : residualRisk s ≤ 1 := by
    unfold residualRisk
    linarith
  have hAverage : 1 - (1 * (7 / 20) + (1 - s.evaluatorAnomaly) * (7 / 20) +
      s.auditorIntegrity * (1 / 5) + (1 - s.baseline) * (1 / 10)) /
        (7 / 20 + 7 / 20 + 1 / 5 + 1 / 10) = residualRisk s := by
    unfold residualRisk
    ring
  have hWeight : ¬ (7 / 20 + 7 / 20 + 1 / 5 + 1 / 10 : Rat) = 0 := by norm_num
  unfold aggregateRisk
  simp only [hBlocked, Bool.false_eq_true, if_false]
  rw [if_neg hWeight, hAverage, min_eq_right hHigh, max_eq_right hLow]

theorem isConflict_iff : isConflict s {} = true ↔ s.evaluatorRan = true ∧
    ¬ (rank s.defenderDecision ≤ 1 ↔ bandRank s.evaluatorAnomaly ≤ 1) := by
  unfold isConflict bandRank
  rw [rank_le_one, rank_le_one]
  have hAlert : supervisorSeverity .alert = 1 := rfl
  rw [hAlert, Bool.and_eq_true, bne_iff_ne, ne_eq, decide_eq_decide]

/-- The ruling of the default supervisor has `finalRank`, which the comparison of two states
then works with instead of the branches of the rule. -/
theorem rank_rule (hRewrite : s.defenderDecision ≠ .rewrite)
    (hRisk : defenderBlocked s = false → risk = residualRisk s) (record : ShieldActionRecord) :
    ∃ ruling, defaultSupervisor.rule s record risk = .ok ruling ∧
      rank ruling.decision = finalRank s := by
  have hBlock : rank .block = 3 := rfl
  unfold finalRank
  cases hBlocked : defenderBlocked s with
  | true =>
      unfold Supervisor.rule
      rw [hBlocked]
      exact ⟨_, rfl, by simp [hBlock]⟩
  | false =>
      obtain rfl := hRisk hBlocked
      cases hOverridden : overridden s with
      | true =>
          obtain ⟨ruling, hRule, hDecision, -, -⟩ := rule_of_override
            defaultSupervisor record (residualRisk s) hOverridden
          exact ⟨ruling, hRule, by simp [hDecision, hBlock]⟩
      | false =>
          unfold overridden at hOverridden
          unfold Supervisor.rule
          rw [hBlocked, hOverridden]
          simp only [Bool.false_eq_true, if_false, if_neg hRewrite, false_or]
          have hPolicy : defaultSupervisor.policy = {} := rfl
          rw [hPolicy]
          by_cases hConflict : isConflict s {} = true
          · rw [if_pos hConflict, if_pos (isConflict_iff.1 hConflict)]
            exact ⟨_, rfl, rank_moreSevere _ _⟩
          · rw [if_neg hConflict, if_neg (mt isConflict_iff.2 hConflict)]
            exact ⟨_, rfl, rank_moreSevere _ _⟩

/-- The default supervisor decides with `finalRank`. -/
theorem rank_decide (h : InRange s) (hRewrite : s.defenderDecision ≠ .rewrite)
    (verdictId : String) (record : ShieldActionRecord) :
    ∃ v, defaultSupervisor.decide verdictId s record = .ok v ∧ rank v.decision = finalRank s := by
  have hWeight : defaultSupervisor.policy.totalWeight ≠ 0 := by
    unfold SupervisorPolicy.totalWeight defaultSupervisor
    norm_num
  obtain ⟨risk, hRisk⟩ := (aggregateRisk_isOk defaultSupervisor.policy s).2 hWeight
  have hResidual : defenderBlocked s = false → risk = residualRisk s := by
    intro hBlocked
    exact Except.ok.inj (hRisk.symm.trans (aggregateRisk_default h hBlocked))
  obtain ⟨ruling, hRule, hRank⟩ := rank_rule hRewrite hResidual record
  refine ⟨_, decide_ok_iff.2 ⟨risk, ruling, hRisk, hRule, rfl⟩, ?_⟩
  rw [decision_verdict hRule, ← hRank]
  cases hRollback : ruling.rollback with
  | false => rfl
  | true =>
      -- what is rolled back ranks like what is blocked
      rcases (rule_rollback hRule hRollback).2 with hd | hd <;> rw [hd] <;> rfl

theorem finalRank_le_three (s : GuardianSignals) : finalRank s ≤ 3 := by
  have hDefender : rank s.defenderDecision ≤ 3 := Nat.min_le_left _ _
  have hAnomaly := bandRank_le_three s.evaluatorAnomaly
  have hRisk := bandRank_le_three (residualRisk s)
  unfold finalRank
  split_ifs <;> omega

/-- A decision of the Defender that does not block ranks below a block. -/
theorem rank_le_two {s : GuardianSignals}
    (h : s.defenderDecision ∈ [Decision.pass, .alert, .escalate, .block]) :
    (rank s.defenderDecision ≤ 2 ↔ defenderBlocked s = false) ∧
      (rank s.defenderDecision = 2 ↔ s.defenderDecision = .escalate) := by
  unfold defenderBlocked
  revert h
  cases s.defenderDecision <;> decide

/-- A small anomaly and a Defender that has not blocked leave the risk below a block. -/
theorem bandRank_residual (h : InRange s) (hAnomaly : bandRank s.evaluatorAnomaly ≤ 1) :
    bandRank (residualRisk s) ≤ 2 := by
  rw [bandRank_le_one] at hAnomaly
  have hIntegrity := h.integrity.1
  have hBaseline := h.baseline.2
  have hLow : ¬ 3 / 5 ≤ residualRisk s := by
    unfold residualRisk
    intro hHigh
    linarith
  have hNot := mt (bandRank_eq_three (residualRisk s)).1 hLow
  have hLe := bandRank_le_three (residualRisk s)
  omega

/-- How the two final ranks compare: by the blocks that nothing outranks, by the band of the
risk, and by the Evaluator that decides alone in one state and not in the other. -/
theorem finalRank_le_iff (h : Worsens s s') :
    finalRank s ≤ finalRank s' ↔ ¬ AgreementIsMilder s s' := by
  have hTwo := rank_le_two h.ordered
  have hTwo' := rank_le_two h.ordered'
  by_cases hBlocked' : defenderBlocked s' = true ∨ overridden s' = true
  · -- nothing is more severe than a block
    have hBlock : finalRank s' = 3 := if_pos hBlocked'
    rw [hBlock]
    refine ⟨fun _ hMilder => ?_, fun _ => finalRank_le_three s⟩
    rcases hBlocked' with hDefender | hOverridden
    · rw [defenderBlocked, hMilder.joined] at hDefender
      cases hDefender
    · rw [hMilder.notOverridden] at hOverridden
      cases hOverridden
  · obtain ⟨hDefender', hOverridden'⟩ := not_or.1 hBlocked'
    rw [Bool.not_eq_true] at hDefender' hOverridden'
    have hRank' := hTwo'.1.2 hDefender'
    have hRank : rank s.defenderDecision ≤ 2 := h.defender.trans hRank'
    have hDefender := hTwo.1.1 hRank
    have hOverridden : overridden s = false := by
      have hFlags := hOverridden'
      simp only [overridden, Bool.or_eq_false_iff] at hFlags ⊢
      exact ⟨by_contra fun hc => by simp [h.chain (by simpa using hc)] at hFlags,
        by_contra fun hc => by simp [h.structuring (by simpa using hc)] at hFlags⟩
    have hAnomaly := bandRank_mono h.anomaly.2.1
    have hRisk := bandRank_mono h.residualRisk_le
    have hSmall := bandRank_residual h.inRange.1
    have hAnomalyTop := bandRank_le_three s'.evaluatorAnomaly
    have hMilder : AgreementIsMilder s s' ↔ s.evaluatorRan = true ∧
        rank s.defenderDecision ≤ 1 ∧ bandRank s.evaluatorAnomaly = 3 ∧
        rank s'.defenderDecision = 2 ∧ ¬ bandRank (residualRisk s') = 3 := by
      rw [bandRank_eq_three, bandRank_eq_three, hTwo'.2, not_le]
      constructor
      · exact fun hM => ⟨hM.ran, hM.alone, hM.anomaly, hM.joined, hM.residual⟩
      · rintro ⟨hRan, hAlone, hA, hJoined, hR⟩
        exact ⟨hRan, hAlone, hA, hJoined, hOverridden', hR⟩
    have hResidualTop := bandRank_le_three (residualRisk s')
    rw [hMilder]
    unfold finalRank
    rw [hDefender, hOverridden, hDefender', hOverridden', ← h.ran]
    simp only [Bool.false_eq_true, or_self, if_false]
    have hOrder := h.defender
    cases s.evaluatorRan with
    | true =>
        simp only [true_and]
        split_ifs <;> omega
    | false =>
        simp only [Bool.false_eq_true, false_and, if_false, not_false_eq_true, iff_true]
        omega

/-- **Monotonicity.**  Worse signals lead to a decision at least as severe, unless the
Defender's escalation joins an Evaluator that would have blocked alone: agreement ends the
arbitration, and the milder average decides. -/
theorem supervisor_monotone (h : Worsens s s') (verdictId verdictId' : String)
    (record record' : ShieldActionRecord) :
    ∃ v v', defaultSupervisor.decide verdictId s record = .ok v ∧
      defaultSupervisor.decide verdictId' s' record' = .ok v' ∧
      (rank v.decision ≤ rank v'.decision ↔ ¬ AgreementIsMilder s s') := by
  have hNotRewrite : ∀ d ∈ [Decision.pass, .alert, .escalate, .block], d ≠ .rewrite := by decide
  obtain ⟨hRange, hRange'⟩ := h.inRange
  obtain ⟨v, hDecide, hRank⟩ :=
    rank_decide hRange (hNotRewrite _ h.ordered) verdictId record
  obtain ⟨v', hDecide', hRank'⟩ :=
    rank_decide hRange' (hNotRewrite _ h.ordered') verdictId' record'
  refine ⟨v, v', hDecide, hDecide', ?_⟩
  rw [hRank, hRank']
  exact finalRank_le_iff h

end Monotone

namespace Sample

/-- The Evaluator is sure enough to block, and the Defender has nothing against it. -/
def loneAlarm : GuardianSignals where
  evaluatorAnomaly := 7 / 10
  evaluatorRan := true

/-- The Defender escalates as well. -/
def agreed : GuardianSignals := { loneAlarm with defenderDecision := .escalate }

end Sample

theorem loneAlarm_worsens : Worsens Sample.loneAlarm Sample.agreed :=
  ⟨by decide, by decide, by decide, by decide +kernel, by decide +kernel, by decide +kernel,
    id, id, rfl⟩

/-- The worse signals are decided as the milder `ESCALATE`. -/
theorem agreement_is_milder :
    Worsens Sample.loneAlarm Sample.agreed ∧ ∃ v v',
      defaultSupervisor.decide "v" Sample.loneAlarm Sample.ruled = .ok v ∧
      defaultSupervisor.decide "v" Sample.agreed Sample.ruled = .ok v' ∧
      rank v'.decision < rank v.decision := by
  obtain ⟨v, hDecide, hRank⟩ :=
    rank_decide loneAlarm_worsens.inRange.1 (by decide) "v" Sample.ruled
  obtain ⟨v', hDecide', hRank'⟩ :=
    rank_decide loneAlarm_worsens.inRange.2 (by decide) "v" Sample.ruled
  refine ⟨loneAlarm_worsens, v, v', hDecide, hDecide', ?_⟩
  rw [hRank, hRank']
  decide +kernel

theorem supervisor_monotone_sample :
    ∃ v v', defaultSupervisor.decide "v" {} Sample.ruled = .ok v ∧
      defaultSupervisor.decide "v" { evaluatorAnomaly := 1 / 2 } Sample.ruled = .ok v' ∧
      rank v.decision ≤ rank v'.decision := by
  have hWorsens : Worsens {} { evaluatorAnomaly := 1 / 2 } :=
    ⟨by decide, by decide, by decide, by decide +kernel, by decide +kernel, by decide +kernel,
      id, id, rfl⟩
  obtain ⟨v, v', hDecide, hDecide', hIff⟩ :=
    supervisor_monotone hWorsens "v" "v" Sample.ruled Sample.ruled
  refine ⟨v, v', hDecide, hDecide', hIff.2 fun hMilder => ?_⟩
  cases hMilder.ran

/-! ## The floor -/

section Floor

variable {s : GuardianSignals}

/-- Where the Defender and the Evaluator disagree, the more severe of the two covers the
risk band: short of a block, the Evaluator leaves the aggregate risk below one. -/
theorem bandRank_residual_of_conflict (h : InRange s)
    (hConflict : ¬ (rank s.defenderDecision ≤ 1 ↔ bandRank s.evaluatorAnomaly ≤ 1)) :
    bandRank (residualRisk s) ≤ max (rank s.defenderDecision) (bandRank s.evaluatorAnomaly) := by
  have hTop := bandRank_le_three (residualRisk s)
  by_cases hAnomaly : 3 / 5 ≤ s.evaluatorAnomaly
  · have hBlock := (bandRank_eq_three s.evaluatorAnomaly).2 hAnomaly
    omega
  · have hIntegrity := h.integrity.1
    have hBaseline := h.baseline.2
    have hLow : ¬ 3 / 5 ≤ residualRisk s := by
      unfold residualRisk
      intro hHigh
      linarith
    have hBelow := mt (bandRank_eq_three (residualRisk s)).1 hLow
    omega

/-- No final decision is milder than the Defender's, or than the risk band. -/
theorem finalRank_floor (h : InRange s) :
    rank s.defenderDecision ≤ finalRank s ∧
      (defenderBlocked s = false → bandRank (residualRisk s) ≤ finalRank s) := by
  have hDefender : rank s.defenderDecision ≤ 3 := Nat.min_le_left _ _
  have hRisk := bandRank_le_three (residualRisk s)
  have hConflict := bandRank_residual_of_conflict h
  unfold finalRank
  split_ifs with hBlocked hDisagree
  · exact ⟨hDefender, fun _ => hRisk⟩
  · exact ⟨Nat.le_max_left _ _, fun _ => hConflict hDisagree.2⟩
  · exact ⟨Nat.le_max_left _ _, fun _ => Nat.le_max_right _ _⟩

/-- **The floor.**  The default supervisor decides at least as severely as the Defender and as
the band of the aggregate risk, for all signals in their ranges. -/
theorem supervisor_floor (s : GuardianSignals) (h : InRange s)
    (hDefender : s.defenderDecision ∈ [.pass, .alert, .escalate, .block, .rollback])
    (verdictId : String) (record : ShieldActionRecord) :
    ∃ v risk, defaultSupervisor.decide verdictId s record = .ok v ∧
      aggregateRisk defaultSupervisor.policy s = .ok risk ∧
      rank s.defenderDecision ≤ rank v.decision ∧
      rank (riskToDecision risk defaultSupervisor.policy) ≤ rank v.decision := by
  have hRewrite : s.defenderDecision ≠ .rewrite := by
    intro hd
    rw [hd] at hDefender
    exact absurd hDefender (by decide)
  obtain ⟨v, hDecide, hRank⟩ := rank_decide h hRewrite verdictId record
  obtain ⟨risk, -, hRisk, -⟩ := decide_ok_iff.1 hDecide
  obtain ⟨hFloor, hBand⟩ := finalRank_floor h
  refine ⟨v, risk, hDecide, hRisk, hRank ▸ hFloor, ?_⟩
  show bandRank risk ≤ rank v.decision
  rw [hRank]
  cases hBlocked : defenderBlocked s with
  | true =>
      have hTop : finalRank s = 3 := if_pos (.inl hBlocked)
      rw [hTop]
      exact bandRank_le_three risk
  | false =>
      obtain rfl := Except.ok.inj (hRisk.symm.trans (aggregateRisk_default h hBlocked))
      exact hBand hBlocked

/-- The floor of signals over which the Defender and the Evaluator disagree. -/
theorem supervisor_floor_sample :
    ∃ v risk, defaultSupervisor.decide "v" Sample.conflicting Sample.ruled = .ok v ∧
      aggregateRisk defaultSupervisor.policy Sample.conflicting = .ok risk ∧
      rank Sample.conflicting.defenderDecision ≤ rank v.decision ∧
      rank (riskToDecision risk defaultSupervisor.policy) ≤ rank v.decision :=
  supervisor_floor Sample.conflicting
    ⟨by decide +kernel, by decide +kernel, by decide +kernel⟩ (by decide) "v" Sample.ruled

end Floor

end AgentShield.Governance
