import Mathlib.Algebra.Order.Floor.Ring
import Mathlib.Data.Rat.Floor
import Mathlib.Tactic.FieldSimp
import Mathlib.Tactic.Linarith
import AgentShield.Lib.Dict

/-!
# The budget of a real evaluation run

Before a run with a real provider is started, its cost is estimated from the price table and
the plan is shrunk to the planning threshold.  The hard cap is checked for shrunk plans only
(`plan_shrunk`); a plan whose estimate is at most the threshold is kept as it is.  So a plan
respects the cap unless its estimate lies between the cap and a larger threshold
(`withinBudget_iff`).  Amounts are exact rationals.
-/

namespace AgentShield.Eval

open AgentShield.Lib

/-! ## Prices -/

def defaultHardCapUsd : ℚ := 5
def defaultPlanningThresholdUsd : ℚ := 3
def defaultMaxOutputTokens : Int := 2000
def defaultGuardianMaxOutputTokens : Int := 800
def realEvalModel : String := "claude-haiku-4-5-20251001"
def haikuProviderSliceModel : String := "claude-haiku-4-5-20251001"
def haikuProviderSliceProfile : String := "provider-slice-haiku"
def cloudProviderProfile : String := "cloud"

/-- The price of a million tokens, read and written, in US dollars, and the name it is
reported under. -/
structure Price where
  input : ℚ
  output : ℚ
  pricingBasis : String
  deriving DecidableEq

/-- The prices of the models, in US dollars per million tokens.  A model is looked up by its
whole name, so a newer date has no price. -/
def anthropicPriceTable : List (String × Price) :=
  [("claude-haiku-4-5-20251001", ⟨1, 5, "Claude Haiku 4.5"⟩),
    ("claude-haiku-4-5", ⟨1, 5, "Claude Haiku 4.5"⟩),
    ("claude-sonnet-4", ⟨3, 15, "Claude Sonnet 4"⟩),
    ("claude-sonnet-4-20250514", ⟨3, 15, "Claude Sonnet 4"⟩),
    ("claude-sonnet-4-5", ⟨3, 15, "Claude Sonnet 4.5"⟩),
    ("claude-sonnet-4-5-20250929", ⟨3, 15, "Claude Sonnet 4.5"⟩),
    ("claude-sonnet-4-6", ⟨3, 15, "Claude Sonnet 4.6"⟩),
    ("claude-opus-4", ⟨15, 75, "Claude Opus 4"⟩),
    ("claude-opus-4-20250514", ⟨15, 75, "Claude Opus 4"⟩),
    ("claude-opus-4-1", ⟨15, 75, "Claude Opus 4.1"⟩),
    ("claude-opus-4-1-20250805", ⟨15, 75, "Claude Opus 4.1"⟩),
    ("claude-opus-4-7", ⟨5, 25, "Claude Opus 4.7"⟩)]

/-- A model that is not in the table raises. -/
def modelPrice (modelId : String) : Except String Price :=
  match Dict.get? anthropicPriceTable modelId with
  | some price => .ok price
  | none => .error ("unknown Anthropic model_id for cost estimate: " ++ modelId)

/-- The price of a number of tokens; a model without a price is an error. -/
def estimateModelCost (modelId : String) (inputTokens outputTokens : Int) :
    Except String (ℚ × Price) := do
  let price ← modelPrice modelId
  return (inputTokens / 1000000 * price.input + outputTokens / 1000000 * price.output, price)

/-- Three characters count as one token, rounded up. -/
def tokenEstimate (serializedPromptChars : Int) : Int := max 0 ⌈(serializedPromptChars / 3 : ℚ)⌉

/-- `round` to an integer: halves go to the even neighbour. -/
def pyRound (q : ℚ) : Int :=
  if q - ⌊q⌋ < 1 / 2 then ⌊q⌋
  else if 1 / 2 < q - ⌊q⌋ then ⌊q⌋ + 1
  else if ⌊q⌋ % 2 = 0 then ⌊q⌋ else ⌊q⌋ + 1

/-- `round(q, 6)`. -/
def round6 (q : ℚ) : ℚ := pyRound (q * 1000000) / 1000000

/-! ## Guardians -/

/-- The model that a guardian asks in the profile, and from where it is served. -/
structure GuardianModel where
  guardian : String
  provider : String
  modelId : String
  servedVia : String

/-- The deterministic guardian, and the three that a model backs. -/
def guardianRows (provider evaluator supervisor auditor : String) : List GuardianModel :=
  [⟨"defender", "local", "local-deterministic", "local"⟩,
    ⟨"evaluator", provider, evaluator, "cloud"⟩,
    ⟨"supervisor", provider, supervisor, "cloud"⟩,
    ⟨"auditor", provider, auditor, "cloud"⟩]

/-- The guardians' models in a profile.  In any other profile the router's own file names the
models, which have no price here. -/
def guardianModelRows (modelRouterProfile : String) : List GuardianModel :=
  if modelRouterProfile = haikuProviderSliceProfile then
    guardianRows "anthropic" haikuProviderSliceModel haikuProviderSliceModel
      haikuProviderSliceModel
  else if modelRouterProfile = cloudProviderProfile then
    guardianRows "anthropic" "claude-sonnet-4-6" "claude-opus-4-7" "claude-haiku-4-5-20251001"
  else
    guardianRows "model_router" "from-model-router" "from-model-router" "from-model-router"

/-- How often a guardian is assumed to ask its model for one record, and how often it uses its
tools. -/
structure ToolLoopAssumption where
  modelInvocationsPerRecord : Int
  toolCallsPerRecord : Int
  chromaQueriesPerRecord : Int
  toolLoopBound : Int

def defaultGuardianToolLoopAssumptions : List (String × ToolLoopAssumption) :=
  [("defender", ⟨0, 0, 0, 0⟩), ("evaluator", ⟨3, 2, 1, 3⟩), ("supervisor", ⟨6, 2, 1, 6⟩),
    ("auditor", ⟨6, 3, 1, 6⟩)]

def guardianToolLoopAssumption (guardian : String) : ToolLoopAssumption :=
  (Dict.get? defaultGuardianToolLoopAssumptions guardian).getD ⟨1, 0, 0, 1⟩

/-- The calls and the costs of one guardian, with the prices and the assumptions that they
were computed from. -/
structure GuardianEstimate where
  model : GuardianModel
  assumption : ToolLoopAssumption
  modelBackedRecordsPerGuardian : Int
  modelInvocationsPerRecord : Int
  estimatedModelInvocations : Int
  inputTokens : Int
  outputTokens : Int
  inputUsdPerMtok : ℚ
  outputUsdPerMtok : ℚ
  pricingBasis : String
  costUsd : ℚ

/-- A local guardian costs nothing; the others pay for every invocation, at the price of their
model, rounded to six digits. -/
def guardianCostEstimate (records inputPerInvocation outputPerInvocation : Int)
    (row : GuardianModel) : Except String GuardianEstimate :=
  let assumption := guardianToolLoopAssumption row.guardian
  if row.servedVia = "local" ∨ row.provider = "local" then
    .ok
      { model := row, assumption, modelBackedRecordsPerGuardian := 0
        modelInvocationsPerRecord := 0, estimatedModelInvocations := 0, inputTokens := 0
        outputTokens := 0, inputUsdPerMtok := 0, outputUsdPerMtok := 0
        pricingBasis := "local deterministic; no Anthropic token cost", costUsd := 0 }
  else do
    let invocations := assumption.modelInvocationsPerRecord * records
    let inputTokens := inputPerInvocation * invocations
    let outputTokens := outputPerInvocation * invocations
    let (cost, price) ← estimateModelCost row.modelId inputTokens outputTokens
    return {
      model := row, assumption, modelBackedRecordsPerGuardian := records
      modelInvocationsPerRecord := assumption.modelInvocationsPerRecord
      estimatedModelInvocations := invocations, inputTokens, outputTokens
      inputUsdPerMtok := price.input, outputUsdPerMtok := price.output
      pricingBasis := price.pricingBasis, costUsd := round6 cost }

/-- The estimates of all guardians of a profile. -/
def guardianCostEstimates (modelRouterProfile : String)
    (records inputPerInvocation outputPerInvocation : Int) :
    Except String (List GuardianEstimate) :=
  (guardianModelRows modelRouterProfile).mapM
    (guardianCostEstimate records inputPerInvocation outputPerInvocation)

/-- The records that the guardians see, where an arm with guardians runs. -/
def modelBackedGuardianUnits (arms : List String)
    (userCount injectionCount sampleCount : Int) : Int :=
  if arms.any (["A1", "A2", "A3"].contains ·) then userCount * injectionCount * sampleCount
  else 0

/-! ## Plans -/

inductive StatusLabel
  | estimated
  | skipped
  deriving DecidableEq

inductive SkipReason
  | budgetGuard
  | approvalThreshold
  | missingApiKey
  deriving DecidableEq

/-- What is left of a requested run: the units, tokens and costs to be spent, whether the run
was shrunk, and why it is skipped if it is. -/
structure BudgetPlan where
  effectiveUnits : Int
  effectiveInput : Int
  effectiveOutput : Int
  effectiveCost : ℚ
  shrinkApplied : Bool
  skipReason : Option SkipReason
  statusLabel : StatusLabel

/-- The limits of a plan. -/
structure BudgetLimits where
  hardCapUsd : ℚ := defaultHardCapUsd
  planningThresholdUsd : ℚ := defaultPlanningThresholdUsd
  allowPlanShrink : Bool := true

section Plans

variable (limits : BudgetLimits) (requestedUnits requestedInput requestedOutput : Int)
  (requestedCost : ℚ)

/-- The units that the planning threshold pays for. -/
def shrunkUnits : Int :=
  let perUnitCost := if 0 < requestedUnits then requestedCost / requestedUnits else 0
  let effectiveUnits :=
    if 0 < perUnitCost then ⌊limits.planningThresholdUsd / perUnitCost⌋ else 0
  min requestedUnits effectiveUnits

/-- The plan shrunk to what the planning threshold pays for. It is skipped where nothing is
left, or where even that exceeds the hard cap. -/
def shrunkPlan : BudgetPlan :=
  let effectiveUnits := shrunkUnits limits requestedUnits requestedCost
  let scale : ℚ := if 0 < requestedUnits then effectiveUnits / requestedUnits else 0
  let effectiveCost := requestedCost * scale
  let shrinkApplied := decide (effectiveUnits < requestedUnits)
  if effectiveUnits ≤ 0 ∨ limits.hardCapUsd < effectiveCost then
    { effectiveUnits := 0, effectiveInput := 0, effectiveOutput := 0, effectiveCost := 0
      shrinkApplied, skipReason := some .budgetGuard, statusLabel := .skipped }
  else
    { effectiveUnits, effectiveInput := pyRound (requestedInput * scale)
      effectiveOutput := pyRound (requestedOutput * scale), effectiveCost, shrinkApplied
      skipReason := none, statusLabel := .estimated }

/-- A plan above the planning threshold is shrunk or waits for approval; any other is kept
as it was requested. -/
def budgetPlan (keyPresent : Bool) : BudgetPlan :=
  let plan : BudgetPlan :=
    if limits.planningThresholdUsd < requestedCost then
      if limits.allowPlanShrink then
        shrunkPlan limits requestedUnits requestedInput requestedOutput requestedCost
      else
        { effectiveUnits := 0, effectiveInput := 0, effectiveOutput := 0
          effectiveCost := requestedCost, shrinkApplied := false
          skipReason := some .approvalThreshold, statusLabel := .skipped }
    else
      { effectiveUnits := requestedUnits, effectiveInput := requestedInput
        effectiveOutput := requestedOutput, effectiveCost := requestedCost
        shrinkApplied := false, skipReason := none, statusLabel := .estimated }
  if keyPresent then plan
  else { plan with statusLabel := .skipped, skipReason := some .missingApiKey }

end Plans

/-! ## The artifact -/

/-- What a run is asked for: the arms and tasks that are multiplied into units, the size of a
prompt, the models, and the limits to keep. -/
structure BudgetRequest where
  arms : List String
  userTasks : List String
  injectionTasks : List String
  samples : Int
  serializedPromptChars : Int
  model : String := realEvalModel
  modelRouterProfile : String := "cloud"
  maxOutputTokens : Int := defaultMaxOutputTokens
  limits : BudgetLimits := {}

namespace BudgetRequest

variable (req : BudgetRequest)

def userCount : Int := max 1 req.userTasks.length
def injectionCount : Int := max 1 req.injectionTasks.length
def sampleCount : Int := max 1 req.samples
/-- The calls of the run: arms, user tasks, injections and samples multiplied, each at least
one. -/
def requestedUnits : Int :=
  max 1 (req.arms.length : Int) * req.userCount * req.injectionCount * req.sampleCount
def inputPerUnit : Int := tokenEstimate req.serializedPromptChars
def outputPerUnit : Int := max 0 req.maxOutputTokens
def requestedInput : Int := req.inputPerUnit * req.requestedUnits
def requestedOutput : Int := req.outputPerUnit * req.requestedUnits
def guardianRecords : Int :=
  modelBackedGuardianUnits req.arms req.userCount req.injectionCount req.sampleCount

/-- The price of the worker's tokens. -/
def workerEstimate : Except String (ℚ × Price) :=
  estimateModelCost req.model req.requestedInput req.requestedOutput

def guardianEstimates : Except String (List GuardianEstimate) :=
  guardianCostEstimates req.modelRouterProfile req.guardianRecords req.inputPerUnit
    (min (max 0 req.maxOutputTokens) defaultGuardianMaxOutputTokens)

end BudgetRequest

/-- The amounts of the report; texts that are the same in every report are left out. -/
structure BudgetArtifact where
  plan : BudgetPlan
  request : BudgetRequest
  workerPrice : Price
  workerCostUsd : ℚ
  guardianRecords : Int
  perGuardianCostEstimates : List GuardianEstimate
  requestedUnits : Int
  requestedInputTokens : Int
  requestedOutputTokens : Int
  requestedWorkerInputTokens : Int
  requestedWorkerOutputTokens : Int
  requestedGuardianInputTokens : Int
  requestedGuardianOutputTokens : Int
  requestedCostUsd : ℚ
  estimatedCostUsd : ℚ

/-- `build_real_runner_budget_artifact`: the estimate of a run against its caps.  The costs of
the workers and of the guardians are added, and the sum decides what is left of the run. -/
def buildRealRunnerBudgetArtifact (req : BudgetRequest) (keyPresent : Bool) :
    Except String BudgetArtifact := do
  let (workerCost, workerPrice) ← req.workerEstimate
  let guardians ← req.guardianEstimates
  let guardianCost := (guardians.map (·.costUsd)).sum
  let guardianInput := (guardians.map (·.inputTokens)).sum
  let guardianOutput := (guardians.map (·.outputTokens)).sum
  let requestedCost := workerCost + guardianCost
  let requestedTotalInput := req.requestedInput + guardianInput
  let requestedTotalOutput := req.requestedOutput + guardianOutput
  let plan := budgetPlan req.limits req.requestedUnits requestedTotalInput requestedTotalOutput
    requestedCost keyPresent
  return {
    plan
    request := req
    workerPrice
    workerCostUsd := round6 workerCost
    guardianRecords := req.guardianRecords
    perGuardianCostEstimates := guardians
    requestedUnits := req.requestedUnits
    requestedInputTokens := requestedTotalInput
    requestedOutputTokens := requestedTotalOutput
    requestedWorkerInputTokens := req.requestedInput
    requestedWorkerOutputTokens := req.requestedOutput
    requestedGuardianInputTokens := guardianInput
    requestedGuardianOutputTokens := guardianOutput
    requestedCostUsd := round6 requestedCost
    estimatedCostUsd :=
      if plan.skipReason = some .missingApiKey then round6 requestedCost
      else round6 plan.effectiveCost }

/-! ## Bounds -/

/-- A plan that runs keeps both limits, with some of the requested units. -/
def BudgetPlan.Within (plan : BudgetPlan) (limits : BudgetLimits) (requestedUnits : Int) : Prop :=
  plan.statusLabel = .skipped ∨
    plan.effectiveCost ≤ limits.hardCapUsd ∧ plan.effectiveCost ≤ limits.planningThresholdUsd ∧
      1 ≤ plan.effectiveUnits ∧ plan.effectiveUnits ≤ requestedUnits

instance (plan : BudgetPlan) (limits : BudgetLimits) (requestedUnits : Int) :
    Decidable (plan.Within limits requestedUnits) :=
  inferInstanceAs (Decidable (_ ∨ _))

section Bounds

variable {limits : BudgetLimits} {requestedUnits requestedInput requestedOutput : Int}
  {requestedCost : ℚ}

/-- The units that are left cost at most the threshold, from which they are computed at the
price of one unit. -/
theorem shrunkUnits_cost (hUnits : 1 ≤ requestedUnits)
    (hSome : 0 < shrunkUnits limits requestedUnits requestedCost) :
    requestedCost * (shrunkUnits limits requestedUnits requestedCost / requestedUnits) ≤
      limits.planningThresholdUsd := by
  have hPos : 0 < requestedUnits := by omega
  have hPosQ : (0 : ℚ) < requestedUnits := by exact_mod_cast hPos
  have hDef : shrunkUnits limits requestedUnits requestedCost = min requestedUnits
      (if 0 < requestedCost / requestedUnits then
        ⌊limits.planningThresholdUsd / (requestedCost / requestedUnits)⌋ else 0) := by
    simp only [shrunkUnits, if_pos hPos]
  have hPerUnit : 0 < requestedCost / requestedUnits := by
    by_contra hNot
    rw [hDef, if_neg hNot] at hSome
    omega
  rw [if_pos hPerUnit] at hDef
  have hFloor : (shrunkUnits limits requestedUnits requestedCost : ℚ) ≤
      limits.planningThresholdUsd / (requestedCost / requestedUnits) := by
    apply Int.le_floor.1
    rw [hDef]
    exact min_le_right _ _
  have hCost := (le_div_iff₀ hPerUnit).1 hFloor
  calc requestedCost * (shrunkUnits limits requestedUnits requestedCost / requestedUnits)
      = shrunkUnits limits requestedUnits requestedCost * (requestedCost / requestedUnits) := by
        field_simp
    _ ≤ limits.planningThresholdUsd := hCost

/-- **What is shrunk keeps both limits or is skipped**, in every order of the limits. -/
theorem shrunkPlan_within (hUnits : 1 ≤ requestedUnits) :
    (shrunkPlan limits requestedUnits requestedInput requestedOutput requestedCost).Within limits
      requestedUnits := by
  have hPos : 0 < requestedUnits := by omega
  unfold shrunkPlan
  dsimp only
  rw [if_pos hPos]
  by_cases hSkip : shrunkUnits limits requestedUnits requestedCost ≤ 0 ∨ limits.hardCapUsd <
      requestedCost * (shrunkUnits limits requestedUnits requestedCost / requestedUnits)
  · rw [if_pos hSkip]
    exact .inl rfl
  · rw [if_neg hSkip]
    have hSome : 0 < shrunkUnits limits requestedUnits requestedCost := by
      by_contra hNot
      exact hSkip (.inl (by omega))
    refine .inr ⟨le_of_not_gt fun h => hSkip (.inr h), shrunkUnits_cost hUnits hSome, ?_, ?_⟩
    · show 1 ≤ shrunkUnits limits requestedUnits requestedCost
      omega
    · exact min_le_left _ _

/-- A plan fails the bounds only where it is kept as it was requested: above the cap, but not
above the threshold from which runs are shrunk. -/
theorem budgetPlan_within_iff (hUnits : 1 ≤ requestedUnits) (keyPresent : Bool) :
    (budgetPlan limits requestedUnits requestedInput requestedOutput requestedCost
        keyPresent).Within limits requestedUnits ↔
      ¬ (keyPresent = true ∧ limits.hardCapUsd < requestedCost ∧
        requestedCost ≤ limits.planningThresholdUsd) := by
  unfold budgetPlan
  dsimp only
  cases keyPresent with
  | false => exact iff_of_true (.inl rfl) (by simp)
  | true =>
      rw [if_pos rfl]
      by_cases hAbove : limits.planningThresholdUsd < requestedCost
      · rw [if_pos hAbove]
        refine iff_of_true ?_ fun h => absurd h.2.2 (not_le_of_gt hAbove)
        by_cases hShrink : limits.allowPlanShrink = true
        · rw [if_pos hShrink]
          exact shrunkPlan_within hUnits
        · rw [if_neg hShrink]
          exact .inl rfl
      · rw [if_neg hAbove]
        have hBelow := le_of_not_gt hAbove
        constructor
        · rintro (hSkipped | ⟨hCap, -⟩) ⟨-, hOver, -⟩
          · cases hSkipped
          · exact absurd hCap (not_le_of_gt hOver)
        · intro hNot
          refine .inr ⟨?_, hBelow, hUnits, le_refl _⟩
          by_contra hCap
          exact hNot ⟨rfl, lt_of_not_ge hCap, hBelow⟩

end Bounds

theorem BudgetRequest.one_le_requestedUnits (req : BudgetRequest) : 1 ≤ req.requestedUnits := by
  have hArms : (1 : Int) ≤ max 1 (req.arms.length : Int) := le_max_left _ _
  have hUsers : 1 ≤ req.userCount := le_max_left _ _
  have hInjections : 1 ≤ req.injectionCount := le_max_left _ _
  have hSamples : 1 ≤ req.sampleCount := le_max_left _ _
  have hTwo := one_le_mul_of_one_le_of_one_le hArms hUsers
  exact one_le_mul_of_one_le_of_one_le (one_le_mul_of_one_le_of_one_le hTwo hInjections) hSamples

/-- The estimate of a request lies above the cap, and no further than the threshold. -/
def BudgetRequest.BetweenLimits (req : BudgetRequest) : Prop :=
  ∃ worker guardians, req.workerEstimate = .ok worker ∧ req.guardianEstimates = .ok guardians ∧
    req.limits.hardCapUsd < worker.1 + (guardians.map (·.costUsd)).sum ∧
      worker.1 + (guardians.map (·.costUsd)).sum ≤ req.limits.planningThresholdUsd

/-- **A plan keeps the bounds unless its estimate lies between the cap and the threshold.**
With a key, the source there neither shrinks the run nor skips it, so the plan is over its
cap. -/
theorem withinBudget_iff (req : BudgetRequest) (keyPresent : Bool) (artifact : BudgetArtifact)
    (h : buildRealRunnerBudgetArtifact req keyPresent = .ok artifact) :
    artifact.plan.Within req.limits artifact.requestedUnits ↔
      ¬ (keyPresent = true ∧ req.BetweenLimits) := by
  unfold buildRealRunnerBudgetArtifact at h
  cases hWorker : req.workerEstimate with
  | error e =>
      rw [hWorker] at h
      cases h
  | ok worker =>
      cases hGuardians : req.guardianEstimates with
      | error e =>
          rw [hWorker, hGuardians] at h
          cases h
      | ok guardians =>
          rw [hWorker, hGuardians] at h
          have hArtifact := Except.ok.inj h
          have hBetween : req.BetweenLimits ↔
              req.limits.hardCapUsd < worker.1 + (guardians.map (·.costUsd)).sum ∧
                worker.1 + (guardians.map (·.costUsd)).sum ≤ req.limits.planningThresholdUsd := by
            constructor
            · rintro ⟨worker', guardians', hWorker', hGuardians', hCost⟩
              rw [hWorker] at hWorker'
              rw [hGuardians] at hGuardians'
              cases hWorker'
              cases hGuardians'
              exact hCost
            · intro hCost
              exact ⟨worker, guardians, hWorker, hGuardians, hCost⟩
          rw [hBetween, ← hArtifact]
          exact budgetPlan_within_iff req.one_le_requestedUnits keyPresent

/-- Six hundred samples of one cell without guardians, at six dollars. -/
def budgetSample (planningThresholdUsd : ℚ) : BudgetRequest :=
  { arms := ["A0"], userTasks := ["user_task_0"], injectionTasks := ["injection_task_6"]
    samples := 600, serializedPromptChars := 0, limits := { planningThresholdUsd } }

theorem budgetSample_answers (key : Bool) (check : BudgetArtifact → Bool) (threshold : ℚ)
    (h : (buildRealRunnerBudgetArtifact (budgetSample threshold) key).toOption.map check =
      some true) :
    ∃ artifact, buildRealRunnerBudgetArtifact (budgetSample threshold) key = .ok artifact ∧
      check artifact = true := by
  cases hBuild : buildRealRunnerBudgetArtifact (budgetSample threshold) key with
  | error e =>
      rw [hBuild] at h
      cases h
  | ok artifact =>
      rw [hBuild] at h
      exact ⟨artifact, rfl, Option.some.inj h⟩

/-- With the default threshold the plan is shrunk to three hundred samples. -/
theorem withinBudget_iff_sample :
    ∃ artifact, buildRealRunnerBudgetArtifact (budgetSample 3) true = .ok artifact ∧
      artifact.plan.effectiveUnits = 300 ∧
      (artifact.plan.Within (budgetSample 3).limits artifact.requestedUnits ↔
        ¬ (true = true ∧ (budgetSample 3).BetweenLimits)) := by
  obtain ⟨artifact, hBuild, hUnits⟩ := budgetSample_answers true
    (fun a => decide (a.plan.effectiveUnits = 300)) 3 (by decide +kernel)
  exact ⟨artifact, hBuild, of_decide_eq_true hUnits, withinBudget_iff _ true artifact hBuild⟩

/-- With a threshold of ten dollars it is kept, above the cap of five. -/
theorem hardCap_exceeded :
    ∃ artifact, buildRealRunnerBudgetArtifact (budgetSample 10) true = .ok artifact ∧
      artifact.plan.statusLabel = .estimated ∧ (budgetSample 10).limits.hardCapUsd = 5 ∧
      artifact.plan.effectiveCost = 6 ∧
      ¬ artifact.plan.Within (budgetSample 10).limits artifact.requestedUnits := by
  obtain ⟨artifact, hBuild, hCheck⟩ := budgetSample_answers true
    (fun a => decide (a.plan.statusLabel = .estimated ∧ a.plan.effectiveCost = 6 ∧
      ¬ a.plan.Within (budgetSample 10).limits a.requestedUnits)) 10 (by decide +kernel)
  obtain ⟨hLabel, hCost, hOver⟩ := of_decide_eq_true hCheck
  exact ⟨artifact, hBuild, hLabel, rfl, hCost, hOver⟩

end AgentShield.Eval
