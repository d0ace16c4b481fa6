import AgentShield.Sdk.Mediation

/-!
# What becomes of a call

What the executor leaves of a call apart from its run: the environment, the result message,
and what it notes in the call's decision for the recorder.  A refused call notes nothing.
-/

namespace AgentShield.Sdk

open AgentShield.Lib

/-- The judgements that the executor finds under the keys of the calls of a message. -/
def foundJudgements {σ Env : Type} (prim : Primitives) (client : Client σ)
    (cfg : ShieldElementConfig) (runtime : Runtime Env) (env : Env) (messages : List Message)
    (extra : ExtraArgs Env) (s : σ) (key : String) : Option Judgement :=
  ((ShieldGuard.query prim client cfg runtime env messages extra s).1.shield.bind fun st =>
    Dict.get? st.decisions key).map ShieldDecision.toJudgement

section Outcomes

variable {Env : Type} {runtime : Runtime Env}

/-- The effects of the runs on an environment, in order. -/
def replay (runtime : Runtime Env) (env : Env) (runs : List Execution) : Env :=
  runs.foldl (fun e r => (runtime.runFunction e r.function r.args).2) env

theorem replay_append (env : Env) (runs runs' : List Execution) :
    replay runtime env (runs ++ runs') = replay runtime (replay runtime env runs) runs' :=
  List.foldl_append

/-- The call can be run and its judgement is a rollback. -/
def RollsBack (runtime : Runtime Env) (judged : String → Option Judgement) (tc : ToolCall)
    (index : Nat) : Prop :=
  Runnable runtime tc ∧
    (judged (toolCallKey tc index)).map (fun j => j.verdict.decision) = some .rollback

instance (judged : String → Option Judgement) (tc : ToolCall) (index : Nat) :
    Decidable (RollsBack runtime judged tc index) :=
  inferInstanceAs (Decidable (_ ∧ _))

/-- A call that is rolled back does not run. -/
theorem RollsBack.not_run (cfg : ShieldElementConfig) {judged : String → Option Judgement}
    {tc : ToolCall} {index : Nat} (h : RollsBack runtime judged tc index) :
    executionOf cfg runtime judged tc index = none := by
  obtain ⟨j, hJudged, hRollback⟩ := Option.map_eq_some_iff.1 h.2
  have hMay : mayRun cfg (some j) tc.args = false := by
    unfold mayRun
    simp only [hRollback]
  unfold executionOf
  simp [hJudged, hMay]

theorem run_env (runtime : Runtime Env) (x : ExecutorState Env) (index : Nat) (tc : ToolCall)
    (dec : Option (ShieldDecision Env)) :
    (x.run runtime index tc dec).env = (runtime.runFunction x.env tc.function
        (finalArgs runtime (dec.map ShieldDecision.toJudgement) tc.args)).2 ∧
      (x.run runtime index tc dec).restored = x.restored := by
  cases dec <;> exact ⟨rfl, rfl⟩

theorem skip_env (runtime : Runtime Env) (x : ExecutorState Env) (index : Nat) (tc : ToolCall)
    (dec : ShieldDecision Env) :
    (x.skip runtime index tc dec).env = x.env ∧
      (x.skip runtime index tc dec).restored =
        if dec.verdict.decision = .rollback then (runtime.modelCopy dec.envSnapshot).or x.restored
        else x.restored := by
  by_cases hRollback : dec.verdict.decision = .rollback
  · simp only [ExecutorState.skip, if_pos hRollback]
    exact ⟨rfl, rfl⟩
  · simp only [ExecutorState.skip, if_neg hRollback]
    exact ⟨rfl, rfl⟩

/-- What the executor notes in the decision of a call: `ran` is the run of the call, and
`message` its result message. -/
structure Noted (dec dec' : ShieldDecision Env) (ran : Option Execution) (message : ToolResult) :
    Prop where
  judgement : dec'.toJudgement = dec.toJudgement
  envSnapshot : dec'.envSnapshot = dec.envSnapshot
  recorded : dec'.recorded = dec.recorded
  error : dec'.error = message.error
  executedArgs : dec'.executedArgs = (ran.map Execution.args).or dec.executedArgs

/-- A run or a skip leaves the other decisions alone: it appends one message and changes the
decision of its own key. -/
structure Leaves (x x' : ExecutorState Env) (key : String) (dec : ShieldDecision Env)
    (message : ToolResult) : Prop where
  results : x'.results = x.results ++ [message]
  found : x'.decisionFor key = some dec
  others : ∀ key', key' ≠ key → x'.decisionFor key' = x.decisionFor key'

theorem run_leaves (runtime : Runtime Env) {x : ExecutorState Env} {index : Nat} {tc : ToolCall}
    {dec : ShieldDecision Env} (hDec : x.decisionFor (toolCallKey tc index) = some dec) :
    ∃ dec' message,
      Leaves x (x.run runtime index tc (some dec)) (toolCallKey tc index) dec' message ∧
        Noted dec dec'
          (some ⟨index, tc.function, finalArgs runtime (some dec.toJudgement) tc.args,
            some dec.toJudgement⟩) message := by
  let outcome := (runtime.runFunction x.env tc.function
    (finalArgs runtime (some dec.toJudgement) tc.args)).1
  refine ⟨{ dec with
      executed := true
      result := outcome.1
      error := outcome.2
      executedArgs := some (finalArgs runtime (some dec.toJudgement) tc.args) }, _,
    ⟨rfl, ?_, ?_⟩, ⟨rfl, rfl, rfl, rfl, rfl⟩⟩
  · exact (decisionFor_setDecision hDec _ _).trans (if_pos rfl)
  · intro key' hKey
    exact (decisionFor_setDecision hDec _ _).trans (if_neg (Ne.symm hKey))

theorem skip_leaves (runtime : Runtime Env) {x : ExecutorState Env} {index : Nat} {tc : ToolCall}
    {dec : ShieldDecision Env} (hDec : x.decisionFor (toolCallKey tc index) = some dec) :
    ∃ dec' message,
      Leaves x (x.skip runtime index tc dec) (toolCallKey tc index) dec' message ∧
        Noted dec dec' none message ∧ message.error.isSome := by
  let outcome := skipOutcome dec.verdict.decision
  let msg := outcome.1 ++ " Agent Shield: " ++ outcome.2.1 ++ " — " ++ skipReason dec.verdict
  refine ⟨{ dec with executed := false, result := outcome.2.2, error := some msg },
    refusal tc msg, ?_, ⟨rfl, rfl, rfl, rfl, rfl⟩, rfl⟩
  by_cases hRollback : dec.verdict.decision = .rollback
  · have hDec' : (x.rollBack runtime dec).decisionFor (toolCallKey tc index) = some dec :=
      (decisionFor_rollBack _ _ _).trans hDec
    simp only [ExecutorState.skip, if_pos hRollback]
    refine ⟨rfl, ?_, ?_⟩
    · exact (decisionFor_setDecision hDec' _ _).trans (if_pos rfl)
    · intro key' hKey
      refine (decisionFor_setDecision hDec' _ _).trans ?_
      rw [if_neg (Ne.symm hKey), decisionFor_rollBack]
  · simp only [ExecutorState.skip, if_neg hRollback]
    refine ⟨rfl, ?_, ?_⟩
    · exact (decisionFor_setDecision hDec _ _).trans (if_pos rfl)
    · intro key' hKey
      exact (decisionFor_setDecision hDec _ _).trans (if_neg (Ne.symm hKey))

/-- A call that can be run is noted in its decision, whether it is run or not. -/
theorem execute_leaves (cfg : ShieldElementConfig) {x : ExecutorState Env} {index : Nat}
    {tc : ToolCall} {dec : ShieldDecision Env} (hRunnable : Runnable runtime tc)
    (hDec : x.decisionFor (toolCallKey tc index) = some dec) :
    ∃ dec' message,
      Leaves x (ShieldedToolsExecutor.execute cfg runtime index tc x) (toolCallKey tc index) dec'
          message ∧
        Noted dec dec' (executionOf cfg runtime x.judged tc index) message := by
  have hJudged : x.judged (toolCallKey tc index) = some dec.toJudgement := by
    unfold ExecutorState.judged
    rw [hDec, Option.map_some]
  have hOver : ∀ {x' dec' message},
      Leaves (x.noteEscalation cfg tc dec) x' (toolCallKey tc index) dec' message →
        Leaves x x' (toolCallKey tc index) dec' message := by
    intro x' dec' message h
    refine ⟨?_, h.found, fun key' hKey => ?_⟩
    · rw [h.results, (noteEscalation_frame cfg x tc dec).2.2.2]
    · rw [h.others key' hKey, decisionFor_noteEscalation]
  have hDec' : (x.noteEscalation cfg tc dec).decisionFor (toolCallKey tc index) = some dec :=
    (decisionFor_noteEscalation _ _ _ _).trans hDec
  rcases execute_cases cfg runtime index tc x with
    ⟨hNot, -⟩ | ⟨-, hNone, -⟩ | ⟨dec₁, -, hFound, hDecided⟩
  · exact absurd hRunnable hNot
  · exact absurd (hDec.symm.trans hNone) (Option.some_ne_none _)
  · obtain rfl := Option.some.inj (hDec.symm.trans hFound)
    rcases hDecided with ⟨hMay, hRun⟩ | ⟨hMay, hSkip⟩
    · obtain ⟨dec', message, hLeaves, hNoted⟩ := run_leaves runtime hDec'
      refine ⟨dec', message, hRun ▸ hOver hLeaves, ?_⟩
      simpa only [executionOf, hJudged, hRunnable, hMay, true_and, if_true] using hNoted
    · obtain ⟨dec', message, hLeaves, hNoted, -⟩ := skip_leaves runtime hDec'
      refine ⟨dec', message, hSkip ▸ hOver hLeaves, ?_⟩
      have hNone : executionOf cfg runtime x.judged tc index = none := by
        simp [executionOf, hJudged, hMay]
      rwa [hNone]

/-- A call that cannot be run only leaves an error. -/
theorem execute_refused (cfg : ShieldElementConfig) {tc : ToolCall}
    (hNot : ¬ Runnable runtime tc) (index : Nat) (x : ExecutorState Env) :
    ∃ error, ShieldedToolsExecutor.execute cfg runtime index tc x = x.refuse tc error := by
  rcases execute_cases cfg runtime index tc x with
    ⟨-, hRefused⟩ | ⟨hRunnable, -⟩ | ⟨dec, hRunnable, -⟩
  · exact hRefused
  · exact absurd hRunnable hNot
  · exact absurd hRunnable hNot

/-- What the notes do not touch stays in all decisions. -/
theorem execute_keeps (cfg : ShieldElementConfig) {β : Type} {f : ShieldDecision Env → β}
    (hNoted : ∀ {dec dec' ran message}, Noted dec dec' ran message → f dec' = f dec) (index : Nat)
    (tc : ToolCall) (x : ExecutorState Env) (key : String) :
    ((ShieldedToolsExecutor.execute cfg runtime index tc x).decisionFor key).map f =
      (x.decisionFor key).map f := by
  by_cases hRunnable : Runnable runtime tc
  · cases hDec : x.decisionFor (toolCallKey tc index) with
    | none =>
        rcases execute_cases cfg runtime index tc x with
          ⟨hNot, -⟩ | ⟨-, -, hRun⟩ | ⟨dec, -, hSome, -⟩
        · exact absurd hRunnable hNot
        · rw [hRun]
          rfl
        · exact absurd (hSome.symm.trans hDec) (Option.some_ne_none _)
    | some dec =>
        obtain ⟨dec', message, hLeaves, hNote⟩ :=
          execute_leaves cfg hRunnable hDec
        by_cases hKey : key = toolCallKey tc index
        · rw [hKey, hLeaves.found, hDec, Option.map_some, Option.map_some, hNoted hNote]
        · rw [hLeaves.others key hKey]
  · obtain ⟨error, hRefused⟩ := execute_refused cfg hRunnable index x
    rw [hRefused]
    rfl

/-- The snapshots stay as the guard took them. -/
theorem execute_snapshot (cfg : ShieldElementConfig) (runtime : Runtime Env) (index : Nat)
    (tc : ToolCall) (x : ExecutorState Env) (key : String) :
    ((ShieldedToolsExecutor.execute cfg runtime index tc x).decisionFor key).map
        ShieldDecision.envSnapshot =
      (x.decisionFor key).map ShieldDecision.envSnapshot :=
  execute_keeps cfg Noted.envSnapshot index tc x key

end Outcomes

end AgentShield.Sdk
