import AgentShield.Sdk.Outcomes

/-!
# Enforcement in the evaluation and in the pipeline

The evaluation scores a verdict by the action that `resolveEnforcement` gives it: an
escalation is blocked for the fail-closed tools and approved for all others.  The executor
decides for itself, and treats the escalations of all tools alike, by its mode.  Here are
the calls for which the two agree (`agrees_iff`).  No mode of the executor agrees on all of
them.
-/

namespace AgentShield.Eval

open AgentShield.Lib AgentShield.Sdk

/-! ## The evaluation's decision table -/

def failClosedTools : List String :=
  ["send_money", "update_password", "update_scheduled_transaction"]

/-- What the executor does with a call: run it, answer in its place, restore the environment,
or run it with other arguments. -/
inductive EnforcementAction where
  | run
  | skipSynthesize
  | skipRestore
  | rewriteRun
  deriving DecidableEq, Repr

structure EnforcementConfig where
  failClosedTools : List String := Eval.failClosedTools
  escalateDegradesTo : String := "BLOCK"
  interactive : Bool := false

structure EnforcementOutcome where
  action : EnforcementAction
  effectiveDecision : Decision
  degraded : Bool
  reason : String
  deriving DecidableEq

/-- The action of a batch run for a verdict.  Where nobody can be asked, an escalation blocks
the tools that fail closed, if it degrades to a block, and lets the others run with an alert.
-/
def resolveEnforcement (verdict : GovernanceVerdict) (toolName : String)
    (config : Option EnforcementConfig) : EnforcementOutcome :=
  let cfg := config.getD {}
  let d := verdict.decision
  match d with
  | .pass => ⟨.run, d, false, d.value ++ ": allowed"⟩
  | .alert => ⟨.run, d, false, d.value ++ ": allowed"⟩
  | .block => ⟨.skipSynthesize, d, false, "BLOCK: skip+synthesize, money not moved"⟩
  | .rollback => ⟨.skipRestore, d, false, "ROLLBACK: skip + restore env snapshot"⟩
  | .rewrite => ⟨.rewriteRun, d, false, "REWRITE: mutate args in place, then run"⟩
  | .escalate =>
      if cfg.interactive then
        ⟨.skipSynthesize, .escalate, false,
          "ESCALATE: real HITL pause (demo path; never in benchmark_suite())"⟩
      else if cfg.escalateDegradesTo = "BLOCK" ∧ toolName ∈ cfg.failClosedTools then
        ⟨.skipSynthesize, .block, true,
          "ESCALATE→BLOCK (fail-CLOSED tool '" ++ toolName ++ "'); money not moved; " ++
            "live demo keeps real interrupt() HITL"⟩
      else
        ⟨.run, .alert, true,
          "ESCALATE→auto-approve (non-fail-closed tool '" ++ toolName ++ "'); logged as ALERT"⟩

/-! ## What the executor does -/

section Performs

variable {Env : Type} (cfg : ShieldElementConfig) (runtime : Runtime Env)

/-- The rollbacks that the executor has signalled. -/
def signals (x : ExecutorState Env) : List RollbackSignal :=
  (x.shield.map ShieldState.rollbackSignals).getD []

/-- The call was run with the arguments, but for masks and coerced lists. -/
def Ran (index : Nat) (tc : ToolCall) (dec : ShieldDecision Env) (args : List (String × Json))
    (x x' : ExecutorState Env) : Prop :=
  x'.executions = x.executions ++
      [⟨index, tc.function,
        coerceStringLists runtime (applyMaskArgs args dec.verdict.obligations.maskArgs),
        some dec.toJudgement⟩] ∧
    signals x' = signals x

/-- The call was not run, and its message carries an error. -/
def Skipped (x x' : ExecutorState Env) : Prop :=
  x'.executions = x.executions ∧
    ∃ message, x'.results = x.results ++ [message] ∧ message.error.isSome

/-- The executor has signalled that it restored the snapshot, and restored it. -/
def Restored (dec : ShieldDecision Env) (x x' : ExecutorState Env) : Prop :=
  ∃ signal copy, signals x' = signals x ++ [signal] ∧ signal.layer1EnvRestored = true ∧
    runtime.modelCopy dec.envSnapshot = some copy ∧ x'.restored = some copy

/-- The step from `x` to `x'` does the action to the call. -/
def Performs (index : Nat) (tc : ToolCall) (dec : ShieldDecision Env) (x x' : ExecutorState Env) :
    EnforcementAction → Prop
  | .run => Ran runtime index tc dec tc.args x x'
  | .rewriteRun => ∃ args, dec.verdict.obligations.rewriteArgs = some args ∧
      Ran runtime index tc dec args x x'
  | .skipSynthesize => Skipped x x' ∧ signals x' = signals x
  | .skipRestore => Skipped x x' ∧ Restored runtime dec x x'

/-- The executor does to the call what the evaluation scores it by. -/
def Agrees (index : Nat) (tc : ToolCall) (dec : ShieldDecision Env) (x : ExecutorState Env) :
    Prop :=
  Performs runtime index tc dec x (ShieldedToolsExecutor.execute cfg runtime index tc x)
    (resolveEnforcement dec.verdict tc.function none).action

/-- The escalation of a call is approved. -/
def Approved (tc : ToolCall) (dec : ShieldDecision Env) : Prop :=
  cfg.escalateMode = .approve ∨
    cfg.escalateMode = .live ∧ escalationApproved cfg dec.toJudgement tc.args = true

/-- The calls on which the executor and the evaluation agree.  The evaluation looks at the
verdict and the tool's name only, the executor also at whether the tool exists, at snapshots
and obligations, and at the human's answer. -/
def Coincide (tc : ToolCall) (dec : ShieldDecision Env) : Prop :=
  match dec.verdict.decision with
  | .pass => Runnable runtime tc
  | .alert => Runnable runtime tc
  | .block => True
  | .rollback => Runnable runtime tc ∧ (runtime.modelCopy dec.envSnapshot).isSome
  | .rewrite => Runnable runtime tc ∧ dec.verdict.obligations.rewriteArgs.isSome
  | .escalate =>
      (Runnable runtime tc ∧ Approved cfg tc dec) ↔ tc.function ∉ failClosedTools

/-! ## When they agree -/

theorem signals_setDecision (x : ExecutorState Env) (key : String) (dec : ShieldDecision Env) :
    signals (x.setDecision key (some dec)) = signals x := by
  unfold ExecutorState.setDecision signals
  cases x.shield <;> rfl

theorem signals_noteEscalation (x : ExecutorState Env) (tc : ToolCall) (dec : ShieldDecision Env) :
    signals (x.noteEscalation cfg tc dec) = signals x := by
  unfold ExecutorState.noteEscalation
  split
  · unfold ExecutorState.addHitlSignal signals
    cases x.shield <;> rfl
  · rfl

/-- A rollback is signalled with whether the snapshot was restored. -/
theorem signals_rollBack (x : ExecutorState Env) {key : String} {found : ShieldDecision Env}
    (hFound : x.decisionFor key = some found) (dec : ShieldDecision Env) :
    ∃ signal, signals (x.rollBack runtime dec) = signals x ++ [signal] ∧
      signal.layer1EnvRestored = (runtime.modelCopy dec.envSnapshot).isSome := by
  unfold ExecutorState.rollBack ExecutorState.addRollbackSignal signals
  cases hShield : x.shield with
  | none =>
      unfold ExecutorState.decisionFor at hFound
      rw [hShield] at hFound
      cases hFound
  | some st => exact ⟨_, rfl, rfl⟩

theorem signals_skip (x : ExecutorState Env) (index : Nat) (tc : ToolCall)
    (dec : ShieldDecision Env) :
    signals (x.skip runtime index tc dec) =
      if dec.verdict.decision = .rollback then signals (x.rollBack runtime dec) else signals x := by
  by_cases hRollback : dec.verdict.decision = .rollback
  · simp only [ExecutorState.skip, if_pos hRollback]
    exact signals_setDecision (x.rollBack runtime dec) _ _
  · simp only [ExecutorState.skip, if_neg hRollback]
    exact signals_setDecision x _ _

variable {cfg runtime} {index : Nat} {tc : ToolCall} {dec : ShieldDecision Env}
  {x : ExecutorState Env}

/-- A call that may run is run. -/
theorem execute_ran (hDec : x.decisionFor (toolCallKey tc index) = some dec)
    (hRunnable : Runnable runtime tc) (hMay : mayRun cfg (some dec.toJudgement) tc.args = true) :
    Ran runtime index tc dec (rewritten (some dec.toJudgement) tc.args) x
      (ShieldedToolsExecutor.execute cfg runtime index tc x) := by
  rcases execute_cases cfg runtime index tc x with
    ⟨hNot, -⟩ | ⟨-, hNone, -⟩ | ⟨dec', -, hFound, hDecided⟩
  · exact absurd hRunnable hNot
  · exact absurd (hDec.symm.trans hNone) (Option.some_ne_none _)
  · obtain rfl := Option.some.inj (hDec.symm.trans hFound)
    rcases hDecided with ⟨-, hRun⟩ | ⟨hNot, -⟩
    · rw [hRun]
      refine ⟨?_, ?_⟩
      · show (x.noteEscalation cfg tc dec).executions ++ _ = _
        rw [(noteEscalation_frame cfg x tc dec).1]
        rfl
      · exact (signals_setDecision (x.noteEscalation cfg tc dec) _ _).trans
          (signals_noteEscalation cfg x tc dec)
    · exact absurd hMay hNot

/-- A call that cannot be run is skipped. -/
theorem execute_unrunnable (cfg : ShieldElementConfig) (index : Nat) (x : ExecutorState Env)
    (hNot : ¬ Runnable runtime tc) :
    Skipped x (ShieldedToolsExecutor.execute cfg runtime index tc x) ∧
      signals (ShieldedToolsExecutor.execute cfg runtime index tc x) = signals x := by
  obtain ⟨error, hRefused⟩ := execute_refused cfg hNot index x
  rw [hRefused]
  exact ⟨⟨rfl, _, rfl, rfl⟩, rfl⟩

/-- A call that may not run is skipped under its decision. -/
theorem execute_skip (hDec : x.decisionFor (toolCallKey tc index) = some dec)
    (hRunnable : Runnable runtime tc) (hMay : mayRun cfg (some dec.toJudgement) tc.args = false) :
    ShieldedToolsExecutor.execute cfg runtime index tc x =
      (x.noteEscalation cfg tc dec).skip runtime index tc dec := by
  rcases execute_cases cfg runtime index tc x with
    ⟨hNot, -⟩ | ⟨-, hNone, -⟩ | ⟨dec', -, hFound, hDecided⟩
  · exact absurd hRunnable hNot
  · exact absurd (hDec.symm.trans hNone) (Option.some_ne_none _)
  · obtain rfl := Option.some.inj (hDec.symm.trans hFound)
    rcases hDecided with ⟨hYes, -⟩ | ⟨-, hSkip⟩
    · rw [hMay] at hYes
      exact absurd hYes Bool.false_ne_true
    · exact hSkip

theorem execute_skipped (hDec : x.decisionFor (toolCallKey tc index) = some dec)
    (hRunnable : Runnable runtime tc) (hMay : mayRun cfg (some dec.toJudgement) tc.args = false) :
    Skipped x (ShieldedToolsExecutor.execute cfg runtime index tc x) := by
  have hDec' : (x.noteEscalation cfg tc dec).decisionFor (toolCallKey tc index) = some dec :=
    (decisionFor_noteEscalation _ _ _ _).trans hDec
  obtain ⟨hExecutions, -, -, hResults⟩ := noteEscalation_frame cfg x tc dec
  obtain ⟨dec', message, hLeaves, -, hError⟩ := skip_leaves runtime hDec'
  rw [execute_skip hDec hRunnable hMay]
  refine ⟨(skip_spec runtime hDec').2.trans hExecutions, message, ?_, hError⟩
  rw [hLeaves.results, hResults]

/-- What is signalled of a call that is skipped. -/
theorem execute_signals (hDec : x.decisionFor (toolCallKey tc index) = some dec)
    (hRunnable : Runnable runtime tc) (hMay : mayRun cfg (some dec.toJudgement) tc.args = false) :
    (dec.verdict.decision ≠ .rollback →
      signals (ShieldedToolsExecutor.execute cfg runtime index tc x) = signals x) ∧
    (dec.verdict.decision = .rollback →
      (Restored runtime dec x (ShieldedToolsExecutor.execute cfg runtime index tc x) ↔
        (runtime.modelCopy dec.envSnapshot).isSome)) := by
  have hNoted := signals_noteEscalation cfg x tc dec
  rw [execute_skip hDec hRunnable hMay]
  constructor
  · intro hOther
    rw [signals_skip, if_neg hOther, hNoted]
  · intro hRollback
    have hDec' : (x.noteEscalation cfg tc dec).decisionFor (toolCallKey tc index) = some dec :=
      (decisionFor_noteEscalation _ _ _ _).trans hDec
    obtain ⟨signal, hSignals, hLayer⟩ :=
      signals_rollBack runtime (x.noteEscalation cfg tc dec) hDec' dec
    constructor
    · rintro ⟨_, copy, -, -, hCopy, -⟩
      exact Option.isSome_of_eq_some hCopy
    · intro hCopied
      obtain ⟨copy, hCopy⟩ := Option.isSome_iff_exists.1 hCopied
      refine ⟨signal, copy, ?_, hLayer.trans hCopied, hCopy, ?_⟩
      · rw [signals_skip, if_pos hRollback, hSignals, hNoted]
      · rw [(skip_env runtime _ index tc dec).2, if_pos hRollback, hCopy, Option.some_or]

/-- A run is no skip. -/
theorem Ran.not_skipped {args : List (String × Json)} {x' : ExecutorState Env}
    (h : Ran runtime index tc dec args x x') : ¬ Skipped x x' := by
  rintro ⟨hSame, -⟩
  have hMore := congrArg List.length (h.1.symm.trans hSame)
  rw [List.length_append, List.length_singleton] at hMore
  omega

/-- A call is run unchanged when it can run and may run. -/
theorem performs_run_iff (hDec : x.decisionFor (toolCallKey tc index) = some dec)
    (hKind : dec.verdict.decision ≠ .rewrite) :
    Performs runtime index tc dec x (ShieldedToolsExecutor.execute cfg runtime index tc x) .run ↔
      Runnable runtime tc ∧ mayRun cfg (some dec.toJudgement) tc.args = true := by
  constructor
  · intro hRan
    by_cases hRunnable : Runnable runtime tc
    · refine ⟨hRunnable, ?_⟩
      by_contra hMay
      exact hRan.not_skipped (execute_skipped hDec hRunnable (Bool.eq_false_of_not_eq_true hMay))
    · exact absurd (execute_unrunnable cfg index x hRunnable).1 hRan.not_skipped
  · rintro ⟨hRunnable, hMay⟩
    have hRan := execute_ran hDec hRunnable hMay
    have hArgs : rewritten (some dec.toJudgement) tc.args = tc.args := if_neg hKind
    rwa [hArgs] at hRan

/-- A call is run rewritten when it can run and its verdict has other arguments. -/
theorem performs_rewriteRun_iff (hDec : x.decisionFor (toolCallKey tc index) = some dec)
    (hKind : dec.verdict.decision = .rewrite) :
    Performs runtime index tc dec x (ShieldedToolsExecutor.execute cfg runtime index tc x)
        .rewriteRun ↔
      Runnable runtime tc ∧ dec.verdict.obligations.rewriteArgs.isSome := by
  constructor
  · rintro ⟨args, hArgs, hRan⟩
    refine ⟨?_, Option.isSome_of_eq_some hArgs⟩
    by_contra hNot
    exact hRan.not_skipped (execute_unrunnable cfg index x hNot).1
  · rintro ⟨hRunnable, hSome⟩
    obtain ⟨args, hArgs⟩ := Option.isSome_iff_exists.1 hSome
    have hMay : mayRun cfg (some dec.toJudgement) tc.args = true := by
      unfold mayRun
      simp only [hKind]
    have hRan := execute_ran hDec hRunnable hMay
    have hRewritten : rewritten (some dec.toJudgement) tc.args = args := by
      refine (if_pos hKind).trans ?_
      rw [hArgs, Option.getD_some]
    rw [hRewritten] at hRan
    exact ⟨args, hArgs, hRan⟩

/-- A call is skipped without a rollback when it cannot run or may not run. -/
theorem performs_skipSynthesize_iff (hDec : x.decisionFor (toolCallKey tc index) = some dec)
    (hKind : dec.verdict.decision ≠ .rollback) :
    Performs runtime index tc dec x (ShieldedToolsExecutor.execute cfg runtime index tc x)
        .skipSynthesize ↔
      ¬ (Runnable runtime tc ∧ mayRun cfg (some dec.toJudgement) tc.args = true) := by
  constructor
  · rintro ⟨hSkipped, -⟩ ⟨hRunnable, hMay⟩
    exact (execute_ran hDec hRunnable hMay).not_skipped hSkipped
  · intro hNot
    by_cases hRunnable : Runnable runtime tc
    · have hMay : mayRun cfg (some dec.toJudgement) tc.args = false :=
        Bool.eq_false_of_not_eq_true fun hMay => hNot ⟨hRunnable, hMay⟩
      exact ⟨execute_skipped hDec hRunnable hMay, (execute_signals hDec hRunnable hMay).1 hKind⟩
    · exact execute_unrunnable cfg index x hRunnable

/-- A rolled back call restores the snapshot when it can run and the snapshot can be copied. -/
theorem performs_skipRestore_iff (hDec : x.decisionFor (toolCallKey tc index) = some dec)
    (hKind : dec.verdict.decision = .rollback) :
    Performs runtime index tc dec x (ShieldedToolsExecutor.execute cfg runtime index tc x)
        .skipRestore ↔
      Runnable runtime tc ∧ (runtime.modelCopy dec.envSnapshot).isSome := by
  have hMay : mayRun cfg (some dec.toJudgement) tc.args = false := by
    unfold mayRun
    simp only [hKind]
  constructor
  · rintro ⟨-, hRestored⟩
    by_cases hRunnable : Runnable runtime tc
    · exact ⟨hRunnable, ((execute_signals hDec hRunnable hMay).2 hKind).1 hRestored⟩
    · obtain ⟨signal, copy, hMore, -⟩ := hRestored
      have hSame := (execute_unrunnable cfg index x hRunnable).2
      have hLength := congrArg List.length (hMore.symm.trans hSame)
      rw [List.length_append, List.length_singleton] at hLength
      omega
  · rintro ⟨hRunnable, hCopied⟩
    exact ⟨execute_skipped hDec hRunnable hMay,
      ((execute_signals hDec hRunnable hMay).2 hKind).2 hCopied⟩

theorem Agrees.performs (h : Agrees cfg runtime index tc dec x) {action : EnforcementAction}
    (hAction : (resolveEnforcement dec.verdict tc.function none).action = action) :
    Performs runtime index tc dec x (ShieldedToolsExecutor.execute cfg runtime index tc x)
      action :=
  hAction ▸ h

theorem mayRun_escalate (hKind : dec.verdict.decision = .escalate) :
    mayRun cfg (some dec.toJudgement) tc.args = true ↔ Approved cfg tc dec := by
  unfold mayRun Approved
  simp only [hKind]
  cases cfg.escalateMode <;> simp

/-- **Agreement, with its exact condition.**  For every mode and every handler of the
executor, every tool and every verdict.  A block is the only decision on which the two agree
about every call. -/
theorem agrees_iff (hDec : x.decisionFor (toolCallKey tc index) = some dec) :
    Agrees cfg runtime index tc dec x ↔ Coincide cfg runtime tc dec := by
  unfold Agrees Coincide resolveEnforcement
  cases hKind : dec.verdict.decision with
  | pass =>
      refine (performs_run_iff hDec (by rw [hKind]; decide)).trans (and_iff_left ?_)
      unfold mayRun
      simp only [hKind]
  | alert =>
      refine (performs_run_iff hDec (by rw [hKind]; decide)).trans (and_iff_left ?_)
      unfold mayRun
      simp only [hKind]
  | block =>
      refine (performs_skipSynthesize_iff hDec (by rw [hKind]; decide)).trans
        (iff_true_intro ?_)
      unfold mayRun
      simp only [hKind]
      exact fun h => Bool.false_ne_true h.2
  | rollback => exact performs_skipRestore_iff hDec hKind
  | rewrite => exact performs_rewriteRun_iff hDec hKind
  | escalate =>
      simp only [Option.getD_none, Bool.false_eq_true, if_false, true_and]
      have hRun : Performs runtime index tc dec x
          (ShieldedToolsExecutor.execute cfg runtime index tc x) .run ↔ _ :=
        performs_run_iff hDec (by rw [hKind]; decide)
      have hSkip : Performs runtime index tc dec x
          (ShieldedToolsExecutor.execute cfg runtime index tc x) .skipSynthesize ↔ _ :=
        performs_skipSynthesize_iff hDec (by rw [hKind]; decide)
      rw [mayRun_escalate hKind] at hRun hSkip
      by_cases hClosed : tc.function ∈ failClosedTools
      · rw [if_pos hClosed]
        refine hSkip.trans ?_
        simp only [hClosed, not_true, iff_false]
      · rw [if_neg hClosed]
        refine hRun.trans ?_
        simp only [hClosed, not_false_iff, iff_true]

end Performs

/-! ## Escalations -/

namespace Sample

def call (function : String) : ToolCall := ⟨some "1", function, []⟩

/-- The decision on a call, with this verdict. -/
def judged (verdict : GovernanceVerdict) (tc : ToolCall) : ShieldDecision Unit where
  preRecord := preRecord Sdk.Sample.prim Sdk.Sample.config
    ({ runId := "run" } : ShieldState Unit) tc
    ⟨"record", "correlation", "nonce", 1, "verdict"⟩
  verdict := verdict
  envSnapshot := ()
  degraded := false

/-- The executor before the call. -/
def holding (dec : ShieldDecision Unit) : ExecutorState Unit where
  env := ()
  shield := some { runId := "run", decisions := [("1", dec)] }

def verdictOf (decision : Decision) : GovernanceVerdict where
  verdictId := "verdict"
  correlationId := "correlation"
  decision := decision

end Sample

/-- **No mode agrees.**  The executor treats the escalations of a payment and of a read alike,
and the evaluation does not. -/
theorem no_escalate_mode_agrees :
    ¬ ∃ mode : EscalateMode, ∀ function ∈ Sdk.Sample.runtime.functions,
      ∀ verdict : GovernanceVerdict,
        Agrees { Sdk.Sample.config with escalateMode := mode } Sdk.Sample.runtime 0
          (Sample.call function) (Sample.judged verdict (Sample.call function))
          (Sample.holding (Sample.judged verdict (Sample.call function))) := by
  rintro ⟨mode, h⟩
  have hSkip : (resolveEnforcement (Sample.verdictOf .escalate) "send_money" none).action =
      .skipSynthesize := by decide
  have hRun : (resolveEnforcement (Sample.verdictOf .escalate) "get_balance" none).action =
      .run := by decide
  have hPayment := (h "send_money" (by decide) (Sample.verdictOf .escalate)).performs hSkip
  have hRead := (h "get_balance" (by decide) (Sample.verdictOf .escalate)).performs hRun
  have hBlocked := (performs_skipSynthesize_iff rfl (by decide)).1 hPayment
  have hAllowed := (performs_run_iff rfl (by decide)).1 hRead
  cases mode with
  | block => exact absurd hAllowed.2 (by decide)
  | approve => exact hBlocked ⟨by decide, rfl⟩
  | live => exact absurd hAllowed.2 (by decide)

/-- They agree on a read that passes. -/
theorem agrees_sample :
    Agrees Sdk.Sample.config Sdk.Sample.runtime 0 (Sample.call "get_balance")
      (Sample.judged (Sample.verdictOf .pass) (Sample.call "get_balance"))
      (Sample.holding (Sample.judged (Sample.verdictOf .pass) (Sample.call "get_balance"))) := by
  have hRunnable : Runnable Sdk.Sample.runtime (Sample.call "get_balance") := by decide
  exact (agrees_iff rfl).2 hRunnable

end AgentShield.Eval
