import Mathlib.Tactic.Linarith
import AgentShield.Eval.MockDecide
import AgentShield.Sdk.Rollback
import AgentShield.Sdk.RunId

/-!
# The caps on what is run

The mock gate counts an amount before its verdict arrives, and a verdict can be lost.  Here
is what of its caps reaches the tools: the amounts of the transfers that a pipeline runs are
among those counted, so the caps hold of them in every run exactly when the pipeline's fail
policy is closed for every money tool (`caps_hold_iff`).
-/

namespace AgentShield.Eval

open AgentShield.Lib AgentShield.Sdk AgentShield.Governance

/-! ## A pipeline over the provider -/

section Guarded

variable {S Env : Type} (text : PyText) (mock : MockDecideConfig)
  (reaches : ShieldActionRecord → S → Bool) (base : Client S) (prim : Primitives)
  (cfg : ShieldElementConfig) (runtime : Runtime Env) (env : Env)

/-- The transfer of a tool call of a run, if it is one that can be read. -/
def transferOf (runId : String) (tc : ToolCall) : Option Grant :=
  if tc.function ∈ moneyTools then
    (amountRead text tc.args).toOption.map fun amount =>
      ⟨(orElse runId "run-shield", argText text tc.args "recipient"), amount⟩
  else none

/-- No money tool runs without a verdict. -/
def ClosedForMoney : Prop := ∀ tool ∈ moneyTools, cfg.failPolicy.failModeFor tool = .closed

variable {text mock reaches base prim cfg runtime env} {grants : List Grant}

theorem requestOf_preRecord (st : ShieldState Env) (tc : ToolCall) (draw : Draw) :
    (requestOf (preRecord prim cfg st tc draw)).toolName = tc.function := by
  show ((Sdk.orText (some tc.function)).or (Sdk.orText (some tc.function))).getD "" = tc.function
  unfold Sdk.orText
  by_cases hEmpty : tc.function = ""
  · simp [hEmpty]
  · simp [hEmpty]

theorem transfer_preRecord (st : ShieldState Env) (tc : ToolCall) (draw : Draw) :
    (requestOf (preRecord prim cfg st tc draw)).transfer text = transferOf text st.runId tc := by
  unfold DecideRequest.transfer transferOf
  rw [requestOf_preRecord]
  rfl

theorem transferOf_of_notMem {runId : String} {tc : ToolCall}
    (hMoney : tc.function ∉ moneyTools) : transferOf text runId tc = none := by
  unfold transferOf
  rw [if_neg hMoney]

variable (text reaches base) in
/-- **One request of the client**, whether or not its verdict arrives: the gate counts the
amount before the verdict is sent, so that a lost verdict leaves the totals too large and
never too small. -/
theorem mockClient_keeps (pre : ShieldActionRecord) (s : S × Cumulative)
    (h : Keeps mock s.2 grants) :
    ∃ counted, Keeps mock ((mockClient text mock reaches base).decide pre s).2.2
        (grants ++ counted) ∧
      counted.Sublist ((requestOf pre).transfer text).toList ∧
      ∀ verdict, ((mockClient text mock reaches base).decide pre s).1 = .ok verdict →
        verdict.decision = .pass ∧ counted = ((requestOf pre).transfer text).toList ∨
          (requestOf pre).toolName ∈ moneyTools ∧
            (verdict.decision = .block ∨ verdict.decision = .escalate) := by
  have hNothing : Keeps mock s.2 (grants ++ []) := by rwa [List.append_nil]
  simp only [mockClient]
  cases hBase : (base.decide pre s.1).1 with
  | ok answer =>
      cases hAnswer : MockDecide.decide text mock answer.verdictId (requestOf pre) s.2 with
      | error exc =>
          simp only [hAnswer]
          exact ⟨[], hNothing, List.nil_sublist _, fun _ hOk => by cases hOk⟩
      | ok decided =>
          obtain ⟨counted, hKeeps, hSub, hVerdict⟩ := decide_keeps h hAnswer
          simp only [hAnswer]
          refine ⟨counted, hKeeps, hSub, fun verdict hOk => ?_⟩
          rw [← Except.ok.inj hOk]
          exact hVerdict
  | error exc =>
      cases hAnswer : MockDecide.decide text mock "" (requestOf pre) s.2 with
      | error _ =>
          exact ⟨[], hNothing, List.nil_sublist _, fun _ hOk => by cases hOk⟩
      | ok decided =>
          obtain ⟨counted, hKeeps, hSub, -⟩ := decide_keeps h hAnswer
          by_cases hReaches : reaches pre s.1 = true
          · simp only [hReaches, if_true]
            exact ⟨counted, hKeeps, hSub, fun _ hOk => by cases hOk⟩
          · simp only [hReaches, Bool.false_eq_true, if_false]
            exact ⟨[], hNothing, List.nil_sublist _, fun _ hOk => by cases hOk⟩

/-- A verdict that arrives is the guard's. -/
theorem verdict_of_answer {σ : Type} {client : Client σ} {tc : ToolCall} {st : ShieldState Env}
    {s : σ} {verdict : GovernanceVerdict}
    (h : (client.decide (preRecord prim cfg st tc (client.draw s).1) (client.draw s).2).1 =
      .ok verdict) :
    (ShieldGuard.decide prim client cfg runtime env tc st s).1.verdict = verdict := by
  show (gateVerdict cfg _ tc _ (client.decide (preRecord prim cfg st tc (client.draw s).1)
    (client.draw s).2).1).1 = verdict
  rw [h]
  rfl

/-- Without a verdict the fail policy decides. -/
theorem decision_of_failure {σ : Type} {client : Client σ} {tc : ToolCall} {st : ShieldState Env}
    {s : σ} {exc : RequestFailure}
    (h : (client.decide (preRecord prim cfg st tc (client.draw s).1) (client.draw s).2).1 =
      .error exc) :
    (ShieldGuard.decide prim client cfg runtime env tc st s).1.verdict.decision =
      match cfg.failPolicy.failModeFor tc.function with
      | .opened => .alert
      | .closed => .block := by
  show (gateVerdict cfg _ tc _ (client.decide (preRecord prim cfg st tc (client.draw s).1)
    (client.draw s).2).1).1.decision = _
  rw [h]
  rfl

variable (text reaches base prim runtime env) in
/-- **One decision of the guard.**  The ledger grows by the call's transfer or by nothing, and
it grows by it when the call may be run. -/
theorem guard_keeps (hClosed : ClosedForMoney cfg) (hMode : cfg.escalateMode = .block)
    (tc : ToolCall) (st : ShieldState Env) (s : S × Cumulative) (h : Keeps mock s.2 grants) :
    ∃ counted,
      Keeps mock
        (ShieldGuard.decide prim (mockClient text mock reaches base) cfg runtime env tc st s).2.2
        (grants ++ counted) ∧
      counted.Sublist (transferOf text st.runId tc).toList ∧
      (Permits cfg
        (ShieldGuard.decide prim (mockClient text mock reaches base) cfg runtime env tc st
          s).1.toJudgement tc.args →
        counted = (transferOf text st.runId tc).toList) := by
  obtain ⟨counted, hKeeps, hSub, hVerdict⟩ := mockClient_keeps text reaches base
    (preRecord prim cfg st tc (base.draw s.1).1)
    ((base.draw s.1).2, s.2) h
  rw [transfer_preRecord] at hSub
  refine ⟨counted, hKeeps, hSub, fun hPermits => ?_⟩
  unfold Permits at hPermits
  cases hAnswer : ((mockClient text mock reaches base).decide
      (preRecord prim cfg st tc (base.draw s.1).1) ((base.draw s.1).2, s.2)).1 with
  | ok verdict =>
      rw [verdict_of_answer hAnswer] at hPermits
      rcases hVerdict verdict hAnswer with hPass | hRefused
      · rw [hPass.2, transfer_preRecord]
      · rcases hRefused.2 with hBlock | hEscalate
        · simp [hBlock] at hPermits
        · simp [hEscalate, hMode] at hPermits
  | error exc =>
      rw [decision_of_failure hAnswer] at hPermits
      by_cases hMoney : tc.function ∈ moneyTools
      · simp [hClosed _ hMoney] at hPermits
      · rw [transferOf_of_notMem hMoney] at hSub ⊢
        exact List.sublist_nil.1 hSub

/-- The calls that the decisions on them let run. -/
def letRun (cfg : ShieldElementConfig) (tcs : List ToolCall) (decs : List (ShieldDecision Env)) :
    List ToolCall :=
  ((tcs.zip decs).filter fun p => mayRun cfg (some p.2.toJudgement) p.1.args).map Prod.fst

variable (text reaches base prim runtime env) in
/-- **The guard's loop.**  The ledger grows by transfers of the message, among them those of
the calls that may be run. -/
theorem guardLoop_keeps (hClosed : ClosedForMoney cfg) (hMode : cfg.escalateMode = .block)
    (index : Nat) (tcs : List ToolCall) (st : ShieldState Env) (s : S × Cumulative)
    (h : Keeps mock s.2 grants) :
    ∃ counted,
      Keeps mock (ShieldGuard.loop prim (mockClient text mock reaches base) cfg runtime env index
        tcs st s).2.2 (grants ++ counted) ∧
      counted.Sublist (tcs.filterMap (transferOf text st.runId)) ∧
      ((letRun cfg tcs (ShieldGuard.issued prim (mockClient text mock reaches base) cfg runtime
        env index tcs st s)).filterMap (transferOf text st.runId)).Sublist counted := by
  induction tcs generalizing index st s grants with
  | nil => exact ⟨[], by rwa [List.append_nil], List.Sublist.refl _, List.Sublist.refl _⟩
  | cons tc tcs ih =>
      obtain ⟨first, hFirst, hAsked, hRun⟩ := guard_keeps text reaches base prim runtime env
        hClosed hMode tc st s h
      obtain ⟨rest, hRest, hRestAsked, hRestRun⟩ := ih (index + 1)
        (st.decided prim index tc (ShieldGuard.decide prim (mockClient text mock reaches base)
          cfg runtime env tc st s).1) _ hFirst
      have hCons : ∀ calls, (tc :: calls).filterMap (transferOf text st.runId) =
          (transferOf text st.runId tc).toList ++ calls.filterMap (transferOf text st.runId) := by
        intro calls
        rw [List.filterMap_cons]
        cases transferOf text st.runId tc <;> rfl
      refine ⟨first ++ rest, ?_, ?_, ?_⟩
      · rw [← List.append_assoc]
        exact hRest
      · rw [hCons]
        exact hAsked.append hRestAsked
      · unfold ShieldGuard.issued letRun
        rw [List.zip_cons_cons, List.filter_cons]
        by_cases hMay : mayRun cfg (some (ShieldGuard.decide prim (mockClient text mock reaches
            base) cfg runtime env tc st s).1.toJudgement) tc.args = true
        · rw [if_pos hMay, List.map_cons, hCons, ← hRun (mayRun_iff.1 hMay)]
          exact (List.Sublist.refl _).append hRestRun
        · rw [if_neg hMay]
          exact hRestRun.trans (List.sublist_append_right _ _)

end Guarded

/-! ## What is run -/

section Ran

variable {σ Env : Type} {prim : Primitives} {client : Client σ} {cfg : ShieldElementConfig}
  {runtime : Runtime Env} {env : Env} {messages : List Message} {extra : ExtraArgs Env}

/-- The calls of a message that were run. -/
def ranCalls (messages : List Message) (executions : List Execution) : List ToolCall :=
  executions.filterMap fun e => (pendingToolCalls messages)[e.index]?

/-- What stands at kept positions of one list is a part of what is kept of another. -/
theorem sublist_of_positions {α β : Type} {f : α × Nat → Option α} {keep : α × β → Bool}
    (xs : List α) (ys : List β) (n : Nat)
    (h : ∀ k x c, xs[k]? = some x → f (x, n + k) = some c →
      c = x ∧ ∃ y, ys[k]? = some y ∧ keep (x, y) = true) :
    ((xs.zipIdx n).filterMap f).Sublist (((xs.zip ys).filter keep).map Prod.fst) := by
  induction xs generalizing ys n with
  | nil => exact List.nil_sublist _
  | cons x xs ih =>
      rw [List.zipIdx_cons, List.filterMap_cons]
      have hFirst : ∀ c, f (x, n) = some c → c = x ∧ ∃ y, ys[0]? = some y ∧ keep (x, y) = true :=
        fun c hc => h 0 x c rfl hc
      have hRest : ∀ k x' c, xs[k]? = some x' → f (x', n + 1 + k) = some c →
          c = x' ∧ ∃ y, ys.tail[k]? = some y ∧ keep (x', y) = true := by
        intro k x' c hx hc
        rw [show n + 1 + k = n + (k + 1) by omega] at hc
        rw [List.getElem?_tail]
        exact h (k + 1) x' c hx hc
      have ihStep := ih ys.tail (n + 1) hRest
      cases hf : f (x, n) with
      | none =>
          refine ihStep.trans ?_
          cases ys with
          | nil => simp
          | cons y ys =>
              rw [List.zip_cons_cons, List.filter_cons]
              split
              · exact List.sublist_cons_self _ _
              · exact List.Sublist.refl _
      | some c =>
          obtain ⟨rfl, y, hy, hKeep⟩ := hFirst c hf
          cases ys with
          | nil => cases hy
          | cons y' ys =>
              obtain rfl : y' = y := Option.some.inj hy
              rw [List.zip_cons_cons, List.filter_cons, if_pos hKeep]
              exact ihStep.cons_cons _

variable (prim client cfg env extra) in
/-- Without later twins, the calls that are run are let run by the decisions on them. -/
theorem ranCalls_sublist (s : σ) (hTwins : NoLaterTwin runtime (pendingToolCalls messages)) :
    (ranCalls messages (auditRound prim client cfg runtime messages env extra
        s).1.executed.executions).Sublist
      (letRun cfg (pendingToolCalls messages)
        (ShieldGuard.issuedFor prim client cfg runtime env messages extra s)) := by
  have hMediated : Mediated prim client cfg runtime env messages extra s :=
    mediated_of_noLaterTwin s hTwins
  show (ranCalls messages (ShieldedToolsExecutor.query cfg runtime env messages
    (ShieldGuard.query prim client cfg runtime env messages extra s).1).executions).Sublist _
  unfold ranCalls
  rw [query_executions]
  unfold messageRuns letRun
  rw [List.filterMap_filterMap]
  refine sublist_of_positions _ _ 0 fun k tc c hTc hRan => ?_
  rw [Nat.zero_add] at hRan
  obtain ⟨e, hRun, hIndex⟩ := Option.bind_eq_some_iff.1 hRan
  obtain ⟨tc', dec, hTc', hIssued, hBy⟩ := hMediated e (by
    rw [query_executions]
    exact List.mem_filterMap.2 ⟨(tc, k), List.mem_zipIdx_iff_getElem?.2 hTc, hRun⟩)
  have hAt : e.index = k := by
    unfold executionOf at hRun
    simp only [Option.ite_none_right_eq_some, Option.some.injEq] at hRun
    rw [← hRun.2]
  rw [hAt] at hTc' hIndex hIssued
  obtain rfl : tc = tc' := Option.some.inj (hTc.symm.trans hTc')
  obtain rfl : tc = c := Option.some.inj (hTc.symm.trans hIndex)
  exact ⟨rfl, dec, hIssued, mayRun_iff.2 hBy.permitted⟩

end Ran

/-! ## Sums of amounts -/

/-- The amount is a finite number that is not negative. -/
def Sane (amount : PyFloat) : Prop := ∃ q : Rat, amount = .finite q ∧ 0 ≤ q

theorem foldl_sublist {xs ys : List PyFloat} (h : xs.Sublist ys) (hSane : ∀ y ∈ ys, Sane y) :
    ∃ a b : Rat, a ≤ b ∧
      (∀ p : Rat, xs.foldl (· + ·) (PyFloat.finite p) = .finite (p + a)) ∧
      ∀ p : Rat, ys.foldl (· + ·) (PyFloat.finite p) = .finite (p + b) := by
  induction h with
  | slnil => exact ⟨0, 0, le_refl 0, fun p => by simp, fun p => by simp⟩
  | @cons xs ys y h ih =>
      obtain ⟨a, b, hLe, hXs, hYs⟩ := ih fun y hy => hSane y (List.mem_cons_of_mem _ hy)
      obtain ⟨q, rfl, hNonneg⟩ := hSane y List.mem_cons_self
      refine ⟨a, q + b, by linarith, hXs, fun p => ?_⟩
      rw [List.foldl_cons, PyFloat.finite_add, hYs, add_assoc]
  | @cons_cons xs ys y h ih =>
      obtain ⟨a, b, hLe, hXs, hYs⟩ := ih fun y hy => hSane y (List.mem_cons_of_mem _ hy)
      obtain ⟨q, rfl, -⟩ := hSane y List.mem_cons_self
      refine ⟨q + a, q + b, by linarith, fun p => ?_, fun p => ?_⟩
      · rw [List.foldl_cons, PyFloat.finite_add, hXs, add_assoc]
      · rw [List.foldl_cons, PyFloat.finite_add, hYs, add_assoc]

/-- A part of some amounts adds up to no more than all of them. -/
theorem sum_sublist {xs ys : List PyFloat} (h : xs.Sublist ys) (hSane : ∀ y ∈ ys, Sane y) :
    ∃ a b : Rat, PyFloat.sum xs = .finite a ∧ PyFloat.sum ys = .finite b ∧ a ≤ b := by
  obtain ⟨a, b, hLe, hXs, hYs⟩ := foldl_sublist h hSane
  exact ⟨0 + a, 0 + b, hXs 0, hYs 0, by linarith⟩

theorem not_exceeded_of_le {limit : PyFloat} {a b : Rat} (h : ¬ limit < .finite b) (hLe : a ≤ b) :
    ¬ limit < .finite a := by
  cases limit with
  | finite q =>
      rw [PyFloat.finite_lt] at h ⊢
      linarith
  | negInf => exact absurd rfl h
  | inf => exact fun hLt => Bool.false_ne_true hLt
  | nan => exact fun hLt => Bool.false_ne_true hLt

/-! ## Whole runs -/

section Runs

variable {Env : Type} (text : PyText) (mock : MockDecideConfig)

/-- The calls that the rounds of a run ran. -/
def callsRun (rounds : List (Round Env)) : List ToolCall :=
  rounds.flatMap fun r => ranCalls r.messages r.executed.executions

/-- What a call sends to a recipient. -/
def amountTo (recipient : String) (tc : ToolCall) : Option PyFloat :=
  if tc.function ∈ moneyTools ∧ argText text tc.args "recipient" = recipient then
    (amountRead text tc.args).toOption
  else none

/-- The amounts that the calls that were run have sent to a recipient. -/
def paidTo (recipient : String) (rounds : List (Round Env)) : List PyFloat :=
  (callsRun rounds).filterMap (amountTo text recipient)

/-- No amount is over the single cap, and they are together not over the cumulative cap. -/
structure WithinCaps (amounts : List PyFloat) : Prop where
  single : ∀ amount ∈ amounts, ¬ mock.singleCap < amount
  total : amounts ≠ [] → ¬ mock.cumulativeCap < PyFloat.sum amounts

/-- The amount of a transfer is a finite number that is not negative. -/
def SaneTransfer (tc : ToolCall) : Prop :=
  tc.function ∈ moneyTools → ∀ amount, amountRead text tc.args = .ok amount → Sane amount

variable {text mock}

theorem sane_of_transferOf {runId : String} {tc : ToolCall} {g : Grant}
    (hSane : SaneTransfer text tc) (h : transferOf text runId tc = some g) : Sane g.amount := by
  by_cases hMoney : tc.function ∈ moneyTools
  · unfold transferOf at h
    rw [if_pos hMoney] at h
    cases hAmount : amountRead text tc.args with
    | error exc =>
        rw [hAmount] at h
        cases h
    | ok amount =>
        rw [hAmount] at h
        rw [← Option.some.inj h]
        exact hSane hMoney amount hAmount
  · rw [transferOf_of_notMem hMoney] at h
    cases h

/-- The amounts to a recipient are those under its key. -/
theorem granted_transfers (runId recipient : String) (calls : List ToolCall) :
    granted (calls.filterMap (transferOf text runId)) (orElse runId "run-shield", recipient) =
      calls.filterMap (amountTo text recipient) := by
  induction calls with
  | nil => rfl
  | cons tc calls ih =>
      rw [List.filterMap_cons, List.filterMap_cons, ← ih]
      unfold transferOf amountTo
      by_cases hMoney : tc.function ∈ moneyTools
      · cases hAmount : amountRead text tc.args with
        | error exc => simp [hMoney, Except.toOption]
        | ok amount =>
            by_cases hRecipient : argText text tc.args "recipient" = recipient
            · simp [hMoney, hRecipient, Except.toOption, granted]
            · simp [hMoney, hRecipient, Except.toOption, granted]
      · simp [hMoney]

end Runs

section Rounds

variable {S Env : Type} {text : PyText} {mock : MockDecideConfig}
  {reaches : ShieldActionRecord → S → Bool} {base : Client S} {prim : Primitives}
  {cfg : ShieldElementConfig} {runtime : Runtime Env} {grants : List Grant}

theorem submitDecision_cumulative (key : String) (dec : ShieldDecision Env)
    (st : ShieldState Env) (s : (S × Cumulative) × List ShieldActionRecord) :
    (ShieldRecorder.submitDecision prim (recording (mockClient text mock reaches base)) cfg key
      dec st s).2.1.2 = s.1.2 := by
  unfold ShieldRecorder.submitDecision
  split <;> rfl

theorem recorderLoop_cumulative (decs : List (String × ShieldDecision Env))
    (st : ShieldState Env) (s : (S × Cumulative) × List ShieldActionRecord) :
    (ShieldRecorder.loop prim (recording (mockClient text mock reaches base)) cfg decs st
      s).2.1.2 = s.1.2 := by
  induction decs generalizing st s with
  | nil => rfl
  | cons entry decs ih => exact (ih _ _).trans (submitDecision_cumulative _ _ st s)

theorem recorder_cumulative (extra : ExtraArgs Env) (s : S × Cumulative)
    (posts : List ShieldActionRecord) :
    (ShieldRecorder.query prim (recording (mockClient text mock reaches base)) cfg extra
      (s, posts)).2.1.2 = s.2 := by
  unfold ShieldRecorder.query
  cases hShield : extra.shield with
  | none => rfl
  | some st => exact recorderLoop_cumulative _ _ _

theorem stateOf_cumulative (extra : ExtraArgs Env) (s : S × Cumulative) :
    (stateOf (mockClient text mock reaches base) cfg extra s).2.2 = s.2 := by
  unfold stateOf
  cases extra.shield with
  | some st => rfl
  | none =>
      cases Sdk.orText cfg.runId with
      | some runId => rfl
      | none => cases Sdk.orText extra.shieldRunId <;> rfl

variable (text reaches base prim) in
/-- **One round** of the pipeline: what the executor runs of its calls is among what the gate
has counted, call by call and in their order. -/
theorem round_keeps (hClosed : ClosedForMoney cfg) (hMode : cfg.escalateMode = .block)
    (messages : List Message) (env : Env) (extra : ExtraArgs Env) (s : S × Cumulative)
    {runId : String} (h : Keeps mock s.2 grants)
    (hTwins : NoLaterTwin runtime (pendingToolCalls messages))
    (hRunId : pendingToolCalls messages ≠ [] →
      (stateOf (mockClient text mock reaches base) cfg extra s).1.runId = runId) :
    let round := auditRound prim (mockClient text mock reaches base) cfg runtime messages env
      extra s
    ∃ counted, Keeps mock round.2.2.2.2 (grants ++ counted) ∧
      counted.Sublist ((pendingToolCalls messages).filterMap (transferOf text runId)) ∧
      ((ranCalls messages round.1.executed.executions).filterMap
        (transferOf text runId)).Sublist counted := by
  intro round
  have hRan := ranCalls_sublist prim (mockClient text mock reaches base) cfg env extra s hTwins
  have hEnd : round.2.2.2.2 = (ShieldGuard.query prim (mockClient text mock reaches base) cfg
      runtime env messages extra s).2.2 := recorder_cumulative _ _ _
  rw [hEnd]
  unfold ShieldGuard.query
  cases hCalls : pendingToolCalls messages with
  | nil =>
      rw [hCalls] at hRan
      refine ⟨[], by rwa [List.append_nil], List.nil_sublist _, ?_⟩
      rw [List.sublist_nil.1 hRan]
      exact List.Sublist.refl _
  | cons first rest =>
      have hStart : Keeps mock (stateOf (mockClient text mock reaches base) cfg extra s).2.2
          grants := by rwa [stateOf_cumulative]
      obtain ⟨counted, hKeeps, hAsked, hLet⟩ := guardLoop_keeps text reaches base prim runtime
        env hClosed hMode 0 (pendingToolCalls messages)
        (stateOf (mockClient text mock reaches base) cfg extra s).1 _ hStart
      rw [hRunId (by simp [hCalls])] at hAsked hLet
      rw [hCalls] at hKeeps hAsked
      exact ⟨counted, hKeeps, hAsked, (hRan.filterMap _).trans hLet⟩

variable (text reaches base prim) in
/-- **A whole run.**  The ledger grows by transfers that were asked for, among them all that
were run. -/
theorem run_keeps (hClosed : ClosedForMoney cfg) (hMode : cfg.escalateMode = .block)
    (rounds : List (List Message)) (env : Env) (extra : ExtraArgs Env) (s : S × Cumulative)
    (h : Keeps mock s.2 grants)
    (hTwins : ∀ messages ∈ rounds, NoLaterTwin runtime (pendingToolCalls messages)) :
    let run := auditedRun prim (mockClient text mock reaches base) cfg runtime rounds env extra s
    let runId := (runIdOf run.2.2.1.shield).getD ""
    ∃ counted, Keeps mock run.2.2.2.2 (grants ++ counted) ∧
      counted.Sublist ((rounds.flatMap pendingToolCalls).filterMap (transferOf text runId)) ∧
      ((callsRun run.1).filterMap (transferOf text runId)).Sublist counted := by
  induction rounds generalizing env extra s grants with
  | nil => exact ⟨[], by rwa [List.append_nil], List.Sublist.refl _, List.Sublist.refl _⟩
  | cons messages rounds ih =>
      intro run runId
      let round := auditRound prim (mockClient text mock reaches base) cfg runtime messages env
        extra s
      -- Once the shield has a state, its run is the run's to the end.
      have hRunId : pendingToolCalls messages ≠ [] →
          (stateOf (mockClient text mock reaches base) cfg extra s).1.runId = runId := by
        intro hCalls
        have hAfter := runIdOf_round prim (mockClient text mock reaches base) cfg runtime env
          messages extra s
        rw [if_neg hCalls] at hAfter
        have hLast := runIdOf_run prim (mockClient text mock reaches base) cfg runtime rounds
          round.2.1 _ round.2.2.2 hAfter
        show _ = (runIdOf run.2.2.1.shield).getD ""
        rw [show runIdOf run.2.2.1.shield = _ from hLast]
        rfl
      obtain ⟨first, hFirst, hFirstAsked, hFirstRan⟩ := round_keeps text reaches base prim
        hClosed hMode messages env extra s h (hTwins messages List.mem_cons_self) hRunId
      obtain ⟨rest, hRest, hRestAsked, hRestRan⟩ := ih round.2.1 round.2.2.1 round.2.2.2 hFirst
        fun m hm => hTwins m (List.mem_cons_of_mem _ hm)
      refine ⟨first ++ rest, ?_, ?_, ?_⟩
      · rw [← List.append_assoc]
        exact hRest
      · rw [List.flatMap_cons, List.filterMap_append]
        exact hFirstAsked.append hRestAsked
      · show ((callsRun (round.1 :: _)).filterMap _).Sublist _
        unfold callsRun
        rw [List.flatMap_cons, List.filterMap_append]
        exact hFirstRan.append hRestRan

variable (text mock reaches base prim) in
/-- The amounts of what is run are among those counted under one key, which are sane. -/
theorem run_granted (hClosed : ClosedForMoney cfg) (hMode : cfg.escalateMode = .block)
    (rounds : List (List Message)) (env : Env) (extra : ExtraArgs Env) (s : S)
    (hTwins : ∀ messages ∈ rounds, NoLaterTwin runtime (pendingToolCalls messages))
    (hSane : ∀ messages ∈ rounds, ∀ tc ∈ pendingToolCalls messages, SaneTransfer text tc)
    (recipient : String) :
    let run := auditedRun prim (mockClient text mock reaches base) cfg runtime rounds env extra
      (s, [])
    ∃ counted key, Keeps mock run.2.2.2.2 counted ∧
      (paidTo text recipient run.1).Sublist (granted counted key) ∧
      ∀ amount ∈ granted counted key, Sane amount := by
  intro run
  obtain ⟨counted, hKeeps, hAsked, hRan⟩ := run_keeps text reaches base prim
    hClosed hMode rounds env extra (s, []) Keeps.nil hTwins
  rw [List.nil_append] at hKeeps
  have hPaid := granted_sublist hRan
    (orElse ((runIdOf run.2.2.1.shield).getD "") "run-shield", recipient)
  rw [granted_transfers] at hPaid
  refine ⟨counted, _, hKeeps, hPaid, fun amount hMem => ?_⟩
  obtain ⟨g, hg, rfl⟩ := List.mem_map.1 hMem
  obtain ⟨tc, hTc, hTransfer⟩ := List.mem_filterMap.1 (hAsked.subset (List.mem_of_mem_filter hg))
  obtain ⟨messages, hMessages, hTc⟩ := List.mem_flatMap.1 hTc
  exact sane_of_transferOf (hSane messages hMessages tc hTc) hTransfer

variable (text mock reaches base prim) in
/-- **The caps hold of what is run.** -/
theorem run_withinCaps (hClosed : ClosedForMoney cfg) (hMode : cfg.escalateMode = .block)
    (rounds : List (List Message)) (env : Env) (extra : ExtraArgs Env) (s : S)
    (hTwins : ∀ messages ∈ rounds, NoLaterTwin runtime (pendingToolCalls messages))
    (hSane : ∀ messages ∈ rounds, ∀ tc ∈ pendingToolCalls messages, SaneTransfer text tc)
    (recipient : String) :
    WithinCaps mock (paidTo text recipient (auditedRun prim (mockClient text mock reaches base)
      cfg runtime rounds env extra (s, [])).1) := by
  obtain ⟨counted, key, hKeeps, hPaid, hAmounts⟩ := run_granted text mock reaches base prim
    hClosed hMode rounds env extra s hTwins hSane recipient
  constructor
  · intro amount hMem
    obtain ⟨g, hg, rfl⟩ := List.mem_map.1 (hPaid.subset hMem)
    exact hKeeps.single g (List.mem_of_mem_filter hg)
  · intro hSome
    obtain ⟨a, b, hA, hB, hLe⟩ := sum_sublist hPaid hAmounts
    have hTotal := hKeeps.cumulative key fun hNone => hSome (by
      rw [hNone] at hPaid
      exact List.sublist_nil.1 hPaid)
    rw [hB] at hTotal
    rw [hA]
    exact not_exceeded_of_le hTotal hLe

/-- **Structuring does not pay.**  Under the default caps no run makes the attack succeed,
whatever is asked for in whatever rounds, and whether or not verdicts are lost on the way. -/
theorem structuring_fails (hClosed : ClosedForMoney cfg) (hMode : cfg.escalateMode = .block)
    (rounds : List (List Message)) (env : Env) (extra : ExtraArgs Env) (s : S)
    (hTwins : ∀ messages ∈ rounds, NoLaterTwin runtime (pendingToolCalls messages))
    (hSane : ∀ messages ∈ rounds, ∀ tc ∈ pendingToolCalls messages, SaneTransfer text tc)
    (recipient : String) :
    agentdojoInjectiontask6Security (paidTo text recipient (auditedRun prim
      (mockClient text {} reaches base) cfg runtime rounds env extra (s, [])).1) = false := by
  obtain ⟨counted, key, -, hPaid, hAmounts⟩ := run_granted text {} reaches base prim
    hClosed hMode rounds env extra s hTwins hSane recipient
  have hCaps := run_withinCaps text {} reaches base prim hClosed hMode rounds env extra s hTwins
    hSane recipient
  unfold agentdojoInjectiontask6Security
  simp only [Bool.or_eq_false_iff, decide_eq_false_iff_not, Bool.not_eq_false', List.all_eq_true,
    decide_eq_true_eq]
  constructor
  · intro hEnough
    obtain ⟨a, b, hA, -, -⟩ := sum_sublist hPaid hAmounts
    have hTotal := hCaps.total fun hNone => by
      rw [hNone] at hEnough
      exact absurd hEnough (by decide)
    rw [hA, PyFloat.finite_le] at hEnough
    rw [hA] at hTotal
    exact hTotal ((PyFloat.finite_lt _ _).2 (by linarith))
  · intro amount hMem
    have hSingle := hCaps.single amount hMem
    obtain ⟨q, rfl, -⟩ := hAmounts amount (hPaid.subset hMem)
    rw [PyFloat.finite_le]
    exact not_lt.1 fun hLt => hSingle ((PyFloat.finite_lt _ _).2 hLt)

end Rounds

/-! ## A lost verdict -/

section Lost

variable {Env : Type} {text : PyText} {mock : MockDecideConfig} {prim : Primitives}
  {cfg : ShieldElementConfig}

/-- A client whose requests all fail on the way. -/
def lostClient : Client Unit where
  newRunId s := ("run", s)
  draw s := (⟨"record", "correlation", "nonce", 1, "verdict"⟩, s)
  decide _ s := (.error ⟨"ConnectError"⟩, s)
  submit _ s := (.ok (), s)

/-- The tools of a host that has only the one. -/
def oneTool (tool : String) : Runtime Unit where
  functions := [tool]
  runFunction env _ _ := ((.null, none), env)
  modelCopy := some
  outputFormatter _ := ""
  emptyFunctionName := ""
  stringList _ := none

def singleTransfer (tool : String) (amount : Rat) : ToolCall where
  id := some "1"
  function := tool
  args := [("recipient", .str "US13"), ("amount", .float (.finite amount))]

theorem noLaterTwin_single (runtime : Runtime Env) (tc : ToolCall) :
    NoLaterTwin runtime [tc] := by
  intro i j _ _ _ hj hLt _
  have hShort := (List.getElem?_eq_some_iff.1 hj).1
  simp only [List.length_singleton] at hShort
  omega

theorem amountTo_single {tool : String} (hMoney : tool ∈ moneyTools) (amount : Rat) :
    amountTo text "US13" (singleTransfer tool amount) = some (.finite amount) := by
  unfold amountTo
  rw [if_pos ⟨hMoney, rfl⟩]
  rfl

theorem saneTransfer_single {tool : String} {amount : Rat} (h : 0 ≤ amount) :
    SaneTransfer text (singleTransfer tool amount) :=
  fun _ _ hRead => ⟨amount, (Except.ok.inj hRead).symm, h⟩

/-- A runnable call is executed on the judgement that is found for it. -/
theorem executionOf_single {tool : String} (hTool : tool ≠ "") {amount : Rat}
    {judged : String → Option Judgement} {judgement : Judgement}
    (hJudged : judged (toolCallKey (singleTransfer tool amount) 0) = some judgement)
    (hMay : mayRun cfg (some judgement) (singleTransfer tool amount).args = true) :
    executionOf cfg (oneTool tool) judged (singleTransfer tool amount) 0 = some
      { index := 0
        function := tool
        args := finalArgs (oneTool tool) (some judgement) (singleTransfer tool amount).args
        judgement := some judgement } := by
  have hRunnable : Runnable (oneTool tool) (singleTransfer tool amount) :=
    ⟨hTool, List.mem_singleton.2 rfl⟩
  unfold executionOf
  simp only [hJudged]
  exact if_pos ⟨hRunnable, hMay⟩

theorem lost_failure (pre : ShieldActionRecord) (s : Unit × Cumulative) :
    ((mockClient text mock (fun _ _ => false) lostClient).decide pre s).1 =
      .error ⟨"ConnectError"⟩ := by
  simp only [mockClient, lostClient]
  cases MockDecide.decide text mock "" (requestOf pre) s.2 <;> rfl

/-- The fail policy makes every decision. -/
theorem issued_lost {runtime : Runtime Env} {env : Env} {index k : Nat} {tcs : List ToolCall}
    {st : ShieldState Env} {s : Unit × Cumulative} {dec : ShieldDecision Env} {tc : ToolCall}
    (h : (ShieldGuard.issued prim (mockClient text mock (fun _ _ => false) lostClient) cfg runtime
      env index tcs st s)[k]? = some dec) (hTc : tcs[k]? = some tc) :
    dec.verdict.decision =
      match cfg.failPolicy.failModeFor tc.function with
      | .opened => .alert
      | .closed => .block := by
  induction tcs generalizing index k st s with
  | nil => cases hTc
  | cons first tcs ih =>
      cases k with
      | zero =>
          obtain rfl := Option.some.inj h
          obtain rfl : first = tc := Option.some.inj hTc
          exact decision_of_failure (lost_failure _ _)
      | succ k => exact ih h hTc

/-- A tool for which the fail policy is open runs on a lost verdict, with any amount: the
degraded verdict is an alert, and an alert lets it run. -/
theorem lost_runs {tool : String} (hTool : tool ≠ "")
    (hOpen : cfg.failPolicy.failModeFor tool = .opened) (amount : Rat) :
    callsRun (auditedRun prim (mockClient text mock (fun _ _ => false) lostClient) cfg
      (oneTool tool) [[.assistant [singleTransfer tool amount]]] () {} ((), [])).1 =
        [singleTransfer tool amount] := by
  let client := mockClient text mock (fun _ _ => false) lostClient
  let messages : List Message := [.assistant [singleTransfer tool amount]]
  obtain ⟨k, tc, dec, -, hTc, -, hIssued, hFound⟩ := judged_after_guard prim client
    cfg (oneTool tool) () {} ((), [])
    (show (pendingToolCalls messages)[0]? = some (singleTransfer tool amount) from rfl)
  have hFirst : k = 0 := by
    have hShort := (List.getElem?_eq_some_iff.1 hTc).1
    have hOne : (pendingToolCalls messages).length = 1 := rfl
    omega
  subst hFirst
  have hAlert : dec.verdict.decision = .alert := by
    rw [issued_lost hIssued rfl, show (singleTransfer tool amount).function = tool from rfl,
      hOpen]
  have hMay : mayRun cfg (some dec.toJudgement) (singleTransfer tool amount).args = true := by
    simp only [mayRun, hAlert]
  show ranCalls messages (ShieldedToolsExecutor.query cfg (oneTool tool) () messages
    (ShieldGuard.query prim client cfg (oneTool tool) () messages {} ((), [])).1).executions ++
      [] = _
  unfold ranCalls
  rw [List.append_nil, query_executions]
  unfold messageRuns
  show (((singleTransfer tool amount, 0) :: []).filterMap _).filterMap _ = _
  rw [List.filterMap_cons, executionOf_single hTool hFound hMay]
  rfl

/-- It pays out whatever the caps are. -/
theorem lost_pays {tool : String} (hMoney : tool ∈ moneyTools)
    (hOpen : cfg.failPolicy.failModeFor tool = .opened) (amount : Rat) :
    paidTo text "US13" (auditedRun prim (mockClient text mock (fun _ _ => false) lostClient) cfg
      (oneTool tool) [[.assistant [singleTransfer tool amount]]] () {} ((), [])).1 =
        [.finite amount] := by
  have hTool : tool ≠ "" := by
    rintro rfl
    exact absurd hMoney (by decide)
  unfold paidTo
  rw [lost_runs hTool hOpen, List.filterMap_cons, amountTo_single hMoney]
  rfl

theorem not_withinCaps_of_lt {cap amount : Rat} (hCap : mock.cumulativeCap = .finite cap)
    (h : cap < amount) : ¬ WithinCaps mock [.finite amount] := by
  intro hCaps
  refine hCaps.total (List.cons_ne_nil _ _) ?_
  rw [hCap]
  show PyFloat.finite cap < PyFloat.finite (0 + amount)
  rw [PyFloat.finite_lt, zero_add]
  exact h

end Lost

namespace Sample

/-- A configuration that is closed for every money tool. -/
def closedConfig : ShieldElementConfig where
  agentPrivateKey := "seed"
  failPolicy := { default := .closed }

/-- Three transfers of 10000 to one recipient, each in a message of its own. -/
def structuredRounds : List (List Message) :=
  List.replicate 3 [.assistant [singleTransfer "send_money" 10000]]

end Sample

/-- The ratified policy is open for scheduled transfers. -/
example : ¬ ClosedForMoney Sdk.Sample.config :=
  fun h => absurd (h "schedule_transaction" (by decide)) (by decide)

end AgentShield.Eval
