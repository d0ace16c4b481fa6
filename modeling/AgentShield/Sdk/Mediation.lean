import AgentShield.Sdk.Elements

/-!
# Mediation of tool calls

The executor finds the decision on a call by the call's key.  The guard makes one
decision for every call and keeps the last one for each key, so two calls of one
message with the same key share the decision on the later one: two calls with one
id, or a call whose id is the positional key of another.  For every client and
every verdict, all calls that are run are run under their own judgement exactly
when no call that can be run has a later twin (`mediation_iff`).
-/

namespace AgentShield.Sdk

open AgentShield.Lib

section Guard

variable {σ Env : Type} (prim : Primitives) (client : Client σ) (cfg : ShieldElementConfig)
  (runtime : Runtime Env) (env : Env)

/-- The decisions that the guard makes, one for each call. -/
def ShieldGuard.issued : Nat → List ToolCall → ShieldState Env → σ → List (ShieldDecision Env)
  | _, [], _, _ => []
  | index, tc :: tcs, st, s =>
      let (dec, s) := ShieldGuard.decide prim client cfg runtime env tc st s
      dec :: ShieldGuard.issued (index + 1) tcs (st.decided prim index tc dec) s

/-- The decisions of a whole query of the guard. -/
def ShieldGuard.issuedFor (messages : List Message) (extra : ExtraArgs Env) (s : σ) :
    List (ShieldDecision Env) :=
  let (st, s) := stateOf client cfg extra s
  ShieldGuard.issued prim client cfg runtime env 0 (pendingToolCalls messages) st s

variable {prim client cfg runtime env}

/-- The decision at a position is about the call at that position. -/
theorem issued_spec {index k : Nat} {tcs : List ToolCall} {st : ShieldState Env} {s : σ}
    {dec : ShieldDecision Env}
    (h : (ShieldGuard.issued prim client cfg runtime env index tcs st s)[k]? = some dec) :
    ∃ tc, tcs[k]? = some tc ∧ dec.preRecord.payload.toolName = some tc.function ∧
      dec.preRecord.payload.toolArgs = tc.args ∧ dec.preRecord.stepIndex = st.step + k := by
  induction tcs generalizing index k st s with
  | nil => simp [ShieldGuard.issued] at h
  | cons tc tcs ih =>
      cases k with
      | zero =>
          obtain rfl := Option.some.inj h
          exact ⟨tc, rfl, rfl, rfl, rfl⟩
      | succ k =>
          obtain ⟨tc', hTc, hName, hArgs, hStep⟩ := ih h
          refine ⟨tc', hTc, hName, hArgs, ?_⟩
          rw [hStep]
          show st.step + 1 + k = st.step + (k + 1)
          omega

/-- A key that no call has keeps its decision. -/
theorem get?_loop_ne {index : Nat} {tcs : List ToolCall} {st : ShieldState Env} {s : σ}
    {key : String}
    (h : ∀ k tc, tcs[k]? = some tc → toolCallKey tc (index + k) ≠ key) :
    Dict.get? (ShieldGuard.loop prim client cfg runtime env index tcs st s).1.decisions key =
      Dict.get? st.decisions key := by
  induction tcs generalizing index st s with
  | nil => rfl
  | cons tc tcs ih =>
      simp only [ShieldGuard.loop]
      rw [ih]
      · exact Dict.get?_set_ne _ _ (h 0 tc rfl)
      · intro k tc' hTc
        have hKey := h (k + 1) tc' hTc
        rwa [show index + 1 + k = index + (k + 1) by omega]

variable (prim client cfg runtime env) in
/-- **The last call wins.**  Under the key of a call the guard leaves the decision
on the last call with that key. -/
theorem get?_loop (index : Nat) {j : Nat} {tcs : List ToolCall} (st : ShieldState Env) (s : σ)
    {tc : ToolCall} (hj : tcs[j]? = some tc) :
    ∃ k tc' dec, j ≤ k ∧ tcs[k]? = some tc' ∧
      toolCallKey tc' (index + k) = toolCallKey tc (index + j) ∧
      (ShieldGuard.issued prim client cfg runtime env index tcs st s)[k]? = some dec ∧
      Dict.get? (ShieldGuard.loop prim client cfg runtime env index tcs st s).1.decisions
        (toolCallKey tc (index + j)) = some dec := by
  induction tcs generalizing index j st s tc with
  | nil => simp at hj
  | cons tc₀ tcs ih =>
      -- A later call with the key, if there is one, decides.
      have hTail : ∀ (i : Nat) (tc' : ToolCall), tcs[i]? = some tc' →
          toolCallKey tc' (index + (i + 1)) = toolCallKey tc (index + j) → j ≤ i + 1 →
          ∃ k tc' dec, j ≤ k ∧ (tc₀ :: tcs)[k]? = some tc' ∧
            toolCallKey tc' (index + k) = toolCallKey tc (index + j) ∧
            (ShieldGuard.issued prim client cfg runtime env index (tc₀ :: tcs) st s)[k]? =
              some dec ∧
            Dict.get? (ShieldGuard.loop prim client cfg runtime env index (tc₀ :: tcs) st
              s).1.decisions (toolCallKey tc (index + j)) = some dec := by
        intro i tc' hi hKey hLe
        have hShift : index + 1 + i = index + (i + 1) := by omega
        obtain ⟨k, tc'', dec, hk, hTc, hEq, hIssued, hGet⟩ := ih (index + 1) _ _ hi
        rw [hShift, hKey] at hEq hGet
        refine ⟨k + 1, tc'', dec, by omega, hTc, ?_, hIssued, hGet⟩
        rw [← hEq, show index + (k + 1) = index + 1 + k by omega]
      cases j with
      | succ j => exact hTail j tc hj rfl (Nat.le_refl _)
      | zero =>
          obtain rfl := Option.some.inj hj
          by_cases hLater : ∃ i tc', tcs[i]? = some tc' ∧
              toolCallKey tc' (index + (i + 1)) = toolCallKey tc₀ (index + 0)
          · obtain ⟨i, tc', hi, hKey⟩ := hLater
            exact hTail i tc' hi hKey (Nat.zero_le _)
          · refine ⟨0, tc₀, _, Nat.le_refl _, rfl, rfl, rfl, ?_⟩
            simp only [ShieldGuard.loop]
            rw [get?_loop_ne]
            · exact Dict.get?_set_self _ _ _
            · intro k tc' hTc hKey
              refine hLater ⟨k, tc', hTc, ?_⟩
              rw [← hKey, show index + 1 + k = index + (k + 1) by omega]

end Guard

/-! ## What the executor runs -/

section Executor

variable {Env : Type} (cfg : ShieldElementConfig) (runtime : Runtime Env)

/-- The judgement that the executor finds under a key. -/
def ExecutorState.judged (x : ExecutorState Env) (key : String) : Option Judgement :=
  (x.decisionFor key).map ShieldDecision.toJudgement

/-- The run of a call under the judgements `judged`, when it is run: its name can be run and
its judgement, where it has one, lets it pass. -/
def executionOf (judged : String → Option Judgement) (tc : ToolCall) (index : Nat) :
    Option Execution :=
  let judgement := judged (toolCallKey tc index)
  if Runnable runtime tc ∧ mayRun cfg judgement tc.args = true then
    some {
      index := index
      function := tc.function
      args := finalArgs runtime judgement tc.args
      judgement := judgement }
  else none

variable {cfg runtime}

/-- The decisions after the outcome of one call has been noted. -/
theorem decisionFor_setDecision {x : ExecutorState Env} {key : String}
    {dec : ShieldDecision Env} (hDec : x.decisionFor key = some dec)
    (dec' : ShieldDecision Env) (key' : String) :
    (x.setDecision key (some dec')).decisionFor key' =
      if key = key' then some dec' else x.decisionFor key' := by
  unfold ExecutorState.decisionFor at *
  cases hShield : x.shield with
  | none => simp [hShield] at hDec
  | some st =>
      simp only [ExecutorState.setDecision, hShield, Option.map_some, Option.bind_some]
      exact Dict.get?_set _ _ _ _

theorem decisionFor_noteEscalation (x : ExecutorState Env) (tc : ToolCall)
    (dec : ShieldDecision Env) (key : String) :
    (x.noteEscalation cfg tc dec).decisionFor key = x.decisionFor key := by
  unfold ExecutorState.noteEscalation
  split
  · unfold ExecutorState.decisionFor ExecutorState.addHitlSignal
    cases hShield : x.shield with
    | none => simp
    | some st => simp
  · rfl

theorem decisionFor_rollBack (x : ExecutorState Env) (dec : ShieldDecision Env) (key : String) :
    (x.rollBack runtime dec).decisionFor key = x.decisionFor key := by
  unfold ExecutorState.rollBack ExecutorState.addRollbackSignal ExecutorState.decisionFor
  cases hShield : x.shield with
  | none => simp
  | some st => simp

/-- Noting the outcome of a call does not change its judgement. -/
theorem judged_setDecision {x : ExecutorState Env} {key : String} {dec dec' : ShieldDecision Env}
    (hDec : x.decisionFor key = some dec) (hSame : dec'.toJudgement = dec.toJudgement) :
    (x.setDecision key (some dec')).judged = x.judged := by
  funext key'
  unfold ExecutorState.judged
  rw [decisionFor_setDecision hDec]
  by_cases hKey : key = key'
  · rw [if_pos hKey, ← hKey, hDec, Option.map_some, Option.map_some, hSame]
  · rw [if_neg hKey]

theorem judged_noteEscalation (x : ExecutorState Env) (tc : ToolCall)
    (dec : ShieldDecision Env) : (x.noteEscalation cfg tc dec).judged = x.judged :=
  funext fun key => by simp [ExecutorState.judged, decisionFor_noteEscalation]

/-- Noting an escalation changes nothing but the signals. -/
theorem noteEscalation_frame (cfg : ShieldElementConfig) (x : ExecutorState Env) (tc : ToolCall)
    (dec : ShieldDecision Env) :
    (x.noteEscalation cfg tc dec).executions = x.executions ∧
      (x.noteEscalation cfg tc dec).env = x.env ∧
      (x.noteEscalation cfg tc dec).restored = x.restored ∧
      (x.noteEscalation cfg tc dec).results = x.results := by
  unfold ExecutorState.noteEscalation
  split <;> exact ⟨rfl, rfl, rfl, rfl⟩

/-- Running a call logs it under the judgement that was found. -/
theorem run_spec (runtime : Runtime Env) {x : ExecutorState Env} {index : Nat} {tc : ToolCall}
    {dec : Option (ShieldDecision Env)} (hDec : x.decisionFor (toolCallKey tc index) = dec) :
    (x.run runtime index tc dec).judged = x.judged ∧
      (x.run runtime index tc dec).executions = x.executions ++
        [{ index := index
           function := tc.function
           args := finalArgs runtime (dec.map ShieldDecision.toJudgement) tc.args
           judgement := dec.map ShieldDecision.toJudgement }] := by
  cases dec with
  | none => exact ⟨rfl, rfl⟩
  | some d => exact ⟨judged_setDecision hDec rfl, rfl⟩

theorem skip_spec (runtime : Runtime Env) {x : ExecutorState Env} {index : Nat} {tc : ToolCall}
    {dec : ShieldDecision Env} (hDec : x.decisionFor (toolCallKey tc index) = some dec) :
    (x.skip runtime index tc dec).judged = x.judged ∧
      (x.skip runtime index tc dec).executions = x.executions := by
  by_cases hRollback : dec.verdict.decision = .rollback
  · have hJudged : (x.rollBack runtime dec).judged = x.judged :=
      funext fun key => by simp [ExecutorState.judged, decisionFor_rollBack]
    simp only [ExecutorState.skip, hRollback, if_true]
    refine ⟨?_, rfl⟩
    rw [← hJudged]
    exact judged_setDecision ((decisionFor_rollBack _ _ _).trans hDec) rfl
  · simp only [ExecutorState.skip, hRollback, if_false]
    exact ⟨judged_setDecision hDec rfl, rfl⟩

/-- What one round of the executor's loop can do: the call is refused, or it is run or
skipped under the decision that is found. -/
theorem execute_cases (cfg : ShieldElementConfig) (runtime : Runtime Env) (index : Nat)
    (tc : ToolCall) (x : ExecutorState Env) :
    (¬ Runnable runtime tc ∧ ∃ error,
        ShieldedToolsExecutor.execute cfg runtime index tc x = x.refuse tc error) ∨
      (Runnable runtime tc ∧ x.decisionFor (toolCallKey tc index) = none ∧
        ShieldedToolsExecutor.execute cfg runtime index tc x = x.run runtime index tc none) ∨
      ∃ dec, Runnable runtime tc ∧ x.decisionFor (toolCallKey tc index) = some dec ∧
        ((mayRun cfg (some dec.toJudgement) tc.args = true ∧
            ShieldedToolsExecutor.execute cfg runtime index tc x =
              (x.noteEscalation cfg tc dec).run runtime index tc (some dec)) ∨
          (¬ mayRun cfg (some dec.toJudgement) tc.args = true ∧
            ShieldedToolsExecutor.execute cfg runtime index tc x =
              (x.noteEscalation cfg tc dec).skip runtime index tc dec)) := by
  unfold ShieldedToolsExecutor.execute
  by_cases hEmpty : tc.function = runtime.emptyFunctionName
  · rw [if_pos hEmpty]
    exact .inl ⟨fun h => h.1 hEmpty, _, rfl⟩
  rw [if_neg hEmpty]
  by_cases hMissing : tc.function ∉ runtime.functions
  · rw [if_pos hMissing]
    exact .inl ⟨fun h => hMissing h.2, _, rfl⟩
  rw [if_neg hMissing]
  have hRunnable : Runnable runtime tc := ⟨hEmpty, not_not.1 hMissing⟩
  cases hDec : x.decisionFor (toolCallKey tc index) with
  | none => exact .inr (.inl ⟨hRunnable, rfl, rfl⟩)
  | some dec =>
      refine .inr (.inr ⟨dec, hRunnable, rfl, ?_⟩)
      by_cases hMay : mayRun cfg (some dec.toJudgement) tc.args = true
      · exact .inl ⟨hMay, if_pos hMay⟩
      · exact .inr ⟨hMay, if_neg hMay⟩

/-- **One call.**  The executor changes no judgement, and adds the one run of the call, when
it is run. -/
theorem execute_spec (cfg : ShieldElementConfig) (runtime : Runtime Env) (index : Nat)
    (tc : ToolCall) (x : ExecutorState Env) :
    (ShieldedToolsExecutor.execute cfg runtime index tc x).judged = x.judged ∧
      (ShieldedToolsExecutor.execute cfg runtime index tc x).executions =
        x.executions ++ (executionOf cfg runtime x.judged tc index).toList := by
  rcases execute_cases cfg runtime index tc x with
    ⟨hNot, error, hRefused⟩ | ⟨hRunnable, hDec, hRun⟩ | ⟨dec, hRunnable, hDec, hDecided⟩
  · rw [hRefused]
    refine ⟨rfl, ?_⟩
    simp [executionOf, hNot, ExecutorState.refuse]
  · obtain ⟨hJudged, hExecutions⟩ := run_spec runtime hDec
    rw [hRun, hJudged, hExecutions]
    refine ⟨rfl, ?_⟩
    simp [executionOf, hRunnable, ExecutorState.judged, hDec, mayRun]
  · have hDec' : (x.noteEscalation cfg tc dec).decisionFor (toolCallKey tc index) = some dec :=
      (decisionFor_noteEscalation _ _ _ _).trans hDec
    have hLog := (noteEscalation_frame cfg x tc dec).1
    rcases hDecided with ⟨hMay, hRun⟩ | ⟨hMay, hSkip⟩
    · obtain ⟨hJudged, hExecutions⟩ := run_spec runtime hDec'
      rw [hRun, hJudged, hExecutions, hLog]
      refine ⟨judged_noteEscalation x tc dec, ?_⟩
      simp [executionOf, hRunnable, ExecutorState.judged, hDec, hMay]
    · obtain ⟨hJudged, hExecutions⟩ := skip_spec runtime hDec'
      rw [hSkip, hJudged, hExecutions, hLog]
      refine ⟨judged_noteEscalation x tc dec, ?_⟩
      simp [executionOf, ExecutorState.judged, hDec, hMay]

/-- **The whole message.**  The executor runs the calls that may run under the
judgements found at its start. -/
theorem loop_spec (index : Nat) (tcs : List ToolCall) (x : ExecutorState Env) :
    (ShieldedToolsExecutor.loop cfg runtime index tcs x).executions =
      x.executions ++
        (tcs.zipIdx index).filterMap fun p => executionOf cfg runtime x.judged p.1 p.2 := by
  induction tcs generalizing index x with
  | nil => simp [ShieldedToolsExecutor.loop]
  | cons tc tcs ih =>
      obtain ⟨hJudged, hExecutions⟩ :=
        execute_spec cfg runtime index tc x
      simp only [ShieldedToolsExecutor.loop]
      rw [ih, hExecutions, hJudged, List.zipIdx_cons, List.append_assoc]
      congr 1
      cases hRun : executionOf cfg runtime x.judged tc index <;> simp [hRun]

end Executor

/-! ## Mediation -/

section Mediation

variable {σ Env : Type} (prim : Primitives) (client : Client σ) (cfg : ShieldElementConfig)
  (runtime : Runtime Env)

/-- The judgement permits a call with these arguments to run.  A block and a rollback permit
none, and an escalation those that the host approves. -/
def Permits (j : Judgement) (args : List (String × Json)) : Prop :=
  match j.verdict.decision with
  | .pass | .alert | .rewrite => True
  | .escalate =>
      cfg.escalateMode = .approve ∨
        cfg.escalateMode = .live ∧ ∃ handler, cfg.escalationHandler = some handler ∧
          handler j.verdict j.preRecord args = true
  | .block | .rollback => False

/-- A call `tc` that was run as `e`, under the decision `dec` on that very call. -/
structure MediatedBy (tc : ToolCall) (dec : ShieldDecision Env) (e : Execution) : Prop where
  judgement : e.judgement = some dec.toJudgement
  function : e.function = tc.function
  toolName : dec.preRecord.payload.toolName = some tc.function
  toolArgs : dec.preRecord.payload.toolArgs = tc.args
  permitted : Permits cfg dec.toJudgement tc.args
  rewrite : ∀ args, dec.verdict.decision = .rewrite →
    dec.verdict.obligations.rewriteArgs = some args →
    e.args = coerceStringLists runtime (applyMaskArgs args dec.verdict.obligations.maskArgs)
  unchanged : dec.verdict.decision ≠ .rewrite →
    e.args = coerceStringLists runtime (applyMaskArgs tc.args dec.verdict.obligations.maskArgs)

/-- Every call of the message that is run was judged at its own position. -/
def Mediated (env : Env) (messages : List Message) (extra : ExtraArgs Env) (s : σ) : Prop :=
  let guarded := (ShieldGuard.query prim client cfg runtime env messages extra s).1
  ∀ e ∈ (ShieldedToolsExecutor.query cfg runtime env messages guarded).executions,
    ∃ tc dec, (pendingToolCalls messages)[e.index]? = some tc ∧
      (ShieldGuard.issuedFor prim client cfg runtime env messages extra s)[e.index]? = some dec ∧
      MediatedBy cfg runtime tc dec e

/-- No call that can be run has a later call with its key. -/
def NoLaterTwin (toolCalls : List ToolCall) : Prop :=
  ∀ i j tc tc', toolCalls[i]? = some tc → toolCalls[j]? = some tc' → i < j →
    Runnable runtime tc → toolCallKey tc' j ≠ toolCallKey tc i

variable {prim client cfg runtime} {env : Env} {messages : List Message} {extra : ExtraArgs Env}

theorem mayRun_iff {j : Judgement} {args : List (String × Json)} :
    mayRun cfg (some j) args = true ↔ Permits cfg j args := by
  unfold mayRun Permits
  cases hDecision : j.verdict.decision with
  | escalate =>
      cases hMode : cfg.escalateMode with
      | live =>
          cases hHandler : cfg.escalationHandler with
          | none => simp [hDecision, escalationApproved, hHandler]
          | some handler => simp [hDecision, escalationApproved, hHandler]
      | block => simp [hDecision]
      | approve => simp [hDecision]
  | _ => simp [hDecision]

variable (prim client cfg runtime env extra) in
/-- The decision that the executor finds for a call, after the guard. -/
theorem found_after_guard (s : σ) {i : Nat} {tc : ToolCall}
    (hi : (pendingToolCalls messages)[i]? = some tc) :
    ∃ k tc' dec, i ≤ k ∧ (pendingToolCalls messages)[k]? = some tc' ∧
      toolCallKey tc' k = toolCallKey tc i ∧
      (ShieldGuard.issuedFor prim client cfg runtime env messages extra s)[k]? = some dec ∧
      ((ShieldGuard.query prim client cfg runtime env messages extra s).1.shield.bind fun st =>
        Dict.get? st.decisions (toolCallKey tc i)) = some dec := by
  obtain ⟨k, tc', dec, hLe, hTc, hKey, hIssued, hGet⟩ :=
    get?_loop prim client cfg runtime env 0 (stateOf client cfg extra s).1
      (stateOf client cfg extra s).2 hi
  simp only [Nat.zero_add] at hKey hGet
  refine ⟨k, tc', dec, hLe, hTc, hKey, hIssued, ?_⟩
  unfold ShieldGuard.query
  cases hCalls : pendingToolCalls messages with
  | nil => simp [hCalls] at hi
  | cons first rest =>
      rw [hCalls] at hGet
      simp only [Option.bind_some, hGet]

variable (prim client cfg runtime env extra) in
/-- The judgement that the executor finds for a call, after the guard. -/
theorem judged_after_guard (s : σ) {i : Nat} {tc : ToolCall}
    (hi : (pendingToolCalls messages)[i]? = some tc) :
    ∃ k tc' dec, i ≤ k ∧ (pendingToolCalls messages)[k]? = some tc' ∧
      toolCallKey tc' k = toolCallKey tc i ∧
      (ShieldGuard.issuedFor prim client cfg runtime env messages extra s)[k]? = some dec ∧
      (((ShieldGuard.query prim client cfg runtime env messages extra s).1.shield.bind fun st =>
        Dict.get? st.decisions (toolCallKey tc i)).map ShieldDecision.toJudgement) =
          some dec.toJudgement := by
  obtain ⟨k, tc', dec, hLe, hTc, hKey, hIssued, hFound⟩ :=
    found_after_guard prim client cfg runtime env extra s hi
  refine ⟨k, tc', dec, hLe, hTc, hKey, hIssued, ?_⟩
  rw [hFound, Option.map_some]

/-- The calls that the executor runs. -/
theorem mem_executions {e : Execution} :
    e ∈ (ShieldedToolsExecutor.query cfg runtime env messages extra).executions ↔
      ∃ i tc, (pendingToolCalls messages)[i]? = some tc ∧
        executionOf cfg runtime (fun key => (extra.shield.bind fun st =>
          Dict.get? st.decisions key).map ShieldDecision.toJudgement) tc i = some e := by
  unfold ShieldedToolsExecutor.query
  cases hCalls : pendingToolCalls messages with
  | nil => simp
  | cons first rest =>
      simp only [loop_spec, List.nil_append, List.mem_filterMap, Prod.exists,
        List.mem_zipIdx_iff_getElem?]
      constructor
      · rintro ⟨tc, i, hi, hRun⟩
        exact ⟨i, tc, hi, hRun⟩
      · rintro ⟨i, tc, hi, hRun⟩
        exact ⟨tc, i, hi, hRun⟩

/-- A call that is run under its own decision is mediated by it. -/
theorem mediatedBy_of_execution {judged : String → Option Judgement} {tc : ToolCall} {i : Nat}
    {dec : ShieldDecision Env} {e : Execution}
    (hRun : executionOf cfg runtime judged tc i = some e)
    (hJudged : judged (toolCallKey tc i) = some dec.toJudgement)
    (hName : dec.preRecord.payload.toolName = some tc.function)
    (hArgs : dec.preRecord.payload.toolArgs = tc.args) :
    e.index = i ∧ MediatedBy cfg runtime tc dec e := by
  unfold executionOf at hRun
  simp only [hJudged, Option.ite_none_right_eq_some, Option.some.injEq] at hRun
  obtain ⟨⟨-, hMay⟩, rfl⟩ := hRun
  refine ⟨rfl, rfl, rfl, hName, hArgs, mayRun_iff.1 hMay, ?_, ?_⟩
  · intro args hRewrite hSome
    simp [finalArgs, rewritten, hRewrite, hSome]
  · intro hNot
    simp [finalArgs, rewritten, hNot]

/-- Without later twins the guard's decisions are found where they belong. -/
theorem mediated_of_noLaterTwin (s : σ)
    (hTwins : NoLaterTwin runtime (pendingToolCalls messages)) :
    Mediated prim client cfg runtime env messages extra s := by
  intro e he
  obtain ⟨i, tc, hi, hRun⟩ := mem_executions.1 he
  obtain ⟨k, tc', dec, hLe, hTc, hKey, hIssued, hFound⟩ := judged_after_guard prim client cfg
    runtime env extra s hi
  have hRunnable : Runnable runtime tc := by
    by_contra hNot
    simp [executionOf, hNot] at hRun
  have hEq : k = i := by
    rcases Nat.lt_or_eq_of_le hLe with hLt | hEq
    · exact absurd hKey (hTwins i k tc tc' hi hTc hLt hRunnable)
    · exact hEq.symm
  subst hEq
  obtain ⟨tc'', hTc'', hName, hArgs, -⟩ := issued_spec hIssued
  obtain rfl : tc = tc'' := Option.some.inj (hi.symm.trans hTc'')
  obtain ⟨rfl, hMediated⟩ := mediatedBy_of_execution hRun hFound hName hArgs
  exact ⟨tc, dec, hi, hIssued, hMediated⟩

/-- A client whose gate lets everything pass. -/
def passingClient : Client Unit where
  newRunId s := ("run", s)
  draw s := (⟨"record", "correlation", "nonce", 1, "verdict"⟩, s)
  decide pre s :=
    (.ok { verdictId := "verdict", correlationId := pre.correlationId, decision := .pass }, s)
  submit _ s := (.ok (), s)

theorem issued_passing {index k : Nat} {tcs : List ToolCall} {st : ShieldState Env}
    {dec : ShieldDecision Env}
    (h : (ShieldGuard.issued prim passingClient cfg runtime env index tcs st ())[k]? = some dec) :
    dec.verdict.decision = .pass := by
  induction tcs generalizing index k st with
  | nil => simp [ShieldGuard.issued] at h
  | cons tc tcs ih =>
      cases k with
      | zero =>
          obtain rfl := Option.some.inj h
          rfl
      | succ k => exact ih h

/-- A call that passes is run under the decision that is found, which is on a later
call when there is a later twin. -/
theorem noLaterTwin_of_mediated
    (hMediated : Mediated prim passingClient cfg runtime env messages extra ()) :
    NoLaterTwin runtime (pendingToolCalls messages) := by
  intro i j tc tc' hi hj hLt hRunnable hTwin
  obtain ⟨k, tc'', dec, hLe, hTc, hKey, hIssued, hFound⟩ := judged_after_guard prim
    passingClient cfg runtime env extra () hj
  have hPass : mayRun cfg (some dec.toJudgement) tc.args = true := by
    simp [mayRun, issued_passing hIssued]
  rw [hTwin] at hFound
  -- The execution of the earlier call, under the decision on a later one.
  obtain ⟨_, dec', -, hIssued', hBy⟩ := hMediated
    { index := i, function := tc.function, args := finalArgs runtime (some dec.toJudgement) tc.args
      judgement := some dec.toJudgement }
    (mem_executions.2 ⟨i, tc, hi, by simp [executionOf, hFound, hRunnable, hPass]⟩)
  have hSame : dec.toJudgement = dec'.toJudgement := Option.some.inj hBy.judgement
  obtain ⟨_, -, -, -, hStep⟩ := issued_spec hIssued
  obtain ⟨_, -, -, -, hStep'⟩ := issued_spec hIssued'
  have hRecords : dec.preRecord.stepIndex = dec'.preRecord.stepIndex :=
    congrArg (fun judgement => judgement.preRecord.stepIndex) hSame
  rw [hStep, hStep'] at hRecords
  have hPosition : k = i := Nat.add_left_cancel hRecords
  omega

/-- **Complete mediation, with its exact condition.**  For every message, with any
ids, names and arguments, and every earlier state of the pipeline: whatever the
verdicts, all calls that are run are run under their own judgement, if and only if
no call that can be run has a later call with its key. -/
theorem mediation_iff (prim : Primitives) (cfg : ShieldElementConfig) (runtime : Runtime Env)
    (env : Env) (messages : List Message) (extra : ExtraArgs Env) :
    (∀ (σ : Type) (client : Client σ) (s : σ),
        Mediated prim client cfg runtime env messages extra s) ↔
      NoLaterTwin runtime (pendingToolCalls messages) := by
  constructor
  · exact fun h => noLaterTwin_of_mediated (h Unit passingClient ())
  · exact fun hTwins _ _ s => mediated_of_noLaterTwin s hTwins

end Mediation

/-! ## Two calls with one id -/

namespace Sample

/-- A gate that blocks transfers and lets every other call pass, with the same ids for every
record. -/
def blockingClient : Client Unit where
  newRunId s := ("run", s)
  draw s := (⟨"record", "correlation", "nonce", 1, "verdict"⟩, s)
  decide pre s :=
    (.ok
      { verdictId := "verdict"
        correlationId := pre.correlationId
        decision := if pre.payload.toolName = some "send_money" then .block else .pass }, s)
  submit _ s := (.ok (), s)

def config : ShieldElementConfig where
  agentPrivateKey := "seed"

def runtime : Runtime Unit where
  functions := ["send_money", "get_balance"]
  runFunction env _ _ := ((.null, none), env)
  modelCopy := some
  outputFormatter _ := ""
  emptyFunctionName := "<empty-function-name>"
  stringList _ := none

/-- A transfer and a harmless call under one id. -/
def twins : List Message :=
  [.assistant [⟨some "1", "send_money", []⟩, ⟨some "1", "get_balance", []⟩]]

end Sample

/-- **A blocked call is run.**  The transfer is blocked, but the executor finds the
verdict on the later call with its id. -/
theorem blocked_call_executed :
    ¬ ∀ (σ Env : Type) (prim : Primitives) (client : Client σ) (cfg : ShieldElementConfig)
      (runtime : Runtime Env) (env : Env) (messages : List Message) (extra : ExtraArgs Env)
      (s : σ), Mediated prim client cfg runtime env messages extra s := by
  intro h
  have hMediated := h Unit Unit Sample.prim Sample.blockingClient Sample.config Sample.runtime ()
    Sample.twins {} ()
  obtain ⟨e, he, hIndex⟩ : ∃ e ∈ (ShieldedToolsExecutor.query Sample.config Sample.runtime ()
      Sample.twins (ShieldGuard.query Sample.prim Sample.blockingClient Sample.config
        Sample.runtime () Sample.twins {} ()).1).executions, e.index = 0 := by
    decide
  have hBlocked : (ShieldGuard.issuedFor Sample.prim Sample.blockingClient Sample.config
      Sample.runtime () Sample.twins {} ())[0]?.map (fun dec => dec.verdict.decision) =
      some .block := by
    decide
  obtain ⟨tc, dec, -, hIssued, hBy⟩ := hMediated e he
  rw [hIndex] at hIssued
  rw [hIssued] at hBlocked
  have hDecision : dec.verdict.decision = .block := Option.some.inj hBlocked
  have hPermits := hBy.permitted
  unfold Permits at hPermits
  rw [hDecision] at hPermits
  exact hPermits

end AgentShield.Sdk
