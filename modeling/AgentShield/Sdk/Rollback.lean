import AgentShield.Sdk.Outcomes

/-!
# Rolled back environments

A rollback makes the guard's snapshot the environment that the executor returns.  The
calls after it still run on the environment that was passed in, so what they do to it is
lost: the executor returns the snapshot with their effects exactly when the effects leave
the snapshot as it was (`rollback_faithful_iff`).
-/

namespace AgentShield.Sdk

open AgentShield.Lib

/-! ## What should be returned -/

/-- The environment that the guard keeps of a call: a copy, when it can be copied. -/
def snapshot {Env : Type} (runtime : Runtime Env) (env : Env) : Env :=
  (runtime.modelCopy env).getD env

/-- The position of the last call that is rolled back. -/
def lastRollback {Env : Type} (runtime : Runtime Env) (judged : String → Option Judgement)
    (toolCalls : List ToolCall) : Option Nat :=
  ((toolCalls.zipIdx.filter fun p => RollsBack runtime judged p.1 p.2).getLast?).map Prod.snd

/-- The runs of the calls after a position, or of all calls. -/
def ranAfter (last : Option Nat) (runs : List Execution) : List Execution :=
  runs.filter fun e => ∀ i ∈ last, i < e.index

section Rollback

variable {σ Env : Type} (prim : Primitives) (client : Client σ) (cfg : ShieldElementConfig)
  (runtime : Runtime Env) (env : Env) (messages : List Message) (extra : ExtraArgs Env) (s : σ)

/-- The runs of the calls of the message. -/
def messageRuns : List Execution :=
  (pendingToolCalls messages).zipIdx.filterMap fun p =>
    executionOf cfg runtime (foundJudgements prim client cfg runtime env messages extra s) p.1 p.2

/-- The last call of the message that is rolled back. -/
def messageRollback : Option Nat :=
  lastRollback runtime (foundJudgements prim client cfg runtime env messages extra s)
    (pendingToolCalls messages)

/-- The executor returns the snapshot with the effects of the calls that ran after the last
rollback. -/
def RollbackFaithful : Prop :=
  let guarded := (ShieldGuard.query prim client cfg runtime env messages extra s).1
  let executed := ShieldedToolsExecutor.query cfg runtime env messages guarded
  executed.env = replay runtime (snapshot runtime env)
    (ranAfter (messageRollback prim client cfg runtime env messages extra s) executed.executions)

instance [DecidableEq Env] :
    Decidable (RollbackFaithful prim client cfg runtime env messages extra s) :=
  inferInstanceAs (Decidable (_ = _))

/-- No call is rolled back, or those that run after the last one leave the environment as it
was.  An environment that cannot be copied is not restored: then the other runs must make no
difference. -/
def NothingLost : Prop :=
  messageRollback prim client cfg runtime env messages extra s = none ∨
    replay runtime env (ranAfter (messageRollback prim client cfg runtime env messages extra s)
        (messageRuns prim client cfg runtime env messages extra s)) =
      if (runtime.modelCopy env).isSome then env
      else replay runtime env (messageRuns prim client cfg runtime env messages extra s)

instance [DecidableEq Env] : Decidable (NothingLost prim client cfg runtime env messages extra s) :=
  inferInstanceAs (Decidable (_ ∨ _))

/-! ## The executor's loop -/

section Loop

/-- **One call** has its effects on the environment that was passed in, and a rollback
restores the snapshot. -/
theorem execute_env (index : Nat) (tc : ToolCall) (x : ExecutorState Env) :
    (ShieldedToolsExecutor.execute cfg runtime index tc x).env =
        replay runtime x.env (executionOf cfg runtime x.judged tc index).toList ∧
      (ShieldedToolsExecutor.execute cfg runtime index tc x).restored =
        if RollsBack runtime x.judged tc index then
          ((x.decisionFor (toolCallKey tc index)).bind fun dec =>
            runtime.modelCopy dec.envSnapshot).or x.restored
        else x.restored := by
  rcases execute_cases cfg runtime index tc x with
    ⟨hNot, error, hRefused⟩ | ⟨hRunnable, hDec, hRun⟩ | ⟨dec, hRunnable, hDec, hDecided⟩
  · have hNone : ¬ RollsBack runtime x.judged tc index := fun h => hNot h.1
    rw [hRefused, if_neg hNone]
    refine ⟨?_, rfl⟩
    simp [executionOf, hNot, ExecutorState.refuse, replay]
  · have hNone : ¬ RollsBack runtime x.judged tc index := by
      intro h
      have hJudged := h.2
      simp [ExecutorState.judged, hDec] at hJudged
    rw [hRun, if_neg hNone, (run_env runtime x index tc none).1,
      (run_env runtime x index tc none).2]
    refine ⟨?_, rfl⟩
    simp [executionOf, hRunnable, ExecutorState.judged, hDec, mayRun, replay]
  · have hJudged : x.judged (toolCallKey tc index) = some dec.toJudgement := by
      unfold ExecutorState.judged
      rw [hDec, Option.map_some]
    obtain ⟨-, hEnv, hRestored, -⟩ := noteEscalation_frame cfg x tc dec
    rcases hDecided with ⟨hMay, hRun⟩ | ⟨hMay, hSkip⟩
    · have hNone : ¬ RollsBack runtime x.judged tc index := by
        intro h
        have hRan := h.not_run cfg
        simp [executionOf, hJudged, hRunnable, hMay] at hRan
      obtain ⟨hRunEnv, hRunRestored⟩ :=
        run_env runtime (x.noteEscalation cfg tc dec) index tc (some dec)
      rw [hRun, if_neg hNone, hRunEnv, hRunRestored, hEnv, hRestored]
      refine ⟨?_, rfl⟩
      simp [executionOf, hJudged, hRunnable, hMay, replay]
    · obtain ⟨hSkipEnv, hSkipRestored⟩ :=
        skip_env runtime (x.noteEscalation cfg tc dec) index tc dec
      rw [hSkip, hSkipEnv, hSkipRestored, hEnv, hRestored]
      refine ⟨?_, ?_⟩
      · simp [executionOf, hJudged, hMay, replay]
      · have hIff : RollsBack runtime x.judged tc index ↔ dec.verdict.decision = .rollback := by
          unfold RollsBack
          rw [hJudged, Option.map_some, Option.some.injEq]
          exact and_iff_right hRunnable
        by_cases hRollback : dec.verdict.decision = .rollback
        · rw [if_pos hRollback, if_pos (hIff.2 hRollback), hDec, Option.bind_some]
        · rw [if_neg hRollback, if_neg (mt hIff.1 hRollback)]

/-- All effects are on the environment that was passed in. -/
theorem loop_env (index : Nat) (tcs : List ToolCall) (x : ExecutorState Env) :
    (ShieldedToolsExecutor.loop cfg runtime index tcs x).env = replay runtime x.env
      ((tcs.zipIdx index).filterMap fun p => executionOf cfg runtime x.judged p.1 p.2) := by
  induction tcs generalizing index x with
  | nil => rfl
  | cons tc tcs ih =>
      have hJudged := (execute_spec cfg runtime index tc x).1
      have hEnv := (execute_env cfg runtime index tc x).1
      simp only [ShieldedToolsExecutor.loop]
      rw [ih, hEnv, hJudged, ← replay_append, List.zipIdx_cons]
      cases hRun : executionOf cfg runtime x.judged tc index <;> simp [hRun]

/-- The environment that is restored, when the snapshots of all calls have one copy: a later
rollback restores what an earlier one has. -/
theorem loop_restored {copy : Option Env} (index : Nat) (tcs : List ToolCall)
    (x : ExecutorState Env)
    (hCopies : ∀ p ∈ tcs.zipIdx index, ∀ dec, x.decisionFor (toolCallKey p.1 p.2) = some dec →
      runtime.modelCopy dec.envSnapshot = copy) :
    (ShieldedToolsExecutor.loop cfg runtime index tcs x).restored =
      if ∃ p ∈ tcs.zipIdx index, RollsBack runtime x.judged p.1 p.2 then copy.or x.restored
      else x.restored := by
  induction tcs generalizing index x with
  | nil => rfl
  | cons tc tcs ih =>
      have hJudged := (execute_spec cfg runtime index tc x).1
      have hRestored := (execute_env cfg runtime index tc x).2
      have hLater : ∀ p ∈ tcs.zipIdx (index + 1), ∀ dec,
          (ShieldedToolsExecutor.execute cfg runtime index tc x).decisionFor
              (toolCallKey p.1 p.2) = some dec →
            runtime.modelCopy dec.envSnapshot = copy := by
        intro p hp dec hDec
        have hSame := execute_snapshot cfg runtime index tc x
          (toolCallKey p.1 p.2)
        rw [hDec, Option.map_some] at hSame
        obtain ⟨dec₀, hDec₀, hSnapshot⟩ := Option.map_eq_some_iff.1 hSame.symm
        rw [← hSnapshot]
        exact hCopies p (by rw [List.zipIdx_cons]; exact List.mem_cons_of_mem _ hp) dec₀ hDec₀
      simp only [ShieldedToolsExecutor.loop]
      rw [ih (index + 1) _ hLater, hJudged, hRestored, List.zipIdx_cons]
      have hHere : RollsBack runtime x.judged tc index →
          ((x.decisionFor (toolCallKey tc index)).bind fun dec =>
            runtime.modelCopy dec.envSnapshot) = copy := by
        intro h
        obtain ⟨j, hFound, -⟩ := Option.map_eq_some_iff.1 h.2
        obtain ⟨dec, hDec, -⟩ := Option.map_eq_some_iff.1 hFound
        rw [hDec, Option.bind_some]
        exact hCopies (tc, index) (by rw [List.zipIdx_cons]; exact List.mem_cons_self) dec hDec
      by_cases hRolls : RollsBack runtime x.judged tc index
      · have hSome : ∃ p ∈ (tc, index) :: tcs.zipIdx (index + 1),
            RollsBack runtime x.judged p.1 p.2 := ⟨_, List.mem_cons_self, hRolls⟩
        rw [if_pos hRolls, if_pos hSome, hHere hRolls]
        split
        · cases copy <;> rfl
        · rfl
      · have hIff : (∃ p ∈ (tc, index) :: tcs.zipIdx (index + 1),
            RollsBack runtime x.judged p.1 p.2) ↔
              ∃ p ∈ tcs.zipIdx (index + 1), RollsBack runtime x.judged p.1 p.2 := by
          simp [hRolls]
        rw [if_neg hRolls]
        simp only [hIff]

end Loop

/-! ## The whole message -/

section Message

variable {prim client cfg runtime env messages extra s}

/-- The guard takes the snapshot of every call before any of them runs. -/
theorem issued_snapshot {index k : Nat} {tcs : List ToolCall} {st : ShieldState Env} {s : σ}
    {dec : ShieldDecision Env}
    (h : (ShieldGuard.issued prim client cfg runtime env index tcs st s)[k]? = some dec) :
    dec.envSnapshot = snapshot runtime env := by
  induction tcs generalizing index k st s with
  | nil => simp [ShieldGuard.issued] at h
  | cons tc tcs ih =>
      cases k with
      | zero =>
          obtain rfl := Option.some.inj h
          rfl
      | succ k => exact ih h

theorem snapshot_of_copies (hCopies : ∀ e c, runtime.modelCopy e = some c → c = e) :
    snapshot runtime env = env := by
  unfold snapshot
  cases hCopy : runtime.modelCopy env with
  | none => rfl
  | some c => exact hCopies env c hCopy

theorem lastRollback_eq_none_iff {judged : String → Option Judgement} {tcs : List ToolCall} :
    lastRollback runtime judged tcs = none ↔
      ¬ ∃ p ∈ tcs.zipIdx, RollsBack runtime judged p.1 p.2 := by
  unfold lastRollback
  rw [Option.map_eq_none_iff, List.getLast?_eq_none_iff, List.filter_eq_nil_iff]
  constructor
  · rintro h ⟨p, hp, hRolls⟩
    exact h p hp (decide_eq_true hRolls)
  · intro h p hp hRolls
    exact h ⟨p, hp, of_decide_eq_true hRolls⟩

theorem ranAfter_none (runs : List Execution) : ranAfter none runs = runs :=
  List.filter_eq_self.2 fun _ _ => decide_eq_true fun _ hi => (nomatch hi)

/-- The executor runs the calls that may run. -/
theorem query_executions :
    (ShieldedToolsExecutor.query cfg runtime env messages
        (ShieldGuard.query prim client cfg runtime env messages extra s).1).executions =
      messageRuns prim client cfg runtime env messages extra s := by
  unfold ShieldedToolsExecutor.query messageRuns
  cases hCalls : pendingToolCalls messages with
  | nil => rfl
  | cons first rest =>
      simp only [loop_spec]
      rfl

/-- The environment that the executor returns: the one before the message where a call of it
is rolled back, and otherwise the one that the calls have left. -/
theorem query_env (hCopies : ∀ e c, runtime.modelCopy e = some c → c = e) :
    (ShieldedToolsExecutor.query cfg runtime env messages
        (ShieldGuard.query prim client cfg runtime env messages extra s).1).env =
      if (messageRollback prim client cfg runtime env messages extra s).isSome ∧
          (runtime.modelCopy env).isSome then env
      else replay runtime env (messageRuns prim client cfg runtime env messages extra s) := by
  have hSnapshots : ∀ p ∈ (pendingToolCalls messages).zipIdx, ∀ dec,
      ((ShieldGuard.query prim client cfg runtime env messages extra s).1.shield.bind fun st =>
        Dict.get? st.decisions (toolCallKey p.1 p.2)) = some dec →
      runtime.modelCopy dec.envSnapshot = runtime.modelCopy env := by
    rintro ⟨tc, i⟩ hp dec hDec
    have hi : (pendingToolCalls messages)[i]? = some tc := List.mem_zipIdx_iff_getElem?.1 hp
    obtain ⟨k, tc', dec', -, -, -, hIssued, hFound⟩ :=
      found_after_guard prim client cfg runtime env extra s hi
    obtain rfl := Option.some.inj (hDec.symm.trans hFound)
    rw [issued_snapshot hIssued, snapshot_of_copies hCopies]
  unfold ShieldedToolsExecutor.query messageRuns messageRollback
  cases hCalls : pendingToolCalls messages with
  | nil => rfl
  | cons first rest =>
      rw [hCalls] at hSnapshots
      have hEnv := loop_env cfg runtime 0 (first :: rest)
        { env := env
          shield := (ShieldGuard.query prim client cfg runtime env messages extra s).1.shield }
      have hRestored := loop_restored cfg runtime 0 (first :: rest)
        { env := env
          shield := (ShieldGuard.query prim client cfg runtime env messages extra s).1.shield }
        hSnapshots
      have hFound : ExecutorState.judged
          { env := env
            shield := (ShieldGuard.query prim client cfg runtime env messages extra s).1.shield } =
          foundJudgements prim client cfg runtime env messages extra s := rfl
      rw [hFound] at hEnv hRestored
      simp only [hEnv, hRestored]
      by_cases hSome : ∃ p ∈ (first :: rest).zipIdx, RollsBack runtime
          (foundJudgements prim client cfg runtime env messages extra s) p.1 p.2
      · have hLast : (lastRollback runtime (foundJudgements prim client cfg runtime env messages
            extra s) (first :: rest)).isSome := by
          rw [Option.isSome_iff_ne_none]
          exact fun hNone => lastRollback_eq_none_iff.1 hNone hSome
        rw [if_pos hSome]
        cases hCopy : runtime.modelCopy env with
        | none => simp
        | some c =>
            have hSame := hCopies env c hCopy
            simp [hLast, hSame]
      · have hLast := lastRollback_eq_none_iff.2 hSome
        rw [if_neg hSome, hLast]
        simp

end Message

/-- **Rollback fidelity, with its exact condition.**  For every message and every mix of
verdicts, the executor returns the snapshot with the effects of the calls that ran after the
last rollback if and only if no such effect is lost. -/
theorem rollback_faithful_iff (hCopies : ∀ e c, runtime.modelCopy e = some c → c = e) :
    RollbackFaithful prim client cfg runtime env messages extra s ↔
      NothingLost prim client cfg runtime env messages extra s := by
  unfold RollbackFaithful NothingLost
  simp only
  rw [query_executions, query_env hCopies, snapshot_of_copies hCopies]
  cases hLast : messageRollback prim client cfg runtime env messages extra s with
  | none =>
      rw [ranAfter_none]
      simp
  | some i =>
      simp only [Option.isSome_some, true_and, reduceCtorEq, false_or]
      exact eq_comm

/-- Nothing is lost when no call runs after the last rollback. -/
theorem nothingLost_of_none_later (hCopy : (runtime.modelCopy env).isSome)
    (hLater : ranAfter (messageRollback prim client cfg runtime env messages extra s)
      (messageRuns prim client cfg runtime env messages extra s) = []) :
    NothingLost prim client cfg runtime env messages extra s := by
  refine .inr ?_
  rw [hLater, if_pos hCopy]
  rfl

end Rollback

/-! ## A payment after a rollback -/

namespace Sample

/-- A gate that rolls back what is above 10, so that of two payments one is kept and one is
undone. -/
def limitClient : Client Unit where
  newRunId s := ("run", s)
  draw s := (⟨"record", "correlation", "nonce", 1, "verdict"⟩, s)
  decide pre s :=
    (.ok
      { verdictId := "verdict"
        correlationId := pre.correlationId
        decision := if pre.payload.toolArgs = [("amount", .int 10)] then .pass else .rollback }, s)
  submit _ s := (.ok (), s)

/-- An account from which payments are made; the environment is its balance, and can be
copied. -/
def bank : Runtime Int where
  functions := ["send_money"]
  runFunction balance _ args :=
    ((.null, none), match args with
      | [("amount", .int amount)] => balance - amount
      | _ => balance)
  modelCopy := some
  outputFormatter _ := ""
  emptyFunctionName := "<empty-function-name>"
  stringList _ := none

def payments (amounts : List Int) : List Message :=
  [.assistant (amounts.zipIdx.map fun p =>
    ⟨some (toString p.2), "send_money", [("amount", .int p.1)]⟩)]

end Sample

/-- **A payment is lost.**  The second payment runs after the rollback of the first, and the
returned balance does not show it. -/
theorem payment_lost_after_rollback :
    ¬ RollbackFaithful Sample.prim Sample.limitClient Sample.config Sample.bank 100
      (Sample.payments [50, 10]) {} () := by
  decide

/-- A payment before the rollback is undone. -/
theorem rollback_faithful_sample :
    RollbackFaithful Sample.prim Sample.limitClient Sample.config Sample.bank 100
      (Sample.payments [10, 50]) {} () := by
  have hCopies : ∀ e c, Sample.bank.modelCopy e = some c → c = e :=
    fun _ _ h => (Option.some.inj h).symm
  refine (rollback_faithful_iff Sample.prim Sample.limitClient Sample.config Sample.bank 100
    (Sample.payments [10, 50]) {} () hCopies).2 ?_
  exact nothingLost_of_none_later _ _ _ _ _ _ _ _ rfl (by decide)

end AgentShield.Sdk
