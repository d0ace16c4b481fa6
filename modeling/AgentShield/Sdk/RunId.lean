import AgentShield.Sdk.AuditTrail

/-!
# The run of a pipeline

The shield's state is created with the id of its run, and no element changes it: from the
first message with calls on, all rounds belong to one run (`runIdOf_run`).
-/

namespace AgentShield.Sdk

open AgentShield.Lib

variable {σ Env : Type} (prim : Primitives) (client : Client σ) (cfg : ShieldElementConfig)
  (runtime : Runtime Env)

/-- The run that the shield's state belongs to. -/
def runIdOf (shield : Option (ShieldState Env)) : Option String := shield.map ShieldState.runId

variable {prim client cfg runtime} {env : Env}

theorem runIdOf_setDecision (x : ExecutorState Env) (key : String)
    (dec : Option (ShieldDecision Env)) :
    runIdOf (x.setDecision key dec).shield = runIdOf x.shield := by
  cases dec with
  | none => rfl
  | some dec => exact Option.map_map _ _ _

theorem runIdOf_noteEscalation (x : ExecutorState Env) (tc : ToolCall)
    (dec : ShieldDecision Env) :
    runIdOf (x.noteEscalation cfg tc dec).shield = runIdOf x.shield := by
  unfold ExecutorState.noteEscalation
  split
  · exact Option.map_map _ _ _
  · rfl

/-- No call changes the run. -/
theorem runIdOf_execute (index : Nat) (tc : ToolCall) (x : ExecutorState Env) :
    runIdOf (ShieldedToolsExecutor.execute cfg runtime index tc x).shield = runIdOf x.shield := by
  rcases execute_cases cfg runtime index tc x with
    ⟨-, error, hRefused⟩ | ⟨-, -, hRun⟩ | ⟨dec, -, -, hDecided⟩
  · rw [hRefused]
    rfl
  · rw [hRun]
    rfl
  · have hNote : runIdOf (x.noteEscalation cfg tc dec).shield = runIdOf x.shield :=
      runIdOf_noteEscalation x tc dec
    rcases hDecided with ⟨-, hRun⟩ | ⟨-, hSkip⟩
    · rw [hRun]
      exact (runIdOf_setDecision _ _ _).trans hNote
    · rw [hSkip]
      unfold ExecutorState.skip
      refine (runIdOf_setDecision _ _ _).trans (Eq.trans ?_ hNote)
      split
      · exact Option.map_map _ _ _
      · rfl

theorem runIdOf_executorLoop (index : Nat) (tcs : List ToolCall) (x : ExecutorState Env) :
    runIdOf (ShieldedToolsExecutor.loop cfg runtime index tcs x).shield = runIdOf x.shield := by
  induction tcs generalizing index x with
  | nil => rfl
  | cons tc tcs ih => exact (ih _ _).trans (runIdOf_execute index tc x)

/-- The executor calls the tools and leaves the run id of the state. -/
theorem runIdOf_executor (messages : List Message) (extra : ExtraArgs Env) :
    runIdOf (ShieldedToolsExecutor.query cfg runtime env messages extra).extra.shield =
      runIdOf extra.shield := by
  unfold ShieldedToolsExecutor.query
  cases pendingToolCalls messages with
  | nil => rfl
  | cons first rest => exact runIdOf_executorLoop 0 _ _

/-- Submitting what was done leaves the run id. -/
theorem runId_submitDecision (key : String) (dec : ShieldDecision Env) (st : ShieldState Env)
    (s : σ) :
    (ShieldRecorder.submitDecision prim client cfg key dec st s).1.runId = st.runId := by
  unfold ShieldRecorder.submitDecision
  split <;> rfl

theorem runId_recorderLoop (decs : List (String × ShieldDecision Env)) (st : ShieldState Env)
    (s : σ) : (ShieldRecorder.loop prim client cfg decs st s).1.runId = st.runId := by
  induction decs generalizing st s with
  | nil => rfl
  | cons entry decs ih => exact (ih _ _).trans (runId_submitDecision _ _ st s)

/-- The recorder leaves the run id of the state. -/
theorem runIdOf_recorder (extra : ExtraArgs Env) (s : σ) :
    runIdOf (ShieldRecorder.query prim client cfg extra s).1.shield = runIdOf extra.shield := by
  unfold ShieldRecorder.query
  cases hShield : extra.shield with
  | none => simp only [hShield]
  | some st => exact congrArg some (runId_recorderLoop _ _ _)

/-- The guard asks for decisions and leaves the run id. -/
theorem runId_guardLoop (index : Nat) (tcs : List ToolCall) (st : ShieldState Env) (s : σ) :
    (ShieldGuard.loop prim client cfg runtime env index tcs st s).1.runId = st.runId := by
  induction tcs generalizing index st s with
  | nil => rfl
  | cons tc tcs ih => exact ih _ _ _

/-- A run keeps its id. -/
theorem runIdOf_guard (messages : List Message) (extra : ExtraArgs Env) (s : σ) :
    runIdOf (ShieldGuard.query prim client cfg runtime env messages extra s).1.shield =
      if pendingToolCalls messages = [] then runIdOf extra.shield
      else some (stateOf client cfg extra s).1.runId := by
  unfold ShieldGuard.query
  cases pendingToolCalls messages with
  | nil => rfl
  | cons first rest => exact congrArg some (runId_guardLoop _ _ _ _)

variable (prim client cfg runtime env) in
/-- A round without tool calls leaves the run id, and one with calls ends with that of its
state. -/
theorem runIdOf_round (messages : List Message) (extra : ExtraArgs Env) (s : σ) :
    runIdOf (auditRound prim client cfg runtime messages env extra s).2.2.1.shield =
      if pendingToolCalls messages = [] then runIdOf extra.shield
      else some (stateOf client cfg extra s).1.runId := by
  show runIdOf (ShieldRecorder.query prim (recording client) cfg _ _).1.shield = _
  rw [runIdOf_recorder]
  exact (runIdOf_executor _ _).trans (runIdOf_guard messages extra s)

/-- A state that has a run id is taken up with it. -/
theorem stateOf_runId {extra : ExtraArgs Env} {s : σ} {runId : String}
    (h : runIdOf extra.shield = some runId) : (stateOf client cfg extra s).1.runId = runId := by
  unfold stateOf
  cases hShield : extra.shield with
  | none =>
      rw [hShield] at h
      cases h
  | some st =>
      rw [hShield] at h
      exact Option.some.inj h

variable (prim client cfg runtime) in
/-- In a whole run the run id stays the one it started with, by induction on the rounds. -/
theorem runIdOf_run (rounds : List (List Message)) (env : Env) (extra : ExtraArgs Env) (s : σ)
    {runId : String} (h : runIdOf extra.shield = some runId) :
    runIdOf (auditedRun prim client cfg runtime rounds env extra s).2.2.1.shield =
      some runId := by
  induction rounds generalizing env extra s with
  | nil => exact h
  | cons messages rounds ih =>
      refine ih _ _ _ ((runIdOf_round prim client cfg runtime env messages extra s).trans ?_)
      split
      · exact h
      · rw [stateOf_runId h]

end AgentShield.Sdk
