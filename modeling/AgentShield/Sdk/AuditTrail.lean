import Mathlib.Data.List.Dedup
import AgentShield.Lib.Matching
import AgentShield.Sdk.Outcomes

/-!
# The audit trail of a run

The recorder submits one record for every decision that it has not recorded yet, and the
executor notes in a decision what became of its call.  Two calls of a message under one key
share a decision, and a call that is refused for its name notes nothing.  The records of
every round match its calls one to one exactly when the calls of every message have keys of
their own and names that can be run (`audit_trail_iff`).  The audited run keeps the records
beside the pipeline's own run, which it does not change (`auditedRun_end`).
-/

namespace AgentShield.Sdk

open AgentShield.Lib

/-! ## The records of a round -/

/-- The client, which also keeps the records that it submits. -/
def recording {σ : Type} (client : Client σ) : Client (σ × List ShieldActionRecord) where
  newRunId s := ((client.newRunId s.1).1, ((client.newRunId s.1).2, s.2))
  draw s := ((client.draw s.1).1, ((client.draw s.1).2, s.2))
  decide pre s := ((client.decide pre s.1).1, ((client.decide pre s.1).2, s.2))
  submit post s := ((client.submit post s.1).1, ((client.submit post s.1).2, s.2 ++ [post]))

/-- What one round of the pipeline leaves: the calls of the message, the decisions on them,
what was executed and what was recorded. -/
structure Round (Env : Type) where
  messages : List Message
  /-- The guard's decisions, one for each call. -/
  decisions : List (ShieldDecision Env)
  executed : Executed Env
  /-- The records that the recorder submits. -/
  posts : List ShieldActionRecord

/-- The result messages that the executor appends. -/
def Round.toolMessages {Env : Type} (r : Round Env) : List ToolResult :=
  (r.executed.messages.drop r.messages.length).filterMap fun m =>
    match m with
    | .tool result => some result
    | _ => none

/-- The record is about the call: it is paired with the call's record by its correlation id,
carries the arguments with which the call was run, and an error when its message does. -/
structure Round.Audits {Env : Type} (r : Round Env) (call : ToolCall × Nat)
    (post : ShieldActionRecord) : Prop where
  phase : post.phase = .postExec
  paired : ∃ dec, r.decisions[call.2]? = some dec ∧
    post.correlationId = dec.preRecord.correlationId
  args : ∀ e ∈ r.executed.executions, e.index = call.2 → post.payload.toolArgs = e.args
  error : ∃ message, r.toolMessages[call.2]? = some message ∧
    (post.payload.toolError.isSome ↔ message.error.isSome)

/-- The records of the round match its calls one to one. -/
def Round.Audited {Env : Type} (r : Round Env) : Prop :=
  ∃ posts, posts.Perm r.posts ∧ List.Forall₂ r.Audits (pendingToolCalls r.messages).zipIdx posts

section Run

variable {σ Env : Type} (prim : Primitives) (client : Client σ) (cfg : ShieldElementConfig)
  (runtime : Runtime Env)

/-- A round of the pipeline and what it leaves.  Guard, executor and recorder run one after
the other, on what the one before has left. -/
def auditRound (messages : List Message) (env : Env) (extra : ExtraArgs Env) (s : σ) :
    Round Env × Env × ExtraArgs Env × σ :=
  let guarded := ShieldGuard.query prim client cfg runtime env messages extra s
  let executed := ShieldedToolsExecutor.query cfg runtime env messages guarded.1
  let recorded := ShieldRecorder.query prim (recording client) cfg executed.extra (guarded.2, [])
  ({ messages := messages
     decisions := ShieldGuard.issuedFor prim client cfg runtime env messages extra s
     executed := executed
     posts := recorded.2.2 },
    executed.env, recorded.1, recorded.2.1)

/-- The rounds of a pipeline run, and its end. -/
def auditedRun : List (List Message) → Env → ExtraArgs Env → σ →
    List (Round Env) × Env × ExtraArgs Env × σ
  | [], env, extra, s => ([], env, extra, s)
  | messages :: rounds, env, extra, s =>
      let (round, env, extra, s) := auditRound prim client cfg runtime messages env extra s
      let (later, last) := auditedRun rounds env extra s
      (round :: later, last)

/-- The key of a call of a message. -/
def callKey (call : ToolCall × Nat) : String := toolCallKey call.1 call.2

/-- The calls of the message have keys of their own and names that can be run. -/
structure Clean (messages : List Message) : Prop where
  keys : ((pendingToolCalls messages).zipIdx.map callKey).Nodup
  runnable : ∀ tc ∈ pendingToolCalls messages, Runnable runtime tc

instance (messages : List Message) : Decidable (Clean runtime messages) :=
  decidable_of_iff
    (((pendingToolCalls messages).zipIdx.map callKey).Nodup ∧
      ∀ tc ∈ pendingToolCalls messages, Runnable runtime tc)
    ⟨fun h => ⟨h.1, h.2⟩, fun h => ⟨h.keys, h.runnable⟩⟩

end Run

/-! ## The recorder -/

/-- What an auditor reads of a record: its phase, the decision it belongs to, the arguments
and the error. -/
structure Entry where
  phase : Phase
  correlationId : String
  toolArgs : List (String × Json)
  toolError : Option String
  deriving DecidableEq

def ShieldActionRecord.entry (post : ShieldActionRecord) : Entry where
  phase := post.phase
  correlationId := post.correlationId
  toolArgs := post.payload.toolArgs
  toolError := post.payload.toolError

/-- The entry of the record that a decision is recorded with. -/
def ShieldDecision.entry {Env : Type} (dec : ShieldDecision Env) : Entry where
  phase := .postExec
  correlationId := dec.preRecord.correlationId
  toolArgs := dec.executedArgs.getD dec.preRecord.payload.toolArgs
  toolError := dec.error

/-- The decisions that the pipeline holds. -/
def held {Env : Type} (shield : Option (ShieldState Env)) : Dict String (ShieldDecision Env) :=
  (shield.map ShieldState.decisions).getD []

theorem get?_held {Env : Type} (shield : Option (ShieldState Env)) (key : String) :
    (shield.bind fun st => Dict.get? st.decisions key) = Dict.get? (held shield) key := by
  cases shield <;> rfl

/-- The decisions that are to be recorded. -/
def unrecorded {Env : Type} (decisions : Dict String (ShieldDecision Env)) :
    Dict String (ShieldDecision Env) :=
  decisions.filter fun e => ¬ e.2.recorded

/-- All decisions have been recorded, each under a key of its own. -/
structure Settled {Env : Type} (shield : Option (ShieldState Env)) : Prop where
  keys : ((held shield).map Prod.fst).Nodup
  recorded : ∀ key dec, Dict.get? (held shield) key = some dec → dec.recorded = true

section Recorder

variable {σ Env : Type} (prim : Primitives) (client : Client σ) (cfg : ShieldElementConfig)

/-- **The recorder submits one record for each unrecorded decision.** -/
theorem recorder_posts (decisions : List (String × ShieldDecision Env)) (st : ShieldState Env)
    (s : σ) (posts : List ShieldActionRecord) :
    (ShieldRecorder.loop prim (recording client) cfg decisions st (s, posts)).2.2.map
        ShieldActionRecord.entry =
      posts.map ShieldActionRecord.entry ++
        (unrecorded decisions).map fun e => e.2.entry := by
  induction decisions generalizing st s posts with
  | nil => exact (List.append_nil _).symm
  | cons e decisions ih =>
      obtain ⟨key, dec⟩ := e
      simp only [ShieldRecorder.loop, ShieldRecorder.submitDecision]
      cases hRecorded : dec.recorded with
      | true =>
          simp only [if_true]
          rw [ih]
          simp [unrecorded, hRecorded]
      | false =>
          simp only [Bool.false_eq_true, if_false]
          rw [ih]
          simp [recording, unrecorded, hRecorded]
          rfl

/-- After the recorder everything has been recorded, whether or not the submissions have
arrived. -/
theorem recorder_recorded (decisions : List (String × ShieldDecision Env)) (st : ShieldState Env)
    (s : σ) (hKeys : (st.decisions.map Prod.fst).Nodup)
    (h : ∀ key dec, Dict.get? st.decisions key = some dec →
      dec.recorded = true ∨ (key, dec) ∈ decisions) :
    Settled (some (ShieldRecorder.loop prim client cfg decisions st s).1) := by
  induction decisions generalizing st s with
  | nil =>
      refine ⟨hKeys, fun key dec hDec => ?_⟩
      exact (h key dec hDec).resolve_right (List.not_mem_nil)
  | cons e decisions ih =>
      obtain ⟨key, dec⟩ := e
      simp only [ShieldRecorder.loop, ShieldRecorder.submitDecision]
      cases hRecorded : dec.recorded with
      | true =>
          simp only [if_true]
          refine ih _ _ hKeys fun key' dec' hDec => ?_
          rcases h key' dec' hDec with hDone | hMem
          · exact .inl hDone
          · rcases List.mem_cons.1 hMem with hHead | hTail
            · obtain ⟨-, rfl⟩ := Prod.mk.inj hHead
              exact .inl hRecorded
            · exact .inr hTail
      | false =>
          simp only [Bool.false_eq_true, if_false]
          refine ih _ _ (Dict.nodup_keys_set hKeys _ _) fun key' dec' hDec => ?_
          have hGet : (if key = key' then some { dec with recorded := true }
              else Dict.get? st.decisions key') = some dec' :=
            (Dict.get?_set _ _ _ _).symm.trans hDec
          by_cases hKey : key = key'
          · rw [if_pos hKey] at hGet
            obtain rfl := Option.some.inj hGet
            exact .inl rfl
          · rw [if_neg hKey] at hGet
            rcases h key' dec' hGet with hDone | hMem
            · exact .inl hDone
            · rcases List.mem_cons.1 hMem with hHead | hTail
              · exact absurd (Prod.mk.inj hHead).1.symm hKey
              · exact .inr hTail

/-- The record keeping of the client changes nothing else. -/
theorem recording_loop (decisions : List (String × ShieldDecision Env)) (st : ShieldState Env)
    (s : σ) (posts : List ShieldActionRecord) :
    (ShieldRecorder.loop prim (recording client) cfg decisions st (s, posts)).1 =
        (ShieldRecorder.loop prim client cfg decisions st s).1 ∧
      (ShieldRecorder.loop prim (recording client) cfg decisions st (s, posts)).2.1 =
        (ShieldRecorder.loop prim client cfg decisions st s).2 := by
  induction decisions generalizing st s posts with
  | nil => exact ⟨rfl, rfl⟩
  | cons e decisions ih =>
      obtain ⟨key, dec⟩ := e
      simp only [ShieldRecorder.loop, ShieldRecorder.submitDecision]
      cases hRecorded : dec.recorded with
      | true => exact ih _ _ _
      | false => exact ih _ _ _

end Recorder

/-! ## The guard -/

section Guard

variable {σ Env : Type} (prim : Primitives) (client : Client σ) (cfg : ShieldElementConfig)
  (runtime : Runtime Env) (env : Env)

/-- A decision that no element has noted anything in yet. -/
structure Fresh (dec : ShieldDecision Env) : Prop where
  recorded : dec.recorded = false
  executedArgs : dec.executedArgs = none
  error : dec.error = none

variable {prim client cfg runtime env} in
theorem issued_fresh {index k : Nat} {tcs : List ToolCall} {st : ShieldState Env} {s : σ}
    {dec : ShieldDecision Env}
    (h : (ShieldGuard.issued prim client cfg runtime env index tcs st s)[k]? = some dec) :
    Fresh dec := by
  induction tcs generalizing index k st s with
  | nil => simp [ShieldGuard.issued] at h
  | cons tc tcs ih =>
      cases k with
      | zero =>
          obtain rfl := Option.some.inj h
          exact ⟨rfl, rfl, rfl⟩
      | succ k => exact ih h

theorem guardLoop_keys (index : Nat) (tcs : List ToolCall) (st : ShieldState Env) (s : σ)
    (h : (st.decisions.map Prod.fst).Nodup) :
    ((ShieldGuard.loop prim client cfg runtime env index tcs st s).1.decisions.map
      Prod.fst).Nodup := by
  induction tcs generalizing index st s with
  | nil => exact h
  | cons tc tcs ih => exact ih (index + 1) _ _ (Dict.nodup_keys_set h _ _)

theorem decisions_stateOf (extra : ExtraArgs Env) (s : σ) :
    (stateOf client cfg extra s).1.decisions = held extra.shield := by
  unfold stateOf held
  cases extra.shield with
  | some st => rfl
  | none =>
      cases orText cfg.runId with
      | some runId => rfl
      | none => cases orText extra.shieldRunId <;> rfl

/-- What the guard leaves: old decisions under other keys, and a fresh decision under the key
of every call. -/
structure Guarded (messages : List Message) (before after : Option (ShieldState Env)) : Prop where
  keys : ((held after).map Prod.fst).Nodup
  others : ∀ key, key ∉ (pendingToolCalls messages).zipIdx.map callKey →
    Dict.get? (held after) key = Dict.get? (held before) key
  calls : ∀ call ∈ (pendingToolCalls messages).zipIdx, ∃ dec,
    Dict.get? (held after) (callKey call) = some dec ∧ Fresh dec

theorem guarded_query (messages : List Message) (extra : ExtraArgs Env) (s : σ)
    (h : ((held extra.shield).map Prod.fst).Nodup) :
    Guarded messages extra.shield
      (ShieldGuard.query prim client cfg runtime env messages extra s).1.shield := by
  constructor
  · unfold ShieldGuard.query
    cases hCalls : pendingToolCalls messages with
    | nil => exact h
    | cons first rest =>
        refine guardLoop_keys prim client cfg runtime env 0 _ _ _ ?_
        rw [decisions_stateOf]
        exact h
  · intro key hOther
    unfold ShieldGuard.query
    cases hCalls : pendingToolCalls messages with
    | nil => rfl
    | cons first rest =>
        rw [← decisions_stateOf client cfg extra s]
        refine get?_loop_ne fun k tc hTc hKey => hOther ?_
        rw [hCalls]
        refine List.mem_map.2 ⟨(tc, k), List.mem_zipIdx_iff_getElem?.2 hTc, ?_⟩
        rw [← hKey, Nat.zero_add]
        rfl
  · rintro ⟨tc, i⟩ hCall
    obtain ⟨k, tc', dec, -, -, -, hIssued, hFound⟩ := found_after_guard prim client cfg runtime
      env extra s (List.mem_zipIdx_iff_getElem?.1 hCall)
    rw [get?_held] at hFound
    exact ⟨dec, hFound, issued_fresh hIssued⟩

end Guard

/-! ## The executor -/

section Executor

variable {Env : Type} (cfg : ShieldElementConfig) (runtime : Runtime Env)

/-- The executor keeps the keys of the decisions apart: it changes decisions under their keys
and adds none. -/
theorem execute_keys (index : Nat) (tc : ToolCall) (x : ExecutorState Env)
    (h : ((held x.shield).map Prod.fst).Nodup) :
    ((held (ShieldedToolsExecutor.execute cfg runtime index tc x).shield).map Prod.fst).Nodup := by
  have hSet : ∀ (y : ExecutorState Env) key dec, ((held y.shield).map Prod.fst).Nodup →
      ((held (y.setDecision key (some dec)).shield).map Prod.fst).Nodup := by
    intro y key dec hy
    unfold ExecutorState.setDecision
    cases hShield : y.shield with
    | none => exact List.nodup_nil
    | some st =>
        rw [hShield] at hy
        exact Dict.nodup_keys_set hy _ _
  have hNote : ∀ dec, held (x.noteEscalation cfg tc dec).shield = held x.shield := by
    intro dec
    unfold ExecutorState.noteEscalation
    split
    · unfold ExecutorState.addHitlSignal
      cases x.shield <;> rfl
    · rfl
  have hRollBack : ∀ (y : ExecutorState Env) dec,
      held (y.rollBack runtime dec).shield = held y.shield := by
    intro y dec
    unfold ExecutorState.rollBack ExecutorState.addRollbackSignal
    cases y.shield <;> rfl
  rcases execute_cases cfg runtime index tc x with
    ⟨-, error, hRefused⟩ | ⟨-, -, hRun⟩ | ⟨dec, -, -, hDecided⟩
  · rw [hRefused]
    exact h
  · rw [hRun]
    exact h
  · rcases hDecided with ⟨-, hRun⟩ | ⟨-, hSkip⟩
    · rw [hRun]
      exact hSet _ _ _ (hNote dec ▸ h)
    · rw [hSkip]
      unfold ExecutorState.skip
      by_cases hRollback : dec.verdict.decision = .rollback
      · simp only [if_pos hRollback]
        refine hSet _ _ _ ?_
        rw [hRollBack, hNote]
        exact h
      · simp only [if_neg hRollback]
        exact hSet _ _ _ (hNote dec ▸ h)

/-- What became of a call: a call that can be run is noted in its decision, and a call that
cannot only leaves an error. -/
def Outcome (judged : String → Option Judgement) (call : ToolCall × Nat)
    (dec dec' : ShieldDecision Env) (message : ToolResult) : Prop :=
  if Runnable runtime call.1 then
    Noted dec dec' (executionOf cfg runtime judged call.1 call.2) message
  else dec' = dec ∧ message.error.isSome

/-- **One call**, when it has a decision. -/
theorem execute_outcome (index : Nat) (tc : ToolCall) (x : ExecutorState Env)
    {dec : ShieldDecision Env} (hDec : x.decisionFor (toolCallKey tc index) = some dec) :
    ∃ dec' message,
      Leaves x (ShieldedToolsExecutor.execute cfg runtime index tc x) (toolCallKey tc index) dec'
          message ∧
        Outcome cfg runtime x.judged (tc, index) dec dec' message := by
  unfold Outcome
  by_cases hRunnable : Runnable runtime tc
  · obtain ⟨dec', message, hLeaves, hNoted⟩ := execute_leaves cfg hRunnable hDec
    exact ⟨dec', message, hLeaves, by rwa [if_pos hRunnable]⟩
  · obtain ⟨error, hRefused⟩ := execute_refused cfg hRunnable index x
    refine ⟨dec, refusal tc error, ?_, ?_⟩
    · rw [hRefused]
      exact ⟨rfl, hDec, fun _ _ => rfl⟩
    · rw [if_neg hRunnable]
      exact ⟨rfl, rfl⟩

theorem loop_keys (index : Nat) (tcs : List ToolCall) (x : ExecutorState Env)
    (h : ((held x.shield).map Prod.fst).Nodup) :
    ((held (ShieldedToolsExecutor.loop cfg runtime index tcs x).shield).map Prod.fst).Nodup := by
  induction tcs generalizing index x with
  | nil => exact h
  | cons tc tcs ih => exact ih (index + 1) _ (execute_keys cfg runtime index tc x h)

/-- The executor records nothing. -/
theorem loop_recorded (index : Nat) (tcs : List ToolCall) (x : ExecutorState Env) (key : String) :
    ((ShieldedToolsExecutor.loop cfg runtime index tcs x).decisionFor key).map
        ShieldDecision.recorded =
      (x.decisionFor key).map ShieldDecision.recorded := by
  induction tcs generalizing index x with
  | nil => rfl
  | cons tc tcs ih =>
      exact (ih (index + 1) _).trans (execute_keeps cfg Noted.recorded index tc x key)

/-- **The calls of a message**, when they have keys of their own: each is noted in the
decision that was found for it at the start. -/
theorem loop_outcomes (judged : String → Option Judgement)
    (found : String → Option (ShieldDecision Env)) (index : Nat) (tcs : List ToolCall)
    (x : ExecutorState Env) (hJudged : x.judged = judged)
    (hKeys : ((tcs.zipIdx index).map callKey).Nodup)
    (hFound : ∀ call ∈ tcs.zipIdx index,
      x.decisionFor (callKey call) = found (callKey call) ∧ (found (callKey call)).isSome) :
    (∀ key, key ∉ (tcs.zipIdx index).map callKey →
      (ShieldedToolsExecutor.loop cfg runtime index tcs x).decisionFor key = x.decisionFor key) ∧
    ∃ messages,
      (ShieldedToolsExecutor.loop cfg runtime index tcs x).results = x.results ++ messages ∧
      List.Forall₂ (fun call message => ∃ dec dec', found (callKey call) = some dec ∧
        (ShieldedToolsExecutor.loop cfg runtime index tcs x).decisionFor (callKey call) =
          some dec' ∧
        Outcome cfg runtime judged call dec dec' message) (tcs.zipIdx index) messages := by
  induction tcs generalizing index x with
  | nil => exact ⟨fun _ _ => rfl, [], (List.append_nil _).symm, .nil⟩
  | cons tc tcs ih =>
      rw [List.zipIdx_cons] at hKeys hFound ⊢
      rw [List.map_cons, List.nodup_cons] at hKeys
      obtain ⟨hHere, hSome⟩ := hFound (tc, index) List.mem_cons_self
      obtain ⟨dec, hDec⟩ := Option.isSome_iff_exists.1 hSome
      obtain ⟨dec', message, hLeaves, hOutcome⟩ :=
        execute_outcome cfg runtime index tc x (hHere.trans hDec)
      -- the later calls have other keys, so their decisions are still the same
      have hLater : ∀ call ∈ tcs.zipIdx (index + 1),
          (ShieldedToolsExecutor.execute cfg runtime index tc x).decisionFor (callKey call) =
              found (callKey call) ∧ (found (callKey call)).isSome := by
        intro call hCall
        obtain ⟨hSame, hSome⟩ := hFound call (List.mem_cons_of_mem _ hCall)
        refine ⟨(hLeaves.others _ fun hKey => hKeys.1 ?_).trans hSame, hSome⟩
        exact List.mem_map.2 ⟨call, hCall, hKey⟩
      obtain ⟨hFrame, messages, hResults, hCalls⟩ := ih (index + 1)
        (ShieldedToolsExecutor.execute cfg runtime index tc x)
        ((execute_spec cfg runtime index tc x).1.trans hJudged) hKeys.2 hLater
      refine ⟨fun key hKey => ?_, message :: messages, ?_, .cons ?_ hCalls⟩
      · rw [List.map_cons, List.mem_cons, not_or] at hKey
        exact (hFrame key hKey.2).trans (hLeaves.others key hKey.1)
      · show (ShieldedToolsExecutor.loop cfg runtime (index + 1) tcs _).results = _
        rw [hResults, hLeaves.results, List.append_assoc]
        rfl
      · exact ⟨dec, dec', hDec, (hFrame _ hKeys.1).trans hLeaves.found, hJudged ▸ hOutcome⟩

end Executor

/-! ## One round -/

section Unrecorded

variable {Env : Type} {decisions : Dict String (ShieldDecision Env)}

/-- With unique keys, the keys of what is to be recorded. -/
theorem mem_unrecorded_keys (hKeys : (decisions.map Prod.fst).Nodup) {key : String} :
    key ∈ (unrecorded decisions).map Prod.fst ↔
      (Dict.get? decisions key).map ShieldDecision.recorded = some false := by
  rw [List.mem_map, Option.map_eq_some_iff]
  constructor
  · rintro ⟨⟨key', dec⟩, hMem, rfl⟩
    obtain ⟨hEntry, hKept⟩ := List.mem_filter.1 hMem
    refine ⟨dec, (Dict.get?_eq_some_iff hKeys).2 hEntry, ?_⟩
    simpa using hKept
  · rintro ⟨dec, hDec, hRecorded⟩
    refine ⟨(key, dec), List.mem_filter.2 ⟨Dict.mem_of_get? hDec, ?_⟩, rfl⟩
    simpa using hRecorded

/-- The entries of what is to be recorded, by their keys. -/
theorem unrecorded_entries (hKeys : (decisions.map Prod.fst).Nodup) :
    (unrecorded decisions).map (fun e => some e.2.entry) =
      ((unrecorded decisions).map Prod.fst).map fun key =>
        (Dict.get? decisions key).map ShieldDecision.entry := by
  rw [List.map_map]
  refine List.map_congr_left fun e he => ?_
  have hGet : Dict.get? decisions e.1 = some e.2 :=
    (Dict.get?_eq_some_iff hKeys).2 (List.mem_of_mem_filter he)
  show some e.2.entry = (Dict.get? decisions e.1).map ShieldDecision.entry
  rw [hGet, Option.map_some]

end Unrecorded

section OneRound

variable {σ Env : Type} (prim : Primitives) (client : Client σ) (cfg : ShieldElementConfig)
  (runtime : Runtime Env) (messages : List Message) (env : Env) (extra : ExtraArgs Env) (s : σ)

/-- The decisions that a round leaves. -/
def leftDecisions : Dict String (ShieldDecision Env) :=
  held (auditRound prim client cfg runtime messages env extra s).1.executed.extra.shield

/-- The decisions after the executor. -/
theorem executor_held (hKeys : ((held extra.shield).map Prod.fst).Nodup) :
    ((held (ShieldedToolsExecutor.query cfg runtime env messages extra).extra.shield).map
        Prod.fst).Nodup ∧
      ∀ key, (Dict.get? (held
          (ShieldedToolsExecutor.query cfg runtime env messages extra).extra.shield) key).map
            ShieldDecision.recorded =
        (Dict.get? (held extra.shield) key).map ShieldDecision.recorded := by
  unfold ShieldedToolsExecutor.query
  cases hCalls : pendingToolCalls messages with
  | nil => exact ⟨hKeys, fun _ => rfl⟩
  | cons first rest =>
      refine ⟨loop_keys cfg runtime 0 (first :: rest)
        { env := env, shield := extra.shield } hKeys, fun key => ?_⟩
      have hLoop := loop_recorded cfg runtime 0 (first :: rest)
        { env := env, shield := extra.shield } key
      unfold ExecutorState.decisionFor at hLoop
      rw [get?_held, get?_held] at hLoop
      exact hLoop

/-- What the recorder submits in a round. -/
theorem round_posts :
    (auditRound prim client cfg runtime messages env extra s).1.posts.map
        ShieldActionRecord.entry =
      (unrecorded (leftDecisions prim client cfg runtime messages env extra s)).map fun e =>
        e.2.entry := by
  show (ShieldRecorder.query prim (recording client) cfg (ShieldedToolsExecutor.query cfg runtime
      env messages _).extra (_, [])).2.2.map ShieldActionRecord.entry = _
  unfold ShieldRecorder.query leftDecisions
  show _ = (unrecorded (held (ShieldedToolsExecutor.query cfg runtime env messages
    (ShieldGuard.query prim client cfg runtime env messages extra s).1).extra.shield)).map _
  cases (ShieldedToolsExecutor.query cfg runtime env messages
      (ShieldGuard.query prim client cfg runtime env messages extra s).1).extra.shield with
  | none => rfl
  | some st => exact recorder_posts prim client cfg st.decisions st _ []

variable {extra} in
/-- What is to be recorded after a round is what its calls are about. -/
theorem left_keys (h : Settled extra.shield) :
    ((leftDecisions prim client cfg runtime messages env extra s).map Prod.fst).Nodup ∧
      ∀ key, (Dict.get? (leftDecisions prim client cfg runtime messages env extra s) key).map
          ShieldDecision.recorded = some false ↔
        key ∈ (pendingToolCalls messages).zipIdx.map callKey := by
  have hGuard := guarded_query prim client cfg runtime env messages extra s h.keys
  obtain ⟨hKeys, hRecorded⟩ := executor_held cfg runtime messages env
    (ShieldGuard.query prim client cfg runtime env messages extra s).1 hGuard.keys
  refine ⟨hKeys, fun key => ?_⟩
  refine (iff_of_eq (congrArg (· = some false) (hRecorded key))).trans ?_
  constructor
  · intro hFresh
    by_contra hOther
    rw [hGuard.others key hOther] at hFresh
    obtain ⟨dec, hDec, hNot⟩ := Option.map_eq_some_iff.1 hFresh
    rw [h.recorded key dec hDec] at hNot
    exact absurd hNot (by decide)
  · intro hMem
    obtain ⟨call, hCall, rfl⟩ := List.mem_map.1 hMem
    obtain ⟨dec, hDec, hFresh⟩ := hGuard.calls call hCall
    rw [hDec, Option.map_some, hFresh.recorded]

variable {extra} in
/-- **The records of a round** are those of the decisions that its calls leave, one for each
key, in whatever order. -/
theorem round_entries (h : Settled extra.shield) :
    ((auditRound prim client cfg runtime messages env extra s).1.posts.map fun post =>
        some post.entry).Perm
      (((pendingToolCalls messages).zipIdx.map callKey).dedup.map fun key =>
        (Dict.get? (leftDecisions prim client cfg runtime messages env extra s) key).map
          ShieldDecision.entry) := by
  obtain ⟨hKeys, hCalls⟩ := left_keys prim client cfg runtime messages env s h
  have hSame : ∀ key,
      key ∈ (unrecorded (leftDecisions prim client cfg runtime messages env extra s)).map
          Prod.fst ↔
        key ∈ ((pendingToolCalls messages).zipIdx.map callKey).dedup := by
    intro key
    rw [List.mem_dedup, ← hCalls]
    exact mem_unrecorded_keys hKeys
  have hNodup : ((unrecorded (leftDecisions prim client cfg runtime messages env extra s)).map
      Prod.fst).Nodup :=
    List.Nodup.sublist (List.filter_sublist.map _) hKeys
  have hPosts : ((auditRound prim client cfg runtime messages env extra s).1.posts.map
      fun post => some post.entry) = (unrecorded (leftDecisions prim client cfg runtime messages
        env extra s)).map fun e => some e.2.entry := by
    have hEntries := congrArg (List.map some)
      (round_posts prim client cfg runtime messages env extra s)
    rwa [List.map_map, List.map_map] at hEntries
  rw [hPosts, unrecorded_entries hKeys]
  exact ((List.perm_ext_iff_of_nodup hNodup (List.nodup_dedup _)).2 hSame).map _

/-- What a round leaves of a call: the entry of its decision, and its message. -/
structure CallEnd (r : Round Env) (call : ToolCall × Nat) (entry : Entry) (message : ToolResult) :
    Prop where
  phase : entry.phase = .postExec
  paired : ∃ dec, r.decisions[call.2]? = some dec ∧
    entry.correlationId = dec.preRecord.correlationId
  args : ∀ e ∈ r.executed.executions, e.index = call.2 → entry.toolArgs = e.args
  found : r.toolMessages[call.2]? = some message
  error : Runnable runtime call.1 → entry.toolError = message.error
  refused : ¬ Runnable runtime call.1 → entry.toolError = none ∧ message.error.isSome

/-- The messages that the executor appends are its results. -/
theorem round_toolMessages {first : ToolCall} {rest : List ToolCall}
    (hCalls : pendingToolCalls messages = first :: rest) :
    (auditRound prim client cfg runtime messages env extra s).1.toolMessages =
      (ShieldedToolsExecutor.loop cfg runtime 0 (first :: rest)
        { env := env
          shield := (ShieldGuard.query prim client cfg runtime env messages extra
            s).1.shield }).results := by
  have hSome : messages ≠ [] := by
    rintro rfl
    cases hCalls
  show ((ShieldedToolsExecutor.query cfg runtime env messages
    (ShieldGuard.query prim client cfg runtime env messages extra s).1).messages.drop
      messages.length).filterMap _ = _
  have hLength : messages.length = messages.dropLast.length + 1 := by
    rw [List.length_dropLast]
    have hPos := List.length_pos_iff.2 hSome
    omega
  unfold ShieldedToolsExecutor.query
  simp only [hCalls, withResults]
  rw [hLength, List.drop_append, List.drop_of_length_le (Nat.le_succ _)]
  simp [List.filterMap_map]

/-- With keys of their own, the executor finds the guard's decision on each call. -/
theorem found_own (hKeys : ((pendingToolCalls messages).zipIdx.map callKey).Nodup) {i : Nat}
    {tc : ToolCall} (hCall : (tc, i) ∈ (pendingToolCalls messages).zipIdx) :
    ∃ dec, (ShieldGuard.issuedFor prim client cfg runtime env messages extra s)[i]? = some dec ∧
      Dict.get? (held (ShieldGuard.query prim client cfg runtime env messages extra s).1.shield)
        (callKey (tc, i)) = some dec := by
  obtain ⟨k, tc', dec, -, hTc, hKey, hIssued, hFound⟩ := found_after_guard prim client cfg runtime
    env extra s (List.mem_zipIdx_iff_getElem?.1 hCall)
  have hSame : (tc', k) = (tc, i) := List.inj_on_of_nodup_map hKeys
    (List.mem_zipIdx_iff_getElem?.2 hTc) hCall hKey
  obtain ⟨rfl, rfl⟩ := Prod.mk.inj hSame
  rw [get?_held] at hFound
  exact ⟨dec, hIssued, hFound⟩

/-- The run of a call of the message. -/
theorem executionOf_call {i : Nat} {tc : ToolCall} {e : Execution}
    (hTc : (pendingToolCalls messages)[i]? = some tc)
    (he : e ∈ (auditRound prim client cfg runtime messages env extra s).1.executed.executions)
    (hIndex : e.index = i) :
    executionOf cfg runtime (foundJudgements prim client cfg runtime env messages extra s) tc i =
      some e := by
  obtain ⟨i', tc', hTc', hRun⟩ := mem_executions.1 he
  have hSame : e.index = i' := by
    unfold executionOf at hRun
    simp only [Option.ite_none_right_eq_some, Option.some.injEq] at hRun
    rw [← hRun.2]
  obtain rfl : i = i' := hIndex.symm.trans hSame
  obtain rfl := Option.some.inj (hTc.symm.trans hTc')
  exact hRun

/-- What the executor's loop leaves of a call. -/
theorem round_outcome (hKeys : ((pendingToolCalls messages).zipIdx.map callKey).Nodup) {i : Nat}
    {tc : ToolCall} (hTc : (pendingToolCalls messages)[i]? = some tc) :
    ∃ dec dec' message,
      (ShieldGuard.issuedFor prim client cfg runtime env messages extra s)[i]? = some dec ∧
      Dict.get? (leftDecisions prim client cfg runtime messages env extra s) (callKey (tc, i)) =
        some dec' ∧
      (auditRound prim client cfg runtime messages env extra s).1.toolMessages[i]? =
        some message ∧
      Outcome cfg runtime (foundJudgements prim client cfg runtime env messages extra s) (tc, i)
        dec dec' message := by
  obtain ⟨dec, hIssued, hFound⟩ := found_own prim client cfg runtime messages env extra s hKeys
    (List.mem_zipIdx_iff_getElem?.2 hTc)
  cases hCalls : pendingToolCalls messages with
  | nil => simp [hCalls] at hTc
  | cons first rest =>
      have hOwn : ∀ call ∈ (first :: rest).zipIdx, (Dict.get? (held (ShieldGuard.query prim client
          cfg runtime env messages extra s).1.shield) (callKey call)).isSome := by
        rintro ⟨tc', k⟩ hMem
        obtain ⟨dec, -, hSome⟩ := found_own prim client cfg runtime messages env extra s hKeys
          (hCalls ▸ hMem)
        exact Option.isSome_of_eq_some hSome
      obtain ⟨-, results, hResults, hOutcomes⟩ := loop_outcomes cfg runtime
        (foundJudgements prim client cfg runtime env messages extra s)
        (Dict.get? (held (ShieldGuard.query prim client cfg runtime env messages extra s).1.shield))
        0 (first :: rest)
        { env := env
          shield := (ShieldGuard.query prim client cfg runtime env messages extra s).1.shield }
        rfl (hCalls ▸ hKeys) fun call hMem => ⟨get?_held _ _, hOwn call hMem⟩
      have hPosition : ((first :: rest).zipIdx)[i]? = some (tc, i) := by
        rw [List.getElem?_zipIdx, ← hCalls, hTc, Option.map_some, Nat.zero_add]
      obtain ⟨message, hMessage, dec₀, dec', hSome, hLeft, hOutcome⟩ :=
        getElem?_of_forall₂ hOutcomes hPosition
      obtain rfl := Option.some.inj (hFound.symm.trans hSome)
      refine ⟨dec, dec', message, hIssued, ?_, ?_, hOutcome⟩
      · unfold leftDecisions
        rw [← get?_held]
        show ((ShieldedToolsExecutor.query cfg runtime env messages _).extra.shield.bind _) = _
        unfold ShieldedToolsExecutor.query
        simp only [hCalls]
        exact hLeft
      · rw [round_toolMessages prim client cfg runtime messages env extra s hCalls, hResults]
        exact hMessage

/-- **The end of every call**, when the calls of the message have keys of their own. -/
theorem round_ends (hKeys : ((pendingToolCalls messages).zipIdx.map callKey).Nodup) :
    ∀ call ∈ (pendingToolCalls messages).zipIdx, ∃ entry message,
      (Dict.get? (leftDecisions prim client cfg runtime messages env extra s)
          (callKey call)).map ShieldDecision.entry = some entry ∧
        CallEnd runtime (auditRound prim client cfg runtime messages env extra s).1 call entry
          message := by
  rintro ⟨tc, i⟩ hCall
  have hTc : (pendingToolCalls messages)[i]? = some tc := List.mem_zipIdx_iff_getElem?.1 hCall
  obtain ⟨dec, dec', message, hIssued, hLeft, hMessage, hOutcome⟩ :=
    round_outcome prim client cfg runtime messages env extra s hKeys hTc
  have hFresh : Fresh dec := issued_fresh hIssued
  refine ⟨dec'.entry, message, by rw [hLeft, Option.map_some], ?_⟩
  unfold Outcome at hOutcome
  by_cases hRunnable : Runnable runtime tc
  · rw [if_pos hRunnable] at hOutcome
    refine ⟨rfl, ⟨dec, hIssued, ?_⟩, fun e he hIndex => ?_, hMessage, fun _ => hOutcome.error,
      fun hNot => absurd hRunnable hNot⟩
    · exact congrArg (fun j => j.preRecord.correlationId) hOutcome.judgement
    · have hRan := executionOf_call prim client cfg runtime messages env extra s hTc he hIndex
      have hArgs := hOutcome.executedArgs
      rw [hRan] at hArgs
      show dec'.executedArgs.getD _ = e.args
      rw [hArgs]
      rfl
  · rw [if_neg hRunnable] at hOutcome
    obtain ⟨rfl, hError⟩ := hOutcome
    refine ⟨rfl, ⟨dec', hIssued, rfl⟩, fun e he hIndex => ?_, hMessage,
      fun hYes => absurd hYes hRunnable, fun _ => ⟨hFresh.error, hError⟩⟩
    have hRan := executionOf_call prim client cfg runtime messages env extra s hTc he hIndex
    simp [executionOf, hRunnable] at hRan

end OneRound

/-! ## The records match the calls -/

/-- The message of the call carries an error. -/
def Round.failed {Env : Type} (r : Round Env) (call : ToolCall × Nat) : Bool :=
  (r.toolMessages[call.2]?).any fun message => message.error.isSome

/-- In a round that is audited, as many records carry an error as messages do. -/
theorem Round.Audited.errors {Env : Type} {r : Round Env} (h : r.Audited) :
    (pendingToolCalls r.messages).zipIdx.countP r.failed =
      r.posts.countP fun post => post.payload.toolError.isSome := by
  obtain ⟨posts, hPerm, hMatch⟩ := h
  rw [← hPerm.countP_eq]
  refine countP_of_forall₂ hMatch fun call post hAudits => ?_
  obtain ⟨message, hMessage, hError⟩ := hAudits.error
  unfold failed
  rw [hMessage]
  exact (Bool.eq_iff_iff.2 hError).symm

section Trail

variable {σ Env : Type} (prim : Primitives) (client : Client σ) (cfg : ShieldElementConfig)
  (runtime : Runtime Env)

/-- With keys of their own, the calls can be matched with the records. -/
theorem round_matching (messages : List Message) (env : Env) {extra : ExtraArgs Env} (s : σ)
    (h : Settled extra.shield)
    (hKeys : ((pendingToolCalls messages).zipIdx.map callKey).Nodup) :
    ∃ posts, posts.Perm (auditRound prim client cfg runtime messages env extra s).1.posts ∧
      List.Forall₂ (fun call post =>
        (Dict.get? (leftDecisions prim client cfg runtime messages env extra s)
          (callKey call)).map ShieldDecision.entry = some post.entry)
        (pendingToolCalls messages).zipIdx posts := by
  have hEntries := round_entries prim client cfg runtime messages env s h
  rw [List.dedup_eq_self.2 hKeys, List.map_map] at hEntries
  exact exists_matching hEntries

/-- **One round** is audited exactly when its message is clean.  Where it is not, there are
fewer records than calls or an error that no record notes, and the counts show it. -/
theorem round_audited_iff (messages : List Message) (env : Env) {extra : ExtraArgs Env} (s : σ)
    (h : Settled extra.shield) :
    (auditRound prim client cfg runtime messages env extra s).1.Audited ↔
      Clean runtime messages := by
  constructor
  · intro hAudited
    -- as many records as keys
    have hKeys : ((pendingToolCalls messages).zipIdx.map callKey).Nodup := by
      obtain ⟨posts, hPerm, hMatch⟩ := hAudited
      have hEntries := (round_entries prim client cfg runtime messages env s h).length_eq
      rw [List.length_map, List.length_map, ← hPerm.length_eq, ← hMatch.length_eq] at hEntries
      refine List.dedup_eq_self.1 ((List.dedup_sublist _).eq_of_length ?_)
      rw [← hEntries, List.length_map]
      rfl
    have hEnds := round_ends prim client cfg runtime messages env extra s hKeys
    obtain ⟨posts, hPerm, hMatch⟩ :=
      round_matching prim client cfg runtime messages env s h hKeys
    -- as many errors in the records as in the messages
    have hCount : (pendingToolCalls messages).zipIdx.countP (fun call =>
        ((Dict.get? (leftDecisions prim client cfg runtime messages env extra s)
          (callKey call)).map ShieldDecision.entry).any fun entry => entry.toolError.isSome) =
        (pendingToolCalls messages).zipIdx.countP
          (auditRound prim client cfg runtime messages env extra s).1.failed := by
      refine Eq.trans ?_ hAudited.errors.symm
      rw [← hPerm.countP_eq]
      refine countP_of_forall₂ hMatch fun call post hEntry => ?_
      rw [hEntry]
      rfl
    have hBack := of_countP_eq (fun call hCall hError => ?_) hCount
    · refine ⟨hKeys, fun tc hTc => ?_⟩
      obtain ⟨i, hi⟩ := List.mem_iff_getElem?.1 hTc
      have hCall : (tc, i) ∈ (pendingToolCalls messages).zipIdx :=
        List.mem_zipIdx_iff_getElem?.2 hi
      obtain ⟨entry, message, hEntry, hEnd⟩ := hEnds _ hCall
      by_contra hNot
      obtain ⟨hNone, hSome⟩ := hEnd.refused hNot
      have hFailed := hBack _ hCall (by
        unfold Round.failed
        rw [hEnd.found]
        exact hSome)
      rw [hEntry] at hFailed
      have hError : entry.toolError.isSome = true := hFailed
      rw [hNone] at hError
      exact absurd hError (by decide)
    · obtain ⟨entry, message, hEntry, hEnd⟩ := hEnds _ hCall
      rw [hEntry] at hError
      have hSome : entry.toolError.isSome = true := hError
      unfold Round.failed
      rw [hEnd.found]
      show message.error.isSome = true
      by_cases hRunnable : Runnable runtime call.1
      · rwa [← hEnd.error hRunnable]
      · exact (hEnd.refused hRunnable).2
  · intro hClean
    obtain ⟨posts, hPerm, hMatch⟩ :=
      round_matching prim client cfg runtime messages env s h hClean.keys
    refine ⟨posts, hPerm, forall₂_imp_mem hMatch fun call hCall post hEntry => ?_⟩
    obtain ⟨entry, message, hFound, hEnd⟩ :=
      round_ends prim client cfg runtime messages env extra s hClean.keys call hCall
    obtain rfl := Option.some.inj (hFound.symm.trans hEntry)
    have hRunnable : Runnable runtime call.1 :=
      hClean.runnable _ (List.mem_of_getElem? (List.mem_zipIdx_iff_getElem?.1 hCall))
    refine ⟨hEnd.phase, hEnd.paired, hEnd.args, message, hEnd.found, ?_⟩
    have hError : post.payload.toolError = message.error := hEnd.error hRunnable
    rw [hError]

/-- A round leaves nothing to be recorded. -/
theorem settled_round (messages : List Message) (env : Env) {extra : ExtraArgs Env} (s : σ)
    (h : Settled extra.shield) :
    Settled (auditRound prim client cfg runtime messages env extra s).2.2.1.shield := by
  have hKeys := (left_keys prim client cfg runtime messages env s h).1
  unfold leftDecisions at hKeys
  show Settled (ShieldRecorder.query prim (recording client) cfg (auditRound prim client cfg
    runtime messages env extra s).1.executed.extra _).1.shield
  unfold ShieldRecorder.query
  cases hShield : (auditRound prim client cfg runtime messages env extra
      s).1.executed.extra.shield with
  | none =>
      simp only [hShield]
      exact ⟨List.nodup_nil, fun _ _ hDec => (nomatch hDec)⟩
  | some st =>
      rw [hShield] at hKeys
      exact recorder_recorded prim (recording client) cfg st.decisions st _ hKeys
        fun key dec hDec => .inr (Dict.mem_of_get? hDec)

theorem audited_of_settled (rounds : List (List Message)) (env : Env) (extra : ExtraArgs Env)
    (s : σ) (h : Settled extra.shield) :
    (∀ r ∈ (auditedRun prim client cfg runtime rounds env extra s).1, r.Audited) ↔
      ∀ messages ∈ rounds, Clean runtime messages := by
  induction rounds generalizing env extra s with
  | nil => exact ⟨fun _ _ h => (nomatch h), fun _ _ h => (nomatch h)⟩
  | cons messages rounds ih =>
      simp only [auditedRun, List.forall_mem_cons]
      rw [round_audited_iff prim client cfg runtime messages env s h]
      exact and_congr_right fun _ =>
        ih _ _ _ (settled_round prim client cfg runtime messages env s h)

/-- Keeping the records does not change a run. -/
theorem auditedRun_end (rounds : List (List Message)) (env : Env) (extra : ExtraArgs Env) (s : σ) :
    (auditedRun prim client cfg runtime rounds env extra s).2 =
      pipelineRun prim client cfg runtime rounds env extra s := by
  have hRecorder : ∀ (guarded : ExtraArgs Env) (t : σ),
      ((ShieldRecorder.query prim (recording client) cfg guarded (t, [])).1,
        (ShieldRecorder.query prim (recording client) cfg guarded (t, [])).2.1) =
          ShieldRecorder.query prim client cfg guarded t := by
    intro guarded t
    unfold ShieldRecorder.query
    cases guarded.shield with
    | none => rfl
    | some st =>
        obtain ⟨hState, hClient⟩ := recording_loop prim client cfg st.decisions st t []
        simp only [hState, hClient]
  induction rounds generalizing env extra s with
  | nil => rfl
  | cons messages rounds ih =>
      simp only [auditedRun, pipelineRun, auditRound]
      rw [ih, ← hRecorder]

/-- **The audit trail, with its exact condition.**  In every run, whatever the verdicts, the
records of every round match its calls one to one if and only if the calls of every message
have keys of their own and names that can be run. -/
theorem audit_trail_iff (rounds : List (List Message)) (env : Env) (shieldRunId : Option String)
    (s : σ) :
    (∀ r ∈ (auditedRun prim client cfg runtime rounds env { shieldRunId := shieldRunId } s).1,
        r.Audited) ↔
      ∀ messages ∈ rounds, Clean runtime messages :=
  audited_of_settled prim client cfg runtime rounds env _ s
    ⟨List.nodup_nil, fun _ _ hDec => (nomatch hDec)⟩

end Trail

/-! ## A misspelled tool -/

namespace Sample

def misspelled : List Message := [.assistant [⟨some "1", "get_blance", []⟩]]

end Sample

/-- **The error is lost.**  The message of a call with an unknown name carries an error, and
its record does not. -/
theorem unknown_tool_error_lost :
    ¬ ∀ r ∈ (auditedRun Sample.prim Sample.blockingClient Sample.config Sample.runtime
      [Sample.misspelled] () {} ()).1, r.Audited := by
  intro h
  have hErrors := (h _ List.mem_cons_self).errors
  exact absurd hErrors (by decide)

end AgentShield.Sdk
