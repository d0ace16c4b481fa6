import Mathlib.Data.List.Chain
import AgentShield.Sdk.Elements
import AgentShield.Server.ChainInvariant

/-!
# The two chain heads of an agent

The SDK keeps a chain head of its own: it starts at the genesis hash with every
pipeline run and moves on with every record that is built, whatever becomes of
the request.  The server's head moves on with every record that is accepted.  Here
the pipelines of an agent run against the ingest service.  In a pipeline run that
starts before the agent has any accepted operation, and in which the server
accepts each record, and nothing else of the agent, before the next one is built,
every record names the server's head (`builds_inStep`).
-/

namespace AgentShield.System

open AgentShield.Lib AgentShield.Lib.Async AgentShield.Sdk AgentShield.Server

/-! ## An agent and its server -/

/-- What the environment adds to one request: what the server does before the
record is built and until the client goes on, the governance app's answer, and
whether the client misses the answer. -/
structure Exchange (settings : Settings) where
  runId : String
  draw : Draw
  before : List (Event (ingestService settings))
  govApp : GovernanceApp
  latencyMs : PyFloat
  during : List (Event (ingestService settings))
  lost : Option RequestFailure

/-- A record that was built, and the server at that moment. -/
structure Build where
  record : ShieldActionRecord
  server : World

structure Network (settings : Settings) where
  pool : Pool (ingestService settings)
  requests : Nat := 0
  log : List Build := []

section Network

variable {settings : Settings}

/-- The server takes a request of the client. -/
def Network.request (n : Network settings) (rec : ShieldActionRecord) (req : IngestRequest)
    (during : List (Event (ingestService settings))) : Network settings where
  pool := (n.pool.step (.request req)).run during
  requests := n.requests + 1
  log := n.log ++ [⟨rec, n.pool.state⟩]

/-- What a handler that was started as the `i`th has answered. -/
def Network.answer (n : Network settings) (i : Nat) : Except RequestFailure IngestResponse :=
  match n.pool.threads[i]? with
  | some (_, .done (.ok response)) => .ok response
  | some (_, .done (.error _)) => .error ⟨"HTTPStatusError"⟩
  | _ => .error ⟨"TimeoutError"⟩

/-- The client of an agent whose server is the ingest service.  The exchange of a request says
what else the server does meanwhile, and whether the answer is lost on its way. -/
def networkClient (fates : Nat → Exchange settings) : Client (Network settings) where
  newRunId n := ((fates n.requests).runId, n)
  draw n :=
    let x := fates n.requests
    (x.draw, { n with pool := n.pool.run x.before })
  decide rec n :=
    let x := fates n.requests
    let asked := n.request rec (.decide rec x.govApp x.latencyMs) x.during
    match x.lost, asked.answer n.pool.threads.length with
    | none, .ok (.verdict v) => (.ok v, asked)
    | none, .ok _ => (.error ⟨"ValidationError"⟩, asked)
    | none, .error exc => (.error exc, asked)
    | some exc, _ => (.error exc, asked)
  submit rec n :=
    let x := fates n.requests
    let asked := n.request rec (.record rec) x.during
    match x.lost, asked.answer n.pool.threads.length with
    | none, .ok _ => (.ok (), asked)
    | none, .error exc => (.error exc, asked)
    | some exc, _ => (.error exc, asked)

/-- The start of a pipeline run and the messages of its rounds. -/
structure PipelineInput (Env : Type) where
  env : Env
  shieldRunId : Option String
  rounds : List (List Message)

/-- The pipeline runs of an agent, one after the other, each with the records
that it builds. -/
def agentRun {Env : Type} (cfg : ShieldElementConfig) (runtime : Runtime Env)
    (fates : Nat → Exchange settings) :
    List (PipelineInput Env) → Network settings → List (List Build)
  | [], _ => []
  | input :: inputs, n =>
      let (_, _, n') := pipelineRun settings.prim (networkClient fates) cfg runtime input.rounds
        input.env { shieldRunId := input.shieldRunId } { n with log := [] }
      n'.log :: agentRun cfg runtime fates inputs n'

/-- The chain head of an agent on the server. -/
def serverHead (w : World) (agentId : String) : String :=
  expectedPrev (w.db.latestOperation agentId)

/-- The record names the server's head at the moment it was built. -/
def InStep (agentId : String) (b : Build) : Prop :=
  b.record.prevChainHash = serverHead b.server agentId

/-- Between two builds the server accepts the first record and nothing else of
the agent. -/
def NextAccepted (settings : Settings) (agentId : String) (b b' : Build) : Prop :=
  ∃ row ∈ b'.server.db.chainOf agentId,
    row = governedRow settings b.record row.createdAt row.seqNo ∧
    b'.server.db.chainOf agentId = b.server.db.chainOf agentId ++ [row]

/-- The condition on a pipeline run. -/
structure Undisturbed (settings : Settings) (agentId : String) (builds : List Build) : Prop where
  first : ∀ b ∈ builds.head?, b.server.db.chainOf agentId = []
  next : builds.IsChain (NextAccepted settings agentId)

instance (agentId : String) (b : Build) : Decidable (InStep agentId b) := by
  unfold InStep
  infer_instance

instance (agentId : String) : DecidableRel (NextAccepted settings agentId) := fun b b' => by
  unfold NextAccepted
  infer_instance

instance (agentId : String) (builds : List Build) :
    Decidable (Undisturbed settings agentId builds) :=
  decidable_of_iff
    ((∀ b ∈ builds.head?, b.server.db.chainOf agentId = []) ∧
      builds.IsChain (NextAccepted settings agentId))
    ⟨fun h => ⟨h.1, h.2⟩, fun h => ⟨h.first, h.next⟩⟩

end Network

/-! ## The local chain -/

/-- The records of a pipeline run are numbered from zero and linked. -/
def LocalChain (prim : Primitives) (builds : List Build) : Prop :=
  HashChain.Linked (fun b : Build => (b.record.stepIndex : Int) + 1)
    (fun b => b.record.prevChainHash)
    (fun b => deriveChainHash prim b.record.prevChainHash b.record) genesisChainHash builds

/-- The local state is at the end of the records built so far: its head is the chain hash of
the last one and its step their number. -/
structure Tracks {Env : Type} (prim : Primitives) (st : ShieldState Env) (builds : List Build) :
    Prop where
  linked : LocalChain prim builds
  head : st.chainHead =
    HashChain.headFrom (fun b : Build => deriveChainHash prim b.record.prevChainHash b.record)
      genesisChainHash builds
  step : st.step = builds.length

section Local

variable {Env : Type} {prim : Primitives} {st st' : ShieldState Env} {builds : List Build}

/-- A record that is built from the local state continues the local chain. -/
theorem Tracks.build (h : Tracks prim st builds) (b : Build)
    (hPrev : b.record.prevChainHash = st.chainHead) (hIndex : b.record.stepIndex = st.step)
    (hHead : st'.chainHead = deriveChainHash prim st.chainHead b.record)
    (hStep : st'.step = st.step + 1) : Tracks prim st' (builds ++ [b]) where
  linked := by
    refine (HashChain.linkedFrom_concat b).2 ⟨h.linked, ?_, hPrev.trans h.head⟩
    have hLength := h.step
    omega
  head := by
    rw [HashChain.headFrom_concat, hHead, hPrev]
  step := by
    rw [hStep, h.step, List.length_append]
    rfl

theorem Tracks.congr (h : Tracks prim st builds) (hHead : st'.chainHead = st.chainHead)
    (hStep : st'.step = st.step) : Tracks prim st' builds :=
  ⟨h.linked, hHead.trans h.head, hStep.trans h.step⟩

end Local

/-- The part of the extra arguments that belongs to the local chain. -/
def ExtraTracks {Env : Type} (prim : Primitives) (extra : ExtraArgs Env) (builds : List Build) :
    Prop :=
  match extra.shield with
  | none => builds = []
  | some st => Tracks prim st builds

/-! ### The executor leaves the local chain alone -/

section Executor

variable {Env : Type} (cfg : ShieldElementConfig) (runtime : Runtime Env)

/-- The head and the step counter that the executor sees. -/
def localHead (shield : Option (ShieldState Env)) : Option (String × Nat) :=
  shield.map fun st => (st.chainHead, st.step)

theorem localHead_setDecision (x : ExecutorState Env) (key : String)
    (dec : Option (ShieldDecision Env)) :
    localHead (x.setDecision key dec).shield = localHead x.shield := by
  cases dec with
  | none => rfl
  | some dec => cases hShield : x.shield <;> simp [ExecutorState.setDecision, localHead, hShield]

theorem localHead_rollBack (x : ExecutorState Env) (dec : ShieldDecision Env) :
    localHead (x.rollBack runtime dec).shield = localHead x.shield := by
  cases hShield : x.shield <;>
    simp [ExecutorState.rollBack, ExecutorState.addRollbackSignal, localHead, hShield]

theorem localHead_noteEscalation (x : ExecutorState Env) (tc : ToolCall)
    (dec : ShieldDecision Env) :
    localHead (x.noteEscalation cfg tc dec).shield = localHead x.shield := by
  unfold ExecutorState.noteEscalation
  split
  · cases hShield : x.shield <;> simp [ExecutorState.addHitlSignal, localHead, hShield]
  · rfl

theorem localHead_run (x : ExecutorState Env) (index : Nat) (tc : ToolCall)
    (dec : Option (ShieldDecision Env)) :
    localHead (x.run runtime index tc dec).shield = localHead x.shield :=
  localHead_setDecision x _ _

theorem localHead_skip (x : ExecutorState Env) (index : Nat) (tc : ToolCall)
    (dec : ShieldDecision Env) :
    localHead (x.skip runtime index tc dec).shield = localHead x.shield := by
  by_cases hRollback : dec.verdict.decision = .rollback
  · simp only [ExecutorState.skip, hRollback, if_true, ExecutorState.refuse]
    exact (localHead_setDecision _ _ _).trans (localHead_rollBack runtime x dec)
  · simp only [ExecutorState.skip, hRollback, if_false, ExecutorState.refuse]
    exact localHead_setDecision _ _ _

theorem localHead_execute (index : Nat) (tc : ToolCall) (x : ExecutorState Env) :
    localHead (ShieldedToolsExecutor.execute cfg runtime index tc x).shield =
      localHead x.shield := by
  unfold ShieldedToolsExecutor.execute
  split
  · rfl
  split
  · rfl
  cases hDec : x.decisionFor (toolCallKey tc index) with
  | none => exact localHead_run runtime x index tc none
  | some dec =>
      have hNoted := localHead_noteEscalation cfg x tc dec
      simp only
      split
      · exact (localHead_run runtime _ index tc _).trans hNoted
      · exact (localHead_skip runtime _ index tc dec).trans hNoted

theorem localHead_loop (index : Nat) (tcs : List ToolCall) (x : ExecutorState Env) :
    localHead (ShieldedToolsExecutor.loop cfg runtime index tcs x).shield =
      localHead x.shield := by
  induction tcs generalizing index x with
  | nil => rfl
  | cons tc tcs ih => exact (ih _ _).trans (localHead_execute cfg runtime index tc x)

theorem localHead_query (env : Env) (messages : List Message) (extra : ExtraArgs Env) :
    localHead (ShieldedToolsExecutor.query cfg runtime env messages extra).extra.shield =
      localHead extra.shield := by
  unfold ShieldedToolsExecutor.query
  split
  · rfl
  · exact localHead_loop cfg runtime 0 _ _

/-- The local chain goes through the executor. -/
theorem ExtraTracks.congr {prim : Primitives} {extra extra' : ExtraArgs Env}
    {builds : List Build} (h : ExtraTracks prim extra builds)
    (hSame : localHead extra'.shield = localHead extra.shield) :
    ExtraTracks prim extra' builds := by
  unfold ExtraTracks at *
  cases hShield : extra.shield with
  | none =>
      cases hShield' : extra'.shield with
      | none => simpa [hShield] using h
      | some st' => simp [localHead, hShield, hShield'] at hSame
  | some st =>
      cases hShield' : extra'.shield with
      | none => simp [localHead, hShield, hShield'] at hSame
      | some st' =>
          simp only [localHead, hShield, hShield', Option.map_some, Option.some.injEq,
            Prod.mk.injEq] at hSame
          simp only [hShield] at h
          exact h.congr hSame.1 hSame.2

end Executor

/-! ## Pipeline runs against the server -/

section Pipeline

variable {settings : Settings} {now : Int} {agents : List Agent} {agentKeys : List AgentKey}

/-- The server is in a reachable state, and was when the records were built. -/
structure Reached (now : Int) (agents : List Agent) (agentKeys : List AgentKey)
    (n : Network settings) : Prop where
  pool : ∃ events, n.pool = served settings now agents agentKeys events
  log : ∀ b ∈ n.log, ∃ events, b.server = (served settings now agents agentKeys events).state

theorem Reached.run {n : Network settings} (h : Reached now agents agentKeys n)
    (events : List (Event (ingestService settings))) :
    Reached now agents agentKeys { n with pool := n.pool.run events } := by
  obtain ⟨past, hPool⟩ := h.pool
  refine ⟨⟨past ++ events, ?_⟩, h.log⟩
  rw [served_append, ← hPool]

theorem Reached.request {n : Network settings} (h : Reached now agents agentKeys n)
    (rec : ShieldActionRecord) (req : IngestRequest)
    (during : List (Event (ingestService settings))) :
    Reached now agents agentKeys (n.request rec req during) := by
  obtain ⟨past, hPool⟩ := h.pool
  constructor
  · refine ⟨past ++ .request req :: during, ?_⟩
    rw [served_append, ← hPool]
    rfl
  · intro b hb
    rcases List.mem_append.1 hb with hOld | hNew
    · exact h.log b hOld
    · obtain rfl := List.mem_singleton.1 hNew
      exact ⟨past, by rw [← hPool]⟩

/-- The local state and the network fit together. -/
structure Joined {Env : Type} (now : Int) (agents : List Agent) (agentKeys : List AgentKey)
    (st : ShieldState Env) (n : Network settings) : Prop where
  tracks : Tracks settings.prim st n.log
  reached : Reached now agents agentKeys n

theorem decide_snd (fates : Nat → Exchange settings) (rec : ShieldActionRecord)
    (n : Network settings) :
    ((networkClient fates).decide rec n).2 = n.request rec
      (.decide rec (fates n.requests).govApp (fates n.requests).latencyMs)
      (fates n.requests).during := by
  unfold networkClient
  simp only
  split <;> rfl

theorem submit_snd (fates : Nat → Exchange settings) (rec : ShieldActionRecord)
    (n : Network settings) :
    ((networkClient fates).submit rec n).2 =
      n.request rec (.record rec) (fates n.requests).during := by
  unfold networkClient
  simp only
  split <;> rfl

section Steps

variable {Env : Type} (cfg : ShieldElementConfig) (runtime : Runtime Env)
  (fates : Nat → Exchange settings) {st : ShieldState Env} {n : Network settings}

/-- A request for a record that was built from the local state. -/
theorem Joined.request {st' : ShieldState Env} (h : Joined now agents agentKeys st n)
    {rec : ShieldActionRecord} (req : IngestRequest)
    (during : List (Event (ingestService settings)))
    (hPrev : rec.prevChainHash = st.chainHead) (hIndex : rec.stepIndex = st.step)
    (hHead : st'.chainHead = deriveChainHash settings.prim st.chainHead rec)
    (hStep : st'.step = st.step + 1) :
    Joined now agents agentKeys st' (n.request rec req during) :=
  ⟨h.tracks.build ⟨rec, n.pool.state⟩ hPrev hIndex hHead hStep, h.reached.request rec req during⟩

/-- **One round of the guard.** -/
theorem joined_decide (h : Joined now agents agentKeys st n) (env : Env) (index : Nat)
    (tc : ToolCall) :
    Joined now agents agentKeys
      (st.decided settings.prim index tc (ShieldGuard.decide settings.prim (networkClient fates)
        cfg runtime env tc st n).1)
      (ShieldGuard.decide settings.prim (networkClient fates) cfg runtime env tc st n).2 := by
  have hDrawn : Joined now agents agentKeys st ((networkClient fates).draw n).2 :=
    ⟨h.tracks, h.reached.run _⟩
  simp only [ShieldGuard.decide]
  rw [decide_snd]
  exact hDrawn.request _ _ rfl rfl rfl rfl

theorem joined_guardLoop (h : Joined now agents agentKeys st n) (env : Env) (index : Nat)
    (tcs : List ToolCall) :
    Joined now agents agentKeys
      (ShieldGuard.loop settings.prim (networkClient fates) cfg runtime env index tcs st n).1
      (ShieldGuard.loop settings.prim (networkClient fates) cfg runtime env index tcs st n).2 := by
  induction tcs generalizing index st n with
  | nil => exact h
  | cons tc tcs ih => exact ih (joined_decide cfg runtime fates h env index tc) (index + 1)

/-- **One round of the recorder.** -/
theorem joined_submit (h : Joined now agents agentKeys st n) (key : String)
    (dec : ShieldDecision Env) :
    Joined now agents agentKeys
      (ShieldRecorder.submitDecision settings.prim (networkClient fates) cfg key dec st n).1
      (ShieldRecorder.submitDecision settings.prim (networkClient fates) cfg key dec st n).2 := by
  have hDrawn : Joined now agents agentKeys st ((networkClient fates).draw n).2 :=
    ⟨h.tracks, h.reached.run _⟩
  unfold ShieldRecorder.submitDecision
  split
  · exact h
  · simp only [submit_snd]
    exact hDrawn.request _ _ rfl rfl rfl rfl

theorem joined_recorderLoop (h : Joined now agents agentKeys st n)
    (decisions : List (String × ShieldDecision Env)) :
    Joined now agents agentKeys
      (ShieldRecorder.loop settings.prim (networkClient fates) cfg decisions st n).1
      (ShieldRecorder.loop settings.prim (networkClient fates) cfg decisions st n).2 := by
  induction decisions generalizing st n with
  | nil => exact h
  | cons entry rest ih => exact ih (joined_submit cfg fates h entry.1 entry.2)

end Steps

/-- The extra arguments and the network fit together. -/
structure ExtraJoined {Env : Type} (now : Int) (agents : List Agent) (agentKeys : List AgentKey)
    (extra : ExtraArgs Env) (n : Network settings) : Prop where
  tracks : ExtraTracks settings.prim extra n.log
  reached : Reached now agents agentKeys n

section Queries

variable {Env : Type} (cfg : ShieldElementConfig) (runtime : Runtime Env)
  (fates : Nat → Exchange settings) {extra : ExtraArgs Env} {n : Network settings}

theorem ExtraJoined.stateOf (h : ExtraJoined now agents agentKeys extra n) :
    Joined now agents agentKeys (stateOf (networkClient fates) cfg extra n).1
      (stateOf (networkClient fates) cfg extra n).2 := by
  have hTracks := h.tracks
  unfold ExtraTracks at hTracks
  unfold Sdk.stateOf
  cases hShield : extra.shield with
  | some st =>
      simp only [hShield] at hTracks
      exact ⟨hTracks, h.reached⟩
  | none =>
      simp only [hShield] at hTracks
      -- A fresh state is at the start of the local chain, and nothing was built.
      have hFresh : ∀ runId, Tracks settings.prim ({ runId := runId } : ShieldState Env) n.log := by
        intro runId
        rw [hTracks]
        exact ⟨trivial, rfl, rfl⟩
      simp only
      split
      · exact ⟨hFresh _, h.reached⟩
      · exact ⟨hFresh _, h.reached⟩
      · exact ⟨hFresh _, h.reached⟩

theorem extraJoined_guard (h : ExtraJoined now agents agentKeys extra n) (env : Env)
    (messages : List Message) :
    ExtraJoined now agents agentKeys
      (ShieldGuard.query settings.prim (networkClient fates) cfg runtime env messages extra n).1
      (ShieldGuard.query settings.prim (networkClient fates) cfg runtime env messages extra n).2
    := by
  unfold ShieldGuard.query
  split
  · exact h
  · have hLoop := joined_guardLoop cfg runtime fates (h.stateOf cfg fates) env 0
      (pendingToolCalls messages)
    exact ⟨hLoop.tracks, hLoop.reached⟩

theorem extraJoined_recorder (h : ExtraJoined now agents agentKeys extra n) :
    ExtraJoined now agents agentKeys
      (ShieldRecorder.query settings.prim (networkClient fates) cfg extra n).1
      (ShieldRecorder.query settings.prim (networkClient fates) cfg extra n).2 := by
  have hTracks := h.tracks
  unfold ExtraTracks at hTracks
  unfold ShieldRecorder.query
  cases hShield : extra.shield with
  | none => exact h
  | some st =>
      simp only [hShield] at hTracks
      have hLoop := joined_recorderLoop cfg fates (Joined.mk hTracks h.reached) st.decisions
      exact ⟨hLoop.tracks, hLoop.reached⟩

/-- **A whole pipeline run.** -/
theorem extraJoined_pipelineRun (h : ExtraJoined now agents agentKeys extra n) (env : Env)
    (rounds : List (List Message)) :
    ExtraJoined now agents agentKeys
      (pipelineRun settings.prim (networkClient fates) cfg runtime rounds env extra n).2.1
      (pipelineRun settings.prim (networkClient fates) cfg runtime rounds env extra n).2.2 := by
  induction rounds generalizing env extra n with
  | nil => exact h
  | cons messages rounds ih =>
      simp only [pipelineRun]
      have hGuard := extraJoined_guard cfg runtime fates h env messages
      refine ih (extraJoined_recorder cfg fates ?_) _
      exact ⟨hGuard.tracks.congr (localHead_query cfg runtime env messages _), hGuard.reached⟩

end Queries

end Pipeline

/-! ## The heads agree -/

section Heads

variable {settings : Settings} {agentId : String}

theorem serverHead_nil {w : World} (h : w.db.chainOf agentId = []) :
    serverHead w agentId = genesisChainHash := by
  unfold serverHead Database.latestOperation
  rw [h]
  rfl

/-- The server's head is the head of the agent's chain. -/
theorem serverHead_eq {w : World} (h : ChainLinked w.db agentId) :
    serverHead w agentId =
      HashChain.headFrom OperationRow.chainHash genesisChainHash (w.db.chainOf agentId) := by
  rw [← h.latest_head]
  unfold serverHead expectedPrev Database.latestOperation
  cases HashChain.latest OperationRow.seqNo (w.db.chainOf agentId) <;> rfl

/-- Once a record is accepted, its chain hash is the server's head. -/
theorem NextAccepted.serverHead {b b' : Build} (h : NextAccepted settings agentId b b')
    (hChain : ChainLinked b'.server.db agentId) :
    serverHead b'.server agentId =
      deriveChainHash settings.prim b.record.prevChainHash b.record := by
  obtain ⟨row, -, hRow, hAppend⟩ := h
  rw [serverHead_eq hChain, hAppend, HashChain.headFrom_concat, hRow]
  rfl

/-- **One build after the other.**  A linked local chain whose first record names
the server's head, and whose records are accepted in turn, stays in step. -/
theorem inStep_of_linked {builds : List Build} {n : Int} {head : String}
    (hLinked : HashChain.LinkedFrom (fun b : Build => (b.record.stepIndex : Int) + 1)
      (fun b => b.record.prevChainHash)
      (fun b => deriveChainHash settings.prim b.record.prevChainHash b.record) n head builds)
    (hFirst : ∀ b ∈ builds.head?, serverHead b.server agentId = head)
    (hNext : builds.IsChain (NextAccepted settings agentId))
    (hChains : ∀ b ∈ builds, ChainLinked b.server.db agentId) :
    ∀ b ∈ builds, InStep agentId b := by
  induction builds generalizing n head with
  | nil => simp
  | cons b builds ih =>
      obtain ⟨-, hPrev, hRest⟩ := hLinked
      have hHead : serverHead b.server agentId = head := hFirst b rfl
      intro b' hb'
      rcases List.mem_cons.1 hb' with rfl | hLater
      · exact hPrev.trans hHead.symm
      · refine ih hRest ?_ hNext.tail (fun c hc => hChains c (List.mem_cons_of_mem _ hc)) b' hLater
        intro c hc
        cases builds with
        | nil => cases hc
        | cons c' builds =>
            obtain rfl : c' = c := Option.some.inj hc
            have hAccepted := (List.isChain_cons_cons.1 hNext).1
            exact hAccepted.serverHead (hChains c' (by simp))

end Heads

/-- The network before the first pipeline run: a server that is anywhere in a run
of its own. -/
def Network.initial (settings : Settings) (now : Int) (agents : List Agent)
    (agentKeys : List AgentKey) (past : List (Event (ingestService settings))) :
    Network settings where
  pool := served settings now agents agentKeys past

/-- Every pipeline run of the agent is linked in itself and was served by a
reachable server. -/
theorem agentRun_spec {settings : Settings} {now : Int} {agents : List Agent}
    {agentKeys : List AgentKey} {Env : Type} (cfg : ShieldElementConfig) (runtime : Runtime Env)
    (fates : Nat → Exchange settings) (inputs : List (PipelineInput Env)) {n : Network settings}
    (h : Reached now agents agentKeys { n with log := [] }) :
    ∀ builds ∈ agentRun cfg runtime fates inputs n, LocalChain settings.prim builds ∧
      ∀ b ∈ builds, Chained settings.prim b.server.db := by
  induction inputs generalizing n with
  | nil => simp [agentRun]
  | cons input inputs ih =>
      have hStart : ExtraJoined now agents agentKeys
          ({ shieldRunId := input.shieldRunId } : ExtraArgs Env) { n with log := [] } := ⟨rfl, h⟩
      have hEnd := extraJoined_pipelineRun cfg runtime fates hStart input.env input.rounds
      intro builds hBuilds
      simp only [agentRun, List.mem_cons] at hBuilds
      rcases hBuilds with rfl | hLater
      · constructor
        · have hTracks := hEnd.tracks
          unfold ExtraTracks at hTracks
          split at hTracks
          · rw [hTracks]
            trivial
          · exact hTracks.linked
        · intro b hb
          obtain ⟨events, hServer⟩ := hEnd.reached.log b hb
          rw [hServer]
          exact served_chained settings now agents agentKeys events
      · refine ih ⟨hEnd.reached.pool, ?_⟩ builds hLater
        simp

/-- Every record of a pipeline run names the server's head. -/
def AllInStep (agentId : String) (builds : List Build) : Prop := ∀ b ∈ builds, InStep agentId b

/-- **The two heads agree in undisturbed pipeline runs**, for any server history, any pipeline
runs of the agent and any fates of their requests: as long as the agent begins with an empty
chain and the server accepts each build before the next one, the SDK builds on the head that
the server has. -/
theorem builds_inStep {Env : Type} (settings : Settings) (now : Int) (agents : List Agent)
    (agentKeys : List AgentKey) (past : List (Event (ingestService settings)))
    (cfg : ShieldElementConfig) (runtime : Runtime Env) (fates : Nat → Exchange settings)
    (inputs : List (PipelineInput Env)) (builds : List Build)
    (hBuilds : builds ∈
      agentRun cfg runtime fates inputs (Network.initial settings now agents agentKeys past))
    (hUndisturbed : Undisturbed settings cfg.agentId builds) :
    AllInStep cfg.agentId builds := by
  have hReached : Reached now agents agentKeys
      { Network.initial settings now agents agentKeys past with log := [] } :=
    ⟨⟨past, rfl⟩, by simp⟩
  obtain ⟨hLinked, hChained⟩ := agentRun_spec cfg runtime fates inputs hReached builds hBuilds
  refine inStep_of_linked hLinked ?_ hUndisturbed.next fun b hb => (hChained b hb).linked _
  intro b hb
  exact serverHead_nil (hUndisturbed.first b hb)

/-! ## A request that is lost -/

namespace Sample

def config : ShieldElementConfig where
  agentPrivateKey := "seed"
  agentPubkeyKid := "k"
  orgId := "o"
  agentId := "a"

def runtime : Runtime Unit where
  functions := ["get_balance"]
  runFunction env _ _ := ((.null, none), env)
  modelCopy := some
  outputFormatter _ := ""
  emptyFunctionName := "<empty-function-name>"
  stringList _ := none

/-- One pipeline run with one tool call. -/
def input : PipelineInput Unit where
  env := ()
  shieldRunId := some "run"
  rounds := [[.assistant [⟨some "1", "get_balance", []⟩]]]

/-- Every request is handled to its end, and its ids tell its number, so that no two records
share an id or a nonce. -/
def answered (i : Nat) : Exchange Server.Sample.settings where
  runId := "run"
  draw :=
    { recordId := "r" ++ toString i
      correlationId := "c"
      nonce := "n" ++ toString i
      issuedAt := 1000
      verdictId := "v" }
  before := []
  govApp rec :=
    .ok { verdictId := "v", correlationId := rec.correlationId, decision := .pass }
  latencyMs := .finite 1
  during := List.replicate 20 (.resume i .none)
  lost := none

/-- The requests get lost before the server handles them. -/
def unanswered (i : Nat) : Exchange Server.Sample.settings :=
  { answered i with during := [.resume i .before] }

def start : Network Server.Sample.settings :=
  Network.initial Server.Sample.settings 1000 Server.Sample.agents Server.Sample.agentKeys []

/-- The records that the pipeline run builds. -/
def builds (fates : Nat → Exchange Server.Sample.settings) : List Build :=
  (pipelineRun Server.Sample.settings.prim (networkClient fates) config runtime input.rounds
    input.env { shieldRunId := input.shieldRunId } start).2.2.log

theorem builds_mem (fates : Nat → Exchange Server.Sample.settings) :
    builds fates ∈ agentRun config runtime fates [input] start := List.mem_cons_self

end Sample

set_option maxRecDepth 100000 in
theorem builds_inStep_sample : AllInStep Sample.config.agentId (Sample.builds Sample.answered) :=
  builds_inStep Server.Sample.settings 1000 Server.Sample.agents Server.Sample.agentKeys []
    Sample.config Sample.runtime Sample.answered [Sample.input] (Sample.builds Sample.answered)
    (Sample.builds_mem Sample.answered) (by decide +kernel)

/-- **A lost request sets the heads apart.**  The request for the verdict never
reaches the ingest, but the record of the tool's result already names it. -/
theorem lost_request_out_of_step :
    ¬ ∀ (Env : Type) (settings : Settings) (now : Int) (agents : List Agent)
      (agentKeys : List AgentKey) (past : List (Event (ingestService settings)))
      (cfg : ShieldElementConfig) (runtime : Runtime Env) (fates : Nat → Exchange settings)
      (inputs : List (PipelineInput Env)),
      ∀ builds ∈
        agentRun cfg runtime fates inputs (Network.initial settings now agents agentKeys past),
        AllInStep cfg.agentId builds := by
  intro h
  have hInStep := h Unit Server.Sample.settings 1000 Server.Sample.agents Server.Sample.agentKeys
    [] Sample.config Sample.runtime Sample.unanswered [Sample.input]
    (Sample.builds Sample.unanswered) (Sample.builds_mem Sample.unanswered)
  have hOut : ¬ ∀ b ∈ Sample.builds Sample.unanswered, InStep Sample.config.agentId b := by
    decide +kernel
  exact hOut hInStep

end AgentShield.System
