import AgentShield.Server.EpochStore
import AgentShield.Server.Exports

/-!
# Runs of the server with its console

Every event of a run grows the archive, whatever the handlers do to each other and whichever
of their steps fail (`consoleRun_grows`).  What the epochs, the exports and the registry keep
follows for every run.
-/

namespace AgentShield.Server

open AgentShield.Lib AgentShield.Lib.Async AgentShield.Sdk

/-- The epochs that a response shows. -/
def ConsoleResponse.shown : ConsoleResponse → List Epoch
  | .archived (.ticked res) => res.epoch.toList
  | .archived (.epoch res) => [res.epoch]
  | .epochs es => es
  | .ticked results => results.filterMap (·.epoch)
  | _ => []

section Handlers

variable {settings : ArchiveSettings} {s₀ : Archive}

/-- An answer that is made of a result. -/
theorem since_return {α : Type} {P : α → Archive → Prop} {Q : ConsoleResponse → Archive → Prop}
    {prog : ArchiveHandler α} {respond : α → ConsoleResponse}
    (h : GrowsSince settings P prog s₀)
    (hQ : ∀ a s s', P a s → s.Grows settings.sha256 s' → Q (respond a) s') :
    GrowsSince settings Q (prog >>= fun a => pure (respond a)) s₀ :=
  Since.bind h fun a s hP => Since.pure fun s' hs' => hQ a s s' hP hs'

/-- A handler of the world whose steps grow the tables. -/
theorem onWorld_since {α : Type} {prog : Handler α}
    (h : Steps (fun _ => True) (fun w w' => w.db.Grows w'.db) (fun _ => True) prog) :
    GrowsSince settings (fun _ _ => True) (onWorld prog) s₀ := by
  refine Steps.since (h.onPart.guarantee ?_)
  rintro s s' ⟨w, hGrows, rfl⟩
  exact grows_of_db hGrows rfl rfl

theorem server_since (req : PlatformRequest) :
    GrowsSince settings (fun _ _ => True) (onWorld (platform settings.toSettings req)) s₀ := by
  have hServer : Requested settings.toSettings req (platform settings.toSettings req) :=
    platform_requestSteps req
  exact onWorld_since ((hServer.weaken fun _ _ => trivial).guarantee fun _ _ h => h.grows)

/-- The epochs that a response shows commit to the operations. -/
def Shown (settings : ArchiveSettings) (res : ConsoleResponse) (s : Archive) : Prop :=
  ∀ e ∈ res.shown, CommitsTo settings.sha256 s.world.db.operations e

/-- A handler that starts with epochs that commit shows such epochs. -/
def Faithful (settings : ArchiveSettings) (s₀ : Archive) (res : ConsoleResponse) (s : Archive) :
    Prop :=
  s₀.Committed settings.sha256 → Shown settings res s

theorem Ticked.commits {orgId : String} {ops : List OperationRow} {s : Archive}
    {res : EpochSchedulerResult} (h : Ticked settings orgId ops s res)
    (hs : s.Committed settings.sha256) {e : Epoch} (he : res.epoch = some e) :
    e ∈ s.epochs ∧ e.orgId = orgId ∧ CommitsTo settings.sha256 s.world.db.operations e := by
  cases h with
  | skipped hNone => cases he
  | created e' eer hEpoch hRow =>
      cases he
      exact ⟨hRow, (commits_of_rows hEpoch).1, hs e hRow⟩
  | found e' row eer hEpoch hRow hOrg hId =>
      cases he
      exact ⟨hRow, hOrg, hs e hRow⟩

theorem TickedAll.ticked {orgId : String} {ops : List OperationRow} {s : Archive}
    {results : List EpochSchedulerResult} (h : TickedAll settings orgId s ops results) :
    ∀ res ∈ results, ∃ ops', Ticked settings orgId ops' s res := by
  induction h with
  | nil => exact fun res hRes => (List.not_mem_nil hRes).elim
  | cons _ hTick _ ih => exact List.forall_mem_cons.2 ⟨⟨_, hTick⟩, ih⟩

theorem downloadExport_since (orgId exportId : String) :
    GrowsSince settings (fun _ _ => True) (downloadExport orgId exportId) s₀ := by
  unfold downloadExport getExport
  simp only [bind_assoc']
  refine Since.read_bind fun s _ => Since.require_bind fun row _ => ?_
  show GrowsSince settings _ (raiseIf _ _ >>= _) s
  refine Since.raiseIf_bind fun _ => Since.read_bind fun s' _ => Since.require_bind fun raw _ => ?_
  split
  · exact Since.pure fun _ _ => trivial
  · intro s'' _ res _
    trivial

theorem Routes.downloadExport_since (orgId exportId : String) :
    GrowsSince settings (fun _ _ => True) (Routes.downloadExport orgId exportId) s₀ := by
  unfold Routes.downloadExport
  refine Since.bind (Server.downloadExport_since orgId exportId) fun payload s _ => ?_
  intro s' _ res _
  trivial

theorem requireAgent_bind_steps {α : Type} {agentId orgId : String} {next : Agent → Handler α}
    (h : ∀ a, Steps (fun _ => True) World.Registers (fun _ => True) (next a)) :
    Steps (fun _ => True) World.Registers (fun _ => True)
      (Agents.requireAgent agentId orgId >>= next) := by
  unfold Agents.requireAgent
  simp only [bind_assoc']
  exact Steps.read_bind World.Registers.rest fun w _ => Steps.require_bind fun a _ => h a

theorem onDatabase_steps {f : Database → Except Failure Database}
    (hf : ∀ db db', f db = .ok db' → RegistryStep db db') :
    Steps (fun _ => True) World.Registers (fun _ => True) (onDatabase f) := by
  intro w _
  cases hDb : f w.db with
  | ok db =>
      simp only [hDb, Except.map]
      exact ⟨.update w db (hf _ _ hDb), trivial⟩
  | error e =>
      simp only [hDb, Except.map]
      exact ⟨.rest w, trivial⟩

theorem registerAgent_steps (req : RegisterAgentRequest) (orgId : String) :
    Steps (fun _ => True) World.Registers (fun _ => True) (Agents.registerAgent req orgId) := by
  unfold Agents.registerAgent
  refine Steps.raiseIf_bind fun _ => Steps.read_bind World.Registers.rest fun w _ => ?_
  refine Steps.raiseIf_bind fun _ => Steps.bind (onDatabase_steps fun db db' hDb => ?_)
    fun _ _ => trivial
  exact .register _ _ hDb

theorem deleteAgent_steps (agentId orgId : String) :
    Steps (fun _ => True) World.Registers (fun _ => True) (Agents.deleteAgent agentId orgId) := by
  unfold Agents.deleteAgent
  refine requireAgent_bind_steps fun _ => onDatabase_steps fun db db' hDb => ?_
  exact .delete agentId hDb

theorem getAgent_steps (agentId orgId : String) :
    Steps (fun _ => True) World.Registers (fun _ => True) (Agents.getAgent agentId orgId) := by
  unfold Agents.getAgent
  refine requireAgent_bind_steps fun agent => ?_
  exact Steps.read_bind World.Registers.rest fun w _ => trivial

/-- A handler of the registry. -/
theorem registers_since {α : Type} {prog : Handler α} {respond : α → ConsoleResponse}
    (h : Steps (fun _ => True) World.Registers (fun _ => True) prog)
    (hShown : ∀ a, (respond a).shown = []) :
    GrowsSince settings (Faithful settings s₀)
      (onWorld prog >>= fun a => pure (respond a)) s₀ := by
  refine since_return (onWorld_since (h.guarantee fun _ _ h => h.grows)) ?_
  intro a s s' _ _ _ e he
  rw [hShown a] at he
  exact (List.not_mem_nil he).elim

theorem createExport_grows (orgId : String) (params : CreateExportRequest) (exportId : String) :
    GrowsSince settings (fun _ _ => True) (createExport settings orgId params exportId) s₀ := by
  have hExport : Since (Archive.GrowsBeside settings.sha256 False
      (exportKey orgId exportId params.format.value)) (Archive.Grows settings.sha256) _
      (createExport settings orgId params exportId) s₀ := createExport_since
  exact (hExport.rely fun _ _ h => ⟨h, False.elim⟩).post fun _ _ _ => trivial

/-- **Every handler grows the archive**, and shows epochs that commit to the operations it has
found there, in whatever state the archive is by the end. -/
theorem console_since (req : ConsoleRequest) (s₀ : Archive) :
    GrowsSince settings (Faithful settings s₀) (console settings req) s₀ := by
  cases req with
  | archive req =>
      have hArchive : GrowsSince settings (fun res s => Faithful settings s₀ (.archived res) s)
          (archive settings req) s₀ := by
        cases req with
        | server req =>
            refine Since.bind (server_since req) fun res s _ => Since.pure fun s' hs' _ e he => ?_
            exact (List.not_mem_nil he).elim
        | runEpochOnce orgId =>
            refine Since.bind runEpochOnce_since fun res s hRes => Since.pure fun s' hs' => ?_
            obtain ⟨hs, ops, -, -, hTick⟩ := hRes
            intro hCommitted e he
            have hNow := (hCommitted.grow hs).grow hs'
            exact ((hTick.grow hs').commits hNow (Option.mem_toList.1 he)).2.2
        | epochDetail orgId epochId =>
            refine Since.bind (epochDetail_since epochId) fun res s hRes => ?_
            refine Since.pure fun s' hs' hCommitted e he => ?_
            rw [List.mem_singleton.1 he]
            exact (hRes hCommitted).grow hs'.db.operations
        | createExport orgId params exportId =>
            refine Since.bind (createExport_grows orgId params exportId) fun res s _ => ?_
            exact Since.pure fun s' hs' _ e he => (List.not_mem_nil he).elim
      refine since_return hArchive fun res s s' h hs' hCommitted e he => ?_
      exact (h hCommitted e he).grow hs'.db.operations
  | registerAgent req orgId => exact registers_since (registerAgent_steps req orgId) fun _ => rfl
  | deleteAgent agentId orgId =>
      exact registers_since (deleteAgent_steps agentId orgId) fun _ => rfl
  | getAgent agentId orgId => exact registers_since (getAgent_steps agentId orgId) fun _ => rfl
  | epochs orgId =>
      refine since_return computedEpochs_since fun es s s' h hs' hCommitted e he => ?_
      exact (h.2 hCommitted e he).grow hs'.db.operations
  | runEpochInterval orgId intervalSeconds maxRuns =>
      refine since_return (P := fun results s => s₀.Grows settings.sha256 s ∧
        TickedAll settings orgId s s₀.world.db.operations results) ?_ ?_
      · unfold runEpochInterval
        refine Since.raiseIf_bind fun _ => Since.raiseIf_bind fun _ => ?_
        exact (epochTicks_since _).post fun results s h => ⟨h.1, h.2.2⟩
      · intro results s s' h hs' hCommitted e he
        obtain ⟨res, hRes, hEpoch⟩ := List.mem_filterMap.1 he
        obtain ⟨ops, hTick⟩ := h.2.ticked res hRes
        have hNow := (hCommitted.grow h.1).grow hs'
        exact ((hTick.grow hs').commits hNow hEpoch).2.2
  | listExports orgId =>
      refine since_return (P := fun _ _ => True) ?_ fun _ _ _ _ _ _ e he =>
        (List.not_mem_nil he).elim
      exact Since.read fun _ _ _ _ => trivial
  | getExport orgId exportId =>
      refine since_return (P := fun _ _ => True) ?_ fun _ _ _ _ _ _ e he =>
        (List.not_mem_nil he).elim
      exact Since.read_bind fun s _ => Since.require_bind fun row _ => Since.pure fun _ _ => trivial
  | downloadExport orgId exportId =>
      refine since_return (P := fun _ _ => True) ?_ fun _ _ _ _ _ _ e he =>
        (List.not_mem_nil he).elim
      exact Routes.downloadExport_since orgId exportId

end Handlers

/-! ## Every run -/

section Runs

variable (settings : ArchiveSettings) (now : Int)

/-- What is left of a handler grows the archive. -/
def OnTheWay (p : Pool (consoleService settings)) : Prop :=
  ∀ t ∈ p.threads, Pool.Underway (Archive.Grows settings.sha256) (Archive.Grows settings.sha256)
    (Shown settings) t.2 p.state

variable {settings}

theorem run_grows {p : Pool (consoleService settings)} (hp : OnTheWay settings p)
    (hs : p.state.Committed settings.sha256) (events : List (Event (consoleService settings))) :
    (p.run events).state.Committed settings.sha256 ∧
      p.Along (fun p e => p.state.Grows settings.sha256 (p.step e).state) events ∧
      OnTheWay settings (p.run events) := by
  let svc := consoleService settings
  let Q : svc.Req → svc.Res → Archive → Prop := fun _ => Shown settings
  have hReq : ∀ (req : svc.Req) (s : Archive), s.Committed settings.sha256 →
      GrowsSince settings (Shown settings) (svc.handle req) s :=
    fun req s hCommitted => (console_since req s).post fun res s' h => h hCommitted
  have hClock : ∀ (ms : svc.Ext) (s : Archive), s.Grows settings.sha256 (svc.external ms s) :=
    fun ms s => grows_of_db (Database.grows_refl _) rfl rfl
  exact Pool.run_underway (Q := Q) (fun s s' h hGrows => h.grow hGrows) hClock hReq hs hp events

variable (settings)

/-- **Every event of a run** grows the archive. -/
theorem consoleRun_grows (events : List (Event (consoleService settings))) :
    (consoleRun settings now events).state.Committed settings.sha256 ∧
      OnTheWay settings (consoleRun settings now events) := by
  have hStart : OnTheWay settings (Pool.start { world := .initial now [] [] }) :=
    fun t ht => (List.not_mem_nil ht).elim
  obtain ⟨hCommitted, -, hWay⟩ :=
    run_grows hStart (fun e he => (List.not_mem_nil he).elim) events
  exact ⟨hCommitted, hWay⟩

/-- From one moment of a run to a later one. -/
theorem consoleRun_later (before after : List (Event (consoleService settings))) :
    (consoleRun settings now before).state.Grows settings.sha256
      (consoleRun settings now (before ++ after)).state := by
  obtain ⟨hCommitted, hWay⟩ := consoleRun_grows settings now before
  obtain ⟨-, hAlong, -⟩ := run_grows hWay hCommitted after
  unfold consoleRun
  rw [Pool.run_append]
  exact Pool.along_trans hAlong

/-- The epoch is stored, or an answer shows it. -/
def Known (p : Pool (consoleService settings)) (e : Epoch) : Prop :=
  e ∈ p.state.epochs ∨ ∃ i res, p.answerOf i = some res ∧ e ∈ res.shown

/-- **Epochs never differ.**  In every run each epoch that is stored or has been shown
commits to the first operations of its organisation, as many as it has leaves; so two epochs
of an organisation with as many leaves are the same. -/
theorem epochs_commit (events : List (Event (consoleService settings))) :
    let p := consoleRun settings now events
    (∀ e, Known settings p e → CommitsTo settings.sha256 p.state.world.db.operations e) ∧
      ∀ e e', Known settings p e → Known settings p e' → e.orgId = e'.orgId →
        e.leafCount = e'.leafCount → e = e' := by
  obtain ⟨hCommitted, hWay⟩ := consoleRun_grows settings now events
  have hKnown : ∀ e, Known settings (consoleRun settings now events) e →
      CommitsTo settings.sha256 (consoleRun settings now events).state.world.db.operations e := by
    rintro e (hRow | ⟨i, res, hAnswer, hShown⟩)
    · exact hCommitted e hRow
    · obtain ⟨t, hi, hRes⟩ := Option.bind_eq_some_iff.1 hAnswer
      have hProg := hWay t (List.mem_of_getElem? hi)
      rw [answer?_eq_some.1 hRes] at hProg
      exact hProg.answer e hShown
  refine ⟨hKnown, fun e e' he he' hOrg hCount => ?_⟩
  exact (hKnown e he).unique (hKnown e' he') hOrg hCount

end Runs

/-! ## Ticks -/

/-- The request asks for so many ticks of the organisation's epochs. -/
inductive Ticks (orgId : String) : ConsoleRequest → Nat → Prop
  | once : Ticks orgId (.archive (.runEpochOnce orgId)) 1
  | loop (intervalSeconds : Rat) (maxRuns : Int) :
      Ticks orgId (.runEpochInterval orgId intervalSeconds maxRuns) maxRuns.toNat

def ConsoleResponse.results : ConsoleResponse → List EpochSchedulerResult
  | .archived (.ticked res) => [res]
  | .ticked results => results
  | _ => []

/-- How many operations the epoch of a tick commits to. -/
def EpochSchedulerResult.covered (res : EpochSchedulerResult) : Nat :=
  (res.epoch.map fun e => e.leafCount.toNat).getD 0

section Covers

variable {settings : ArchiveSettings} {orgId : String} {ops : List OperationRow} {s : Archive}

/-- A tick covers what it has read, whether it is the one that stored the epoch or not. -/
theorem Ticked.covered {res : EpochSchedulerResult} (h : Ticked settings orgId ops s res)
    (hs : s.Committed settings.sha256) (hOps : ops <+: s.world.db.operations)
    (hApart : SeedsApart settings.sha256 orgId s.world.db.operations) :
    res.covered = (rowsOf orgId ops).length := by
  cases h with
  | skipped hNone =>
      rw [epochFromOperationRows_none hNone]
      rfl
  | created e eer hEpoch hRow =>
      have hCount := (commits_of_rows hEpoch).2.1
      show e.leafCount.toNat = _
      omega
  | found e row eer hEpoch hRow hOrg hId =>
      obtain ⟨hOrg', hCount, hCommits⟩ := commits_of_rows hEpoch
      have hSame := (hs row hRow).eq_of_epochId (hCommits.grow hOps) hApart hOrg hOrg' hId
      show row.leafCount.toNat = _
      rw [hSame]
      omega

theorem TickedAll.bound {results : List EpochSchedulerResult}
    (h : TickedAll settings orgId s ops results) : ops <+: s.world.db.operations := by
  induction h with
  | nil ops hLast => exact hLast
  | cons hMore _ _ ih => exact hMore.trans ih

/-- Each tick covers at least what the one before it has covered. -/
theorem TickedAll.covered {results : List EpochSchedulerResult}
    (h : TickedAll settings orgId s ops results) (hs : s.Committed settings.sha256)
    (hApart : SeedsApart settings.sha256 orgId s.world.db.operations) :
    (results.map EpochSchedulerResult.covered).Pairwise (· ≤ ·) ∧
      ∀ res ∈ results, (rowsOf orgId ops).length ≤ res.covered ∧
        res.covered ≤ (rowsOf orgId s.world.db.operations).length := by
  induction h with
  | nil ops hLast => exact ⟨List.Pairwise.nil, fun res hRes => (List.not_mem_nil hRes).elim⟩
  | @cons ops ops' res results hMore hTick hRest ih =>
      obtain ⟨hPairwise, hBounds⟩ := ih
      have hCovered := hTick.covered hs hRest.bound hApart
      have hFrom := (hMore.filter fun r => decide (r.orgId = orgId)).length_le
      have hTo := (hRest.bound.filter fun r => decide (r.orgId = orgId)).length_le
      refine ⟨List.Pairwise.cons ?_ hPairwise, ?_⟩
      · intro count hCount
        obtain ⟨later, hLater, rfl⟩ := List.mem_map.1 hCount
        rw [hCovered]
        exact (hBounds later hLater).1
      · refine List.forall_mem_cons.2 ⟨⟨by rw [hCovered]; exact hFrom, ?_⟩, fun later hLater => ?_⟩
        · rw [hCovered]
          exact hTo
        · exact ⟨Nat.le_trans hFrom (hBounds later hLater).1, (hBounds later hLater).2⟩

/-- The handlers that tick. -/
theorem ticks_since {req : ConsoleRequest} {n : Nat} (h : Ticks orgId req n) (s₀ : Archive) :
    GrowsSince settings (fun res s => res.results.length = n ∧
      TickedAll settings orgId s s₀.world.db.operations res.results) (console settings req) s₀ := by
  cases h with
  | once =>
      refine since_return (P := fun res s => ∃ tick, res = .ticked tick ∧
        TickedAll settings orgId s s₀.world.db.operations [tick]) ?_ ?_
      · refine Since.bind runEpochOnce_since fun tick s hTicked => Since.pure fun s' hs' => ?_
        obtain ⟨hs, ops, hFrom, hTo, hTick⟩ := hTicked
        refine ⟨tick, rfl, .cons hFrom (hTick.grow hs') (.nil _ ?_)⟩
        exact hTo.trans hs'.db.operations
      · rintro res s s' ⟨tick, rfl, hTick⟩ hs'
        exact ⟨rfl, hTick.grow hs'⟩
  | loop intervalSeconds maxRuns =>
      refine since_return (P := fun results s => results.length = maxRuns.toNat ∧
        TickedAll settings orgId s s₀.world.db.operations results) ?_ ?_
      · unfold runEpochInterval
        refine Since.raiseIf_bind fun _ => Since.raiseIf_bind fun _ => ?_
        exact (epochTicks_since _).post fun results s h => h.2
      · exact fun results s s' h hs' => ⟨h.1, h.2.grow hs'⟩

end Covers

/-- With one operation there is one epoch. -/
theorem seedsApart_of_one {settings : ArchiveSettings} {orgId : String} {ops : List OperationRow}
    (h : (rowsOf orgId ops).length ≤ 1) : SeedsApart settings.sha256 orgId ops := by
  intro e e' hCommits hCommits' hOrg hOrg' _
  have hBound := hCommits.bound
  have hBound' := hCommits'.bound
  rw [hOrg] at hBound
  rw [hOrg'] at hBound'
  have hPos := hCommits.leafCount_pos
  have hPos' := hCommits'.leafCount_pos
  rw [hCommits.unique hCommits' (hOrg.trans hOrg'.symm) (by omega)]

namespace Sample

/-- An agent is registered and submits its first operation. -/
def firstSubmission : List (Event (consoleService epochSettings)) :=
  [.request (.registerAgent { agentId := "a", keys := [{ kid := "k", publicKey := "pk" }] } "o"),
    .resume 0 .none, .resume 0 .none,
    .request (.archive (.server (.ingest
      (.submit (operation "op1" "n1" 1000 genesisChainHash) "r1"))))] ++
    List.replicate 9 (.resume 1 .none)

/-- Its key is revoked, and it is to be deleted. -/
def revokedAndDeleted : List (Event (consoleService epochSettings)) :=
  .request (.archive (.server (.revoke "a" "k" "lost" "o"))) ::
    (List.replicate 4 (.resume 2 .none) ++ [.request (.deleteAgent "a" "o"),
      .resume 3 .none, .resume 3 .none])

end Sample

/-- **The ticks of the scheduler.**  Whatever happens between the request and its answer, it
has ticked as often as it was asked to; each tick covers all operations that were there when
it was asked, and at least what the tick before it has covered, by an epoch that is stored and
commits to them. -/
theorem interval_covers (settings : ArchiveSettings) (now : Int) (orgId : String)
    (before after : List (Event (consoleService settings))) (req : ConsoleRequest) (n : Nat)
    (res : ConsoleResponse) (hReq : Ticks orgId req n) :
    let asked := consoleRun settings now before
    let p := consoleRun settings now (before ++ .request req :: after)
    SeedsApart settings.sha256 orgId p.state.world.db.operations →
    p.answerOf asked.threads.length = some res →
      res.results.length = n ∧
      (res.results.map EpochSchedulerResult.covered).Pairwise (· ≤ ·) ∧
      ∀ tick ∈ res.results,
        (rowsOf orgId asked.state.world.db.operations).length ≤ tick.covered ∧
        tick.covered ≤ (rowsOf orgId p.state.world.db.operations).length ∧
        ∀ e, tick.epoch = some e → e ∈ p.state.epochs ∧ e.orgId = orgId ∧
          CommitsTo settings.sha256 p.state.world.db.operations e := by
  intro asked p hApart hAnswer
  obtain ⟨hAsked, hWay⟩ := consoleRun_grows settings now before
  have hCommitted := (consoleRun_grows settings now (before ++ .request req :: after)).1
  have hRun : p = asked.run (.request req :: after) := Pool.run_append _ _ _
  have hAlong := (run_grows hWay hAsked (.request req :: after)).2.1.2
  have hTicks : res.results.length = n ∧
      TickedAll settings orgId p.state asked.state.world.db.operations res.results := by
    rw [hRun] at hAnswer ⊢
    exact Pool.run_answer (ticks_since hReq asked.state) after
      (hAlong.mono fun _ _ h _ => h) hAnswer
  obtain ⟨hLength, hAll⟩ := hTicks
  obtain ⟨hPairwise, hBounds⟩ := hAll.covered hCommitted hApart
  refine ⟨hLength, hPairwise, fun tick hTick => ?_⟩
  obtain ⟨ops, hTicked⟩ := hAll.ticked tick hTick
  exact ⟨(hBounds tick hTick).1, (hBounds tick hTick).2, fun e he => hTicked.commits hCommitted he⟩

theorem interval_covers_sample :
    ∃ res, (consoleRun Sample.epochSettings 1000 (Sample.firstSubmission ++
        .request (.runEpochInterval "o" 300 2) :: List.replicate 8 (.resume 2 .none))).answerOf 2 =
          some res ∧ res.results.length = 2 ∧ ∀ tick ∈ res.results, tick.covered = 1 := by
  have hAnswers : ((consoleRun Sample.epochSettings 1000 (Sample.firstSubmission ++
      .request (.runEpochInterval "o" 300 2) :: List.replicate 8 (.resume 2 .none))).answerOf
        2).isSome = true := by
    decide +kernel
  obtain ⟨res, hAnswer⟩ := Option.isSome_iff_exists.1 hAnswers
  have hFrom : (rowsOf "o" (consoleRun Sample.epochSettings 1000
      Sample.firstSubmission).state.world.db.operations).length = 1 := by decide +kernel
  have hTo : (rowsOf "o" (consoleRun Sample.epochSettings 1000 (Sample.firstSubmission ++
      .request (.runEpochInterval "o" 300 2) ::
        List.replicate 8 (.resume 2 .none))).state.world.db.operations).length = 1 := by
    decide +kernel
  have hLoop : Ticks "o" (.runEpochInterval "o" 300 2) 2 := Ticks.loop 300 2
  obtain ⟨hLength, -, hTicks⟩ := interval_covers Sample.epochSettings 1000 "o"
    Sample.firstSubmission (List.replicate 8 (.resume 2 .none)) _ 2 res hLoop
    (seedsApart_of_one (by rw [hTo])) hAnswer
  refine ⟨res, hAnswer, hLength, fun tick hTick => ?_⟩
  obtain ⟨hLow, hHigh, -⟩ := hTicks tick hTick
  rw [hFrom] at hLow
  rw [hTo] at hHigh
  omega

/-! ## The registry -/

theorem consoleRun_registered (settings : ArchiveSettings) (now : Int)
    (events : List (Event (consoleService settings))) :
    (consoleRun settings now events).state.world.db.Registered := by
  refine (consoleRun_later settings now [] events).db.registered ?_
  exact
    { agents := keyUnique_nil _
      keys := keyUnique_nil _
      owned := fun k hk => (List.not_mem_nil hk).elim
      acted := fun r hr => (List.not_mem_nil hr).elim }

/-- **From its first operation on** an agent stays in its organisation, with its keys.
Deleting it is refused by the reference that its operations hold, and no other statement moves
an agent or replaces a key. -/
theorem registry_permanent (settings : ArchiveSettings) (now : Int)
    (before after : List (Event (consoleService settings))) (agentId : String)
    (hActive : (consoleRun settings now before).state.world.db.Active agentId) :
    let db := (consoleRun settings now before).state.world.db
    let db' := (consoleRun settings now (before ++ after)).state.world.db
    (∃ orgId, ∀ orgId', ((db.findAgent agentId orgId').isSome ↔ orgId' = orgId) ∧
      ((db'.findAgent agentId orgId').isSome ↔ orgId' = orgId)) ∧
    ∀ kid k, db.findAgentKey kid agentId = some k →
      ∃ k', db'.findAgentKey kid agentId = some k' ∧ k.Kept k' := by
  intro db db'
  have hDb : db.Registered := consoleRun_registered settings now before
  have hDb' : db'.Registered := consoleRun_registered settings now (before ++ after)
  have hGrows : db.Grows db' := (consoleRun_later settings now before after).db
  obtain ⟨r, hr, rfl⟩ := id hActive
  obtain ⟨a, ha, hId⟩ := hDb.acted r hr
  rw [← hId] at hActive ⊢
  obtain ⟨a', ha', hId', hOrg'⟩ := hGrows.agents a ha hActive
  refine ⟨⟨a.orgId, fun orgId' => ⟨hDb.findAgent_isSome ha, ?_⟩⟩, fun kid k hFound => ?_⟩
  · rw [← hId', hDb'.findAgent_isSome ha', hOrg']
  · obtain ⟨hk, rfl, hAgent⟩ := Database.mem_of_findAgentKey hFound
    obtain ⟨k', hk', hKept⟩ := hGrows.keys k hk (hAgent ▸ hActive)
    refine ⟨k', ?_, hKept⟩
    have hSame := hDb'.findAgentKey_eq hk'
    rw [hKept.kid, hKept.agent, hAgent] at hSame
    exact hSame

theorem registry_permanent_sample :
    ∃ k', (consoleRun Sample.epochSettings 1000
        (Sample.firstSubmission ++ Sample.revokedAndDeleted)).state.world.db.findAgentKey "k" "a" =
          some k' ∧ k'.publicKey = "pk" ∧ k'.status = .revoked := by
  have hActive : (consoleRun Sample.epochSettings 1000
      (Sample.firstSubmission ++ Sample.revokedAndDeleted.take 5)).state.world.db.Active "a" := by
    decide +kernel
  have hKey : (consoleRun Sample.epochSettings 1000
      (Sample.firstSubmission ++ Sample.revokedAndDeleted.take 5)).state.world.db.findAgentKey
        "k" "a" = some ⟨"k", "a", "pk", .revoked⟩ := by
    decide +kernel
  obtain ⟨-, hKeys⟩ := registry_permanent Sample.epochSettings 1000
    (Sample.firstSubmission ++ Sample.revokedAndDeleted.take 5) (Sample.revokedAndDeleted.drop 5)
    "a" hActive
  obtain ⟨k', hFound, hKept⟩ := hKeys "k" _ hKey
  rw [List.append_assoc, List.take_append_drop] at hFound
  exact ⟨k', hFound, hKept.publicKey, hKept.revoked rfl⟩

end AgentShield.Server
