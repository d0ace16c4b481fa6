import AgentShield.Lib.Obligation
import AgentShield.Server.Platform

/-!
# The outbox of Channel 2

An accepted action record is fanned out to the consumers of its workflow after its
row has been committed, in awaited steps of their own.  From the commit to the
append its handler owes the entry: when no step fails in between, every committed
row has its entry once no request is in flight.  When one does, the entry is lost,
and a retry of the record is refused before it reaches the fan-out.
-/

namespace AgentShield.Server

open AgentShield.Lib AgentShield.Lib.Async AgentShield.Sdk

/-- The entry of an action record on the stream of its workflow, with the whole record as a
text. -/
def channel2Entry (prim : Primitives) (rec : ShieldActionRecord) (chainHash : String)
    (seqNo : Int) (verdictId : String) : List (String × String) :=
  [("record_id", rec.recordId),
   ("correlation_id", rec.correlationId),
   ("phase", rec.phase.value),
   ("seq_no", toString seqNo),
   ("chain_hash", chainHash),
   ("verdict_id", verdictId),
   ("record", prim.toFloatText.modelDumpJson (rec.modelDump false))]

/-- The entry of the record with this row is on the stream of its workflow. -/
def Announced (prim : Primitives) (rec : ShieldActionRecord) (row : OperationRow)
    (w : World) : Prop :=
  ∃ verdictId, channel2Entry prim rec row.chainHash row.seqNo verdictId ∈
    w.cache.entries (streamName actionsStreamPrefix rec.workflowId)

/-- The step commits the row of an action record. -/
def Commits (row : OperationRow) (w w' : World) : Prop :=
  row.phase ≠ none ∧ row ∉ w.db.operations ∧ row ∈ w'.db.operations

theorem commits_rest {row : OperationRow} (w : World) : ¬ Commits row w w :=
  fun h => h.2.1 h.2.2

section Handlers

variable {settings : Settings} {row : OperationRow} {w w' : World}

/-- The row that a transaction commits is one of its statements. -/
theorem commits_transaction {sts : List Statement} (hTx : w.transaction sts = .ok w')
    (h : Commits row w w') : row ∈ sts.filterMap Statement.operation? := by
  obtain ⟨db, hDb, rfl⟩ := World.transaction_ok hTx
  obtain ⟨-, hNew, hRow⟩ := h
  have hOps := Database.transaction_operations hDb
  change row ∈ db.operations at hRow
  rw [hOps] at hRow
  rcases List.mem_append.1 hRow with hOld | hAdded
  · exact absurd hOld hNew
  · exact hAdded

/-- Only the ingest of an action record commits the row of one, and the row is made of the
record that the request carries. -/
theorem HandlerStep.commits {acts : ShieldActionRecord → Prop}
    (hStep : HandlerStep settings acts w w') (h : Commits row w w') :
    ∃ rec chainHash seqNo receivedAt, acts rec ∧
      row = operationsInsert settings.prim rec seqNo chainHash receivedAt := by
  have hSame : w'.db.operations ≠ w.db.operations := by
    intro hEq
    obtain ⟨-, hNew, hRow⟩ := h
    rw [hEq] at hRow
    exact hNew hRow
  cases hStep with
  | submit rec receivedAt seqNo receiptId hTx =>
      have hMem := commits_transaction hTx h
      obtain rfl : row = operationRow settings.prim.toFloatText (shieldSdkCrypto settings.prim)
          rec receivedAt seqNo := by simpa [Statement.operation?] using hMem
      exact absurd rfl h.1
  | decide rec verdict verdictKey chainHash seqNo receivedAt hActs _ hTx =>
      have hMem := commits_transaction hTx h
      refine ⟨rec, chainHash, seqNo, receivedAt, hActs, ?_⟩
      simpa [decideStatements, Statement.operation?] using hMem
  | record rec chainHash seqNo receivedAt hActs _ hTx =>
      have hMem := commits_transaction hTx h
      refine ⟨rec, chainHash, seqNo, receivedAt, hActs, ?_⟩
      simpa [Statement.operation?] using hMem
  | publish verdictRow hTx =>
      have hMem := commits_transaction hTx h
      simp [Statement.operation?] at hMem
  | _ => exact absurd rfl hSame

/-- A part of a handler that ingests no action record incurs nothing. -/
theorem incurs_of_stepwise {α : Type} {Q : α → Prop} {D : World → Prop} {prog : Handler α}
    (h : Stepwise settings (fun _ => False) Q prog) : Incurs (Commits row) False D prog := by
  refine Incurs.of_steps h fun w w' hStep hCommits => ?_
  obtain ⟨rec, -, -, -, hActs, -⟩ := hStep.commits hCommits
  exact hActs

theorem ensureGroups_owes {D : World → Prop} (stream : String) (groups : List String)
    {next : Unit → Handler Unit} (h : Owes False D (next ())) :
    Owes False D (ensureGroups stream groups >>= next) := by
  induction groups with
  | nil => exact h
  | cons group groups ih =>
      unfold ensureGroups
      rw [bind_assoc']
      exact Owes.write_later ih

/-- The fan-out owes the entry. -/
theorem fanChannel2_owes (prim : Primitives) (rec : ShieldActionRecord) (row : OperationRow)
    (verdictId : String) :
    Owes False (Announced prim rec row)
      (fanChannel2 prim rec row.chainHash row.seqNo verdictId) := by
  unfold fanChannel2
  refine ensureGroups_owes _ _ (Owes.write_now fun w => ⟨verdictId, ?_⟩)
  show _ ∈ (w.cache.xadd _ _).entries _
  rw [Cache.entries_xadd]
  exact List.mem_append_right _ List.mem_cons_self

theorem decide_incurs (rec : ShieldActionRecord) (govApp : GovernanceApp) (latencyMs : PyFloat) :
    Incurs (Commits row) False (Announced settings.prim rec row)
      (Governance.decide settings.prim settings.serverSigningKey rec govApp latencyMs) := by
  have hG : Ambient (HandlerStep settings fun _ => False) := .handler
  unfold Governance.decide
  refine Incurs.read_bind commits_rest fun receivedAt => ?_
  refine Incurs.bind (incurs_of_stepwise (ingestPrefix_steps hG rec _ _ fun w body =>
    .store w _ body)) fun r => ?_
  obtain ⟨chainHash, seqNo⟩ := r
  refine Incurs.read_bind commits_rest fun answer => ?_
  refine Incurs.ofExcept_bind fun decided => ?_
  refine Incurs.read_bind commits_rest fun servedAt => ?_
  refine Incurs.write_bind (fun w h => commits_rest w h) ?_
  refine Incurs.attempt_bind commits_rest (fun w w' hTx hCommits => ?_) ?_
  · have hMem := commits_transaction hTx hCommits
    obtain rfl : row = operationsInsert settings.prim rec seqNo chainHash receivedAt := by
      simpa [Statement.operation?] using hMem
    exact (fanChannel2_owes settings.prim rec _ _).bind
  · refine Incurs.bind (incurs_of_stepwise (fanChannel2_steps hG rec _ _ _ fun w fields =>
      .xadd w _ fields)) fun _ => ?_
    refine Incurs.bind (incurs_of_stepwise (fanVerdicts_steps hG rec _ fun w =>
      .xadd w _ _)) fun _ => ?_
    trivial

theorem record_incurs (rec : ShieldActionRecord) :
    Incurs (Commits row) False (Announced settings.prim rec row)
      (Governance.record settings.prim rec) := by
  have hG : Ambient (HandlerStep settings fun _ => False) := .handler
  unfold Governance.record
  refine Incurs.read_bind commits_rest fun receivedAt => ?_
  refine Incurs.bind (incurs_of_stepwise (ingestPrefix_steps hG rec _ _ fun w body =>
    .store w _ body)) fun r => ?_
  obtain ⟨chainHash, seqNo⟩ := r
  refine Incurs.attempt_bind commits_rest (fun w w' hTx hCommits => ?_) ?_
  · have hMem := commits_transaction hTx hCommits
    obtain rfl : row = operationsInsert settings.prim rec seqNo chainHash receivedAt := by
      simpa [Statement.operation?] using hMem
    exact (fanChannel2_owes settings.prim rec _ _).bind
  · refine Incurs.bind (incurs_of_stepwise (fanChannel2_steps hG rec _ _ _ fun w fields =>
      .xadd w _ fields)) fun _ => ?_
    trivial

/-- The handler that commits the row of its record owes the entry of the record. -/
theorem platform_incurs {r : PlatformRequest} {rec : ShieldActionRecord}
    (hRec : r.actionRecord? = some rec) :
    Incurs (Commits row) False (Announced settings.prim rec row) (platform settings r) := by
  have hDone : ∀ {α : Type} (a : α), Incurs (Commits row) False (Announced settings.prim rec row)
      (pure a : Handler α) := fun _ => trivial
  unfold PlatformRequest.actionRecord? at hRec
  split at hRec
  · cases hRec
    exact ((decide_incurs rec _ _).bind fun _ => hDone _).bind fun _ => hDone _
  · cases hRec
    exact ((record_incurs rec).bind fun _ => hDone _).bind fun _ => hDone _
  · cases hRec

/-- Nothing is taken from a stream. -/
theorem announced_step {prim : Primitives} {rec : ShieldActionRecord}
    (hStep : PlatformStep settings w w') (h : Announced prim rec row w) :
    Announced prim rec row w' := by
  obtain ⟨verdictId, hMem⟩ := h
  refine ⟨verdictId, ?_⟩
  cases hStep with
  | tick => exact hMem
  | handler hStep =>
      have hTx : ∀ {sts}, w.transaction sts = .ok w' → w'.cache = w.cache := by
        intro sts hTx
        obtain ⟨db, -, rfl⟩ := World.transaction_ok hTx
        rfl
      cases hStep with
      | cache c hStreams => exact (hStreams _).subset hMem
      | submit _ _ _ _ hTx' => exact hTx hTx' ▸ hMem
      | decide _ _ _ _ _ _ _ _ hTx' => exact hTx hTx' ▸ hMem
      | record _ _ _ _ _ _ hTx' => exact hTx hTx' ▸ hMem
      | publish _ hTx' => exact hTx hTx' ▸ hMem
      | _ => exact hMem

end Handlers

/-! ## Runs -/

section Runs

variable {settings : Settings}

/-- No step fails between the commit of an action record and the append of its entry. -/
def FansOut (p : Pool (platformService settings)) (e : Event (platformService settings)) :
    Prop :=
  ∀ rec row, ¬ p.Loses e (Commits row) False (Announced settings.prim rec row)

/-- With this event a handler of the record commits its row: it is a step of a request that
carries the record, and the row is in the table afterwards. -/
structure CommittedBy (p : Pool (platformService settings))
    (e : Event (platformService settings)) (rec : ShieldActionRecord) (row : OperationRow) :
    Prop where
  handler : ∃ i f r prog, e = .resume i f ∧ p.threads[i]? = some (r, prog) ∧
    PlatformRequest.actionRecord? r = some rec
  commits : Commits row p.state (p.step e).state

variable {now : Int} {agents : List Agent} {agentKeys : List AgentKey}
  {events : List (Event (platformService settings))}

/-- A handler keeps to the steps of its own request all through a run. -/
theorem platformRun_stepwise :
    ∀ t ∈ (platformRun settings now agents agentKeys events).threads,
      Stepwise settings (fun rec => t.1.actionRecord? = some rec) (fun _ => True) t.2 :=
  platformRun_threads
    (T := fun r prog => Stepwise settings (fun rec => r.actionRecord? = some rec)
      (fun _ => True) prog)
    (fun _ _ _ w h => (h w trivial).2) (fun _ res => by cases res <;> trivial) platform_steps

theorem platformRun_incurs (row : OperationRow) :
    ∀ t ∈ (platformRun settings now agents agentKeys events).threads,
      ∀ rec, PlatformRequest.actionRecord? t.1 = some rec →
        Incurs (Commits row) False (Announced settings.prim rec row) t.2 :=
  platformRun_threads
    (T := fun r prog => ∀ rec, r.actionRecord? = some rec →
      Incurs (Commits row) False (Announced settings.prim rec row) prog)
    (fun _ _ _ w h rec hRec => (h rec hRec w).2) (fun _ _ _ _ => trivial)
    (fun _ _ hRec => platform_incurs hRec)

/-- Every event after a run keeps what has been announced. -/
theorem platformRun_keepsAnnounced (rec : ShieldActionRecord) (row : OperationRow)
    (later : List (Event (platformService settings))) :
    (platformRun settings now agents agentKeys events).Along
      (fun p e => Announced settings.prim rec row p.state →
        Announced settings.prim rec row (p.step e).state) later := by
  have hThreads : ∀ t ∈ (platformRun settings now agents agentKeys events).threads,
      Steps (fun _ => True) (PlatformStep settings) (fun _ => True) t.2 :=
    fun t ht => (platformRun_stepwise t ht).platformSteps
  have hSteps := Pool.along_steps platformStep_rest (fun ms w => .tick w ms)
    (fun r => (platform_steps r).platformSteps) hThreads later
  exact hSteps.mono fun p e hStep => announced_step hStep

/-- The event that commits the row of an action record is a step of the handler of
the record. -/
theorem committedBy_of_commits {e : Event (platformService settings)} {row : OperationRow}
    (h : Commits row (platformRun settings now agents agentKeys events).state
      ((platformRun settings now agents agentKeys events).step e).state) :
    ∃ rec, CommittedBy (platformRun settings now agents agentKeys events) e rec row := by
  have hNew : ((platformRun settings now agents agentKeys events).step e).state ≠
      (platformRun settings now agents agentKeys events).state := by
    intro hSame
    rw [hSame] at h
    exact commits_rest _ h
  rcases Pool.step_change hNew with ⟨ms, rfl⟩ | ⟨i, f, r, upd, k, rfl, hi, hState⟩
  · exact absurd h (commits_rest _)
  · have hSteps := platformRun_stepwise _ (List.mem_of_getElem? hi)
    obtain ⟨hStep, -⟩ := hSteps (platformRun settings now agents agentKeys events).state trivial
    have hCommits := h
    rw [hState] at hCommits
    obtain ⟨rec, -, -, -, hRec, -⟩ := hStep.commits hCommits
    exact ⟨rec, ⟨i, f, r, _, rfl, hi, hRec⟩, h⟩

/-- A row that was committed with an event of a run that fans out is announced when
no request is in flight. -/
theorem announced_of_committedBy {e : Event (platformService settings)}
    {later : List (Event (platformService settings))} {rec : ShieldActionRecord}
    {row : OperationRow}
    (h : CommittedBy (platformRun settings now agents agentKeys events) e rec row)
    (hRun : (platformRun settings now agents agentKeys events).Along FansOut (e :: later))
    (hIdle : ∀ t ∈ ((platformRun settings now agents agentKeys events).run (e :: later)).threads,
      t.2.finished = true) :
    Announced settings.prim rec row
      ((platformRun settings now agents agentKeys events).run (e :: later)).state := by
  obtain ⟨i, f, r, prog, rfl, hi, hRec⟩ := h.handler
  obtain ⟨hEvent, hLater⟩ := hRun
  have hOwed := Pool.owed_of_incurs commits_rest hi
    (platformRun_incurs row _ (List.mem_of_getElem? hi) rec hRec) h.commits (hEvent rec row)
  have hKept : (platformRun settings now agents agentKeys events).Along
      (fun p e => Announced settings.prim rec row p.state →
        Announced settings.prim rec row (p.step e).state) (.resume i f :: later) :=
    platformRun_keepsAnnounced rec row _
  exact Pool.run_owed hOwed (hKept.2.and (hLater.mono fun p e h => h rec row)) hIdle

end Runs

/-- **The outbox of Channel 2.**  In a run in which no step fails between the commit of
an action record and the append of its entry, every committed row of an action record
has the entry of its record when no request is in flight. -/
theorem channel2_outbox (settings : Settings) (now : Int) (agents : List Agent)
    (agentKeys : List AgentKey) (events : List (Event (platformService settings)))
    (hRun : (Pool.start (World.initial now agents agentKeys)).Along FansOut events)
    (hIdle : ∀ t ∈ (platformRun settings now agents agentKeys events).threads,
      t.2.finished = true) :
    ∀ row ∈ (platformRun settings now agents agentKeys events).state.db.operations,
      row.phase ≠ none →
        ∃ earlier e later rec, events = earlier ++ e :: later ∧
          CommittedBy (platformRun settings now agents agentKeys earlier) e rec row ∧
          Announced settings.prim rec row
            (platformRun settings now agents agentKeys events).state := by
  intro row hRow hPhase
  have hStart : row ∉ (World.initial now agents agentKeys).db.operations := by
    simp [World.initial]
  obtain ⟨earlier, e, later, rfl, hBefore, hAfter⟩ :=
    Pool.first_event (X := fun w : World => row ∈ w.db.operations) hStart hRow
  have hCommits : Commits row (platformRun settings now agents agentKeys earlier).state
      ((platformRun settings now agents agentKeys earlier).step e).state :=
    ⟨hPhase, hBefore, hAfter⟩
  obtain ⟨rec, hCommitted⟩ := committedBy_of_commits hCommits
  have hSplit : platformRun settings now agents agentKeys (earlier ++ e :: later) =
      (platformRun settings now agents agentKeys earlier).run (e :: later) :=
    Pool.run_append _ earlier (e :: later)
  refine ⟨earlier, e, later, rec, rfl, hCommitted, ?_⟩
  rw [hSplit] at hIdle ⊢
  exact announced_of_committedBy hCommitted (Pool.along_append.1 hRun).2 hIdle

namespace Sample

/-- The outcome of a tool call. -/
def outcome : ShieldActionRecord :=
  action "rec1" "n1" .postExec 1000 genesisChainHash "ph"

/-- The first step after the commit fails, and the client tries again. -/
def cutOff : List (Event (platformService settings)) :=
  .request (.ingest (.record outcome)) :: List.replicate 7 (.resume 0 .none) ++
    [.resume 0 .before] ++
    .request (.ingest (.record outcome)) :: List.replicate 2 (.resume 1 .none)

/-- The same record without a failure. -/
def fannedOut : List (Event (platformService settings)) :=
  .request (.ingest (.record outcome)) :: List.replicate 11 (.resume 0 .none)

/-- The row of the record. -/
def outcomeRow : OperationRow :=
  operationsInsert settings.prim outcome 1 (deriveChainHash settings.prim genesisChainHash outcome)
    1000

end Sample

/-- A failure between the commit and the append loses the entry: the retry is refused,
no request is in flight, and the row has no entry. -/
theorem cut_off_entry_lost :
    (∀ t ∈ (platformRun Sample.settings 1000 Sample.agents Sample.agentKeys
        Sample.cutOff).threads, t.2.finished = true) ∧
      Sample.outcomeRow ∈ (platformRun Sample.settings 1000 Sample.agents Sample.agentKeys
        Sample.cutOff).state.db.operations ∧
      Sample.outcomeRow.phase ≠ none ∧
      ∀ rec, ¬ Announced Sample.settings.prim rec Sample.outcomeRow
        (platformRun Sample.settings 1000 Sample.agents Sample.agentKeys Sample.cutOff).state := by
  refine ⟨by decide +kernel, by decide +kernel, by decide +kernel, ?_⟩
  rintro rec ⟨verdictId, hMem⟩
  have hStreams : (platformRun Sample.settings 1000 Sample.agents Sample.agentKeys
      Sample.cutOff).state.cache.streams = [] := by decide +kernel
  unfold Cache.entries at hMem
  rw [hStreams] at hMem
  cases hMem

theorem channel2_outbox_sample :
    ∃ rec, Announced Sample.settings.prim rec Sample.outcomeRow
      (platformRun Sample.settings 1000 Sample.agents Sample.agentKeys
        Sample.fannedOut).state := by
  have hNoFault : ∀ e ∈ Sample.fannedOut, ∀ p, FansOut p e := by
    intro e he p rec row
    refine Pool.not_loses fun i f hEvent => ?_
    subst hEvent
    rcases List.mem_cons.1 he with hRequest | hStep
    · cases hRequest
    · cases List.eq_of_mem_replicate hStep
      rfl
  obtain ⟨_, _, _, rec, _, _, hAnnounced⟩ :=
    channel2_outbox Sample.settings 1000 Sample.agents Sample.agentKeys Sample.fannedOut
      (Pool.along_of_forall hNoFault _) (by decide +kernel) Sample.outcomeRow (by decide +kernel)
      (by decide +kernel)
  exact ⟨rec, hAnnounced⟩

end AgentShield.Server
