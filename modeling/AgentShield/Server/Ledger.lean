import AgentShield.Server.Platform

/-!
# The verdict ledger

A decision writes three tables that are joined by ids: the operation, its verdict
and its entry in the intervention log.  Late verdicts and resumed incidents write
the verdict table as well.  The tables stay consistent in every run.
-/

namespace AgentShield.Server

open AgentShield.Lib AgentShield.Lib.Async AgentShield.Sdk

/-- The only log row and a verdict row of an operation, which agree with it. -/
structure Decided (db : Database) (r : OperationRow) (l : InterventionRow)
    (g : GovernanceVerdictRow) : Prop where
  logged : db.interventionLog.filter (fun l => l.recordId = r.operationId) = [l]
  stored : g ∈ db.governanceVerdicts
  verdictId : g.verdictId = l.verdictId
  recordId : l.recordId = r.operationId ∧ g.recordId = r.operationId
  correlationId : some l.correlationId = r.correlationId ∧ some g.correlationId = r.correlationId
  runId : l.runId = r.runId ∧ g.runId = r.runId
  decision : g.decision = l.decision

/-- The row of a pre-execution record. -/
def OperationRow.IsPreExec (r : OperationRow) : Prop := r.phase = some Phase.preExec.value

structure Ledger (db : Database) : Prop where
  decided : ∀ r ∈ db.operations, r.IsPreExec → ∃ l g, Decided db r l g
  noOrphan : ∀ l ∈ db.interventionLog, ∃ r ∈ db.operations,
    r.operationId = l.recordId ∧ r.IsPreExec

section Step

variable {db db' : Database}

/-- Tables that only gain rows without an effect on the log keep a decision. -/
theorem Decided.extend {r : OperationRow} {l : InterventionRow} {g : GovernanceVerdictRow}
    (h : Decided db r l g) {rows : List InterventionRow}
    (hLog : db'.interventionLog = db.interventionLog ++ rows)
    (hOther : ∀ l' ∈ rows, l'.recordId ≠ r.operationId)
    (hVerdict : g ∈ db'.governanceVerdicts) : Decided db' r l g := by
  refine { h with logged := ?_, stored := hVerdict }
  have hNone : rows.filter (fun l => l.recordId = r.operationId) = [] := by
    rw [List.filter_eq_nil_iff]
    intro l' hl'
    simpa using hOther l' hl'
  rw [hLog, List.filter_append, hNone, h.logged, List.append_nil]

/-- An operation of another kind is no concern of the ledger. -/
theorem Ledger.insertOther (h : Ledger db) {row : OperationRow} (hKind : ¬ row.IsPreExec)
    (hOps : db'.operations = db.operations ++ [row])
    (hVerdicts : db'.governanceVerdicts = db.governanceVerdicts)
    (hLog : db'.interventionLog = db.interventionLog) : Ledger db' := by
  constructor
  · intro r hr hPre
    rw [hOps, List.mem_append, List.mem_singleton] at hr
    rcases hr with hr | rfl
    · obtain ⟨l, g, hDecided⟩ := h.decided r hr hPre
      have hSame : db'.interventionLog = db.interventionLog ++ [] := by simp [hLog]
      refine ⟨l, g, hDecided.extend hSame (by simp) ?_⟩
      rw [hVerdicts]
      exact hDecided.stored
    · exact absurd hPre hKind
  · intro l hl
    rw [hLog] at hl
    obtain ⟨r, hr, hLink⟩ := h.noOrphan l hl
    refine ⟨r, ?_, hLink⟩
    rw [hOps]
    exact List.mem_append_left _ hr

/-- A change of the verdict table that keeps what the ledger reads of its rows: their ids,
their runs and their decisions. -/
theorem Ledger.changeVerdicts (h : Ledger db)
    (hOps : db'.operations = db.operations) (hLog : db'.interventionLog = db.interventionLog)
    (hVerdicts : ∀ g ∈ db.governanceVerdicts, ∃ g' ∈ db'.governanceVerdicts,
      g'.verdictId = g.verdictId ∧ g'.recordId = g.recordId ∧
        g'.correlationId = g.correlationId ∧ g'.runId = g.runId ∧ g'.decision = g.decision) :
    Ledger db' := by
  constructor
  · intro r hr hPre
    rw [hOps] at hr
    obtain ⟨l, g, hDecided⟩ := h.decided r hr hPre
    obtain ⟨g', hMem, hId, hRecord, hCorrelation, hRun, hDecision⟩ :=
      hVerdicts g hDecided.stored
    refine ⟨l, g', ?_⟩
    exact { logged := hLog ▸ hDecided.logged
            stored := hMem
            verdictId := hId.trans hDecided.verdictId
            recordId := ⟨hDecided.recordId.1, hRecord.trans hDecided.recordId.2⟩
            correlationId := ⟨hDecided.correlationId.1, hCorrelation ▸ hDecided.correlationId.2⟩
            runId := ⟨hDecided.runId.1, hRun.trans hDecided.runId.2⟩
            decision := hDecision.trans hDecided.decision }
  · intro l hl
    rw [hLog] at hl
    obtain ⟨r, hr, hLink⟩ := h.noOrphan l hl
    exact ⟨r, hOps ▸ hr, hLink⟩

/-- A decision adds its operation, its verdict and its log row, in one transaction, and all
three are about one record. -/
theorem Ledger.decide {prim : Primitives} (h : Ledger db) (rec : ShieldActionRecord)
    (verdict : GovernanceVerdict) (verdictKey chainHash : String) (seqNo receivedAt : Int)
    (hPhase : rec.phase = .preExec)
    (hTx : db.transaction
      (decideStatements prim rec verdict verdictKey chainHash seqNo receivedAt) = .ok db') :
    Ledger db' := by
  obtain ⟨hFresh, -, -, rfl⟩ := Database.transaction_decision hTx
  have hFreshId : ∀ r ∈ db.operations, r.operationId ≠ rec.recordId := hFresh
  -- the log has no row of a record that was not there
  have hUnlogged : db.interventionLog.filter (fun l => l.recordId = rec.recordId) = [] := by
    rw [List.filter_eq_nil_iff]
    intro l hl hSame
    obtain ⟨r, hr, hLink, -⟩ := h.noOrphan l hl
    exact hFreshId r hr (hLink.trans (by simpa using hSame))
  constructor
  · intro r hr hPre
    rcases List.mem_append.1 hr with hr | hr
    · obtain ⟨l, g, hDecided⟩ := h.decided r hr hPre
      refine ⟨l, g, hDecided.extend rfl ?_ (List.mem_append_left _ hDecided.stored)⟩
      intro l' hl' hSame
      obtain rfl := List.mem_singleton.1 hl'
      exact hFreshId r hr hSame.symm
    · obtain rfl := List.mem_singleton.1 hr
      refine ⟨interventionLogInsert rec verdict receivedAt,
        governanceVerdictInsert rec verdict verdictKey receivedAt, ?_⟩
      have hLogged : (db.interventionLog ++ [interventionLogInsert rec verdict receivedAt]).filter
          (fun l => l.recordId = rec.recordId) =
            [interventionLogInsert rec verdict receivedAt] := by
        rw [List.filter_append, hUnlogged]
        simp [interventionLogInsert]
      exact { logged := hLogged
              stored := List.mem_append_right _ List.mem_cons_self
              verdictId := rfl
              recordId := ⟨rfl, rfl⟩
              correlationId := ⟨rfl, rfl⟩
              runId := ⟨rfl, rfl⟩
              decision := rfl }
  · intro l hl
    rcases List.mem_append.1 hl with hl | hl
    · obtain ⟨r, hr, hLink⟩ := h.noOrphan l hl
      exact ⟨r, List.mem_append_left _ hr, hLink⟩
    · obtain rfl := List.mem_singleton.1 hl
      refine ⟨_, List.mem_append_right _ List.mem_cons_self, rfl, ?_⟩
      show some rec.phase.value = some Phase.preExec.value
      rw [hPhase]

end Step

theorem ledger_step {settings : Settings} {acts : ShieldActionRecord → Prop} {w w' : World}
    (h : Ledger w.db) (hStep : HandlerStep settings acts w w') : Ledger w'.db := by
  cases hStep with
  | rest => exact h
  | cache => exact h
  | store => exact h
  | submit rec receivedAt seqNo receiptId hTx =>
      obtain ⟨db, hDb, rfl⟩ := World.transaction_ok hTx
      obtain ⟨-, -, -, rfl⟩ := Database.transaction_receipt hDb
      exact h.insertOther (fun hPre => by cases hPre) rfl rfl rfl
  | decide rec verdict verdictKey chainHash seqNo receivedAt _ hPhase hTx =>
      obtain ⟨db, hDb, rfl⟩ := World.transaction_ok hTx
      exact h.decide rec verdict verdictKey chainHash seqNo receivedAt hPhase hDb
  | record rec chainHash seqNo receivedAt _ hPhase hTx =>
      obtain ⟨db, hDb, rfl⟩ := World.transaction_ok hTx
      obtain ⟨-, -, rfl⟩ := Database.transaction_operation hDb
      refine h.insertOther (fun hPre => ?_) rfl rfl rfl
      have hValue : some rec.phase.value = some Phase.preExec.value := hPre
      rw [hPhase] at hValue
      exact absurd hValue (by decide)
  | publish row hTx =>
      obtain ⟨db, hDb, rfl⟩ := World.transaction_ok hTx
      obtain ⟨-, rfl⟩ := Database.transaction_verdict hDb
      refine h.changeVerdicts rfl rfl fun g hg => ?_
      exact ⟨g, List.mem_append_left _ hg, rfl, rfl, rfl, rfl, rfl⟩
  | resolve decision resolvedAt incidentId =>
      refine h.changeVerdicts rfl rfl fun g hg => ⟨_, List.mem_map_of_mem hg, ?_⟩
      split <;> exact ⟨rfl, rfl, rfl, rfl, rfl⟩
  | setStatus agentId status =>
      exact h.changeVerdicts rfl rfl fun g hg => ⟨g, hg, rfl, rfl, rfl, rfl, rfl⟩
  | revokeKey kid =>
      exact h.changeVerdicts rfl rfl fun g hg => ⟨g, hg, rfl, rfl, rfl, rfl, rfl⟩

/-- **The verdict ledger is consistent** in every state of every run. -/
theorem verdict_ledger (settings : Settings) (now : Int) (agents : List Agent)
    (agentKeys : List AgentKey) (events : List (Event (platformService settings))) :
    Ledger (platformRun settings now agents agentKeys events).state.db :=
  platformRun_inv (I := fun w => Ledger w.db)
    (fun _ _ h hStep => by
      cases hStep with
      | handler hStep => exact ledger_step h hStep
      | tick ns => exact h)
    ⟨by simp [World.initial], by simp [World.initial]⟩ events

end AgentShield.Server
