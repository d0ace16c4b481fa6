import AgentShield.Server.Ledger
import AgentShield.Server.Provenance

/-!
# The decisions of the provenance graph

The gate issues one verdict for every intent, and logs it (`Gated`).  The graph finds the
decision of an intent under its correlation id, where it keeps the last verdict that is
returned: a late verdict, or the verdict of another record, takes the place of the gate's.
An intent shows the gate's decision, in whatever order the verdicts are returned, exactly
when all verdicts of its run and its correlation id agree with the gate
(`provenance_decision_iff`).
-/

namespace AgentShield.Server

open AgentShield.Lib AgentShield.Lib.Async AgentShield.Sdk

/-! ## The gate's verdicts -/

/-- A verdict that the gate has logged: late verdicts are not. -/
def IsLogged (db : Database) (v : GovernanceVerdictRow) : Prop :=
  ∃ i ∈ db.interventionLog, i.verdictId = v.verdictId

/-- The verdict is the gate's verdict on the record. -/
structure GateVerdict (db : Database) (recordId : String) (v : GovernanceVerdictRow) : Prop where
  stored : v ∈ db.governanceVerdicts
  record : v.recordId = recordId
  logged : IsLogged db v

/-- The verdict is about the record of the row. -/
structure About (v : GovernanceVerdictRow) (o : OperationRow) : Prop where
  orgId : v.orgId = o.orgId
  runId : v.runId = o.runId
  correlationId : o.correlationId = some v.correlationId

/-- The gate has issued one verdict for every intent, and logs no other verdicts.  The
invariant of the server's tables behind the exports and the dashboard. -/
structure Gated (db : Database) : Prop where
  logged : ∀ i ∈ db.interventionLog, ∃ v ∈ db.governanceVerdicts, v.verdictId = i.verdictId
  operation : ∀ id v, GateVerdict db id v → ∃ o ∈ db.operations, o.operationId = id
  once : ∀ id v v', GateVerdict db id v → GateVerdict db id v' → v = v'
  issued : ∀ o ∈ db.operations, o.IsPreExec →
    ∃ v, GateVerdict db o.operationId v ∧ About v o

section Step

variable {db db' : Database}

/-- A change that adds no intent and no gate verdict. -/
theorem Gated.quiet (h : Gated db)
    (hLogged : ∀ i ∈ db'.interventionLog, ∃ v ∈ db'.governanceVerdicts, v.verdictId = i.verdictId)
    (hVerdicts : ∀ id v, GateVerdict db' id v ↔ GateVerdict db id v)
    (hOld : ∀ o ∈ db.operations, o ∈ db'.operations)
    (hIntents : ∀ o ∈ db'.operations, o.IsPreExec → o ∈ db.operations) : Gated db' := by
  constructor
  · exact hLogged
  · intro id v hv
    obtain ⟨o, ho, hId⟩ := h.operation id v ((hVerdicts id v).1 hv)
    exact ⟨o, hOld o ho, hId⟩
  · intro id v v' hv hv'
    exact h.once id v v' ((hVerdicts id v).1 hv) ((hVerdicts id v').1 hv')
  · intro o ho hPre
    obtain ⟨v, hv, hAbout⟩ := h.issued o (hIntents o ho hPre) hPre
    exact ⟨v, (hVerdicts _ v).2 hv, hAbout⟩

/-- A change of the operations alone, without a new intent. -/
theorem Gated.sameVerdicts (h : Gated db)
    (hVerdicts : db'.governanceVerdicts = db.governanceVerdicts)
    (hLog : db'.interventionLog = db.interventionLog)
    (hOld : ∀ o ∈ db.operations, o ∈ db'.operations)
    (hIntents : ∀ o ∈ db'.operations, o.IsPreExec → o ∈ db.operations) : Gated db' := by
  apply h.quiet _ _ hOld hIntents
  · rw [hLog, hVerdicts]
    exact h.logged
  · intro id v
    constructor
    · rintro ⟨hStored, hRecord, i, hi, hSame⟩
      exact ⟨hVerdicts ▸ hStored, hRecord, i, hLog ▸ hi, hSame⟩
    · rintro ⟨hStored, hRecord, i, hi, hSame⟩
      exact ⟨hVerdicts ▸ hStored, hRecord, i, hLog ▸ hi, hSame⟩

/-- An operation that is no intent. -/
theorem Gated.insertOther (h : Gated db) {row : OperationRow} (hKind : ¬ row.IsPreExec)
    (hOps : db'.operations = db.operations ++ [row])
    (hVerdicts : db'.governanceVerdicts = db.governanceVerdicts)
    (hLog : db'.interventionLog = db.interventionLog) : Gated db' := by
  apply h.sameVerdicts hVerdicts hLog
  · intro o ho
    rw [hOps]
    exact List.mem_append_left _ ho
  · intro o ho hPre
    rw [hOps, List.mem_append, List.mem_singleton] at ho
    rcases ho with ho | rfl
    · exact ho
    · exact absurd hPre hKind

/-- A late verdict has an id that is not logged, and so it is nobody's verdict of the gate. -/
theorem Gated.publish (h : Gated db) {row : GovernanceVerdictRow}
    (hNew : ∀ v ∈ db.governanceVerdicts, v.verdictId ≠ row.verdictId)
    (hOps : db'.operations = db.operations)
    (hVerdicts : db'.governanceVerdicts = db.governanceVerdicts ++ [row])
    (hLog : db'.interventionLog = db.interventionLog) : Gated db' := by
  have hUnlogged : ¬ IsLogged db row := by
    rintro ⟨i, hi, hSame⟩
    obtain ⟨v, hv, hId⟩ := h.logged i hi
    exact hNew v hv (hId.trans hSame)
  refine h.quiet ?_ ?_ (fun o ho => hOps ▸ ho) (fun o ho _ => hOps ▸ ho)
  · intro i hi
    obtain ⟨v, hv, hId⟩ := h.logged i (hLog ▸ hi)
    refine ⟨v, ?_, hId⟩
    rw [hVerdicts]
    exact List.mem_append_left _ hv
  · intro id v
    constructor
    · rintro ⟨hStored, hRecord, i, hi, hSame⟩
      have hLogged : IsLogged db v := ⟨i, hLog ▸ hi, hSame⟩
      rw [hVerdicts, List.mem_append, List.mem_singleton] at hStored
      rcases hStored with hStored | rfl
      · exact ⟨hStored, hRecord, hLogged⟩
      · exact absurd hLogged hUnlogged
    · rintro ⟨hStored, hRecord, i, hi, hSame⟩
      refine ⟨?_, hRecord, i, hLog ▸ hi, hSame⟩
      rw [hVerdicts]
      exact List.mem_append_left _ hStored

/-- A decision adds its intent and the gate's verdict on it, in one transaction; ids are
unique, so that no older intent gets a second verdict. -/
theorem Gated.decide {prim : Primitives} (h : Gated db) (rec : ShieldActionRecord)
    (verdict : GovernanceVerdict) (verdictKey chainHash : String) (seqNo receivedAt : Int)
    (hTx : db.transaction
      (decideStatements prim rec verdict verdictKey chainHash seqNo receivedAt) = .ok db') :
    Gated db' := by
  obtain ⟨hFresh, -, hNew, rfl⟩ := Database.transaction_decision hTx
  have hFreshId : ∀ r ∈ db.operations, r.operationId ≠ rec.recordId := hFresh
  have hNewId : ∀ v ∈ db.governanceVerdicts, v.verdictId ≠ verdict.verdictId := hNew
  -- the gate's verdicts are the old ones, and the new one on the new record
  have hCases : ∀ id v, GateVerdict
      { db with
        operations := db.operations ++ [operationsInsert prim rec seqNo chainHash receivedAt]
        governanceVerdicts :=
          db.governanceVerdicts ++ [governanceVerdictInsert rec verdict verdictKey receivedAt]
        interventionLog := db.interventionLog ++ [interventionLogInsert rec verdict receivedAt] }
      id v →
        GateVerdict db id v ∨
          v = governanceVerdictInsert rec verdict verdictKey receivedAt ∧ id = rec.recordId := by
    rintro id v ⟨hStored, hRecord, i, hi, hSame⟩
    rcases List.mem_append.1 hStored with hStored | hStored
    · rcases List.mem_append.1 hi with hi | hi
      · exact .inl ⟨hStored, hRecord, i, hi, hSame⟩
      · obtain rfl := List.mem_singleton.1 hi
        exact absurd hSame.symm (hNewId v hStored)
    · obtain rfl := List.mem_singleton.1 hStored
      exact .inr ⟨rfl, hRecord.symm⟩
  have hOldNot : ∀ v, ¬ GateVerdict db rec.recordId v := by
    intro v hv
    obtain ⟨o, ho, hId⟩ := h.operation _ v hv
    exact hFreshId o ho hId
  constructor
  · intro i hi
    rcases List.mem_append.1 hi with hi | hi
    · obtain ⟨v, hv, hId⟩ := h.logged i hi
      exact ⟨v, List.mem_append_left _ hv, hId⟩
    · obtain rfl := List.mem_singleton.1 hi
      exact ⟨_, List.mem_append_right _ List.mem_cons_self, rfl⟩
  · intro id v hv
    rcases hCases id v hv with hOld | ⟨-, rfl⟩
    · obtain ⟨o, ho, hId⟩ := h.operation id v hOld
      exact ⟨o, List.mem_append_left _ ho, hId⟩
    · exact ⟨_, List.mem_append_right _ List.mem_cons_self, rfl⟩
  · intro id v v' hv hv'
    rcases hCases id v hv with hOld | ⟨rfl, rfl⟩
    · rcases hCases id v' hv' with hOld' | ⟨-, rfl⟩
      · exact h.once id v v' hOld hOld'
      · exact absurd hOld (hOldNot v)
    · rcases hCases _ v' hv' with hOld' | ⟨rfl, -⟩
      · exact absurd hOld' (hOldNot v')
      · rfl
  · intro o ho hPre
    rcases List.mem_append.1 ho with ho | ho
    · obtain ⟨v, ⟨hStored, hRecord, i, hi, hSame⟩, hAbout⟩ := h.issued o ho hPre
      exact ⟨v, ⟨List.mem_append_left _ hStored, hRecord, i, List.mem_append_left _ hi, hSame⟩,
        hAbout⟩
    · obtain rfl := List.mem_singleton.1 ho
      refine ⟨governanceVerdictInsert rec verdict verdictKey receivedAt, ⟨?_, rfl, ?_⟩,
        ⟨rfl, rfl, rfl⟩⟩
      · exact List.mem_append_right _ List.mem_cons_self
      · exact ⟨_, List.mem_append_right _ List.mem_cons_self, rfl⟩

/-- A resolved incident keeps what it is about: the resolution and its time are the only
columns that change. -/
theorem Gated.resolve (h : Gated db) (decision : String) (resolvedAt : Int)
    (incidentId : String) : Gated { db with
      governanceVerdicts := resolveRows decision resolvedAt incidentId db.governanceVerdicts } := by
  have hRow : ∀ v : GovernanceVerdictRow,
      (if v.verdictId = incidentId then v.resolved decision resolvedAt else v).verdictId =
          v.verdictId ∧
        (if v.verdictId = incidentId then v.resolved decision resolvedAt else v).recordId =
          v.recordId := by
    intro v
    split <;> exact ⟨rfl, rfl⟩
  have hCases : ∀ id v, GateVerdict { db with
      governanceVerdicts :=
        resolveRows decision resolvedAt incidentId db.governanceVerdicts } id v →
        ∃ old, GateVerdict db id old ∧
          v = if old.verdictId = incidentId then old.resolved decision resolvedAt else old := by
    rintro id v ⟨hStored, hRecord, i, hi, hSame⟩
    obtain ⟨old, hOld, rfl⟩ := List.mem_map.1 hStored
    exact ⟨old, ⟨hOld, (hRow old).2.symm.trans hRecord, i, hi, hSame.trans (hRow old).1⟩, rfl⟩
  constructor
  · intro i hi
    obtain ⟨v, hv, hId⟩ := h.logged i hi
    exact ⟨_, List.mem_map_of_mem hv, (hRow v).1.trans hId⟩
  · intro id v hv
    obtain ⟨old, hOld, -⟩ := hCases id v hv
    exact h.operation id old hOld
  · intro id v v' hv hv'
    obtain ⟨old, hOld, rfl⟩ := hCases id v hv
    obtain ⟨old', hOld', rfl⟩ := hCases id v' hv'
    rw [h.once id old old' hOld hOld']
  · intro o ho hPre
    obtain ⟨v, ⟨hStored, hRecord, i, hi, hSame⟩, hAbout⟩ := h.issued o ho hPre
    refine ⟨_, ⟨List.mem_map_of_mem hStored, (hRow v).2.trans hRecord, i, hi,
      hSame.trans (hRow v).1.symm⟩, ?_⟩
    split
    · exact ⟨hAbout.orgId, hAbout.runId, hAbout.correlationId⟩
    · exact hAbout

end Step

/-- **One step of the tables.** -/
theorem TableStep.gated {settings : Settings} {db db' : Database}
    (hStep : TableStep settings db db') (h : Gated db) : Gated db' := by
  cases hStep with
  | same hOperations hVerdicts hLog =>
      exact h.sameVerdicts hVerdicts hLog (fun o ho => hOperations ▸ ho)
        fun o ho _ => hOperations ▸ ho
  | insert hInserts hTx =>
      cases hInserts with
      | submit rec receivedAt seqNo receiptId =>
          obtain ⟨-, -, -, rfl⟩ := Database.transaction_receipt hTx
          exact h.insertOther (fun hPre => by cases hPre) rfl rfl rfl
      | decide rec decided latencyMs chainHash seqNo receivedAt servedAt hPhase =>
          exact h.decide rec _ _ chainHash seqNo receivedAt hTx
      | record rec chainHash seqNo receivedAt hPhase =>
          obtain ⟨-, -, rfl⟩ := Database.transaction_operation hTx
          refine h.insertOther (fun hPre => ?_) rfl rfl rfl
          have hValue : some rec.phase.value = some Phase.preExec.value := hPre
          rw [hPhase] at hValue
          exact absurd hValue (by decide)
      | publish rec verdict latencyMs servedAt createdAt =>
          obtain ⟨hNew, rfl⟩ := Database.transaction_verdict hTx
          exact h.publish hNew rfl rfl rfl
  | resolve decision resolvedAt incidentId => exact h.resolve decision resolvedAt incidentId

/-- The gate's verdicts in every state of every run. -/
theorem platformRun_gated (settings : Settings) (now : Int) (agents : List Agent)
    (agentKeys : List AgentKey) (events : List (Event (platformService settings))) :
    Gated (platformRun settings now agents agentKeys events).state.db :=
  platformRun_tables (fun _ _ h hStep => hStep.gated h)
    ⟨fun _ hi => (nomatch hi), fun _ _ hv => (nomatch hv.stored),
      fun _ _ _ hv => (nomatch hv.stored), fun _ ho => (nomatch ho)⟩ events

/-! ## The decision that is shown -/

/-- The same store with its verdict rows in another order. -/
def World.withVerdicts (w : World) (rows : List GovernanceVerdictRow) : World :=
  { w with db := { w.db with governanceVerdicts := rows } }

/-- In whatever order the verdict rows are returned, the nodes of the record show the
decision. -/
def Shows (orgId runId : String) (w : World) (recordId decision : String) : Prop :=
  ∀ rows, rows.Perm w.db.governanceVerdicts →
    ∀ g, (run (Reads.provenance orgId runId) (w.withVerdicts rows)).2 = .ok g →
      ∀ node ∈ g.nodes, node.recordId = recordId → node.decision = some decision

/-- All verdicts of the run under the correlation id of the row have the decision. -/
def VerdictsAgree (orgId runId : String) (db : Database) (o : OperationRow) (decision : String) :
    Prop :=
  ∀ v ∈ Reads.scopedVerdicts orgId runId db.governanceVerdicts,
    o.correlationId = some v.correlationId → v.decision = decision

/-- Verdicts that are all alike agree. -/
theorem verdictsAgree_of_all {orgId runId : String} {db : Database} {o : OperationRow}
    {decision : String} (h : ∀ v ∈ db.governanceVerdicts, v.decision = decision) :
    VerdictsAgree orgId runId db o decision := by
  intro v hv _
  exact h v (List.mem_of_mem_filter hv)

/-- The nodes of a record show what its row finds under its correlation id. -/
theorem shows_iff {orgId runId : String} {w : World}
    (hIds : (w.db.operations.map OperationRow.operationId).Nodup) {o : OperationRow}
    (ho : o ∈ Reads.scopedOperations orgId runId w.db.operations) (hPre : o.IsPreExec)
    {decision : String} :
    Shows orgId runId w o.operationId decision ↔
      ∀ rows, rows.Perm w.db.governanceVerdicts →
        Dict.get? (Reads.decisionByCorr (Reads.scopedVerdicts orgId runId rows))
          (Reads.strOf o.correlationId) = some decision := by
  have hNode : ∀ decisions : Dict String String, (Reads.provenanceNode decisions o).decision =
      Dict.get? decisions (Reads.strOf o.correlationId) := fun _ => if_pos hPre
  constructor
  · intro h rows hPerm
    rw [← hNode]
    exact h rows hPerm _ (run_provenance orgId runId _) _ (List.mem_map_of_mem ho) rfl
  · intro h rows hPerm g hg node hn hId
    rw [run_provenance] at hg
    rw [← Except.ok.inj hg] at hn
    obtain ⟨o', ho', rfl⟩ := List.mem_map.1 hn
    have hMem := List.mem_of_mem_filter ho
    obtain rfl := List.inj_on_of_nodup_map hIds (List.mem_of_mem_filter ho') hMem hId
    rw [hNode]
    exact h rows hPerm

/-- A node that shows another decision with the rows as they are. -/
theorem not_shows {orgId runId : String} {w : World} {recordId decision : String}
    {node : Reads.ProvenanceNode}
    (hNode : node ∈ (Reads.provenanceGraph runId
      (Reads.scopedOperations orgId runId w.db.operations)
      (Reads.scopedVerdicts orgId runId w.db.governanceVerdicts)).nodes)
    (hId : node.recordId = recordId) (hOther : node.decision ≠ some decision) :
    ¬ Shows orgId runId w recordId decision := by
  intro h
  exact hOther (h w.db.governanceVerdicts (List.Perm.refl _) _ (run_provenance orgId runId _)
    node hNode hId)

/-- **The decisions of the graph.**  In every state of every run the gate has issued one
verdict for an intent, and the graph shows its decision, in whatever order the verdict rows
are returned, exactly when all verdicts of the run under its correlation id have that
decision. -/
theorem provenance_decision_iff (settings : Settings) (now : Int) (agents : List Agent)
    (agentKeys : List AgentKey) (events : List (Event (platformService settings)))
    (orgId runId : String) {o : OperationRow}
    (ho : o ∈ runRows settings now agents agentKeys orgId runId events) (hPre : o.IsPreExec) :
    ∃ v, GateVerdict (platformRun settings now agents agentKeys events).state.db o.operationId v ∧
      (∀ v', GateVerdict (platformRun settings now agents agentKeys events).state.db
        o.operationId v' → v' = v) ∧
      (Shows orgId runId (platformRun settings now agents agentKeys events).state o.operationId
          v.decision ↔
        VerdictsAgree orgId runId (platformRun settings now agents agentKeys events).state.db o
          v.decision) := by
  have hGated := platformRun_gated settings now agents agentKeys events
  have hIds := (platformRun_keyed settings now agents agentKeys events).operations
  have hScope := List.mem_filter.1 ho
  have hOwn := of_decide_eq_true hScope.2
  obtain ⟨v, hv, hAbout⟩ := hGated.issued o hScope.1 hPre
  refine ⟨v, hv, fun v' hv' => hGated.once _ v' v hv' hv, ?_⟩
  rw [shows_iff hIds ho hPre]
  have hCorrelation : Reads.strOf o.correlationId = v.correlationId := by
    rw [hAbout.correlationId]
    rfl
  have hOrders := Dict.get?_foldl_set_orders GovernanceVerdictRow.correlationId
    GovernanceVerdictRow.decision (fun r => r.orgId = orgId ∧ r.runId = some runId)
    (platformRun settings now agents agentKeys events).state.db.governanceVerdicts
    (Reads.strOf o.correlationId) v.decision
  refine hOrders.trans ⟨?_, ?_⟩
  · rintro ⟨-, hAll⟩ r hr hSame
    have hMem := List.mem_filter.1 hr
    refine hAll r hMem.1 hMem.2 ?_
    rw [hSame]
    rfl
  · intro hAgree
    have hKept : decide (v.orgId = orgId ∧ v.runId = some runId) = true :=
      decide_eq_true ⟨hAbout.orgId.trans hOwn.1, hAbout.runId.trans hOwn.2⟩
    refine ⟨⟨v, hv.stored, hKept, hCorrelation.symm⟩, ?_⟩
    intro r hr hKeep hKey
    refine hAgree r (List.mem_filter.2 ⟨hr, hKeep⟩) ?_
    rw [hAbout.correlationId, ← hCorrelation, hKey]

namespace Sample

/-- A governance app that blocks every record. -/
def refusing (verdictId : String) : GovernanceApp := fun rec =>
  .ok { verdictId := verdictId, correlationId := rec.correlationId, decision := .block,
        riskScore := .finite 1 }

/-- A late verdict that finds nothing. -/
def nothingFound : GovernanceVerdict where
  verdictId := "v2"
  correlationId := "c"
  decision := .pass
  riskScore := .finite 0

/-- An action is blocked, and the late verdict on it passes it. -/
def blockedThenPassed : List (Event (platformService settings)) :=
  toEnd (.decide firstIntent (refusing "v1") (.finite 1)) 0 ++
    .request (.publish firstIntent nothingFound [] (.finite 1)) ::
      List.replicate 10 (.resume 1 .none)

end Sample

/-- **The blocked action is shown as passed.** -/
theorem blocked_intent_shown_as_passed :
    ¬ ∀ v, GateVerdict (platformRun Sample.settings 1 Sample.agents Sample.agentKeys
        Sample.blockedThenPassed).state.db "r1" v →
      Shows "o" "r" (platformRun Sample.settings 1 Sample.agents Sample.agentKeys
        Sample.blockedThenPassed).state "r1" v.decision := by
  intro h
  have hGate : ∃ v ∈ (platformRun Sample.settings 1 Sample.agents Sample.agentKeys
        Sample.blockedThenPassed).state.db.governanceVerdicts, v.recordId = "r1" ∧
      (∃ i ∈ (platformRun Sample.settings 1 Sample.agents Sample.agentKeys
        Sample.blockedThenPassed).state.db.interventionLog, i.verdictId = v.verdictId) ∧
      v.decision = Decision.block.value := by decide +kernel
  have hNode : ∃ node ∈ (Reads.provenanceGraph "r"
      (Reads.scopedOperations "o" "r" (platformRun Sample.settings 1 Sample.agents
        Sample.agentKeys Sample.blockedThenPassed).state.db.operations)
      (Reads.scopedVerdicts "o" "r" (platformRun Sample.settings 1 Sample.agents
        Sample.agentKeys Sample.blockedThenPassed).state.db.governanceVerdicts)).nodes,
      node.recordId = "r1" ∧ node.decision = some Decision.pass.value := by decide +kernel
  obtain ⟨v, hStored, hRecord, hLogged, hBlock⟩ := hGate
  obtain ⟨node, hMem, hId, hPass⟩ := hNode
  have hOther : node.decision ≠ some v.decision := by
    rw [hPass, hBlock]
    decide
  exact not_shows hMem hId hOther (h v (GateVerdict.mk hStored hRecord hLogged))

/-- The only verdict on an action is shown. -/
theorem provenance_decision_sample :
    ∃ v, GateVerdict (platformRun Sample.settings 1 Sample.agents Sample.agentKeys
        Sample.intentThenOutcome).state.db "r1" v ∧
      Shows "o" "r" (platformRun Sample.settings 1 Sample.agents Sample.agentKeys
        Sample.intentThenOutcome).state "r1" v.decision := by
  have hRow : ∃ o ∈ runRows Sample.settings 1 Sample.agents Sample.agentKeys "o" "r"
      Sample.intentThenOutcome, o.phase = some Phase.preExec.value ∧ o.operationId = "r1" := by
    decide +kernel
  have hOne : ∀ v ∈ (platformRun Sample.settings 1 Sample.agents Sample.agentKeys
        Sample.intentThenOutcome).state.db.governanceVerdicts,
      ∀ v' ∈ (platformRun Sample.settings 1 Sample.agents Sample.agentKeys
        Sample.intentThenOutcome).state.db.governanceVerdicts, v'.decision = v.decision := by
    decide +kernel
  obtain ⟨o, ho, hPre, hId⟩ := hRow
  obtain ⟨v, hGate, -, hShows⟩ := provenance_decision_iff Sample.settings 1 Sample.agents
    Sample.agentKeys Sample.intentThenOutcome "o" "r" ho hPre
  rw [hId] at hGate hShows
  exact ⟨v, hGate, hShows.2 (verdictsAgree_of_all (hOne v hGate.stored))⟩

end AgentShield.Server
