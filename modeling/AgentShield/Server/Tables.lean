import AgentShield.Server.Resolution

/-!
# What the requests do to the tables

A step of a handler leaves the rows as they are, adds the rows of one submission, decision,
record or late verdict, or resolves an incident (`RequestStep.tableStep`).  What these keep
holds of the tables in every state of every run (`platformRun_tables`); the primary keys
are the first example.
-/

namespace AgentShield.Server

open AgentShield.Lib AgentShield.Lib.Async AgentShield.Sdk

/-! ## One step -/

/-- The statements of a transaction of a handler, one case for each route that inserts records
or verdicts. -/
inductive Inserts (settings : Settings) : List Statement → Prop
  | submit (rec : OperationRecord) (receivedAt seqNo : Int) (receiptId : String) :
      Inserts settings
        [.insertOperation (operationRow settings.prim.toFloatText (shieldSdkCrypto settings.prim)
            rec receivedAt seqNo),
         .insertReceipt (receiptRow rec receivedAt receiptId)]
  | decide (rec : ShieldActionRecord) (decided : GovernanceVerdict) (latencyMs : PyFloat)
      (chainHash : String) (seqNo receivedAt servedAt : Int) (hPhase : rec.phase = .preExec) :
      Inserts settings
        (decideStatements settings.prim rec
          (serveVerdict settings.prim settings.serverSigningKey rec decided servedAt latencyMs)
          (verdictObjectKey rec.orgId rec.agentId decided.verdictId) chainHash seqNo receivedAt)
  | record (rec : ShieldActionRecord) (chainHash : String) (seqNo receivedAt : Int)
      (hPhase : rec.phase = .postExec) :
      Inserts settings
        [.insertOperation (operationsInsert settings.prim rec seqNo chainHash receivedAt)]
  | publish (rec : ShieldActionRecord) (verdict : GovernanceVerdict) (latencyMs : PyFloat)
      (servedAt createdAt : Int) :
      Inserts settings
        [.insertGovernanceVerdict (governanceVerdictInsert rec
          (serveVerdict settings.prim settings.serverSigningKey rec verdict servedAt latencyMs)
          (verdictObjectKey rec.orgId rec.agentId verdict.verdictId) createdAt)]

/-- What a step of a handler does to the tables of the records: nothing, the inserts of one
transaction, or the resolution of one incident. -/
inductive TableStep (settings : Settings) : Database → Database → Prop
  | same {db db' : Database} (hOperations : db'.operations = db.operations)
      (hVerdicts : db'.governanceVerdicts = db.governanceVerdicts)
      (hLog : db'.interventionLog = db.interventionLog) : TableStep settings db db'
  | insert {db db' : Database} {sts : List Statement} (hInserts : Inserts settings sts)
      (hTx : db.transaction sts = .ok db') : TableStep settings db db'
  | resolve (db : Database) (decision : String) (resolvedAt : Int) (incidentId : String) :
      TableStep settings db
        { db with
          governanceVerdicts := resolveRows decision resolvedAt incidentId db.governanceVerdicts }

section Steps

variable {settings : Settings} {w w' : World} {db db' : Database}

theorem RequestStep.tableStep {req : PlatformRequest} (h : RequestStep settings req w w') :
    TableStep settings w.db w'.db := by
  have hTransaction : ∀ {sts : List Statement}, Inserts settings sts →
      w.transaction sts = .ok w' → TableStep settings w.db w'.db := by
    intro sts hInserts hTx
    obtain ⟨db, hDb, rfl⟩ := World.transaction_ok hTx
    exact .insert hInserts hDb
  cases h with
  | submit rec receiptId receivedAt seqNo hTx =>
      exact hTransaction (.submit rec receivedAt seqNo receiptId) hTx
  | decide rec govApp latencyMs decided chainHash seqNo receivedAt servedAt hAnswer hPhase hTx =>
      exact hTransaction
        (.decide rec decided latencyMs chainHash seqNo receivedAt servedAt hPhase) hTx
  | record rec chainHash seqNo receivedAt hPhase hTx =>
      exact hTransaction (.record rec chainHash seqNo receivedAt hPhase) hTx
  | publish rec verdict guardianEvidence latencyMs servedAt createdAt hTx =>
      exact hTransaction (.publish rec verdict latencyMs servedAt createdAt) hTx
  | resolve _ govApp incidentId decision payload orgId latencyMs resolvedAt =>
      exact .resolve w.db decision resolvedAt incidentId
  | _ => exact .same rfl rfl rfl

/-- An inserted operation is a submission's or an action record's. -/
theorem Inserts.operation {sts : List Statement} (h : Inserts settings sts) {r : OperationRow}
    (hr : r ∈ sts.filterMap Statement.operation?) :
    (∃ rec receivedAt seqNo, r = operationRow settings.prim.toFloatText
        (shieldSdkCrypto settings.prim) rec receivedAt seqNo) ∨
      ∃ rec chainHash seqNo receivedAt,
        r = operationsInsert settings.prim rec seqNo chainHash receivedAt := by
  cases h with
  | submit rec receivedAt seqNo receiptId =>
      exact .inl ⟨rec, receivedAt, seqNo, List.mem_singleton.1 hr⟩
  | decide rec decided latencyMs chainHash seqNo receivedAt servedAt hPhase =>
      exact .inr ⟨rec, chainHash, seqNo, receivedAt, List.mem_singleton.1 hr⟩
  | record rec chainHash seqNo receivedAt hPhase =>
      exact .inr ⟨rec, chainHash, seqNo, receivedAt, List.mem_singleton.1 hr⟩
  | publish => cases hr

/-- An inserted verdict is a decision's or a late one. -/
theorem Inserts.governanceVerdict {sts : List Statement} (h : Inserts settings sts)
    {v : GovernanceVerdictRow} (hv : v ∈ sts.filterMap Statement.governanceVerdict?) :
    ∃ rec decided latencyMs servedAt createdAt,
      v = governanceVerdictInsert rec
        (serveVerdict settings.prim settings.serverSigningKey rec decided servedAt latencyMs)
        (verdictObjectKey rec.orgId rec.agentId decided.verdictId) createdAt := by
  cases h with
  | submit => cases hv
  | decide rec decided latencyMs chainHash seqNo receivedAt servedAt hPhase =>
      exact ⟨rec, decided, latencyMs, servedAt, receivedAt, List.mem_singleton.1 hv⟩
  | record => cases hv
  | publish rec verdict latencyMs servedAt createdAt =>
      exact ⟨rec, verdict, latencyMs, servedAt, createdAt, List.mem_singleton.1 hv⟩

/-- Operations are only added. -/
theorem TableStep.operations (h : TableStep settings db db') :
    db'.operations = db.operations ∨ ∃ sts, Inserts settings sts ∧
      db'.operations = db.operations ++ sts.filterMap Statement.operation? := by
  cases h with
  | same hOperations _ _ => exact .inl hOperations
  | insert hInserts hTx => exact .inr ⟨_, hInserts, Database.transaction_operations hTx⟩
  | resolve => exact .inl rfl

/-- Verdicts are added or resolved. -/
theorem TableStep.governanceVerdicts (h : TableStep settings db db') :
    db'.governanceVerdicts = db.governanceVerdicts ∨
      (∃ sts, Inserts settings sts ∧ db'.governanceVerdicts =
        db.governanceVerdicts ++ sts.filterMap Statement.governanceVerdict?) ∨
      ∃ decision resolvedAt incidentId, db'.governanceVerdicts =
        resolveRows decision resolvedAt incidentId db.governanceVerdicts := by
  cases h with
  | same _ hVerdicts _ => exact .inl hVerdicts
  | insert hInserts hTx =>
      exact .inr (.inl ⟨_, hInserts, (Database.transaction_governanceVerdicts hTx).1⟩)
  | resolve decision resolvedAt incidentId =>
      exact .inr (.inr ⟨decision, resolvedAt, incidentId, rfl⟩)

/-- **What the steps keep holds of the tables in every state of every run.** -/
theorem platformRun_tables {P : Database → Prop}
    (hKeep : ∀ db db', P db → TableStep settings db db' → P db') {now : Int}
    {agents : List Agent} {agentKeys : List AgentKey}
    (h0 : P (World.initial now agents agentKeys).db)
    (events : List (Event (platformService settings))) :
    P (platformRun settings now agents agentKeys events).state.db := by
  have hReqs : ∀ r, Steps (fun w : World => P w.db) (RequestStep settings r) (fun _ => True)
      (platform settings r) := fun r => (platform_requestSteps r).weaken fun _ _ => trivial
  have hStart : ∀ t ∈ (Pool.start (World.initial now agents agentKeys) :
      Pool (platformService settings)).threads,
      Steps (fun w : World => P w.db) (RequestStep settings t.1) (fun _ => True) t.2 := by
    intro t ht
    cases ht
  exact (Pool.run_requests (P := fun w : World => P w.db) (G := RequestStep settings)
    (fun r w w' hP hStep => hKeep _ _ hP hStep.tableStep) (fun _ _ hP => hP) hReqs hStart h0
    events).1

end Steps

/-! ## Primary keys -/

/-- The primary keys of the tables. -/
structure Database.Keyed (db : Database) : Prop where
  operations : (db.operations.map OperationRow.operationId).Nodup
  verdicts : (db.governanceVerdicts.map GovernanceVerdictRow.verdictId).Nodup
  log : (db.interventionLog.map InterventionRow.verdictId).Nodup

/-- A row with a new key. -/
theorem nodup_map_append {α β : Type} {f : α → β} {rows : List α} {row : α}
    (h : (rows.map f).Nodup) (hNew : ∀ r ∈ rows, f r ≠ f row) :
    ((rows ++ [row]).map f).Nodup := by
  rw [List.map_append, List.nodup_append]
  refine ⟨h, List.nodup_singleton _, fun i hi j hj hSame => ?_⟩
  obtain ⟨r, hr, rfl⟩ := List.mem_map.1 hi
  obtain rfl := List.mem_singleton.1 hj
  exact hNew r hr hSame

theorem Database.execute_insertInterventionLog_new {db db' : Database} {row : InterventionRow}
    (h : db.execute (.insertInterventionLog row) = .ok db') :
    ∀ r ∈ db.interventionLog, r.verdictId ≠ row.verdictId := by
  intro r hr hSame
  have hTaken : ∃ r ∈ db.interventionLog, r.verdictId = row.verdictId := ⟨r, hr, hSame⟩
  rw [execute, if_pos hTaken] at h
  cases h

/-- An insert that is not refused keeps the primary keys. -/
theorem Database.Keyed.execute {db db' : Database} {st : Statement} (h : db.Keyed)
    (hExecute : db.execute st = .ok db') : db'.Keyed := by
  cases st with
  | insertOperation row =>
      obtain ⟨hNew, -, rfl⟩ := execute_insertOperation hExecute
      exact ⟨nodup_map_append h.operations hNew, h.verdicts, h.log⟩
  | insertReceipt row =>
      obtain ⟨-, rfl⟩ := execute_insertReceipt hExecute
      exact ⟨h.operations, h.verdicts, h.log⟩
  | insertGovernanceVerdict row =>
      obtain ⟨hNew, rfl⟩ := execute_insertGovernanceVerdict hExecute
      exact ⟨h.operations, nodup_map_append h.verdicts hNew, h.log⟩
  | insertInterventionLog row =>
      have hNew := execute_insertInterventionLog_new hExecute
      obtain rfl := execute_insertInterventionLog hExecute
      exact ⟨h.operations, h.verdicts, nodup_map_append h.log hNew⟩

theorem Database.Keyed.transaction {db db' : Database} {sts : List Statement} (h : db.Keyed)
    (hTx : db.transaction sts = .ok db') : db'.Keyed := by
  induction sts generalizing db with
  | nil =>
      obtain rfl := transaction_nil hTx
      exact h
  | cons st sts ih =>
      obtain ⟨db₁, hFirst, hRest⟩ := transaction_cons hTx
      exact ih (h.execute hFirst) hRest

/-- Resolving an incident changes no row's column that it does not set. -/
theorem map_resolveRows {β : Type} {f : GovernanceVerdictRow → β} {decision : String}
    {resolvedAt : Int} {incidentId : String}
    (h : ∀ r, f (GovernanceVerdictRow.resolved decision resolvedAt r) = f r)
    (rows : List GovernanceVerdictRow) :
    (resolveRows decision resolvedAt incidentId rows).map f = rows.map f := by
  unfold resolveRows
  rw [List.map_map]
  refine List.map_congr_left fun r _ => ?_
  show f (if r.verdictId = incidentId then r.resolved decision resolvedAt else r) = f r
  by_cases hIncident : r.verdictId = incidentId
  · rw [if_pos hIncident, h]
  · rw [if_neg hIncident]

theorem TableStep.keyed {settings : Settings} {db db' : Database}
    (hStep : TableStep settings db db') (h : db.Keyed) : db'.Keyed := by
  cases hStep with
  | same hOperations hVerdicts hLog =>
      exact ⟨hOperations ▸ h.operations, hVerdicts ▸ h.verdicts, hLog ▸ h.log⟩
  | insert hInserts hTx => exact h.transaction hTx
  | resolve decision resolvedAt incidentId =>
      refine ⟨h.operations, ?_, h.log⟩
      show ((resolveRows decision resolvedAt incidentId _).map _).Nodup
      rw [map_resolveRows fun _ => rfl]
      exact h.verdicts

/-- The tables of every run have their primary keys. -/
theorem platformRun_keyed (settings : Settings) (now : Int) (agents : List Agent)
    (agentKeys : List AgentKey) (events : List (Event (platformService settings))) :
    (platformRun settings now agents agentKeys events).state.db.Keyed :=
  platformRun_tables (fun _ _ h hStep => hStep.keyed h)
    ⟨List.nodup_nil, List.nodup_nil, List.nodup_nil⟩ events

/-! ## The objects of the rows -/

/-- Every row names the object of its own record or verdict, under the key that is made of its
ids. -/
structure Database.NamesOwn (db : Database) : Prop where
  operations : ∀ r ∈ db.operations,
    r.r2PayloadKey = some (recordKey r.orgId r.agentId r.operationId)
  verdicts : ∀ v ∈ db.governanceVerdicts,
    v.r2VerdictKey = verdictObjectKey v.orgId v.agentId v.verdictId

theorem TableStep.namesOwn {settings : Settings} {db db' : Database}
    (hStep : TableStep settings db db') (h : db.NamesOwn) : db'.NamesOwn := by
  constructor
  · intro r hr
    rcases hStep.operations with hSame | ⟨sts, hInserts, hMore⟩
    · exact h.operations r (hSame ▸ hr)
    · rw [hMore, List.mem_append] at hr
      rcases hr with hr | hr
      · exact h.operations r hr
      · rcases hInserts.operation hr with ⟨rec, receivedAt, seqNo, rfl⟩ | ⟨rec, _, _, _, rfl⟩
        · rfl
        · rfl
  · intro v hv
    rcases hStep.governanceVerdicts with hSame | ⟨sts, hInserts, hMore⟩ |
      ⟨decision, resolvedAt, incidentId, hResolved⟩
    · exact h.verdicts v (hSame ▸ hv)
    · rw [hMore, List.mem_append] at hv
      rcases hv with hv | hv
      · exact h.verdicts v hv
      · obtain ⟨rec, decided, latencyMs, servedAt, createdAt, rfl⟩ :=
          hInserts.governanceVerdict hv
        rfl
    · rw [hResolved] at hv
      obtain ⟨row, hRow, rfl⟩ := List.mem_map.1 hv
      have hNames := h.verdicts row hRow
      by_cases hIncident : row.verdictId = incidentId
      · rw [if_pos hIncident]
        exact hNames
      · rw [if_neg hIncident]
        exact hNames

theorem platformRun_namesOwn (settings : Settings) (now : Int) (agents : List Agent)
    (agentKeys : List AgentKey) (events : List (Event (platformService settings))) :
    (platformRun settings now agents agentKeys events).state.db.NamesOwn :=
  platformRun_tables (fun _ _ h hStep => hStep.namesOwn h)
    ⟨fun _ hr => (nomatch hr), fun _ hv => (nomatch hv)⟩ events

end AgentShield.Server
