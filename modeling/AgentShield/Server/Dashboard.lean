import AgentShield.Lib.Groups
import AgentShield.Server.AsyncVerdictWorker
import AgentShield.Server.Attribution

/-!
# The dashboard and the costs of the runs

The dashboard of an organisation sums its verdict rows, and the cost of a run sums the
verdict rows of the run, but counts the decisions of the rows that the intervention log has
for them.  The gate logs each of its verdicts, and a late verdict is not logged.  So the
prevented loss of the dashboard is the sum over the runs, and its decisions are the
decisions of the runs and those of the late verdicts (`dashboard_adds_late`).
-/

/-! ## Exact amounts -/

namespace AgentShield.Sdk.PyFloat

protected theorem add_comm (x y : PyFloat) : x + y = y + x := by
  cases x with
  | finite p =>
      cases y with
      | finite q => rw [finite_add, finite_add, Rat.add_comm]
      | _ => rfl
  | _ => cases y <;> rfl

/-- Infinities and NaN absorb what they are added to, in whatever order. -/
protected theorem add_assoc (x y z : PyFloat) : x + y + z = x + (y + z) := by
  cases x with
  | finite p =>
      cases y with
      | finite q =>
          cases z with
          | finite r =>
              simp only [finite_add, Rat.add_assoc]
          | _ => rfl
      | _ => cases z <;> rfl
  | _ => cases y <;> cases z <;> rfl

instance : AddCommMonoid PyFloat where
  add_assoc := PyFloat.add_assoc
  zero_add x := (PyFloat.add_comm 0 x).trans (add_finite_zero x)
  add_zero := add_finite_zero
  add_comm := PyFloat.add_comm
  nsmul := nsmulRec

theorem sum_eq_sum (xs : List PyFloat) : sum xs = xs.sum := List.sum_eq_foldl.symm

end AgentShield.Sdk.PyFloat

namespace AgentShield.Server

open AgentShield.Lib AgentShield.Lib.Async AgentShield.Sdk

/-! ## The figures -/

/-- The arithmetic of the reads on exact amounts. -/
def exactFloats (nearestRank : PyFloat → Nat → Int) : Reads.FloatArithmetic where
  sum := PyFloat.sum
  nearestRank := nearestRank

/-! ## What the log has -/

/-- Every log row is of a verdict with its decision, and every verdict is of a run. -/
structure Costed (db : Database) : Prop where
  logged : ∀ i ∈ db.interventionLog, ∃ v ∈ db.governanceVerdicts,
    v.verdictId = i.verdictId ∧ v.decision = i.decision
  ofRun : ∀ v ∈ db.governanceVerdicts, ∃ runId, v.runId = some runId

section Step

variable {settings : Settings} {db db' : Database}

theorem Costed.insert (h : Costed db) {v : GovernanceVerdictRow} {log : List InterventionRow}
    (hRun : ∃ runId, v.runId = some runId)
    (hLog : ∀ i ∈ log, v.verdictId = i.verdictId ∧ v.decision = i.decision)
    (hVerdicts : db'.governanceVerdicts = db.governanceVerdicts ++ [v])
    (hRows : db'.interventionLog = db.interventionLog ++ log) : Costed db' := by
  constructor
  · rw [hRows, hVerdicts]
    intro i hi
    rcases List.mem_append.1 hi with hOld | hNew
    · obtain ⟨v', hv', hSame⟩ := h.logged i hOld
      exact ⟨v', List.mem_append_left _ hv', hSame⟩
    · exact ⟨v, List.mem_append_right _ List.mem_cons_self, hLog i hNew⟩
  · rw [hVerdicts]
    intro v' hv'
    rcases List.mem_append.1 hv' with hOld | hNew
    · exact h.ofRun v' hOld
    · rw [List.mem_singleton.1 hNew]
      exact hRun

theorem Costed.same (h : Costed db) (hVerdicts : db'.governanceVerdicts = db.governanceVerdicts)
    (hLog : db'.interventionLog = db.interventionLog) : Costed db' := by
  constructor
  · rw [hLog, hVerdicts]
    exact h.logged
  · rw [hVerdicts]
    exact h.ofRun

/-- **One step of the tables.**  A verdict of the gate comes with its intervention, a late one
with none, and a resolution changes neither. -/
theorem TableStep.costed (hStep : TableStep settings db db') (h : Costed db) : Costed db' := by
  cases hStep with
  | same _ hVerdicts hLog => exact h.same hVerdicts hLog
  | insert hInserts hTx =>
      cases hInserts with
      | submit rec receivedAt seqNo receiptId =>
          obtain ⟨-, -, -, rfl⟩ := Database.transaction_receipt hTx
          exact h.same rfl rfl
      | decide rec decided latencyMs chainHash seqNo receivedAt servedAt hPhase =>
          obtain ⟨-, -, -, rfl⟩ := Database.transaction_decision hTx
          apply h.insert ⟨rec.runId, rfl⟩ _ rfl rfl
          intro i hi
          rw [List.mem_singleton.1 hi]
          exact ⟨rfl, rfl⟩
      | record rec chainHash seqNo receivedAt hPhase =>
          obtain ⟨-, -, rfl⟩ := Database.transaction_operation hTx
          exact h.same rfl rfl
      | publish rec verdict latencyMs servedAt createdAt =>
          obtain ⟨-, rfl⟩ := Database.transaction_verdict hTx
          exact h.insert ⟨rec.runId, rfl⟩ (fun i hi => absurd hi List.not_mem_nil) rfl
            (List.append_nil _).symm
  | resolve decision resolvedAt incidentId =>
      have hRow : ∀ v ∈ resolveRows decision resolvedAt incidentId db.governanceVerdicts,
          ∃ old ∈ db.governanceVerdicts, v.runId = old.runId := by
        intro v hv
        obtain ⟨old, hOld, rfl⟩ := List.mem_map.1 hv
        refine ⟨old, hOld, ?_⟩
        split <;> rfl
      constructor
      · intro i hi
        obtain ⟨v, hv, hId, hDecision⟩ := h.logged i hi
        refine ⟨_, List.mem_map_of_mem hv, ?_⟩
        split <;> exact ⟨hId, hDecision⟩
      · intro v hv
        obtain ⟨old, hOld, hSame⟩ := hRow v hv
        rw [hSame]
        exact h.ofRun old hOld

end Step

theorem platformRun_costed (settings : Settings) (now : Int) (agents : List Agent)
    (agentKeys : List AgentKey) (events : List (Event (platformService settings))) :
    Costed (platformRun settings now agents agentKeys events).state.db :=
  platformRun_tables (fun _ _ h hStep => hStep.costed h)
    ⟨fun _ hi => (nomatch hi), fun _ hv => (nomatch hv)⟩ events

/-! ## Sums over the runs -/

/-- The verdict rows of an organisation. -/
def orgVerdicts (orgId : String) (gv : List GovernanceVerdictRow) : List GovernanceVerdictRow :=
  gv.filter fun v => v.orgId = orgId

/-- The runs that an organisation has verdicts of. -/
def runIds (orgId : String) (gv : List GovernanceVerdictRow) : List String :=
  ((orgVerdicts orgId gv).filterMap GovernanceVerdictRow.runId).dedup

def mixCount (mix : List (String × Nat)) (d : Decision) : Nat := (Dict.get? mix d.value).getD 0

/-- The late verdicts of an organisation with a decision: those that are not logged. -/
def lateCount (orgId : String) (db : Database) (d : Decision) : Nat :=
  (orgVerdicts orgId db.governanceVerdicts).countP fun v =>
    v.decision = d.value ∧ ∀ i ∈ db.interventionLog, i.verdictId ≠ v.verdictId

/-- The figures of the dashboard are the sums of those of the runs, but for a number of
verdicts of each decision that it counts on top. -/
def DashboardAdds (nearestRank : PyFloat → Nat → Int) (orgId : String) (w : World)
    (onTop : Decision → Nat) : Prop :=
  ∃ (kpi : Reads.DashboardKpi) (costs : String → Reads.CostRollup),
    run (Reads.dashboardKpi (exactFloats nearestRank) orgId) w = (w, .ok kpi) ∧
    (∀ runId, run (Reads.cost (exactFloats nearestRank) orgId runId) w =
      (w, .ok (costs runId))) ∧
    kpi.preventedLossTotal = PyFloat.sum
      ((runIds orgId w.db.governanceVerdicts).map fun runId =>
        (costs runId).preventedLossTotal) ∧
    ∀ d, mixCount kpi.decisionMix d =
      ((runIds orgId w.db.governanceVerdicts).map fun runId =>
        mixCount (costs runId).decisionMix d).sum + onTop d

theorem mixCount_decisionMix (decisions : List String) (d : Decision) :
    mixCount (Reads.decisionMix decisions) d = decisions.count d.value := by
  cases d <;> rfl

section Sums

variable {orgId : String} {db : Database}

theorem scopedVerdicts_eq (runId : String) (gv : List GovernanceVerdictRow) :
    Reads.scopedVerdicts orgId runId gv =
      (orgVerdicts orgId gv).filter fun v => v.runId = some runId := by
  unfold Reads.scopedVerdicts orgVerdicts
  rw [List.filter_filter]
  apply List.filter_congr
  intro v _
  by_cases hOrg : v.orgId = orgId
  · simp [hOrg]
  · simp [hOrg]

/-- Each run is named once. -/
theorem nodup_runs (gv : List GovernanceVerdictRow) : ((runIds orgId gv).map some).Nodup :=
  (List.nodup_dedup _).map (Option.some_injective _)

theorem mem_runs (h : Costed db) {v : GovernanceVerdictRow}
    (hv : v ∈ orgVerdicts orgId db.governanceVerdicts) :
    v.runId ∈ (runIds orgId db.governanceVerdicts).map some := by
  obtain ⟨runId, hRun⟩ := h.ofRun v (List.mem_of_mem_filter hv)
  rw [hRun, List.mem_map]
  exact ⟨runId, List.mem_dedup.2 (List.mem_filterMap.2 ⟨v, hv, hRun⟩), rfl⟩

/-- The prevented losses of the runs sum up to that of the organisation. -/
theorem prevented_sum (h : Costed db) :
    PyFloat.sum ((runIds orgId db.governanceVerdicts).map fun runId => PyFloat.sum
      ((Reads.scopedVerdicts orgId runId db.governanceVerdicts).map
        GovernanceVerdictRow.preventedLoss)) =
      PyFloat.sum ((orgVerdicts orgId db.governanceVerdicts).map
        GovernanceVerdictRow.preventedLoss) := by
  simp only [PyFloat.sum_eq_sum, scopedVerdicts_eq]
  have hKeys : ∀ v ∈ orgVerdicts orgId db.governanceVerdicts,
      v.runId ∈ (runIds orgId db.governanceVerdicts).map some := fun v hv => mem_runs h hv
  have hGroups := Groups.sum_groups (nodup_runs db.governanceVerdicts) GovernanceVerdictRow.runId
    GovernanceVerdictRow.preventedLoss hKeys
  rw [List.map_map] at hGroups
  exact hGroups

/-- The verdict is logged. -/
def isLogged (db : Database) (v : GovernanceVerdictRow) : Bool :=
  decide (∃ i ∈ db.interventionLog, i.verdictId = v.verdictId)

/-- The decisions that a run counts are those of its logged verdicts. -/
theorem count_logged (hKeyed : db.Keyed) (h : Costed db) (runId : String) (d : Decision) :
    mixCount (Reads.decisionMix ((Reads.scopedInterventions
      (Reads.scopedVerdicts orgId runId db.governanceVerdicts) db.interventionLog).map
        InterventionRow.decision)) d =
      ((orgVerdicts orgId db.governanceVerdicts).filter (isLogged db) |>.filter
        fun v => v.runId = some runId).countP fun v => v.decision = d.value := by
  have hPerm := Groups.marks_matched hKeyed.verdicts hKeyed.log h.logged
    fun v => decide (v.orgId = orgId ∧ v.runId = some runId)
  have hRows : (Reads.scopedVerdicts orgId runId db.governanceVerdicts).filter (isLogged db) =
      ((orgVerdicts orgId db.governanceVerdicts).filter (isLogged db)).filter
        fun v => v.runId = some runId := by
    rw [scopedVerdicts_eq, List.filter_filter, List.filter_filter]
    exact List.filter_congr fun v _ => Bool.and_comm _ _
  have hCount : ((Reads.scopedInterventions
      (Reads.scopedVerdicts orgId runId db.governanceVerdicts) db.interventionLog).map
        InterventionRow.decision).count d.value =
      (((Reads.scopedVerdicts orgId runId db.governanceVerdicts).filter (isLogged db)).map
        GovernanceVerdictRow.decision).count d.value := hPerm.count_eq d.value
  rw [mixCount_decisionMix, hCount, hRows, List.count, List.countP_map]
  apply List.countP_congr
  intro v _
  simp

/-- The decisions that the runs count, and those that no run counts because they came late,
are those of the dashboard. -/
theorem mix_sum (hKeyed : db.Keyed) (h : Costed db) (d : Decision) :
    mixCount (Reads.decisionMix ((orgVerdicts orgId db.governanceVerdicts).map
        GovernanceVerdictRow.decision)) d =
      ((runIds orgId db.governanceVerdicts).map fun runId =>
        mixCount (Reads.decisionMix ((Reads.scopedInterventions
          (Reads.scopedVerdicts orgId runId db.governanceVerdicts) db.interventionLog).map
            InterventionRow.decision)) d).sum + lateCount orgId db d := by
  have hKeys : ∀ v ∈ (orgVerdicts orgId db.governanceVerdicts).filter (isLogged db),
      v.runId ∈ (runIds orgId db.governanceVerdicts).map some := fun v hv =>
    mem_runs h (List.mem_of_mem_filter hv)
  have hGroups := Groups.countP_groups (nodup_runs db.governanceVerdicts)
    GovernanceVerdictRow.runId (fun v => decide (v.decision = d.value)) hKeys
  rw [List.map_map] at hGroups
  have hRuns : ((runIds orgId db.governanceVerdicts).map fun runId =>
      mixCount (Reads.decisionMix ((Reads.scopedInterventions
        (Reads.scopedVerdicts orgId runId db.governanceVerdicts) db.interventionLog).map
          InterventionRow.decision)) d).sum =
      ((orgVerdicts orgId db.governanceVerdicts).filter (isLogged db)).countP
        fun v => v.decision = d.value := by
    simp only [count_logged hKeyed h]
    exact hGroups
  have hLate : lateCount orgId db d =
      ((orgVerdicts orgId db.governanceVerdicts).filter fun v => !isLogged db v).countP
        fun v => v.decision = d.value := by
    unfold lateCount isLogged
    rw [List.countP_filter]
    apply List.countP_congr
    intro v _
    simp
  rw [hRuns, hLate, mixCount_decisionMix, List.count, List.countP_map,
    ← List.countP_eq_countP_filter_add]
  apply List.countP_congr
  intro v _
  simp

end Sums

/-! ## The dashboard next to the runs -/

section Figures

variable {nearestRank : PyFloat → Nat → Int} {orgId : String} {w : World}

theorem dashboard_adds (hKeyed : w.db.Keyed) (h : Costed w.db) :
    DashboardAdds nearestRank orgId w (lateCount orgId w.db) := by
  refine ⟨_, fun runId => Reads.costRollup (exactFloats nearestRank)
    (Reads.scopedVerdicts orgId runId w.db.governanceVerdicts) (Reads.scopedInterventions
      (Reads.scopedVerdicts orgId runId w.db.governanceVerdicts) w.db.interventionLog),
    rfl, fun runId => rfl, ?_, ?_⟩
  · exact (prevented_sum h).symm
  · intro d
    exact mix_sum hKeyed h d

/-- What the dashboard counts on top is determined by the store. -/
theorem onTop_unique {onTop onTop' : Decision → Nat}
    (h : DashboardAdds nearestRank orgId w onTop)
    (h' : DashboardAdds nearestRank orgId w onTop') : onTop = onTop' := by
  obtain ⟨kpi, costs, hKpi, hCosts, -, hMix⟩ := h
  obtain ⟨kpi', costs', hKpi', hCosts', -, hMix'⟩ := h'
  have hSameKpi : kpi = kpi' := by
    rw [hKpi] at hKpi'
    exact Except.ok.inj (Prod.mk.inj hKpi').2
  have hSameCosts : costs = costs' := by
    funext runId
    have hRead := hCosts runId
    rw [hCosts' runId] at hRead
    exact (Except.ok.inj (Prod.mk.inj hRead).2).symm
  subst hSameKpi hSameCosts
  funext d
  have hLeft := hMix d
  have hRight := hMix' d
  omega

/-- The sums agree exactly when nothing is counted on top. -/
theorem dashboard_agrees_iff (hKeyed : w.db.Keyed) (h : Costed w.db) :
    DashboardAdds nearestRank orgId w (fun _ => 0) ↔ ∀ d, lateCount orgId w.db d = 0 := by
  have hAdds : DashboardAdds nearestRank orgId w (lateCount orgId w.db) := dashboard_adds hKeyed h
  constructor
  · intro hAgrees d
    rw [onTop_unique hAdds hAgrees]
  · intro hNone
    rw [show lateCount orgId w.db = fun _ => 0 from funext hNone] at hAdds
    exact hAdds

end Figures

/-- **The dashboard adds the late verdicts to the runs.**  In every state of every run, the
prevented loss of the dashboard is the sum of those of the organisation's runs, and it
counts the decisions of the runs and those of the late verdicts.  So all figures agree
exactly when the organisation has no late verdict. -/
theorem dashboard_adds_late (settings : Settings) (now : Int) (agents : List Agent)
    (agentKeys : List AgentKey) (events : List (Event (platformService settings)))
    (nearestRank : PyFloat → Nat → Int) (orgId : String) :
    DashboardAdds nearestRank orgId (platformRun settings now agents agentKeys events).state
      (lateCount orgId (platformRun settings now agents agentKeys events).state.db) ∧
    (DashboardAdds nearestRank orgId (platformRun settings now agents agentKeys events).state
        (fun _ => 0) ↔
      ∀ d, lateCount orgId (platformRun settings now agents agentKeys events).state.db d = 0) := by
  have hKeyed := platformRun_keyed settings now agents agentKeys events
  have hCosted := platformRun_costed settings now agents agentKeys events
  exact ⟨dashboard_adds hKeyed hCosted, dashboard_agrees_iff hKeyed hCosted⟩

/-! ## Late verdicts are the published ones -/

section Published

variable {settings : Settings} {w w' : World}

/-- Every verdict is logged. -/
def NoneLate (db : Database) : Prop := ∀ v ∈ db.governanceVerdicts, IsLogged db v

theorem lateCount_eq_zero {orgId : String} {db : Database} (h : NoneLate db) (d : Decision) :
    lateCount orgId db d = 0 := by
  unfold lateCount
  rw [List.countP_eq_zero]
  intro v hv hLate
  obtain ⟨i, hi, hId⟩ := h v (List.mem_of_mem_filter hv)
  simp only [decide_eq_true_eq] at hLate
  exact hLate.2 i hi hId

theorem noneLate_same {db db' : Database} (h : NoneLate db)
    (hVerdicts : db'.governanceVerdicts = db.governanceVerdicts)
    (hLog : db'.interventionLog = db.interventionLog) : NoneLate db' := by
  intro v hv
  rw [hVerdicts] at hv
  obtain ⟨i, hi, hId⟩ := h v hv
  exact ⟨i, hLog ▸ hi, hId⟩

/-- A decision logs its verdict. -/
theorem noneLate_decide {prim : Primitives} {db db' : Database} (h : NoneLate db)
    {rec : ShieldActionRecord} {verdict : GovernanceVerdict} {verdictKey chainHash : String}
    {seqNo receivedAt : Int}
    (hTx : db.transaction
      (decideStatements prim rec verdict verdictKey chainHash seqNo receivedAt) = .ok db') :
    NoneLate db' := by
  obtain ⟨-, -, -, rfl⟩ := Database.transaction_decision hTx
  intro v hv
  rcases List.mem_append.1 hv with hOld | hNew
  · obtain ⟨i, hi, hId⟩ := h v hOld
    exact ⟨i, List.mem_append_left _ hi, hId⟩
  · rw [List.mem_singleton.1 hNew]
    exact ⟨_, List.mem_append_right _ List.mem_cons_self, rfl⟩

/-- No step of a request but a publication leaves a verdict without a log row. -/
theorem RequestStep.noneLate {req : PlatformRequest} (hStep : RequestStep settings req w w')
    (hReq : req.publishes = false) (h : NoneLate w.db) : NoneLate w'.db := by
  cases hStep with
  | submit rec receiptId receivedAt seqNo hTx =>
      obtain ⟨db, hDb, rfl⟩ := World.transaction_ok hTx
      obtain ⟨-, -, -, rfl⟩ := Database.transaction_receipt hDb
      exact noneLate_same h rfl rfl
  | decide rec govApp latencyMs decided chainHash seqNo receivedAt servedAt hAnswer hPhase hTx =>
      obtain ⟨db, hDb, rfl⟩ := World.transaction_ok hTx
      exact noneLate_decide h hDb
  | record rec chainHash seqNo receivedAt hPhase hTx =>
      obtain ⟨db, hDb, rfl⟩ := World.transaction_ok hTx
      obtain ⟨-, -, rfl⟩ := Database.transaction_operation hDb
      exact noneLate_same h rfl rfl
  | publish => cases hReq
  | resolve =>
      intro v hv
      obtain ⟨old, hOld, rfl⟩ := List.mem_map.1 hv
      obtain ⟨i, hi, hId⟩ := h old hOld
      refine ⟨i, hi, ?_⟩
      split <;> exact hId
  | _ => exact noneLate_same h rfl rfl

/-- A step of a request that publishes nothing, or of the clock. -/
def Unpublished (settings : Settings) (w w' : World) : Prop :=
  w'.db = w.db ∨ ∃ req, req.publishes = false ∧ RequestStep settings req w w'

/-- **Without a publication nothing is late**, and the dashboard agrees with the sum over the
runs in every state. -/
theorem dashboard_agrees_unpublished (settings : Settings) (now : Int) (agents : List Agent)
    (agentKeys : List AgentKey) (events : List (Event (platformService settings)))
    (hNone : ∀ req, .request req ∈ events → req.publishes = false)
    (nearestRank : PyFloat → Nat → Int) (orgId : String) :
    DashboardAdds nearestRank orgId (platformRun settings now agents agentKeys events).state
      (fun _ => 0) := by
  have hKeep : ∀ w w' : World, NoneLate w.db → Unpublished settings w w' → NoneLate w'.db := by
    intro w w' h hStep
    rcases hStep with hSame | ⟨req, hReq, hStep⟩
    · rw [hSame]
      exact h
    · exact hStep.noneLate hReq h
  have hReqs : ∀ req, .request req ∈ events →
      Steps (fun w : World => NoneLate w.db) (Unpublished settings) (fun _ => True)
        (platform settings req) := by
    intro req hMem
    have hOwn : ∀ w w' : World, RequestStep settings req w w' → Unpublished settings w w' :=
      fun w w' hStep => .inr ⟨req, hNone req hMem, hStep⟩
    exact ((platform_requestSteps req).guarantee hOwn).weaken fun _ _ => trivial
  have hLate := (Pool.run_steps (P := fun w : World => NoneLate w.db) (G := Unpublished settings)
    (fun w => .inl rfl) (fun ms w _ => .inl rfl) hKeep
    (p := Pool.start (World.initial now agents agentKeys)) events hReqs
    (fun t ht => by cases ht) fun v hv => by cases hv).2.1
  exact (dashboard_agrees_iff (platformRun_keyed settings now agents agentKeys events)
    (platformRun_costed settings now agents agentKeys events)).2 (lateCount_eq_zero hLate)

end Published

namespace Sample

/-- `int(round(q * n))`: to the nearest integer, and between two to the even one. -/
def roundedRank : PyFloat → Nat → Int
  | .finite q, n =>
      let whole := (q * n).floor
      let rest := q * n - whole
      if rest < 1 / 2 ∨ (rest = 1 / 2 ∧ whole % 2 = 0) then whole else whole + 1
  | _, _ => 0

end Sample

/-- **A late verdict is on the dashboard and in no run's cost.**  An action is blocked, and
the late verdict on it passes it: the dashboard counts a pass that no run has. -/
theorem late_verdict_only_on_dashboard :
    ¬ DashboardAdds Sample.roundedRank "o" (platformRun Sample.settings 1 Sample.agents
      Sample.agentKeys Sample.blockedThenPassed).state (fun _ => 0) := by
  intro h
  have hLate : lateCount "o" (platformRun Sample.settings 1 Sample.agents Sample.agentKeys
      Sample.blockedThenPassed).state.db .pass = 1 := by
    decide +kernel
  have hNone := (dashboard_agrees_iff (platformRun_keyed _ _ _ _ _)
    (platformRun_costed _ _ _ _ _)).1 h .pass
  rw [hLate] at hNone
  cases hNone

end AgentShield.Server
