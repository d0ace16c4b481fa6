import AgentShield.Lib.Delimited
import AgentShield.Server.Reads
import AgentShield.Server.Tables

/-!
# Tenants

Two states agree on an organisation when its rows, its objects and its stream entries are
the same in both.  Then the governance reads answer it in the same way, except the live
stream, which selects by the workflow only: its answers are the same exactly when the two
states hold the same foreign entries at the same places (`governance_reads_isolated`).
-/

namespace AgentShield.Server

open AgentShield.Lib AgentShield.Lib.Async AgentShield.Sdk

/-! ## The reads as one service -/

/-- A governance read of a principal. -/
inductive GovernanceRead where
  | timeline (runId : String) (cursor : Option String) (limit : Option Int)
  | verdict (correlationId : String)
  | provenance (runId : String)
  | cost (runId : String)
  | dashboardKpi
  | incidents (runId status cursor : Option String) (limit : Option Int)
  | stream (workflowId : String)

/-- The answers of the governance reads, one for each route. -/
inductive GovernanceAnswer where
  | timeline (res : Reads.TimelineResponse)
  | verdict (res : Reads.VerdictView)
  | provenance (res : Reads.ProvenanceGraph)
  | cost (res : Reads.CostRollup)
  | dashboardKpi (res : Reads.DashboardKpi)
  | incidents (res : Reads.IncidentsResponse)
  | stream (events : List String)
  deriving DecidableEq

/-- The routes, with the organisation of the principal. -/
def Routes.governanceRead (readFloat : List Char → PyFloat) (floats : Reads.FloatArithmetic)
    (orgId : String) : GovernanceRead → Handler GovernanceAnswer
  | .timeline runId cursor limit => do
      let res ← Reads.timeline readFloat orgId runId cursor limit
      return .timeline res
  | .verdict correlationId => do
      let res ← Reads.verdictByCorrelation orgId correlationId
      return .verdict res
  | .provenance runId => do
      let res ← Reads.provenance orgId runId
      return .provenance res
  | .cost runId => do
      let res ← Reads.cost floats orgId runId
      return .cost res
  | .dashboardKpi => do
      let res ← Reads.dashboardKpi floats orgId
      return .dashboardKpi res
  | .incidents runId status cursor limit => do
      let res ← Reads.incidents readFloat orgId runId status cursor limit
      return .incidents res
  | .stream workflowId => do
      let res ← Routes.governanceStream workflowId
      return .stream res

/-! ## The data of an organisation -/

section Own

variable (orgId : String)

/-- The operations of an organisation. -/
def Database.ownOperations (db : Database) : List OperationRow :=
  db.operations.filter fun r => r.orgId = orgId

/-- The verdicts of an organisation. -/
def Database.ownVerdicts (db : Database) : List GovernanceVerdictRow :=
  db.governanceVerdicts.filter fun r => r.orgId = orgId

/-- The log rows of the verdicts of the organisation. -/
def Database.ownLog (db : Database) : List InterventionRow :=
  db.interventionLog.filter fun r =>
    r.verdictId ∈ (db.ownVerdicts orgId).map GovernanceVerdictRow.verdictId

/-- The entry tells of a record of the organisation. -/
def Database.ownsAction (db : Database) (entry : List (String × String)) : Bool :=
  (db.ownOperations orgId).any fun r => Dict.get? entry "record_id" = some r.operationId

/-- The entry tells of a verdict of the organisation. -/
def Database.ownsVerdict (db : Database) (entry : List (String × String)) : Bool :=
  (db.ownVerdicts orgId).any fun v => Dict.get? entry "verdict_id" = some v.verdictId

end Own

/-- The stream of the actions of a workflow, which all organisations share. -/
def World.actions (w : World) (workflowId : String) : List (List (String × String)) :=
  w.cache.entries (streamName actionsStreamPrefix workflowId)

/-- The stream of the verdicts of a workflow, which all organisations share. -/
def World.verdicts (w : World) (workflowId : String) : List (List (String × String)) :=
  w.cache.entries (streamName verdictsStreamPrefix workflowId)

/-- The two states hold the same data of the organisation. -/
structure SameFor (orgId : String) (w w' : World) : Prop where
  operations : w.db.ownOperations orgId = w'.db.ownOperations orgId
  verdicts : w.db.ownVerdicts orgId = w'.db.ownVerdicts orgId
  log : w.db.ownLog orgId = w'.db.ownLog orgId
  objects : ∀ o : StoredObject, o.orgId = orgId → w.get o.key = w'.get o.key
  actions : ∀ workflowId, (w.actions workflowId).filter (w.db.ownsAction orgId) =
    (w'.actions workflowId).filter (w'.db.ownsAction orgId)
  verdictEntries : ∀ workflowId, (w.verdicts workflowId).filter (w.db.ownsVerdict orgId) =
    (w'.verdicts workflowId).filter (w'.db.ownsVerdict orgId)

/-- The list with the marked elements blanked out. -/
def blanked {α : Type} (own : α → Bool) (xs : List α) : List (Option α) :=
  xs.map fun x => if own x then none else some x

/-- The two states hold the same foreign entries of a workflow at the same places. -/
def SameForeign (orgId workflowId : String) (w w' : World) : Prop :=
  blanked (w.db.ownsAction orgId) (w.actions workflowId) =
      blanked (w'.db.ownsAction orgId) (w'.actions workflowId) ∧
    blanked (w.db.ownsVerdict orgId) (w.verdicts workflowId) =
      blanked (w'.db.ownsVerdict orgId) (w'.verdicts workflowId)

/-- A list is its marked elements and, at their places, the others.  Two lists with the same
marked ones differ in the others or in the places. -/
theorem eq_iff_blanked {α : Type} (own : α → Bool) {xs ys : List α}
    (hOwn : xs.filter own = ys.filter own) : xs = ys ↔ blanked own xs = blanked own ys := by
  constructor
  · intro h
    rw [h]
  · intro h
    induction xs generalizing ys with
    | nil =>
        cases ys with
        | nil => rfl
        | cons y ys => cases h
    | cons x xs ih =>
        cases ys with
        | nil => cases h
        | cons y ys =>
            have hTail : blanked own xs = blanked own ys := (List.cons.inj h).2
            have hHead : (if own x then none else some x) = if own y then none else some y :=
              (List.cons.inj h).1
            by_cases hx : own x = true
            · by_cases hy : own y = true
              · rw [List.filter_cons_of_pos hx, List.filter_cons_of_pos hy] at hOwn
                obtain ⟨rfl, hRest⟩ := List.cons.inj hOwn
                rw [ih hRest hTail]
              · rw [if_pos hx, if_neg hy] at hHead
                cases hHead
            · by_cases hy : own y = true
              · rw [if_neg hx, if_pos hy] at hHead
                cases hHead
              · rw [if_neg hx, if_neg hy] at hHead
                rw [List.filter_cons_of_neg hx, List.filter_cons_of_neg hy] at hOwn
                rw [ih hOwn hTail, Option.some.inj hHead]

/-! ## The texts of the live stream -/

/-- A field as it is written. -/
def fieldText (f : String × String) : List Char :=
  (asciiString f.1).toList ++ ':' :: ' ' :: (asciiString f.2).toList

/-- The fields after the first, each behind a comma and a blank. -/
abbrev moreFields : List (String × String) → List Char :=
  Delimited.moreItems fieldText ',' [' '] Json.closeBrace

/-- What `dumpsStrings` writes after the opening brace. -/
abbrev fieldsText : List (String × String) → List Char :=
  Delimited.closedItems fieldText ',' [' '] Json.closeBrace

theorem moreFields_cons (f : String × String) (fs : List (String × String)) :
    moreFields (f :: fs) = ',' :: ' ' :: (fieldText f ++ moreFields fs) := rfl

theorem fieldsText_cons (f : String × String) (fs : List (String × String)) :
    fieldsText (f :: fs) = fieldText f ++ moreFields fs := rfl

theorem fieldText_cancel {f g : String × String} {cs ds : List Char}
    (h : fieldText f ++ cs = fieldText g ++ ds) : f = g ∧ cs = ds := by
  unfold fieldText at h
  rw [List.append_assoc, List.append_assoc] at h
  obtain ⟨hName, hRest⟩ := asciiString_cancel h
  obtain ⟨hValue, hMore⟩ := asciiString_cancel (List.cons.inj (List.cons.inj hRest).2).2
  exact ⟨Prod.ext hName hValue, hMore⟩

theorem toList_dumpsStrings (fields : List (String × String)) :
    (dumpsStrings fields).toList = Json.openBrace :: fieldsText fields := by
  have hTexts : (fields.map fun f => asciiString f.1 ++ ": " ++ asciiString f.2).map
      String.toList = fields.map fieldText := by
    rw [List.map_map]
    refine List.map_congr_left fun f _ => ?_
    simp [fieldText]
  have hOpen : "\x7b".toList = [Json.openBrace] := by decide
  have hClose : "\x7d".toList = [Json.closeBrace] := by decide
  have hComma : ", ".toList = [',', ' '] := by decide
  unfold dumpsStrings
  rw [String.toList_append, String.toList_append, String.toList_intercalate, hTexts, hOpen,
    hClose, hComma, List.append_assoc, Delimited.intercalate_closed]
  rfl

/-- An object of strings can be read back from its text, so two events with one text are one
event. -/
theorem dumpsStrings_injective : Function.Injective dumpsStrings := by
  intro fields fields' h
  have hText := congrArg String.toList h
  rw [toList_dumpsStrings, toList_dumpsStrings] at hText
  have hFields := (List.cons.inj hText).2
  have hQuote : ∀ f s, fieldText f ++ s ≠ [Json.closeBrace] := by
    intro f s hSame
    simp only [fieldText, toList_asciiString, List.cons_append] at hSame
    exact absurd (List.cons.inj hSame).1 (by decide)
  exact Delimited.closedItems_injective (fun _ _ _ _ _ _ h => fieldText_cancel h) (by decide)
    hQuote hFields

/-- An event's data can be read back from its frame. -/
theorem sse_injective (event : String) : Function.Injective (Routes.sse event) := by
  intro data data' h
  have hText := congrArg String.toList h
  simp only [Routes.sse, String.toList_append, List.append_cancel_left_eq,
    List.append_cancel_right_eq] at hText
  exact String.toList_inj.1 hText

/-- An action's frame is never that of a verdict. -/
theorem sse_action_ne_verdict (data data' : String) :
    Routes.sse "action" data ≠ Routes.sse "verdict" data' := by
  intro h
  have hText := congrArg String.toList h
  simp [Routes.sse] at hText

/-- Two lists one after the other, of elements that are told apart. -/
theorem map_append_map_inj {α β γ : Type} {f : α → γ} {g : β → γ} (hf : Function.Injective f)
    (hg : Function.Injective g) (hfg : ∀ a b, f a ≠ g b) {as as' : List α} {bs bs' : List β}
    (h : as.map f ++ bs.map g = as'.map f ++ bs'.map g) : as = as' ∧ bs = bs' := by
  induction as generalizing as' with
  | nil =>
      cases as' with
      | nil => exact ⟨rfl, (List.map_injective_iff.2 hg) h⟩
      | cons a as' =>
          cases bs with
          | nil => cases h
          | cons b bs => exact absurd (List.cons.inj h).1.symm (hfg a b)
  | cons a as ih =>
      cases as' with
      | nil =>
          cases bs' with
          | nil => cases h
          | cons b bs' => exact absurd (List.cons.inj h).1 (hfg a b)
      | cons a' as' =>
          obtain ⟨hHead, hTail⟩ := List.cons.inj h
          obtain ⟨hRest, hOther⟩ := ih hTail
          exact ⟨by rw [hf hHead, hRest], hOther⟩

/-! ## What the reads take from a state -/

/-- The verdicts of a run are taken from the organisation's own. -/
theorem scopedVerdicts_own (orgId runId : String) (db : Database) :
    Reads.scopedVerdicts orgId runId db.governanceVerdicts =
      (db.ownVerdicts orgId).filter fun r => r.runId = some runId := by
  unfold Reads.scopedVerdicts Database.ownVerdicts
  rw [List.filter_filter]
  exact List.filter_congr fun r _ => by rw [Bool.decide_and, Bool.and_comm]

theorem scopedOperations_own (orgId runId : String) (db : Database) :
    Reads.scopedOperations orgId runId db.operations =
      (db.ownOperations orgId).filter fun o => o.runId = some runId := by
  unfold Reads.scopedOperations Database.ownOperations
  rw [List.filter_filter]
  exact List.filter_congr fun r _ => by rw [Bool.decide_and, Bool.and_comm]

theorem matchingIncidents_own (orgId : String) (runId status : Option String) (db : Database) :
    Reads.matchingIncidents orgId runId status db.governanceVerdicts =
      Reads.matchingIncidents orgId runId status (db.ownVerdicts orgId) := by
  unfold Reads.matchingIncidents Database.ownVerdicts
  congr 1
  rw [List.filter_filter]
  refine List.filter_congr fun r _ => ?_
  by_cases hOrg : r.orgId = orgId
  · simp only [hOrg, decide_true, Bool.true_and, Bool.and_true]
  · simp only [hOrg, decide_false, Bool.false_and, Bool.and_false]

/-- The interventions of a run are those of the organisation's own verdicts. -/
theorem scopedInterventions_own (orgId runId : String) (db : Database) :
    Reads.scopedInterventions (Reads.scopedVerdicts orgId runId db.governanceVerdicts)
        db.interventionLog =
      Reads.scopedInterventions (Reads.scopedVerdicts orgId runId db.governanceVerdicts)
        (db.ownLog orgId) := by
  unfold Reads.scopedInterventions Database.ownLog
  rw [List.filter_filter, scopedVerdicts_own]
  refine List.filter_congr fun r _ => ?_
  by_cases hScoped : r.verdictId ∈ ((db.ownVerdicts orgId).filter fun r =>
      r.runId = some runId).map GovernanceVerdictRow.verdictId
  · obtain ⟨v, hv, hId⟩ := List.mem_map.1 hScoped
    have hOwn : r.verdictId ∈ (db.ownVerdicts orgId).map GovernanceVerdictRow.verdictId :=
      List.mem_map.2 ⟨v, List.mem_of_mem_filter hv, hId⟩
    simp only [hScoped, hOwn, decide_true, Bool.and_self]
  · simp only [hScoped, decide_false, Bool.false_and]

/-- The object under a key, as `loadJson` returns it. -/
def objectJson (w : World) (key : Option String) : Option Json :=
  key.bind fun key =>
    if key = "" then none
    else
      match w.get key with
      | some (.document (.obj fields)) => some (.obj fields)
      | _ => none

theorem run_loadJson_bind {α : Type} (key : Option String) (next : Option Json → Handler α)
    (w : World) : run (Reads.loadJson key >>= next) w = run (next (objectJson w key)) w := by
  cases key with
  | none => rfl
  | some key =>
      by_cases hEmpty : key = ""
      · have hLoad : Reads.loadJson (some key) = pure none := if_pos hEmpty
        have hObject : objectJson w (some key) = none := if_pos hEmpty
        rw [hLoad, hObject, pure_bind']
      · have hLoad : Reads.loadJson (some key) = read (fun w => objectJson w (some key)) := by
          have hObject : ∀ w, objectJson w (some key) = _ := fun _ => if_neg hEmpty
          simp only [hObject]
          exact if_neg hEmpty
        rw [hLoad, run_read_bind]

/-- The evidence next to a verdict, as it is returned. -/
def evidenceOf (w : World) (row : GovernanceVerdictRow) : List Json :=
  if row.r2VerdictKey = "" then []
  else
    match w.get (guardianEvidenceKey row.r2VerdictKey) with
    | some (.document (.arr items)) => items.filter Reads.isDict
    | _ => []

theorem run_loadGuardianEvidence_bind {α : Type} (row : GovernanceVerdictRow)
    (next : List Json → Handler α) (w : World) :
    run (Reads.loadGuardianEvidence row >>= next) w = run (next (evidenceOf w row)) w := by
  by_cases hEmpty : row.r2VerdictKey = ""
  · have hLoad : Reads.loadGuardianEvidence row = pure [] := if_pos hEmpty
    have hEvidence : evidenceOf w row = [] := if_pos hEmpty
    rw [hLoad, hEvidence, pure_bind']
  · have hLoad : Reads.loadGuardianEvidence row = read (fun w => evidenceOf w row) := by
      have hEvidence : ∀ w, evidenceOf w row = _ := fun _ => if_neg hEmpty
      simp only [hEvidence]
      exact if_neg hEmpty
    rw [hLoad, run_read_bind]

section Isolation

variable {orgId : String} {w w' : World} (h : SameFor orgId w w')
include h

theorem SameFor.scopedVerdicts (runId : String) :
    Reads.scopedVerdicts orgId runId w.db.governanceVerdicts =
      Reads.scopedVerdicts orgId runId w'.db.governanceVerdicts := by
  rw [scopedVerdicts_own, scopedVerdicts_own, h.verdicts]

/-- The timeline is the same in two worlds that are the same for the organisation. -/
theorem SameFor.timeline (readFloat : List Char → PyFloat) (runId : String)
    (cursor : Option String) (limit : Option Int) :
    (run (Reads.timeline readFloat orgId runId cursor limit) w).2 =
      (run (Reads.timeline readFloat orgId runId cursor limit) w').2 := by
  unfold Reads.timeline
  simp only [run_read_bind, h.scopedVerdicts]
  cases requestedCursor readFloat cursor <;> rfl

/-- So is the graph of a run. -/
theorem SameFor.provenance (runId : String) :
    (run (Reads.provenance orgId runId) w).2 = (run (Reads.provenance orgId runId) w').2 := by
  have hOperations : Reads.scopedOperations orgId runId w.db.operations =
      Reads.scopedOperations orgId runId w'.db.operations := by
    rw [scopedOperations_own, scopedOperations_own, h.operations]
  unfold Reads.provenance
  simp only [run_read_bind, h.scopedVerdicts, hOperations]
  rfl

/-- So are its costs. -/
theorem SameFor.cost (floats : Reads.FloatArithmetic) (runId : String) :
    (run (Reads.cost floats orgId runId) w).2 = (run (Reads.cost floats orgId runId) w').2 := by
  unfold Reads.cost
  simp only [run_read_bind]
  rw [scopedInterventions_own, scopedInterventions_own orgId runId w'.db, h.scopedVerdicts, h.log]
  rfl

/-- So are the figures of the dashboard. -/
theorem SameFor.dashboardKpi (floats : Reads.FloatArithmetic) :
    (run (Reads.dashboardKpi floats orgId) w).2 =
      (run (Reads.dashboardKpi floats orgId) w').2 := by
  have hVerdicts := h.verdicts
  unfold Database.ownVerdicts at hVerdicts
  unfold Reads.dashboardKpi
  simp only [run_read_bind, hVerdicts]
  rfl

/-- So are the incidents. -/
theorem SameFor.incidents (readFloat : List Char → PyFloat) (runId status cursor : Option String)
    (limit : Option Int) :
    (run (Reads.incidents readFloat orgId runId status cursor limit) w).2 =
      (run (Reads.incidents readFloat orgId runId status cursor limit) w').2 := by
  unfold Reads.incidents
  simp only [run_raiseIf_bind, run_read_bind, matchingIncidents_own orgId runId status w.db,
    matchingIncidents_own orgId runId status w'.db, h.verdicts]
  cases requestedCursor readFloat cursor <;> split <;> rfl

/-- The objects of the organisation's own records and verdicts are the same. -/
theorem SameFor.objectJson_operation (hNames : w.db.NamesOwn) {o : Option OperationRow}
    (ho : ∀ r ∈ o, r ∈ w.db.operations ∧ r.orgId = orgId) :
    objectJson w (o.map fun r => Reads.strOf r.r2PayloadKey) =
      objectJson w' (o.map fun r => Reads.strOf r.r2PayloadKey) := by
  cases o with
  | none => rfl
  | some r =>
      obtain ⟨hMem, rfl⟩ := ho r rfl
      have hObject : w.get (recordKey r.orgId r.agentId r.operationId) =
          w'.get (recordKey r.orgId r.agentId r.operationId) :=
        h.objects (.record r.orgId r.agentId r.operationId) rfl
      simp only [Option.map_some, Reads.strOf, hNames.operations r hMem, Option.getD_some,
        objectJson, Option.bind_some, hObject]

theorem SameFor.objectJson_verdict (hNames : w.db.NamesOwn) {v : GovernanceVerdictRow}
    (hMem : v ∈ w.db.governanceVerdicts) (hOwn : v.orgId = orgId) :
    objectJson w (some v.r2VerdictKey) = objectJson w' (some v.r2VerdictKey) ∧
      evidenceOf w v = evidenceOf w' v := by
  have hKey := hNames.verdicts v hMem
  have hVerdict : w.get v.r2VerdictKey = w'.get v.r2VerdictKey := by
    rw [hKey]
    exact h.objects (.verdict v.orgId v.agentId v.verdictId) hOwn
  have hEvidence : w.get (guardianEvidenceKey v.r2VerdictKey) =
      w'.get (guardianEvidenceKey v.r2VerdictKey) := by
    rw [hKey]
    exact h.objects (.evidence v.orgId v.agentId v.verdictId) hOwn
  simp only [objectJson, evidenceOf, Option.bind_some, hVerdict, hEvidence, and_self]

/-- So is what is shown of a correlation id, where the keys of the objects name their
organisations. -/
theorem SameFor.verdictByCorrelation (hNames : w.db.NamesOwn) (correlationId : String) :
    (run (Reads.verdictByCorrelation orgId correlationId) w).2 =
      (run (Reads.verdictByCorrelation orgId correlationId) w').2 := by
  have hFound : ∀ db : Database, db.governanceVerdicts.filter (fun r =>
      r.correlationId = correlationId ∧ r.orgId = orgId) =
        (db.ownVerdicts orgId).filter fun r => r.correlationId = correlationId := by
    intro db
    unfold Database.ownVerdicts
    rw [List.filter_filter]
    exact List.filter_congr fun r _ => by rw [Bool.decide_and]
  have hPaired : ∀ db : Database, db.operations.filter (fun o =>
      o.correlationId = some correlationId ∧ o.orgId = orgId) =
        (db.ownOperations orgId).filter fun o => o.correlationId = some correlationId := by
    intro db
    unfold Database.ownOperations
    rw [List.filter_filter]
    exact List.filter_congr fun r _ => by rw [Bool.decide_and]
  unfold Reads.verdictByCorrelation
  simp only [run_read_bind, run_require_bind, run_loadJson_bind, run_loadGuardianEvidence_bind,
    hFound, hPaired, h.verdicts, h.operations, run_pure]
  cases hLatest : Reads.newestVerdict ((w'.db.ownVerdicts orgId).filter fun r =>
      r.correlationId = correlationId) with
  | none => rfl
  | some latest =>
      have hMem := (List.mem_insertionSort _).1 (List.mem_of_head? hLatest)
      rw [← h.verdicts] at hMem
      have hOwn := List.mem_filter.1 (List.mem_of_mem_filter hMem)
      obtain ⟨hVerdict, hEvidence⟩ :=
        h.objectJson_verdict hNames hOwn.1 (of_decide_eq_true hOwn.2)
      have hOperation : ∀ (phase : OperationRow → Bool), ∀ r ∈ ((w'.db.ownOperations orgId).filter
          fun o => o.correlationId = some correlationId).find? phase,
          r ∈ w.db.operations ∧ r.orgId = orgId := by
        intro phase r hr
        have hPair := List.mem_of_mem_filter (List.mem_of_find?_eq_some hr)
        rw [← h.operations] at hPair
        have hBoth := List.mem_filter.1 hPair
        exact ⟨hBoth.1, of_decide_eq_true hBoth.2⟩
      simp only [hVerdict, hEvidence, h.objectJson_operation hNames (hOperation _)]

theorem SameFor.owns : w.db.ownsAction orgId = w'.db.ownsAction orgId ∧
    w.db.ownsVerdict orgId = w'.db.ownsVerdict orgId := by
  unfold Database.ownsAction Database.ownsVerdict
  rw [h.operations, h.verdicts]
  exact ⟨rfl, rfl⟩

/-- The live stream shows the foreign entries of its workflow too, as the stream is named by
the workflow and not by the organisation. -/
theorem SameFor.governanceStream_iff (workflowId : String) :
    (run (Routes.governanceStream workflowId) w).2 =
        (run (Routes.governanceStream workflowId) w').2 ↔ SameForeign orgId workflowId w w' := by
  obtain ⟨hActions, hVerdicts⟩ := h.owns
  have hOwnActions := h.actions workflowId
  have hOwnVerdicts := h.verdictEntries workflowId
  rw [hActions] at hOwnActions
  rw [hVerdicts] at hOwnVerdicts
  have hLists : (run (Routes.governanceStream workflowId) w).2 =
      (run (Routes.governanceStream workflowId) w').2 ↔
        w.actions workflowId = w'.actions workflowId ∧
          w.verdicts workflowId = w'.verdicts workflowId := by
    constructor
    · intro hSame
      exact map_append_map_inj ((sse_injective "action").comp dumpsStrings_injective)
        ((sse_injective "verdict").comp dumpsStrings_injective)
        (fun _ _ => sse_action_ne_verdict _ _) (Except.ok.inj hSame)
    · rintro ⟨hA, hV⟩
      unfold World.actions at hA
      unfold World.verdicts at hV
      unfold Routes.governanceStream
      simp only [run_read_bind, hA, hV, run_pure]
  rw [hLists, eq_iff_blanked _ hOwnActions, eq_iff_blanked _ hOwnVerdicts, SameForeign, hActions,
    hVerdicts]

end Isolation

/-- A state of a run of the server. -/
def ReachableState (settings : Settings) (w : World) : Prop :=
  ∃ now agents agentKeys events, w = (platformRun settings now agents agentKeys events).state

/-- What a handler's answer becomes in the service. -/
theorem run_answer {α β : Type} (f : α → β) (prog : Handler α) (w : World) :
    (run (prog >>= fun a => pure (f a)) w).2 = (run prog w).2.map f := by
  rw [run_bind]
  rcases run prog w with ⟨w', r⟩
  cases r <;> rfl

/-- **Isolation of the governance reads.**  A state of a run and one that agrees with it on an
organisation answer a read of it in the same way, except that the live stream of a workflow
is the same exactly when the states hold the same foreign entries of the workflow at the same
places. -/
theorem governance_reads_isolated (settings : Settings) (readFloat : List Char → PyFloat)
    (floats : Reads.FloatArithmetic) (orgId : String) (w w' : World)
    (hReach : ReachableState settings w) (h : SameFor orgId w w') (req : GovernanceRead) :
    (run (Routes.governanceRead readFloat floats orgId req) w).2 =
        (run (Routes.governanceRead readFloat floats orgId req) w').2 ↔
      ∀ workflowId, req = .stream workflowId → SameForeign orgId workflowId w w' := by
  have hOther : (run (Routes.governanceRead readFloat floats orgId req) w).2 =
      (run (Routes.governanceRead readFloat floats orgId req) w').2 →
        (∀ workflowId, req ≠ .stream workflowId) →
      ((run (Routes.governanceRead readFloat floats orgId req) w).2 =
          (run (Routes.governanceRead readFloat floats orgId req) w').2 ↔
        ∀ workflowId, req = .stream workflowId → SameForeign orgId workflowId w w') :=
    fun hSame hNone => ⟨fun _ workflowId hStream => absurd hStream (hNone workflowId),
      fun _ => hSame⟩
  cases req with
  | timeline runId cursor limit =>
      refine hOther ?_ fun _ => nofun
      simp only [Routes.governanceRead, run_answer, h.timeline]
  | verdict correlationId =>
      obtain ⟨now, agents, agentKeys, events, rfl⟩ := hReach
      have hNames := platformRun_namesOwn settings now agents agentKeys events
      refine hOther ?_ fun _ => nofun
      simp only [Routes.governanceRead, run_answer, h.verdictByCorrelation hNames]
  | provenance runId =>
      refine hOther ?_ fun _ => nofun
      simp only [Routes.governanceRead, run_answer, h.provenance]
  | cost runId =>
      refine hOther ?_ fun _ => nofun
      simp only [Routes.governanceRead, run_answer, h.cost]
  | dashboardKpi =>
      refine hOther ?_ fun _ => nofun
      simp only [Routes.governanceRead, run_answer, h.dashboardKpi]
  | incidents runId status cursor limit =>
      refine hOther ?_ fun _ => nofun
      simp only [Routes.governanceRead, run_answer, h.incidents]
  | stream workflowId =>
      have hStream := h.governanceStream_iff workflowId
      have hAnswer : ∀ r r' : Except Failure (List String),
          r.map GovernanceAnswer.stream = r'.map GovernanceAnswer.stream ↔ r = r' := by
        intro r r'
        cases r <;> cases r' <;> simp [Except.map]
      simp only [Routes.governanceRead, run_answer, hAnswer, hStream]
      constructor
      · rintro hForeign _ ⟨⟩
        exact hForeign
      · intro hAll
        exact hAll workflowId rfl

namespace Sample

/-- Two organisations with an agent each. -/
def tenants : List Agent := [⟨"a", "o", .active⟩, ⟨"b", "p", .active⟩]

def tenantKeys : List AgentKey := [⟨"k", "a", "pk", .active⟩, ⟨"kb", "b", "pk", .active⟩]

/-- An executed action of the second organisation, in the workflow `banking`. -/
def foreignRecord : ShieldActionRecord :=
  let rec0 := { action "r1" "n1" .postExec 1 genesisChainHash "" with
    orgId := "p", agentId := "b", agentPubkeyKid := "kb" }
  { rec0 with payloadHash := computeRecordPayloadHash settings.prim rec0 }

/-- Nothing has happened. -/
def quietState : World := (platformRun settings 1 tenants tenantKeys []).state

/-- The second organisation has recorded its action. -/
def noisyState : World :=
  (platformRun settings 1 tenants tenantKeys
    (.request (.ingest (.record foreignRecord)) :: List.replicate 30 (.resume 0 .none))).state

/-- The first organisation reads the stream of the workflow. -/
def bankingStream (w : World) : Except Failure GovernanceAnswer :=
  (run (Routes.governanceRead (fun _ => .nan) ⟨fun _ => .nan, fun _ _ => 0⟩ "o"
    (.stream "banking")) w).2

theorem key_of_org (o : StoredObject) (h : o.orgId = "o") : o.key ≠ "p/b/r1" := by
  intro hKey
  have hFirst := congrArg (fun s => s.toList.head?) hKey
  cases o <;> obtain rfl := h <;>
    simp [StoredObject.key, recordKey, receiptKey, verdictObjectKey, guardianEvidenceKey,
      exportKey, epochKey] at hFirst

theorem get_none {w : World} {key : String} (h : ∀ e ∈ w.objects, e.1 ≠ key) :
    w.get key = none := by
  cases hGet : w.get key with
  | none => rfl
  | some body => exact absurd rfl (h _ (Dict.mem_of_get? hGet))

theorem quiet_same_noisy : SameFor "o" quietState noisyState := by
  have hNone : noisyState.db.ownOperations "o" = [] ∧ noisyState.db.ownVerdicts "o" = [] ∧
      noisyState.db.ownLog "o" = [] := by decide +kernel
  have hObjects : ∀ e ∈ noisyState.objects, e.1 = "p/b/r1" := by decide +kernel
  have hActions : noisyState.db.ownsAction "o" = fun _ => false := by
    unfold Database.ownsAction
    rw [hNone.1]
    rfl
  have hVerdicts : noisyState.db.ownsVerdict "o" = fun _ => false := by
    unfold Database.ownsVerdict
    rw [hNone.2.1]
    rfl
  refine ⟨hNone.1.symm, hNone.2.1.symm, hNone.2.2.symm, fun o hOwn => ?_, fun workflowId => ?_,
    fun workflowId => ?_⟩
  · have hOther : ∀ e ∈ noisyState.objects, e.1 ≠ o.key := by
      intro e he hKey
      exact key_of_org o hOwn (hKey.symm.trans (hObjects e he))
    exact (get_none hOther).symm
  · rw [hActions, List.filter_eq_nil_iff.2 fun _ _ => Bool.false_ne_true]
    rfl
  · rw [hVerdicts, List.filter_eq_nil_iff.2 fun _ _ => Bool.false_ne_true]
    rfl

/-- The stream shows the action of the second organisation to the first. -/
theorem stream_shows_foreign_action :
    ReachableState settings quietState ∧ ReachableState settings noisyState ∧
      SameFor "o" quietState noisyState ∧ bankingStream quietState ≠ bankingStream noisyState := by
  refine ⟨⟨_, _, _, _, rfl⟩, ⟨_, _, _, _, rfl⟩, quiet_same_noisy, fun hSame => ?_⟩
  have hLength : ∀ w, bankingStream w = .ok (.stream []) → (w.actions "banking").length = 0 := by
    intro w hEmpty
    have hEvents := GovernanceAnswer.stream.inj (Except.ok.inj hEmpty)
    have hFirst := (List.append_eq_nil_iff.1 hEvents).1
    exact List.length_eq_zero_iff.2 (List.map_eq_nil_iff.1 hFirst)
  have hQuiet : bankingStream quietState = .ok (.stream []) := by decide +kernel
  have hNoisy := hLength noisyState (hSame.symm.trans hQuiet)
  exact absurd hNoisy (by decide +kernel)

/-- The other reads do not show it. -/
theorem governance_reads_isolated_sample :
    (run (Routes.governanceRead (fun _ => .nan) ⟨fun _ => .nan, fun _ _ => 0⟩ "o"
        (.provenance "r")) quietState).2 =
      (run (Routes.governanceRead (fun _ => .nan) ⟨fun _ => .nan, fun _ _ => 0⟩ "o"
        (.provenance "r")) noisyState).2 :=
  (governance_reads_isolated settings _ _ "o" quietState noisyState ⟨_, _, _, _, rfl⟩
    quiet_same_noisy (.provenance "r")).2 fun _ => nofun

end Sample

end AgentShield.Server
