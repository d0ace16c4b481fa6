import AgentShield.Server.Reads
import AgentShield.Server.Tables

/-!
# The pages of the reads are exact

The audit query, the timeline and the incidents page their rows in one way, which is the
keyset pagination of the library with cursors in text (`keysetPage_eq`).  So a client that
follows the cursors of one of them is served exactly (`keyset_pagination_exact`), whatever
the tables are at each request.
-/

namespace AgentShield.Server

open AgentShield.Lib AgentShield.Lib.Async AgentShield.Sdk

/-! ## The cursor of a row -/

/-- The cursor that a page ends with: the position of its last row. -/
def encodeKey (k : RowKey) : String := encodeCursor (ofLex k).1 (ofLex k).2

/-- A row comes after a cursor in the order of the listing exactly when its position is below
the cursor's. -/
theorem afterCursor_eq (cursor : Int × String) (r : RowKey) :
    afterCursor cursor r = decide (r < toLex cursor) := by
  have hLess : r < toLex cursor ↔
      (ofLex r).1 < cursor.1 ∨ (ofLex r).1 = cursor.1 ∧ (ofLex r).2 < cursor.2 :=
    Prod.Lex.toLex_lt_toLex (x := ofLex r) (y := cursor)
  simp only [afterCursor, hLess, Bool.decide_or, Bool.decide_and]

theorem encodeCursor_ne_empty (createdAt : Int) (opId : String) :
    encodeCursor createdAt opId ≠ "" := by
  intro hEmpty
  have hRead := decodeCursor_encodeCursor (fun _ => .nan) createdAt opId
  rw [hEmpty] at hRead
  cases hRead

/-- A cursor that a page handed out is read back as the position it stands for. -/
theorem requestedCursor_encodeKey (readFloat : List Char → PyFloat) (cursor : Option RowKey) :
    requestedCursor readFloat (cursor.map encodeKey) = .ok (cursor.map ofLex) := by
  cases cursor with
  | none => rfl
  | some k =>
      have hText : encodeKey k ≠ "" := encodeCursor_ne_empty _ _
      have hRead : decodeCursor readFloat (encodeKey k) = some (ofLex k) :=
        decodeCursor_encodeCursor readFloat _ _
      simp only [Option.map_some, requestedCursor, if_neg hText, hRead]

theorem clampLimit_pos (limit : Option Int) : 0 < clampLimit limit := by
  unfold clampLimit maxQueryLimit defaultQueryLimit
  simp only
  omega

/-! ## One page -/

section Pages

variable {ρ : Type} {key : ρ → RowKey}

/-- The pages of the server are those of the library, with their cursor written down as a text
that is read back as the key. -/
theorem keysetPage_eq (limit : Option Int) (cursor : Option RowKey) (rows : List ρ) :
    keysetPage key limit (cursor.map ofLex) rows =
      ((Keyset.page key (clampLimit limit) cursor rows).rows,
        (Keyset.page key (clampLimit limit) cursor rows).cursor.map encodeKey) := by
  have hRemaining : ((cursor.map ofLex).elim (Keyset.newestFirst key rows) fun c =>
      (Keyset.newestFirst key rows).filter fun r => afterCursor c (key r)) =
        Keyset.remaining key cursor rows := by
    cases cursor with
    | none =>
        have hAll : ∀ r ∈ Keyset.newestFirst key rows,
            (none : Option RowKey).all (fun k => decide (key r < k)) = true := fun _ _ => rfl
        exact (List.filter_eq_self.2 hAll).symm
    | some k =>
        show (Keyset.newestFirst key rows).filter (fun r => afterCursor (ofLex k) (key r)) = _
        simp only [afterCursor_eq, toLex_ofLex]
        rfl
  have hPage : keysetPage key limit (cursor.map ofLex) rows =
      (let page := (Keyset.remaining key cursor rows).take (clampLimit limit + 1)
       let out := if clampLimit limit < page.length then page.take (clampLimit limit) else page
       (out, if clampLimit limit < page.length then
          out.getLast?.map fun last => encodeKey (key last) else none)) := by
    rw [← hRemaining]
    cases cursor <;> rfl
  rw [hPage]
  unfold Keyset.page
  by_cases hMore : clampLimit limit <
      ((Keyset.remaining key cursor rows).take (clampLimit limit + 1)).length
  · simp only [if_pos hMore, Option.map_map]
    rfl
  · simp only [if_neg hMore]
    rfl

end Pages

/-! ## Following the cursors -/

/-- The answer of the audit query as a page of a listing. -/
def AuditQueryResponse.page (res : AuditQueryResponse) : Keyset.Page Operation String :=
  ⟨res.operations, res.cursor⟩

def Reads.TimelineResponse.page (res : Reads.TimelineResponse) :
    Keyset.Page Reads.TimelineRow String :=
  ⟨res.rows, res.cursor⟩

def Reads.IncidentsResponse.page (res : Reads.IncidentsResponse) :
    Keyset.Page Reads.IncidentRow String :=
  ⟨res.incidents, res.cursor⟩

def Reads.TimelineRow.key (r : Reads.TimelineRow) : RowKey := rowKey r.createdAt r.verdictId

def Reads.IncidentRow.key (r : Reads.IncidentRow) : RowKey := rowKey r.createdAt r.incidentId

/-! ## The answers -/

section Answers

variable (readFloat : List Char → PyFloat) (orgId : String) (stores : Nat → World)
  (limits : Nat → Option Int)

/-- The `i`-th request of a client, to the tables of its time. -/
def auditAnswer (params : AuditQueryRequest) (i : Nat) (cursor : Option String) :
    Except Failure (Keyset.Page Operation String) :=
  (run (queryAudit readFloat { params with cursor := cursor, limit := limits i } orgId)
    (stores i)).2.map AuditQueryResponse.page

/-- The timeline as it answers the `i`-th request, from the store and with the limit of that
request. -/
def timelineAnswer (runId : String) (i : Nat) (cursor : Option String) :
    Except Failure (Keyset.Page Reads.TimelineRow String) :=
  (run (Reads.timeline readFloat orgId runId cursor (limits i)) (stores i)).2.map
    Reads.TimelineResponse.page

/-- The incidents as they answer the `i`-th request. -/
def incidentsAnswer (runId status : Option String) (i : Nat) (cursor : Option String) :
    Except Failure (Keyset.Page Reads.IncidentRow String) :=
  (run (Reads.incidents readFloat orgId runId status cursor (limits i)) (stores i)).2.map
    Reads.IncidentsResponse.page

variable {readFloat orgId stores limits}

/-- The audit query serves pages of the operations that its parameters match. -/
theorem auditAnswer_serves {params : AuditQueryRequest} (hParams : params.check = .ok ()) :
    Keyset.Serves (auditAnswer readFloat orgId stores limits params) Operation.key encodeKey
      (fun i => clampLimit (limits i))
      fun i => params.matching orgId (stores i).db.operations := by
  intro i cursor
  have hCheck : AuditQueryRequest.check
      { params with cursor := cursor.map encodeKey, limit := limits i } = .ok () := hParams
  unfold auditAnswer queryAudit
  rw [hCheck, requestedCursor_encodeKey]
  simp only [run_ofExcept_bind, run_read_bind, keysetPage_eq, run_pure]
  rfl

/-- The timeline serves pages of the run's verdicts in the organisation. -/
theorem timelineAnswer_serves (runId : String) :
    Keyset.Serves (timelineAnswer readFloat orgId stores limits runId) Reads.TimelineRow.key
      encodeKey (fun i => clampLimit (limits i))
      fun i => (Reads.scopedVerdicts orgId runId (stores i).db.governanceVerdicts).map
        Reads.timelineRow := by
  intro i cursor
  have hKey : ∀ r, Reads.TimelineRow.key (Reads.timelineRow r) = Reads.verdictKey r := fun _ => rfl
  unfold timelineAnswer Reads.timeline
  rw [requestedCursor_encodeKey, Keyset.page_map hKey]
  simp only [run_ofExcept_bind, run_read_bind, keysetPage_eq, run_pure]
  rfl

/-- The incidents are served in pages of the verdicts that were escalated. -/
theorem incidentsAnswer_serves (runId : Option String) {status : Option String}
    (hStatus : ∀ wanted ∈ status, wanted = "pending" ∨ wanted = "resolved") :
    Keyset.Serves (incidentsAnswer readFloat orgId stores limits runId status)
      Reads.IncidentRow.key encodeKey (fun i => clampLimit (limits i))
      fun i => (Reads.matchingIncidents orgId runId status
        (stores i).db.governanceVerdicts).map Reads.incidentRow := by
  intro i cursor
  have hKey : ∀ r, Reads.IncidentRow.key (Reads.incidentRow r) = Reads.verdictKey r := fun _ => rfl
  have hAllowed : ¬ ∃ wanted ∈ status, wanted ≠ "pending" ∧ wanted ≠ "resolved" := by
    rintro ⟨wanted, hWanted, hPending, hResolved⟩
    rcases hStatus wanted hWanted with h | h
    · exact hPending h
    · exact hResolved h
  unfold incidentsAnswer Reads.incidents
  rw [requestedCursor_encodeKey, Keyset.page_map hKey]
  simp only [run_raiseIf_bind, if_neg hAllowed, run_ofExcept_bind, run_read_bind, keysetPage_eq,
    run_pure]
  rfl

/-- Rows with distinct ids have distinct keys. -/
theorem nodup_rowKeys {ρ : Type} {key : ρ → RowKey} (id : ρ → String)
    (hId : ∀ r, (ofLex (key r)).2 = id r) {rows : List ρ} (h : (rows.map id).Nodup) :
    (rows.map key).Nodup := by
  have hIds : rows.map id = (rows.map key).map fun k => (ofLex k).2 := by
    simp only [List.map_map, Function.comp_def, hId]
  rw [hIds] at h
  exact List.Nodup.of_map _ h

/-- **Keyset pagination is exact.**  Every cursor is read back as the row it was made of.
A client that follows the cursors of the audit query, of a timeline or of the incidents,
with any accepted filter and any limits, from tables that are others at every request, is
served exactly. -/
theorem keyset_pagination_exact (readFloat : List Char → PyFloat) :
    (∀ createdAt id, decodeCursor readFloat (encodeCursor createdAt id) = some (createdAt, id)) ∧
      ∀ (orgId : String) (limits : Nat → Option Int) (stores : Nat → World),
        (∀ i, (stores i).db.Keyed) →
          (∀ params : AuditQueryRequest, params.check = .ok () →
            Keyset.Exact (auditAnswer readFloat orgId stores limits params) Operation.key
              fun i => params.matching orgId (stores i).db.operations) ∧
          (∀ runId : String,
            Keyset.Exact (timelineAnswer readFloat orgId stores limits runId)
              Reads.TimelineRow.key fun i =>
                (Reads.scopedVerdicts orgId runId (stores i).db.governanceVerdicts).map
                  Reads.timelineRow) ∧
          ∀ (runId status : Option String),
            (∀ wanted ∈ status, wanted = "pending" ∨ wanted = "resolved") →
              Keyset.Exact (incidentsAnswer readFloat orgId stores limits runId status)
                Reads.IncidentRow.key fun i =>
                  (Reads.matchingIncidents orgId runId status
                    (stores i).db.governanceVerdicts).map Reads.incidentRow := by
  refine ⟨decodeCursor_encodeCursor readFloat, fun orgId limits stores hKeyed => ?_⟩
  have hLimits : ∀ i, 0 < clampLimit (limits i) := fun i => clampLimit_pos _
  refine ⟨fun params hParams => ?_, fun runId => ?_, fun runId status hStatus => ?_⟩
  · refine (auditAnswer_serves hParams).exact (fun i => ?_) hLimits
    refine nodup_rowKeys Operation.operationId (fun _ => rfl) ?_
    refine List.Nodup.sublist (List.filter_sublist.map _) ?_
    rw [List.map_map]
    exact (hKeyed i).operations
  · refine (timelineAnswer_serves runId).exact (fun i => ?_) hLimits
    refine nodup_rowKeys Reads.TimelineRow.verdictId (fun _ => rfl) ?_
    rw [List.map_map]
    exact List.Nodup.sublist (List.filter_sublist.map _) (hKeyed i).verdicts
  · refine (incidentsAnswer_serves runId hStatus).exact (fun i => ?_) hLimits
    refine nodup_rowKeys Reads.IncidentRow.incidentId (fun _ => rfl) ?_
    rw [List.map_map]
    exact List.Nodup.sublist ((List.filter_sublist.trans List.filter_sublist).map _)
      (hKeyed i).verdicts

end Answers

namespace Sample

def pagedVerdict (verdictId : String) (createdAt : Int) : GovernanceVerdictRow where
  verdictId := verdictId
  recordId := verdictId
  correlationId := verdictId
  runId := some "run"
  orgId := "o"
  agentId := "a"
  decision := "ESCALATE"
  riskScore := .finite 0
  latencyMs := none
  preventedLoss := .finite 0
  r2VerdictKey := ""
  createdAt := createdAt

/-- Two verdicts of one time, and a newer one after the first request, as it may be inserted
between two pages. -/
def pagedStores (i : Nat) : World :=
  { clock := 0
    db :=
      { agents := []
        agentKeys := []
        governanceVerdicts :=
          [pagedVerdict "v1" 5, pagedVerdict "v2" 5] ++
            if i = 0 then [] else [pagedVerdict "v3" 6] } }

theorem pagedStores_keyed (i : Nat) : (pagedStores i).db.Keyed := by
  by_cases hFirst : i = 0
  · subst hFirst
    exact ⟨List.nodup_nil, by decide, List.nodup_nil⟩
  · refine ⟨List.nodup_nil, ?_, List.nodup_nil⟩
    simp only [pagedStores, if_neg hFirst]
    decide

def pagedAnswer : Nat → Option String → Except Failure (Keyset.Page Reads.TimelineRow String) :=
  timelineAnswer (fun _ => .nan) "o" pagedStores (fun _ => some 1) "run"

/-- With a row to a page, the client has the two verdicts in the end. -/
theorem keyset_pagination_exact_sample :
    Keyset.Exact pagedAnswer Reads.TimelineRow.key
        (fun i => (Reads.scopedVerdicts "o" "run" (pagedStores i).db.governanceVerdicts).map
          Reads.timelineRow) ∧
      (Keyset.received pagedAnswer 2).map Reads.TimelineRow.verdictId = ["v2", "v1"] :=
  ⟨((keyset_pagination_exact fun _ => .nan).2 "o" (fun _ => some 1) pagedStores
      pagedStores_keyed).2.1 "run",
    by decide +kernel⟩

end Sample

end AgentShield.Server
