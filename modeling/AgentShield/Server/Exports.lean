import AgentShield.Sdk.SigningString
import AgentShield.Server.EpochLedger

/-!
# What an export holds

An export reads the operations, then the verdicts, then the epochs, and stores what it has
read; operations and verdicts are committed in between.  It holds exactly the operations it
asks for among those of one moment of the request, so all that were there when it was made
and none of another organisation, and with every intent the verdict of the gate
(`createExport_since`).
-/

namespace AgentShield.Server

open AgentShield.Lib AgentShield.Lib.Async AgentShield.Sdk

/-! ## The document of an export -/

section Document

variable (orgId : String) (params : CreateExportRequest)

/-- The operations of an export. -/
def exportedOperations (ops : List OperationRow) : List OperationRow :=
  ops.filter fun row => params.Selects orgId row

/-- The verdicts of an export on its operations. -/
def exportedVerdicts (ops : List OperationRow) (verdicts : List GovernanceVerdictRow) :
    List GovernanceVerdictRow :=
  verdicts.filter fun v =>
    v.orgId = orgId ∧ v.recordId ∈ (exportedOperations orgId params ops).map (·.operationId)

/-- The document of an export: what was asked for, and the rows that were read for it. -/
def exportDocument (exportId : String) (now : Int) (ops : List OperationRow)
    (verdicts : List GovernanceVerdictRow) (epochs : List Epoch) : List (String × Json) :=
  [("export_id", Json.str exportId),
   ("org_id", .str orgId),
   ("query", (Json.obj (exportQuery params)).ordered),
   ("generated_at", .int now),
   ("operations", .arr ((exportedOperations orgId params ops).map OperationRow.toJson)),
   ("governance_verdicts",
     .arr ((exportedVerdicts orgId params ops verdicts).map GovernanceVerdictRow.toJson)),
   ("epochs", .arr (epochs.map Epoch.modelDump))]

/-- The document of an export as it is stored, with its members in order. -/
def exportArtifact (exportId : String) (now : Int) (ops : List OperationRow)
    (verdicts : List GovernanceVerdictRow) (epochs : List Epoch) : Json :=
  (Json.obj (exportDocument orgId params exportId now ops verdicts epochs)).ordered

/-- The row that an export stores, done from the start: the file has been written when the row
is inserted. -/
def exportRow (exportId : String) (now : Int) : ExportModel :=
  { exportId := exportId
    orgId := orgId
    status := .done
    queryParams := dumpsFlat (exportQuery params)
    r2ExportKey := some (exportKey orgId exportId params.format.value)
    createdAt := now
    completedAt := some now }

/-- **Every intent of an export has its verdict there.** -/
theorem exported_verdict {db db' : Database} (hGated : Gated db) (hGrows : db.Grows db')
    {r : OperationRow} (hr : r ∈ exportedOperations orgId params db.operations)
    (hPre : r.IsPreExec) :
    ∃ v ∈ exportedVerdicts orgId params db.operations db'.governanceVerdicts,
      v.recordId = r.operationId := by
  obtain ⟨hRow, hSelects⟩ := List.mem_filter.1 hr
  obtain ⟨hOrg, -⟩ := of_decide_eq_true hSelects
  obtain ⟨v, hGate, hAbout⟩ := hGated.issued r hRow hPre
  have hIssued : v.issued ∈ db'.governanceVerdicts.map GovernanceVerdictRow.issued :=
    hGrows.verdicts.subset (List.mem_map_of_mem hGate.stored)
  obtain ⟨v', hv', hSame⟩ := List.mem_map.1 hIssued
  have hRecord : v'.recordId = r.operationId := by
    rw [← hGate.record]
    show v'.issued.recordId = v.issued.recordId
    rw [hSame]
  have hVerdictOrg : v'.orgId = orgId := by
    rw [← hOrg, ← hAbout.orgId]
    show v'.issued.orgId = v.issued.orgId
    rw [hSame]
  refine ⟨v', List.mem_filter.2 ⟨hv', decide_eq_true ⟨hVerdictOrg, ?_⟩⟩, hRecord⟩
  rw [hRecord]
  exact List.mem_map_of_mem hr

end Document

/-! ## While nobody else writes the artifact -/

/-- The archive grows, and the object of the key stays when it is to be kept. -/
structure Archive.GrowsBeside {prim : Primitives} (sha256 : Sha256 prim) (keep : Prop)
    (key : String) (s s' : Archive) : Prop where
  grows : s.Grows sha256 s'
  object : keep → s'.world.get key = s.world.get key

section Beside

variable {prim : Primitives} {sha256 : Sha256 prim} {keep : Prop} {key : String}

instance growsBesideRefl : Std.Refl (Archive.GrowsBeside sha256 keep key) :=
  ⟨fun _ => ⟨refl _, fun _ => rfl⟩⟩

theorem growsBeside_trans {s s' s'' : Archive} (h : s.GrowsBeside sha256 keep key s')
    (h' : s'.GrowsBeside sha256 keep key s'') : s.GrowsBeside sha256 keep key s'' :=
  ⟨grows_trans h.grows h'.grows, fun hKeep => (h'.object hKeep).trans (h.object hKeep)⟩

instance growsBesideTrans : IsTrans Archive (Archive.GrowsBeside sha256 keep key) :=
  ⟨fun _ _ _ => growsBeside_trans⟩

end Beside

section Export

variable {settings : ArchiveSettings} {keep : Prop} {orgId exportId : String}
  {params : CreateExportRequest} {s₀ : Archive}

/-- The answer to an export that has read the operations in `s₁` and the verdicts in `s₂`. -/
structure ExportedAt (settings : ArchiveSettings) (keep : Prop) (orgId : String)
    (params : CreateExportRequest) (exportId : String) (s₁ s₂ : Archive) (now : Int)
    (epochs : List Epoch) (res : GetExportResponse) (s : Archive) : Prop where
  answer : res = { exported := exportRow orgId params exportId now
                   downloadUrl := some ("/v1/exports/" ++ exportId ++ "/download") }
  row : res.exported ∈ s.exports
  artifact : keep → params.format = .json →
    s.world.get (exportKey orgId exportId params.format.value) =
      some (.document (exportArtifact orgId params exportId now
        s₁.world.db.operations s₂.world.db.governanceVerdicts epochs))

theorem loadBodies_since (keys : List String) :
    GrowsSince settings (fun _ s => s₀.Grows settings.sha256 s) (loadBodies keys) s₀ := by
  induction keys generalizing s₀ with
  | nil => exact Since.pure fun s hs => hs
  | cons key keys ih =>
      refine Since.bind (loadJson_since _) fun body s hs => Since.bind ih fun bodies s' hs' => ?_
      exact Since.pure fun s'' hs'' => grows_trans hs (grows_trans hs' hs'')

/-- The file of an export is the document as JSON, or what the renderer makes of it. -/
theorem exportBody_since (format : ExportFormat) (payload : List (String × Json))
    (verdicts : List GovernanceVerdictRow) :
    GrowsSince settings (fun body s => s₀.Grows settings.sha256 s ∧
      (format = .json → body = .document (Json.obj payload).ordered))
      (exportBody settings format payload verdicts) s₀ := by
  cases format with
  | json => exact Since.pure fun s hs => ⟨hs, fun _ => rfl⟩
  | pdf =>
      refine Since.bind (loadBodies_since _) fun bodies s hs => Since.read_bind fun s' hs' => ?_
      intro s'' hs'' body _
      refine ⟨grows_trans hs (grows_trans hs' hs''), fun hFormat => ?_⟩
      cases hFormat

/-- Storing the row of an export is growth, and the row is there. -/
theorem insertExport_grows {s s' : Archive} {row : ExportModel}
    (h : s.insertExport row = .ok s') : s.Grows settings.sha256 s' ∧ row ∈ s'.exports := by
  unfold Archive.insertExport at h
  split at h
  · cases h
  · rename_i hFree
    cases h
    refine ⟨?_, List.mem_append_right _ List.mem_cons_self⟩
    exact
      { db := Database.grows_refl _
        epochs := ⟨[], (List.append_nil _).symm, fun _ he => (List.not_mem_nil he).elim⟩
        exports := List.prefix_append _ _
        exportIds := fun hIds => hIds.append (List.Sublist.refl _) (keyUnique_singleton _ _)
          fun r hr r' hr' hSame => hFree ⟨r, hr, by rw [hSame, List.mem_singleton.1 hr']⟩ }

/-- **An export** holds what it asks for of the operations of one moment, and of verdicts of
that moment or a later one. -/
theorem createExport_since :
    Since (Archive.GrowsBeside settings.sha256 keep
        (exportKey orgId exportId params.format.value)) (Archive.Grows settings.sha256)
      (fun res s => ∃ s₁ s₂ now epochs, s₀.Grows settings.sha256 s₁ ∧
        s₁.Grows settings.sha256 s₂ ∧ s₂.Grows settings.sha256 s ∧
        ExportedAt settings keep orgId params exportId s₁ s₂ now epochs res s)
      (createExport settings orgId params exportId) s₀ := by
  unfold createExport
  refine Since.raiseIf_bind fun _ => Since.read_bind fun s₁ hs₁ => ?_
  refine Since.read_bind fun s₂ hs₂ => Since.read_bind fun s₃ hs₃ => ?_
  refine Since.bind (computedEpochs_since.rely fun _ _ h => h.grows) fun epochs s₄ hs₄ => ?_
  refine Since.bind ((exportBody_since _ _ _).rely fun _ _ h => h.grows) fun body s₅ hs₅ => ?_
  refine Since.write_bind (fun s _ => grows_put _ _) fun s₆ hs₆ => ?_
  refine Since.attempt_bind fun s₇ s₈ hs₇ hInsert => ?_
  have hInserted : s₇.Grows settings.sha256 s₈ ∧ _ := insertExport_grows hInsert
  obtain ⟨hAdd, hRow⟩ := hInserted
  refine ⟨hAdd, Since.pure fun s₉ hs₉ => ?_⟩
  have hRead : s₂.Grows settings.sha256 s₆ :=
    grows_trans hs₃.grows (grows_trans hs₄.1 (grows_trans hs₅.1 hs₆.grows))
  have hPut : s₆.Grows settings.sha256 s₉ :=
    grows_trans (grows_trans (grows_put _ _) hs₇.grows) (grows_trans hAdd hs₉.grows)
  refine ⟨s₁, s₂, s₃.world.now, epochs, hs₁.grows, hs₂.grows, grows_trans hRead hPut, rfl, ?_, ?_⟩
  · exact hs₉.grows.exports.subset hRow
  · intro hKeep hFormat
    have hObjects : s₈.world = s₇.world := by
      rw [insertExport_ok hInsert]
    rw [hs₉.object hKeep, hObjects, hs₇.object hKeep, hs₅.2 hFormat]
    exact World.get_put_self _ _ _

end Export

end AgentShield.Server
