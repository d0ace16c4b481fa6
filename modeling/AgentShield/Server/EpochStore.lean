import AgentShield.Sdk.SigningString
import AgentShield.Server.EnvelopeRoundTrip
import AgentShield.Server.EpochCommitment
import AgentShield.Server.ObjectKeys

/-!
# The evidence of the persisted epochs

Requests run one after another, each to its end or to its first fault.  The scheduler puts
the evidence of an epoch before it inserts the row, the epoch read writes only while its
organisation has no row, and nothing else has an epoch's key; so every row has its evidence
(`archived_evident`), and an epoch that is found again is left alone (`tick_rests`).
-/

namespace AgentShield.Server

open AgentShield.Lib AgentShield.Lib.Async AgentShield.Sdk

/-! ## Requests one after another -/

/-- A request that is run to its end, or until one of its steps fails; or time passes. -/
inductive Turn where
  | request (req : ArchiveRequest) (faults : List Fault)
  | wait (ns : Nat)

section Turns

variable (settings : ArchiveSettings)

def Turn.run : Turn → Archive → Archive
  | .request req faults, s => (exec .backend (archive settings req) faults s).1
  | .wait ns, s => { s with world := s.world.tick ns }

/-- The archive after the turns. -/
def archived (turns : List Turn) (s : Archive) : Archive :=
  turns.foldl (fun s turn => turn.run settings s) s

theorem archived_cons (turn : Turn) (turns : List Turn) (s : Archive) :
    archived settings (turn :: turns) s = archived settings turns (turn.run settings s) := rfl

/-- The archive before its first request. -/
def Archive.initial (now : Int) (agents : List Agent) (agentKeys : List AgentKey) : Archive where
  world := .initial now agents agentKeys

/-- An object that the turn may store and that is not an epoch's. -/
def Turn.Ingests : Turn → StoredObject → Prop
  | .request req _, o => req.Writes o ∧ ∀ orgId epochId, o ≠ .epoch orgId epochId
  | .wait _, _ => False

end Turns

/-! ## Evidence -/

section Evidence

variable (settings : ArchiveSettings)

/-- The artifact that the server stores for an epoch. -/
def artifactOf (epoch : Epoch) : Body :=
  .ofJson (epochArtifact epoch (signEer settings.prim epoch settings.serverSigningKey))

def Archive.withArtifact (s : Archive) (epoch : Epoch) : Archive :=
  s.put epoch.r2EpochKey (artifactOf settings epoch)

/-- The row has evidence for what it says, with a signature of the server. -/
def HasEvidence (publicKey : String) (s : Archive) (epoch : Epoch) : Prop :=
  ∃ artifact fields eer, s.world.get epoch.r2EpochKey = some (.document artifact) ∧
    artifact.field? "eer" = some (.obj fields) ∧
    EER.modelValidate settings.py (.obj fields) = some eer ∧
    eer.epochId = epoch.epochId ∧ eer.orgId = epoch.orgId ∧ eer.rootHash = epoch.rootHash ∧
    eer.leafCount = epoch.leafCount ∧
    settings.prim.verifyEd25519 publicKey (eerSignable eer) eer.signatureByElydora = true

/-- Every row is of an epoch with an id from the alphabet, and has its artifact. -/
structure Archive.Evident (s : Archive) : Prop where
  formed : ∀ e ∈ s.epochs, e.Of e.orgId ∧ '/' ∉ e.epochId.toList
  stored : ∀ e ∈ s.epochs, s.world.get e.r2EpochKey = some (artifactOf settings e)

end Evidence

/-! ## Reading an artifact back -/

section ReadBack

variable {settings : ArchiveSettings}

theorem modelValidate_of_fields (py : Pydantic) (eer : EER) {doc : Json}
    (h : ∀ key, doc.field? key = eer.modelDump.field? key) :
    EER.modelValidate py doc = some eer := by
  have hEpoch : eer.modelDump.field? "epoch_id" = some (.str eer.epochId) := rfl
  have hOrg : eer.modelDump.field? "org_id" = some (.str eer.orgId) := rfl
  have hStart : eer.modelDump.field? "start_time" = some (.int eer.startTime) := rfl
  have hEnd : eer.modelDump.field? "end_time" = some (.int eer.endTime) := rfl
  have hCount : eer.modelDump.field? "leaf_count" = some (.int eer.leafCount) := rfl
  have hRoot : eer.modelDump.field? "root_hash" = some (.str eer.rootHash) := rfl
  have hAlg : eer.modelDump.field? "hash_alg" = some (.str eer.hashAlg) := rfl
  have hSignature : eer.modelDump.field? "signature_by_elydora" =
      some (.str eer.signatureByElydora) := rfl
  simp only [EER.modelValidate, requireField, h, hEpoch, hOrg, hStart, hEnd, hCount, hRoot, hAlg,
    hSignature, Option.bind_some, parseStr, py.intOf_int]
  rfl

/-- The fields of the evidence are scalars, which the store keeps. -/
theorem field?_stored (eer : EER) (key : String) :
    eer.modelDump.ordered.wire.field? key = eer.modelDump.field? key := by
  have hNames : ((eer.body ++ [("signature_by_elydora", Json.str eer.signatureByElydora)]).map
      Prod.fst).Nodup := by
    simp only [EER.body, List.cons_append, List.nil_append, List.map_cons, List.map_nil]
    decide
  have hScalar : ∀ v, eer.modelDump.field? key = some v → v.ordered.wire = v := by
    intro v hv
    have hMem := Dict.mem_of_get? hv
    simp only [EER.body, List.cons_append, List.nil_append, List.mem_cons, Prod.mk.injEq,
      List.not_mem_nil, or_false] at hMem
    rcases hMem with ⟨-, rfl⟩ | ⟨-, rfl⟩ | ⟨-, rfl⟩ | ⟨-, rfl⟩ | ⟨-, rfl⟩ | ⟨-, rfl⟩ | ⟨-, rfl⟩ |
      ⟨-, rfl⟩ <;> rfl
  rw [Json.field?_wire]
  unfold EER.modelDump at hScalar ⊢
  rw [Json.field?_ordered hNames]
  cases hField : (Json.obj (eer.body ++
      [("signature_by_elydora", .str eer.signatureByElydora)])).field? key with
  | none => rfl
  | some v => exact congrArg some (hScalar v hField)

/-- An object, with its entries in order and read back. -/
theorem ordered_wire_obj (fields : List (String × Json)) :
    ∃ fields', (Json.obj fields).ordered.wire = .obj fields' := ⟨_, rfl⟩

/-- The evidence of an artifact is the evidence that was put into it. -/
theorem storedEer_artifact (settings : ArchiveSettings) (epoch : Epoch) :
    ∃ fields eerFields, artifactOf settings epoch = .document (.obj fields) ∧
      (Json.obj fields).field? "eer" = some (.obj eerFields) ∧
      EER.modelValidate settings.py (.obj eerFields) =
        some (signEer settings.prim epoch settings.serverSigningKey) := by
  let eer := signEer settings.prim epoch settings.serverSigningKey
  obtain ⟨fields, hFields⟩ := ordered_wire_obj [("epoch", epoch.modelDump), ("eer", eer.modelDump)]
  obtain ⟨eerFields, hEer⟩ := ordered_wire_obj
    (eer.body ++ [("signature_by_elydora", .str eer.signatureByElydora)])
  refine ⟨fields, eerFields, congrArg Body.document hFields, ?_, ?_⟩
  · rw [← hFields, Json.field?_wire, Json.field?_ordered (by simp)]
    have hField : (Json.obj [("epoch", epoch.modelDump), ("eer", eer.modelDump)]).field? "eer" =
        some eer.modelDump := rfl
    rw [hField]
    exact congrArg some hEer
  · rw [← hEer]
    exact modelValidate_of_fields settings.py eer (field?_stored eer)

theorem Archive.Evident.hasEvidence {s : Archive} {publicKey : String} (h : s.Evident settings)
    (hKeys : KeyPair settings.prim settings.serverSigningKey publicKey) :
    ∀ e ∈ s.epochs, HasEvidence settings publicKey s e := by
  intro e he
  obtain ⟨fields, eerFields, hArtifact, hEer, hRead⟩ := storedEer_artifact settings e
  exact ⟨_, eerFields, _, (h.stored e he).trans (congrArg some hArtifact), hEer, hRead, rfl, rfl,
    rfl, rfl, hKeys _⟩

theorem epochKey_ne_empty (orgId epochId : String) : epochKey orgId epochId ≠ "" := by
  intro h
  have hLength := congrArg String.length h
  simp [epochKey] at hLength

/-- The read of a row's evidence finds it. -/
theorem Archive.Evident.storedEer {s : Archive} (h : s.Evident settings) {e : Epoch}
    (he : e ∈ s.epochs) : ∃ artifact, run (loadJson (some e.r2EpochKey)) s = (s, .ok artifact) ∧
      storedEer settings e artifact =
        .ok (some (signEer settings.prim e settings.serverSigningKey)) := by
  obtain ⟨fields, eerFields, hArtifact, hEer, hRead⟩ := storedEer_artifact settings e
  have hKey : e.r2EpochKey ≠ "" := by
    rw [(h.formed e he).1.key]
    exact epochKey_ne_empty _ _
  have hStored := h.stored e he
  rw [hArtifact] at hStored
  refine ⟨some (Json.obj fields), ?_, ?_⟩
  · simp only [loadJson, if_neg hKey]
    unfold Async.read act run
    simp only [hStored]
    rfl
  · simp only [Server.storedEer, Option.bind_some, hEer, hRead]
    exact congrArg Except.ok (if_pos ⟨rfl, rfl⟩)

end ReadBack

/-! ## What a request leaves -/

section Requests

variable {settings : ArchiveSettings} {orgId : String} {s : Archive}

/-- An epoch of the rows is formed. -/
theorem epochFromOperationRows_formed {prim : Primitives} {sha256 : Sha256 prim}
    {rows : List OperationRow} {epoch : Epoch}
    (h : epochFromOperationRows sha256 orgId rows = some epoch) :
    epoch.orgId = orgId ∧ epoch.Of epoch.orgId ∧ '/' ∉ epoch.epochId.toList := by
  have hOf := epochFromOperationRows_of h
  refine ⟨hOf.org, hOf.org ▸ hOf, ?_⟩
  rw [epochFromOperationRows_eq] at h
  simp only [Option.bind_eq_bind, Option.bind_eq_some_iff, Option.pure_def,
    Option.some.injEq] at h
  obtain ⟨startTime, -, endTime, -, rfl⟩ := h
  have hId : (epochOver sha256 orgId startTime endTime (leavesOf (rowsOf orgId rows))).epochId =
      "epoch_" ++ base64urlEncode (sha256.digest (utf8 (epochSeed orgId startTime endTime
        (rootHashOf sha256 (leavesOf (rowsOf orgId rows)))
        (leavesOf (rowsOf orgId rows)).length))) := by
    rw [← sha256.sha256Base64url_eq]
    rfl
  rw [hId, String.toList_append, List.mem_append, not_or]
  exact ⟨by decide, slash_notMem_base64urlEncode _⟩

/-- Formed epochs with one key have one organisation and one id. -/
theorem formed_key_inj {e e' : Epoch} (h : e.Of e.orgId ∧ '/' ∉ e.epochId.toList)
    (h' : e'.Of e'.orgId ∧ '/' ∉ e'.epochId.toList) (hKey : e.r2EpochKey = e'.r2EpochKey) :
    e.orgId = e'.orgId ∧ e.epochId = e'.epochId := by
  have hText : ∀ orgId epochId : String, (StoredObject.epoch orgId epochId).key.toList =
      (orgId.toList ++ "/epochs".toList) ++ '/' :: (epochId.toList ++ ".json".toList) := by
    intro orgId epochId
    simp [StoredObject.key, epochKey]
  have hName : ∀ epochId : String,
      '/' ∉ epochId.toList → '/' ∉ epochId.toList ++ ".json".toList := by
    intro epochId hSlash
    rw [List.mem_append, not_or]
    exact ⟨hSlash, by decide⟩
  rw [h.1.key, h'.1.key, ← String.toList_inj, hText, hText] at hKey
  obtain ⟨hOrg, hId⟩ := Delimited.cut_last (hName _ h.2) (hName _ h'.2) hKey
  exact ⟨String.toList_inj.1 (List.append_cancel_right hOrg),
    String.toList_inj.1 (List.append_cancel_right hId)⟩

/-- Loading a document changes nothing. -/
theorem run_loadJson (key : Option String) (s : Archive) :
    ∃ doc, run (loadJson key) s = (s, .ok doc) := by
  cases key with
  | none => exact ⟨none, rfl⟩
  | some key =>
      by_cases hEmpty : key = ""
      · exact ⟨none, by simp only [loadJson, if_pos hEmpty, run_pure]⟩
      · simp only [loadJson, if_neg hEmpty]
        exact ⟨_, rfl⟩

theorem loadJson_visits {α : Type} {P : Archive → Prop} {key : Option String}
    {next : Option Json → ArchiveHandler α} (h0 : P s)
    (h : ∀ doc, run (loadJson key) s = (s, .ok doc) → Visits P (next doc) s) :
    Visits P (loadJson key >>= next) s := by
  refine Visits.bind ?_ fun s' doc hRun => ?_
  · unfold loadJson
    split
    · exact h0
    · split
      · exact h0
      · exact ⟨h0, h0⟩
  · obtain ⟨doc', hRun'⟩ := run_loadJson key s
    obtain rfl := (Prod.mk.inj (hRun'.symm.trans hRun)).1
    exact h doc hRun

/-- What a run of the scheduler's tick comes through: the state before, the artifact that is
stored, and the row that is inserted. -/
theorem runEpochOnce_visits {P : Archive → Prop} (h0 : P s)
    (hNew : ∀ epoch, epochFromOperationRows settings.sha256 orgId s.world.db.operations =
        some epoch →
      (∀ e ∈ s.epochs, ¬ (e.orgId = orgId ∧ e.epochId = epoch.epochId)) →
      P (s.withArtifact settings epoch) ∧
        P { s.withArtifact settings epoch with epochs := s.epochs ++ [epoch] }) :
    Visits P (runEpochOnce settings orgId) s := by
  unfold runEpochOnce
  refine Visits.read_bind ?_
  cases hEpoch : epochFromOperationRows settings.sha256 orgId s.world.db.operations with
  | none => exact h0
  | some epoch =>
      refine Visits.read_bind ?_
      cases hFound : s.epochs.find? fun e => e.orgId = orgId ∧ e.epochId = epoch.epochId with
      | some persisted =>
          exact loadJson_visits h0 fun artifact _ => Visits.ofExcept_bind h0 fun _ _ => h0
      | none =>
          have hFresh : ∀ e ∈ s.epochs, ¬ (e.orgId = orgId ∧ e.epochId = epoch.epochId) := by
            intro e he
            simpa using List.find?_eq_none.1 hFound e he
          obtain ⟨hPut, hRow⟩ := hNew epoch hEpoch hFresh
          unfold storeArtifact
          refine ⟨h0, Visits.attempt_bind hPut fun s' hInsert => ?_⟩
          rw [insertEpoch_ok hInsert]
          exact hRow

/-- The rows of an organisation, the latest first. -/
def Archive.persisted (s : Archive) (orgId : String) : List Epoch :=
  (s.epochs.filter fun e => e.orgId = orgId).insertionSort fun e e' => e'.createdAt ≤ e.createdAt

theorem mem_persisted {e : Epoch} :
    e ∈ s.persisted orgId ↔ e ∈ s.epochs ∧ e.orgId = orgId := by
  unfold Archive.persisted
  rw [List.mem_insertionSort, List.mem_filter, decide_eq_true_iff]

theorem run_epochCandidates (s : Archive) (orgId : String) :
    run (epochCandidates settings orgId (s.persisted orgId)) s =
      (s, .ok (if s.persisted orgId ≠ [] then s.persisted orgId
        else (epochFromOperationRows settings.sha256 orgId s.world.db.operations).toList)) := by
  unfold epochCandidates
  by_cases hNone : s.persisted orgId ≠ []
  · rw [if_pos hNone, if_pos hNone]
    rfl
  · rw [if_neg hNone, if_neg hNone]
    unfold computedEpochs persistedEpochs
    rw [run_read_bind]
    change run (if s.persisted orgId ≠ [] then _ else _) s = _
    rw [if_neg hNone]
    rfl

/-- What a run of the epoch read comes through: it writes only for an organisation without
rows. -/
theorem epochDetail_visits {P : Archive → Prop} (epochId : String) (hEvident : s.Evident settings)
    (h0 : P s)
    (hNew : ∀ epoch, epochFromOperationRows settings.sha256 orgId s.world.db.operations =
        some epoch →
      (∀ e ∈ s.epochs, e.orgId ≠ orgId) → P (s.withArtifact settings epoch)) :
    Visits P (epochDetail settings orgId epochId) s := by
  have hRows : ∀ {α : Type} {next : List Epoch → ArchiveHandler α},
      Visits P (next (s.persisted orgId)) s → Visits P (persistedEpochs orgId >>= next) s :=
    fun h => ⟨h.start, h⟩
  unfold epochDetail
  refine hRows ?_
  refine Visits.bind ?_ fun s₁ candidates hRun => ?_
  · unfold epochCandidates
    split
    · exact h0
    · unfold computedEpochs
      refine hRows ?_
      split
      · exact h0
      · exact ⟨h0, h0⟩
  · rw [run_epochCandidates] at hRun
    obtain ⟨hSame, hCandidates⟩ := Prod.mk.inj hRun
    subst hSame
    obtain rfl := Except.ok.inj hCandidates
    refine Visits.require_bind h0 fun epoch hFound => ?_
    have hMem := List.mem_of_find?_eq_some hFound
    by_cases hSome : s.persisted orgId ≠ []
    · rw [if_pos hSome] at hMem
      obtain ⟨artifact, hLoad, hStored⟩ := hEvident.storedEer (mem_persisted.1 hMem).1
      refine loadJson_visits h0 fun artifact' hRun' => ?_
      rw [hLoad] at hRun'
      obtain rfl := Except.ok.inj (Prod.mk.inj hRun').2
      rw [if_pos hSome, hStored]
      exact h0
    · rw [if_neg hSome] at hMem
      have hNone : ∀ e ∈ s.epochs, e.orgId ≠ orgId := by
        intro e he hOrg
        have hIn : e ∈ s.persisted orgId := mem_persisted.2 ⟨he, hOrg⟩
        rw [not_not.1 hSome] at hIn
        cases hIn
      have hPut := hNew epoch (Option.mem_toList.1 hMem) hNone
      refine loadJson_visits h0 fun artifact _ => ?_
      rw [if_neg hSome]
      exact ⟨h0, hPut⟩

/-- After a tick with a result the epoch of the rows is persisted, by this tick or by one
before it, and the tables of the server are as they were. -/
theorem runEpochOnce_persists {s' : Archive} {result : EpochSchedulerResult}
    (hRun : run (runEpochOnce settings orgId) s = (s', .ok result)) :
    s'.world.db = s.world.db ∧
      ∀ epoch, epochFromOperationRows settings.sha256 orgId s.world.db.operations = some epoch →
        ∃ e ∈ s'.epochs, e.orgId = orgId ∧ e.epochId = epoch.epochId := by
  unfold runEpochOnce persistedEpoch at hRun
  rw [run_read_bind] at hRun
  cases hEpoch : epochFromOperationRows settings.sha256 orgId s.world.db.operations with
  | none =>
      simp only [hEpoch, run_pure] at hRun
      obtain rfl := (Prod.mk.inj hRun).1
      exact ⟨rfl, fun epoch h => by cases h⟩
  | some epoch =>
      simp only [hEpoch, run_read_bind] at hRun
      cases hFound : s.epochs.find? fun e => e.orgId = orgId ∧ e.epochId = epoch.epochId with
      | some persisted =>
          obtain ⟨doc, hLoad⟩ := run_loadJson (some persisted.r2EpochKey) s
          simp only [hFound] at hRun
          rw [run_bind, hLoad] at hRun
          simp only [run_ofExcept_bind] at hRun
          have hSame : s' = s := by
            split at hRun
            · exact (Prod.mk.inj hRun).1.symm
            · exact absurd (Prod.mk.inj hRun).2 nofun
          rw [hSame]
          refine ⟨rfl, fun epoch' h => ?_⟩
          obtain rfl := Option.some.inj h
          have hRow := List.find?_some hFound
          exact ⟨persisted, List.mem_of_find?_eq_some hFound, by simpa using hRow⟩
      | none =>
          simp only [hFound, storeArtifact, bind_assoc', run_write_bind, pure_bind',
            run_attempt_bind] at hRun
          cases hInsert : (s.withArtifact settings epoch).insertEpoch epoch with
          | error e =>
              simp only [Archive.withArtifact, artifactOf] at hInsert
              simp only [hInsert] at hRun
              exact absurd (Prod.mk.inj hRun).2 nofun
          | ok s₁ =>
              have hRow := insertEpoch_ok hInsert
              simp only [Archive.withArtifact, artifactOf] at hInsert
              simp only [hInsert] at hRun
              obtain rfl := (Prod.mk.inj hRun).1
              rw [hRow]
              refine ⟨rfl, fun epoch' h => ?_⟩
              obtain rfl := Option.some.inj h
              exact ⟨epoch, List.mem_append_right _ List.mem_cons_self,
                (epochFromOperationRows_formed hEpoch).1, rfl⟩

end Requests

/-! ## Runs of turns -/

section Runs

variable {settings : ArchiveSettings} {orgId : String} {s : Archive}

/-- Rows are only added. -/
theorem ArchiveStep.epochs_subset {req : ArchiveRequest} {s s' : Archive}
    (h : ArchiveStep settings req s s') : s.epochs ⊆ s'.epochs := by
  cases h with
  | insertEpoch _ _ _ h =>
      rw [insertEpoch_ok h]
      exact List.subset_append_left _ _
  | insertExport _ _ h =>
      rw [insertExport_ok h]
      exact List.Subset.refl _
  | _ => exact List.Subset.refl _

theorem Turn.run_epochs (settings : ArchiveSettings) (turn : Turn) (hKeyed : s.Keyed) :
    s.epochs ⊆ (turn.run settings s).epochs ∧ (turn.run settings s).Keyed := by
  cases turn with
  | wait ms => exact ⟨List.Subset.refl _, hKeyed⟩
  | request req faults =>
      have hSteps : Steps (fun s' => s.epochs ⊆ s'.epochs ∧ s'.Keyed) (ArchiveStep settings req)
          (fun _ => True) (archive settings req) :=
        (archive_steps req).weaken fun _ h => h.2
      have hVisits := hSteps.visits
        (fun _ _ h hStep => ⟨List.Subset.trans h.1 hStep.epochs_subset, hStep.keyed h.2⟩)
        ⟨List.Subset.refl _, hKeyed⟩
      exact hVisits.exec .backend faults

theorem archived_epochs (settings : ArchiveSettings) (turns : List Turn) (hKeyed : s.Keyed) :
    s.epochs ⊆ (archived settings turns s).epochs ∧ (archived settings turns s).Keyed := by
  induction turns generalizing s with
  | nil => exact ⟨List.Subset.refl _, hKeyed⟩
  | cons turn turns ih =>
      obtain ⟨hSub, hNext⟩ := turn.run_epochs settings hKeyed
      obtain ⟨hRest, hEnd⟩ := ih hNext
      exact ⟨List.Subset.trans hSub hRest, hEnd⟩

theorem Archive.Evident.keyed (h : s.Evident settings) : s.Keyed := fun e he => (h.formed e he).1

/-- The requests besides those of the epochs leave the rows and what is under their keys. -/
theorem other_request_frame (settings : ArchiveSettings) {req : ArchiveRequest}
    (hKeyed : s.Keyed)
    (hOther : ∀ o, req.Writes o → ∀ orgId epochId, o ≠ .epoch orgId epochId)
    (hTick : ∀ orgId, req ≠ .runEpochOnce orgId)
    (hApart : ∀ o, req.Writes o → ∀ e ∈ s.epochs, o.key ≠ e.r2EpochKey) (faults : List Fault) :
    let s' := exec .backend (archive settings req) faults s
    s'.1.epochs = s.epochs ∧
      ∀ e ∈ s.epochs, s'.1.world.get e.r2EpochKey = s.world.get e.r2EpochKey := by
  have hSteps : Steps (fun s' => s'.Keyed ∧ s'.epochs = s.epochs ∧
      ∀ e ∈ s.epochs, s'.world.get e.r2EpochKey = s.world.get e.r2EpochKey)
      (ArchiveStep settings req) (fun _ => True) (archive settings req) :=
    (archive_steps req).weaken fun _ h => h.1
  have hVisits := hSteps.visits (fun s₁ s₂ h hStep => ?_) ⟨hKeyed, rfl, fun _ _ => rfl⟩
  · exact (hVisits.exec .backend faults).2
  · obtain ⟨hKeyed₁, hRows, hObjects⟩ := h
    have hRows' : s₂.epochs = s.epochs := by
      cases hStep with
      | insertEpoch orgId _ _ _ => exact absurd rfl (hTick orgId)
      | insertExport _ _ h =>
          rw [insertExport_ok h]
          exact hRows
      | _ => exact hRows
    refine ⟨hStep.keyed hKeyed₁, hRows', fun e he => ?_⟩
    rw [← hObjects e he]
    unfold World.get
    rcases hStep.objects with hSame | ⟨o, body, hWrites, hPut⟩
    · rw [hSame]
    · rw [hPut]
      exact (World.get_put _ _ _ _).trans (if_neg (hApart o hWrites e he))

/-- An artifact beside the rows. -/
theorem Archive.Evident.withArtifact (h : s.Evident settings) {epoch : Epoch}
    (hFresh : ∀ e ∈ s.epochs, e.r2EpochKey ≠ epoch.r2EpochKey) :
    (s.withArtifact settings epoch).Evident settings where
  formed := h.formed
  stored e he := by
    have hStored := h.stored e he
    rw [← hStored]
    exact (World.get_put _ _ _ _).trans (if_neg fun hKey => hFresh e he hKey.symm)

theorem Archive.Evident.insert (h : s.Evident settings) {epoch : Epoch}
    (hFormed : epoch.Of epoch.orgId ∧ '/' ∉ epoch.epochId.toList)
    (hFresh : ∀ e ∈ s.epochs, e.r2EpochKey ≠ epoch.r2EpochKey) :
    ({ s.withArtifact settings epoch with epochs := s.epochs ++ [epoch] } :
      Archive).Evident settings where
  formed e he := by
    rcases List.mem_append.1 he with he | he
    · exact h.formed e he
    · rw [List.mem_singleton.1 he]
      exact hFormed
  stored e he := by
    rcases List.mem_append.1 he with he | he
    · exact (h.withArtifact hFresh).stored e he
    · rw [List.mem_singleton.1 he]
      exact World.get_put_self _ _ _

/-- **One turn** keeps the evidence, when it stores nothing else under the key of a row. -/
theorem Turn.run_evident (turn : Turn) (h : s.Evident settings)
    (hApart : ∀ o, turn.Ingests o → ∀ e ∈ s.epochs, o.key ≠ e.r2EpochKey) :
    (turn.run settings s).Evident settings := by
  have hFrame : ∀ {req : ArchiveRequest} {faults : List Fault}, turn = .request req faults →
      (∀ o, req.Writes o → ∀ orgId epochId, o ≠ .epoch orgId epochId) →
      (∀ orgId, req ≠ .runEpochOnce orgId) →
      ((exec .backend (archive settings req) faults s).1).Evident settings := by
    rintro req faults rfl hOther hTick
    obtain ⟨hRows, hObjects⟩ := other_request_frame settings h.keyed hOther hTick
      (fun o hWrites => hApart o ⟨hWrites, hOther o hWrites⟩) faults
    refine ⟨fun e he => h.formed e (hRows ▸ he), fun e he => ?_⟩
    rw [hRows] at he
    rw [hObjects e he]
    exact h.stored e he
  cases turn with
  | wait ms => exact ⟨h.formed, h.stored⟩
  | request req faults =>
      cases req with
      | server req =>
          refine hFrame rfl (fun o hWrites orgId epochId => ?_) fun _ hTick => by cases hTick
          rintro rfl
          cases req with
          | ingest req =>
              cases req with
              | decide rec govApp latencyMs =>
                  have hMem : StoredObject.epoch orgId epochId ∈
                      verdictObjects rec (govApp rec) := by
                    simpa [ArchiveRequest.Writes, PlatformRequest.objects] using hWrites
                  cases hAnswer : govApp rec <;> simp [hAnswer, verdictObjects] at hMem
              | _ => simp [ArchiveRequest.Writes, PlatformRequest.objects] at hWrites
          | _ => simp [ArchiveRequest.Writes, PlatformRequest.objects] at hWrites
      | createExport orgId params exportId =>
          refine hFrame rfl (fun o hWrites orgId' epochId hEpoch => ?_)
            fun _ hTick => by cases hTick
          have hExport : o = .exportFile orgId exportId params.format.value := hWrites
          cases hExport.symm.trans hEpoch
      | runEpochOnce orgId =>
          have hVisits :
              Visits (fun s' => s'.Evident settings) (runEpochOnce settings orgId) s := by
            refine runEpochOnce_visits h fun epoch hEpoch hNone => ?_
            obtain ⟨hOrg, hFormed⟩ := epochFromOperationRows_formed hEpoch
            have hFresh : ∀ e ∈ s.epochs, e.r2EpochKey ≠ epoch.r2EpochKey := by
              intro e he hKey
              obtain ⟨hOrg', hId⟩ := formed_key_inj (h.formed e he) hFormed hKey
              exact hNone e he ⟨hOrg'.trans hOrg, hId⟩
            exact ⟨h.withArtifact hFresh, h.insert hFormed hFresh⟩
          exact (hVisits.map ArchiveResponse.ticked).exec .backend faults
      | epochDetail orgId epochId =>
          have hVisits : Visits (fun s' => s'.Evident settings)
              (epochDetail settings orgId epochId) s := by
            refine epochDetail_visits epochId h h fun epoch hEpoch hNone => ?_
            obtain ⟨hOrg, hFormed⟩ := epochFromOperationRows_formed hEpoch
            refine h.withArtifact fun e he hKey => ?_
            exact hNone e he ((formed_key_inj (h.formed e he) hFormed hKey).1.trans hOrg)
          exact (hVisits.map ArchiveResponse.epoch).exec .backend faults

/-- While nothing else is stored under the key of a row, every row has its evidence. -/
theorem archived_evident {turns : List Turn} (h : s.Evident settings)
    (hApart : ∀ turn ∈ turns, ∀ o, turn.Ingests o →
      ∀ e ∈ (archived settings turns s).epochs, o.key ≠ e.r2EpochKey) :
    (archived settings turns s).Evident settings := by
  induction turns generalizing s with
  | nil => exact h
  | cons turn turns ih =>
      obtain ⟨hSub, hKeyed⟩ := turn.run_epochs settings h.keyed
      have hRest := (archived_epochs settings turns hKeyed).1
      have hTurn := turn.run_evident h fun o hIngests e he =>
        hApart turn List.mem_cons_self o hIngests e (hRest (hSub he))
      exact ih hTurn fun turn' hTurn' => hApart turn' (List.mem_cons_of_mem _ hTurn')

/-- A tick finds an epoch that is there, and changes nothing. -/
theorem tick_rests (hKnown : ∀ epoch,
      epochFromOperationRows settings.sha256 orgId s.world.db.operations = some epoch →
        ∃ e ∈ s.epochs, e.orgId = orgId ∧ e.epochId = epoch.epochId) (faults : List Fault) :
    (Turn.request (.runEpochOnce orgId) faults).run settings s = s := by
  have hVisits : Visits (fun s' => s' = s) (runEpochOnce settings orgId) s := by
    refine runEpochOnce_visits rfl fun epoch hEpoch hNone => ?_
    obtain ⟨e, he, hSame⟩ := hKnown epoch hEpoch
    exact absurd hSame (hNone e he)
  exact (hVisits.map ArchiveResponse.ticked).exec .backend faults

end Runs

/-- **Epoch store consistency.**  Whatever requests are run one after another, and whatever
steps of them fail, every row of the epochs has evidence for what it says under a signature
of the server, unless an object of another kind was stored under its key; and once a tick has
ended with a result, no tick for its organisation changes anything until there are operations
that it has not seen. -/
theorem epoch_store_consistent (settings : ArchiveSettings) {publicKey : String}
    (hKeys : KeyPair settings.prim settings.serverSigningKey publicKey) (now : Int)
    (agents : List Agent) (agentKeys : List AgentKey) :
    (∀ turns : List Turn,
      (∀ turn ∈ turns, ∀ o, turn.Ingests o →
        ∀ e ∈ (archived settings turns (.initial now agents agentKeys)).epochs,
          o.key ≠ e.r2EpochKey) →
      ∀ e ∈ (archived settings turns (.initial now agents agentKeys)).epochs,
        HasEvidence settings publicKey
          (archived settings turns (.initial now agents agentKeys)) e) ∧
    ∀ (before after : List Turn) (orgId : String) (faults faults' : List Fault)
      (ticked : Archive) (result : ArchiveResponse),
      exec .backend (archive settings (.runEpochOnce orgId)) faults
        (archived settings before (.initial now agents agentKeys)) = (ticked, .ok result) →
      rowsOf orgId (archived settings after ticked).world.db.operations =
        rowsOf orgId ticked.world.db.operations →
      (Turn.request (.runEpochOnce orgId) faults').run settings (archived settings after ticked) =
        archived settings after ticked := by
  have hStart : (Archive.initial now agents agentKeys).Evident settings :=
    ⟨fun _ he => (List.not_mem_nil he).elim, fun _ he => (List.not_mem_nil he).elim⟩
  refine ⟨fun turns hApart => (archived_evident hStart hApart).hasEvidence hKeys, ?_⟩
  intro before after orgId faults faults' ticked result hTick hRows
  have hTurn : (Turn.request (.runEpochOnce orgId) faults).run settings
      (archived settings before (.initial now agents agentKeys)) = ticked :=
    congrArg Prod.fst hTick
  have hKeyed : ticked.Keyed := by
    have hBefore := (archived_epochs settings before hStart.keyed).2
    rw [← hTurn]
    exact (Turn.run_epochs settings _ hBefore).2
  have hRun := exec_ok hTick
  simp only [archive] at hRun
  rw [run_bind] at hRun
  split at hRun
  · rename_i s' res hOnce
    obtain rfl := (Prod.mk.inj hRun).1
    obtain ⟨hDb, hPersisted⟩ := runEpochOnce_persists hOnce
    refine tick_rests (fun epoch hEpoch => ?_) faults'
    rw [epochFromOperationRows_eq, hRows, ← epochFromOperationRows_eq, hDb] at hEpoch
    obtain ⟨e, he, hSame⟩ := hPersisted epoch hEpoch
    exact ⟨e, (archived_epochs settings after hKeyed).1 he, hSame⟩
  · exact absurd (Prod.mk.inj hRun).2 nofun

namespace Sample

/-- A server with SHA-256 itself. -/
def epochSettings : ArchiveSettings where
  prim := shaPrim
  serverSigningKey := "seed"
  sha256 := sha256
  py := pydantic
  renderCompliancePdf _ := .ok .notJson

/-- An operation is ingested. -/
def ingestTurn : Turn :=
  .request (.server (.ingest (.submit (operation "op1" "n1" 1000 genesisChainHash) "r1"))) []

def tickTurn : Turn := .request (.runEpochOnce "o") []

def epochStart : Archive := .initial 1000 agents agentKeys

/-- The id of the epoch of the operation. -/
def firstEpochId : String :=
  (((archived epochSettings [ingestTurn, tickTurn] epochStart).epochs.map
    (·.epochId)).head?).getD ""

/-- An operation, a tick and a read of its epoch. -/
def epochTurns : List Turn :=
  [ingestTurn, tickTurn, .request (.epochDetail "o" firstEpochId) []]

end Sample

theorem epoch_store_consistent_sample :
    (archived Sample.epochSettings Sample.epochTurns Sample.epochStart).epochs.length = 1 ∧
      (∀ e ∈ (archived Sample.epochSettings Sample.epochTurns Sample.epochStart).epochs,
        HasEvidence Sample.epochSettings "pk"
          (archived Sample.epochSettings Sample.epochTurns Sample.epochStart) e) ∧
      Sample.tickTurn.run Sample.epochSettings
          (archived Sample.epochSettings Sample.epochTurns Sample.epochStart) =
        archived Sample.epochSettings Sample.epochTurns Sample.epochStart := by
  have hKeys : KeyPair Sample.epochSettings.prim Sample.epochSettings.serverSigningKey "pk" :=
    fun _ => rfl
  have hConsistent := epoch_store_consistent Sample.epochSettings hKeys 1000 Sample.agents
    Sample.agentKeys
  refine ⟨by decide +kernel, hConsistent.1 Sample.epochTurns ?_, ?_⟩
  · have hApart : ∀ e ∈ (archived Sample.epochSettings Sample.epochTurns Sample.epochStart).epochs,
        recordKey "o" "a" "op1" ≠ e.r2EpochKey ∧ receiptKey "o" "a" "op1" ≠ e.r2EpochKey := by
      decide +kernel
    intro turn hTurn o hIngests e he
    simp only [Sample.epochTurns, List.mem_cons, List.not_mem_nil, or_false] at hTurn
    rcases hTurn with rfl | rfl | rfl
    · have hObject : o ∈ [StoredObject.envelope "o" "a" "op1", .receipt "o" "a" "op1"] := hIngests.1
      simp only [List.mem_cons, List.not_mem_nil, or_false] at hObject
      rcases hObject with rfl | rfl
      · exact (hApart e he).1
      · exact (hApart e he).2
    · obtain ⟨epochId, hEpoch⟩ := hIngests.1
      exact absurd hEpoch (hIngests.2 _ _)
    · exact absurd hIngests.1 (hIngests.2 _ _)
  · obtain ⟨result, hResult⟩ : ∃ result, (exec .backend
        (archive Sample.epochSettings (.runEpochOnce "o")) []
        (archived Sample.epochSettings [Sample.ingestTurn] Sample.epochStart)).2 = .ok result := by
      have hSome : (exec .backend (archive Sample.epochSettings (.runEpochOnce "o")) []
          (archived Sample.epochSettings [Sample.ingestTurn]
            Sample.epochStart)).2.toOption.isSome = true := by
        decide +kernel
      cases hAnswer : (exec .backend (archive Sample.epochSettings (.runEpochOnce "o")) []
          (archived Sample.epochSettings [Sample.ingestTurn] Sample.epochStart)).2 with
      | ok result => exact ⟨result, rfl⟩
      | error e =>
          rw [hAnswer] at hSome
          cases hSome
    have hRests := hConsistent.2 [Sample.ingestTurn]
      [.request (.epochDetail "o" Sample.firstEpochId) []] "o" [] []
      (Sample.tickTurn.run Sample.epochSettings
        (archived Sample.epochSettings [Sample.ingestTurn] Sample.epochStart)) result
      (Prod.ext rfl hResult) (by decide +kernel)
    rw [Sample.epochTurns, archived_cons, archived_cons]
    exact hRests

end AgentShield.Server
