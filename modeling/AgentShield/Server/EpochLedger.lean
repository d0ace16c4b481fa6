import AgentShield.Lib.Since
import AgentShield.Server.EpochCommitment
import AgentShield.Server.Growth

/-!
# The ledger of epochs

An epoch commits to the first operations of its organisation: as many as it has leaves.  A
handler that is resumed between the steps of others keeps every epoch that is stored or shown
so (`Archive.Grows`), and what a tick of the scheduler returns covers what it has read
(`Ticked`).
-/

namespace AgentShield.Server

open AgentShield.Lib AgentShield.Lib.Async AgentShield.Sdk

/-! ## Epochs of the first operations -/

section CommitsTo

variable {prim : Primitives} (sha256 : Sha256 prim)

/-- The epoch is the one of the first operations of its organisation. -/
structure CommitsTo (ops : List OperationRow) (e : Epoch) : Prop where
  bound : e.leafCount ≤ (rowsOf e.orgId ops).length
  epoch : epochFromOperationRows sha256 e.orgId ((rowsOf e.orgId ops).take e.leafCount.toNat) =
    some e

/-- What is hashed for the id of an epoch. -/
def Epoch.seed (e : Epoch) : String :=
  epochSeed e.orgId e.startTime e.endTime e.rootHash e.leafCount.toNat

/-- SHA-256 does not collide on the seeds of the organisation's epochs. -/
def SeedsApart (orgId : String) (ops : List OperationRow) : Prop :=
  ∀ e e', CommitsTo sha256 ops e → CommitsTo sha256 ops e' → e.orgId = orgId → e'.orgId = orgId →
    prim.sha256Base64url e.seed = prim.sha256Base64url e'.seed → e.seed = e'.seed

variable {sha256} {orgId : String} {ops ops' : List OperationRow} {e e' : Epoch}

theorem rowsOf_rowsOf (orgId : String) (ops : List OperationRow) :
    rowsOf orgId (rowsOf orgId ops) = rowsOf orgId ops := by
  unfold rowsOf
  rw [List.filter_filter]
  simp only [Bool.and_self]

/-- Only the rows of the organisation count. -/
theorem epochFromOperationRows_rowsOf (orgId : String) (ops : List OperationRow) :
    epochFromOperationRows sha256 orgId (rowsOf orgId ops) =
      epochFromOperationRows sha256 orgId ops := by
  rw [epochFromOperationRows_eq, epochFromOperationRows_eq, rowsOf_rowsOf]

/-- An epoch that was computed is the one over the organisation's rows, from their first time
to their last. -/
theorem epochFromOperationRows_some (h : epochFromOperationRows sha256 orgId ops = some e) :
    ∃ startTime endTime,
      e = epochOver sha256 orgId startTime endTime (leavesOf (rowsOf orgId ops)) := by
  rw [epochFromOperationRows_eq] at h
  cases hStart : firstCreatedAt (rowsOf orgId ops) with
  | none =>
      rw [hStart] at h
      cases h
  | some startTime =>
      cases hEnd : lastCreatedAt (rowsOf orgId ops) with
      | none =>
          rw [hStart, hEnd] at h
          cases h
      | some endTime =>
          rw [hStart, hEnd] at h
          exact ⟨startTime, endTime, (Option.some.inj h).symm⟩

theorem epochFromOperationRows_none (h : epochFromOperationRows sha256 orgId ops = none) :
    rowsOf orgId ops = [] := by
  unfold epochFromOperationRows at h
  split at h
  · rename_i hSort
    have hLength := List.length_insertionSort OperationRow.Before (rowsOf orgId ops)
    have hEmpty : ((rowsOf orgId ops).insertionSort OperationRow.Before).length = 0 := by
      unfold rowsOf
      rw [hSort]
      rfl
    exact List.length_eq_zero_iff.1 (by omega)
  · cases h

/-- The epoch of the operations commits to them. -/
theorem commits_of_rows (h : epochFromOperationRows sha256 orgId ops = some e) :
    e.orgId = orgId ∧ e.leafCount = (rowsOf orgId ops).length ∧ CommitsTo sha256 ops e := by
  obtain ⟨startTime, endTime, hEpoch⟩ := epochFromOperationRows_some h
  have hOrg : e.orgId = orgId := by
    rw [hEpoch]
    rfl
  have hCount : e.leafCount = (rowsOf orgId ops).length := by
    rw [hEpoch]
    show ((leavesOf (rowsOf orgId ops)).length : Int) = _
    rw [leavesOf, List.length_map]
  refine ⟨hOrg, hCount, ?_, ?_⟩
  · rw [hOrg]
    omega
  · have hAll : (rowsOf orgId ops).take e.leafCount.toNat = rowsOf orgId ops :=
      List.take_of_length_le (by omega)
    rw [hOrg, hAll, epochFromOperationRows_rowsOf]
    exact h

/-- Later operations are not among the first. -/
theorem CommitsTo.grow (h : CommitsTo sha256 ops e) (hOps : ops <+: ops') :
    CommitsTo sha256 ops' e := by
  have hRows : rowsOf e.orgId ops <+: rowsOf e.orgId ops' := hOps.filter _
  have hLength := hRows.length_le
  have hBound := h.bound
  refine ⟨by omega, ?_⟩
  obtain ⟨more, hMore⟩ := hRows
  have hFirst : (rowsOf e.orgId ops').take e.leafCount.toNat =
      (rowsOf e.orgId ops).take e.leafCount.toNat := by
    rw [← hMore]
    exact List.take_append_of_le_length (by omega)
  rw [hFirst]
  exact h.epoch

/-- An epoch that commits to rows has at least one leaf. -/
theorem CommitsTo.leafCount_pos (h : CommitsTo sha256 ops e) : 0 < e.leafCount := by
  have hBound := h.bound
  have hCount := (commits_of_rows h.epoch).2.1
  by_contra hNone
  have hTake : e.leafCount.toNat = 0 := by omega
  have hEpoch := h.epoch
  rw [hTake, List.take_zero] at hEpoch
  cases hEpoch

/-- **No two epochs of an organisation** with as many leaves differ. -/
theorem CommitsTo.unique (h : CommitsTo sha256 ops e) (h' : CommitsTo sha256 ops e')
    (hOrg : e.orgId = e'.orgId) (hCount : e.leafCount = e'.leafCount) : e = e' := by
  have hSame := h.epoch
  rw [hOrg, hCount, h'.epoch] at hSame
  exact (Option.some.inj hSame).symm

theorem CommitsTo.epochId_eq (h : CommitsTo sha256 ops e) :
    e.epochId = "epoch_" ++ prim.sha256Base64url e.seed ∧ '|' ∉ e.rootHash.toList := by
  obtain ⟨startTime, endTime, hEpoch⟩ := epochFromOperationRows_some h.epoch
  rw [hEpoch]
  exact ⟨rfl, bar_notMem_base64urlEncode _⟩

/-- While the seeds are apart, an id names one epoch. -/
theorem CommitsTo.eq_of_epochId (h : CommitsTo sha256 ops e) (h' : CommitsTo sha256 ops e')
    (hApart : SeedsApart sha256 orgId ops) (hOrg : e.orgId = orgId) (hOrg' : e'.orgId = orgId)
    (hId : e.epochId = e'.epochId) : e = e' := by
  obtain ⟨hSeed, hBar⟩ := h.epochId_eq
  obtain ⟨hSeed', hBar'⟩ := h'.epochId_eq
  rw [hSeed, hSeed'] at hId
  have hHash := (String.append_right_inj _).1 hId
  obtain ⟨-, -, -, -, hCount⟩ := epochSeed_inj hBar hBar' (hApart e e' h h' hOrg hOrg' hHash)
  have hPos := h.leafCount_pos
  have hPos' := h'.leafCount_pos
  exact h.unique h' (hOrg.trans hOrg'.symm) (by omega)

end CommitsTo

/-! ## Growing archives -/

/-- What a later archive keeps of an earlier one: its tables, its epochs and its exports. -/
structure Archive.Grows {prim : Primitives} (sha256 : Sha256 prim) (s s' : Archive) : Prop where
  db : s.world.db.Grows s'.world.db
  epochs : ∃ es, s'.epochs = s.epochs ++ es ∧ ∀ e ∈ es, CommitsTo sha256 s'.world.db.operations e
  exports : s.exports <+: s'.exports
  exportIds : KeyUnique ExportModel.exportId s.exports → KeyUnique ExportModel.exportId s'.exports

/-- Every row of the epochs commits to the operations. -/
def Archive.Committed {prim : Primitives} (sha256 : Sha256 prim) (s : Archive) : Prop :=
  ∀ e ∈ s.epochs, CommitsTo sha256 s.world.db.operations e

section Grows

variable {prim : Primitives} {sha256 : Sha256 prim} {s s' s'' : Archive}

/-- Growth of the tables is growth of the archive where epochs and exports stay. -/
theorem grows_of_db (hDb : s.world.db.Grows s'.world.db) (hEpochs : s'.epochs = s.epochs)
    (hExports : s'.exports = s.exports) : s.Grows sha256 s' where
  db := hDb
  epochs := ⟨[], by rw [hEpochs, List.append_nil], fun _ he => (List.not_mem_nil he).elim⟩
  exports := hExports ▸ List.prefix_refl _
  exportIds h := hExports ▸ h

theorem grows_put (key : String) (body : Body) : s.Grows sha256 (s.put key body) :=
  grows_of_db (Database.grows_refl _) rfl rfl

instance growsRefl : Std.Refl (Archive.Grows sha256) :=
  ⟨fun _ => grows_of_db (Database.grows_refl _) rfl rfl⟩

/-- Growth goes on from growth. -/
theorem grows_trans (h : s.Grows sha256 s') (h' : s'.Grows sha256 s'') :
    s.Grows sha256 s'' where
  db := h.db.trans h'.db
  epochs := by
    obtain ⟨es, hEs, hCommit⟩ := h.epochs
    obtain ⟨es', hEs', hCommit'⟩ := h'.epochs
    refine ⟨es ++ es', by rw [hEs', hEs, List.append_assoc], fun e he => ?_⟩
    rcases List.mem_append.1 he with he | he
    · exact (hCommit e he).grow h'.db.operations
    · exact hCommit' e he
  exports := h.exports.trans h'.exports
  exportIds hIds := h'.exportIds (h.exportIds hIds)

instance growsTrans : IsTrans Archive (Archive.Grows sha256) := ⟨fun _ _ _ => grows_trans⟩

/-- A stored epoch stays stored. -/
theorem Archive.Grows.mem_epochs (h : s.Grows sha256 s') {e : Epoch} (he : e ∈ s.epochs) :
    e ∈ s'.epochs := by
  obtain ⟨es, hEs, -⟩ := h.epochs
  rw [hEs]
  exact List.mem_append_left _ he

/-- Where every stored epoch commits to operations that are there, it does so after growth,
since operations are never taken away. -/
theorem Archive.Committed.grow (hs : s.Committed sha256) (h : s.Grows sha256 s') :
    s'.Committed sha256 := by
  intro e he
  obtain ⟨es, hEs, hCommit⟩ := h.epochs
  rw [hEs] at he
  rcases List.mem_append.1 he with he | he
  · exact (hs e he).grow h.db.operations
  · exact hCommit e he

end Grows

/-! ## What the handlers of the epochs return -/

section Handlers

variable (settings : ArchiveSettings)

/-- In every state after `s₀` the handler takes steps that grow the archive, and it returns
with `Q`. -/
abbrev GrowsSince {α : Type} (Q : α → Archive → Prop) (prog : ArchiveHandler α)
    (s₀ : Archive) : Prop :=
  Since (Archive.Grows settings.sha256) (Archive.Grows settings.sha256) Q prog s₀

/-- The result of a tick that has read the operations `ops`: nothing to commit to, a new epoch
with its evidence, or the row that was stored under the same id before. -/
inductive Ticked (orgId : String) (ops : List OperationRow) (s : Archive) :
    EpochSchedulerResult → Prop
  | skipped (hNone : epochFromOperationRows settings.sha256 orgId ops = none) :
      Ticked orgId ops s
        { status := .skippedEmpty, orgId := orgId, reason := some "no_operations" }
  | created (e : Epoch) (eer : EER)
      (hEpoch : epochFromOperationRows settings.sha256 orgId ops = some e) (hRow : e ∈ s.epochs) :
      Ticked orgId ops s
        { status := .created, orgId := orgId, epoch := some e, eer := some eer }
  | found (e row : Epoch) (eer : Option EER)
      (hEpoch : epochFromOperationRows settings.sha256 orgId ops = some e) (hRow : row ∈ s.epochs)
      (hOrg : row.orgId = orgId) (hId : row.epochId = e.epochId) :
      Ticked orgId ops s
        { status := .alreadyPersisted, orgId := orgId, epoch := some row, eer := eer,
          reason := some "epoch_id_exists" }

/-- Ticks one after another, each of which has read at least what the one before it has. -/
inductive TickedAll (orgId : String) (s : Archive) :
    List OperationRow → List EpochSchedulerResult → Prop
  | nil (ops : List OperationRow) (hLast : ops <+: s.world.db.operations) :
      TickedAll orgId s ops []
  | cons {ops ops' : List OperationRow} {res : EpochSchedulerResult}
      {results : List EpochSchedulerResult} (hMore : ops <+: ops')
      (hTick : Ticked settings orgId ops' s res) (hRest : TickedAll orgId s ops' results) :
      TickedAll orgId s ops (res :: results)

variable {settings} {orgId : String} {s s' s₀ : Archive} {ops : List OperationRow}

/-- What a tick answered stays true as the archive grows. -/
theorem Ticked.grow {res : EpochSchedulerResult} (h : Ticked settings orgId ops s res)
    (hGrows : s.Grows settings.sha256 s') : Ticked settings orgId ops s' res := by
  cases h with
  | skipped hNone => exact .skipped hNone
  | created e eer hEpoch hRow => exact .created e eer hEpoch (hGrows.mem_epochs hRow)
  | found e row eer hEpoch hRow hOrg hId =>
      exact .found e row eer hEpoch (hGrows.mem_epochs hRow) hOrg hId

theorem loadJson_since (key : Option String) :
    GrowsSince settings (fun _ s => s₀.Grows settings.sha256 s) (loadJson key) s₀ := by
  unfold loadJson
  split
  · exact Since.pure fun s hs => hs
  · split
    · exact Since.pure fun s hs => hs
    · exact fun s hs => ⟨refl s, fun _ => ⟨_, stable_since s₀, hs, Since.pure fun s hs => hs⟩⟩

/-- The epochs that are read were stored, and are the organisation's. -/
theorem persistedEpochs_since :
    GrowsSince settings (fun es s => s₀.Grows settings.sha256 s ∧
      ∀ e ∈ es, e ∈ s.epochs ∧ e.orgId = orgId) (persistedEpochs orgId) s₀ := by
  intro s hs
  have hRows : ∀ e ∈ (s.epochs.filter fun e => e.orgId = orgId).insertionSort
      (fun e e' => e'.createdAt ≤ e.createdAt), e ∈ s.epochs ∧ e.orgId = orgId := by
    intro e he
    obtain ⟨hRow, hOrg⟩ := List.mem_filter.1 ((List.mem_insertionSort _).1 he)
    exact ⟨hRow, of_decide_eq_true hOrg⟩
  refine ⟨refl s, fun _ => ⟨_, stable_since s, refl s, Since.pure fun s' hs' => ?_⟩⟩
  exact ⟨grows_trans hs hs', fun e he => ⟨hs'.mem_epochs (hRows e he).1, (hRows e he).2⟩⟩

/-- The epochs that are shown commit to operations that are there, stored or computed on the
spot. -/
theorem computedEpochs_since :
    GrowsSince settings (fun es s => s₀.Grows settings.sha256 s ∧
      (s₀.Committed settings.sha256 → ∀ e ∈ es, CommitsTo settings.sha256 s.world.db.operations e))
      (computedEpochs settings orgId) s₀ := by
  unfold computedEpochs
  refine Since.bind persistedEpochs_since fun persisted s hRows => ?_
  obtain ⟨hs, hRows⟩ := hRows
  split
  · refine Since.pure fun s' hs' => ⟨grows_trans hs hs', fun hCommitted e he => ?_⟩
    exact ((hCommitted.grow hs) e (hRows e he).1).grow hs'.db.operations
  · refine Since.read_bind fun s' hs' => Since.pure fun s'' hs'' => ?_
    refine ⟨grows_trans hs (grows_trans hs' hs''), fun _ e he => ?_⟩
    exact (commits_of_rows (Option.mem_toList.1 he)).2.2.grow hs''.db.operations

theorem storeArtifact_since (epoch : Epoch) :
    GrowsSince settings (fun _ s => s₀.Grows settings.sha256 s)
      (storeArtifact settings epoch) s₀ := by
  unfold storeArtifact
  refine Since.write_bind (fun s _ => grows_put _ _) fun s hs => Since.pure fun s' hs' => ?_
  exact grows_trans hs (grows_trans (grows_put _ _) hs')

/-- The epoch that is shown commits to operations that are there, whether it was stored or is
computed for the request. -/
theorem epochDetail_since (epochId : String) :
    GrowsSince settings (fun res s => s₀.Committed settings.sha256 →
      CommitsTo settings.sha256 s.world.db.operations res.epoch)
      (epochDetail settings orgId epochId) s₀ := by
  unfold epochDetail epochCandidates
  refine Since.bind persistedEpochs_since fun persisted s hRows => ?_
  obtain ⟨hs, hRows⟩ := hRows
  have hCandidates : GrowsSince settings (fun es s' => s.Grows settings.sha256 s' ∧
      (s₀.Committed settings.sha256 → ∀ e ∈ es,
        CommitsTo settings.sha256 s'.world.db.operations e))
      (if persisted ≠ [] then pure persisted else computedEpochs settings orgId) s := by
    split
    · refine Since.pure fun s' hs' => ⟨hs', fun hCommitted e he => ?_⟩
      exact ((hCommitted.grow hs) e (hRows e he).1).grow hs'.db.operations
    · exact computedEpochs_since.post fun es s' h =>
        ⟨h.1, fun hCommitted => h.2 (hCommitted.grow hs)⟩
  refine Since.bind hCandidates fun candidates s' hEpochs => ?_
  obtain ⟨hs', hEpochs⟩ := hEpochs
  refine Since.require_bind fun epoch hFound => ?_
  have hEpoch := fun hCommitted => hEpochs hCommitted epoch (List.mem_of_find?_eq_some hFound)
  refine Since.bind (loadJson_since _) fun artifact s₁ hs₁ => Since.ofExcept_bind fun stored _ => ?_
  cases stored with
  | some eer =>
      refine Since.pure fun s₂ hs₂ hCommitted => (hEpoch hCommitted).grow ?_
      exact (grows_trans hs₁ hs₂).db.operations
  | none =>
      refine Since.bind (storeArtifact_since epoch) fun eer s₂ hs₂ => Since.pure fun s₃ hs₃ => ?_
      intro hCommitted
      exact (hEpoch hCommitted).grow (grows_trans hs₁ (grows_trans hs₂ hs₃)).db.operations

/-- **A tick** commits to the operations that it has read, and these are a moment's operations
between its beginning and its end. -/
theorem runEpochOnce_since :
    GrowsSince settings (fun res s => s₀.Grows settings.sha256 s ∧
      ∃ ops, s₀.world.db.operations <+: ops ∧ ops <+: s.world.db.operations ∧
        Ticked settings orgId ops s res) (runEpochOnce settings orgId) s₀ := by
  unfold runEpochOnce
  refine Since.read_bind fun s hs => ?_
  -- what the tick has read is there in every later state
  have hRead : ∀ {s'}, s.Grows settings.sha256 s' → ∀ {res},
      Ticked settings orgId s.world.db.operations s' res → s₀.Grows settings.sha256 s' ∧
        ∃ ops, s₀.world.db.operations <+: ops ∧ ops <+: s'.world.db.operations ∧
          Ticked settings orgId ops s' res := fun hs' _ hTick =>
    ⟨grows_trans hs hs', _, hs.db.operations, hs'.db.operations, hTick⟩
  split
  · rename_i hNone
    exact Since.pure fun s' hs' => hRead hs' (.skipped hNone)
  · rename_i epoch hEpoch
    refine Since.read_bind fun s₁ hs₁ => ?_
    split
    · rename_i row hFound
      have hRow := List.mem_of_find?_eq_some hFound
      obtain ⟨hOrg, hId⟩ : row.orgId = orgId ∧ row.epochId = epoch.epochId := by
        simpa using List.find?_some hFound
      refine Since.bind (loadJson_since _) fun artifact s₂ hs₂ => ?_
      refine Since.ofExcept_bind fun eer _ => Since.pure fun s₃ hs₃ => ?_
      have hLater := grows_trans hs₂ hs₃
      exact hRead (grows_trans hs₁ hLater)
        (.found epoch row eer hEpoch (hLater.mem_epochs hRow) hOrg hId)
    · refine Since.bind (storeArtifact_since epoch) fun eer s₂ hs₂ => ?_
      refine Since.attempt_bind fun s₃ s₄ hs₃ hInsert => ?_
      have hReadNow : s.Grows settings.sha256 s₃ := grows_trans hs₁ (grows_trans hs₂ hs₃)
      have hCommits : CommitsTo settings.sha256 s₃.world.db.operations epoch :=
        (commits_of_rows hEpoch).2.2.grow hReadNow.db.operations
      rw [insertEpoch_ok hInsert]
      have hAdd : s₃.Grows settings.sha256 { s₃ with epochs := s₃.epochs ++ [epoch] } :=
        { db := Database.grows_refl _
          epochs := ⟨[epoch], rfl, fun e he => by rwa [List.mem_singleton.1 he]⟩
          exports := List.prefix_refl _
          exportIds := id }
      refine ⟨hAdd, Since.pure fun s₅ hs₅ => ?_⟩
      refine hRead (grows_trans hReadNow (grows_trans hAdd hs₅)) (.created epoch eer hEpoch ?_)
      exact hs₅.mem_epochs (List.mem_append_right _ List.mem_cons_self)

/-- So does what a loop of ticks answered. -/
theorem TickedAll.grow {results : List EpochSchedulerResult}
    (h : TickedAll settings orgId s ops results) (hGrows : s.Grows settings.sha256 s') :
    TickedAll settings orgId s' ops results := by
  induction h with
  | nil ops hLast => exact .nil ops (hLast.trans hGrows.db.operations)
  | cons hMore hTick _ ih => exact .cons hMore (hTick.grow hGrows) ih

theorem TickedAll.earlier {ops' : List OperationRow} {results : List EpochSchedulerResult}
    (h : TickedAll settings orgId s ops results) (hOps : ops' <+: ops) :
    TickedAll settings orgId s ops' results := by
  cases h with
  | nil ops hLast => exact .nil ops' (hOps.trans hLast)
  | cons hMore hTick hRest => exact .cons (hOps.trans hMore) hTick hRest

/-- **The loop** ticks as often as it is asked to. -/
theorem epochTicks_since (runs : Nat) :
    GrowsSince settings (fun results s => s₀.Grows settings.sha256 s ∧ results.length = runs ∧
      TickedAll settings orgId s s₀.world.db.operations results)
      (epochTicks settings orgId runs) s₀ := by
  induction runs generalizing s₀ with
  | zero => exact Since.pure fun s hs => ⟨hs, rfl, .nil _ hs.db.operations⟩
  | succ runs ih =>
      rw [epochTicks]
      refine Since.bind runEpochOnce_since fun res s hRes => ?_
      obtain ⟨hs, ops, hFrom, hTo, hTick⟩ := hRes
      by_cases hLast : runs = 0
      · rw [if_pos hLast]
        refine Since.pure fun s' hs' => ⟨grows_trans hs hs', by rw [hLast]; rfl, ?_⟩
        exact .cons hFrom (hTick.grow hs') (.nil _ (hTo.trans hs'.db.operations))
      · rw [if_neg hLast]
        refine Since.read_bind fun s₁ hs₁ => Since.bind ih fun results s₂ hRest => ?_
        obtain ⟨hs₂, hLength, hTicks⟩ := hRest
        have hLater := grows_trans hs₁ hs₂
        refine Since.pure fun s₃ hs₃ => ⟨grows_trans hs (grows_trans hLater hs₃), ?_, ?_⟩
        · rw [List.length_cons, hLength]
        · refine .cons hFrom (hTick.grow (grows_trans hLater hs₃)) ?_
          exact (hTicks.grow hs₃).earlier (hTo.trans hs₁.db.operations)

end Handlers

end AgentShield.Server
