import Mathlib.Data.List.Sort
import AgentShield.Lib.Sha2
import AgentShield.Server.ChainInput
import AgentShield.Server.Merkle

/-!
# What an epoch commits to

The id of an epoch does not depend on the order of the rows.  While SHA-256 does not
collide on the bytes that are hashed for two epochs, their ids are the same exactly when
the organisations, the first and last times and the chain hashes with their multiplicities
are: the number of leaves is part of the seed, and trees with as many leaves have the same
shape, so that a level is read back from the level above.
-/

namespace AgentShield.Server

open AgentShield.Lib AgentShield.Sdk

/-! ## The order of the rows -/

/-- The first and the last time of the rows. -/
def firstCreatedAt (rows : List OperationRow) : Option Int := (rows.map (·.createdAt)).min?

def lastCreatedAt (rows : List OperationRow) : Option Int := (rows.map (·.createdAt)).max?

/-- The leaves of the rows. -/
def leavesOf (rows : List OperationRow) : List Bytes := rows.map fun r => leafBytes r.chainHash

section Order

theorem before_total (r r' : OperationRow) : r.Before r' ∨ r'.Before r := by
  unfold OperationRow.Before
  rcases lt_trichotomy r.createdAt r'.createdAt with hTime | hTime | hTime
  · exact .inl (.inl hTime)
  · rcases String.le_total r.operationId r'.operationId with hId | hId
    · exact .inl (.inr ⟨hTime, hId⟩)
    · exact .inr (.inr ⟨hTime.symm, hId⟩)
  · exact .inr (.inl hTime)

theorem before_trans {r r' r'' : OperationRow} (h : r.Before r') (h' : r'.Before r'') :
    r.Before r'' := by
  unfold OperationRow.Before at h h' ⊢
  rcases h with hTime | ⟨hTime, hId⟩
  · rcases h' with hTime' | ⟨hTime', -⟩
    · exact .inl (hTime.trans hTime')
    · exact .inl (hTime' ▸ hTime)
  · rcases h' with hTime' | ⟨hTime', hId'⟩
    · exact .inl (hTime ▸ hTime')
    · exact .inr ⟨hTime.trans hTime', String.le_trans hId hId'⟩

theorem createdAt_le_of_before {r r' : OperationRow} (h : r.Before r') :
    r.createdAt ≤ r'.createdAt := by
  rcases h with hTime | ⟨hTime, -⟩
  · exact hTime.le
  · exact hTime.le

/-- The times of the sorted rows ascend. -/
theorem createdAt_sorted (rows : List OperationRow) :
    ((rows.insertionSort OperationRow.Before).map (·.createdAt)).Pairwise (· ≤ ·) := by
  have hTotal : Std.Total OperationRow.Before := ⟨before_total⟩
  have hTrans : IsTrans OperationRow OperationRow.Before := ⟨fun _ _ _ => before_trans⟩
  exact List.pairwise_map.2
    ((List.pairwise_insertionSort OperationRow.Before rows).imp createdAt_le_of_before)

theorem min?_of_sorted {t : Int} {ts : List Int} (h : (t :: ts).Pairwise (· ≤ ·)) :
    (t :: ts).min? = some t := by
  rw [List.min?_eq_some_iff]
  refine ⟨List.mem_cons_self, fun t' ht => ?_⟩
  rcases List.mem_cons.1 ht with rfl | ht
  · exact le_refl _
  · exact (List.pairwise_cons.1 h).1 t' ht

theorem max?_of_sorted {ts : List Int} (hNe : ts ≠ []) (h : ts.Pairwise (· ≤ ·)) :
    ts.max? = some (ts.getLast hNe) := by
  rw [List.max?_eq_some_iff]
  refine ⟨List.getLast_mem hNe, fun t ht => ?_⟩
  rw [← List.dropLast_append_getLast hNe] at h ht
  rcases List.mem_append.1 ht with ht | ht
  · exact (List.pairwise_append.1 h).2.2 t ht _ List.mem_cons_self
  · exact (List.mem_singleton.1 ht).le

variable {rows rows' : List OperationRow}

theorem min?_perm {ts ts' : List Int} (h : ts.Perm ts') : ts.min? = ts'.min? := by
  cases hMin : ts'.min? with
  | none =>
      rw [List.min?_eq_none_iff] at hMin ⊢
      rw [hMin] at h
      exact h.eq_nil
  | some t =>
      rw [List.min?_eq_some_iff] at hMin ⊢
      exact ⟨h.mem_iff.2 hMin.1, fun t' ht => hMin.2 t' (h.mem_iff.1 ht)⟩

theorem max?_perm {ts ts' : List Int} (h : ts.Perm ts') : ts.max? = ts'.max? := by
  cases hMax : ts'.max? with
  | none =>
      rw [List.max?_eq_none_iff] at hMax ⊢
      rw [hMax] at h
      exact h.eq_nil
  | some t =>
      rw [List.max?_eq_some_iff] at hMax ⊢
      exact ⟨h.mem_iff.2 hMax.1, fun t' ht => hMax.2 t' (h.mem_iff.1 ht)⟩

theorem firstCreatedAt_perm (h : rows.Perm rows') : firstCreatedAt rows = firstCreatedAt rows' :=
  min?_perm (h.map _)

theorem lastCreatedAt_perm (h : rows.Perm rows') : lastCreatedAt rows = lastCreatedAt rows' :=
  max?_perm (h.map _)

/-- The leaves are sorted first. -/
theorem merkleRoot_perm (digest : Bytes → Bytes) {leaves leaves' : List Bytes}
    (h : leaves.Perm leaves') : merkleRoot digest leaves = merkleRoot digest leaves' := by
  have hSort : leaves.insertionSort (· ≤ ·) = leaves'.insertionSort (· ≤ ·) := by
    refine List.Perm.eq_of_pairwise (fun _ _ _ _ h h' => Std.le_antisymm h h')
      (List.pairwise_insertionSort _ _) (List.pairwise_insertionSort _ _) ?_
    exact ((List.perm_insertionSort _ _).trans h).trans (List.perm_insertionSort _ _).symm
  unfold merkleRoot
  rw [hSort, h.length_eq]
  have hNil : leaves = [] ↔ leaves' = [] := by
    rw [← List.length_eq_zero_iff, ← List.length_eq_zero_iff, h.length_eq]
  by_cases hEmpty : leaves = []
  · rw [if_pos hEmpty, if_pos (hNil.1 hEmpty)]
  · rw [if_neg hEmpty, if_neg fun hEmpty' => hEmpty (hNil.2 hEmpty')]

end Order

/-! ## An epoch as a function of what it commits to -/

section Commitment

variable {prim : Primitives} (sha256 : Sha256 prim) (orgId : String)

/-- The root over the leaves, as a text. -/
def rootHashOf (leaves : List Bytes) : String := base64urlEncode (merkleRoot sha256.digest leaves)

/-- The epoch with these times and leaves.  Its id is a digest of the organisation, the times,
the root and the number of leaves. -/
def epochOver (startTime endTime : Int) (leaves : List Bytes) : Epoch :=
  let rootHash := rootHashOf sha256 leaves
  let id := epochId prim orgId startTime endTime rootHash leaves.length
  { epochId := id
    orgId := orgId
    startTime := startTime
    endTime := endTime
    rootHash := rootHash
    leafCount := leaves.length
    r2EpochKey := epochKey orgId id
    createdAt := endTime }

/-- The rows of the organisation. -/
def rowsOf (rows : List OperationRow) : List OperationRow := rows.filter fun r => r.orgId = orgId

theorem epochOver_perm (startTime endTime : Int) {leaves leaves' : List Bytes}
    (h : leaves.Perm leaves') :
    epochOver sha256 orgId startTime endTime leaves =
      epochOver sha256 orgId startTime endTime leaves' := by
  simp only [epochOver, rootHashOf, merkleRoot_perm sha256.digest h, h.length_eq]

/-- **The epoch of the rows** is a function of the first and the last time and of the
leaves. -/
theorem epochFromOperationRows_eq (rows : List OperationRow) :
    epochFromOperationRows sha256 orgId rows =
      (do
        let startTime ← firstCreatedAt (rowsOf orgId rows)
        let endTime ← lastCreatedAt (rowsOf orgId rows)
        return epochOver sha256 orgId startTime endTime (leavesOf (rowsOf orgId rows))) := by
  have hPerm := List.perm_insertionSort OperationRow.Before (rowsOf orgId rows)
  have hSorted := createdAt_sorted (rowsOf orgId rows)
  rw [← firstCreatedAt_perm hPerm, ← lastCreatedAt_perm hPerm]
  have hRows : (rows.filter fun r => r.orgId = orgId) = rowsOf orgId rows := rfl
  unfold epochFromOperationRows
  rw [hRows]
  cases hSort : (rowsOf orgId rows).insertionSort OperationRow.Before with
  | nil => rfl
  | cons first rest =>
      rw [hSort] at hPerm hSorted
      have hFirst : firstCreatedAt (first :: rest) = some first.createdAt :=
        min?_of_sorted hSorted
      have hLast : lastCreatedAt (first :: rest) =
          some ((first :: rest).getLast (List.cons_ne_nil _ _)).createdAt := by
        unfold lastCreatedAt
        rw [max?_of_sorted (by simp) hSorted, List.getLast_map]
      have hLeaves : (leavesOf (first :: rest)).Perm (leavesOf (rowsOf orgId rows)) :=
        hPerm.map _
      rw [hFirst, hLast]
      exact congrArg some (epochOver_perm sha256 orgId _ _ hLeaves)

/-- The order of the rows does not matter. -/
theorem epochFromOperationRows_perm {rows rows' : List OperationRow} (h : rows.Perm rows') :
    epochFromOperationRows sha256 orgId rows = epochFromOperationRows sha256 orgId rows' := by
  have hRows : (rowsOf orgId rows).Perm (rowsOf orgId rows') := h.filter _
  rw [epochFromOperationRows_eq, epochFromOperationRows_eq, firstCreatedAt_perm hRows,
    lastCreatedAt_perm hRows]
  cases firstCreatedAt (rowsOf orgId rows') with
  | none => rfl
  | some startTime =>
      cases lastCreatedAt (rowsOf orgId rows') with
      | none => rfl
      | some endTime =>
          exact congrArg some (epochOver_perm sha256 orgId _ _ (hRows.map _))

end Commitment

/-! ## Trees -/

section Tree

variable (digest : Bytes → Bytes)

/-- Of the inputs, no two have the same digest.  This is asked of what two epochs hash only:
no digest of 32 bytes is injective on all byte strings. -/
def CollisionFree (inputs : List Bytes) : Prop :=
  ∀ x ∈ inputs, ∀ y ∈ inputs, digest x = digest y → x = y

/-- What is hashed for the level above. -/
def levelInputs : List Bytes → List Bytes
  | [] => []
  | [last] => [last ++ last]
  | left :: right :: rest => (left ++ right) :: levelInputs rest

/-- What is hashed for the levels, at most `fuel` of them. -/
def treeInputs (fuel : Nat) (level : List Bytes) : List Bytes :=
  match fuel with
  | 0 => []
  | fuel + 1 =>
      if 1 < level.length then levelInputs level ++ treeInputs fuel (parents digest level) else []

theorem parents_eq (level : List Bytes) :
    parents digest level = (levelInputs level).map digest := by
  fun_induction levelInputs level with
  | case1 => rfl
  | case2 last => rfl
  | case3 left right rest ih => rw [parents, ih, List.map_cons]

/-- Nodes of one length are read back from what is hashed for the level above. -/
theorem levelInputs_inj {n : Nat} {level level' : List Bytes} (hSize : ∀ x ∈ level, x.length = n)
    (hSize' : ∀ x ∈ level', x.length = n) (hLength : level.length = level'.length)
    (h : levelInputs level = levelInputs level') : level = level' := by
  fun_induction levelInputs level generalizing level' with
  | case1 => exact (List.length_eq_zero_iff.1 hLength.symm).symm
  | case2 last =>
      obtain ⟨last', rfl⟩ := List.length_eq_one_iff.1 hLength.symm
      have hNode : last ++ last = last' ++ last' := (List.cons.inj h).1
      have hSame : last.length = last'.length := by
        rw [hSize last List.mem_cons_self, hSize' last' List.mem_cons_self]
      rw [(List.append_inj hNode hSame).1]
  | case3 left right rest ih =>
      match level' with
      | [] => simp at hLength
      | [_] => simp at hLength
      | left' :: right' :: rest' =>
          obtain ⟨hNode, hRest⟩ := List.cons.inj h
          simp only [List.forall_mem_cons] at hSize hSize'
          obtain ⟨rfl, rfl⟩ := List.append_inj hNode (hSize.1.trans hSize'.1.symm)
          have hLength' : rest.length = rest'.length := by simpa using hLength
          rw [ih hSize.2.2 hSize'.2.2 hLength' hRest]

variable {digest}

theorem CollisionFree.map_inj {inputs xs ys : List Bytes} (h : CollisionFree digest inputs)
    (hx : xs ⊆ inputs) (hy : ys ⊆ inputs) (hMap : xs.map digest = ys.map digest) : xs = ys := by
  induction xs generalizing ys with
  | nil => exact (List.map_eq_nil_iff.1 hMap.symm).symm
  | cons x xs ih =>
      cases ys with
      | nil => simp at hMap
      | cons y ys =>
          obtain ⟨hHead, hTail⟩ := List.cons.inj hMap
          rw [List.cons_subset] at hx hy
          rw [h x hx.1 y hy.1 hHead, ih hx.2 hy.2 hTail]

/-- **Trees of one shape** with one top are the same.  By induction on the levels: a node with
one digest has one input, since nothing collides. -/
theorem topOf_inj (hDigest : ∀ data, (digest data).length = 32) {fuel : Nat}
    {level level' inputs : List Bytes} (hFree : CollisionFree digest inputs)
    (hInputs : treeInputs digest fuel level ⊆ inputs)
    (hInputs' : treeInputs digest fuel level' ⊆ inputs) (hFuel : level.length ≤ fuel)
    (hSize : ∀ x ∈ level, x.length = 32) (hSize' : ∀ x ∈ level', x.length = 32)
    (hLength : level.length = level'.length)
    (h : topOf digest fuel level = topOf digest fuel level') : level = level' := by
  induction fuel generalizing level level' with
  | zero =>
      rw [List.length_eq_zero_iff.1 (Nat.le_zero.1 hFuel)] at hLength ⊢
      exact (List.length_eq_zero_iff.1 hLength.symm).symm
  | succ fuel ih =>
      by_cases hLong : 1 < level.length
      · have hLong' : 1 < level'.length := hLength ▸ hLong
        rw [treeInputs, if_pos hLong, List.append_subset] at hInputs
        rw [treeInputs, if_pos hLong', List.append_subset] at hInputs'
        rw [topOf, topOf, if_pos hLong, if_pos hLong'] at h
        have hParents : ∀ {level : List Bytes}, ∀ x ∈ parents digest level, x.length = 32 := by
          intro level x hx
          rw [parents_eq] at hx
          obtain ⟨data, -, rfl⟩ := List.mem_map.1 hx
          exact hDigest data
        have hCount := length_parents digest level
        have hCount' := length_parents digest level'
        have hAbove := ih hInputs.2 hInputs'.2 (by omega) hParents hParents (by omega) h
        rw [parents_eq, parents_eq] at hAbove
        exact levelInputs_inj hSize hSize' hLength
          (hFree.map_inj hInputs.1 hInputs'.1 hAbove)
      · have hLong' : ¬ 1 < level'.length := hLength ▸ hLong
        rw [topOf, topOf, if_neg hLong, if_neg hLong'] at h
        cases level with
        | nil => exact (List.length_eq_zero_iff.1 hLength.symm).symm
        | cons top rest =>
            obtain rfl : rest = [] := List.length_eq_zero_iff.1 (by simpa using hLong)
            obtain ⟨top', rfl⟩ := List.length_eq_one_iff.1 hLength.symm
            exact congrArg (fun x => [x]) h

end Tree

/-! ## The seed of the id -/

def epochSeed (orgId : String) (startTime endTime : Int) (rootHash : String) (leafCount : Nat) :
    String :=
  orgId ++ "|" ++ toString startTime ++ "|" ++ toString endTime ++ "|" ++ rootHash ++ "|" ++
    toString leafCount

/-- The seed is read from its end: only the organisation may have bars. -/
theorem epochSeed_inj {orgId orgId' rootHash rootHash' : String}
    {startTime startTime' endTime endTime' : Int} {leafCount leafCount' : Nat}
    (hBar : '|' ∉ rootHash.toList) (hBar' : '|' ∉ rootHash'.toList)
    (h : epochSeed orgId startTime endTime rootHash leafCount =
      epochSeed orgId' startTime' endTime' rootHash' leafCount') :
    orgId = orgId' ∧ startTime = startTime' ∧ endTime = endTime' ∧ rootHash = rootHash' ∧
      leafCount = leafCount' := by
  have hText : ∀ (orgId rootHash : String) (startTime endTime : Int) (leafCount : Nat),
      (epochSeed orgId startTime endTime rootHash leafCount).toList =
        (((orgId.toList ++ '|' :: (toString startTime).toList) ++
          '|' :: (toString endTime).toList) ++ '|' :: rootHash.toList) ++
            '|' :: (toString (leafCount : Int)).toList := by
    intro orgId rootHash startTime endTime leafCount
    have hCount : toString (leafCount : Int) = toString leafCount := rfl
    simp [epochSeed, hCount]
  have hList := congrArg String.toList h
  rw [hText, hText] at hList
  obtain ⟨hList, hCount⟩ := Delimited.cut_last (ChainInput.bar_notMem_toString _)
    (ChainInput.bar_notMem_toString _) hList
  obtain ⟨hList, hRoot⟩ := Delimited.cut_last hBar hBar' hList
  obtain ⟨hList, hEnd⟩ := Delimited.cut_last (ChainInput.bar_notMem_toString _)
    (ChainInput.bar_notMem_toString _) hList
  obtain ⟨hOrg, hStart⟩ := Delimited.cut_last (ChainInput.bar_notMem_toString _)
    (ChainInput.bar_notMem_toString _) hList
  exact ⟨String.toList_inj.1 hOrg, ChainInput.toString_injective hStart,
    ChainInput.toString_injective hEnd, String.toList_inj.1 hRoot,
    Int.natCast_inj.1 (ChainInput.toString_injective hCount)⟩

/-! ## The commitment -/

section Commitment

variable {prim : Primitives} (sha256 : Sha256 prim)

/-- A text of 32 bytes, as a SHA-256 digest has. -/
def IsDigestText (s : String) : Prop := ∃ data : Bytes, data.length = 32 ∧ s = base64urlEncode data

/-- Rows of one organisation with the texts of digests as their chain hashes. -/
structure EpochRows (orgId : String) (rows : List OperationRow) : Prop where
  nonempty : rows ≠ []
  ofOrg : ∀ r ∈ rows, r.orgId = orgId
  hashes : ∀ r ∈ rows, IsDigestText r.chainHash

/-- What is hashed for the epoch of the rows: the seed of its id and the nodes of its tree. -/
def epochInputs (orgId : String) (rows : List OperationRow) : List Bytes :=
  ((epochFromOperationRows sha256 orgId rows).map fun e =>
      utf8 (epochSeed orgId e.startTime e.endTime e.rootHash e.leafCount.toNat)).toList ++
    treeInputs sha256.digest rows.length ((leavesOf rows).insertionSort (· ≤ ·))

variable {orgId orgId' : String} {rows rows' : List OperationRow}

theorem IsDigestText.length_leaf {s : String} (h : IsDigestText s) : (leafBytes s).length = 32 := by
  obtain ⟨data, hLength, rfl⟩ := h
  unfold leafBytes
  rw [base64urlDecode_encode]
  exact hLength

theorem IsDigestText.encode_leaf {s : String} (h : IsDigestText s) :
    base64urlEncode (leafBytes s) = s := by
  obtain ⟨data, -, rfl⟩ := h
  unfold leafBytes
  rw [base64urlDecode_encode]

namespace EpochRows

variable (h : EpochRows orgId rows) (h' : EpochRows orgId' rows')
include h

theorem rowsOf_eq : rowsOf orgId rows = rows :=
  List.filter_eq_self.2 fun r hr => decide_eq_true (h.ofOrg r hr)

theorem length_leaf : ∀ x ∈ leavesOf rows, x.length = 32 := by
  intro x hx
  obtain ⟨r, hr, rfl⟩ := List.mem_map.1 hx
  exact (h.hashes r hr).length_leaf

/-- The chain hashes are the texts of the leaves. -/
theorem chainHashes_eq : rows.map (·.chainHash) = (leavesOf rows).map base64urlEncode := by
  unfold leavesOf
  rw [List.map_map]
  exact List.map_congr_left fun r hr => (h.hashes r hr).encode_leaf.symm

/-- The epoch of the rows. -/
theorem epoch_eq : ∃ startTime endTime, firstCreatedAt rows = some startTime ∧
    lastCreatedAt rows = some endTime ∧
      epochFromOperationRows sha256 orgId rows =
        some (epochOver sha256 orgId startTime endTime (leavesOf rows)) := by
  have hTimes : rows.map (·.createdAt) ≠ [] := by simpa using h.nonempty
  obtain ⟨startTime, hStart⟩ := Option.ne_none_iff_exists'.1 (mt List.min?_eq_none_iff.1 hTimes)
  obtain ⟨endTime, hEnd⟩ := Option.ne_none_iff_exists'.1 (mt List.max?_eq_none_iff.1 hTimes)
  refine ⟨startTime, endTime, hStart, hEnd, ?_⟩
  have hFirst : firstCreatedAt rows = some startTime := hStart
  have hLast : lastCreatedAt rows = some endTime := hEnd
  rw [epochFromOperationRows_eq, h.rowsOf_eq, hFirst, hLast]
  rfl

/-- Roots over as many leaves are the same only for the same leaves, in whatever order these
were inserted, since the tree is built over the sorted ones. -/
theorem leaves_perm (h' : EpochRows orgId' rows')
    (hDigest : ∀ data, (sha256.digest data).length = 32)
    {inputs : List Bytes} (hFree : CollisionFree sha256.digest inputs)
    (hInputs : epochInputs sha256 orgId rows ⊆ inputs)
    (hInputs' : epochInputs sha256 orgId' rows' ⊆ inputs)
    (hLength : (leavesOf rows).length = (leavesOf rows').length)
    (hRoot : rootHashOf sha256 (leavesOf rows) = rootHashOf sha256 (leavesOf rows')) :
    (leavesOf rows).Perm (leavesOf rows') := by
  have hNe : leavesOf rows ≠ [] := by simpa [leavesOf] using h.nonempty
  have hNe' : leavesOf rows' ≠ [] := by simpa [leavesOf] using h'.nonempty
  have hTop := base64urlEncode_injective hRoot
  unfold merkleRoot at hTop
  rw [if_neg hNe, if_neg hNe', ← hLength] at hTop
  have hRows : (leavesOf rows).length = rows.length := List.length_map _
  have hRows' : (leavesOf rows).length = rows'.length := hLength.trans (List.length_map _)
  have hTree := (List.append_subset.1 hInputs).2
  have hTree' := (List.append_subset.1 hInputs').2
  rw [← hRows] at hTree
  rw [← hRows'] at hTree'
  have hSort := topOf_inj hDigest hFree hTree hTree' (List.length_insertionSort _ _).le
    (fun x hx => h.length_leaf x ((List.mem_insertionSort _).1 hx))
    (fun x hx => h'.length_leaf x ((List.mem_insertionSort _).1 hx))
    (by rw [List.length_insertionSort, List.length_insertionSort, hLength]) hTop
  have hPerm := List.perm_insertionSort (· ≤ ·) (leavesOf rows)
  rw [hSort] at hPerm
  exact hPerm.symm.trans (List.perm_insertionSort _ _)

end EpochRows

/-- **Epoch commitment.**  The epoch of rows does not depend on their order, and while
SHA-256 does not collide on what is hashed for two epochs, their ids are the same exactly
when they have the same organisation, the same first and last times and the same chain
hashes as often. -/
theorem epoch_commits (hDigest : ∀ data, (sha256.digest data).length = 32) :
    (∀ (orgId : String) (rows rows' : List OperationRow), EpochRows orgId rows →
      rows.Perm rows' → ∃ e, epochFromOperationRows sha256 orgId rows = some e ∧
        epochFromOperationRows sha256 orgId rows' = some e) ∧
    ∀ (orgId orgId' : String) (rows rows' : List OperationRow),
      EpochRows orgId rows → EpochRows orgId' rows' →
        CollisionFree sha256.digest
          (epochInputs sha256 orgId rows ++ epochInputs sha256 orgId' rows') →
        ∃ e e', epochFromOperationRows sha256 orgId rows = some e ∧
          epochFromOperationRows sha256 orgId' rows' = some e' ∧
          (e.epochId = e'.epochId ↔ orgId = orgId' ∧
            firstCreatedAt rows = firstCreatedAt rows' ∧
            lastCreatedAt rows = lastCreatedAt rows' ∧
            (rows.map (·.chainHash)).Perm (rows'.map (·.chainHash))) := by
  refine ⟨fun orgId rows rows' h hPerm => ?_, fun orgId orgId' rows rows' h h' hFree => ?_⟩
  · obtain ⟨startTime, endTime, -, -, hEpoch⟩ := h.epoch_eq sha256
    exact ⟨_, hEpoch, by rw [← epochFromOperationRows_perm sha256 orgId hPerm, hEpoch]⟩
  · obtain ⟨startTime, endTime, hStart, hEnd, hEpoch⟩ := h.epoch_eq sha256
    obtain ⟨startTime', endTime', hStart', hEnd', hEpoch'⟩ := h'.epoch_eq sha256
    refine ⟨_, _, hEpoch, hEpoch', ?_⟩
    rw [hStart, hStart', hEnd, hEnd', Option.some.injEq, Option.some.injEq, h.chainHashes_eq,
      h'.chainHashes_eq]
    have hSeed : ∀ {orgId : String} {rows : List OperationRow} {startTime endTime : Int},
        epochFromOperationRows sha256 orgId rows =
          some (epochOver sha256 orgId startTime endTime (leavesOf rows)) →
        utf8 (epochSeed orgId startTime endTime (rootHashOf sha256 (leavesOf rows))
          (leavesOf rows).length) ∈ epochInputs sha256 orgId rows := by
      intro orgId rows startTime endTime hEpoch
      unfold epochInputs
      rw [hEpoch]
      exact List.mem_append_left _ List.mem_cons_self
    constructor
    · intro hId
      have hHash : prim.sha256Base64url (epochSeed orgId startTime endTime
            (rootHashOf sha256 (leavesOf rows)) (leavesOf rows).length) =
          prim.sha256Base64url (epochSeed orgId' startTime' endTime'
            (rootHashOf sha256 (leavesOf rows')) (leavesOf rows').length) :=
        (String.append_right_inj _).1 hId
      rw [sha256.sha256Base64url_eq, sha256.sha256Base64url_eq] at hHash
      have hText := utf8_injective (hFree _ (List.mem_append_left _ (hSeed hEpoch)) _
        (List.mem_append_right _ (hSeed hEpoch')) (base64urlEncode_injective hHash))
      obtain ⟨hOrg, hFirst, hLast, hRoot, hCount⟩ := epochSeed_inj
        (bar_notMem_base64urlEncode _) (bar_notMem_base64urlEncode _) hText
      have hLeaves := h.leaves_perm sha256 h' hDigest hFree (List.subset_append_left _ _)
        (List.subset_append_right _ _) hCount hRoot
      exact ⟨hOrg, hFirst, hLast, hLeaves.map _⟩
    · rintro ⟨rfl, rfl, rfl, hHashes⟩
      have hLeaves : (leavesOf rows).Perm (leavesOf rows') := by
        have hRead := hHashes.map leafBytes
        simpa [leafBytes, base64urlDecode_encode, Function.comp_def] using hRead
      rw [epochOver_perm sha256 orgId _ _ hLeaves]

end Commitment

namespace Sample

/-- The primitives with SHA-256 itself. -/
def shaPrim : Primitives :=
  { settings.prim with sha256Base64url := fun data => base64urlEncode (Sha2.digest (utf8 data)) }

def sha256 : Sha256 shaPrim where
  digest := Sha2.digest
  sha256Base64url_eq _ := rfl

/-- A row with the digest of its id as its chain hash, so that rows with different ids are
different leaves. -/
def epochRow (operationId : String) (createdAt : Int) : OperationRow where
  operationId := operationId
  orgId := "o"
  agentId := "a"
  seqNo := 1
  operationType := "t"
  issuedAt := createdAt
  ttlMs := 1000
  nonce := operationId
  subject := "\x7b\x7d"
  action := "\x7b\x7d"
  payloadHash := "h"
  prevChainHash := genesisChainHash
  chainHash := base64urlEncode (Sha2.digest (utf8 operationId))
  agentPubkeyKid := "k"
  signature := "sig"
  r2PayloadKey := none
  createdAt := createdAt

theorem epochRows_epochRow (rows : List (String × Int)) (h : rows ≠ []) :
    EpochRows "o" (rows.map fun r => epochRow r.1 r.2) where
  nonempty := by simpa using h
  ofOrg r hr := by
    obtain ⟨_, -, rfl⟩ := List.mem_map.1 hr
    rfl
  hashes r hr := by
    obtain ⟨_, -, rfl⟩ := List.mem_map.1 hr
    exact ⟨_, Sha2.length_digest _, rfl⟩

end Sample

/-- One row more makes another id. -/
theorem epoch_commits_sample :
    ∃ e e', epochFromOperationRows Sample.sha256 "o"
          [Sample.epochRow "x" 5, Sample.epochRow "y" 7] = some e ∧
      epochFromOperationRows Sample.sha256 "o" [Sample.epochRow "x" 5] = some e' ∧
      e.epochId ≠ e'.epochId := by
  have hFree : CollisionFree Sample.sha256.digest
      (epochInputs Sample.sha256 "o" [Sample.epochRow "x" 5, Sample.epochRow "y" 7] ++
        epochInputs Sample.sha256 "o" [Sample.epochRow "x" 5]) := by
    unfold CollisionFree
    decide +kernel
  obtain ⟨e, e', hEpoch, hEpoch', hIff⟩ := (epoch_commits Sample.sha256 Sha2.length_digest).2
    "o" "o" _ _ (Sample.epochRows_epochRow [("x", 5), ("y", 7)] (by decide))
    (Sample.epochRows_epochRow [("x", 5)] (by decide)) hFree
  refine ⟨e, e', hEpoch, hEpoch', fun hId => ?_⟩
  have hLast := (hIff.1 hId).2.2.1
  exact absurd hLast (by decide)

end AgentShield.Server
