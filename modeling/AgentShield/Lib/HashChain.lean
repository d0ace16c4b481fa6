import Mathlib.Data.List.Range

/-!
# Linked logs

A log of rows in which every row carries its number, a value `head` and the
`head` of the row before it.  `Linked` says that the rows are numbered from one
without gap or repeat and that each names the row before it, the first one a
fixed `genesis`.  A row that names an earlier row and takes a number that no row
has can only extend the log at its end (`Linked.extend`).
-/

namespace AgentShield.Lib.HashChain

variable {ρ η : Type} (seq : ρ → Int) (prev head : ρ → η)

/-- The rows continue a log of `n` rows that ends with `h`. -/
def LinkedFrom (n : Int) (h : η) : List ρ → Prop
  | [] => True
  | r :: rs => seq r = n + 1 ∧ prev r = h ∧ LinkedFrom (n + 1) (head r) rs

/-- The head of the last row, or `h` without rows. -/
def headFrom (h : η) : List ρ → η
  | [] => h
  | r :: rs => headFrom (head r) rs

/-- A whole log. -/
def Linked (genesis : η) (rows : List ρ) : Prop := LinkedFrom seq prev head 0 genesis rows

/-- The row of highest number, the first of them if there are several. -/
def latest : List ρ → Option ρ
  | [] => none
  | r :: rs =>
      match latest rs with
      | none => some r
      | some b => if seq r < seq b then some b else some r

variable {seq prev head} {n : Int} {h : η} {rows : List ρ}

theorem latest_eq_none (h : latest seq rows = none) : rows = [] := by
  cases rows with
  | nil => rfl
  | cons r rs =>
      simp only [latest] at h
      split at h
      · cases h
      · split at h <;> cases h

theorem latest_spec {r : ρ} (h : latest seq rows = some r) :
    r ∈ rows ∧ ∀ p ∈ rows, seq p ≤ seq r := by
  induction rows generalizing r with
  | nil => simp [latest] at h
  | cons r' rs ih =>
      simp only [latest] at h
      cases hRest : latest seq rs with
      | none =>
          obtain rfl : r' = r := by simpa [hRest] using h
          simp [latest_eq_none hRest]
      | some b =>
          obtain ⟨hb, hMax⟩ := ih hRest
          simp only [hRest] at h
          split at h
          · obtain rfl : b = r := Option.some.inj h
            refine ⟨List.mem_cons_of_mem _ hb, fun p hp => ?_⟩
            rcases List.mem_cons.1 hp with rfl | hp
            · omega
            · exact hMax p hp
          · obtain rfl : r' = r := Option.some.inj h
            refine ⟨List.mem_cons_self, fun p hp => ?_⟩
            rcases List.mem_cons.1 hp with rfl | hp
            · exact Int.le_refl _
            · have hLe := hMax p hp
              omega

theorem linkedFrom_concat (r : ρ) :
    LinkedFrom seq prev head n h (rows ++ [r]) ↔
      LinkedFrom seq prev head n h rows ∧ seq r = n + rows.length + 1 ∧
        prev r = headFrom head h rows := by
  induction rows generalizing n h with
  | nil => simp [LinkedFrom, headFrom]
  | cons r' rs ih =>
      have hNum : n + 1 + (rs.length : Int) + 1 = n + ((rs.length + 1 : Nat) : Int) + 1 := by
        omega
      simp only [List.cons_append, LinkedFrom, headFrom, ih, List.length_cons, hNum, and_assoc]

theorem headFrom_concat (r : ρ) : headFrom head h (rows ++ [r]) = head r := by
  induction rows generalizing h with
  | nil => rfl
  | cons r' rs ih => exact ih

/-- The numbers of a linked log. -/
theorem LinkedFrom.seq_bounds (hL : LinkedFrom seq prev head n h rows) :
    ∀ r ∈ rows, n < seq r ∧ seq r ≤ n + rows.length := by
  induction rows generalizing n h with
  | nil => simp
  | cons r' rs ih =>
      obtain ⟨hSeq, -, hRest⟩ := hL
      intro r hr
      rw [List.length_cons]
      rcases List.mem_cons.1 hr with rfl | hr
      · omega
      · have hBounds := ih hRest r hr
        omega

theorem LinkedFrom.map_seq (hL : LinkedFrom seq prev head n h rows) :
    rows.map seq = (List.range rows.length).map fun k : Nat => n + (k : Int) + 1 := by
  induction rows generalizing n h with
  | nil => rfl
  | cons r rs ih =>
      obtain ⟨hSeq, -, hRest⟩ := hL
      rw [List.map_cons, ih hRest, List.length_cons, List.range_succ_eq_map, List.map_cons,
        List.map_map]
      congr 1
      · omega
      · apply List.map_congr_left
        intro k _
        simp only [Function.comp_apply]
        omega

/-- The row with the last number is the last row, and it carries the head. -/
theorem LinkedFrom.head_of_last (hL : LinkedFrom seq prev head n h rows) {r : ρ}
    (hr : r ∈ rows) (hSeq : seq r = n + rows.length) : head r = headFrom head h rows := by
  induction rows generalizing n h with
  | nil => simp at hr
  | cons r' rs ih =>
      obtain ⟨hSeq', -, hRest⟩ := hL
      rw [List.length_cons] at hSeq
      rcases List.mem_cons.1 hr with rfl | hr'
      · have hNil : rs = [] := List.length_eq_zero_iff.1 (by omega)
        rw [hNil]
        rfl
      · exact ih hRest hr' (by omega)

/-- Each row names the head of the row before it. -/
theorem LinkedFrom.prev_eq (hL : LinkedFrom seq prev head n h rows) {r : ρ} (hr : r ∈ rows) :
    (seq r = n + 1 → prev r = h) ∧
      ∀ p ∈ rows, seq r = seq p + 1 → prev r = head p := by
  induction rows generalizing n h with
  | nil => simp at hr
  | cons r' rs ih =>
      obtain ⟨hSeq', hPrev', hRest⟩ := hL
      rcases List.mem_cons.1 hr with rfl | hr'
      · refine ⟨fun _ => hPrev', fun p hp hNext => ?_⟩
        rcases List.mem_cons.1 hp with rfl | hp'
        · omega
        · have hBounds := hRest.seq_bounds p hp'
          omega
      · obtain ⟨hFirst, hLater⟩ := ih hRest hr'
        refine ⟨fun hOne => ?_, fun p hp hNext => ?_⟩
        · have hBounds := hRest.seq_bounds r hr'
          omega
        · rcases List.mem_cons.1 hp with rfl | hp'
          · exact hFirst (by omega)
          · exact hLater p hp' hNext

/-- **Extension.**  A row that starts the log or names one of its rows, under a
number that no row has, is the next row. -/
theorem Linked.extend {genesis : η} (hL : Linked seq prev head genesis rows) {r : ρ}
    (hFresh : ∀ p ∈ rows, seq p ≠ seq r)
    (hNext : (seq r = 1 ∧ prev r = genesis) ∨
      ∃ p ∈ rows, seq p + 1 = seq r ∧ head p = prev r) :
    Linked seq prev head genesis (rows ++ [r]) := by
  have hNumbers := hL.map_seq
  -- The number of `r` is not taken, so it lies beyond the last one.
  have hBeyond : ∀ k : Nat, k < rows.length → seq r ≠ (k : Int) + 1 := by
    intro k hk hEq
    have hMem : (k : Int) + 1 ∈ rows.map seq := by
      rw [hNumbers]
      exact List.mem_map.2 ⟨k, List.mem_range.2 hk, by omega⟩
    obtain ⟨p, hp, hpSeq⟩ := List.mem_map.1 hMem
    exact hFresh p hp (by omega)
  rcases hNext with ⟨hOne, hGenesis⟩ | ⟨p, hp, hSeq, hHead⟩
  · have hNil : rows = [] := by
      rcases Nat.eq_zero_or_pos rows.length with h0 | hPos
      · exact List.length_eq_zero_iff.1 h0
      · exact absurd (by omega) (hBeyond 0 hPos)
    subst hNil
    exact ⟨by omega, hGenesis, trivial⟩
  · have hBounds := hL.seq_bounds p hp
    have hLast : seq p = 0 + rows.length := by
      rcases Int.lt_or_eq_of_le hBounds.2 with hLt | hEq
      · exfalso
        refine hBeyond (seq p).toNat (by omega) (by omega)
      · exact hEq
    refine (linkedFrom_concat r).2 ⟨hL, by omega, ?_⟩
    rw [← hHead]
    exact hL.head_of_last hp hLast

/-- The row of highest number carries the head of the log. -/
theorem Linked.latest_head {genesis : η} (hL : Linked seq prev head genesis rows) :
    (match latest seq rows with
      | some r => head r
      | none => genesis) = headFrom head genesis rows := by
  cases hMax : latest seq rows with
  | none =>
      rw [latest_eq_none hMax]
      rfl
  | some r =>
      obtain ⟨hr, hTop⟩ := latest_spec hMax
      refine hL.head_of_last hr ?_
      have hBounds := hL.seq_bounds r hr
      have hPos : 0 < rows.length := List.length_pos_of_mem hr
      have hLast : ((rows.length - 1 : Nat) : Int) + 1 ∈ rows.map seq := by
        rw [hL.map_seq]
        exact List.mem_map.2 ⟨rows.length - 1, List.mem_range.2 (by omega), by omega⟩
      obtain ⟨p, hp, hpSeq⟩ := List.mem_map.1 hLast
      have hLe : seq p ≤ seq r := hTop p hp
      omega

end AgentShield.Lib.HashChain
