import Mathlib.Data.List.Nodup

/-!
# Tables of rows with a key

A table is a list of rows.  A write updates every row by a function and adds new rows at
the end.  The rules say when no two rows have the same key, what a lookup by such a key
finds, and that a mark on the rows of a key is never lost.

Some columns hold secrets that are drawn at random.  The draws are numbered, and `Issued`
are the secrets that were there at the start or have been drawn before a number.
-/

namespace AgentShield.Lib

variable {α κ : Type}

/-- No two rows have the same key. -/
def KeyUnique (key : α → κ) (rows : List α) : Prop := (rows.map key).Nodup

theorem keyUnique_nil (key : α → κ) : KeyUnique key ([] : List α) := by
  simp [KeyUnique]

theorem keyUnique_singleton (key : α → κ) (x : α) : KeyUnique key [x] := by
  simp [KeyUnique]

namespace KeyUnique

variable {key : α → κ} {rows new : List α}

theorem eq (h : KeyUnique key rows) {x y : α} (hx : x ∈ rows) (hy : y ∈ rows)
    (hKey : key x = key y) : x = y :=
  List.inj_on_of_nodup_map h hx hy hKey

/-- The lookup of a row by its key. -/
theorem find_eq [DecidableEq κ] (h : KeyUnique key rows) {x : α} (hx : x ∈ rows) :
    rows.find? (fun y => key y = key x) = some x := by
  cases hFind : rows.find? (fun y => key y = key x) with
  | none =>
      have hNot := List.find?_eq_none.1 hFind x hx
      simp at hNot
  | some y =>
      have hSame : key y = key x := by simpa using List.find?_some hFind
      rw [h.eq (List.mem_of_find?_eq_some hFind) hx hSame]

/-- Rows keep their keys, and those that are added have keys of their own. -/
theorem append (h : KeyUnique key rows) {rows' : List α}
    (hKeep : (rows'.map key).Sublist (rows.map key)) (hNew : KeyUnique key new)
    (hFresh : ∀ x ∈ rows, ∀ y ∈ new, key x ≠ key y) : KeyUnique key (rows' ++ new) := by
  unfold KeyUnique at h hNew ⊢
  rw [List.map_append]
  refine List.nodup_append.2 ⟨h.sublist hKeep, hNew, fun a ha b hb => ?_⟩
  obtain ⟨x, hx, rfl⟩ := List.mem_map.1 (hKeep.subset ha)
  obtain ⟨y, hy, rfl⟩ := List.mem_map.1 hb
  exact hFresh x hx y hy

theorem add {f : α → α} (h : KeyUnique key rows) (hKey : ∀ x ∈ rows, key (f x) = key x)
    (hNew : KeyUnique key new) (hFresh : ∀ x ∈ rows, ∀ y ∈ new, key x ≠ key y) :
    KeyUnique key (rows.map f ++ new) := by
  have hSame : (rows.map f).map key = rows.map key := by
    rw [List.map_map]
    exact List.map_congr_left hKey
  refine h.append ?_ hNew hFresh
  rw [hSame]

/-- Some rows are deleted. -/
theorem filterMap {f : α → Option α} (h : KeyUnique key rows)
    (hKey : ∀ x y, f x = some y → key y = key x) (hNew : KeyUnique key new)
    (hFresh : ∀ x ∈ rows, ∀ y ∈ new, key x ≠ key y) :
    KeyUnique key (rows.filterMap f ++ new) := by
  refine h.append ?_ hNew hFresh
  clear h hFresh
  induction rows with
  | nil => simp
  | cons x rows ih =>
      cases hf : f x with
      | none =>
          rw [List.filterMap_cons_none hf]
          exact ih.trans (List.sublist_cons_self _ _)
      | some y =>
          rw [List.filterMap_cons_some hf, List.map_cons, List.map_cons, hKey x y hf]
          exact ih.cons_cons _

end KeyUnique

/-- There is a row with `P`, and every row with `P` is marked. -/
structure AllMarked (marked P : α → Prop) (rows : List α) : Prop where
  exist : ∃ x ∈ rows, P x
  mark : ∀ x ∈ rows, P x → marked x

namespace AllMarked

variable {marked P : α → Prop} {rows new : List α}

/-- A write keeps the mark when it gives no unmarked row the property, neither an old row
nor a new one. -/
theorem add {f : α → α} (h : AllMarked marked P rows) (hKeep : ∀ x, P (f x) ↔ P x)
    (hMark : ∀ x, marked x → marked (f x)) (hNew : ∀ x ∈ new, ¬ P x) :
    AllMarked marked P (rows.map f ++ new) where
  exist := by
    obtain ⟨x, hx, hP⟩ := h.exist
    exact ⟨f x, List.mem_append_left _ (List.mem_map_of_mem hx), (hKeep x).2 hP⟩
  mark y hy hP := by
    rcases List.mem_append.1 hy with hy | hy
    · obtain ⟨x, hx, rfl⟩ := List.mem_map.1 hy
      exact hMark x (h.mark x hx ((hKeep x).1 hP))
    · exact absurd hP (hNew y hy)

/-- The rows with the key of a marked row. -/
theorem of_unique {κ : Type} {key : α → κ} (h : KeyUnique key rows) {x : α} (hx : x ∈ rows)
    (hMark : marked x) : AllMarked marked (fun y => key y = key x) rows where
  exist := ⟨x, hx, rfl⟩
  mark y hy hKey := by
    rw [h.eq hy hx hKey]
    exact hMark

end AllMarked

/-! ## Secrets -/

def Issued (start : κ → Prop) (draws : Nat → κ → Prop) (n : Nat) (k : κ) : Prop :=
  start k ∨ ∃ m < n, draws m k

/-- No secret is drawn twice, and none that was there at the start is drawn. -/
structure DrawnOnce (start : κ → Prop) (draws : Nat → κ → Prop) : Prop where
  apart : ∀ {n m : Nat} {k : κ}, draws n k → draws m k → n = m
  unseen : ∀ {n : Nat} {k : κ}, start k → ¬ draws n k

namespace Issued

variable {start : κ → Prop} {draws : Nat → κ → Prop} {n m : Nat} {k : κ}

theorem mono (h : Issued start draws n k) (hn : n ≤ m) : Issued start draws m k := by
  rcases h with hStart | ⟨i, hi, hDraw⟩
  · exact .inl hStart
  · exact .inr ⟨i, Nat.lt_of_lt_of_le hi hn, hDraw⟩

/-- A secret that was issued before is not drawn now. -/
theorem not_drawn (h : Issued start draws n k) (hOnce : DrawnOnce start draws) (hn : n ≤ m) :
    ¬ draws m k := by
  intro hDraw
  rcases h with hStart | ⟨i, hi, hOld⟩
  · exact hOnce.unseen hStart hDraw
  · have hSame := hOnce.apart hOld hDraw
    omega

end Issued

end AgentShield.Lib
