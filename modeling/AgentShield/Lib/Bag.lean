import AgentShield.Lib.Delimited
import Mathlib.Data.List.Sort

/-!
# Bags written as one list

A bag of items is written by sorting the items and ending each with a mark.  When the sort
key tells the items apart and no item has the mark in it, the list that is written
determines the items up to their order (`written_eq_iff`, `written_map_eq_iff`).
-/

namespace AgentShield.Lib.Bag

variable {α β : Type}

/-! ## Bags of images -/

/-- Two functions that tell the same things apart tell the same bags apart. -/
theorem perm_map_iff {γ : Type} {f : α → β} {g : α → γ} (h : ∀ x y, f x = f y ↔ g x = g y)
    {l l' : List α} : (l.map f).Perm (l'.map f) ↔ (l.map g).Perm (l'.map g) := by
  have hMap : ∀ {β γ : Type} {f : α → β} {g : α → γ}, (∀ x y, f x = f y → g x = g y) →
      (l.map f).Perm (l'.map f) → (l.map g).Perm (l'.map g) := by
    intro β γ f g hFactors hPerm
    cases l with
    | nil =>
        have hNil : l' = [] := by simpa using hPerm
        rw [hNil]
    | cons x₀ l =>
        have hThrough : g.FactorsThrough f := fun x y hSame => hFactors x y hSame
        have hImage : ∀ xs : List α,
            xs.map g = (xs.map f).map (Function.extend f g fun _ => g x₀) := by
          intro xs
          rw [List.map_map]
          exact List.map_congr_left fun x _ => (hThrough.extend_apply _ x).symm
        rw [hImage, hImage]
        exact hPerm.map _
  exact ⟨hMap fun x y => (h x y).1, hMap fun x y => (h x y).2⟩

/-! ## Sorting by a key -/

section Sorting

variable [LinearOrder β] {key : α → β} {l l' : List α}

/-- The list in the order of a key: `sorted(xs, key=key)`, which keeps the order of elements
with one key. -/
def sortOn (key : α → β) (l : List α) : List α := l.insertionSort fun x y => key x ≤ key y

instance totalLe (key : α → β) : Std.Total fun x y : α => key x ≤ key y :=
  ⟨fun x y => le_total (key x) (key y)⟩

instance transLe (key : α → β) : IsTrans α fun x y => key x ≤ key y :=
  ⟨fun _ _ _ => le_trans⟩

/-- Sorting drops no element and adds none. -/
theorem sortOn_perm (key : α → β) (l : List α) : (sortOn key l).Perm l :=
  List.perm_insertionSort _ l

theorem perm_of_sortOn_eq (h : sortOn key l = sortOn key l') : l.Perm l' := by
  have hSorted := sortOn_perm key l
  rw [h] at hSorted
  exact hSorted.symm.trans (sortOn_perm key l')

/-- The order of the items is lost where the key tells them apart. -/
theorem sortOn_eq_of_perm (hKey : ∀ x ∈ l, ∀ y ∈ l', key x = key y → x = y) (h : l.Perm l') :
    sortOn key l = sortOn key l' := by
  have hPerm : (sortOn key l).Perm (sortOn key l') :=
    (sortOn_perm key l).trans (h.trans (sortOn_perm key l').symm)
  have hSorted : ∀ xs : List α, (sortOn key xs).Pairwise fun x y => key x ≤ key y :=
    List.pairwise_insertionSort _
  apply List.Perm.eq_of_pairwise _ (hSorted l) (hSorted l') hPerm
  intro x y hx hy hLe hGe
  have hx' : x ∈ l := (sortOn_perm key l).mem_iff.1 hx
  have hy' : y ∈ l' := (sortOn_perm key l').mem_iff.1 hy
  exact hKey x hx' y hy' (le_antisymm hLe hGe)

/-- With a key that tells all elements apart, two lists sort alike exactly when they hold the
same elements equally often. -/
theorem sortOn_eq_iff (hKey : Function.Injective key) :
    sortOn key l = sortOn key l' ↔ l.Perm l' :=
  ⟨perm_of_sortOn_eq, sortOn_eq_of_perm fun _ _ _ _ hSame => hKey hSame⟩

end Sorting

/-! ## Items that end with a mark -/

section Marks

variable {d : α} {ls ls' : List (List α)}

/-- The texts one after the other, each closed by the terminator `d`. -/
def terminated (d : α) (ls : List (List α)) : List α := ls.flatMap fun l => l ++ [d]

/-- Where no text holds the terminator, a sequence of terminated texts can be cut up again in
one way only. -/
theorem terminated_inj (hl : ∀ l ∈ ls, d ∉ l) (hl' : ∀ l ∈ ls', d ∉ l)
    (h : terminated d ls = terminated d ls') : ls = ls' := by
  unfold terminated at h
  induction ls generalizing ls' with
  | nil =>
      cases ls' with
      | nil => rfl
      | cons m ms => simp at h
  | cons l ls ih =>
      cases ls' with
      | nil => simp at h
      | cons m ms =>
          simp only [List.flatMap_cons, List.append_assoc, List.singleton_append] at h
          have hHead : d ∉ l := hl l List.mem_cons_self
          have hHead' : d ∉ m := hl' m List.mem_cons_self
          have hCut := Delimited.cut_first hHead hHead' h
          rw [hCut.1, ih (fun x hx => hl x (List.mem_cons_of_mem _ hx))
            (fun x hx => hl' x (List.mem_cons_of_mem _ hx)) hCut.2]

end Marks

/-- A bag as it is written: sorted by a key, and each item ended with a mark. -/
def written [LinearOrder β] (key : List α → β) (d : α) (ls : List (List α)) : List α :=
  terminated d (sortOn key ls)

/-- The written form of a sorted list of texts says which texts it holds, and how often each,
and nothing else. -/
theorem written_eq_iff [LinearOrder β] {key : List α → β} {d : α} {ls ls' : List (List α)}
    (hKey : Function.Injective key) (hl : ∀ l ∈ ls, d ∉ l) (hl' : ∀ l ∈ ls', d ∉ l) :
    written key d ls = written key d ls' ↔ ls.Perm ls' := by
  rw [← sortOn_eq_iff hKey]
  constructor
  · intro h
    have hSorted : ∀ l ∈ sortOn key ls, d ∉ l := fun l hMem =>
      hl l ((sortOn_perm key ls).mem_iff.1 hMem)
    have hSorted' : ∀ l ∈ sortOn key ls', d ∉ l := fun l hMem =>
      hl' l ((sortOn_perm key ls').mem_iff.1 hMem)
    exact terminated_inj hSorted hSorted' h
  · intro h
    rw [written, h, written]

/-- A bag of things is known from the texts of the things, when these tell them apart. -/
theorem written_map_eq_iff {γ : Type} [LinearOrder β] {key : List α → β} {d : α}
    {δ : Type} {text : δ → List α} {value : δ → γ} (hKey : Function.Injective key)
    (hMark : ∀ x, d ∉ text x) (hText : ∀ x y, text x = text y ↔ value x = value y)
    {xs ys : List δ} :
    written key d (xs.map text) = written key d (ys.map text) ↔
      (xs.map value).Perm (ys.map value) := by
  have hFree : ∀ zs : List δ, ∀ l ∈ zs.map text, d ∉ l := by
    intro zs l hMem
    obtain ⟨x, _, rfl⟩ := List.mem_map.1 hMem
    exact hMark x
  rw [written_eq_iff hKey (hFree xs) (hFree ys), perm_map_iff hText]

end AgentShield.Lib.Bag
