import Mathlib.Data.List.Perm.Basic

/-!
# Matched lists

Two lists whose members are matched one to one, in the order of the first.  A permutation
of images can be matched, and what is counted in one of the lists is counted in the other.
-/

namespace AgentShield.Lib

section Matching

variable {α β γ : Type} {R S : α → β → Prop}

/-- A match can use that the members are members. -/
theorem forall₂_imp_mem {xs : List α} {ys : List β} (h : List.Forall₂ R xs ys)
    (hImp : ∀ x ∈ xs, ∀ y, R x y → S x y) : List.Forall₂ S xs ys := by
  induction h with
  | nil => exact .nil
  | cons hHead _ ih =>
      refine .cons (hImp _ List.mem_cons_self _ hHead) (ih fun x hx => ?_)
      exact hImp x (List.mem_cons_of_mem _ hx)

theorem getElem?_of_forall₂ {xs : List α} {ys : List β} (h : List.Forall₂ R xs ys) {i : Nat}
    {x : α} (hx : xs[i]? = some x) : ∃ y, ys[i]? = some y ∧ R x y := by
  induction h generalizing i with
  | nil => simp at hx
  | cons hHead _ ih =>
      cases i with
      | zero =>
          obtain rfl := Option.some.inj hx
          exact ⟨_, rfl, hHead⟩
      | succ i => exact ih hx

/-- Lists with the same images, in some order, can be matched. -/
theorem exists_matching {f : α → γ} {g : β → γ} {xs : List α} {ys : List β}
    (h : (ys.map g).Perm (xs.map f)) :
    ∃ ys', ys'.Perm ys ∧ List.Forall₂ (fun x y => f x = g y) xs ys' := by
  have hSelf : List.Forall₂ (fun c y => c = g y) (ys.map g) ys :=
    List.forall₂_map_left_iff.2 (List.forall₂_same.2 fun _ _ => rfl)
  obtain ⟨ys', hMatch, hPerm⟩ := List.perm_comp_forall₂ h.symm hSelf
  exact ⟨ys', hPerm, List.forall₂_map_left_iff.1 hMatch⟩

/-- What is counted in matched lists. -/
theorem countP_of_forall₂ {p : α → Bool} {q : β → Bool} {xs : List α} {ys : List β}
    (h : List.Forall₂ R xs ys) (hSame : ∀ x y, R x y → p x = q y) :
    xs.countP p = ys.countP q := by
  induction h with
  | nil => rfl
  | cons hHead _ ih => rw [List.countP_cons, List.countP_cons, ih, hSame _ _ hHead]

/-- A stronger condition that holds as often holds of the same members: one of them left out
would be missing from the count. -/
theorem of_countP_eq {p q : α → Bool} {xs : List α} (hImp : ∀ x ∈ xs, p x → q x)
    (hCount : xs.countP p = xs.countP q) : ∀ x ∈ xs, q x → p x := by
  induction xs with
  | nil => exact fun _ hx => (nomatch hx)
  | cons x xs ih =>
      have hLater : ∀ y ∈ xs, p y → q y := fun y hy => hImp y (List.mem_cons_of_mem _ hy)
      have hLe : xs.countP p ≤ xs.countP q := List.countP_mono_left hLater
      have hHere := hImp x List.mem_cons_self
      rw [List.countP_cons, List.countP_cons] at hCount
      intro y hy hq
      cases hp : p x with
      | true =>
          rw [if_pos hp, if_pos (hHere hp)] at hCount
          rcases List.mem_cons.1 hy with rfl | hy
          · exact hp
          · exact ih hLater (by omega) y hy hq
      | false =>
          have hNot : ¬ q x = true := by
            intro hTrue
            rw [hp, if_pos hTrue, if_neg Bool.false_ne_true] at hCount
            omega
          rw [hp, if_neg hNot, if_neg Bool.false_ne_true] at hCount
          rcases List.mem_cons.1 hy with rfl | hy
          · exact absurd hq hNot
          · exact ih hLater hCount y hy hq

end Matching

end AgentShield.Lib
