import Mathlib.Logic.Relation

/-!
# Acyclic relations

A relation without cycles that grows by one node stays without cycles exactly when no old
path leads from where the new node points back to where it is pointed from (`Acyclic.grow` and
`Acyclic.not_back`).
-/

namespace AgentShield.Lib

open Relation

variable {α : Type}

/-- No node is reached from itself. -/
def Acyclic (R : α → α → Prop) : Prop := ∀ a, ¬ TransGen R a a

section Grow

variable {R S : α → α → Prop} {x : α}
  (hOld : ∀ a b, S a b → a ≠ x → b ≠ x → R a b) (hLoop : ¬ S x x)
  (hBack : ∀ q p, S q x → S x p → ¬ ReflTransGen R p q)
include hOld hLoop hBack

/-- A path that starts at an old node keeps to the old edges, except for one visit of the
new node. -/
theorem path_grow {a b : α} (ha : a ≠ x) (h : TransGen S a b) :
    (b = x → ∃ q, ReflTransGen R a q ∧ S q x) ∧
      (b ≠ x → TransGen R a b ∨
        ∃ q p, ReflTransGen R a q ∧ S q x ∧ S x p ∧ ReflTransGen R p b) := by
  induction h with
  | single hEdge =>
      refine ⟨fun hb => ⟨a, .refl, hb ▸ hEdge⟩, fun hb => .inl (.single (hOld _ _ hEdge ha hb))⟩
  | tail hPath hEdge ih =>
      rename_i c b
      obtain ⟨ihNew, ihOld⟩ := ih
      by_cases hc : c = x
      · subst hc
        obtain ⟨q, hq, hIn⟩ := ihNew rfl
        refine ⟨fun hb => absurd (hb ▸ hEdge) hLoop, fun hb => .inr ⟨q, b, hq, hIn, hEdge, .refl⟩⟩
      · rcases ihOld hc with hPath | ⟨q, p, hq, hIn, hOut, hp⟩
        · exact ⟨fun hb => ⟨c, hPath.to_reflTransGen, hb ▸ hEdge⟩,
            fun hb => .inl (.tail hPath (hOld _ _ hEdge hc hb))⟩
        · refine ⟨fun hb => absurd hp (hBack c p (hb ▸ hEdge) hOut), fun hb => .inr ?_⟩
          exact ⟨q, p, hq, hIn, hOut, .tail hp (hOld _ _ hEdge hc hb)⟩

/-- The grown relation has no cycle when no old path leads back. -/
theorem Acyclic.grow (h : Acyclic R) : Acyclic S := by
  intro a hCycle
  by_cases ha : a = x
  · subst ha
    obtain ⟨p, hOut, hPath⟩ := TransGen.head'_iff.1 hCycle
    have hp : p ≠ a := by
      rintro rfl
      exact hLoop hOut
    rcases reflTransGen_iff_eq_or_transGen.1 hPath with hSame | hPath
    · exact hp hSame.symm
    · obtain ⟨q, hq, hIn⟩ := (path_grow hOld hLoop hBack hp hPath).1 rfl
      exact hBack q p hIn hOut hq
  · rcases (path_grow hOld hLoop hBack ha hCycle).2 ha with hPath | ⟨q, p, hq, hIn, hOut, hp⟩
    · exact h a hPath
    · exact hBack q p hIn hOut (hp.trans hq)

end Grow

/-- **No way back.**  When every old edge that is lost now starts or ends at the new node, an
old path from where the new node points is still one from the new node, so that none leads
back to where it is pointed from. -/
theorem Acyclic.not_back {R S : α → α → Prop} {x p q : α}
    (hKept : ∀ a b, R a b → S a b ∨ S x b ∨ S a x) (h : Acyclic S) (hIn : S q x) (hOut : S x p) :
    ¬ ReflTransGen R p q := by
  intro hPath
  have hFrom : TransGen S x q := by
    clear hIn
    induction hPath with
    | refl => exact .single hOut
    | tail hBefore hEdge ih =>
        rename_i a b
        rcases hKept a b hEdge with hSame | hHead | hTail
        · exact .tail ih hSame
        · exact .single hHead
        · exact absurd (TransGen.tail ih hTail) (h x)
  exact h x (.tail hFrom hIn)

end AgentShield.Lib
