import Mathlib.Data.List.Basic

/-!
# Chains of grants

A log of events in which some found an authority and others pass one on: whoever holds `k'`
may give `k`.  `Granted log k` says that the log holds a chain of such events that ends in
`k`, each after the one it relies on.  A chain starts with an event that founds its first
authority (`Granted.rooted`), and what is passed on holds of everything that is granted
(`Granted.induct`).
-/

namespace AgentShield.Lib

variable {ε κ : Type}

/-- Which events found an authority, and which pass one on. -/
structure Grants (ε κ : Type) where
  Root : ε → κ → Prop
  Pass : ε → κ → κ → Prop

variable (g : Grants ε κ)

/-- The log holds a chain of grants of the authority.  Every link is an entry later than the
one it relies on, and the first one needs no other. -/
inductive Granted : List ε → κ → Prop
  | root {log : List ε} {e : ε} {k : κ} (h : g.Root e k) : Granted (log ++ [e]) k
  | pass {log : List ε} {e : ε} {k k' : κ} (hFrom : Granted log k') (h : g.Pass e k' k) :
      Granted (log ++ [e]) k
  | later {log : List ε} {e : ε} {k : κ} (h : Granted log k) : Granted (log ++ [e]) k

variable {g} {log : List ε} {k : κ}

/-- **Induction along a chain.** -/
theorem Granted.induct {P : κ → Prop} (h : Granted g log k)
    (hRoot : ∀ e ∈ log, ∀ k, g.Root e k → P k)
    (hPass : ∀ e ∈ log, ∀ k' k, g.Pass e k' k → P k' → P k) : P k := by
  induction h with
  | root h => exact hRoot _ (List.mem_append_right _ List.mem_cons_self) _ h
  | pass _ h ih =>
      refine hPass _ (List.mem_append_right _ List.mem_cons_self) _ _ h (ih ?_ ?_)
      · exact fun e he => hRoot e (List.mem_append_left _ he)
      · exact fun e he => hPass e (List.mem_append_left _ he)
  | later _ ih =>
      refine ih ?_ ?_
      · exact fun e he => hRoot e (List.mem_append_left _ he)
      · exact fun e he => hPass e (List.mem_append_left _ he)

/-- **A chain starts with an event of the log that founds an authority**, and what every
grant keeps is the same at both of its ends. -/
theorem Granted.rooted {β : Type} {f : κ → β} (h : Granted g log k)
    (hKeep : ∀ e ∈ log, ∀ k' k, g.Pass e k' k → f k = f k') :
    ∃ e ∈ log, ∃ k₀, g.Root e k₀ ∧ f k₀ = f k := by
  refine h.induct (P := fun k => ∃ e ∈ log, ∃ k₀, g.Root e k₀ ∧ f k₀ = f k) ?_ ?_
  · exact fun e he k hRoot => ⟨e, he, k, hRoot, rfl⟩
  · rintro e he k' k hPass ⟨e₀, he₀, k₀, hRoot, hSame⟩
    exact ⟨e₀, he₀, k₀, hRoot, hSame.trans (hKeep e he k' k hPass).symm⟩

end AgentShield.Lib
