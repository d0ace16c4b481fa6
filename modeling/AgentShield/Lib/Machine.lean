import Mathlib.Data.List.Basic

/-!
# Runs of a machine with outputs

A machine answers every input and moves on.  A run feeds it a list of inputs and
keeps the answers.  A condition on single steps is asked of a run along the states
that the run goes through.
-/

namespace AgentShield.Lib

variable {σ ι ο : Type}

/-- One step of a machine: the answer and the next state. -/
abbrev Machine (σ ι ο : Type) := σ → ι → ο × σ

namespace Machine

variable (m : Machine σ ι ο)

/-- The inputs with their answers, and the state in the end. -/
def run : σ → List ι → List (ι × ο) × σ
  | s, [] => ([], s)
  | s, i :: is =>
      let (o, s') := m s i
      let (log, s'') := run s' is
      ((i, o) :: log, s'')

/-- Every step of the run meets `P`. -/
def Throughout (P : σ → ι → Prop) : σ → List ι → Prop
  | _, [] => True
  | s, i :: is => P s i ∧ Throughout P (m s i).2 is

instance decidableThroughout {P : σ → ι → Prop} [∀ s i, Decidable (P s i)] :
    ∀ (s : σ) (is : List ι), Decidable (Throughout m P s is)
  | _, [] => .isTrue trivial
  | s, i :: is =>
      haveI : Decidable (Throughout m P (m s i).2 is) := decidableThroughout (m s i).2 is
      inferInstanceAs (Decidable (P s i ∧ Throughout m P (m s i).2 is))

@[simp] theorem run_nil (s : σ) : m.run s [] = ([], s) := rfl

@[simp] theorem run_cons (s : σ) (i : ι) (is : List ι) :
    m.run s (i :: is) =
      ((i, (m s i).1) :: (m.run (m s i).2 is).1, (m.run (m s i).2 is).2) := rfl

@[simp] theorem throughout_cons (P : σ → ι → Prop) (s : σ) (i : ι) (is : List ι) :
    m.Throughout P s (i :: is) ↔ P s i ∧ m.Throughout P (m s i).2 is := Iff.rfl

/-- A property of every input of the list may be added to what holds throughout the run. -/
theorem throughout_and {P : σ → ι → Prop} {Q : ι → Prop} {s : σ} {is : List ι}
    (h : m.Throughout P s is) (hInputs : ∀ i ∈ is, Q i) :
    m.Throughout (fun s i => P s i ∧ Q i) s is := by
  induction is generalizing s with
  | nil => trivial
  | cons i is ih =>
      exact ⟨⟨h.1, hInputs i List.mem_cons_self⟩,
        ih h.2 fun j hj => hInputs j (List.mem_cons_of_mem _ hj)⟩

/-- The induction over a run, from any state and any log behind it: what each step keeps of
log and state holds of the log and the state at its end. -/
theorem run_invariant_from {P : σ → ι → Prop} {Inv : List (ι × ο) → σ → Prop}
    (hStep : ∀ log s i, P s i → Inv log s → Inv (log ++ [(i, (m s i).1)]) (m s i).2)
    {log : List (ι × ο)} {s : σ} {is : List ι} (hSteps : m.Throughout P s is)
    (h : Inv log s) : Inv (log ++ (m.run s is).1) (m.run s is).2 := by
  induction is generalizing log s with
  | nil => simpa using h
  | cons i is ih =>
      obtain ⟨hFirst, hRest⟩ := hSteps
      have hNext := ih hRest (hStep log s i hFirst h)
      simpa [List.append_assoc] using hNext

/-- **The run rule**: what holds of the log and the state in the beginning and is
kept by every step that meets `P` holds after every run whose steps meet `P`. -/
theorem run_invariant {P : σ → ι → Prop} (Inv : List (ι × ο) → σ → Prop)
    (hStep : ∀ log s i, P s i → Inv log s → Inv (log ++ [(i, (m s i).1)]) (m s i).2)
    {s : σ} {is : List ι} (hSteps : m.Throughout P s is) (h : Inv [] s) :
    Inv (m.run s is).1 (m.run s is).2 := by
  simpa using m.run_invariant_from hStep hSteps h

/-- **Unwinding**: two states agree as far as the low inputs can tell.  A low input
gets the same answer from both and keeps the agreement, and an input that is not low
keeps it on its own.  Then the low inputs of a run get the answers of a run without
the other inputs. -/
theorem unwinding (low : ι → Bool) (Agree : σ → σ → Prop) {is : List ι}
    (hLow : ∀ i ∈ is, low i = true → ∀ s t, Agree s t →
      (m s i).1 = (m t i).1 ∧ Agree (m s i).2 (m t i).2)
    (hHigh : ∀ i ∈ is, low i = false → ∀ s t, Agree s t → Agree (m s i).2 t)
    {s t : σ} (h : Agree s t) :
    ((m.run s is).1.filter fun entry => low entry.1) = (m.run t (is.filter low)).1 := by
  induction is generalizing s t with
  | nil => rfl
  | cons i is ih =>
      have ihStep := fun {s t} => ih
        (fun j hj => hLow j (List.mem_cons_of_mem _ hj))
        (fun j hj => hHigh j (List.mem_cons_of_mem _ hj)) (s := s) (t := t)
      cases hi : low i with
      | true =>
          obtain ⟨hAnswer, hNext⟩ := hLow i List.mem_cons_self hi s t h
          simp only [run_cons, List.filter_cons, hi, if_true]
          rw [ihStep hNext, hAnswer]
      | false =>
          have hNext := hHigh i List.mem_cons_self hi s t h
          simp only [run_cons, List.filter_cons, hi, Bool.false_eq_true, if_false]
          exact ihStep hNext

end Machine

end AgentShield.Lib
