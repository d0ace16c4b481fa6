import Mathlib.Data.List.Basic

/-!
# Bounded windows

A queue of bounded length that drops its oldest element when it is full holds the last
elements of all that were put into it.
-/

namespace AgentShield.Lib

variable {α : Type}

/-- The last `n` elements of a list. -/
def window (n : Nat) (xs : List α) : List α := xs.drop (xs.length - n)

namespace Window

/-- Puts an element at the end of a queue of length `n`. -/
def push (n : Nat) (xs : List α) (x : α) : List α := window n (xs ++ [x])

@[simp] theorem window_nil (n : Nat) : window n ([] : List α) = [] := by
  simp [window]

theorem window_map {β : Type} (f : α → β) (n : Nat) (xs : List α) :
    window n (xs.map f) = (window n xs).map f := by
  simp [window, List.map_drop]

theorem push_map {β : Type} (f : α → β) (n : Nat) (xs : List α) (x : α) :
    push n (xs.map f) (f x) = (push n xs x).map f := by
  unfold push
  rw [← window_map, List.map_append, List.map_cons, List.map_nil]

/-- **A queue that is a window stays one.** -/
theorem push_window (n : Nat) (xs : List α) (x : α) :
    push n (window n xs) x = window n (xs ++ [x]) := by
  unfold push window
  have hLe : xs.length - n ≤ xs.length := Nat.sub_le _ _
  have hAppend : xs.drop (xs.length - n) ++ [x] = (xs ++ [x]).drop (xs.length - n) := by
    rw [List.drop_append_of_le_length hLe]
  rw [hAppend, List.drop_drop]
  congr 1
  simp only [List.length_drop, List.length_append, List.length_cons, List.length_nil]
  omega

/-- What is in the window has fewer than `n` elements after it. -/
theorem split_of_mem {n : Nat} {xs : List α} {x : α} (h : x ∈ window n xs) :
    ∃ before after, xs = before ++ x :: after ∧ after.length < n := by
  unfold window at h
  obtain ⟨earlier, later, hSplit⟩ := List.append_of_mem h
  refine ⟨xs.take (xs.length - n) ++ earlier, later, ?_, ?_⟩
  · rw [List.append_assoc, ← hSplit, List.take_append_drop]
  · have hLength := congrArg List.length hSplit
    simp only [List.length_drop, List.length_append, List.length_cons] at hLength
    omega

end Window

end AgentShield.Lib
