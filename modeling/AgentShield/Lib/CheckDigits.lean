import Mathlib.Algebra.Field.Basic
import Mathlib.Algebra.GroupWithZero.Basic
import Mathlib.Tactic.LinearCombination
import Mathlib.Tactic.Ring

/-!
# Check digits

A text is read as one number over a field, in which each symbol takes as many places as its
class has digits.  When the text is rotated first, so that the check digits come last, and
the base has a larger order than the text has places, the number tells two texts apart that
differ in one symbol, or in the order of two neighbours, of one class (`Slip.detected`).
-/

namespace AgentShield.Lib.CheckDigits

/-- How symbols are read.  Symbols of one class take the same places and differ in value,
and no power of the base up to `order` is one. -/
structure Code (α K : Type) [Field K] where
  base : K
  width : α → Nat
  val : α → K
  Same : α → α → Prop
  order : Nat
  same_symm : ∀ {a b}, Same a b → Same b a
  width_eq : ∀ {a b}, Same a b → width a = width b
  width_pos : ∀ a, 0 < width a
  val_ne : ∀ {a b}, Same a b → a ≠ b → val a ≠ val b
  base_ne : base ≠ 0
  pow_ne : ∀ n, 0 < n → n < order → base ^ n ≠ 1

/-- One symbol is another of its class, or two neighbours of one class change places. -/
inductive Slip {α : Type} (Same : α → α → Prop) : List α → List α → Prop
  | substitute (p q : List α) {a b : α} : Same a b → a ≠ b → Slip Same (p ++ a :: q) (p ++ b :: q)
  | transpose (p q : List α) {a b : α} : Same a b → a ≠ b →
      Slip Same (p ++ a :: b :: q) (p ++ b :: a :: q)

/-- The text from its `k`-th symbol on, and then what stood in front. -/
def rotated {α : Type} (k : Nat) (cs : List α) : List α := cs.drop k ++ cs.take k

namespace Code

variable {α K : Type} [Field K] (code : Code α K)

/-- The places of a text. -/
def places (cs : List α) : Nat := (cs.map code.width).sum

/-- The number that a text is read as. -/
def number (cs : List α) : K := cs.foldl (fun n c => n * code.base ^ code.width c + code.val c) 0

theorem foldl_number (n : K) (cs : List α) :
    cs.foldl (fun n c => n * code.base ^ code.width c + code.val c) n =
      n * code.base ^ code.places cs + code.number cs := by
  unfold number places
  induction cs generalizing n with
  | nil => simp
  | cons c cs ih =>
      rw [List.foldl_cons, List.foldl_cons, ih, ih (0 * _ + _), List.map_cons, List.sum_cons,
        pow_add]
      ring

@[simp] theorem places_append (cs ds : List α) :
    code.places (cs ++ ds) = code.places cs + code.places ds := by
  simp [places]

@[simp] theorem places_cons (c : α) (cs : List α) :
    code.places (c :: cs) = code.width c + code.places cs := by
  simp [places]

theorem number_append (cs ds : List α) :
    code.number (cs ++ ds) = code.number cs * code.base ^ code.places ds + code.number ds := by
  have hSplit := code.foldl_number (code.number cs) ds
  rw [number, List.foldl_append]
  exact hSplit

theorem number_cons (c : α) (cs : List α) :
    code.number (c :: cs) = code.val c * code.base ^ code.places cs + code.number cs := by
  have hOne : code.number [c] = code.val c := by simp [number]
  rw [← hOne]
  exact code.number_append [c] cs

section Detection

variable {code} {a b : α} (hSame : code.Same a b) (hNe : a ≠ b)
include hSame hNe

/-- Two values of one class leave a difference at every place. -/
theorem number_substitute_ne (p q : List α) :
    code.number (p ++ a :: q) ≠ code.number (p ++ b :: q) := by
  intro h
  rw [number_append, number_append, number_cons, number_cons, places_cons, places_cons,
    code.width_eq hSame] at h
  have hValues :
      code.val a * code.base ^ code.places q = code.val b * code.base ^ code.places q := by
    linear_combination h
  exact code.val_ne hSame hNe (mul_right_cancel₀ (pow_ne_zero _ code.base_ne) hValues)

/-- Two values that change places with `mid` between them. -/
theorem number_exchange_ne (p mid q : List α)
    (hOrder : code.places mid + code.width a < code.order) :
    code.number (p ++ a :: (mid ++ b :: q)) ≠ code.number (p ++ b :: (mid ++ a :: q)) := by
  intro h
  have hWidth := code.width_eq hSame
  simp only [number_append, number_cons, places_append, places_cons] at h
  rw [← hWidth] at h
  have hProduct : (code.val a - code.val b) *
      (code.base ^ (code.places mid + code.width a) - 1) * code.base ^ code.places q = 0 := by
    linear_combination h
  have hFactors := mul_eq_zero.1 hProduct
  rcases hFactors with hFactors | hZero
  · rcases mul_eq_zero.1 hFactors with hValues | hPower
    · exact code.val_ne hSame hNe (sub_eq_zero.1 hValues)
    · have hPos := code.width_pos a
      exact code.pow_ne _ (by omega) hOrder (sub_eq_zero.1 hPower)
  · exact pow_ne_zero _ code.base_ne hZero

end Detection

end Code

/-! ## Rotated texts -/

/-- A window that the rotation does not cut stays whole. -/
theorem rotated_window {α : Type} (k m : Nat) (p q : List α)
    (h : k ≤ p.length ∨ p.length + m ≤ k) :
    ∃ pre post : List α, ∀ w : List α, w.length = m →
      rotated k (p ++ (w ++ q)) = pre ++ (w ++ post) := by
  rcases h with hBehind | hBefore
  · refine ⟨p.drop k, q ++ p.take k, fun w _ => ?_⟩
    unfold rotated
    rw [List.drop_append_of_le_length hBehind, List.take_append_of_le_length hBehind]
    simp only [List.append_assoc]
  · refine ⟨q.drop (k - p.length - m) ++ p, q.take (k - p.length - m), ?_⟩
    intro w hw
    have hp : p.length ≤ k := by omega
    have hm : w.length ≤ k - p.length := by omega
    unfold rotated
    rw [List.drop_append, List.drop_append, List.take_append, List.take_append,
      List.drop_eq_nil_of_le hp, List.drop_eq_nil_of_le hm, List.take_of_length_le hp,
      List.take_of_length_le hm, hw]
    simp only [List.nil_append, List.append_assoc]

/-- Between two neighbours the rotation cuts the text: they come to stand at its ends. -/
theorem rotated_between {α : Type} (p q : List α) (a b : α) :
    rotated (p.length + 1) (p ++ a :: b :: q) = b :: ((q ++ p) ++ [a]) := by
  unfold rotated
  rw [List.drop_append, List.take_append, List.drop_eq_nil_of_le (Nat.le_succ _),
    List.take_of_length_le (Nat.le_succ _)]
  simp

/-- **The number of the rotated text detects every slip**, as long as there are fewer places
than the order of the base: a slip changes the number by a difference of values times a power
of the base, neither of which is zero. -/
theorem Slip.detected {α K : Type} [Field K] {code : Code α K} {cs cs' : List α}
    (h : Slip code.Same cs cs') (k : Nat) (hOrder : code.places cs < code.order) :
    code.number (rotated k cs) ≠ code.number (rotated k cs') := by
  cases h with
  | @substitute p q a b hSame hNe =>
      have hUncut : k ≤ p.length ∨ p.length + 1 ≤ k := by omega
      obtain ⟨pre, post, hWindow⟩ := rotated_window k 1 p q hUncut
      have hFrom : rotated k (p ++ a :: q) = pre ++ a :: post := hWindow [a] rfl
      have hTo : rotated k (p ++ b :: q) = pre ++ b :: post := hWindow [b] rfl
      rw [hFrom, hTo]
      exact Code.number_substitute_ne hSame hNe pre post
  | @transpose p q a b hSame hNe =>
      rw [code.places_append, code.places_cons, code.places_cons] at hOrder
      by_cases hUncut : k ≤ p.length ∨ p.length + 2 ≤ k
      · obtain ⟨pre, post, hWindow⟩ := rotated_window k 2 p q hUncut
        have hFrom : rotated k (p ++ a :: b :: q) = pre ++ a :: b :: post := hWindow [a, b] rfl
        have hTo : rotated k (p ++ b :: a :: q) = pre ++ b :: a :: post := hWindow [b, a] rfl
        rw [hFrom, hTo]
        apply Code.number_exchange_ne hSame hNe pre [] post
        show 0 + code.width a < code.order
        omega
      · have hCut : k = p.length + 1 := by omega
        rw [hCut, rotated_between, rotated_between]
        apply Code.number_exchange_ne (code.same_symm hSame) (Ne.symm hNe) [] (q ++ p) []
        rw [code.places_append]
        omega

end AgentShield.Lib.CheckDigits
