import Mathlib.Algebra.Order.Ring.Rat
import AgentShield.Sdk.Json

/-!
# Numbers and texts of the runtime

The arithmetic of Python floats on their exact values, and the text functions
that the rules call.  A float has no rounding and no largest finite value here.
What depends on the tables of Unicode or on printing floats is left to `PyText`.
-/

namespace AgentShield.Sdk

namespace PyFloat

/-- Addition of floats with exact values in place of rounded ones; infinities and NaN as in
Python. -/
def add : PyFloat → PyFloat → PyFloat
  | .finite p, .finite q => .finite (p + q)
  | .nan, _ | _, .nan => .nan
  | .inf, .negInf | .negInf, .inf => .nan
  | .inf, _ | _, .inf => .inf
  | .negInf, _ | _, .negInf => .negInf

/-- `x < y`: every comparison with NaN fails. -/
def lt : PyFloat → PyFloat → Bool
  | .finite p, .finite q => p < q
  | .finite _, .inf | .negInf, .finite _ | .negInf, .inf => true
  | _, _ => false

/-- The order of floats. NaN is in no order to anything. -/
def le : PyFloat → PyFloat → Bool
  | .finite p, .finite q => p ≤ q
  | .finite _, .inf | .negInf, .finite _ | .negInf, .inf => true
  | .inf, .inf | .negInf, .negInf => true
  | _, _ => false

instance : Zero PyFloat := ⟨.finite 0⟩
instance : Add PyFloat := ⟨add⟩
instance : LT PyFloat := ⟨fun x y => lt x y = true⟩
instance : LE PyFloat := ⟨fun x y => le x y = true⟩
instance (x y : PyFloat) : Decidable (x < y) := inferInstanceAs (Decidable (lt x y = true))
instance (x y : PyFloat) : Decidable (x ≤ y) := inferInstanceAs (Decidable (le x y = true))

@[simp] theorem zero_eq : (0 : PyFloat) = .finite 0 := rfl

@[simp] theorem finite_add (p q : Rat) :
    (PyFloat.finite p + PyFloat.finite q : PyFloat) = .finite (p + q) := rfl

@[simp] theorem finite_lt (p q : Rat) : PyFloat.finite p < .finite q ↔ p < q :=
  decide_eq_true_iff

@[simp] theorem finite_le (p q : Rat) : PyFloat.finite p ≤ .finite q ↔ p ≤ q :=
  decide_eq_true_iff

@[simp] theorem add_finite_zero (x : PyFloat) : x + .finite 0 = x := by
  cases x with
  | finite p => simp
  | _ => rfl

/-- A value that does not pass a limit below `b` is below `b`. -/
theorem lt_of_not_gt {p b : Rat} {limit : PyFloat} (h : ¬ limit < .finite p)
    (hLimit : limit < .finite b) : p < b := by
  cases limit with
  | finite q => exact lt_of_le_of_lt (by simpa using h) (by simpa using hLimit)
  | negInf => exact absurd rfl h
  | nan => cases hLimit
  | inf => cases hLimit

/-- What is within a limit is within what bounds the limit. -/
theorem le_of_le_limit {p b : Rat} {limit : PyFloat} (h : PyFloat.finite p ≤ limit)
    (hLimit : limit ≤ .finite b) : p ≤ b := by
  cases limit with
  | finite q => exact le_trans (by simpa using h) (by simpa using hLimit)
  | negInf => cases h
  | nan => cases h
  | inf => cases hLimit

/-- `min(x, y)`: the first unless the second is smaller. -/
def pyMin (x y : PyFloat) : PyFloat := if y < x then y else x

/-- `max(x, y)`: the first unless the second is larger. -/
def pyMax (x y : PyFloat) : PyFloat := if x < y then y else x

/-- `sum(xs)`, from the left. -/
def sum (xs : List PyFloat) : PyFloat := xs.foldl (· + ·) 0

theorem sum_concat (xs : List PyFloat) (x : PyFloat) : sum (xs ++ [x]) = sum xs + x := by
  simp [sum]

end PyFloat

/-- A number that a policy holds: its comparisons are those of its value. -/
inductive PyNumber where
  | int (i : Int)
  | float (x : PyFloat)
  deriving DecidableEq

/-- The value of a number of a configuration, integer or float. -/
def PyNumber.value : PyNumber → PyFloat
  | int i => .finite i
  | float x => x

/-- The text functions.  `float` fails on a text that is no number; the classes of characters
are those of the Unicode tables, and only what the proofs name is assumed of them. -/
structure PyText extends FloatText where
  float : String → Option PyFloat
  reprValue : Json → String
  upper : String → String
  isAlnum : Char → Bool
  isDecimal : Char → Bool
  isSpace : Char → Bool

namespace PyText

variable (text : PyText)

/-- `str(value)`. -/
def strOf : Json → String
  | .str s => s
  | .null => "None"
  | .bool b => if b then "True" else "False"
  | .int i => toString i
  | .float x => text.str x
  | j => text.reprValue j

/-- A number in a formatted text. -/
def number : PyNumber → String
  | .int i => toString i
  | .float x => text.str x

/-- `float(value or 0)`, which fails on a text that is no number and on a
container that is not empty. -/
def floatOf : Json → Option PyFloat
  | .null | .bool false => some 0
  | .bool true => some (.finite 1)
  | .int i => some (.finite i)
  | .float x => some x
  | .str s => if s = "" then some 0 else text.float s
  | .arr xs => if xs.isEmpty then some 0 else none
  | .obj xs => if xs.isEmpty then some 0 else none

/-- A word character of a regular expression. -/
def isWord (c : Char) : Bool := text.isAlnum c || c == '_'

end PyText

/-- What a call raises.  The last stands for the errors of packages outside the repository, by
their names. -/
inductive PyError where
  | valueError
  | overflowError
  | zeroDivisionError
  | keyError
  | runtimeError (message : String)
  | thirdParty (name : String)
  deriving DecidableEq

end AgentShield.Sdk
