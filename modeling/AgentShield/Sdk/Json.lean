import Mathlib.Data.List.Sort
import Mathlib.Data.Rat.Defs
import AgentShield.Lib.Dict

/-!
# JSON values and their texts

A `Json` is a value as Python's `json` module and pydantic's `Any` fields hold
it.  A float is a rational or one of the three values without a JSON number.
The two texts that the code writes are `jsonDumps`, the compact form of
`json.dumps` and of pydantic's serializer, and `jcsCanonicalize`, the RFC 8785
form that is hashed and signed.  How a finite float is printed is left to
`FloatText`.

Documents in the object store are kept as values.  Writing a document and
reading it back replaces the floats without a JSON number by `null` (`wire`),
which does not change its canonical form (`jcsCanonicalize_wire`).
-/

namespace AgentShield.Sdk

open AgentShield.Lib

/-- A Python float: a rational value, or one that JSON cannot write.  Rounding is left out, so
that sums and comparisons are exact. -/
inductive PyFloat where
  | finite (q : Rat)
  | nan
  | inf
  | negInf
  deriving DecidableEq

inductive Json where
  | null
  | bool (b : Bool)
  | int (i : Int)
  | float (x : PyFloat)
  | str (s : String)
  | arr (items : List Json)
  | obj (fields : List (String × Json))

namespace Json

mutual

/-- Equality of JSON values, as the comparison of the parsed values: numbers of different
types differ, and members count in their order. -/
def beq : Json → Json → Bool
  | .null, .null => true
  | .bool b, .bool b' => b == b'
  | .int i, .int i' => i == i'
  | .float x, .float x' => x == x'
  | .str s, .str s' => s == s'
  | .arr xs, .arr ys => beqItems xs ys
  | .obj xs, .obj ys => beqFields xs ys
  | _, _ => false

def beqItems : List Json → List Json → Bool
  | [], [] => true
  | x :: xs, y :: ys => beq x y && beqItems xs ys
  | _, _ => false

def beqFields : List (String × Json) → List (String × Json) → Bool
  | [], [] => true
  | (k, x) :: xs, (k', y) :: ys => k == k' && beq x y && beqFields xs ys
  | _, _ => false

end

mutual

private theorem beq_refl : ∀ j : Json, beq j j = true
  | .null => rfl
  | .bool b => by simp [beq]
  | .int i => by simp [beq]
  | .float x => by simp [beq]
  | .str s => by simp [beq]
  | .arr xs => by simp [beq, beqItems_refl xs]
  | .obj xs => by simp [beq, beqFields_refl xs]

private theorem beqItems_refl : ∀ xs : List Json, beqItems xs xs = true
  | [] => rfl
  | x :: xs => by simp [beqItems, beq_refl x, beqItems_refl xs]

private theorem beqFields_refl : ∀ xs : List (String × Json), beqFields xs xs = true
  | [] => rfl
  | (k, x) :: xs => by simp [beqFields, beq_refl x, beqFields_refl xs]

end

mutual

private theorem eq_of_beq : ∀ i j : Json, beq i j = true → i = j
  | .null, j, h => by cases j <;> simp_all [beq]
  | .bool b, j, h => by cases j <;> simp_all [beq]
  | .int i, j, h => by cases j <;> simp_all [beq]
  | .float x, j, h => by cases j <;> simp_all [beq]
  | .str s, j, h => by cases j <;> simp_all [beq]
  | .arr xs, j, h => by
      cases j with
      | arr ys => rw [eq_of_beqItems xs ys h]
      | _ => simp [beq] at h
  | .obj xs, j, h => by
      cases j with
      | obj ys => rw [eq_of_beqFields xs ys h]
      | _ => simp [beq] at h

private theorem eq_of_beqItems : ∀ xs ys : List Json, beqItems xs ys = true → xs = ys
  | [], [], _ => rfl
  | [], _ :: _, h => by simp [beqItems] at h
  | _ :: _, [], h => by simp [beqItems] at h
  | x :: xs, y :: ys, h => by
      simp only [beqItems, Bool.and_eq_true] at h
      rw [eq_of_beq x y h.1, eq_of_beqItems xs ys h.2]

private theorem eq_of_beqFields : ∀ xs ys : List (String × Json),
    beqFields xs ys = true → xs = ys
  | [], [], _ => rfl
  | [], _ :: _, h => by simp [beqFields] at h
  | _ :: _, [], h => by simp [beqFields] at h
  | (k, x) :: xs, (k', y) :: ys, h => by
      simp only [beqFields, Bool.and_eq_true, beq_iff_eq] at h
      rw [h.1.1, eq_of_beq x y h.1.2, eq_of_beqFields xs ys h.2]

end

instance : DecidableEq Json := fun i j =>
  decidable_of_iff (beq i j = true) ⟨eq_of_beq i j, fun h => h ▸ beq_refl i⟩

/-- The value of an optional field: Python's `None` is JSON's `null`. -/
def ofOption {α : Type} (f : α → Json) : Option α → Json
  | some a => f a
  | none => .null

/-- `value[key]` on a parsed document: an object that has the key. -/
def field? : Json → String → Option Json
  | .obj fields, key => Dict.get? fields key
  | _, _ => none

/-! ## Writing and reading a document -/

mutual

/-- What reading the text of a document gives: a float without a JSON number
has been written as `null`. -/
def wire : Json → Json
  | .float (.finite q) => .float (.finite q)
  | .float _ => .null
  | .arr xs => .arr (wireItems xs)
  | .obj xs => .obj (wireFields xs)
  | j => j

def wireItems : List Json → List Json
  | [] => []
  | x :: xs => wire x :: wireItems xs

def wireFields : List (String × Json) → List (String × Json)
  | [] => []
  | (k, x) :: xs => (k, wire x) :: wireFields xs

end

theorem get?_wireFields (xs : List (String × Json)) (key : String) :
    Dict.get? (wireFields xs) key = (Dict.get? xs key).map wire := by
  induction xs with
  | nil => rfl
  | cons x xs ih =>
      obtain ⟨k, v⟩ := x
      by_cases hk : k = key
      · simp [wireFields, Dict.get?, hk]
      · simp [wireFields, Dict.get?, hk, ih]

/-- A document field survives the store up to `wire`. -/
theorem field?_wire (j : Json) (key : String) :
    (wire j).field? key = (j.field? key).map wire := by
  cases j with
  | obj fields => exact get?_wireFields fields key
  | float x => cases x <;> rfl
  | _ => rfl

end Json

/-! ## Texts -/

/-- How a finite float is printed: by `repr`, and by pydantic's serializer. -/
structure FloatText where
  repr : Rat → String
  ryu : Rat → String

def hexDigit (n : Nat) : Char :=
  if n < 10 then Char.ofNat (48 + n) else Char.ofNat (87 + n)

/-- One character of a JSON string with `ensure_ascii=False`: a quote, a
backslash and a control character are escaped, everything else stands. -/
def escapeChar (c : Char) : String :=
  match c.toNat with
  | 8 => "\\b"
  | 9 => "\\t"
  | 10 => "\\n"
  | 12 => "\\f"
  | 13 => "\\r"
  | 34 => "\\\""
  | 92 => "\\\\"
  | n =>
      if n < 32 then "\\u00" ++ String.ofList [hexDigit (n / 16), hexDigit (n % 16)]
      else String.singleton c

/-- `json.dumps(s, ensure_ascii=False)` of a string. -/
def jsonString (s : String) : String :=
  "\"" ++ String.join (s.toList.map escapeChar) ++ "\""

namespace Json

mutual

/-- `json.dumps(value, separators=(",", ":"), ensure_ascii=False)`: members in their own
order, and only what JSON has to escape is escaped. -/
def dumps (repr : PyFloat → String) : Json → String
  | .null => "null"
  | .bool b => if b then "true" else "false"
  | .int i => toString i
  | .float x => repr x
  | .str s => jsonString s
  | .arr xs => "[" ++ ",".intercalate (dumpsItems repr xs) ++ "]"
  | .obj xs => "\x7b" ++ ",".intercalate (dumpsFields repr xs) ++ "\x7d"

def dumpsItems (repr : PyFloat → String) : List Json → List String
  | [] => []
  | x :: xs => dumps repr x :: dumpsItems repr xs

def dumpsFields (repr : PyFloat → String) : List (String × Json) → List String
  | [] => []
  | (k, x) :: xs => (jsonString k ++ ":" ++ dumps repr x) :: dumpsFields repr xs

end

end Json

namespace FloatText

variable (text : FloatText)

/-- How `json.dumps` prints a float. -/
def jsonFloat : PyFloat → String
  | .finite q => text.repr q
  | .nan => "NaN"
  | .inf => "Infinity"
  | .negInf => "-Infinity"

/-- `str(value)` of a float. -/
def str : PyFloat → String
  | .finite q => text.repr q
  | .nan => "nan"
  | .inf => "inf"
  | .negInf => "-inf"

/-- How pydantic's serializer prints a float. -/
def pydanticFloat : PyFloat → String
  | .finite q => text.ryu q
  | _ => "null"

/-- The compact text that the server stores in its text columns. -/
def jsonDumps (j : Json) : String := j.dumps text.jsonFloat

/-- The text of `model_dump_json`. -/
def modelDumpJson (j : Json) : String := j.dumps text.pydanticFloat

/-- A number in the canonical form.  A float without a JSON number is `null`,
and both zeros are `0`. -/
def jcsSerializeFloat : PyFloat → String
  | .finite q => if q = 0 then "0" else text.repr q
  | _ => "null"

mutual

/-- `jcs_canonicalize`: object keys sorted, by their characters, and no white space.  Floats
have a writer of their own. -/
def jcsCanonicalize : Json → String
  | .null => "null"
  | .bool b => if b then "true" else "false"
  | .int i => toString i
  | .float x => jcsSerializeFloat text x
  | .str s => jsonString s
  | .arr xs => "[" ++ ",".intercalate (jcsItems xs) ++ "]"
  | .obj xs =>
      "\x7b" ++ ",".intercalate
        (((jcsPairs xs).insertionSort fun p q => p.1 ≤ q.1).map fun p =>
          jsonString p.1 ++ ":" ++ p.2) ++ "\x7d"

def jcsItems : List Json → List String
  | [] => []
  | x :: xs => jcsCanonicalize x :: jcsItems xs

/-- The fields of an object with the canonical texts of their values. -/
def jcsPairs : List (String × Json) → List (String × String)
  | [] => []
  | (k, x) :: xs => (k, jcsCanonicalize x) :: jcsPairs xs

end

open Json in
mutual

/-- **The canonical form does not see the store**: a document that was written
and read back has the canonical text of the document that was written. -/
theorem jcsCanonicalize_wire : ∀ j : Json,
    jcsCanonicalize text (wire j) = jcsCanonicalize text j
  | .null => rfl
  | .bool _ => rfl
  | .int _ => rfl
  | .float (.finite _) => rfl
  | .float .nan => by simp [wire, jcsCanonicalize, jcsSerializeFloat]
  | .float .inf => by simp [wire, jcsCanonicalize, jcsSerializeFloat]
  | .float .negInf => by simp [wire, jcsCanonicalize, jcsSerializeFloat]
  | .str _ => rfl
  | .arr xs => by simp only [wire, jcsCanonicalize, jcsItems_wire xs]
  | .obj xs => by simp only [wire, jcsCanonicalize, jcsPairs_wire xs]

theorem jcsItems_wire : ∀ xs : List Json,
    jcsItems text (wireItems xs) = jcsItems text xs
  | [] => rfl
  | x :: xs => by
      simp only [wireItems, jcsItems, jcsCanonicalize_wire x, jcsItems_wire xs]

theorem jcsPairs_wire : ∀ xs : List (String × Json),
    jcsPairs text (wireFields xs) = jcsPairs text xs
  | [] => rfl
  | (k, x) :: xs => by
      simp only [wireFields, jcsPairs, jcsCanonicalize_wire x, jcsPairs_wire xs]

end

end FloatText

end AgentShield.Sdk
