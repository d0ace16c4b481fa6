import Mathlib.Algebra.GroupWithZero.Nat
import Mathlib.Algebra.Order.BigOperators.Group.List
import AgentShield.Sdk.Schema

/-!
# The length of a canonical text

How long the canonical text of a value is, counted entry by entry.  A field of a
model that is `None` counts nothing, a `null` in an object counts its entry, so
that two texts that differ in such an entry are told apart by their lengths,
whatever the floats in them look like.
-/

namespace AgentShield.Sdk

open AgentShield.Lib

namespace FloatText

variable (text : FloatText)

mutual

/-- The length of the canonical text of a value, computed without the text; brackets and
commas are counted together. -/
def length : Json → Nat
  | .null => 4
  | .bool b => if b then 4 else 5
  | .int i => (toString i).length
  | .float x => (text.jcsSerializeFloat x).length
  | .str s => (jsonString s).length
  | .arr xs => 1 + max 1 (itemsLength xs)
  | .obj xs => 1 + max 1 (entriesLength xs)

/-- The items of a list, each with the mark that follows it. -/
def itemsLength : List Json → Nat
  | [] => 0
  | x :: xs => length x + 1 + itemsLength xs

/-- The entries of an object, each with the mark that follows it. -/
def entriesLength : List (String × Json) → Nat
  | [] => 0
  | (k, x) :: xs => (jsonString k).length + 1 + length x + 1 + entriesLength xs

end

private theorem length_intercalate (l : List String) :
    (",".intercalate l).length + 1 = max 1 (l.map fun s => s.length + 1).sum := by
  induction l with
  | nil => rfl
  | cons s l ih =>
      cases l with
      | nil => simp
      | cons t l =>
          rw [String.intercalate_cons_cons]
          simp only [String.length_append, List.map_cons, List.sum_cons] at ih ⊢
          have hComma : ",".length = 1 := rfl
          omega

private theorem sum_map_insertionSort {α : Type} (r : α → α → Prop) [DecidableRel r]
    (f : α → Nat) (l : List α) : ((l.insertionSort r).map f).sum = (l.map f).sum :=
  ((List.perm_insertionSort r l).map f).sum_eq

mutual

/-- The length of a canonical text can be computed from the value, without writing it. -/
theorem length_jcsCanonicalize : ∀ x : Json, (text.jcsCanonicalize x).length = text.length x
  | .null => by
      simp only [jcsCanonicalize, length]
      rfl
  | .bool b => by
      cases b <;> simp only [jcsCanonicalize, length] <;> rfl
  | .int _ => by simp [jcsCanonicalize, length]
  | .float _ => by simp [jcsCanonicalize, length]
  | .str _ => by simp [jcsCanonicalize, length]
  | .arr xs => by
      have hItems := length_intercalate (text.jcsItems xs)
      rw [sum_jcsItems xs] at hItems
      simp only [jcsCanonicalize, length, String.length_append]
      have hOpen : "[".length = 1 := rfl
      have hClose : "]".length = 1 := rfl
      omega
  | .obj xs => by
      have hEntries := length_intercalate
        (((text.jcsPairs xs).insertionSort fun p q => p.1 ≤ q.1).map fun p =>
          jsonString p.1 ++ ":" ++ p.2)
      rw [List.map_map, sum_map_insertionSort, sum_jcsPairs xs] at hEntries
      simp only [jcsCanonicalize, length, String.length_append]
      have hOpen : "\x7b".length = 1 := rfl
      have hClose : "\x7d".length = 1 := rfl
      omega

theorem sum_jcsItems : ∀ xs : List Json,
    ((text.jcsItems xs).map fun s => s.length + 1).sum = text.itemsLength xs
  | [] => rfl
  | x :: xs => by
      simp only [jcsItems, List.map_cons, List.sum_cons, itemsLength, length_jcsCanonicalize x,
        sum_jcsItems xs]

theorem sum_jcsPairs : ∀ xs : List (String × Json),
    ((text.jcsPairs xs).map ((fun s : String => s.length + 1) ∘
      fun p : String × String => jsonString p.1 ++ ":" ++ p.2)).sum = text.entriesLength xs
  | [] => rfl
  | (k, x) :: xs => by
      have hColon : ":".length = 1 := rfl
      simp only [jcsPairs, List.map_cons, List.sum_cons, entriesLength, Function.comp_apply,
        String.length_append, length_jcsCanonicalize x, sum_jcsPairs xs, hColon]

end

/-- What a field of a model adds to its text. -/
def fieldLength (k : String) (x : Json) : Nat :=
  if x = .null then 0 else (jsonString k).length + 1 + text.length x + 1

/-- What a list of fields adds to the length of an object, each with its separator; fields
that are none add nothing. -/
def fieldsLength : List (String × Json) → Nat
  | [] => 0
  | (k, x) :: xs => text.fieldLength k x + fieldsLength xs

/-- The length of a model's text is that of its fields that are not none. -/
theorem length_modelObject (fields : List (String × Json)) :
    text.length (modelObject true fields) = 1 + max 1 (text.fieldsLength fields) := by
  have hFilter : text.entriesLength (fields.filter fun f => f.2 ≠ .null) =
      text.fieldsLength fields := by
    induction fields with
    | nil => simp [entriesLength, fieldsLength]
    | cons f fields ih =>
        obtain ⟨k, x⟩ := f
        by_cases hx : x = .null
        · simpa [fieldsLength, fieldLength, hx] using ih
        · simp [fieldsLength, fieldLength, entriesLength, hx] at ih ⊢
          omega
  simp only [modelObject, if_true, length, hFilter]

/-- A model whose fields take less room has the shorter text. -/
theorem length_modelObject_lt {xs ys : List (String × Json)}
    (h : text.fieldsLength ys < text.fieldsLength xs) (hSet : 1 < text.fieldsLength xs) :
    text.length (modelObject true ys) < text.length (modelObject true xs) := by
  rw [length_modelObject, length_modelObject]
  omega

theorem two_le_length_jsonString (s : String) : 2 ≤ (jsonString s).length := by
  have hQuote : "\"".length = 1 := rfl
  simp only [jsonString, String.length_append, hQuote]
  omega

/-- Nothing that pydantic changes on the wire changes the length of the canonical text. -/
theorem length_wire (x : Json) : text.length x.wire = text.length x := by
  rw [← length_jcsCanonicalize, ← length_jcsCanonicalize, jcsCanonicalize_wire]

theorem fieldLength_pos {x : Json} (hx : x ≠ .null) (k : String) : 1 < text.fieldLength k x := by
  have hKey := two_le_length_jsonString k
  simp only [fieldLength, if_neg hx]
  omega

theorem one_lt_fieldsLength {xs : List (String × Json)} {k : String} {x : Json}
    (hMem : (k, x) ∈ xs) (hx : x ≠ .null) : 1 < text.fieldsLength xs := by
  induction xs with
  | nil => cases hMem
  | cons f xs ih =>
      obtain ⟨k', x'⟩ := f
      simp only [fieldsLength]
      rcases List.mem_cons.1 hMem with hHead | hTail
      · obtain ⟨rfl, rfl⟩ := Prod.mk.inj hHead
        have hPos := text.fieldLength_pos hx k
        omega
      · have hRest := ih hTail
        omega

/-- A shorter value makes a shorter field. -/
theorem fieldLength_lt {x y : Json} (hx : x ≠ .null) (h : text.length y < text.length x)
    (k : String) : text.fieldLength k y < text.fieldLength k x := by
  by_cases hy : y = .null
  · have hPos := text.fieldLength_pos hx k
    have hZero : text.fieldLength k y = 0 := by simp [fieldLength, hy]
    omega
  · simp only [fieldLength, if_neg hx, if_neg hy]
    omega

/-- A field with a shorter value takes no more room, where the longer value is written at all.
-/
theorem fieldLength_le {x y : Json} (hx : x ≠ .null) (h : text.length y ≤ text.length x)
    (k : String) : text.fieldLength k y ≤ text.fieldLength k x := by
  by_cases hy : y = .null
  · simp [fieldLength, hy]
  · simp only [fieldLength, if_neg hx, if_neg hy]
    omega

/-- A field that the store does not lose has its length. -/
theorem fieldLength_wire {x : Json} (h : x.wire = .null → x = .null) (k : String) :
    text.fieldLength k x.wire = text.fieldLength k x := by
  by_cases hx : x = .null
  · rw [hx]
    rfl
  · have hw : x.wire ≠ .null := fun hw => hx (h hw)
    simp only [fieldLength, if_neg hx, if_neg hw, length_wire]

/-- Texts of different lengths are different. -/
theorem jcsCanonicalize_ne {x y : Json} (h : text.length x ≠ text.length y) :
    text.jcsCanonicalize x ≠ text.jcsCanonicalize y := by
  intro hEq
  rw [← length_jcsCanonicalize, ← length_jcsCanonicalize, hEq] at h
  exact h rfl

end FloatText

end AgentShield.Sdk
