import Mathlib.Tactic.IntervalCases
import AgentShield.Sdk.Json

/-!
# The canonical text determines the value

The canonical text of a value without floats can be read in one way only: a text
is told apart from every other by its first character, a string ends at its first
bare quote, a number at the first character that is no digit, and a list or an
object at its bracket.  So two such values have the same canonical text exactly
when they are the same up to the order of the entries of their objects
(`jcsCanonicalize_eq_iff`).
-/

namespace AgentShield.Sdk

open AgentShield.Lib

namespace Json

mutual

/-- No float occurs in the value. -/
def FloatFree : Json → Prop
  | .float _ => False
  | .arr xs => FloatFreeItems xs
  | .obj xs => FloatFreeFields xs
  | _ => True

/-- No item holds a float. -/
def FloatFreeItems : List Json → Prop
  | [] => True
  | x :: xs => FloatFree x ∧ FloatFreeItems xs

/-- No value of a field holds a float. -/
def FloatFreeFields : List (String × Json) → Prop
  | [] => True
  | (_, x) :: xs => FloatFree x ∧ FloatFreeFields xs

end

mutual

/-- The value with the entries of every object in the order of their keys. -/
def ordered : Json → Json
  | .arr xs => .arr (orderedItems xs)
  | .obj xs => .obj ((orderedFields xs).insertionSort fun p q => p.1 ≤ q.1)
  | j => j

def orderedItems : List Json → List Json
  | [] => []
  | x :: xs => ordered x :: orderedItems xs

def orderedFields : List (String × Json) → List (String × Json)
  | [] => []
  | (k, x) :: xs => (k, ordered x) :: orderedFields xs

end

/-- The same value, whatever the order of the entries of its objects. -/
def Same (x y : Json) : Prop := x.ordered = y.ordered

instance (x y : Json) : Decidable (Same x y) :=
  inferInstanceAs (Decidable (x.ordered = y.ordered))

theorem floatFreeFields_iff (xs : List (String × Json)) :
    FloatFreeFields xs ↔ ∀ f ∈ xs, FloatFree f.2 := by
  induction xs with
  | nil => simp [FloatFreeFields]
  | cons x xs ih =>
      obtain ⟨k, v⟩ := x
      simp [FloatFreeFields, ih]

mutual

/-- Ordering a value brings no float into it. -/
theorem FloatFree.ordered : ∀ {x : Json}, FloatFree x → FloatFree x.ordered
  | .null, _ => trivial
  | .bool _, _ => trivial
  | .int _, _ => trivial
  | .str _, _ => trivial
  | .arr xs, h => floatFree_orderedItems xs h
  | .obj xs, h => by
      have hFields := floatFree_orderedFields xs h
      simp only [Json.ordered, FloatFree, floatFreeFields_iff] at hFields ⊢
      exact fun f hf => hFields f ((List.mem_insertionSort _).1 hf)

theorem floatFree_orderedItems : ∀ (xs : List Json), FloatFreeItems xs →
    FloatFreeItems (orderedItems xs)
  | [], _ => trivial
  | _ :: xs, h => ⟨FloatFree.ordered h.1, floatFree_orderedItems xs h.2⟩

theorem floatFree_orderedFields : ∀ (xs : List (String × Json)), FloatFreeFields xs →
    FloatFreeFields (orderedFields xs)
  | [], _ => trivial
  | (_, _) :: xs, h => ⟨FloatFree.ordered h.1, floatFree_orderedFields xs h.2⟩

end

/-! ## The text with the entries as they stand -/

/-- The characters of a text as they stand in a JSON string. -/
def escapeText (s : List Char) : List Char := s.flatMap fun c => (escapeChar c).toList

def quote : Char := Char.ofNat 34

/-- A JSON string, its quotes included. -/
def stringText (s : String) : List Char := quote :: (escapeText s.toList ++ [quote])

def closeBrace : Char := Char.ofNat 125

section Print

variable (text : FloatText)

mutual

/-- The canonical text of a value, character by character. This is the recursive form that the
proofs go by. -/
def print : Json → List Char
  | .null => "null".toList
  | .bool b => if b then "true".toList else "false".toList
  | .int i => (toString i).toList
  | .float x => (text.jcsSerializeFloat x).toList
  | .str s => stringText s
  | .arr xs => '[' :: printItems xs
  | .obj xs => Char.ofNat 123 :: printFields xs

/-- The items of a list up to its bracket. -/
def printItems : List Json → List Char
  | [] => [']']
  | x :: xs => print x ++ printMoreItems xs

/-- The items after the first, each behind a comma, and the closing bracket. -/
def printMoreItems : List Json → List Char
  | [] => [']']
  | x :: xs => ',' :: (print x ++ printMoreItems xs)

def printFields : List (String × Json) → List Char
  | [] => [closeBrace]
  | (k, x) :: xs => stringText k ++ ':' :: (print x ++ printMoreFields xs)

/-- The fields after the first, each behind a comma, and the closing brace. -/
def printMoreFields : List (String × Json) → List Char
  | [] => [closeBrace]
  | (k, x) :: xs => ',' :: (stringText k ++ ':' :: (print x ++ printMoreFields xs))

end

/-- The writer of the source writes a string as its recursive form says. -/
theorem toList_jsonString (s : String) : (jsonString s).toList = stringText s := by
  simp [jsonString, stringText, escapeText, quote, String.toList_join, List.flatMap_map]

private theorem intercalate_items (l : List Char) (xs : List Json) :
    [','].intercalate (l :: xs.map (print text)) ++ [']'] = l ++ printMoreItems text xs := by
  induction xs generalizing l with
  | nil => simp [printMoreItems]
  | cons x xs ih =>
      have hRest := ih (print text x)
      simp only [List.map_cons, List.intercalate_cons_cons, List.append_assoc, printMoreItems,
        List.nil_append, List.cons_append]
      rw [← hRest]

/-- The text of an object's entry. -/
def entryText (f : String × Json) : List Char := stringText f.1 ++ ':' :: print text f.2

private theorem intercalate_fields (l : List Char) (xs : List (String × Json)) :
    [','].intercalate (l :: xs.map (entryText text)) ++ [closeBrace] =
      l ++ printMoreFields text xs := by
  induction xs generalizing l with
  | nil => simp [printMoreFields]
  | cons x xs ih =>
      obtain ⟨k, v⟩ := x
      have hRest := ih (entryText text (k, v))
      simp only [List.map_cons, List.intercalate_cons_cons, List.append_assoc, printMoreFields,
        List.nil_append, List.cons_append]
      rw [hRest, entryText, List.append_assoc, List.cons_append]

/-- The texts of items, joined and bracketed, are the recursive form of the array. -/
theorem toList_list (texts : List String) (xs : List Json)
    (h : texts.map String.toList = xs.map (print text)) :
    ("[" ++ ",".intercalate texts ++ "]").toList = print text (.arr xs) := by
  simp only [String.toList_append, String.toList_intercalate, h, print]
  cases xs with
  | nil => simp [printItems]
  | cons x xs =>
      have hMore := intercalate_items text (print text x) xs
      simpa [printItems] using hMore

/-- The texts of fields, joined and in braces, are the recursive form of the object. -/
theorem toList_object (texts : List String) (xs : List (String × Json))
    (h : texts.map String.toList = xs.map (entryText text)) :
    ("\x7b" ++ ",".intercalate texts ++ "\x7d").toList = print text (.obj xs) := by
  simp only [String.toList_append, String.toList_intercalate, h, print]
  cases xs with
  | nil => simp [printFields, closeBrace]
  | cons x xs =>
      obtain ⟨k, v⟩ := x
      have hMore := intercalate_fields text (entryText text (k, v)) xs
      simpa [printFields, closeBrace, entryText] using hMore

/-- Sorting by name commutes with a change of the values. -/
theorem map_sortByName {α β : Type} (le : String → String → Prop) [DecidableRel le] (g : α → β)
    (xs : List (String × α)) :
    ((xs.insertionSort fun p q => le p.1 q.1).map fun p => (p.1, g p.2)) =
      (xs.map fun p => (p.1, g p.2)).insertionSort fun p q => le p.1 q.1 :=
  List.map_insertionSort (r := fun p q : String × α => le p.1 q.1)
    (s := fun p q : String × β => le p.1 q.1) _ _ fun _ _ _ _ => Iff.rfl

mutual

/-- The canonical text is that of the ordered value as it stands. -/
theorem toList_jcsCanonicalize : ∀ x : Json,
    (text.jcsCanonicalize x).toList = print text x.ordered
  | .null => rfl
  | .bool b => by cases b <;> rfl
  | .int _ => rfl
  | .float _ => rfl
  | .str s => toList_jsonString s
  | .arr xs => toList_list text _ _ (toList_jcsItems xs)
  | .obj xs => by
      refine toList_object text _ _ ?_
      rw [List.map_map]
      -- sorting the texts by key and sorting the values by key are the same
      have hSort : ((text.jcsPairs xs).insertionSort fun p q => p.1 ≤ q.1).map
            (fun p => (p.1, p.2.toList)) =
          ((orderedFields xs).insertionSort fun p q => p.1 ≤ q.1).map
            (fun p => (p.1, print text p.2)) := by
        rw [map_sortByName (· ≤ ·) String.toList, map_sortByName (· ≤ ·) (print text),
          toList_jcsPairs xs]
      have hTexts := congrArg (List.map fun p : String × List Char =>
        stringText p.1 ++ ':' :: p.2) hSort
      have hEntry : entryText text = fun p => stringText p.1 ++ ':' :: print text p.2 := rfl
      simpa [List.map_map, Function.comp_def, toList_jsonString, hEntry] using hTexts

theorem toList_jcsItems : ∀ xs : List Json,
    (text.jcsItems xs).map String.toList = (orderedItems xs).map (print text)
  | [] => rfl
  | x :: xs => by
      simp [FloatText.jcsItems, orderedItems, toList_jcsCanonicalize x, toList_jcsItems xs]

theorem toList_jcsPairs : ∀ xs : List (String × Json),
    (text.jcsPairs xs).map (fun p => (p.1, p.2.toList)) =
      (orderedFields xs).map fun p => (p.1, print text p.2)
  | [] => rfl
  | (k, x) :: xs => by
      simp [FloatText.jcsPairs, orderedFields, toList_jcsCanonicalize x, toList_jcsPairs xs]

end

end Print

/-! ## Strings and numbers end where they end -/

/-- The value of a hexadecimal digit as `hexDigit` writes it. -/
def hexValue (c : Char) : Nat := if c.toNat < 58 then c.toNat - 48 else c.toNat - 87

/-- The first character that an escaped text stands for, and the rest.  Reading back what
`jsonString` has written, for its escapes only. -/
def unescape : List Char → Option (Char × List Char)
  | [] => none
  | c :: rest =>
      if c = '\\' then
        match rest with
        | 'b' :: rest => some (Char.ofNat 8, rest)
        | 't' :: rest => some (Char.ofNat 9, rest)
        | 'n' :: rest => some (Char.ofNat 10, rest)
        | 'f' :: rest => some (Char.ofNat 12, rest)
        | 'r' :: rest => some (Char.ofNat 13, rest)
        | 'u' :: _ :: _ :: d :: e :: rest => some (Char.ofNat (16 * hexValue d + hexValue e), rest)
        | c :: rest => some (c, rest)
        | [] => none
      else some (c, rest)

theorem escapeChar_plain {c : Char} (hSmall : 32 ≤ c.toNat) (hQuote : c.toNat ≠ 34)
    (hBackslash : c.toNat ≠ 92) : escapeChar c = String.singleton c := by
  unfold escapeChar
  split <;> first | omega | skip
  rw [if_neg (by omega)]

theorem unescape_escapeChar (c : Char) (rest : List Char) :
    unescape ((escapeChar c).toList ++ rest) = some (c, rest) := by
  have hOf : Char.ofNat c.toNat = c := Char.ofNat_toNat c
  by_cases hSmall : c.toNat < 32
  · generalize c.toNat = n at hOf hSmall
    subst hOf
    interval_cases n <;> rfl
  · by_cases hSpecial : c.toNat = 34 ∨ c.toNat = 92
    · generalize c.toNat = n at hOf hSpecial
      subst hOf
      rcases hSpecial with rfl | rfl <;> rfl
    · have hEscape := escapeChar_plain (c := c) (by omega) (by omega) (by omega)
      have hNe : c ≠ '\\' := by
        rintro rfl
        exact hSpecial (.inr rfl)
      simp [hEscape, unescape, hNe]

theorem escapeChar_eq_cons (c : Char) :
    ∃ d rest, (escapeChar c).toList = d :: rest ∧ d ≠ quote := by
  have hOf : Char.ofNat c.toNat = c := Char.ofNat_toNat c
  by_cases hSmall : c.toNat < 32 ∨ c.toNat = 34 ∨ c.toNat = 92
  · refine ⟨'\\', ?_⟩
    generalize c.toNat = n at hOf hSmall
    subst hOf
    rcases hSmall with hSmall | rfl | rfl
    · interval_cases n <;> exact ⟨_, rfl, by decide⟩
    · exact ⟨_, rfl, by decide⟩
    · exact ⟨_, rfl, by decide⟩
  · refine ⟨c, [], ?_, ?_⟩
    · rw [escapeChar_plain (by omega) (by omega) (by omega), String.toList_singleton]
    · rintro rfl
      exact hSmall (.inr (.inl rfl))

theorem escapeText_append_inj {cs ds s t : List Char}
    (h : escapeText cs ++ quote :: s = escapeText ds ++ quote :: t) : cs = ds ∧ s = t := by
  induction cs generalizing ds with
  | nil =>
      cases ds with
      | nil => exact ⟨rfl, (List.cons.inj h).2⟩
      | cons d ds =>
          obtain ⟨e, rest, hEscape, hNe⟩ := escapeChar_eq_cons d
          simp only [escapeText, List.flatMap_nil, List.flatMap_cons, hEscape, List.nil_append,
            List.cons_append] at h
          exact absurd (List.cons.inj h).1.symm hNe
  | cons c cs ih =>
      cases ds with
      | nil =>
          obtain ⟨e, rest, hEscape, hNe⟩ := escapeChar_eq_cons c
          simp only [escapeText, List.flatMap_nil, List.flatMap_cons, hEscape, List.nil_append,
            List.cons_append] at h
          exact absurd (List.cons.inj h).1 hNe
      | cons d ds =>
          simp only [escapeText, List.flatMap_cons, List.append_assoc] at h
          have hRead := congrArg unescape h
          rw [unescape_escapeChar, unescape_escapeChar] at hRead
          obtain ⟨rfl, hRest⟩ := Prod.mk.inj (Option.some.inj hRead)
          obtain ⟨rfl, rfl⟩ := ih hRest
          exact ⟨rfl, rfl⟩

/-- A string in quotes is read in one way. -/
theorem stringText_append_inj {a b : String} {s t : List Char}
    (h : stringText a ++ s = stringText b ++ t) : a = b ∧ s = t := by
  simp only [stringText, List.cons_append, List.append_assoc, List.nil_append, List.cons.injEq,
    true_and] at h
  obtain ⟨hChars, rfl⟩ := escapeText_append_inj h
  exact ⟨String.toList_inj.1 hChars, rfl⟩

/-- What may follow a number. -/
def NoDigit (s : List Char) : Prop := ∀ c ∈ s.head?, c.isDigit = false

theorem digits_append_inj {m n : Nat} {s t : List Char} (hs : NoDigit s) (ht : NoDigit t)
    (h : Nat.toDigits 10 m ++ s = Nat.toDigits 10 n ++ t) : m = n ∧ s = t := by
  have hDigits : ∀ k : Nat, ∀ u, NoDigit u →
      (Nat.toDigits 10 k ++ u).takeWhile Char.isDigit = Nat.toDigits 10 k := by
    intro k u hu
    rw [List.takeWhile_append_of_pos fun c hc =>
      Nat.isDigit_of_mem_toDigits (by decide) (by decide) hc]
    cases u with
    | nil => simp
    | cons c u => simp [hu c rfl]
  have hEq := congrArg (List.takeWhile Char.isDigit) h
  rw [hDigits m s hs, hDigits n t ht] at hEq
  have hSame := congrArg (fun l => Nat.ofDigitChars 10 l 0) hEq
  simp only [Nat.ofDigitChars_ten_toDigits] at hSame
  subst hSame
  exact ⟨rfl, List.append_cancel_left h⟩

/-- A number is read in one way up to a character that is no digit, its sign included. -/
theorem int_append_inj {i j : Int} {s t : List Char} (hs : NoDigit s) (ht : NoDigit t)
    (h : (toString i).toList ++ s = (toString j).toList ++ t) : i = j ∧ s = t := by
  have hNat : ∀ n : Nat, (toString (Int.ofNat n)).toList = Nat.toDigits 10 n := by
    intro n
    rw [Int.toString_eq_repr]
    simp [Int.repr, Nat.repr_eq_ofList_toDigits]
  have hNeg : ∀ n : Nat, (toString (Int.negSucc n)).toList = '-' :: Nat.toDigits 10 (n + 1) := by
    intro n
    rw [Int.toString_eq_repr]
    simp [Int.repr, Nat.repr_eq_ofList_toDigits]
  have hFirst : ∀ n : Nat, ∀ u v, Nat.toDigits 10 n ++ u ≠ '-' :: v := by
    intro n u v hEq
    cases hDigits : Nat.toDigits 10 n with
    | nil => exact absurd hDigits Nat.toDigits_ne_nil
    | cons c cs =>
        rw [hDigits] at hEq
        have hDigit : c.isDigit = true :=
          Nat.isDigit_of_mem_toDigits (b := 10) (n := n) (by decide) (by decide) (by simp [hDigits])
        rw [(List.cons.inj hEq).1] at hDigit
        exact absurd hDigit (by decide)
  cases i with
  | ofNat m =>
      cases j with
      | ofNat n =>
          rw [hNat, hNat] at h
          obtain ⟨rfl, rfl⟩ := digits_append_inj hs ht h
          exact ⟨rfl, rfl⟩
      | negSucc n =>
          rw [hNat, hNeg] at h
          exact absurd h (hFirst m s _)
  | negSucc m =>
      cases j with
      | ofNat n =>
          rw [hNat, hNeg] at h
          exact absurd h.symm (hFirst n t _)
      | negSucc n =>
          rw [hNeg, hNeg] at h
          obtain ⟨hSame, rfl⟩ := digits_append_inj hs ht (List.cons.inj h).2
          exact ⟨by rw [Nat.succ.inj hSame], rfl⟩

/-! ## A text is read in one way -/

/-- The kind of a value, by which texts differ in their first character.  Numbers with and
without a fraction are told apart later. -/
def kind : Json → Nat
  | .null => 0
  | .bool true => 1
  | .bool false => 2
  | .int _ => 3
  | .float _ => 4
  | .str _ => 5
  | .arr _ => 6
  | .obj _ => 7

/-- The kind of the value that begins with the character, in the numbering of `kind`; integers
and floats begin alike. -/
def charKind (c : Char) : Nat :=
  if c = 'n' then 0
  else if c = 't' then 1
  else if c = 'f' then 2
  else if c = '-' ∨ c.isDigit = true then 3
  else if c = quote then 5
  else if c = '[' then 6
  else if c = Char.ofNat 123 then 7
  else 8

private theorem charKind_digit {c : Char} (h : c.isDigit = true) : charKind c = 3 := by
  unfold charKind
  rw [if_neg, if_neg, if_neg, if_pos (.inr h)]
  · rintro rfl; exact absurd h (by decide)
  · rintro rfl; exact absurd h (by decide)
  · rintro rfl; exact absurd h (by decide)

theorem print_eq_cons (text : FloatText) {x : Json} (h : FloatFree x) :
    ∃ c rest, print text x = c :: rest ∧ charKind c = x.kind := by
  cases x with
  | null => exact ⟨_, _, rfl, by decide⟩
  | bool b => cases b <;> exact ⟨_, _, rfl, by decide⟩
  | int i =>
      cases i with
      | ofNat n =>
          have hText : print text (.int (Int.ofNat n)) = Nat.toDigits 10 n := by
            simp [print, Int.toString_eq_repr, Int.repr, Nat.repr_eq_ofList_toDigits]
          cases hDigits : Nat.toDigits 10 n with
          | nil => exact absurd hDigits Nat.toDigits_ne_nil
          | cons c cs =>
              refine ⟨c, cs, by rw [hText, hDigits], charKind_digit ?_⟩
              exact Nat.isDigit_of_mem_toDigits (b := 10) (n := n) (by decide) (by decide)
                (by simp [hDigits])
      | negSucc n =>
          refine ⟨'-', Nat.toDigits 10 (n + 1), ?_, (by decide : charKind '-' = 3)⟩
          simp [print, Int.toString_eq_repr, Int.repr, Nat.repr_eq_ofList_toDigits]
  | float x => exact h.elim
  | str s => exact ⟨_, _, rfl, (by decide : charKind quote = 5)⟩
  | arr xs => exact ⟨_, _, rfl, (by decide : charKind '[' = 6)⟩
  | obj xs => exact ⟨_, _, rfl, (by decide : charKind (Char.ofNat 123) = 7)⟩

/-- Texts that begin alike are those of values of one kind. -/
theorem kind_eq_of_print (text : FloatText) {x y : Json} (hx : FloatFree x) (hy : FloatFree y)
    {s t : List Char} (h : print text x ++ s = print text y ++ t) : x.kind = y.kind := by
  obtain ⟨c, rest, hPrint, hKind⟩ := print_eq_cons text hx
  obtain ⟨c', rest', hPrint', hKind'⟩ := print_eq_cons text hy
  rw [hPrint, hPrint'] at h
  rw [← hKind, ← hKind', (List.cons.inj h).1]

theorem print_append_ne (text : FloatText) {x : Json} (hx : FloatFree x) {s t : List Char}
    {c : Char} (hc : charKind c = 8) : print text x ++ s ≠ c :: t := by
  intro h
  obtain ⟨c', rest, hPrint, hKind⟩ := print_eq_cons text hx
  rw [hPrint, List.cons_append] at h
  rw [(List.cons.inj h).1, hc] at hKind
  cases x with
  | bool b => cases b <;> cases hKind
  | _ => cases hKind

theorem noDigit_cons {c : Char} {s : List Char} (h : c.isDigit = false) : NoDigit (c :: s) := by
  rintro d hd
  obtain rfl := Option.some.inj hd
  exact h

theorem noDigit_moreItems (text : FloatText) (xs : List Json) (s : List Char) :
    NoDigit (printMoreItems text xs ++ s) := by
  cases xs with
  | nil => exact noDigit_cons (by decide)
  | cons x xs => exact noDigit_cons (by decide)

theorem noDigit_moreFields (text : FloatText) (xs : List (String × Json)) (s : List Char) :
    NoDigit (printMoreFields text xs ++ s) := by
  cases xs with
  | nil => exact noDigit_cons (by decide)
  | cons x xs => exact noDigit_cons (by decide)

mutual

/-- The text of a value is read in one way up to a character that is no digit. -/
theorem print_append_inj (text : FloatText) : ∀ {x y : Json}, FloatFree x → FloatFree y →
    ∀ {s t : List Char}, NoDigit s → NoDigit t → print text x ++ s = print text y ++ t →
      x = y ∧ s = t
  | x, y, hx, hy, s, t, hs, ht, h => by
      have hKind := kind_eq_of_print text hx hy h
      cases x with
      | null =>
          cases y with
          | null => exact ⟨rfl, List.append_cancel_left h⟩
          | bool b => cases b <;> cases hKind
          | _ => cases hKind
      | bool b =>
          cases y with
          | bool b' =>
              obtain rfl : b = b' := by cases b <;> cases b' <;> first | rfl | cases hKind
              exact ⟨rfl, List.append_cancel_left h⟩
          | _ => cases b <;> cases hKind
      | int i =>
          cases y with
          | int j =>
              obtain ⟨rfl, rfl⟩ := int_append_inj hs ht h
              exact ⟨rfl, rfl⟩
          | bool b => cases b <;> cases hKind
          | _ => cases hKind
      | float x => exact hx.elim
      | str a =>
          cases y with
          | str b =>
              obtain ⟨rfl, rfl⟩ := stringText_append_inj h
              exact ⟨rfl, rfl⟩
          | bool b => cases b <;> cases hKind
          | _ => cases hKind
      | arr xs =>
          cases y with
          | arr ys =>
              obtain ⟨rfl, rfl⟩ := printItems_append_inj text hx hy (List.cons.inj h).2
              exact ⟨rfl, rfl⟩
          | bool b => cases b <;> cases hKind
          | _ => cases hKind
      | obj xs =>
          cases y with
          | obj ys =>
              obtain ⟨rfl, rfl⟩ := printFields_append_inj text hx hy (List.cons.inj h).2
              exact ⟨rfl, rfl⟩
          | bool b => cases b <;> cases hKind
          | _ => cases hKind

theorem printItems_append_inj (text : FloatText) : ∀ {xs ys : List Json}, FloatFreeItems xs →
    FloatFreeItems ys → ∀ {s t : List Char}, printItems text xs ++ s = printItems text ys ++ t →
      xs = ys ∧ s = t
  | [], [], _, _, _, _, h => ⟨rfl, List.append_cancel_left h⟩
  | [], y :: ys, _, hy, s, t, h => by
      simp only [printItems, List.append_assoc] at h
      exact absurd h.symm (print_append_ne text hy.1 (by decide))
  | x :: xs, [], hx, _, s, t, h => by
      simp only [printItems, List.append_assoc] at h
      exact absurd h (print_append_ne text hx.1 (by decide))
  | x :: xs, y :: ys, hx, hy, s, t, h => by
      simp only [printItems, List.append_assoc] at h
      obtain ⟨rfl, hMore⟩ := print_append_inj text hx.1 hy.1 (noDigit_moreItems text xs s)
        (noDigit_moreItems text ys t) h
      obtain ⟨rfl, rfl⟩ := printMoreItems_append_inj text hx.2 hy.2 hMore
      exact ⟨rfl, rfl⟩

theorem printMoreItems_append_inj (text : FloatText) : ∀ {xs ys : List Json},
    FloatFreeItems xs → FloatFreeItems ys → ∀ {s t : List Char},
      printMoreItems text xs ++ s = printMoreItems text ys ++ t → xs = ys ∧ s = t
  | [], [], _, _, _, _, h => ⟨rfl, List.append_cancel_left h⟩
  | [], y :: ys, _, _, s, t, h => by
      simp [printMoreItems] at h
  | x :: xs, [], _, _, s, t, h => by
      simp [printMoreItems] at h
  | x :: xs, y :: ys, hx, hy, s, t, h => by
      simp only [printMoreItems, List.cons_append, List.append_assoc, List.cons.injEq,
        true_and] at h
      obtain ⟨rfl, hMore⟩ := print_append_inj text hx.1 hy.1 (noDigit_moreItems text xs s)
        (noDigit_moreItems text ys t) h
      obtain ⟨rfl, rfl⟩ := printMoreItems_append_inj text hx.2 hy.2 hMore
      exact ⟨rfl, rfl⟩

theorem printFields_append_inj (text : FloatText) : ∀ {xs ys : List (String × Json)},
    FloatFreeFields xs → FloatFreeFields ys → ∀ {s t : List Char},
      printFields text xs ++ s = printFields text ys ++ t → xs = ys ∧ s = t
  | [], [], _, _, _, _, h => ⟨rfl, List.append_cancel_left h⟩
  | [], (k, y) :: ys, _, _, s, t, h => by
      simp [printFields, stringText, quote, closeBrace] at h
  | (k, x) :: xs, [], _, _, s, t, h => by
      simp [printFields, stringText, quote, closeBrace] at h
  | (k, x) :: xs, (l, y) :: ys, hx, hy, s, t, h => by
      simp only [printFields, List.cons_append, List.append_assoc] at h
      obtain ⟨rfl, hValue⟩ := stringText_append_inj h
      obtain ⟨rfl, hMore⟩ := print_append_inj text hx.1 hy.1 (noDigit_moreFields text xs s)
        (noDigit_moreFields text ys t) (List.cons.inj hValue).2
      obtain ⟨rfl, rfl⟩ := printMoreFields_append_inj text hx.2 hy.2 hMore
      exact ⟨rfl, rfl⟩

theorem printMoreFields_append_inj (text : FloatText) : ∀ {xs ys : List (String × Json)},
    FloatFreeFields xs → FloatFreeFields ys → ∀ {s t : List Char},
      printMoreFields text xs ++ s = printMoreFields text ys ++ t → xs = ys ∧ s = t
  | [], [], _, _, _, _, h => ⟨rfl, List.append_cancel_left h⟩
  | [], (k, y) :: ys, _, _, s, t, h => by
      simp [printMoreFields, closeBrace] at h
  | (k, x) :: xs, [], _, _, s, t, h => by
      simp [printMoreFields, closeBrace] at h
  | (k, x) :: xs, (l, y) :: ys, hx, hy, s, t, h => by
      simp only [printMoreFields, List.cons_append, List.append_assoc, List.cons.injEq,
        true_and] at h
      obtain ⟨rfl, hValue⟩ := stringText_append_inj h
      obtain ⟨rfl, hMore⟩ := print_append_inj text hx.1 hy.1 (noDigit_moreFields text xs s)
        (noDigit_moreFields text ys t) (List.cons.inj hValue).2
      obtain ⟨rfl, rfl⟩ := printMoreFields_append_inj text hx.2 hy.2 hMore
      exact ⟨rfl, rfl⟩

end

/-- **The canonical text determines the value** up to the order of the entries of its
objects. -/
theorem jcsCanonicalize_eq_iff (text : FloatText) {x y : Json} (hx : FloatFree x)
    (hy : FloatFree y) : text.jcsCanonicalize x = text.jcsCanonicalize y ↔ Same x y := by
  rw [← String.toList_inj, toList_jcsCanonicalize, toList_jcsCanonicalize]
  constructor
  · intro h
    have hEnd : NoDigit [] := fun c hc => by cases hc
    have hAppend : print text x.ordered ++ [] = print text y.ordered ++ [] := by rw [h]
    exact (print_append_inj text hx.ordered hy.ordered hEnd hEnd hAppend).1
  · exact fun h => congrArg (print text) h

end Json

end AgentShield.Sdk
