import AgentShield.Sdk.JsonValues
import AgentShield.Server.Cursor

/-!
# Printed values are read back

A writer of compact JSON prints a character of a string and a float in its own way, and
everything else as every writer does.  What stands for a character is a condition on the
writer, and what is read of a float one on the value.  Under both, the text of every value is
read back (`print_readsWithin`).
-/

namespace AgentShield.Server

open AgentShield.Lib AgentShield.Sdk

/-! ## Characters of a string -/

/-- What is printed for a character stands for it in a string that is read. -/
def PrintsChar (char : Char → List Char) (c : Char) : Prop :=
  (∀ fuel cs, Json.stringChars (fuel + 1) (char c ++ cs) =
      (Json.stringChars fuel cs).map fun r => (c :: r.1, r.2)) ∧
    ∀ d ∈ char c, 32 ≤ d.toNat

theorem printable_of_all {cs : List Char} (h : (cs.all fun c => 32 ≤ c.toNat) = true) :
    ∀ c ∈ cs, 32 ≤ c.toNat := fun c hc => of_decide_eq_true (List.all_eq_true.1 h c hc)

theorem control_escapes : ∀ n < 127,
    ((escapeChar (Char.ofNat n)).toList.all fun d => 32 ≤ d.toNat) = true := by decide

theorem hexDigit_printable : ∀ n < 16, 32 ≤ (hexDigit n).toNat := by decide

theorem unicodeEscape_printable {u : Nat} (h : u < 65536) :
    ∀ d ∈ (unicodeEscape u).toList, 32 ≤ d.toNat := by
  intro d hd
  rw [toList_unicodeEscape] at hd
  simp only [unitDigits, List.mem_cons, List.not_mem_nil, or_false] at hd
  rcases hd with rfl | rfl | rfl | rfl | rfl | rfl
  · decide
  · decide
  · exact hexDigit_printable _ (by omega)
  · exact hexDigit_printable _ (by omega)
  · exact hexDigit_printable _ (by omega)
  · exact hexDigit_printable _ (by omega)

theorem ascii_printable {c : Char} (h : c.toNat ≤ 126) :
    ∀ d ∈ (escapeChar c).toList, 32 ≤ d.toNat := by
  have hControl := printable_of_all (control_escapes c.toNat (by omega))
  rwa [Char.ofNat_toNat] at hControl

/-- `ensure_ascii=True`. -/
theorem asciiChar_prints (c : Char) : PrintsChar asciiChar c := by
  refine ⟨fun fuel cs => stringChars_asciiChar fuel c cs, fun d hd => ?_⟩
  by_cases hAscii : c.toNat ≤ 126
  · rw [asciiChar, if_pos hAscii] at hd
    exact ascii_printable hAscii d hd
  · have hRange := Utf16.toNat_range c
    rw [asciiChar, if_neg hAscii, String.toList_join, List.flatMap_map, List.mem_flatMap] at hd
    obtain ⟨u, hu, hd⟩ := hd
    refine unicodeEscape_printable ?_ d hd
    unfold Utf16.encodeChar at hu
    split at hu
    · rw [List.mem_singleton.1 hu]
      omega
    · simp only [List.mem_cons, List.not_mem_nil, or_false] at hu
      omega

/-- `ensure_ascii=False`. -/
theorem escapeChar_prints (c : Char) : PrintsChar (fun c => (escapeChar c).toList) c := by
  by_cases hAscii : c.toNat ≤ 126
  · have hSame : asciiChar c = (escapeChar c).toList := by rw [asciiChar, if_pos hAscii]
    refine ⟨fun fuel cs => ?_, ascii_printable hAscii⟩
    show Json.stringChars (fuel + 1) ((escapeChar c).toList ++ cs) = _
    rw [← hSame, (asciiChar_prints c).1]
  · have hPlain : (escapeChar c).toList = [c] := by
      rw [Json.escapeChar_plain (by omega) (by omega) (by omega), String.toList_singleton]
    have hQuote : ¬ c = Json.quote := by
      rintro rfl
      exact hAscii (by decide)
    have hBackslash : ¬ c = '\\' := by
      rintro rfl
      exact hAscii (by decide)
    constructor
    · intro fuel cs
      show Json.stringChars (fuel + 1) ((escapeChar c).toList ++ cs) = _
      rw [hPlain, List.cons_append, List.nil_append, Json.stringChars, if_neg hQuote,
        if_neg hBackslash, if_neg (by omega)]
    · intro d hd
      have hd' : d ∈ (escapeChar c).toList := hd
      rw [hPlain, List.mem_singleton] at hd'
      rw [hd']
      omega

/-! ## Writers -/

/-- How a writer prints a character of a string, and a float. -/
structure Writer where
  char : Char → List Char
  float : PyFloat → List Char
  prints : ∀ c, PrintsChar char c

namespace Writer

variable (w : Writer)

/-- A string in quotes, each character as the writer escapes it. -/
def string (s : String) : List Char :=
  Json.quote :: (s.toList.flatMap w.char ++ [Json.quote])

mutual

/-- The compact text of a value, with the members of its objects as they stand. -/
def print : Json → List Char
  | .null => "null".toList
  | .bool b => if b then "true".toList else "false".toList
  | .int i => (toString i).toList
  | .float x => w.float x
  | .str s => w.string s
  | .arr xs => '[' :: printItems xs
  | .obj xs => Json.openBrace :: printFields xs

/-- The items of a list up to its bracket. -/
def printItems : List Json → List Char
  | [] => [']']
  | x :: xs => print x ++ printMoreItems xs

/-- The items after the first, each behind a comma, and the closing bracket. -/
def printMoreItems : List Json → List Char
  | [] => [']']
  | x :: xs => ',' :: (print x ++ printMoreItems xs)

def printFields : List (String × Json) → List Char
  | [] => [Json.closeBrace]
  | (k, x) :: xs => w.string k ++ ':' :: (print x ++ printMoreFields xs)

/-- The fields after the first, each behind a comma, and the closing brace. -/
def printMoreFields : List (String × Json) → List Char
  | [] => [Json.closeBrace]
  | (k, x) :: xs => ',' :: (w.string k ++ ':' :: (print x ++ printMoreFields xs))

end

/-- A written string holds no control character. -/
theorem string_printable (s : String) : ∀ c ∈ w.string s, 32 ≤ c.toNat := by
  intro c hc
  rw [string, List.mem_cons, List.mem_append, List.mem_flatMap, List.mem_singleton] at hc
  rcases hc with rfl | ⟨d, -, hc⟩ | rfl
  · decide
  · exact (w.prints d).2 c hc
  · decide

theorem length_char_pos (c : Char) : 0 < (w.char c).length := by
  rw [List.length_pos_iff]
  intro hNil
  have hRead := (w.prints c).1 0 [Json.quote]
  have hEnd : Json.stringChars 1 [Json.quote] = some ([], []) := rfl
  rw [hNil, List.nil_append, hEnd] at hRead
  cases hRead

theorem length_le_flatMap (s : List Char) : s.length ≤ (s.flatMap w.char).length := by
  induction s with
  | nil => exact Nat.le_refl _
  | cons c s ih =>
      have hChar := w.length_char_pos c
      rw [List.flatMap_cons, List.length_append, List.length_cons]
      omega

/-- A string is read back up to its closing quote. -/
theorem stringBody_flatMap (s cs : List Char) :
    Json.stringBody (s.flatMap w.char ++ Json.quote :: cs) = some (s, cs) := by
  have hChars : ∀ fuel, s.length < fuel →
      Json.stringChars fuel (s.flatMap w.char ++ Json.quote :: cs) = some (s, cs) := by
    intro fuel hFuel
    induction s generalizing fuel with
    | nil =>
        cases fuel with
        | zero => exact absurd hFuel (Nat.not_lt_zero _)
        | succ fuel => rw [List.flatMap_nil, List.nil_append, Json.stringChars, if_pos rfl]
    | cons c s ih =>
        cases fuel with
        | zero => exact absurd hFuel (Nat.not_lt_zero _)
        | succ fuel =>
            have hShort : s.length < fuel := by simpa using hFuel
            rw [List.flatMap_cons, List.append_assoc, (w.prints c).1, ih fuel hShort]
            rfl
  apply hChars
  have hLength := w.length_le_flatMap s
  rw [List.length_append, List.length_cons]
  omega

end Writer

/-! ## Numbers -/

section Numbers

variable (readFloat : List Char → PyFloat)

/-- What may follow a value: nothing, a comma or a closing bracket. -/
def EndsValue (cs : List Char) : Prop :=
  ∀ c ∈ cs.head?, c = ',' ∨ c = ']' ∨ c = Json.closeBrace

theorem EndsValue.endsInteger {cs : List Char} (h : EndsValue cs) : EndsInteger cs := by
  intro c hc
  rcases h c hc with rfl | rfl | rfl <;> decide

/-- A text without control characters that begins in ASCII, and neither with a space nor with
a closing bracket. -/
structure Opens (cs : List Char) : Prop where
  start : ∀ rest, Json.skipSpace (cs ++ rest) = cs ++ rest ∧ Json.expect ']' (cs ++ rest) = none
  ascii : ∀ c ∈ cs.head?, c.toNat < 128
  printable : ∀ c ∈ cs, 32 ≤ c.toNat

/-- The text is the value at the front of every text that it begins. -/
structure Reads (cs : List Char) (v : Json) : Prop extends Opens cs where
  value : ∀ fuel rest, EndsValue rest →
    Json.value readFloat (fuel + 1) (cs ++ rest) = some (v, rest)

theorem digit_ascii {c : Char} (h : c.isDigit = true) : 32 ≤ c.toNat ∧ c.toNat < 128 := by
  have hRange : 48 ≤ c.toNat ∧ c.toNat ≤ 57 := by
    simpa [Char.isDigit, UInt32.le_iff_toNat_le] using h
  omega

theorem first_ascii {c : Char} (h : c = '-' ∨ c.isDigit = true) : 32 ≤ c.toNat ∧ c.toNat < 128 := by
  rcases h with rfl | h
  · decide
  · exact digit_ascii h

/-- A text that begins with a sign or a digit is a number, since no other value and no space
begins so. -/
theorem value_number {d : Char} (hFirst : d = '-' ∨ d.isDigit = true) (fuel : Nat)
    (cs : List Char) :
    Json.value readFloat (fuel + 1) (d :: cs) = Json.number readFloat (d :: cs) ∧
      Json.skipSpace (d :: cs) = d :: cs ∧ Json.expect ']' (d :: cs) = none := by
  have hPlain : ∀ c : Char, c ≠ '-' → c.isDigit = false → d ≠ c := by
    rintro c hMinus hDigit rfl
    rcases hFirst with rfl | hFirst
    · exact hMinus rfl
    · rw [hDigit] at hFirst
      cases hFirst
  have hSpace : Json.isSpaceChar d = false := by
    simp only [Json.isSpaceChar, decide_eq_false (hPlain ' ' (by decide) rfl),
      decide_eq_false (hPlain '\t' (by decide) rfl), decide_eq_false (hPlain '\n' (by decide) rfl),
      decide_eq_false (hPlain '\r' (by decide) rfl), Bool.or_self]
  have hConstant : Json.constant (d :: cs) = none := by
    have hLetter : ∀ p ∈ Json.constants, ∃ c w, p.1 = c :: w ∧ c ≠ '-' ∧ c.isDigit = false := by
      intro p hp
      simp only [Json.constants, List.mem_cons, List.not_mem_nil, or_false] at hp
      rcases hp with rfl | rfl | rfl | rfl | rfl <;> exact ⟨_, _, rfl, by decide, rfl⟩
    rw [Json.constant, List.findSome?_eq_none_iff]
    intro p hp
    obtain ⟨c, w, hText, hMinus, hDigit⟩ := hLetter p hp
    rw [hText, word_of_ne (hPlain c hMinus hDigit)]
    rfl
  refine ⟨?_, ?_, ?_⟩
  · rw [Json.value, if_neg (hPlain Json.quote (by decide) rfl),
      if_neg (hPlain Json.openBrace (by decide) rfl), if_neg (hPlain '[' (by decide) rfl),
      hConstant]
  · rw [Json.skipSpace, List.dropWhile_cons, hSpace]
    rfl
  · rw [Json.expect, if_neg (hPlain ']' (by decide) rfl)]

/-- The characters of an integer. -/
theorem toString_chars (i : Int) : ∀ c ∈ (toString i).toList, c = '-' ∨ c.isDigit = true := by
  have hDigits : ∀ n : Nat, ∀ c ∈ Nat.toDigits 10 n, c.isDigit = true := fun n c hc =>
    Nat.isDigit_of_mem_toDigits (by decide) (by decide) hc
  intro c hc
  cases i with
  | ofNat n =>
      have hText : (toString (Int.ofNat n)).toList = Nat.toDigits 10 n := by
        simp [Int.toString_eq_repr, Int.repr, Nat.repr_eq_ofList_toDigits]
      rw [hText] at hc
      exact .inr (hDigits n c hc)
  | negSucc n =>
      have hText : (toString (Int.negSucc n)).toList = '-' :: Nat.toDigits 10 (n + 1) := by
        simp [Int.toString_eq_repr, Int.repr, Nat.repr_eq_ofList_toDigits]
      rw [hText] at hc
      rcases List.mem_cons.1 hc with rfl | hc
      · exact .inl rfl
      · exact .inr (hDigits (n + 1) c hc)

/-- The digits of an integer are read as that integer. -/
theorem reads_int (i : Int) : Reads readFloat (toString i).toList (.int i) := by
  obtain ⟨d, ds, hText, hFirst⟩ := toString_eq_cons i
  refine ⟨⟨fun rest => ?_, fun c hc => ?_, fun c hc => (first_ascii (toString_chars i c hc)).1⟩,
    fun fuel rest hEnd => ?_⟩
  · rw [hText, List.cons_append]
    exact (value_number readFloat hFirst 0 _).2
  · rw [hText] at hc
    obtain rfl : d = c := by simpa using hc
    exact (first_ascii hFirst).2
  · have hNumber := number_toString readFloat i hEnd.endsInteger
    rw [hText, List.cons_append] at hNumber ⊢
    rw [(value_number readFloat hFirst fuel _).1, hNumber]

/-- A text of digits. -/
def Digits (ds : List Char) : Prop := ds ≠ [] ∧ ∀ c ∈ ds, c.isDigit = true

/-- The two ways to say that a text is a run of digits. -/
theorem digits_iff (ds : List Char) : (ds ≠ [] ∧ ds.all Char.isDigit = true) ↔ Digits ds :=
  and_congr_right fun _ => List.all_eq_true

instance decidableDigits (ds : List Char) : Decidable (Digits ds) :=
  decidable_of_iff _ (digits_iff ds)

/-- The text of a float: a sign, an integer without needless zeros, and a fraction or an
exponent or both. -/
structure FloatLiteral (cs : List Char) (negative : Bool) (whole frac exp : List Char) : Prop where
  isText : cs = (if negative then ['-'] else []) ++ whole ++ frac ++ exp
  isWhole : Digits whole ∧ (whole.head? = some '0' → whole = ['0'])
  isFraction : frac = [] ∨ ∃ ds, frac = '.' :: ds ∧ Digits ds
  isExponent : exp = [] ∨ ∃ c s ds, exp = c :: (s ++ ds) ∧ (c = 'e' ∨ c = 'E') ∧
    (s = [] ∨ s = ['+'] ∨ s = ['-']) ∧ Digits ds
  isFloat : ¬ (frac = [] ∧ exp = [])

/-- A text that a JSON reader takes for a float: it has a fraction, an exponent or both. -/
def IsFloatLiteral (cs : List Char) : Prop :=
  ∃ negative whole frac exp, FloatLiteral cs negative whole frac exp

/-- The reader takes the whole part up to the first character that is no digit. -/
theorem integerPart_whole {whole cs : List Char} (hDigits : Digits whole)
    (hZero : whole.head? = some '0' → whole = ['0'])
    (hEnd : ∀ c ∈ cs.head?, c.isDigit = false) :
    Json.integerPart (whole ++ cs) = some (whole, cs) := by
  cases whole with
  | nil => exact absurd rfl hDigits.1
  | cons d ds =>
      have hRead := takeWhile_digits hDigits.2 hEnd
      rw [List.cons_append] at hRead ⊢
      by_cases hd : d = '0'
      · subst hd
        obtain rfl := (List.cons.inj (hZero rfl)).2
        rfl
      · rw [Json.integerPart, if_neg hd, if_pos (hDigits.2 d List.mem_cons_self), hRead]

/-- The reader takes the fraction up to its end. -/
theorem fraction_append {frac cs : List Char}
    (h : frac = [] ∨ ∃ ds, frac = '.' :: ds ∧ Digits ds)
    (hEnd : ∀ c ∈ cs.head?, c.isDigit = false ∧ c ≠ '.') :
    Json.fraction (frac ++ cs) = (frac, cs) := by
  rcases h with rfl | ⟨ds, rfl, hDigits⟩
  · cases cs with
    | nil => rfl
    | cons c cs =>
        have hDot := (hEnd c rfl).2
        rw [List.nil_append]
        unfold Json.fraction
        split
        · rename_i hSame
          exact absurd (List.cons.inj hSame).1 hDot
        · rfl
  · have hRead := takeWhile_digits hDigits.2 fun c hc => (hEnd c hc).1
    rw [List.cons_append, Json.fraction, hRead, if_neg hDigits.1]

/-- A sign in front of digits. -/
theorem sign_append {s ds : List Char} (hSign : s = [] ∨ s = ['+'] ∨ s = ['-'])
    (hDigits : Digits ds) (cs : List Char) : Json.sign (s ++ (ds ++ cs)) = (s, ds ++ cs) := by
  rcases hSign with rfl | rfl | rfl
  · cases ds with
    | nil => exact absurd rfl hDigits.1
    | cons d ds =>
        have hDigit := hDigits.2 d List.mem_cons_self
        rw [List.nil_append, List.cons_append]
        unfold Json.sign
        split
        · rename_i hSame
          rw [(List.cons.inj hSame).1] at hDigit
          cases hDigit
        · rename_i hSame
          rw [(List.cons.inj hSame).1] at hDigit
          cases hDigit
        · rfl
  · rfl
  · rfl

/-- The reader takes the exponent up to its end. -/
theorem exponent_append {exp cs : List Char}
    (h : exp = [] ∨ ∃ c s ds, exp = c :: (s ++ ds) ∧ (c = 'e' ∨ c = 'E') ∧
      (s = [] ∨ s = ['+'] ∨ s = ['-']) ∧ Digits ds)
    (hEnd : EndsInteger cs) : Json.exponent (exp ++ cs) = (exp, cs) := by
  rcases h with rfl | ⟨c, s, ds, rfl, hMark, hSign, hDigits⟩
  · cases cs with
    | nil => rfl
    | cons c cs =>
        have hMark := (hEnd c rfl).2.2
        rw [List.nil_append, Json.exponent, if_neg (not_or.2 hMark)]
  · have hRead := takeWhile_digits hDigits.2 fun c hc => (hEnd c hc).1
    rw [List.cons_append, List.append_assoc, Json.exponent, if_pos hMark,
      sign_append hSign hDigits]
    show (if (Json.digits (ds ++ cs)).1 = [] then _ else _) = _
    rw [hRead, if_neg hDigits.1]

/-- A fraction, an exponent or the end of a value follows the integer. -/
theorem literal_ends {frac exp cs : List Char}
    (hFrac : frac = [] ∨ ∃ ds, frac = '.' :: ds ∧ Digits ds)
    (hExp : exp = [] ∨ ∃ c s ds, exp = c :: (s ++ ds) ∧ (c = 'e' ∨ c = 'E') ∧
      (s = [] ∨ s = ['+'] ∨ s = ['-']) ∧ Digits ds)
    (hEnd : EndsInteger cs) :
    (∀ c ∈ (exp ++ cs).head?, c.isDigit = false ∧ c ≠ '.') ∧
      ∀ c ∈ (frac ++ (exp ++ cs)).head?, c.isDigit = false := by
  have hAfter : ∀ c ∈ (exp ++ cs).head?, c.isDigit = false ∧ c ≠ '.' := by
    intro c hc
    rcases hExp with rfl | ⟨e, s, ds, rfl, hMark, -, -⟩
    · exact ⟨(hEnd c hc).1, (hEnd c hc).2.1⟩
    · obtain rfl : e = c := by simpa using hc
      rcases hMark with rfl | rfl <;> decide
  refine ⟨hAfter, fun c hc => ?_⟩
  rcases hFrac with rfl | ⟨ds, rfl, -⟩
  · exact (hAfter c hc).1
  · obtain rfl : '.' = c := by simpa using hc
    rfl

/-- A float literal is read whole, whatever comes behind it that does not go on with a number.
-/
theorem unsigned_literal {cs whole frac exp : List Char} {negative : Bool}
    (h : FloatLiteral cs negative whole frac exp) {rest : List Char} (hEnd : EndsInteger rest) :
    Json.unsigned readFloat negative (whole ++ (frac ++ (exp ++ rest))) =
      some (.float (readFloat cs), rest) := by
  obtain ⟨hAfterFrac, hAfterWhole⟩ := literal_ends h.isFraction h.isExponent hEnd
  unfold Json.unsigned
  rw [integerPart_whole h.isWhole.1 h.isWhole.2 hAfterWhole]
  simp only [Option.bind_eq_bind, Option.bind_some, fraction_append h.isFraction hAfterFrac,
    exponent_append h.isExponent hEnd, if_neg h.isFloat, h.isText]
  rfl

theorem FloatLiteral.printable {cs whole frac exp : List Char} {negative : Bool}
    (h : FloatLiteral cs negative whole frac exp) : ∀ c ∈ cs, 32 ≤ c.toNat := by
  have hDigits : ∀ {ds : List Char}, Digits ds → ∀ c ∈ ds, 32 ≤ c.toNat := fun hDs c hc =>
    (digit_ascii (hDs.2 c hc)).1
  intro c hc
  rw [h.isText, List.mem_append, List.mem_append, List.mem_append] at hc
  rcases hc with ((hc | hc) | hc) | hc
  · cases negative with
    | true =>
        rw [List.mem_singleton.1 hc]
        decide
    | false => cases hc
  · exact hDigits h.isWhole.1 c hc
  · rcases h.isFraction with rfl | ⟨ds, rfl, hDs⟩
    · cases hc
    · rcases List.mem_cons.1 hc with rfl | hc
      · decide
      · exact hDigits hDs c hc
  · rcases h.isExponent with rfl | ⟨e, s, ds, rfl, hMark, hSign, hDs⟩
    · cases hc
    · rcases List.mem_cons.1 hc with rfl | hc
      · rcases hMark with rfl | rfl <;> decide
      · rcases List.mem_append.1 hc with hc | hc
        · rcases hSign with rfl | rfl | rfl
          · cases hc
          · rw [List.mem_singleton.1 hc]
            decide
          · rw [List.mem_singleton.1 hc]
            decide
        · exact hDigits hDs c hc

/-- A float's text is read as the float that its digits mean, and is taken for no integer, as
it has a fraction or an exponent. -/
theorem reads_literal {cs : List Char} (h : IsFloatLiteral cs) :
    Reads readFloat cs (.float (readFloat cs)) := by
  obtain ⟨negative, whole, frac, exp, hLiteral⟩ := h
  have hText := hLiteral.isText
  have hDigits := hLiteral.isWhole.1
  obtain ⟨d, ds, rfl⟩ := List.exists_cons_of_ne_nil hDigits.1
  have hDigit := hDigits.2 d List.mem_cons_self
  have hUnsigned := fun rest (hEnd : EndsValue rest) =>
    unsigned_literal readFloat hLiteral hEnd.endsInteger
  -- the first character is the sign or the first digit
  have hFirst : ∀ rest, cs ++ rest = '-' :: ((d :: ds) ++ (frac ++ (exp ++ rest))) ∧
        negative = true ∨
      cs ++ rest = (d :: ds) ++ (frac ++ (exp ++ rest)) ∧ negative = false := by
    intro rest
    cases negative with
    | true => exact .inl ⟨by rw [hText]; simp, rfl⟩
    | false => exact .inr ⟨by rw [hText]; simp, rfl⟩
  have hNumber : ∀ rest, EndsValue rest →
      Json.number readFloat (cs ++ rest) = some (.float (readFloat cs), rest) := by
    intro rest hEnd
    have hRead := hUnsigned rest hEnd
    rcases hFirst rest with ⟨hCs, rfl⟩ | ⟨hCs, rfl⟩
    · have hWord : Json.word "Infinity".toList ((d :: ds) ++ (frac ++ (exp ++ rest))) = none := by
        have hLetter : d ≠ 'I' := by
          rintro rfl
          cases hDigit
        have hInfinity : "Infinity".toList = 'I' :: "nfinity".toList := by decide
        rw [hInfinity]
        exact word_of_ne hLetter
      rw [hCs, Json.number, hWord]
      exact hRead
    · have hMinus : d ≠ '-' := by
        rintro rfl
        cases hDigit
      rw [hCs]
      rw [List.cons_append] at hRead ⊢
      rw [Json.number]
      · exact hRead
      · intro tail hSame
        exact hMinus (List.cons.inj hSame).1
  refine ⟨⟨fun rest => ?_, fun c hc => ?_, hLiteral.printable⟩, fun fuel rest hEnd => ?_⟩
  · rcases hFirst rest with ⟨hCs, -⟩ | ⟨hCs, -⟩
    · rw [hCs]
      exact (value_number readFloat (.inl rfl) 0 _).2
    · rw [hCs, List.cons_append]
      exact (value_number readFloat (.inr hDigit) 0 _).2
  · rcases hFirst [] with ⟨hCs, -⟩ | ⟨hCs, -⟩
    · rw [List.append_nil] at hCs
      rw [hCs] at hc
      exact (first_ascii (.inl (Option.some.inj hc).symm)).2
    · rw [List.append_nil, List.cons_append] at hCs
      rw [hCs] at hc
      obtain rfl : d = c := Option.some.inj hc
      exact (digit_ascii hDigit).2
  · have hRead := hNumber rest hEnd
    rcases hFirst rest with ⟨hCs, -⟩ | ⟨hCs, -⟩
    · rw [hCs] at hRead ⊢
      rw [(value_number readFloat (.inl rfl) fuel _).1, hRead]
    · rw [hCs, List.cons_append] at hRead ⊢
      rw [(value_number readFloat (.inr hDigit) fuel _).1, hRead]

theorem ascii_of_head {cs : List Char} {d : Char} (hHead : cs.head? = some d)
    (hAscii : d.toNat < 128) : ∀ c ∈ cs.head?, c.toNat < 128 := by
  intro c hc
  rw [hHead] at hc
  rwa [← Option.some.inj hc]

/-- The words that stand for a value. -/
theorem reads_word {cs : List Char} {v : Json}
    (h : (cs, v) ∈ Json.constants ∨ (cs, v) = ("-Infinity".toList, .float .negInf)) :
    Reads readFloat cs v := by
  simp only [Json.constants, List.mem_cons, Prod.mk.injEq, List.not_mem_nil, or_false] at h
  rcases h with (⟨rfl, rfl⟩ | ⟨rfl, rfl⟩ | ⟨rfl, rfl⟩ | ⟨rfl, rfl⟩ | ⟨rfl, rfl⟩) | ⟨rfl, rfl⟩ <;>
    exact ⟨⟨fun _ => ⟨rfl, rfl⟩, ascii_of_head rfl (by decide), printable_of_all (by decide)⟩,
      fun _ _ _ => rfl⟩

/-! ## Whole texts -/

/-- What reads as a value is not the empty text. -/
theorem Reads.length_pos {cs : List Char} {v : Json} (h : Reads readFloat cs v) :
    0 < cs.length := by
  rw [List.length_pos_iff]
  rintro rfl
  have hRead := h.value 0 [] fun c hc => by cases hc
  have hNone : Json.value readFloat 1 ([] ++ []) = none := rfl
  rw [hNone] at hRead
  cases hRead

/-- A text with enough fuel for its length is the value at the front of every text that it
begins. -/
structure ReadsWithin (cs : List Char) (v : Json) : Prop extends Opens cs where
  value : ∀ fuel rest, cs.length ≤ fuel → EndsValue rest →
    Json.value readFloat fuel (cs ++ rest) = some (v, rest)

theorem Reads.within {cs : List Char} {v : Json} (h : Reads readFloat cs v) :
    ReadsWithin readFloat cs v := by
  refine ⟨h.toOpens, fun fuel rest hFuel hEnd => ?_⟩
  have hPos := h.length_pos
  obtain ⟨fuel, rfl⟩ := Nat.exists_eq_succ_of_ne_zero (show fuel ≠ 0 by omega)
  exact h.value fuel rest hEnd

section Items

variable {readFloat} {fuel : Nat} {text next rest : List Char} {v : Json}

/-- The last item of an array, before the closing bracket. -/
theorem items_last (hValue : Json.value readFloat fuel text = some (v, ']' :: rest)) :
    Json.items readFloat (fuel + 1) text = some ([v], rest) := by
  rw [Json.items]
  simp only [hValue, Option.bind_eq_bind, Option.bind_some]
  rfl

/-- An item of an array, before a comma and further items. -/
theorem items_more {more : List Json}
    (hValue : Json.value readFloat fuel text = some (v, ',' :: next))
    (hNext : Json.skipSpace next = next)
    (hMore : Json.items readFloat fuel next = some (more, rest)) :
    Json.items readFloat (fuel + 1) text = some (v :: more, rest) := by
  have hComma : Json.expect ',' (Json.skipSpace (',' :: next)) = some next := rfl
  rw [Json.items]
  simp only [hValue, Option.bind_eq_bind, Option.bind_some, hComma, hNext, hMore]
  rfl

/-- The text of a member after its name and the colon. -/
theorem member_value (w : Writer) (k : String) (hText : Json.skipSpace text = text) :
    Json.members readFloat (fuel + 1) (w.string k ++ ':' :: text) =
      (Json.value readFloat fuel text).bind fun r =>
        match Json.expect ',' (Json.skipSpace r.2) with
        | some cs => (Json.members readFloat fuel (Json.skipSpace cs)).bind fun m =>
            some ((k, r.1) :: m.1, m.2)
        | none => (Json.expect Json.closeBrace (Json.skipSpace r.2)).bind fun cs =>
            some ([(k, r.1)], cs) := by
  have hQuote : Json.expect Json.quote (w.string k ++ ':' :: text) =
      some (k.toList.flatMap w.char ++ Json.quote :: ':' :: text) := by
    rw [Writer.string, List.cons_append, List.append_assoc, Json.expect, if_pos rfl]
    rfl
  have hColon : Json.expect ':' (Json.skipSpace (':' :: text)) = some text := rfl
  rw [Json.members, hQuote]
  simp only [Option.bind_eq_bind, Option.bind_some, w.stringBody_flatMap, hColon, hText,
    String.ofList_toList]
  rfl

/-- The last field of an object, before the closing brace. -/
theorem members_last (w : Writer) (k : String) (hText : Json.skipSpace text = text)
    (hValue : Json.value readFloat fuel text = some (v, Json.closeBrace :: rest)) :
    Json.members readFloat (fuel + 1) (w.string k ++ ':' :: text) = some ([(k, v)], rest) := by
  have hComma : Json.expect ',' (Json.skipSpace (Json.closeBrace :: rest)) = none := rfl
  have hClose : Json.expect Json.closeBrace (Json.skipSpace (Json.closeBrace :: rest)) =
      some rest := rfl
  rw [member_value w k hText, hValue]
  simp only [Option.bind_some, hComma, hClose]

/-- A field of an object, before a comma and further fields. -/
theorem members_more (w : Writer) (k : String) {more : List (String × Json)}
    (hText : Json.skipSpace text = text)
    (hValue : Json.value readFloat fuel text = some (v, ',' :: next))
    (hNext : Json.skipSpace next = next)
    (hMore : Json.members readFloat fuel next = some (more, rest)) :
    Json.members readFloat (fuel + 1) (w.string k ++ ':' :: text) =
      some ((k, v) :: more, rest) := by
  have hComma : Json.expect ',' (Json.skipSpace (',' :: next)) = some next := rfl
  rw [member_value w k hText, hValue]
  simp only [Option.bind_some, hComma, hNext, hMore]

end Items

section Texts

variable (w : Writer) (g : PyFloat → Json)

theorem endsValue_cons {c : Char} (h : c = ',' ∨ c = ']' ∨ c = Json.closeBrace) (cs : List Char) :
    EndsValue (c :: cs) := by
  intro d hd
  obtain rfl : c = d := by simpa using hd
  exact h

/-- An array is read by its items once it is known not to be empty. -/
theorem value_items {xs : List Json} {fuel : Nat} {text rest : List Char}
    (hSpace : Json.skipSpace text = text) (hOpen : Json.expect ']' text = none)
    (hItems : Json.items readFloat fuel text = some (xs, rest)) :
    Json.value readFloat (fuel + 1) ('[' :: text) = some (.arr xs, rest) := by
  have hQuote : ¬ '[' = Json.quote := by decide
  have hBrace : ¬ '[' = Json.openBrace := by decide
  rw [Json.value, if_neg hQuote, if_neg hBrace, if_pos rfl, hSpace, hOpen, hItems]
  rfl

/-- An object is read by its fields once it is known not to be empty. -/
theorem value_members {xs : List (String × Json)} {fuel : Nat} {text rest : List Char}
    (hSpace : Json.skipSpace text = text) (hOpen : Json.expect Json.closeBrace text = none)
    (hMembers : Json.members readFloat fuel text = some (xs, rest))
    (hNames : (xs.map Prod.fst).Nodup) :
    Json.value readFloat (fuel + 1) (Json.openBrace :: text) = some (.obj xs, rest) := by
  have hQuote : ¬ Json.openBrace = Json.quote := by decide
  rw [Json.value, if_neg hQuote, if_pos rfl, hSpace, hOpen, hMembers]
  show some (Json.ofPairs xs, rest) = _
  rw [Json.ofPairs_of_nodup hNames]

theorem reads_null : Reads readFloat "null".toList .null :=
  reads_word readFloat (.inl (.head _))

theorem reads_bool (b : Bool) :
    Reads readFloat (if b then "true".toList else "false".toList) (.bool b) := by
  cases b with
  | true => exact reads_word readFloat (.inl (.tail _ (.head _)))
  | false => exact reads_word readFloat (.inl (.tail _ (.tail _ (.head _))))

/-- A written string is read back as the string. -/
theorem reads_string (s : String) : Reads readFloat (w.string s) (.str s) := by
  have hAscii : ∀ c ∈ (w.string s).head?, c.toNat < 128 := by
    intro c hc
    rw [← Option.some.inj hc]
    decide
  refine ⟨⟨fun _ => ⟨rfl, rfl⟩, hAscii, w.string_printable s⟩, fun fuel rest _ => ?_⟩
  rw [Writer.string, List.cons_append, List.append_assoc, Json.value, if_pos rfl]
  show Option.map _ (Json.stringBody (s.toList.flatMap w.char ++ Json.quote :: rest)) = _
  rw [w.stringBody_flatMap, Option.map_some, String.ofList_toList]

mutual

/-- What is written of a value holds no control character, where its floats are written
without. -/
theorem print_printable : ∀ j : Json, (∀ x ∈ j.floats, ∀ c ∈ w.float x, 32 ≤ c.toNat) →
    ∀ c ∈ w.print j, 32 ≤ c.toNat
  | .null, _ => show ∀ c ∈ "null".toList, 32 ≤ c.toNat from printable_of_all (by decide)
  | .bool true, _ => show ∀ c ∈ "true".toList, 32 ≤ c.toNat from printable_of_all (by decide)
  | .bool false, _ => show ∀ c ∈ "false".toList, 32 ≤ c.toNat from printable_of_all (by decide)
  | .int i, _ => fun c hc => (first_ascii (toString_chars i c hc)).1
  | .float x, hFloats => hFloats x List.mem_cons_self
  | .str s, _ => w.string_printable s
  | .arr xs, hFloats => by
      rintro c (_ | ⟨_, hc⟩)
      · decide
      · exact (items_printable xs hFloats).1 c hc
  | .obj xs, hFloats => by
      rintro c (_ | ⟨_, hc⟩)
      · decide
      · exact (fields_printable xs hFloats).1 c hc

theorem items_printable : ∀ xs : List Json,
    (∀ x ∈ Json.itemsFloats xs, ∀ c ∈ w.float x, 32 ≤ c.toNat) →
      (∀ c ∈ w.printItems xs, 32 ≤ c.toNat) ∧ ∀ c ∈ w.printMoreItems xs, 32 ≤ c.toNat
  | [], _ =>
      have hEnd : ∀ c ∈ [']'], 32 ≤ c.toNat := printable_of_all (by decide)
      ⟨hEnd, hEnd⟩
  | x :: xs, hFloats => by
      have hItem := print_printable x fun y hy => hFloats y (List.mem_append_left _ hy)
      have hMore := items_printable xs fun y hy => hFloats y (List.mem_append_right _ hy)
      have hBoth : ∀ c ∈ w.print x ++ w.printMoreItems xs, 32 ≤ c.toNat := fun c hc =>
        (List.mem_append.1 hc).elim (hItem c) (hMore.2 c)
      refine ⟨hBoth, ?_⟩
      rintro c (_ | ⟨_, hc⟩)
      · decide
      · exact hBoth c hc

theorem fields_printable : ∀ xs : List (String × Json),
    (∀ x ∈ Json.fieldsFloats xs, ∀ c ∈ w.float x, 32 ≤ c.toNat) →
      (∀ c ∈ w.printFields xs, 32 ≤ c.toNat) ∧ ∀ c ∈ w.printMoreFields xs, 32 ≤ c.toNat
  | [], _ =>
      have hEnd : ∀ c ∈ [Json.closeBrace], 32 ≤ c.toNat := printable_of_all (by decide)
      ⟨hEnd, hEnd⟩
  | (k, x) :: xs, hFloats => by
      have hItem := print_printable x fun y hy => hFloats y (List.mem_append_left _ hy)
      have hMore := fields_printable xs fun y hy => hFloats y (List.mem_append_right _ hy)
      have hBoth : ∀ c ∈ w.string k ++ ':' :: (w.print x ++ w.printMoreFields xs),
          32 ≤ c.toNat := by
        intro c hc
        rcases List.mem_append.1 hc with hc | hc
        · exact w.string_printable k c hc
        · rcases List.mem_cons.1 hc with rfl | hc
          · decide
          · exact (List.mem_append.1 hc).elim (hItem c) (hMore.2 c)
      refine ⟨hBoth, ?_⟩
      rintro c (_ | ⟨_, hc⟩)
      · decide
      · exact hBoth c hc

end

/-- A bracket opens a text. -/
theorem opens_bracket {c : Char} {cs : List Char} (hc : c = '[' ∨ c = Json.openBrace)
    (hPrintable : ∀ d ∈ c :: cs, 32 ≤ d.toNat) : Opens (c :: cs) := by
  refine ⟨fun rest => ?_, fun d hd => ?_, hPrintable⟩
  · rcases hc with rfl | rfl <;> exact ⟨rfl, rfl⟩
  · rw [← Option.some.inj hd]
    rcases hc with rfl | rfl <;> decide

mutual

/-- **Every printed value is read back**, with what the floats are read as, whatever may
follow it: by recursion over the value, the items and the members. -/
theorem print_readsWithin : ∀ j : Json,
    (∀ x ∈ j.floats, Reads readFloat (w.float x) (g x)) → j.DistinctNames →
      ReadsWithin readFloat (w.print j) (j.mapFloats g)
  | .null, _, _ => (reads_null readFloat).within
  | .bool b, _, _ => (reads_bool readFloat b).within
  | .int i, _, _ => (reads_int readFloat i).within
  | .float x, hFloats, _ => (hFloats x List.mem_cons_self).within
  | .str s, _, _ => (reads_string readFloat w s).within
  | .arr xs, hFloats, hNames => by
      have hItems := printItems_reads xs hFloats hNames
      have hPrintable := print_printable w (.arr xs) fun x hx => (hFloats x hx).printable
      refine ⟨opens_bracket (.inl rfl) hPrintable, fun fuel rest hFuel _ => ?_⟩
      have hLength : (w.print (.arr xs)).length = (w.printItems xs).length + 1 := rfl
      obtain ⟨fuel, rfl⟩ := Nat.exists_eq_succ_of_ne_zero (show fuel ≠ 0 by omega)
      cases xs with
      | nil => rfl
      | cons x xs =>
          obtain ⟨hRead, hStart⟩ := hItems (List.cons_ne_nil x xs)
          exact value_items readFloat (hStart rest).1 (hStart rest).2
            (hRead fuel rest (by omega))
  | .obj xs, hFloats, hNames => by
      have hMembers := printFields_reads xs hFloats hNames.2
      have hPrintable := print_printable w (.obj xs) fun x hx => (hFloats x hx).printable
      refine ⟨opens_bracket (.inr rfl) hPrintable, fun fuel rest hFuel _ => ?_⟩
      have hLength : (w.print (.obj xs)).length = (w.printFields xs).length + 1 := rfl
      have hNodup : ((Json.mapFloatsFields g xs).map Prod.fst).Nodup := by
        rw [Json.map_fst_mapFloatsFields]
        exact hNames.1
      obtain ⟨fuel, rfl⟩ := Nat.exists_eq_succ_of_ne_zero (show fuel ≠ 0 by omega)
      cases xs with
      | nil => rfl
      | cons x xs =>
          have hRead := hMembers (List.cons_ne_nil x xs) fuel rest (by omega)
          exact value_members readFloat rfl rfl hRead hNodup

/-- The written items of an array are read back one by one, by induction on the array. -/
theorem printItems_reads : ∀ xs : List Json,
    (∀ x ∈ Json.itemsFloats xs, Reads readFloat (w.float x) (g x)) →
      Json.DistinctNamesItems xs → xs ≠ [] →
      (∀ fuel rest, (w.printItems xs).length ≤ fuel →
        Json.items readFloat fuel (w.printItems xs ++ rest) =
          some (Json.mapFloatsItems g xs, rest)) ∧
      ∀ rest, Json.skipSpace (w.printItems xs ++ rest) = w.printItems xs ++ rest ∧
        Json.expect ']' (w.printItems xs ++ rest) = none
  | [], _, _, hNone => absurd rfl hNone
  | x :: xs, hFloats, hNames, _ => by
      have hItem := print_readsWithin x
        (fun y hy => hFloats y (List.mem_append_left _ hy)) hNames.1
      have hMore := printItems_reads xs
        (fun y hy => hFloats y (List.mem_append_right _ hy)) hNames.2
      have hText : ∀ rest, w.printItems (x :: xs) ++ rest =
          w.print x ++ (w.printMoreItems xs ++ rest) := fun rest => List.append_assoc ..
      refine ⟨fun fuel rest hFuel => ?_, fun rest => hText rest ▸ hItem.start _⟩
      have hLength : (w.printItems (x :: xs)).length =
        (w.print x).length + (w.printMoreItems xs).length := List.length_append
      cases xs with
      | nil =>
          have hEnd : (w.printMoreItems []).length = 1 := rfl
          obtain ⟨fuel, rfl⟩ := Nat.exists_eq_succ_of_ne_zero (show fuel ≠ 0 by omega)
          rw [hText]
          exact items_last (hItem.value fuel _ (by omega) (endsValue_cons (.inr (.inl rfl)) _))
      | cons y ys =>
          have hRest : w.printMoreItems (y :: ys) = ',' :: w.printItems (y :: ys) := rfl
          have hShort : (w.printMoreItems (y :: ys)).length =
            (w.printItems (y :: ys)).length + 1 := rfl
          obtain ⟨hRead, hStart⟩ := hMore (List.cons_ne_nil y ys)
          obtain ⟨fuel, rfl⟩ := Nat.exists_eq_succ_of_ne_zero (show fuel ≠ 0 by omega)
          rw [hText, hRest, List.cons_append]
          exact items_more (hItem.value fuel _ (by omega) (endsValue_cons (.inl rfl) _))
            (hStart rest).1 (hRead fuel rest (by omega))

/-- The written fields of an object are read back one by one, in their order. -/
theorem printFields_reads : ∀ xs : List (String × Json),
    (∀ x ∈ Json.fieldsFloats xs, Reads readFloat (w.float x) (g x)) →
      Json.DistinctNamesFields xs → xs ≠ [] →
      ∀ fuel rest, (w.printFields xs).length ≤ fuel →
        Json.members readFloat fuel (w.printFields xs ++ rest) =
          some (Json.mapFloatsFields g xs, rest)
  | [], _, _, hNone => absurd rfl hNone
  | (k, x) :: xs, hFloats, hNames, _ => by
      have hItem := print_readsWithin x
        (fun y hy => hFloats y (List.mem_append_left _ hy)) hNames.1
      have hMore := printFields_reads xs
        (fun y hy => hFloats y (List.mem_append_right _ hy)) hNames.2
      intro fuel rest hFuel
      have hText : w.printFields ((k, x) :: xs) ++ rest =
          w.string k ++ ':' :: (w.print x ++ (w.printMoreFields xs ++ rest)) := by
        rw [Writer.printFields, List.append_assoc, List.cons_append, List.append_assoc]
      have hLength : (w.printFields ((k, x) :: xs)).length =
          (w.string k).length + ((w.print x).length + (w.printMoreFields xs).length + 1) := by
        rw [Writer.printFields, List.length_append, List.length_cons, List.length_append]
      rw [hText]
      cases xs with
      | nil =>
          have hEnd : (w.printMoreFields []).length = 1 := rfl
          obtain ⟨fuel, rfl⟩ := Nat.exists_eq_succ_of_ne_zero (show fuel ≠ 0 by omega)
          exact members_last w k (hItem.start _).1
            (hItem.value fuel _ (by omega) (endsValue_cons (.inr (.inr rfl)) _))
      | cons y ys =>
          have hRest : w.printMoreFields (y :: ys) = ',' :: w.printFields (y :: ys) := rfl
          have hShort : (w.printMoreFields (y :: ys)).length =
            (w.printFields (y :: ys)).length + 1 := rfl
          have hRead := hMore (List.cons_ne_nil y ys)
          obtain ⟨fuel, rfl⟩ := Nat.exists_eq_succ_of_ne_zero (show fuel ≠ 0 by omega)
          rw [hRest, List.cons_append]
          exact members_more w k (hItem.start _).1
            (hItem.value fuel _ (by omega) (endsValue_cons (.inl rfl) _)) rfl
            (hRead fuel rest (by omega))

end

end Texts

end Numbers

end AgentShield.Server
