import AgentShield.Sdk.JsonLoads
import AgentShield.Server.Merkle

/-!
# Cursors

A page of rows ends with a cursor: the time and the id of its last row, as a JSON text in
base64url.  The text of every row is read back as the row (`decodeCursor_encodeCursor`).
-/

namespace AgentShield.Server

open AgentShield.Lib AgentShield.Sdk

/-! ## Texts in ASCII are read back -/

/-- One character of a text in ASCII. -/
def asciiChar (c : Char) : List Char :=
  (if c.toNat ≤ 126 then escapeChar c
    else String.join ((Utf16.encodeChar c).map unicodeEscape)).toList

theorem toList_asciiString (s : String) :
    (asciiString s).toList = Json.quote :: (s.toList.flatMap asciiChar ++ [Json.quote]) := by
  have hJoin : ∀ cs : List Char, (String.join (cs.map fun c =>
      if c.toNat ≤ 126 then escapeChar c
      else String.join ((Utf16.encodeChar c).map unicodeEscape))).toList =
        cs.flatMap asciiChar := by
    intro cs
    induction cs with
    | nil => rfl
    | cons c cs ih => 
      simp only [List.map_cons, String.join_cons, String.toList_append, ih, List.flatMap_cons]
      rfl
  unfold asciiString
  simp only [String.toList_append, hJoin]
  rfl

private theorem hexDigit_small : ∀ n < 16, Json.isHex (hexDigit n) = true ∧
    Json.hexDigitValue (hexDigit n) = n := by
  decide

/-- The digits of a code unit, and what follows them. -/
theorem hex4?_hexDigit {u : Nat} (h : u < 65536) (cs : List Char) :
    Json.hex4? (hexDigit (u / 4096) :: hexDigit (u / 256 % 16) :: hexDigit (u / 16 % 16) ::
      hexDigit (u % 16) :: cs) = some (u, cs) := by
  obtain ⟨hA, hA'⟩ := hexDigit_small (u / 4096) (by omega)
  obtain ⟨hB, hB'⟩ := hexDigit_small (u / 256 % 16) (by omega)
  obtain ⟨hC, hC'⟩ := hexDigit_small (u / 16 % 16) (by omega)
  obtain ⟨hD, hD'⟩ := hexDigit_small (u % 16) (by omega)
  simp only [Json.hex4?, hA, hB, hC, hD, hA', hB', hC', hD', Bool.and_self, if_true,
    Option.some.injEq, Prod.mk.injEq, and_true]
  omega

theorem charOf?_toNat (c : Char) : charOf? c.toNat = some c := by
  have hValid : c.toNat.isValidChar := c.valid
  rw [charOf?, if_pos hValid, Char.ofNat_toNat]

/-- A surrogate on its own is no character. -/
theorem charOf?_surrogate {u : Nat} (h : 0xD800 ≤ u) (h' : u < 0xE000) : charOf? u = none := by
  have hValid : ¬ u.isValidChar := by
    unfold Nat.isValidChar
    omega
  rw [charOf?, if_neg hValid]

/-- The two surrogates of a character beyond the first plane are read together as that
character. -/
theorem pairOf?_encodeChar {c : Char} (h : 0x10000 ≤ c.toNat) :
    pairOf? (0xD800 + (c.toNat - 0x10000) / 0x400) (0xDC00 + (c.toNat - 0x10000) % 0x400) =
      some c := by
  have hRange := Utf16.toNat_range c
  have hPoint : 0x10000 + (0xD800 + (c.toNat - 0x10000) / 0x400 - 0xD800) * 0x400 +
      (0xDC00 + (c.toNat - 0x10000) % 0x400 - 0xDC00) = c.toNat := by omega
  rw [pairOf?, if_pos (by omega), hPoint, charOf?_toNat]

/-- The digits of a code unit, after its backslash and `u`. -/
def unitDigits (u : Nat) : List Char :=
  [hexDigit (u / 4096), hexDigit (u / 256 % 16), hexDigit (u / 16 % 16), hexDigit (u % 16)]

theorem hex4?_unitDigits {u : Nat} (h : u < 65536) (cs : List Char) :
    Json.hex4? (unitDigits u ++ cs) = some (u, cs) := hex4?_hexDigit h cs

theorem toList_unicodeEscape (u : Nat) :
    (unicodeEscape u).toList = '\\' :: 'u' :: unitDigits u := by
  simp [unicodeEscape, unitDigits]

/-- One escaped unit is read as its character. -/
theorem unicodeEscape?_unit {u : Nat} {c : Char} (h : u < 65536) (hChar : charOf? u = some c)
    (cs : List Char) : Json.unicodeEscape? (unitDigits u ++ cs) = some (c, cs) := by
  simp only [Json.unicodeEscape?, hex4?_unitDigits h, Option.bind_eq_bind, Option.bind_some,
    hChar]
  rfl

/-- Two escaped surrogates are read as one character. -/
theorem unicodeEscape?_pair {u v : Nat} {c : Char} (hu : u < 65536) (hv : v < 65536)
    (hHigh : charOf? u = none) (hPair : pairOf? u v = some c) (cs : List Char) :
    Json.unicodeEscape? (unitDigits u ++ '\\' :: 'u' :: (unitDigits v ++ cs)) =
      some (c, cs) := by
  have hMark : ∀ rest, Json.unicodeMark ('\\' :: 'u' :: rest) = some rest := fun _ => rfl
  simp only [Json.unicodeEscape?, hex4?_unitDigits hu, hex4?_unitDigits hv,
    Option.bind_eq_bind, Option.bind_some, hHigh, hMark, hPair]
  rfl

/-- A character is read back from its code units. -/
theorem unicodeEscape?_encodeChar (c : Char) (cs : List Char) :
    ∃ e, (String.join ((Utf16.encodeChar c).map unicodeEscape)).toList = '\\' :: 'u' :: e ∧
      Json.unicodeEscape? (e ++ cs) = some (c, cs) := by
  have hRange := Utf16.toNat_range c
  unfold Utf16.encodeChar
  by_cases hUnit : c.toNat < 0x10000
  · rw [if_pos hUnit]
    refine ⟨unitDigits c.toNat, ?_, unicodeEscape?_unit hUnit (charOf?_toNat c) cs⟩
    simp [toList_unicodeEscape]
  · rw [if_neg hUnit]
    have hPair := pairOf?_encodeChar (c := c) (by omega)
    have hHigh : 0xD800 + (c.toNat - 0x10000) / 0x400 < 0xE000 := by omega
    have hLow : 0xDC00 + (c.toNat - 0x10000) % 0x400 < 65536 := by omega
    have hNone := charOf?_surrogate (Nat.le_add_right 0xD800 _) hHigh
    generalize 0xD800 + (c.toNat - 0x10000) / 0x400 = high at *
    generalize 0xDC00 + (c.toNat - 0x10000) % 0x400 = low at *
    refine ⟨unitDigits high ++ '\\' :: 'u' :: unitDigits low, ?_, ?_⟩
    · simp [toList_unicodeEscape]
    · rw [List.append_assoc]
      exact unicodeEscape?_pair (by omega) hLow hNone hPair cs

/-- A character is one that stands for itself or an escape, and a character beyond the first
plane stands for two of them. -/
theorem stringChars_asciiChar (fuel : Nat) (c : Char) (cs : List Char) :
    Json.stringChars (fuel + 1) (asciiChar c ++ cs) =
      (Json.stringChars fuel cs).map fun r => (c :: r.1, r.2) := by
  have hEscape : ∀ e, asciiChar c = '\\' :: e → Json.escape? (e ++ cs) = some (c, cs) →
      Json.stringChars (fuel + 1) (asciiChar c ++ cs) =
        (Json.stringChars fuel cs).map fun r => (c :: r.1, r.2) := by
    intro e hText hRead
    have hQuote : ¬ '\\' = Json.quote := by decide
    rw [hText, List.cons_append, Json.stringChars, if_neg hQuote, if_pos rfl, hRead]
    rfl
  have hOf : Char.ofNat c.toNat = c := Char.ofNat_toNat c
  by_cases hAscii : c.toNat ≤ 126
  · have hText : asciiChar c = (escapeChar c).toList := by rw [asciiChar, if_pos hAscii]
    by_cases hSpecial : c.toNat < 32 ∨ c.toNat = 34 ∨ c.toNat = 92
    · have hShort : ∃ e, (escapeChar c).toList = '\\' :: e ∧
          Json.escape? (e ++ cs) = some (c, cs) := by
        generalize c.toNat = n at hOf hSpecial
        subst hOf
        rcases hSpecial with hSmall | rfl | rfl
        · interval_cases n <;> exact ⟨_, rfl, rfl⟩
        · exact ⟨_, rfl, rfl⟩
        · exact ⟨_, rfl, rfl⟩
      obtain ⟨e, hShort, hRead⟩ := hShort
      exact hEscape e (hText.trans hShort) hRead
    · have hQuote : ¬ c = Json.quote := by
        rintro rfl
        exact hSpecial (.inr (.inl rfl))
      have hBackslash : ¬ c = '\\' := by
        rintro rfl
        exact hSpecial (.inr (.inr rfl))
      have hSmall : ¬ c.toNat < 32 := fun h => hSpecial (.inl h)
      rw [hText, Json.escapeChar_plain (by omega) (by omega) (by omega)]
      simp only [String.toList_singleton, List.cons_append, List.nil_append, Json.stringChars,
        if_neg hQuote, if_neg hBackslash, if_neg hSmall]
  · obtain ⟨e, hText, hRead⟩ := unicodeEscape?_encodeChar c cs
    refine hEscape ('u' :: e) (by rw [asciiChar, if_neg hAscii, hText]) ?_
    rw [List.cons_append, Json.escape?, if_pos rfl, hRead]

/-- A text in ASCII is read back up to its closing quote. -/
theorem stringChars_asciiText (s : List Char) {fuel : Nat} (hFuel : s.length < fuel)
    (cs : List Char) :
    Json.stringChars fuel (s.flatMap asciiChar ++ Json.quote :: cs) = some (s, cs) := by
  induction s generalizing fuel with
  | nil =>
      cases fuel with
      | zero => exact absurd hFuel (Nat.not_lt_zero _)
      | succ fuel => rw [List.flatMap_nil, List.nil_append, Json.stringChars, if_pos rfl]
  | cons c s ih =>
      cases fuel with
      | zero => exact absurd hFuel (Nat.not_lt_zero _)
      | succ fuel =>
          have hShort : s.length < fuel := by simpa using hFuel
          rw [List.flatMap_cons, List.append_assoc, stringChars_asciiChar, ih hShort]
          rfl

theorem length_asciiChar_pos (c : Char) : 0 < (asciiChar c).length := by
  rw [List.length_pos_iff]
  intro hNil
  have hRead := stringChars_asciiChar 0 c [Json.quote]
  have hEnd : Json.stringChars 1 [Json.quote] = some ([], []) := rfl
  rw [hNil, List.nil_append, hEnd] at hRead
  cases hRead

/-- A string in ASCII escapes is read back up to its closing quote. -/
theorem stringBody_asciiText (s cs : List Char) :
    Json.stringBody (s.flatMap asciiChar ++ Json.quote :: cs) = some (s, cs) := by
  have hLength : s.length ≤ (s.flatMap asciiChar).length := by
    induction s with
    | nil => exact Nat.le_refl _
    | cons c s ih =>
        have hChar := length_asciiChar_pos c
        rw [List.flatMap_cons, List.length_append, List.length_cons]
        omega
  refine stringChars_asciiText s ?_ cs
  rw [List.length_append, List.length_cons]
  omega

/-- A text in ASCII is read in one way, whatever follows it. -/
theorem asciiString_cancel {s t : String} {cs ds : List Char}
    (h : (asciiString s).toList ++ cs = (asciiString t).toList ++ ds) : s = t ∧ cs = ds := by
  rw [toList_asciiString, toList_asciiString, List.cons_append, List.cons_append] at h
  have hRead : ∀ (u : String) (es : List Char),
      Json.stringBody (u.toList.flatMap asciiChar ++ [Json.quote] ++ es) = some (u.toList, es) := by
    intro u es
    rw [List.append_assoc]
    exact stringBody_asciiText u.toList es
  have hBoth := congrArg Json.stringBody (List.cons.inj h).2
  rw [hRead, hRead] at hBoth
  obtain ⟨hText, hRest⟩ := Prod.mk.inj (Option.some.inj hBoth)
  exact ⟨String.toList_inj.1 hText, hRest⟩

/-! ## Numbers are read back -/

/-- The reader takes all digits up to the first character that is none. -/
theorem takeWhile_digits {ds cs : List Char} (hDigits : ∀ c ∈ ds, c.isDigit = true)
    (hEnd : ∀ c ∈ cs.head?, c.isDigit = false) : Json.digits (ds ++ cs) = (ds, cs) := by
  have hTake : cs.takeWhile Char.isDigit = [] ∧ cs.dropWhile Char.isDigit = cs := by
    cases cs with
    | nil => exact ⟨rfl, rfl⟩
    | cons c cs =>
        have hc := hEnd c rfl
        exact ⟨by rw [List.takeWhile_cons, hc]; rfl, by rw [List.dropWhile_cons, hc]; rfl⟩
  unfold Json.digits
  rw [List.takeWhile_append_of_pos hDigits, List.dropWhile_append_of_pos hDigits, hTake.1,
    hTake.2, List.append_nil]

/-- No number begins with a needless zero. -/
theorem toDigits_eq_cons (n : Nat) :
    ∃ d ds, Nat.toDigits 10 n = d :: ds ∧ (d = '0' → ds = []) := by
  induction n using Nat.strong_induction_on with
  | _ n ih =>
      by_cases hSmall : n < 10
      · exact ⟨_, _, Nat.toDigits_of_lt_base hSmall, fun _ => rfl⟩
      · obtain ⟨d, ds, hDigits, hZero⟩ := ih (n / 10) (by omega)
        refine ⟨d, ds ++ [(n % 10).digitChar], ?_, fun h => ?_⟩
        · rw [Nat.toDigits_of_base_le (by decide) (by omega), hDigits]
          rfl
        · -- the number before the last digit would be zero
          have hValue := Nat.ofDigitChars_ten_toDigits (n := n / 10)
          rw [hDigits, hZero h, h] at hValue
          have hNone : n / 10 = 0 := hValue.symm
          omega

/-- The digits of a number are read whole, since they start with no zero unless it is zero. -/
theorem integerPart_toDigits (n : Nat) {cs : List Char} (hEnd : ∀ c ∈ cs.head?, c.isDigit = false) :
    Json.integerPart (Nat.toDigits 10 n ++ cs) = some (Nat.toDigits 10 n, cs) := by
  have hDigit : ∀ c ∈ Nat.toDigits 10 n, c.isDigit = true := fun c hc =>
    Nat.isDigit_of_mem_toDigits (by decide) (by decide) hc
  have hRead := takeWhile_digits hDigit hEnd
  obtain ⟨d, ds, hDigits, hZero⟩ := toDigits_eq_cons n
  rw [hDigits] at hDigit hRead ⊢
  rw [List.cons_append] at hRead ⊢
  by_cases hd : d = '0'
  · rw [Json.integerPart, if_pos hd, hZero hd, hd]
    rfl
  · rw [Json.integerPart, if_neg hd, if_pos (hDigit d List.mem_cons_self), hRead]

/-- What follows an integer, so that it ends there. -/
def EndsInteger (cs : List Char) : Prop :=
  ∀ c ∈ cs.head?, c.isDigit = false ∧ c ≠ '.' ∧ c ≠ 'e' ∧ c ≠ 'E'

theorem unsigned_toDigits (readFloat : List Char → PyFloat) (negative : Bool) (n : Nat)
    {cs : List Char} (hEnd : EndsInteger cs) :
    Json.unsigned readFloat negative (Nat.toDigits 10 n ++ cs) =
      some (.int (if negative then -(n : Int) else n), cs) := by
  have hFraction : Json.fraction cs = ([], cs) := by
    cases cs with
    | nil => rfl
    | cons c cs =>
        have hDot := (hEnd c rfl).2.1
        unfold Json.fraction
        split
        · rename_i hSame
          exact absurd (List.cons.inj hSame).1 hDot
        · rfl
  have hExponent : Json.exponent cs = ([], cs) := by
    cases cs with
    | nil => rfl
    | cons c cs =>
        obtain ⟨-, -, hLower, hUpper⟩ := hEnd c rfl
        rw [Json.exponent, if_neg (by simp [hLower, hUpper])]
  unfold Json.unsigned
  rw [integerPart_toDigits n fun c hc => (hEnd c hc).1]
  simp only [Option.bind_eq_bind, Option.bind_some, hFraction, hExponent, and_self, if_true,
    Nat.ofDigitChars_ten_toDigits]
  rfl

theorem word_of_ne {c d : Char} (h : d ≠ c) {w cs : List Char} :
    Json.word (c :: w) (d :: cs) = none := by
  have hSame : (c :: w).isPrefixOf (d :: cs) = false := by
    simp [List.isPrefixOf, Ne.symm h]
  simp only [Json.word, hSame, Bool.false_eq_true, if_false]

/-- The text of an integer begins with its sign or a digit. -/
theorem toString_eq_cons (i : Int) :
    ∃ d ds, (toString i).toList = d :: ds ∧ (d = '-' ∨ d.isDigit = true) := by
  cases i with
  | ofNat n =>
      obtain ⟨d, ds, hDigits, -⟩ := toDigits_eq_cons n
      have hText : (toString (Int.ofNat n)).toList = d :: ds := by
        simp [Int.toString_eq_repr, Int.repr, Nat.repr_eq_ofList_toDigits, hDigits]
      exact ⟨d, ds, hText, .inr (Nat.isDigit_of_mem_toDigits (b := 10) (n := n) (by decide)
        (by decide) (hDigits ▸ List.mem_cons_self))⟩
  | negSucc n =>
      have hText : (toString (Int.negSucc n)).toList = '-' :: Nat.toDigits 10 (n + 1) := by
        simp [Int.toString_eq_repr, Int.repr, Nat.repr_eq_ofList_toDigits]
      exact ⟨'-', _, hText, .inl rfl⟩

/-- A written integer is read back, whatever comes behind it that does not go on with a
number. -/
theorem number_toString (readFloat : List Char → PyFloat) (i : Int) {cs : List Char}
    (hEnd : EndsInteger cs) :
    Json.number readFloat ((toString i).toList ++ cs) = some (.int i, cs) := by
  cases i with
  | ofNat n =>
      have hText : (toString (Int.ofNat n)).toList = Nat.toDigits 10 n := by
        simp [Int.toString_eq_repr, Int.repr, Nat.repr_eq_ofList_toDigits]
      have hRead := unsigned_toDigits readFloat false n hEnd
      obtain ⟨d, ds, hDigits, -⟩ := toDigits_eq_cons n
      have hMinus : d ≠ '-' := by
        rintro rfl
        have hDigit := Nat.isDigit_of_mem_toDigits (b := 10) (n := n) (by decide) (by decide)
          (hDigits ▸ List.mem_cons_self)
        cases hDigit
      rw [hText]
      rw [hDigits, List.cons_append] at hRead ⊢
      rw [Json.number]
      · exact hRead
      · intro rest hSame
        exact hMinus (List.cons.inj hSame).1
  | negSucc n =>
      have hText : (toString (Int.negSucc n)).toList = '-' :: Nat.toDigits 10 (n + 1) := by
        simp [Int.toString_eq_repr, Int.repr, Nat.repr_eq_ofList_toDigits]
      have hRead := unsigned_toDigits readFloat true (n + 1) hEnd
      have hWord : Json.word "Infinity".toList (Nat.toDigits 10 (n + 1) ++ cs) = none := by
        obtain ⟨d, ds, hDigits, -⟩ := toDigits_eq_cons (n + 1)
        have hDigit := Nat.isDigit_of_mem_toDigits (b := 10) (n := n + 1) (by decide) (by decide)
          (hDigits ▸ List.mem_cons_self)
        have hLetter : d ≠ 'I' := by
          rintro rfl
          cases hDigit
        have hText : "Infinity".toList = 'I' :: "nfinity".toList := by decide
        rw [hDigits, List.cons_append, hText]
        exact word_of_ne hLetter
      rw [hText, List.cons_append, Json.number, hWord]
      exact hRead

/-! ## Cursors -/

/-- Padding completes a text to a multiple of four characters. -/
def b64urlDecode (value : String) : Option Bytes :=
  if value.toList.all (·.toNat < 128) then
    a2bBase64 0 0 0 (value.toList ++ lackingPad value.length)
  else none

/-- The decoder of the cursors undoes the encoder, which writes no padding. -/
theorem b64urlDecode_encode (data : Bytes) : b64urlDecode (base64urlEncode data) = some data := by
  have hLength : (base64urlEncode data).length = (sextets data).length := by
    rw [← String.length_toList, toList_base64urlEncode, List.length_map]
  rw [b64urlDecode, if_pos (base64urlEncode_ascii data), toList_base64urlEncode, hLength,
    a2bBase64_sextets]

/-- What `json.dumps` writes before the time of a row, before its id and behind it. -/
def createdAtKey : String := "\x7b\"created_at\": "
def idKey : String := ", \"id\": "
def cursorEnd : String := "\x7d"

/-- `json.dumps` of the last row of a page. -/
def cursorText (createdAt : Int) (opId : String) : String :=
  createdAtKey ++ toString createdAt ++ idKey ++ asciiString opId ++ cursorEnd

/-- `encode_cursor`: the position as JSON in base64url. -/
def encodeCursor (createdAt : Int) (opId : String) : String :=
  base64urlEncode (utf8 (cursorText createdAt opId))

/-- An integer, and the truth values among them. -/
def instanceOfInt : Json → Option Int
  | .int i => some i
  | .bool b => some (if b then 1 else 0)
  | _ => none

def instanceOfStr : Json → Option String
  | .str s => some s
  | _ => none

section Cursors

variable (readFloat : List Char → PyFloat)

/-- `decode_cursor`: the position that a text stands for, and nothing where it stands for
none. -/
def decodeCursor (cursor : String) : Option (Int × String) := do
  let data ← b64urlDecode cursor
  match ← Json.loads readFloat data with
  | .obj fields => do
      let createdAt ← (Dict.get? fields "created_at").bind instanceOfInt
      let id ← (Dict.get? fields "id").bind instanceOfStr
      return (createdAt, id)
  | _ => none

theorem toList_cursorText (createdAt : Int) (opId : String) :
    (cursorText createdAt opId).toList =
      Json.openBrace :: Json.quote :: ("created_at".toList ++ Json.quote :: ':' :: ' ' ::
        ((toString createdAt).toList ++ ',' :: ' ' :: Json.quote :: ("id".toList ++ Json.quote ::
          ':' :: ' ' :: Json.quote ::
            (opId.toList.flatMap asciiChar ++ [Json.quote, Json.closeBrace])))) := by
  have hOpen : createdAtKey.toList =
      Json.openBrace :: Json.quote :: ("created_at".toList ++ [Json.quote, ':', ' ']) := by decide
  have hNext : idKey.toList =
      ',' :: ' ' :: Json.quote :: ("id".toList ++ [Json.quote, ':', ' ']) := by decide
  have hClose : cursorEnd.toList = [Json.closeBrace] := by decide
  simp only [cursorText, String.toList_append, hOpen, hNext, hClose, toList_asciiString,
    List.append_assoc, List.cons_append, List.nil_append]

/-- The text of a cursor is found to be in UTF-8. -/
theorem decodeText_cursorText (createdAt : Int) (opId : String) :
    decodeText (utf8 (cursorText createdAt opId)) = some (cursorText createdAt opId).toList := by
  obtain ⟨rest, hOpen⟩ : ∃ rest, utf8 createdAtKey = 0x7B :: 0x22 :: rest := ⟨_, rfl⟩
  have hBytes : utf8 (cursorText createdAt opId) =
      0x7B :: 0x22 :: (rest ++ utf8 (toString createdAt) ++ utf8 idKey ++
        utf8 (asciiString opId) ++ utf8 cursorEnd) := by
    simp only [cursorText, utf8_append, hOpen, List.cons_append]
  have hRead := decodeUtf8_utf8 (cursorText createdAt opId)
  rw [hBytes] at hRead ⊢
  rw [decodeText_object, hRead]

/-- No integer's text begins like another value, or with a space. -/
theorem value_toString (fuel : Nat) (i : Int) {cs : List Char} (hEnd : EndsInteger cs) :
    Json.skipSpace ((toString i).toList ++ cs) = (toString i).toList ++ cs ∧
      Json.value readFloat (fuel + 1) ((toString i).toList ++ cs) = some (.int i, cs) := by
  have hNumber := number_toString readFloat i hEnd
  obtain ⟨d, ds, hText, hFirst⟩ := toString_eq_cons i
  rw [hText, List.cons_append] at hNumber ⊢
  have hPlain : ∀ c : Char, c ≠ '-' → c.isDigit = false → d ≠ c := by
    rintro c hMinus hDigit rfl
    rcases hFirst with rfl | hFirst
    · exact hMinus rfl
    · exact absurd hFirst (by rw [hDigit]; exact Bool.false_ne_true)
  have hSpace : Json.isSpaceChar d = false := by
    simp only [Json.isSpaceChar, decide_eq_false (hPlain ' ' (by decide) rfl),
      decide_eq_false (hPlain '\t' (by decide) rfl), decide_eq_false (hPlain '\n' (by decide) rfl),
      decide_eq_false (hPlain '\r' (by decide) rfl), Bool.or_self]
  have hConstant : Json.constant (d :: (ds ++ cs)) = none := by
    have hLetter : ∀ p ∈ Json.constants, ∃ c w, p.1 = c :: w ∧ c ≠ '-' ∧ c.isDigit = false := by
      intro p hp
      simp only [Json.constants, List.mem_cons, List.not_mem_nil, or_false] at hp
      rcases hp with rfl | rfl | rfl | rfl | rfl <;> exact ⟨_, _, rfl, by decide, rfl⟩
    rw [Json.constant, List.findSome?_eq_none_iff]
    intro p hp
    obtain ⟨c, w, hText, hMinus, hDigit⟩ := hLetter p hp
    rw [hText, word_of_ne (hPlain c hMinus hDigit)]
    rfl
  constructor
  · rw [Json.skipSpace, List.dropWhile_cons, hSpace]
    rfl
  · rw [Json.value, if_neg (hPlain Json.quote (by decide) rfl),
      if_neg (hPlain Json.openBrace (by decide) rfl), if_neg (hPlain '[' (by decide) rfl),
      hConstant]
    exact hNumber

section Members

variable {fuel : Nat} {name text rest cs : List Char} {v : Json}
  (hName : name.flatMap asciiChar = name) (hText : Json.skipSpace text = text)
include hName hText

/-- What is read of a member depends on the text of its value only. -/
theorem members_eq :
    Json.members readFloat (fuel + 1) (Json.quote :: (name ++ Json.quote :: ':' :: ' ' :: text)) =
      (Json.value readFloat fuel text).bind fun r =>
        match Json.expect ',' (Json.skipSpace r.2) with
        | some cs => (Json.members readFloat fuel (Json.skipSpace cs)).bind fun m =>
            some ((String.ofList name, r.1) :: m.1, m.2)
        | none => (Json.expect Json.closeBrace (Json.skipSpace r.2)).bind fun cs =>
            some ([(String.ofList name, r.1)], cs) := by
  have hBody := stringBody_asciiText name (':' :: ' ' :: text)
  have hColon : Json.expect ':' (Json.skipSpace (':' :: ' ' :: text)) = some (' ' :: text) := rfl
  have hSpace : Json.skipSpace (' ' :: text) = Json.skipSpace text := rfl
  rw [hName] at hBody
  rw [Json.members]
  simp only [Json.expect, if_true, Option.bind_eq_bind, Option.bind_some, hBody] at hColon ⊢
  simp only [hColon, Option.bind_some, hSpace, hText]
  rfl

/-- A member before others. -/
theorem members_cons {more : List (String × Json)} (hRest : Json.skipSpace rest = rest)
    (hValue : Json.value readFloat fuel text = some (v, ',' :: ' ' :: rest))
    (hMore : Json.members readFloat fuel rest = some (more, cs)) :
    Json.members readFloat (fuel + 1) (Json.quote :: (name ++ Json.quote :: ':' :: ' ' :: text)) =
      some ((String.ofList name, v) :: more, cs) := by
  have hAfter : Json.expect ',' (Json.skipSpace (',' :: ' ' :: rest)) = some (' ' :: rest) := rfl
  have hSpace : Json.skipSpace (' ' :: rest) = Json.skipSpace rest := rfl
  rw [members_eq readFloat hName hText, hValue]
  simp only [Option.bind_some, hAfter, hSpace, hRest, hMore]

/-- The last member. -/
theorem members_singleton
    (hValue : Json.value readFloat fuel text = some (v, Json.closeBrace :: cs)) :
    Json.members readFloat (fuel + 1) (Json.quote :: (name ++ Json.quote :: ':' :: ' ' :: text)) =
      some ([(String.ofList name, v)], cs) := by
  have hAfter : Json.expect ',' (Json.skipSpace (Json.closeBrace :: cs)) = none := rfl
  have hClose :
      Json.expect Json.closeBrace (Json.skipSpace (Json.closeBrace :: cs)) = some cs := rfl
  rw [members_eq readFloat hName hText, hValue]
  simp only [Option.bind_some, hAfter, hClose]

end Members

/-- The text of a cursor is read back as the object it was written from, for any time and any
id. -/
theorem loadsText_cursorText (createdAt : Int) (opId : String) :
    Json.loadsText readFloat (cursorText createdAt opId).toList =
      some (.obj [("created_at", .int createdAt), ("id", .str opId)]) := by
  have hEnds : EndsInteger (',' :: ' ' :: Json.quote :: ("id".toList ++ Json.quote ::
      ':' :: ' ' :: Json.quote :: (opId.toList.flatMap asciiChar ++
        [Json.quote, Json.closeBrace]))) := by
    rintro c hc
    obtain rfl : ',' = c := by simpa using hc
    decide
  have hId : ∀ fuel, Json.value readFloat (fuel + 1) (Json.quote ::
      (opId.toList.flatMap asciiChar ++ [Json.quote, Json.closeBrace])) =
        some (.str opId, [Json.closeBrace]) := by
    intro fuel
    rw [Json.value, if_pos rfl, stringBody_asciiText]
    simp
  have hFirst := fun fuel => value_toString readFloat fuel createdAt hEnds
  have hMembers : ∀ fuel, Json.members readFloat (fuel + 3) (Json.quote :: ("created_at".toList ++
      Json.quote :: ':' :: ' ' :: ((toString createdAt).toList ++ ',' :: ' ' :: Json.quote ::
        ("id".toList ++ Json.quote :: ':' :: ' ' :: Json.quote ::
          (opId.toList.flatMap asciiChar ++ [Json.quote, Json.closeBrace]))))) =
      some ([("created_at", .int createdAt), ("id", .str opId)], []) := by
    intro fuel
    exact members_cons readFloat (by decide) (hFirst 0).1 rfl (hFirst (fuel + 1)).2
      (members_singleton readFloat (by decide) rfl (hId fuel))
  have hText := toList_cursorText createdAt opId
  have hLong : 3 ≤ (cursorText createdAt opId).toList.length := by
    rw [hText]
    simp only [List.length_cons, List.length_append]
    omega
  obtain ⟨fuel, hFuel⟩ := Nat.exists_eq_add_of_le' hLong
  have hMembers := hMembers fuel
  unfold Json.loadsText
  rw [hFuel, hText]
  generalize "created_at".toList ++ _ = doc at hMembers
  have hStart : Json.skipSpace (Json.openBrace :: Json.quote :: doc) =
      Json.openBrace :: Json.quote :: doc := rfl
  have hInner : Json.skipSpace (Json.quote :: doc) = Json.quote :: doc := rfl
  have hOpen : Json.openBrace ≠ Json.quote := by decide
  have hBrace : Json.expect Json.closeBrace (Json.quote :: doc) = none := rfl
  rw [hStart, Json.value, if_neg hOpen, if_pos rfl, hInner, hBrace, hMembers]
  rfl

/-- **A cursor is read back as the row that it was made of.** -/
theorem decodeCursor_encodeCursor (createdAt : Int) (opId : String) :
    decodeCursor readFloat (encodeCursor createdAt opId) = some (createdAt, opId) := by
  unfold decodeCursor encodeCursor
  rw [b64urlDecode_encode]
  simp only [Json.loads, decodeText_cursorText, loadsText_cursorText, Option.bind_eq_bind,
    Option.bind_some]
  rfl

end Cursors

end AgentShield.Server
