import AgentShield.Sdk.RoundTrip
import AgentShield.Server.JsonWriters

/-!
# Documents are read back

The server writes JSON in four ways: the canonical text that is hashed and signed, the text of
a model's serializer, and the texts of `json.dumps` with and without characters outside ASCII.
Each is a writer, so `json.loads` reads back what it has written (`documents_readBack`): a
document may be kept as its value.  And two values have one canonical text exactly when they
are the same canonical value (`canonical_texts`).
-/

namespace AgentShield.Server

open AgentShield.Lib AgentShield.Sdk

/-! ## Bytes -/

theorem utf8_cons (c : Char) (cs : List Char) :
    utf8 (String.ofList (c :: cs)) = String.utf8EncodeChar c ++ utf8 (String.ofList cs) := by
  have hText : String.ofList (c :: cs) = String.ofList [c] ++ String.ofList cs := by
    rw [← String.ofList_append]
    rfl
  have hChar : utf8 (String.ofList [c]) = String.utf8EncodeChar c := by
    simp [utf8, String.toUTF8, List.utf8Encode_singleton]
  rw [hText, utf8_append, hChar]

theorem utf8EncodeChar_ascii {c : Char} (h : c.toNat < 128) :
    String.utf8EncodeChar c = [UInt8.ofNat c.toNat] := by
  show (if c.toNat ≤ 0x7f then [UInt8.ofNat c.toNat] else _) = _
  rw [if_pos (by omega)]

/-- No character but NUL begins with a zero. -/
theorem utf8EncodeChar_ne_zero {c : Char} (h : c.toNat ≠ 0) :
    ∀ b ∈ (String.utf8EncodeChar c).head?, b ≠ 0 := by
  have hHead : ∀ n, n < 256 → n ≠ 0 → UInt8.ofNat n ≠ 0 := by
    intro n hn h0 hZero
    have hNat : (UInt8.ofNat n).toNat = 0 := congrArg UInt8.toNat hZero
    rw [UInt8.toNat_ofNat_of_lt' hn] at hNat
    exact h0 hNat
  have hCode : String.utf8EncodeChar c =
      if c.toNat ≤ 0x7f then [UInt8.ofNat c.toNat]
      else if c.toNat ≤ 0x7ff then
        [UInt8.ofNat (c.toNat / 64 % 0x20 + 0xc0), UInt8.ofNat (c.toNat % 0x40 + 0x80)]
      else if c.toNat ≤ 0xffff then
        [UInt8.ofNat (c.toNat / 4096 % 0x10 + 0xe0), UInt8.ofNat (c.toNat / 64 % 0x40 + 0x80),
          UInt8.ofNat (c.toNat % 0x40 + 0x80)]
      else
        [UInt8.ofNat (c.toNat / 262144 % 0x08 + 0xf0), UInt8.ofNat (c.toNat / 4096 % 0x40 + 0x80),
          UInt8.ofNat (c.toNat / 64 % 0x40 + 0x80), UInt8.ofNat (c.toNat % 0x40 + 0x80)] := rfl
  rw [hCode]
  intro b hb
  split at hb
  · rw [← Option.some.inj hb]
    exact hHead _ (by omega) h
  · split at hb
    · rw [← Option.some.inj hb]
      exact hHead _ (by omega) (by omega)
    · split at hb
      · rw [← Option.some.inj hb]
        exact hHead _ (by omega) (by omega)
      · rw [← Option.some.inj hb]
        exact hHead _ (by omega) (by omega)

set_option linter.auxLemma false in
/-- A text that starts with an ASCII character, with no zero byte next to it, is taken for
UTF-8. -/
theorem decodeText_ascii {a : UInt8} {data : Bytes} (h : a ≠ 0) (hAscii : a < 128)
    (hNext : ∀ b ∈ data.head?, b ≠ 0) : decodeText (a :: data) = decodeUtf8 (a :: data) := by
  have hMark : a ≠ 0xFF ∧ a ≠ 0xFE ∧ a ≠ 0xEF := by
    refine ⟨?_, ?_, ?_⟩ <;> rintro rfl <;> exact absurd hAscii (by decide)
  -- the match asks for the first bytes of the marks one after another
  unfold decodeText
  delta decodeText.match_1
  show dite (a = 0) _ _ = _
  rw [dif_neg h]
  show dite (a = 0xFF) _ _ = _
  rw [dif_neg hMark.1]
  show dite (a = 0xFE) _ _ = _
  rw [dif_neg hMark.2.1]
  show dite (a = 0xEF) _ _ = _
  rw [dif_neg hMark.2.2]
  cases data with
  | nil => rfl
  | cons b rest =>
      have hb : b ≠ 0 := hNext b rfl
      cases rest with
      | nil =>
          show (if a = 0 then _ else if b = 0 then _ else _) = _
          rw [if_neg h, if_neg hb]
      | cons c rest =>
          cases rest with
          | nil => rfl
          | cons d rest =>
              show (if a = 0 then _ else if b = 0 then _ else _) = _
              rw [if_neg h, if_neg hb]

/-- A text that opens as a value does is found to be in UTF-8, since neither of its first two
bytes is zero. -/
theorem Opens.decodeText {s : String} (h : Opens s.toList) (hPos : s.toList ≠ []) :
    decodeText (utf8 s) = some s.toList := by
  have hRead := decodeUtf8_utf8 s
  obtain ⟨c, cs, hText⟩ := List.exists_cons_of_ne_nil hPos
  have hString : s = String.ofList (c :: cs) := by rw [← hText, String.ofList_toList]
  have hAscii : c.toNat < 128 := h.ascii c (by rw [hText]; rfl)
  have hPrintable : ∀ d ∈ c :: cs, 32 ≤ d.toNat := hText ▸ h.printable
  have hFirst : 32 ≤ c.toNat := hPrintable c List.mem_cons_self
  have hCode : (UInt8.ofNat c.toNat).toNat = c.toNat := UInt8.toNat_ofNat_of_lt'
    (show c.toNat < 256 by omega)
  have hBytes : utf8 s = UInt8.ofNat c.toNat :: utf8 (String.ofList cs) := by
    rw [hString, utf8_cons, utf8EncodeChar_ascii hAscii]
    rfl
  have hNext : ∀ b ∈ (utf8 (String.ofList cs)).head?, b ≠ 0 := by
    intro b hb
    cases cs with
    | nil => cases hb
    | cons d ds =>
        have hd : 32 ≤ d.toNat := hPrintable d (List.mem_cons_of_mem _ List.mem_cons_self)
        rw [utf8_cons] at hb
        refine utf8EncodeChar_ne_zero (c := d) (by omega) b ?_
        obtain ⟨e, es, hEncode⟩ :=
          List.exists_cons_of_ne_nil (String.utf8EncodeChar_ne_nil (c := d))
        rw [hEncode] at hb ⊢
        exact hb
  rw [hBytes] at hRead ⊢
  rw [decodeText_ascii _ _ hNext, hRead]
  · intro hZero
    have hNat := congrArg UInt8.toNat hZero
    rw [hCode] at hNat
    have hNone : c.toNat = 0 := hNat
    omega
  · rw [UInt8.lt_iff_toNat_lt, hCode]
    exact hAscii

/-- **What a writer prints is read back.** -/
theorem loads_print {readFloat : List Char → PyFloat} {w : Writer} {g : PyFloat → Json}
    {s : String} {j : Json} (hText : s.toList = w.print j)
    (hFloats : ∀ x ∈ j.floats, Reads readFloat (w.float x) (g x)) (hNames : j.DistinctNames) :
    Json.loads readFloat (utf8 s) = some (j.mapFloats g) := by
  have hReads := print_readsWithin readFloat w g j hFloats hNames
  have hNone : w.print j ≠ [] := by
    intro hNil
    have hValue := hReads.value 1 [] (by rw [hNil]; exact Nat.zero_le 1) fun c hc => by cases hc
    rw [hNil] at hValue
    cases hValue
  rw [← hText] at hReads hNone
  have hValue := hReads.value (s.toList.length + 1) [] (Nat.le_succ _) fun c hc => by cases hc
  have hStart := (hReads.start []).1
  rw [List.append_nil] at hValue hStart
  unfold Json.loads Json.loadsText
  rw [hReads.toOpens.decodeText hNone, Option.bind_some, hStart, hValue]
  rfl

/-! ## The four writers -/

section Writers

variable (text : FloatText)

/-- `ensure_ascii=False`, with the floats as they are given. -/
def plainWriter (float : PyFloat → String) : Writer where
  char c := (escapeChar c).toList
  float x := (float x).toList
  prints := escapeChar_prints

/-- `ensure_ascii=True`. -/
def asciiWriter : Writer where
  char := asciiChar
  float x := (text.jsonFloat x).toList
  prints := asciiChar_prints

/-- `json.dumps(value, sort_keys=True, separators=(",", ":"))`. -/
def dumpsSorted (value : Json) : String := String.ofList ((asciiWriter text).print value.ordered)

/-- The value that a canonical text stands for: the members in order, no float that JSON
cannot write, and one zero. -/
def canonicalFloat : PyFloat → Json
  | .finite q => if q = 0 then .int 0 else .float (.finite q)
  | _ => .null

/-- What is left of a value in its canonical text: its fields in order, its floats as they are
written. -/
def canonicalValue (value : Json) : Json := (value.mapFloats canonicalFloat).ordered

mutual

/-- The canonical writer of the SDK is a plain writer with its own floats. -/
theorem print_plain : ∀ j : Json,
    (plainWriter text.jcsSerializeFloat).print j = j.print text
  | .null => rfl
  | .bool true => rfl
  | .bool false => rfl
  | .int _ => rfl
  | .float _ => rfl
  | .str _ => rfl
  | .arr xs => congrArg (List.cons '[') (printItems_plain xs).1
  | .obj xs => congrArg (List.cons Json.openBrace) (printFields_plain xs).1

theorem printItems_plain : ∀ xs : List Json,
    (plainWriter text.jcsSerializeFloat).printItems xs = Json.printItems text xs ∧
      (plainWriter text.jcsSerializeFloat).printMoreItems xs = Json.printMoreItems text xs
  | [] => ⟨rfl, rfl⟩
  | x :: xs => by
      have hItem := print_plain x
      have hMore := (printItems_plain xs).2
      simp only [Writer.printItems, Writer.printMoreItems, Json.printItems, Json.printMoreItems,
        hItem, hMore, and_self]

theorem printFields_plain : ∀ xs : List (String × Json),
    (plainWriter text.jcsSerializeFloat).printFields xs = Json.printFields text xs ∧
      (plainWriter text.jcsSerializeFloat).printMoreFields xs = Json.printMoreFields text xs
  | [] => ⟨rfl, rfl⟩
  | (k, x) :: xs => by
      have hItem := print_plain x
      have hMore := (printFields_plain xs).2
      have hName : (plainWriter text.jcsSerializeFloat).string k = Json.stringText k := rfl
      simp only [Writer.printFields, Writer.printMoreFields, Json.printFields,
        Json.printMoreFields, hItem, hMore, hName, and_self]

end

/-- Texts between commas, up to the closing bracket. -/
theorem intercalate_append (more : List Char) (texts : List (List Char)) (close : Char) :
    [','].intercalate (more :: texts) ++ [close] =
      more ++ (texts.flatMap (fun t => ',' :: t) ++ [close]) := by
  induction texts generalizing more with
  | nil => simp
  | cons t texts ih =>
      have hRest := ih t
      rw [List.intercalate_cons_cons, List.append_assoc, List.append_assoc, hRest,
        List.flatMap_cons, List.cons_append, List.append_assoc]
      rfl

section Dumps

variable (float : PyFloat → String)

theorem printMoreItems_eq (w : Writer) (xs : List Json) :
    w.printMoreItems xs = (xs.map w.print).flatMap (fun t => ',' :: t) ++ [']'] := by
  induction xs with
  | nil => rfl
  | cons x xs ih =>
      rw [Writer.printMoreItems, ih, List.map_cons, List.flatMap_cons, List.cons_append,
        List.cons_append, List.append_assoc]

theorem printMoreFields_eq (w : Writer) (xs : List (String × Json)) :
    w.printMoreFields xs =
      (xs.map fun f => w.string f.1 ++ ':' :: w.print f.2).flatMap (fun t => ',' :: t) ++
        [Json.closeBrace] := by
  induction xs with
  | nil => rfl
  | cons f xs ih =>
      obtain ⟨k, x⟩ := f
      rw [Writer.printMoreFields, ih, List.map_cons, List.flatMap_cons, List.cons_append,
        List.cons_append, List.append_assoc, List.append_assoc, List.cons_append]

mutual

/-- The text of `json.dumps`, whatever it prints for the floats. -/
theorem toList_dumps : ∀ j : Json, (j.dumps float).toList = (plainWriter float).print j
  | .null => rfl
  | .bool true => rfl
  | .bool false => rfl
  | .int _ => rfl
  | .float _ => rfl
  | .str s => Json.toList_jsonString s
  | .arr xs => by
      have hTexts := toList_dumpsItems xs
      simp only [Json.dumps, String.toList_append, String.toList_intercalate, hTexts,
        Writer.print]
      cases xs with
      | nil => rfl
      | cons x xs =>
          have hMore := intercalate_append ((plainWriter float).print x)
            (xs.map (plainWriter float).print) ']'
          rw [← printMoreItems_eq] at hMore
          exact congrArg (List.cons '[') hMore
  | .obj xs => by
      have hTexts := toList_dumpsFields xs
      simp only [Json.dumps, String.toList_append, String.toList_intercalate, hTexts,
        Writer.print]
      cases xs with
      | nil => rfl
      | cons f xs =>
          obtain ⟨k, x⟩ := f
          have hMore := intercalate_append
            ((plainWriter float).string k ++ ':' :: (plainWriter float).print x)
            (xs.map fun f => (plainWriter float).string f.1 ++ ':' :: (plainWriter float).print f.2)
            Json.closeBrace
          rw [← printMoreFields_eq, List.append_assoc, List.cons_append] at hMore
          exact congrArg (List.cons Json.openBrace) hMore

theorem toList_dumpsItems : ∀ xs : List Json,
    (Json.dumpsItems float xs).map String.toList = xs.map (plainWriter float).print
  | [] => rfl
  | x :: xs => congrArg₂ List.cons (toList_dumps x) (toList_dumpsItems xs)

theorem toList_dumpsFields : ∀ xs : List (String × Json),
    (Json.dumpsFields float xs).map String.toList =
      xs.map fun f => (plainWriter float).string f.1 ++ ':' :: (plainWriter float).print f.2
  | [] => rfl
  | (k, x) :: xs => by
      have hName : (jsonString k).toList = (plainWriter float).string k :=
        Json.toList_jsonString k
      have hValue := toList_dumps x
      have hMore := toList_dumpsFields xs
      simp only [Json.dumpsFields, List.map_cons, String.toList_append, hName, hValue, hMore,
        List.append_assoc]
      rfl

end

end Dumps

mutual

/-- A canonical text does not see what it does not write. -/
theorem print_canonical : ∀ j : Json, (j.mapFloats canonicalFloat).print text = j.print text
  | .null => rfl
  | .bool _ => rfl
  | .int _ => rfl
  | .str _ => rfl
  | .float .nan => rfl
  | .float .inf => rfl
  | .float .negInf => rfl
  | .float (.finite q) => by
      by_cases hZero : q = 0
      · simp only [Json.mapFloats, canonicalFloat, if_pos hZero, Json.print,
          FloatText.jcsSerializeFloat]
        rfl
      · simp only [Json.mapFloats, canonicalFloat, if_neg hZero]
  | .arr xs => congrArg (List.cons '[') (printItems_canonical xs).1
  | .obj xs => congrArg (List.cons Json.openBrace) (printFields_canonical xs).1

theorem printItems_canonical : ∀ xs : List Json,
    Json.printItems text (Json.mapFloatsItems canonicalFloat xs) = Json.printItems text xs ∧
      Json.printMoreItems text (Json.mapFloatsItems canonicalFloat xs) =
        Json.printMoreItems text xs
  | [] => ⟨rfl, rfl⟩
  | x :: xs => by
      have hItem := print_canonical x
      have hMore := (printItems_canonical xs).2
      simp only [Json.mapFloatsItems, Json.printItems, Json.printMoreItems, hItem, hMore,
        and_self]

theorem printFields_canonical : ∀ xs : List (String × Json),
    Json.printFields text (Json.mapFloatsFields canonicalFloat xs) = Json.printFields text xs ∧
      Json.printMoreFields text (Json.mapFloatsFields canonicalFloat xs) =
        Json.printMoreFields text xs
  | [] => ⟨rfl, rfl⟩
  | (k, x) :: xs => by
      have hItem := print_canonical x
      have hMore := (printFields_canonical xs).2
      simp only [Json.mapFloatsFields, Json.printFields, Json.printMoreFields, hItem, hMore,
        and_self]

end

mutual

theorem mapFloats_float : ∀ j : Json, j.mapFloats .float = j
  | .null => rfl
  | .bool _ => rfl
  | .int _ => rfl
  | .str _ => rfl
  | .float _ => rfl
  | .arr xs => congrArg Json.arr (mapFloatsItems_float xs)
  | .obj xs => congrArg Json.obj (mapFloatsFields_float xs)

theorem mapFloatsItems_float : ∀ xs : List Json, Json.mapFloatsItems .float xs = xs
  | [] => rfl
  | x :: xs => congrArg₂ List.cons (mapFloats_float x) (mapFloatsItems_float xs)

theorem mapFloatsFields_float : ∀ xs : List (String × Json), Json.mapFloatsFields .float xs = xs
  | [] => rfl
  | (k, x) :: xs =>
      congrArg₂ List.cons (congrArg (Prod.mk k) (mapFloats_float x)) (mapFloatsFields_float xs)

end

/-- What the store reads of a float. -/
def wireFloat (x : PyFloat) : Json := (Json.float x).wire

mutual

theorem mapFloats_wire : ∀ j : Json, j.mapFloats wireFloat = j.wire
  | .null => rfl
  | .bool _ => rfl
  | .int _ => rfl
  | .str _ => rfl
  | .float _ => rfl
  | .arr xs => congrArg Json.arr (mapFloatsItems_wire xs)
  | .obj xs => congrArg Json.obj (mapFloatsFields_wire xs)

theorem mapFloatsItems_wire : ∀ xs : List Json, Json.mapFloatsItems wireFloat xs = Json.wireItems xs
  | [] => rfl
  | x :: xs => congrArg₂ List.cons (mapFloats_wire x) (mapFloatsItems_wire xs)

theorem mapFloatsFields_wire : ∀ xs : List (String × Json),
    Json.mapFloatsFields wireFloat xs = Json.wireFields xs
  | [] => rfl
  | (k, x) :: xs =>
      congrArg₂ List.cons (congrArg (Prod.mk k) (mapFloats_wire x)) (mapFloatsFields_wire xs)

end

/-! ## Every document is read back -/

variable (readFloat : List Char → PyFloat)

/-- The finite floats of a value are printed as floats, and read back from their digits. -/
def PrintsFloats (print : Rat → String) (j : Json) : Prop :=
  ∀ q, .finite q ∈ j.floats →
    IsFloatLiteral (print q).toList ∧ readFloat (print q).toList = .finite q

variable {readFloat text}

/-- Ordering the fields of a value leaves its floats as they are. -/
theorem PrintsFloats.ordered {print : Rat → String} {j : Json}
    (h : PrintsFloats readFloat print j) :
    PrintsFloats readFloat print j.ordered := fun q hq => h q (Json.floats_ordered j _ hq)

/-- A float of a value is written so that it is read back. -/
theorem PrintsFloats.reads {print : Rat → String} {j : Json} (h : PrintsFloats readFloat print j)
    {q : Rat} (hq : .finite q ∈ j.floats) :
    Reads readFloat (print q).toList (.float (.finite q)) := by
  obtain ⟨hLiteral, hValue⟩ := h q hq
  have hReads := reads_literal readFloat hLiteral
  rwa [hValue] at hReads

/-- A float in canonical text is read back as what is canonical of it. -/
theorem reads_jcsFloat {j : Json} (h : PrintsFloats readFloat text.repr j) :
    ∀ x ∈ j.floats, Reads readFloat (text.jcsSerializeFloat x).toList (canonicalFloat x) := by
  intro x hx
  cases x with
  | finite q =>
      by_cases hZero : q = 0
      · simp only [FloatText.jcsSerializeFloat, canonicalFloat, if_pos hZero]
        exact reads_int readFloat 0
      · simp only [FloatText.jcsSerializeFloat, canonicalFloat, if_neg hZero]
        exact h.reads hx
  | nan => exact reads_null readFloat
  | inf => exact reads_null readFloat
  | negInf => exact reads_null readFloat

/-- A float that `json.dumps` writes is read back as it was. -/
theorem reads_jsonFloat {j : Json} (h : PrintsFloats readFloat text.repr j) :
    ∀ x ∈ j.floats, Reads readFloat (text.jsonFloat x).toList (.float x) := by
  intro x hx
  cases x with
  | finite q => exact h.reads hx
  | nan => exact reads_word readFloat (.inl (.tail _ (.tail _ (.tail _ (.head _)))))
  | inf => exact reads_word readFloat (.inl (.tail _ (.tail _ (.tail _ (.tail _ (.head _))))))
  | negInf => exact reads_word readFloat (.inr rfl)

/-- A float that pydantic writes is read back, or as null where it is not finite. -/
theorem reads_pydanticFloat {j : Json} (h : PrintsFloats readFloat text.ryu j) :
    ∀ x ∈ j.floats, Reads readFloat (text.pydanticFloat x).toList (wireFloat x) := by
  intro x hx
  cases x with
  | finite q => exact h.reads hx
  | nan => exact reads_null readFloat
  | inf => exact reads_null readFloat
  | negInf => exact reads_null readFloat

theorem ordered_canonicalFloat (x : PyFloat) : (canonicalFloat x).ordered = canonicalFloat x := by
  cases x with
  | finite q =>
      simp only [canonicalFloat]
      split <;> rfl
  | nan => rfl
  | inf => rfl
  | negInf => rfl

/-- A canonical text is read back as the canonical value of what was written. -/
theorem loads_jcsCanonicalize {j : Json} (hNames : j.DistinctNames)
    (hFloats : PrintsFloats readFloat text.repr j) :
    Json.loads readFloat (utf8 (text.jcsCanonicalize j)) = some (canonicalValue j) := by
  have hText : (text.jcsCanonicalize j).toList =
      (plainWriter text.jcsSerializeFloat).print j.ordered := by
    rw [Json.toList_jcsCanonicalize, print_plain]
  rw [loads_print hText (reads_jcsFloat hFloats.ordered) hNames.ordered, canonicalValue,
    Json.ordered_mapFloats ordered_canonicalFloat]

/-- The canonical value has the canonical text of the value. -/
theorem jcsCanonicalize_canonicalValue (j : Json) :
    text.jcsCanonicalize (canonicalValue j) = text.jcsCanonicalize j := by
  rw [← String.toList_inj, Json.toList_jcsCanonicalize, Json.toList_jcsCanonicalize,
    canonicalValue, Json.ordered_ordered, Json.ordered_mapFloats ordered_canonicalFloat,
    print_canonical]

/-- **A canonical text is read back as the canonical value**, and it is the text of no other
one: canonicalising is idempotent, and two values have one text exactly when they have one
canonical value. -/
theorem canonical_texts {x y : Json} (hx : x.DistinctNames) (hy : y.DistinctNames)
    (hxFloats : PrintsFloats readFloat text.repr x)
    (hyFloats : PrintsFloats readFloat text.repr y) :
    Json.loads readFloat (utf8 (text.jcsCanonicalize x)) = some (canonicalValue x) ∧
      text.jcsCanonicalize (canonicalValue x) = text.jcsCanonicalize x ∧
      (text.jcsCanonicalize x = text.jcsCanonicalize y ↔ canonicalValue x = canonicalValue y) := by
  have hReadX := loads_jcsCanonicalize hx hxFloats
  have hReadY := loads_jcsCanonicalize hy hyFloats
  refine ⟨hReadX, jcsCanonicalize_canonicalValue x, fun hSame => ?_, fun hSame => ?_⟩
  · rw [hSame, hReadY] at hReadX
    exact (Option.some.inj hReadX).symm
  · rw [← jcsCanonicalize_canonicalValue x, hSame, jcsCanonicalize_canonicalValue]

/-- **Every document of the server is read back**: a model's text up to the floats that JSON
has no number for, which become null, and the two texts of `json.dumps` as they are or with
their members sorted. -/
theorem documents_readBack {j : Json} (hNames : j.DistinctNames)
    (hRepr : PrintsFloats readFloat text.repr j) (hRyu : PrintsFloats readFloat text.ryu j) :
    Json.loads readFloat (utf8 (text.modelDumpJson j)) = some j.wire ∧
      Json.loads readFloat (utf8 (text.jsonDumps j)) = some j ∧
      Json.loads readFloat (utf8 (dumpsSorted text j)) = some j.ordered := by
  refine ⟨?_, ?_, ?_⟩
  · rw [FloatText.modelDumpJson, loads_print (toList_dumps text.pydanticFloat j)
      (reads_pydanticFloat hRyu) hNames, mapFloats_wire]
  · rw [FloatText.jsonDumps, loads_print (toList_dumps text.jsonFloat j)
      (reads_jsonFloat hRepr) hNames, mapFloats_float]
  · have hText : (dumpsSorted text j).toList = (asciiWriter text).print j.ordered :=
      String.toList_ofList
    rw [loads_print hText (reads_jsonFloat hRepr.ordered) hNames.ordered, mapFloats_float]

end Writers

/-- A transfer with every kind of value, its members out of order. -/
def sampleDocument : Json :=
  .obj
    [("tool", .str "send_money"),
     ("args", .obj [("fee", .float (.finite 0)), ("amount", .float (.finite 10000000000000000)),
       ("memo", .null)]),
     ("score", .float .nan),
     ("flags", .arr [.bool true, .int (-3), .str (String.singleton (Char.ofNat 0x1F600))])]

/-- The texts of the two finite floats in it. -/
def sampleText : FloatText where
  repr q := if q = 0 then "0.0" else "1e+16"
  ryu q := if q = 0 then "0.0" else "1e16"

def sampleFloat (cs : List Char) : PyFloat :=
  if cs = "0.0".toList then .finite 0 else .finite 10000000000000000

theorem sampleDocument_names : sampleDocument.DistinctNames := by
  simp [sampleDocument, Json.DistinctNames, Json.DistinctNamesFields, Json.DistinctNamesItems]

theorem sampleDocument_prints {print : Rat → String}
    (hZero : IsFloatLiteral (print 0).toList ∧ sampleFloat (print 0).toList = .finite 0)
    (hAmount : IsFloatLiteral (print 10000000000000000).toList ∧
      sampleFloat (print 10000000000000000).toList = .finite 10000000000000000) :
    PrintsFloats sampleFloat print sampleDocument := by
  intro q hq
  have hCases : q = 0 ∨ q = 10000000000000000 := by
    simpa [sampleDocument, Json.floats, Json.fieldsFloats, Json.itemsFloats] using hq
  rcases hCases with rfl | rfl
  · exact hZero
  · exact hAmount

theorem zero_literal : IsFloatLiteral "0.0".toList :=
  ⟨false, ['0'], ['.', '0'], [], rfl, ⟨by decide, fun _ => rfl⟩, .inr ⟨['0'], rfl, by decide⟩,
    .inl rfl, by decide⟩

theorem sampleDocument_repr : PrintsFloats sampleFloat sampleText.repr sampleDocument :=
  sampleDocument_prints ⟨zero_literal, rfl⟩
    ⟨⟨false, ['1'], [], ['e', '+', '1', '6'], rfl, ⟨by decide, by decide⟩, .inl rfl,
      .inr ⟨'e', ['+'], ['1', '6'], rfl, .inl rfl, .inr (.inl rfl), by decide⟩, by decide⟩, rfl⟩

theorem sampleDocument_ryu : PrintsFloats sampleFloat sampleText.ryu sampleDocument :=
  sampleDocument_prints ⟨zero_literal, rfl⟩
    ⟨⟨false, ['1'], [], ['e', '1', '6'], rfl, ⟨by decide, by decide⟩, .inl rfl,
      .inr ⟨'e', [], ['1', '6'], rfl, .inl rfl, .inl rfl, by decide⟩, by decide⟩, rfl⟩

theorem PrintsFloats.arr {print : Rat → String} {readFloat : List Char → PyFloat} {j : Json}
    (h : PrintsFloats readFloat print j) : PrintsFloats readFloat print (.arr [j]) := by
  intro q hq
  exact h q ((List.mem_append.1 hq).resolve_right List.not_mem_nil)

/-- The text that is hashed for a document is read back, and is not that of a list of it. -/
theorem canonical_texts_sample :
    Json.loads sampleFloat (utf8 (sampleText.jcsCanonicalize sampleDocument)) =
        some (canonicalValue sampleDocument) ∧
      sampleText.jcsCanonicalize sampleDocument ≠
        sampleText.jcsCanonicalize (.arr [sampleDocument]) := by
  have hTexts := canonical_texts sampleDocument_names
    (show Json.DistinctNames (.arr [sampleDocument]) from ⟨sampleDocument_names, trivial⟩)
    sampleDocument_repr sampleDocument_repr.arr
  refine ⟨hTexts.1, fun hSame => ?_⟩
  have hValues := hTexts.2.2.1 hSame
  cases hValues

theorem documents_readBack_sample :
    Json.loads sampleFloat (utf8 (sampleText.modelDumpJson sampleDocument)) =
        some sampleDocument.wire ∧
      Json.loads sampleFloat (utf8 (sampleText.jsonDumps sampleDocument)) = some sampleDocument ∧
      Json.loads sampleFloat (utf8 (dumpsSorted sampleText sampleDocument)) =
        some sampleDocument.ordered :=
  documents_readBack sampleDocument_names sampleDocument_repr sampleDocument_ryu

end AgentShield.Server
