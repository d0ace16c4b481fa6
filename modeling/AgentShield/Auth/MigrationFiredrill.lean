import AgentShield.Lib.Bag
import AgentShield.Lib.Dict
import AgentShield.Server.Cursor
import Mathlib.Data.String.Basic

/-!
# The fire drill of the auth migrations

A snapshot holds, for every protected table, the number of its rows and the SHA-256 digest
of their sorted texts.  Two snapshots are compared table by table.

The columns of a row hold JSON scalars, with their types: the integer 1, the float 1.0 and
`true` are three values.  A float is whatever `json.dumps` writes as one (`FloatJson`), and
the digest is a parameter.
-/

namespace AgentShield.Auth

open AgentShield.Lib AgentShield.Sdk AgentShield.Server

/-! ## Rows -/

/-- The characters of a number's text. -/
def numeric (c : Char) : Bool := c.isAlphanum || c == '+' || c == '-' || c == '.'

/-- How `json.dumps` writes floats: in different ways, and not as an integer or a word. -/
structure FloatJson (φ : Type) where
  text : φ → String
  injective : Function.Injective text
  isNumeric : ∀ x, ∀ c ∈ (text x).toList, numeric c = true
  notInt : ∀ x i, text x ≠ toString (i : Int)
  notWord : ∀ x, text x ∉ ["null", "true", "false"]

inductive Scalar (φ : Type) where
  | null
  | bool (b : Bool)
  | int (i : Int)
  | float (x : φ)
  | str (s : String)

variable {φ : Type}

def Scalar.dumps (float : FloatJson φ) : Scalar φ → String
  | null => "null"
  | bool b => if b then "true" else "false"
  | int i => toString i
  | .float x => float.text x
  | str s => asciiString s

/-- A row: the value of each of its columns. -/
structure DrillRow (φ : Type) where
  columns : Dict String (Scalar φ)
  unique : (columns.map Prod.fst).Nodup

/-- What a row is, whatever the order of its columns. -/
def DrillRow.value (row : DrillRow φ) (column : String) : Option (Scalar φ) :=
  Dict.get? row.columns column

def columnText (float : FloatJson φ) (f : String × Scalar φ) : String :=
  asciiString f.1 ++ ":" ++ f.2.dumps float

/-- `json.dumps` of a row, with its keys in order and compact separators. -/
def rowText (float : FloatJson φ) (row : DrillRow φ) : String :=
  "\x7b" ++ ",".intercalate ((Bag.sortOn Prod.fst row.columns).map (columnText float)) ++ "\x7d"

def canonicalRowBytes (float : FloatJson φ) (row : DrillRow φ) : Bytes :=
  utf8 (rowText float row)

/-! ## Snapshots -/

def w3ProtectedTables : List String :=
  ["agents", "agent_keys", "operations", "receipts", "epochs", "exports", "agent_sessions",
    "intervention_log", "governance_verdicts"]

structure TableSnapshot where
  table : String
  rowCount : Int
  rowChecksum : String

structure W3Snapshot where
  tables : Dict String TableSnapshot := []

def W3Snapshot.names (snapshot : W3Snapshot) : List String := snapshot.tables.map Prod.fst

/-- The rows of a table that is there, in the order in which they are returned. -/
abbrev DrillTables (φ : Type) := String → Option (List (DrillRow φ))

section Snapshots

variable (sha256Hex : Bytes → String) (float : FloatJson φ)

/-- The order of byte strings. -/
def byteValues (b : Bytes) : List Nat := b.map UInt8.toNat

def sha256HexOfSortedRows (rows : List (DrillRow φ)) : String :=
  let encoded := Bag.sortOn byteValues (rows.map (canonicalRowBytes float))
  sha256Hex (encoded.flatMap fun blob => blob ++ [10])

def snapshotTable (db : DrillTables φ) (t : String) : TableSnapshot :=
  match db t with
  | none => { table := t, rowCount := -1, rowChecksum := "__missing__" }
  | some rows =>
      { table := t
        rowCount := rows.length
        rowChecksum := sha256HexOfSortedRows sha256Hex float rows }

def snapshotW3Tables (db : DrillTables φ) (tables : List String := w3ProtectedTables) :
    W3Snapshot where
  tables := tables.foldl (fun out t => Dict.set out t (snapshotTable sha256Hex float db t)) []

end Snapshots

/-! ## The comparison -/

/-- What two snapshots differ in. -/
inductive Drift where
  | tableSet (onlyPre onlyPost : List String)
  | rowCount (name : String) (preUp postDown : Int)
  | rowChecksum (name : String) (preUp postDown : String)

/-- `[x, y]` of texts. -/
def reprTexts (repr : String → String) (texts : List String) : String :=
  "[" ++ ", ".intercalate (texts.map repr) ++ "]"

def Drift.message (repr : String → String) : Drift → String
  | tableSet onlyPre onlyPost =>
      "§A5: W3 table set drift across up→down — only_pre=" ++ reprTexts repr onlyPre ++
        " only_post=" ++ reprTexts repr onlyPost
  | rowCount name preUp postDown =>
      "§A5: row_count drift in W3 table " ++ repr name ++ ": pre_up=" ++ toString preUp ++
        " post_down=" ++ toString postDown ++
        " — auth down-migration must not insert/delete W3 rows."
  | rowChecksum name preUp postDown =>
      "§A5: row_checksum drift in W3 table " ++ repr name ++ ": pre_up=" ++ preUp ++
        " post_down=" ++ postDown ++
        " — auth down-migration must not UPDATE W3 rows (count was preserved " ++
        "but row content changed, the silent-update class)."

inductive CompareError where
  | keyError (name : String)
  | assertion (drift : Drift)

/-- `tables[name]`. -/
def W3Snapshot.item (snapshot : W3Snapshot) (name : String) :
    Except CompareError TableSnapshot :=
  match Dict.get? snapshot.tables name with
  | none => .error (.keyError name)
  | some table => .ok table

def compareTable (preUp postDown : W3Snapshot) (name : String) : Except CompareError Unit := do
  let pre ← preUp.item name
  let post ← postDown.item name
  if pre.rowCount ≠ post.rowCount then
    .error (.assertion (.rowCount name pre.rowCount post.rowCount))
  else if pre.rowChecksum ≠ post.rowChecksum then
    .error (.assertion (.rowChecksum name pre.rowChecksum post.rowChecksum))
  else return ()

/-- The names of the one that are not among the others, in order. -/
def namesOnlyIn (names others : List String) : List String :=
  Bag.sortOn id ((names.filter fun name => name ∉ others).dedup)

def compareW3TablesByteIdentity (preUp postDown : W3Snapshot) : Except CompareError Unit :=
  if preUp.names ≠ postDown.names then
    .error (.assertion (.tableSet (namesOnlyIn preUp.names postDown.names)
      (namesOnlyIn postDown.names preUp.names)))
  else preUp.names.forM (compareTable preUp postDown)

/-! ## The texts are printable -/

/-- Printable ASCII. -/
def Printable (c : Char) : Prop := 32 ≤ c.toNat ∧ c.toNat ≤ 126

instance (c : Char) : Decidable (Printable c) :=
  inferInstanceAs (Decidable (32 ≤ c.toNat ∧ c.toNat ≤ 126))

theorem printable_of_numeric {c : Char} (h : numeric c = true) : Printable c := by
  have hCases : c.isAlphanum = true ∨ c = '+' ∨ c = '-' ∨ c = '.' := by
    simpa [numeric, or_assoc] using h
  rcases hCases with hAlphanum | rfl | rfl | rfl
  · have hBool : ((decide (c.val ≥ 'A'.val ∧ c.val ≤ 'Z'.val) ||
        (decide (c.val ≥ 'a'.val) && decide (c.val ≤ 'z'.val))) ||
        (decide (c.val ≥ '0'.val) && decide (c.val ≤ '9'.val))) = true := hAlphanum
    simp only [Bool.or_eq_true, Bool.and_eq_true, decide_eq_true_eq, UInt32.le_iff_toNat_le,
      ge_iff_le] at hBool
    have hRanges : (65 ≤ c.toNat ∧ c.toNat ≤ 90 ∨ 97 ≤ c.toNat ∧ c.toNat ≤ 122) ∨
        48 ≤ c.toNat ∧ c.toNat ≤ 57 := hBool
    unfold Printable
    omega
  all_goals exact ⟨by decide, by decide⟩

theorem printable_hexDigit {n : Nat} (h : n < 16) : Printable (hexDigit n) := by
  unfold Printable
  interval_cases n <;> decide

theorem printable_unicodeEscape {u : Nat} (h : u < 65536) :
    ∀ c ∈ (unicodeEscape u).toList, Printable c := by
  intro c hc
  rw [toList_unicodeEscape] at hc
  have hCases : c = '\\' ∨ c = 'u' ∨ c = hexDigit (u / 4096) ∨ c = hexDigit (u / 256 % 16) ∨
      c = hexDigit (u / 16 % 16) ∨ c = hexDigit (u % 16) := by
    simpa [unitDigits] using hc
  rcases hCases with rfl | rfl | rfl | rfl | rfl | rfl
  · exact ⟨by decide, by decide⟩
  · exact ⟨by decide, by decide⟩
  all_goals exact printable_hexDigit (by omega)

/-- A short escape of a control character, a quote or a backslash. -/
theorem printable_escapeChar {n : Nat} (h : n < 32 ∨ n = 34 ∨ n = 92) :
    ∀ d ∈ (escapeChar (Char.ofNat n)).toList, Printable d := by
  have hAll : (escapeChar (Char.ofNat n)).toList.all
      (fun d => decide (Printable d)) = true := by
    rcases h with hSmall | rfl | rfl
    · interval_cases n <;> decide
    · decide
    · decide
  intro d hd
  exact of_decide_eq_true (List.all_eq_true.1 hAll d hd)

theorem encodeChar_small (c : Char) : ∀ u ∈ Utf16.encodeChar c, u < 65536 := by
  have hRange := Utf16.toNat_range c
  unfold Utf16.encodeChar
  intro u hu
  split at hu
  · rw [List.mem_singleton.1 hu]
    omega
  · simp only [List.mem_cons, List.not_mem_nil, or_false] at hu
    omega

theorem printable_asciiChar (c : Char) : ∀ d ∈ asciiChar c, Printable d := by
  unfold asciiChar
  by_cases hAscii : c.toNat ≤ 126
  · rw [if_pos hAscii]
    by_cases hShort : c.toNat < 32 ∨ c.toNat = 34 ∨ c.toNat = 92
    · have hAll := printable_escapeChar hShort
      rw [Char.ofNat_toNat] at hAll
      exact hAll
    · rw [Json.escapeChar_plain (by omega) (by omega) (by omega)]
      intro d hd
      have hSame : d = c := by simpa using hd
      rw [hSame]
      exact ⟨by omega, hAscii⟩
  · rw [if_neg hAscii]
    intro d hd
    have hUnit : ∃ u ∈ Utf16.encodeChar c, d ∈ (unicodeEscape u).toList := by
      rw [String.toList_join] at hd
      simpa using hd
    obtain ⟨u, hu, hMem⟩ := hUnit
    exact printable_unicodeEscape (encodeChar_small c u hu) d hMem

theorem printable_asciiString (s : String) : ∀ c ∈ (asciiString s).toList, Printable c := by
  intro c hc
  have hQuote : Printable Json.quote := ⟨by decide, by decide⟩
  rw [toList_asciiString] at hc
  rcases List.mem_cons.1 hc with rfl | hRest
  · exact hQuote
  · rcases List.mem_append.1 hRest with hBody | hEnd
    · obtain ⟨d, _, hd⟩ := List.mem_flatMap.1 hBody
      exact printable_asciiChar d c hd
    · rw [List.mem_singleton.1 hEnd]
      exact hQuote

/-- A line break is no byte of a printable text. -/
theorem newline_notMem_utf8 {s : String} (h : ∀ c ∈ s.toList, Printable c) : 10 ∉ utf8 s := by
  have hBytes : utf8 s = s.toList.flatMap String.utf8EncodeChar := by
    unfold utf8
    rw [String.toUTF8_eq_toByteArray, ← String.utf8Encode_toList, List.utf8Encode]
    simp
  intro hMem
  rw [hBytes] at hMem
  obtain ⟨c, hc, hByte⟩ := List.mem_flatMap.1 hMem
  have hPrintable := h c hc
  unfold Printable at hPrintable
  have hSize : c.utf8Size = 1 := by
    rw [Char.utf8Size_eq_one_iff, UInt32.le_iff_toNat_le]
    show c.toNat ≤ 127
    omega
  rw [String.utf8EncodeChar_eq_singleton hSize, List.mem_singleton] at hByte
  have hValue := congrArg UInt8.toNat hByte
  have hNat : c.val.toUInt8.toNat = c.toNat % 256 := rfl
  rw [hNat] at hValue
  have hTen : (10 : UInt8).toNat = 10 := rfl
  omega

/-! ## The texts tell rows apart -/

theorem int_chars (i : Int) : ∀ c ∈ (toString i).toList, c.isDigit = true ∨ c = '-' := by
  have hDigits : ∀ n : Nat, ∀ c ∈ Nat.toDigits 10 n, c.isDigit = true := fun n c hc =>
    Nat.isDigit_of_mem_toDigits (by decide) (by decide) hc
  intro c hc
  rw [Int.toString_eq_repr] at hc
  cases i with
  | ofNat n =>
      have hMem : c ∈ Nat.toDigits 10 n := by
        simpa [Int.repr, Nat.repr_eq_ofList_toDigits] using hc
      exact .inl (hDigits n c hMem)
  | negSucc n =>
      have hMem : c = '-' ∨ c ∈ Nat.toDigits 10 (n + 1) := by
        simpa [Int.repr, Nat.repr_eq_ofList_toDigits] using hc
      exact hMem.symm.imp (hDigits (n + 1) c) id

theorem numeric_int (i : Int) : ∀ c ∈ (toString i).toList, numeric c = true := by
  intro c hc
  unfold numeric
  rcases int_chars i c hc with hDigit | rfl
  · simp [Char.isAlphanum, hDigit]
  · rfl

def Scalar.IsStr : Scalar φ → Prop
  | str _ => True
  | _ => False

section Texts

variable {float : FloatJson φ}

/-- The texts of the values that are neither numbers nor strings. -/
theorem numeric_word {word : String} (h : word ∈ ["null", "true", "false"]) :
    ∀ c ∈ word.toList, numeric c = true := by
  have hAll : ["null", "true", "false"].all (fun word => word.toList.all numeric) = true := by
    decide
  exact List.all_eq_true.1 (List.all_eq_true.1 hAll word h)

theorem numeric_dumps {v : Scalar φ} (hv : ¬ v.IsStr) :
    ∀ c ∈ (v.dumps float).toList, numeric c = true := by
  cases v with
  | null => exact @numeric_word "null" (by simp)
  | bool b =>
      cases b with
      | true => exact @numeric_word "true" (by simp)
      | false => exact @numeric_word "false" (by simp)
  | int i => exact numeric_int i
  | float x => exact float.isNumeric x
  | str s => exact absurd trivial hv

theorem int_ne_word (i : Int) : toString i ∉ ["null", "true", "false"] := by
  intro hMem
  have hLetter : ["null", "true", "false"].all (fun word =>
      word.toList.any fun c => !c.isDigit && c != '-') = true := by
    decide
  obtain ⟨c, hc, hNot⟩ := List.any_eq_true.1 (List.all_eq_true.1 hLetter _ hMem)
  rcases int_chars i c hc with hDigit | rfl
  · rw [hDigit] at hNot
    cases hNot
  · cases hNot

theorem int_injective : Function.Injective (fun i : Int => toString i) := by
  intro i j h
  have hText : (toString i).toList ++ [] = (toString j).toList ++ [] := by
    rw [show toString i = toString j from h]
  have hEnd : Json.NoDigit [] := fun c hc => by cases hc
  exact (Json.int_append_inj hEnd hEnd hText).1

/-- What is no string is known from its text. -/
theorem dumps_inj {v w : Scalar φ} (hv : ¬ v.IsStr) (hw : ¬ w.IsStr)
    (h : v.dumps float = w.dumps float) : v = w := by
  have hFloat : ∀ x y, float.text x = float.text y → x = y := fun _ _ hSame =>
    float.injective hSame
  have hInt : ∀ i j : Int, toString i = toString j → i = j := fun _ _ hSame =>
    int_injective hSame
  have hFloatInt := float.notInt
  have hFloatWord := float.notWord
  have hIntWord := int_ne_word
  cases v <;> cases w <;> grind [Scalar.dumps, Scalar.IsStr]

/-- What follows a value begins with a comma or closes the row. -/
abbrev AfterValue (s : List Char) : Prop := Delimited.Ends ',' Json.closeBrace s

theorem AfterValue.head {s : List Char} (h : AfterValue s) :
    ∃ c t, s = c :: t ∧ numeric c = false ∧ c ≠ Json.quote := by
  cases s with
  | nil => rcases h with hNone | hNone <;> cases hNone
  | cons c t =>
      refine ⟨c, t, rfl, ?_⟩
      rcases h with hComma | hClose
      · obtain rfl : c = ',' := by simpa using hComma
        decide
      · obtain rfl : c = Json.closeBrace := by simpa using hClose
        decide

theorem takeWhile_dumps {v : Scalar φ} (hv : ¬ v.IsStr) {s : List Char} (hs : AfterValue s) :
    ((v.dumps float).toList ++ s).takeWhile numeric = (v.dumps float).toList := by
  obtain ⟨c, t, rfl, hc, _⟩ := hs.head
  rw [List.takeWhile_append_of_pos (numeric_dumps hv), List.takeWhile_cons, hc]
  simp

/-- A text does not begin like anything else. -/
theorem str_ne_dumps {v : Scalar φ} (hv : ¬ v.IsStr) (text : String) {s t : List Char}
    (ht : AfterValue t) : (asciiString text).toList ++ s ≠ (v.dumps float).toList ++ t := by
  intro h
  rw [toList_asciiString, List.cons_append] at h
  cases hText : (v.dumps float).toList with
  | nil =>
      obtain ⟨c, t', rfl, _, hQuote⟩ := ht.head
      rw [hText] at h
      exact hQuote (List.cons.inj h).1.symm
  | cons c cs =>
      have hMem : c ∈ (v.dumps float).toList := by simp [hText]
      have hNumeric := numeric_dumps hv c hMem
      rw [hText] at h
      rw [← (List.cons.inj h).1] at hNumeric
      exact absurd hNumeric (by decide)

/-- A value is read in one way up to the end of its column, whatever columns follow it. -/
theorem dumps_cut {v w : Scalar φ} {s t : List Char} (hs : AfterValue s) (ht : AfterValue t)
    (h : (v.dumps float).toList ++ s = (w.dumps float).toList ++ t) : v = w ∧ s = t := by
  by_cases hv : v.IsStr
  · obtain ⟨text, rfl⟩ : ∃ text, v = .str text := by
      cases v with
      | str text => exact ⟨text, rfl⟩
      | _ => exact absurd hv id
    by_cases hw : w.IsStr
    · obtain ⟨text', rfl⟩ : ∃ text', w = .str text' := by
        cases w with
        | str text' => exact ⟨text', rfl⟩
        | _ => exact absurd hw id
      have hCut := asciiString_cancel h
      exact ⟨by rw [hCut.1], hCut.2⟩
    · exact absurd h (str_ne_dumps hw text ht)
  · by_cases hw : w.IsStr
    · obtain ⟨text', rfl⟩ : ∃ text', w = .str text' := by
        cases w with
        | str text' => exact ⟨text', rfl⟩
        | _ => exact absurd hw id
      exact absurd h.symm (str_ne_dumps hv text' hs)
    · have hTexts := congrArg (List.takeWhile numeric) h
      rw [takeWhile_dumps hv hs, takeWhile_dumps hw ht] at hTexts
      rw [hTexts] at h
      exact ⟨dumps_inj hv hw (String.toList_inj.1 hTexts), List.append_cancel_left h⟩

theorem columnText_cut (f g : String × Scalar φ) (s t : List Char) (hs : AfterValue s)
    (ht : AfterValue t)
    (h : (columnText float f).toList ++ s = (columnText float g).toList ++ t) :
    f = g ∧ s = t := by
  have hColon : ":".toList = [':'] := by decide
  simp only [columnText, String.toList_append, List.append_assoc, hColon, List.cons_append,
    List.nil_append] at h
  have hName := asciiString_cancel h
  have hValue := dumps_cut hs ht (List.cons.inj hName.2).2
  exact ⟨Prod.ext hName.1 hValue.1, hValue.2⟩

/-- A row's text: its columns between commas, in braces. -/
theorem toList_rowText (row : DrillRow φ) :
    (rowText float row).toList = Json.openBrace ::
      Delimited.closedItems (fun f => (columnText float f).toList) ',' [] Json.closeBrace
        (Bag.sortOn Prod.fst row.columns) := by
  have hOpen : "\x7b".toList = [Json.openBrace] := by decide
  have hClose : "\x7d".toList = [Json.closeBrace] := by decide
  have hComma : ",".toList = [','] := by decide
  unfold rowText
  rw [String.toList_append, String.toList_append, String.toList_intercalate, List.map_map,
    hOpen, hClose, hComma, ← Delimited.intercalate_closed]
  rfl

/-- Rows have the same text exactly when they have the same columns with the same values. -/
theorem rowText_eq_iff {row row' : DrillRow φ} :
    rowText float row = rowText float row' ↔ row.value = row'.value := by
  constructor
  · intro h
    have hText := congrArg String.toList h
    rw [toList_rowText, toList_rowText] at hText
    have hOpen : ∀ (f : String × Scalar φ) (s : List Char),
        (columnText float f).toList ++ s ≠ [Json.closeBrace] := by
      intro f s hSame
      simp only [columnText, String.toList_append, toList_asciiString, List.cons_append] at hSame
      exact absurd (List.cons.inj hSame).1 (by decide)
    have hSorted := Delimited.closedItems_injective columnText_cut (by decide) hOpen
      (List.cons.inj hText).2
    funext column
    exact Dict.get?_perm row.unique (Bag.perm_of_sortOn_eq hSorted) column
  · intro h
    have hPerm : row.columns.Perm row'.columns := by
      rw [List.perm_ext_iff_of_nodup (List.Nodup.of_map _ row.unique)
        (List.Nodup.of_map _ row'.unique)]
      intro f
      have hSame := congrFun h f.1
      unfold DrillRow.value at hSame
      rw [← Dict.get?_eq_some_iff row.unique, ← Dict.get?_eq_some_iff row'.unique, hSame]
    have hKey : ∀ f ∈ row.columns, ∀ g ∈ row'.columns, f.1 = g.1 → f = g := by
      intro f hf g hg hName
      exact List.inj_on_of_nodup_map row.unique hf (hPerm.mem_iff.2 hg) hName
    unfold rowText
    rw [Bag.sortOn_eq_of_perm hKey hPerm]

theorem printable_dumps (v : Scalar φ) : ∀ c ∈ (v.dumps float).toList, Printable c := by
  by_cases hv : v.IsStr
  · cases v with
    | str text => exact printable_asciiString text
    | _ => exact absurd hv id
  · intro c hc
    exact printable_of_numeric (numeric_dumps hv c hc)

theorem printable_rowText (row : DrillRow φ) : ∀ c ∈ (rowText float row).toList, Printable c := by
  have hMarks : Printable Json.openBrace ∧ Printable Json.closeBrace ∧ Printable ',' ∧
      Printable ':' := by
    unfold Printable
    decide
  have hColumn : ∀ f : String × Scalar φ, ∀ c ∈ (columnText float f).toList, Printable c := by
    intro f c hc
    have hColon : ":".toList = [':'] := by decide
    simp only [columnText, String.toList_append, List.mem_append, hColon,
      List.mem_singleton] at hc
    rcases hc with (hName | rfl) | hValue
    · exact printable_asciiString f.1 c hName
    · exact hMarks.2.2.2
    · exact printable_dumps f.2 c hValue
  intro c hc
  rw [toList_rowText] at hc
  rcases List.mem_cons.1 hc with rfl | hRest
  · exact hMarks.1
  · rcases Delimited.mem_closedItems hRest with hSep | rfl | ⟨f, _, hf⟩
    · rw [List.mem_singleton.1 hSep]
      exact hMarks.2.2.1
    · exact hMarks.2.1
    · exact hColumn f c hf

theorem newline_notMem_row (row : DrillRow φ) : 10 ∉ canonicalRowBytes float row :=
  newline_notMem_utf8 (printable_rowText row)

end Texts

/-! ## Snapshots compare as bags of rows -/

theorem byteValues_injective : Function.Injective byteValues :=
  List.map_injective_iff.2 fun _ _ h => UInt8.toNat_inj.1 h

section Compare

variable {sha256Hex : Bytes → String} {float : FloatJson φ}

/-- Two lists of rows have one digest exactly when they are the same bag of rows. -/
theorem checksum_eq_iff (hSha : Function.Injective sha256Hex) {rows rows' : List (DrillRow φ)} :
    sha256HexOfSortedRows sha256Hex float rows = sha256HexOfSortedRows sha256Hex float rows' ↔
      (rows.map DrillRow.value).Perm (rows'.map DrillRow.value) := by
  have hText : ∀ row row' : DrillRow φ,
      canonicalRowBytes float row = canonicalRowBytes float row' ↔ row.value = row'.value := by
    intro row row'
    rw [← @rowText_eq_iff _ float]
    exact utf8_injective.eq_iff
  have hWritten : Bag.written byteValues 10 (rows.map (canonicalRowBytes float)) =
      Bag.written byteValues 10 (rows'.map (canonicalRowBytes float)) ↔
        (rows.map DrillRow.value).Perm (rows'.map DrillRow.value) :=
    Bag.written_map_eq_iff byteValues_injective newline_notMem_row hText
  exact hSha.eq_iff.trans hWritten

/-- The same rows, whatever their order, or no table in either state. -/
def SameTable : Option (List (DrillRow φ)) → Option (List (DrillRow φ)) → Prop
  | none, none => True
  | some rows, some rows' => (rows.map DrillRow.value).Perm (rows'.map DrillRow.value)
  | _, _ => False

/-- The snapshots of a table agree exactly when the tables do, as rows in whatever order: the
checksum is over the sorted texts of the rows. -/
theorem snapshotTable_agree (hSha : Function.Injective sha256Hex) (db db' : DrillTables φ)
    (t : String) :
    ((snapshotTable sha256Hex float db t).rowCount =
        (snapshotTable sha256Hex float db' t).rowCount ∧
      (snapshotTable sha256Hex float db t).rowChecksum =
        (snapshotTable sha256Hex float db' t).rowChecksum) ↔ SameTable (db t) (db' t) := by
  unfold snapshotTable
  cases hRows : db t with
  | none =>
      cases hRows' : db' t with
      | none => simp [SameTable]
      | some rows' =>
          have hCount : (-1 : Int) ≠ (rows'.length : Int) := by omega
          simp [SameTable, hCount]
  | some rows =>
      cases hRows' : db' t with
      | none =>
          have hCount : (rows.length : Int) ≠ -1 := by omega
          simp [SameTable, hCount]
      | some rows' =>
          show (rows.length : Int) = rows'.length ∧ _ = _ ↔ _
          rw [checksum_eq_iff hSha]
          constructor
          · intro h
            exact h.2
          · intro hPerm
            have hLength : rows.length = rows'.length := by simpa using hPerm.length_eq
            exact ⟨by rw [hLength], hPerm⟩

theorem snapshot_item (db : DrillTables φ) {tables : List String} {t : String}
    (ht : t ∈ tables) :
    (snapshotW3Tables sha256Hex float db tables).item t =
      .ok (snapshotTable sha256Hex float db t) := by
  unfold W3Snapshot.item snapshotW3Tables
  rw [Dict.get?_foldl_set_keys, if_pos ht]

theorem snapshot_names (db db' : DrillTables φ) (tables : List String) :
    (snapshotW3Tables sha256Hex float db tables).names =
      (snapshotW3Tables sha256Hex float db' tables).names :=
  Dict.map_fst_foldl_set id _ _ tables

theorem mem_snapshot_names {db : DrillTables φ} {tables : List String} {t : String} :
    t ∈ (snapshotW3Tables sha256Hex float db tables).names ↔ t ∈ tables := by
  have hNone := Dict.get?_eq_none_iff (d := (snapshotW3Tables sha256Hex float db tables).tables)
    (k := t)
  unfold snapshotW3Tables at hNone
  rw [Dict.get?_foldl_set_keys] at hNone
  unfold W3Snapshot.names snapshotW3Tables
  by_cases ht : t ∈ tables
  · simpa [ht] using hNone
  · simpa [ht] using hNone

theorem forM_ok_iff {ε α : Type} {f : α → Except ε Unit} {l : List α} :
    l.forM f = .ok () ↔ ∀ x ∈ l, f x = .ok () := by
  induction l with
  | nil => simp [pure, Except.pure]
  | cons x l ih =>
      show (f x >>= fun _ => l.forM f) = .ok () ↔ _
      cases hx : f x with
      | error e => simp [bind, Except.bind, hx]
      | ok u =>
          show l.forM f = .ok () ↔ _
          rw [ih, List.forall_mem_cons, hx]
          simp

theorem compareTable_ok_iff (hSha : Function.Injective sha256Hex) {db db' : DrillTables φ}
    {tables : List String} {t : String} (ht : t ∈ tables) :
    compareTable (snapshotW3Tables sha256Hex float db tables)
        (snapshotW3Tables sha256Hex float db' tables) t = .ok () ↔
      SameTable (db t) (db' t) := by
  unfold compareTable
  rw [snapshot_item db ht, snapshot_item db' ht, ← @snapshotTable_agree _ _ float hSha]
  generalize snapshotTable sha256Hex float db t = pre
  generalize snapshotTable sha256Hex float db' t = post
  show (if pre.rowCount ≠ post.rowCount then _ else
    if pre.rowChecksum ≠ post.rowChecksum then _ else Except.ok ()) = Except.ok () ↔ _
  by_cases hCount : pre.rowCount = post.rowCount
  · by_cases hChecksum : pre.rowChecksum = post.rowChecksum
    · simp [hCount, hChecksum]
    · simp [hCount, hChecksum]
  · simp [hCount]

/-- **The fire drill compares bags of rows**: two snapshots compare equal exactly when each
protected table has the same rows in both states as often as in the other, in whatever
order they are returned, or is missing in both. -/
theorem firedrill_compares_bags (hSha : Function.Injective sha256Hex) (float : FloatJson φ)
    (db db' : DrillTables φ) :
    compareW3TablesByteIdentity (snapshotW3Tables sha256Hex float db)
        (snapshotW3Tables sha256Hex float db') = .ok () ↔
      ∀ t ∈ w3ProtectedTables, SameTable (db t) (db' t) := by
  unfold compareW3TablesByteIdentity
  rw [if_neg (not_not.2 (snapshot_names db db' w3ProtectedTables)), forM_ok_iff]
  constructor
  · intro h t ht
    exact (compareTable_ok_iff hSha ht).1 (h t (mem_snapshot_names.2 ht))
  · intro h t ht
    have hMem : t ∈ w3ProtectedTables := mem_snapshot_names.1 ht
    exact (compareTable_ok_iff hSha hMem).2 (h t hMem)

end Compare

namespace Sample

theorem dot_mem_half (n : Nat) : '.' ∈ (toString (n : Int) ++ ".5").toList := by
  have hDot : '.' ∈ ".5".toList := by decide
  rw [String.toList_append]
  exact List.mem_append_right _ hDot

/-- Floats that are halves of odd numbers, as `json.dumps` writes them: the digits of an
integer and then `.5`, which is numeric and neither an integer nor a word. -/
def halves : FloatJson Nat where
  text n := toString (n : Int) ++ ".5"
  injective := by
    intro m n h
    have hInt : toString (m : Int) = toString (n : Int) := (String.append_left_inj ".5").1 h
    exact Int.ofNat.inj (int_injective hInt)
  isNumeric := by
    intro n c hc
    have hHalf : ".5".toList.all numeric = true := by decide
    rw [String.toList_append] at hc
    rcases List.mem_append.1 hc with hInt | hRest
    · exact numeric_int n c hInt
    · exact List.all_eq_true.1 hHalf c hRest
  notInt := by
    intro n i h
    have hDot := dot_mem_half n
    rw [h] at hDot
    exact absurd (int_chars i '.' hDot) (by decide)
  notWord := by
    intro n hMem
    have hWords : ∀ word ∈ ["null", "true", "false"], '.' ∉ word.toList := by decide
    exact hWords _ hMem (dot_mem_half n)

/-- A digest that is the text itself. -/
def wholeText (data : Bytes) : String := String.ofList (data.map fun b => Char.ofNat b.toNat)

theorem wholeText_injective : Function.Injective wholeText := by
  have hByte : Function.Injective fun b : UInt8 => Char.ofNat b.toNat := by
    intro b b' h
    have hValid : ∀ b : UInt8, (Char.ofNat b.toNat).toNat = b.toNat := by
      intro b
      have hLt := b.toNat_lt
      have hValid : b.toNat.isValidChar := .inl (by omega)
      rw [Char.ofNat, dif_pos hValid]
      rfl
    have hSame := congrArg Char.toNat h
    rw [hValid, hValid] at hSame
    exact UInt8.toNat_inj.1 hSame
  intro data data' h
  exact List.map_injective_iff.2 hByte (String.ofList_injective h)

/-- A row of an agent with its score. -/
def scored (agent : String) (score : Nat) : DrillRow Nat where
  columns := [("agent_id", .str agent), ("score", .float score)]
  unique := by simp

/-- The row with its columns in the other order. -/
def turned (agent : String) (score : Nat) : DrillRow Nat where
  columns := [("score", .float score), ("agent_id", .str agent)]
  unique := by simp

theorem turned_value (agent : String) (score : Nat) :
    (turned agent score).value = (scored agent score).value := by
  funext column
  exact Dict.get?_perm (turned agent score).unique (List.Perm.swap _ _ _) column

/-- A state in which every protected table holds the same rows. -/
def filled (rows : List (DrillRow Nat)) : DrillTables Nat := fun _ => some rows

end Sample

theorem firedrill_compares_bags_sample :
    Function.Injective Sample.wholeText ∧
    compareW3TablesByteIdentity
      (snapshotW3Tables Sample.wholeText Sample.halves
        (Sample.filled [Sample.scored "a1" 1, Sample.scored "a2" 2]))
      (snapshotW3Tables Sample.wholeText Sample.halves
        (Sample.filled [Sample.turned "a2" 2, Sample.scored "a1" 1])) = .ok () := by
  constructor
  · exact Sample.wholeText_injective
  · apply (firedrill_compares_bags Sample.wholeText_injective Sample.halves _ _).2
    intro t _
    show List.Perm [_, _] [_, _]
    rw [Sample.turned_value]
    exact List.Perm.swap _ _ _

end AgentShield.Auth
