import Mathlib.Data.List.Basic
import AgentShield.Lib.Dict
import AgentShield.Sdk.Base64url
import AgentShield.Sdk.JsonText

/-!
# Reading JSON

`json.loads` on bytes: the encoding is found from the first bytes, and the text is one value
between spaces.  A text with a surrogate that has no partner is no `String` here, and is not
read.  What a float's digits mean is left open, and so is the interpreter's limit on the digits
of an integer.
-/

namespace AgentShield.Sdk

open AgentShield.Lib

/-! ## Encodings -/

/-- Two bytes to a unit, or four. -/
def units16 (bigEndian : Bool) : Bytes → Option (List Nat)
  | [] => some []
  | a :: b :: rest =>
      (units16 bigEndian rest).map fun units =>
        (if bigEndian then a.toNat * 256 + b.toNat else b.toNat * 256 + a.toNat) :: units
  | _ => none

def units32 (bigEndian : Bool) : Bytes → Option (List Nat)
  | [] => some []
  | a :: b :: c :: d :: rest =>
      (units32 bigEndian rest).map fun units =>
        (if bigEndian then ((a.toNat * 256 + b.toNat) * 256 + c.toNat) * 256 + d.toNat
          else ((d.toNat * 256 + c.toNat) * 256 + b.toNat) * 256 + a.toNat) :: units
  | _ => none

/-- The character of a code point that is no surrogate. -/
def charOf? (n : Nat) : Option Char := if n.isValidChar then some (Char.ofNat n) else none

/-- The character of a surrogate pair. -/
def pairOf? (high low : Nat) : Option Char :=
  if 0xD800 ≤ high ∧ high < 0xDC00 ∧ 0xDC00 ≤ low ∧ low < 0xE000 then
    charOf? (0x10000 + (high - 0xD800) * 0x400 + (low - 0xDC00))
  else none

def decodeUtf16 : List Nat → Option (List Char)
  | [] => some []
  | [u] => (charOf? u).map ([·])
  | u :: v :: rest =>
      match charOf? u with
      | some c => (decodeUtf16 (v :: rest)).map (c :: ·)
      | none =>
          match pairOf? u v with
          | some c => (decodeUtf16 rest).map (c :: ·)
          | none => none

def decodeUtf32 (units : List Nat) : Option (List Char) := units.mapM charOf?

def decodeUtf8 (data : Bytes) : Option (List Char) :=
  (String.fromUTF8? ⟨data.toArray⟩).map String.toList

def decodeUtf16Bytes (bigEndian : Bool) (data : Bytes) : Option (List Char) :=
  (units16 bigEndian data).bind decodeUtf16

def decodeUtf32Bytes (bigEndian : Bool) (data : Bytes) : Option (List Char) :=
  (units32 bigEndian data).bind decodeUtf32

/-- The text of a document: a byte order mark names its encoding, and otherwise the zeros
among its first bytes. -/
def decodeText (data : Bytes) : Option (List Char) :=
  match data with
  | 0x00 :: 0x00 :: 0xFE :: 0xFF :: rest => decodeUtf32Bytes true rest
  | 0xFF :: 0xFE :: 0x00 :: 0x00 :: rest => decodeUtf32Bytes false rest
  | 0xFE :: 0xFF :: rest => decodeUtf16Bytes true rest
  | 0xFF :: 0xFE :: rest => decodeUtf16Bytes false rest
  | 0xEF :: 0xBB :: 0xBF :: rest => decodeUtf8 rest
  | a :: b :: c :: d :: _ =>
      if a = 0 then
        if b = 0 then decodeUtf32Bytes true data else decodeUtf16Bytes true data
      else if b = 0 then
        if c = 0 ∧ d = 0 then decodeUtf32Bytes false data else decodeUtf16Bytes false data
      else decodeUtf8 data
  | [a, b] =>
      if a = 0 then decodeUtf16Bytes true data
      else if b = 0 then decodeUtf16Bytes false data
      else decodeUtf8 data
  | _ => decodeUtf8 data

theorem decodeUtf8_utf8 (s : String) : decodeUtf8 (utf8 s) = some s.toList := by
  have hBytes : (⟨(utf8 s).toArray⟩ : ByteArray) = s.toByteArray := by simp [utf8]
  have hValid : s.toByteArray.IsValidUTF8 := s.isValidUTF8
  unfold decodeUtf8 String.fromUTF8?
  rw [hBytes, dif_pos hValid]
  rfl

/-- A document that opens an object with a member is found to be in UTF-8. -/
theorem decodeText_object (data : Bytes) :
    decodeText (0x7B :: 0x22 :: data) = decodeUtf8 (0x7B :: 0x22 :: data) := by
  match data with
  | [] => rfl
  | [_] => rfl
  | _ :: _ :: _ => rfl

/-! ## Strings -/

namespace Json

def isHex (c : Char) : Bool := c.isDigit || ('a' ≤ c && c ≤ 'f') || ('A' ≤ c && c ≤ 'F')

/-- The value of a hexadecimal digit in either case. -/
def hexDigitValue (c : Char) : Nat :=
  if c.isDigit then c.toNat - 48 else if 'a' ≤ c then c.toNat - 87 else c.toNat - 55

/-- The value of four hexadecimal digits, and the rest. -/
def hex4? : List Char → Option (Nat × List Char)
  | a :: b :: c :: d :: rest =>
      if isHex a && isHex b && isHex c && isHex d then
        some (((hexDigitValue a * 16 + hexDigitValue b) * 16 + hexDigitValue c) * 16 +
          hexDigitValue d, rest)
      else none
  | _ => none

/-- What a backslash and a letter stand for.  A `u` has digits after it and is read elsewhere.
-/
def shortEscape? (c : Char) : Option Char :=
  if c = quote ∨ c = '\\' ∨ c = '/' then some c
  else if c = 'b' then some (Char.ofNat 8)
  else if c = 'f' then some (Char.ofNat 12)
  else if c = 'n' then some (Char.ofNat 10)
  else if c = 'r' then some (Char.ofNat 13)
  else if c = 't' then some (Char.ofNat 9)
  else none

/-- A backslash and `u` at the front. -/
def unicodeMark : List Char → Option (List Char)
  | '\\' :: 'u' :: rest => some rest
  | _ => none

/-- The character of four digits, or of two times four, which are the halves of a surrogate
pair.  A half alone is no character. -/
def unicodeEscape? (cs : List Char) : Option (Char × List Char) := do
  let (u, rest) ← hex4? cs
  match charOf? u with
  | some c => return (c, rest)
  | none => do
      let rest ← unicodeMark rest
      let (v, rest) ← hex4? rest
      let c ← pairOf? u v
      return (c, rest)

/-- The character of an escape after its backslash, and the rest. -/
def escape? : List Char → Option (Char × List Char)
  | [] => none
  | c :: cs => if c = 'u' then unicodeEscape? cs else (shortEscape? c).map fun ch => (ch, cs)

/-- A string after its opening quote, of fewer than `fuel` characters, and what follows the
closing one. -/
def stringChars : Nat → List Char → Option (List Char × List Char)
  | 0, _ => none
  | _ + 1, [] => none
  | fuel + 1, c :: cs =>
      if c = quote then some ([], cs)
      else if c = '\\' then
        (escape? cs).bind fun e => (stringChars fuel e.2).map fun r => (e.1 :: r.1, r.2)
      else if c.toNat < 32 then none
      else (stringChars fuel cs).map fun r => (c :: r.1, r.2)

def stringBody (cs : List Char) : Option (List Char × List Char) := stringChars (cs.length + 1) cs

/-! ## Numbers -/

section Numbers

variable (readFloat : List Char → PyFloat)

/-- The digits at the front, and the rest. -/
def digits (cs : List Char) : List Char × List Char :=
  (cs.takeWhile Char.isDigit, cs.dropWhile Char.isDigit)

/-- A number without its sign, in digits that do not begin with a needless zero. -/
def integerPart : List Char → Option (List Char × List Char)
  | [] => none
  | c :: cs =>
      if c = '0' then some (['0'], cs)
      else if c.isDigit then some (digits (c :: cs))
      else none

def fraction : List Char → List Char × List Char
  | '.' :: cs =>
      if (digits cs).1 = [] then ([], '.' :: cs) else ('.' :: (digits cs).1, (digits cs).2)
  | cs => ([], cs)

def sign : List Char → List Char × List Char
  | '+' :: cs => (['+'], cs)
  | '-' :: cs => (['-'], cs)
  | cs => ([], cs)

def exponent : List Char → List Char × List Char
  | [] => ([], [])
  | c :: cs =>
      if c = 'e' ∨ c = 'E' then
        let (s, rest) := sign cs
        if (digits rest).1 = [] then ([], c :: cs)
        else (c :: (s ++ (digits rest).1), (digits rest).2)
      else ([], c :: cs)

/-- A number after the sign that it has.  Without a fraction and an exponent it is an integer
of any size, and otherwise a float. -/
def unsigned (negative : Bool) (cs : List Char) : Option (Json × List Char) := do
  let (whole, rest) ← integerPart cs
  let (frac, rest) := fraction rest
  let (exp, rest) := exponent rest
  let magnitude := Nat.ofDigitChars 10 whole 0
  if frac = [] ∧ exp = [] then
    return (.int (if negative then -(magnitude : Int) else magnitude), rest)
  else
    return (.float (readFloat ((if negative then ['-'] else []) ++ whole ++ frac ++ exp)), rest)

/-- The rest after a word. -/
def word (w cs : List Char) : Option (List Char) :=
  if w.isPrefixOf cs then some (cs.drop w.length) else none

def number : List Char → Option (Json × List Char)
  | '-' :: cs =>
      match word "Infinity".toList cs with
      | some rest => some (.float .negInf, rest)
      | none => unsigned readFloat true cs
  | cs => unsigned readFloat false cs

/-! ## Values -/

def isSpaceChar (c : Char) : Bool := c = ' ' || c = '\t' || c = '\n' || c = '\r'

def skipSpace (cs : List Char) : List Char := cs.dropWhile isSpaceChar

/-- The rest after one character. -/
def expect (c : Char) : List Char → Option (List Char)
  | [] => none
  | d :: cs => if d = c then some cs else none

def openBrace : Char := Char.ofNat 123

/-- The words that stand for a value. -/
def constants : List (List Char × Json) :=
  [("null".toList, .null), ("true".toList, .bool true), ("false".toList, .bool false),
   ("NaN".toList, .float .nan), ("Infinity".toList, .float .inf)]

def constant (cs : List Char) : Option (Json × List Char) :=
  constants.findSome? fun p => (word p.1 cs).map fun rest => (p.2, rest)

/-- The entries of an object; of two with one name the last counts. -/
def ofPairs (pairs : List (String × Json)) : Json :=
  .obj (pairs.foldl (fun d p => Dict.set d p.1 p.2) [])

mutual

/-- The value at the front of a text, and the rest.  The fuel is the depth that is still
allowed; a text is never deeper than it is long. -/
def value : Nat → List Char → Option (Json × List Char)
  | 0, _ => none
  | _ + 1, [] => none
  | fuel + 1, c :: cs =>
      if c = quote then (stringBody cs).map fun r => (.str (String.ofList r.1), r.2)
      else if c = openBrace then
        match expect closeBrace (skipSpace cs) with
        | some rest => some (.obj [], rest)
        | none => (members fuel (skipSpace cs)).map fun r => (ofPairs r.1, r.2)
      else if c = '[' then
        match expect ']' (skipSpace cs) with
        | some rest => some (.arr [], rest)
        | none => (items fuel (skipSpace cs)).map fun r => (.arr r.1, r.2)
      else
        match constant (c :: cs) with
        | some r => some r
        | none => number readFloat (c :: cs)

/-- The members of an object up to its brace, each with its name, in the order of the text; a
name may come twice. -/
def members : Nat → List Char → Option (List (String × Json) × List Char)
  | 0, _ => none
  | fuel + 1, cs => do
      let cs ← expect quote cs
      let (name, cs) ← stringBody cs
      let cs ← expect ':' (skipSpace cs)
      let (v, cs) ← value fuel (skipSpace cs)
      match expect ',' (skipSpace cs) with
      | some cs => do
          let (more, cs) ← members fuel (skipSpace cs)
          return ((String.ofList name, v) :: more, cs)
      | none => do
          let cs ← expect closeBrace (skipSpace cs)
          return ([(String.ofList name, v)], cs)

/-- The items of an array up to its bracket, one at least: an empty array ends before it comes
to this. -/
def items : Nat → List Char → Option (List Json × List Char)
  | 0, _ => none
  | fuel + 1, cs => do
      let (v, cs) ← value fuel cs
      match expect ',' (skipSpace cs) with
      | some cs => do
          let (more, cs) ← items fuel (skipSpace cs)
          return (v :: more, cs)
      | none => do
          let cs ← expect ']' (skipSpace cs)
          return ([v], cs)

end

/-- `json.loads` of a text.  No value is nested deeper than its text is long. -/
def loadsText (cs : List Char) : Option Json := do
  let (v, rest) ← value readFloat (cs.length + 1) (skipSpace cs)
  if skipSpace rest = [] then some v else none

/-- `json.loads` of bytes. -/
def loads (data : Bytes) : Option Json := (decodeText data).bind (loadsText readFloat)

end Numbers

end Json

end AgentShield.Sdk
