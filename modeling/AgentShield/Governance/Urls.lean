import AgentShield.Governance.Python
import AgentShield.Lib.Regex

/-!
# URLs as the runtime parses them

`urllib.parse.urlparse` as far as the scheme and the host name go, and `int` of a text.  What
needs the tables of Unicode or the grammar of IPv6 is a parameter (`UrlText`).
-/

namespace AgentShield.Governance

open AgentShield.Lib AgentShield.Sdk

/-- The text functions that parsing calls.  `netlocRefused` is a network location with
brackets around something else than an IPv6 address, or with a delimiter once it is
normalized; `conversionError` is the message of a failed `int` or `float`. -/
structure UrlText extends PyText where
  lower : String → String
  netlocRefused : String → Bool
  decimal : Char → Option Nat
  conversionError : Json → String
  decimal_ascii : ∀ c, Regex.inRange '0' '9' c = true → decimal c = some (c.toNat - 48)
  ascii_notSpace : ∀ c, Regex.inRange '0' '9' c = true → isSpace c = false

/-! ## Texts -/

/-- `s.partition(c)` where the text in front is kept whole without a separator. -/
def partitionAt (c : Char) (s : List Char) : List Char × Option (List Char) :=
  (s.takeWhile (· ≠ c), (s.dropWhile (· ≠ c)).tail?)

/-- `s.rpartition(c)[2]`. -/
def afterLast (c : Char) (s : List Char) : List Char := (s.reverse.takeWhile (· ≠ c)).reverse

section Numbers

variable (text : UrlText)

def stripped (s : List Char) : List Char :=
  ((s.dropWhile text.isSpace).reverse.dropWhile text.isSpace).reverse

/-- Digits after a first one, with single underscores between them. -/
def decimalTail (n : Nat) : List Char → Option Nat
  | [] => some n
  | '_' :: c :: cs => (text.decimal c).bind fun d => decimalTail (10 * n + d) cs
  | c :: cs => (text.decimal c).bind fun d => decimalTail (10 * n + d) cs

def decimalValue : List Char → Option Nat
  | [] => none
  | c :: cs => (text.decimal c).bind fun d => decimalTail text d cs

/-- `int(s)`, which fails on a text that is no integer. -/
def intOfText (s : List Char) : Option Int :=
  match stripped text s with
  | '-' :: ds => (decimalValue text ds).map fun n => -(n : Int)
  | '+' :: ds => (decimalValue text ds).map fun n => (n : Int)
  | ds => (decimalValue text ds).map fun n => (n : Int)

end Numbers

/-! ## `urlparse` -/

structure ParsedUrl where
  scheme : String
  netloc : List Char
  deriving DecidableEq

def schemeChar (c : Char) : Bool :=
  Regex.inRange 'a' 'z' c || Regex.inRange 'A' 'Z' c || Regex.inRange '0' '9' c ||
    c == '+' || c == '-' || c == '.'

def asciiLower (c : Char) : Char :=
  if Regex.inRange 'A' 'Z' c then Char.ofNat (c.toNat + 32) else c

/-- The scheme and what follows its colon.  What stands in front of the colon is a scheme only
if it begins with a letter and has no other characters than a scheme may have. -/
def splitScheme (url : List Char) : String × List Char :=
  match partitionAt ':' url with
  | (front, some rest) =>
      if (front.head?.any fun c => Regex.inRange 'a' 'z' c || Regex.inRange 'A' 'Z' c) &&
          front.all schemeChar then
        (String.ofList (front.map asciiLower), rest)
      else ("", url)
  | (_, none) => ("", url)

section Urls

variable (text : UrlText)

/-- The leading blanks and control characters, and all tabs and line ends, are no part of a
URL.  A network location with unmatched brackets raises. -/
def urlparse (url : String) : Except PyError ParsedUrl :=
  let cleaned := (url.toList.dropWhile fun c => c.toNat ≤ 32).filter fun c =>
    c ≠ '\t' ∧ c ≠ '\r' ∧ c ≠ '\n'
  let (scheme, rest) := splitScheme cleaned
  match rest with
  | '/' :: '/' :: location =>
      let netloc := location.takeWhile fun c => c ≠ '/' ∧ c ≠ '?' ∧ c ≠ '#'
      if netloc.contains '[' ≠ netloc.contains ']' ∨ text.netlocRefused (String.ofList netloc) then
        .error .valueError
      else .ok ⟨scheme, netloc⟩
  | _ => .ok ⟨scheme, []⟩

/-- The host without the user and the port; only what stands before a zone is lowered. -/
def ParsedUrl.hostname (parsed : ParsedUrl) : Option String :=
  let hostinfo := afterLast '@' parsed.netloc
  let host :=
    match partitionAt '[' hostinfo with
    | (_, some bracketed) => (partitionAt ']' bracketed).1
    | (_, none) => (partitionAt ':' hostinfo).1
  if host = [] then none
  else
    match partitionAt '%' host with
    | (name, some zone) =>
        some (text.lower (String.ofList name) ++ String.ofList ('%' :: zone))
    | (name, none) => some (text.lower (String.ofList name))

end Urls

end AgentShield.Governance
