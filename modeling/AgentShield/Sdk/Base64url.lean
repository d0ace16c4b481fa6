import Mathlib.Data.List.Basic
import AgentShield.Sdk.Crypto

/-!
# base64url

The texts of byte strings in the URL-safe alphabet without padding, and the decoder,
which reads both alphabets, skips what is in neither and supplies missing padding.
-/

namespace AgentShield.Sdk

abbrev Bytes := List UInt8

/-- The UTF-8 bytes of a text. -/
def utf8 (s : String) : Bytes := s.toUTF8.data.toList

theorem utf8_injective : Function.Injective utf8 := by
  intro s s' h
  unfold utf8 at h
  exact String.toByteArray_inj.1 (ByteArray.ext (Array.toList_inj.1 h))

theorem utf8_append (s t : String) : utf8 (s ++ t) = utf8 s ++ utf8 t := by
  simp [utf8, String.toByteArray_append]

/-! ## Encoding -/

/-- The character of a value below 64. -/
def sextetChar (n : Nat) : Char :=
  if n < 26 then Char.ofNat (65 + n)
  else if n < 52 then Char.ofNat (71 + n)
  else if n < 62 then Char.ofNat (n - 4)
  else if n = 62 then '-'
  else '_'

/-- The values of three bytes, or of the one or two that are left at the end. -/
def sextets : Bytes → List Nat
  | [] => []
  | [a] => [a.toNat / 4, a.toNat % 4 * 16]
  | [a, b] => [a.toNat / 4, a.toNat % 4 * 16 + b.toNat / 16, b.toNat % 16 * 4]
  | a :: b :: c :: rest =>
      a.toNat / 4 :: (a.toNat % 4 * 16 + b.toNat / 16) :: (b.toNat % 16 * 4 + c.toNat / 64) ::
        c.toNat % 64 :: sextets rest

def base64urlEncode (data : Bytes) : String := String.ofList ((sextets data).map sextetChar)

/-! ## Decoding -/

/-- The value of a character of either alphabet.  A character of neither has no value, and the
decoder passes over it. -/
def sextet? (c : Char) : Option Nat :=
  let n := c.toNat
  if 65 ≤ n ∧ n ≤ 90 then some (n - 65)
  else if 97 ≤ n ∧ n ≤ 122 then some (n - 71)
  else if 48 ≤ n ∧ n ≤ 57 then some (n + 4)
  else if c = '-' ∨ c = '+' then some 62
  else if c = '_' ∨ c = '/' then some 63
  else none

/-- The bytes of a padded text.  `quadPos` characters of the current four were read,
`leftBits` are their bits that are in no byte yet, and `pads` counts the padding that
was seen since; enough padding ends the text. -/
def a2bBase64 (quadPos leftBits pads : Nat) : List Char → Option Bytes
  | [] => if quadPos = 0 then some [] else none
  | c :: cs =>
      if c = '=' then
        if 2 ≤ quadPos then
          if 4 ≤ quadPos + (pads + 1) then some []
          else a2bBase64 quadPos leftBits (pads + 1) cs
        else a2bBase64 quadPos leftBits pads cs
      else
        match sextet? c with
        | none => a2bBase64 quadPos leftBits pads cs
        | some v =>
            match quadPos with
            | 0 => a2bBase64 1 v 0 cs
            | 1 => (a2bBase64 2 (v % 16) 0 cs).map (UInt8.ofNat (leftBits * 4 + v / 16) :: ·)
            | 2 => (a2bBase64 3 (v % 4) 0 cs).map (UInt8.ofNat (leftBits * 16 + v / 4) :: ·)
            | _ => (a2bBase64 0 0 0 cs).map (UInt8.ofNat (leftBits * 64 + v) :: ·)

/-- The bytes of a text with or without padding, unless it cannot be decoded. -/
def base64urlDecode (s : String) : Option Bytes :=
  if s.toList.all (·.toNat < 128) then
    let padding := 4 - s.length % 4
    a2bBase64 0 0 0 (s.toList ++ if padding = 4 then [] else List.replicate padding '=')
  else none

example : base64urlDecode (base64urlEncode [0, 255, 62, 63, 7]) = some [0, 255, 62, 63, 7] := by
  decide +kernel

/-! ## Round trip -/

private theorem sextetChar_small : ∀ v < 64, sextet? (sextetChar v) = some v ∧
    sextetChar v ≠ '=' ∧ (sextetChar v).toNat < 128 ∧
      ((sextetChar v).isAlphanum = true ∨ sextetChar v = '-' ∨ sextetChar v = '_') := by
  decide

theorem sextets_lt (data : Bytes) : ∀ v ∈ sextets data, v < 64 := by
  fun_induction sextets data with
  | case1 => simp
  | case2 a =>
      have ha := a.toNat_lt
      simp
      omega
  | case3 a b =>
      have ha := a.toNat_lt
      have hb := b.toNat_lt
      simp
      omega
  | case4 a b c rest ih =>
      have ha := a.toNat_lt
      have hb := b.toNat_lt
      have hc := c.toNat_lt
      simp only [List.forall_mem_cons]
      exact ⟨by omega, by omega, by omega, by omega, ih⟩

section Step

variable {v leftBits : Nat} (h : v < 64) (cs : List Char)
include h

/-- The four steps that a character of the alphabet can be. -/
theorem a2bBase64_first :
    a2bBase64 0 leftBits 0 (sextetChar v :: cs) = a2bBase64 1 v 0 cs := by
  obtain ⟨hValue, hPad, -, -⟩ := sextetChar_small v h
  simp only [a2bBase64, if_neg hPad, hValue]

theorem a2bBase64_second :
    a2bBase64 1 leftBits 0 (sextetChar v :: cs) =
      (a2bBase64 2 (v % 16) 0 cs).map (UInt8.ofNat (leftBits * 4 + v / 16) :: ·) := by
  obtain ⟨hValue, hPad, -, -⟩ := sextetChar_small v h
  simp only [a2bBase64, if_neg hPad, hValue]

theorem a2bBase64_third :
    a2bBase64 2 leftBits 0 (sextetChar v :: cs) =
      (a2bBase64 3 (v % 4) 0 cs).map (UInt8.ofNat (leftBits * 16 + v / 4) :: ·) := by
  obtain ⟨hValue, hPad, -, -⟩ := sextetChar_small v h
  simp only [a2bBase64, if_neg hPad, hValue]

theorem a2bBase64_fourth :
    a2bBase64 3 leftBits 0 (sextetChar v :: cs) =
      (a2bBase64 0 0 0 cs).map (UInt8.ofNat (leftBits * 64 + v) :: ·) := by
  obtain ⟨hValue, hPad, -, -⟩ := sextetChar_small v h
  simp only [a2bBase64, if_neg hPad, hValue]

end Step

/-- The padding that a text of `n` characters lacks. -/
def lackingPad (n : Nat) : List Char := List.replicate ((4 - n % 4) % 4) '='

/-- Padding is skipped where no byte has begun. -/
theorem a2bBase64_pads (leftBits pads n : Nat) :
    a2bBase64 0 leftBits pads (List.replicate n '=') = some [] := by
  induction n with
  | zero => rfl
  | succ n ih =>
      show a2bBase64 0 leftBits pads (List.replicate n '=') = some []
      exact ih

/-- Enough padding ends the text; what exceeds it is not read.  By induction over the bytes,
three at a time. -/
theorem a2bBase64_sextets_pads (data : Bytes) {n : Nat}
    (h : (4 - (sextets data).length % 4) % 4 ≤ n) :
    a2bBase64 0 0 0 ((sextets data).map sextetChar ++ List.replicate n '=') = some data := by
  fun_induction sextets data with
  | case1 => exact a2bBase64_pads 0 0 n
  | case2 a =>
      have ha := a.toNat_lt
      have hByte : a.toNat / 4 * 4 + a.toNat % 4 * 16 / 16 = a.toNat := by omega
      have hPads : n = n - 2 + 1 + 1 := by
        simp at h
        omega
      simp only [List.map_cons, List.map_nil, List.cons_append, List.nil_append]
      rw [a2bBase64_first (by omega), a2bBase64_second (by omega), hByte, hPads,
        List.replicate_succ, List.replicate_succ]
      simp [a2bBase64]
  | case3 a b =>
      have ha := a.toNat_lt
      have hb := b.toNat_lt
      have hFirst : a.toNat / 4 * 4 + (a.toNat % 4 * 16 + b.toNat / 16) / 16 = a.toNat := by omega
      have hSecond : (a.toNat % 4 * 16 + b.toNat / 16) % 16 * 16 + b.toNat % 16 * 4 / 4 =
          b.toNat := by omega
      have hPads : n = n - 1 + 1 := by
        simp at h
        omega
      simp only [List.map_cons, List.map_nil, List.cons_append, List.nil_append]
      rw [a2bBase64_first (by omega), a2bBase64_second (by omega), a2bBase64_third (by omega),
        hFirst, hSecond, hPads, List.replicate_succ]
      simp [a2bBase64]
  | case4 a b c rest ih =>
      have ha := a.toNat_lt
      have hb := b.toNat_lt
      have hc := c.toNat_lt
      have hFirst : a.toNat / 4 * 4 + (a.toNat % 4 * 16 + b.toNat / 16) / 16 = a.toNat := by omega
      have hSecond : (a.toNat % 4 * 16 + b.toNat / 16) % 16 * 16 +
          (b.toNat % 16 * 4 + c.toNat / 64) / 4 = b.toNat := by omega
      have hThird : (b.toNat % 16 * 4 + c.toNat / 64) % 4 * 64 + c.toNat % 64 = c.toNat := by omega
      have hRest : (4 - (sextets rest).length % 4) % 4 ≤ n := by
        simp only [List.length_cons] at h
        omega
      simp only [List.map_cons, List.cons_append]
      rw [a2bBase64_first (by omega), a2bBase64_second (by omega), a2bBase64_third (by omega),
        a2bBase64_fourth (by omega), hFirst, hSecond, hThird, ih hRest]
      simp

theorem a2bBase64_sextets (data : Bytes) :
    a2bBase64 0 0 0 ((sextets data).map sextetChar ++ lackingPad (sextets data).length) =
      some data :=
  a2bBase64_sextets_pads data (Nat.le_refl _)

theorem toList_base64urlEncode (data : Bytes) :
    (base64urlEncode data).toList = (sextets data).map sextetChar :=
  String.toList_ofList

theorem base64urlEncode_ascii (data : Bytes) :
    (base64urlEncode data).toList.all (·.toNat < 128) = true := by
  rw [toList_base64urlEncode, List.all_eq_true]
  intro c hc
  obtain ⟨v, hv, rfl⟩ := List.mem_map.1 hc
  exact decide_eq_true (sextetChar_small v (sextets_lt data v hv)).2.2.1

/-- **What is encoded is read back.** -/
theorem base64urlDecode_encode (data : Bytes) :
    base64urlDecode (base64urlEncode data) = some data := by
  have hAscii := base64urlEncode_ascii data
  have hLength : (base64urlEncode data).length = (sextets data).length := by
    rw [← String.length_toList, toList_base64urlEncode, List.length_map]
  have hRead := a2bBase64_sextets data
  unfold base64urlDecode
  rw [if_pos hAscii, toList_base64urlEncode, hLength]
  unfold lackingPad at hRead
  by_cases hFull : 4 - (sextets data).length % 4 = 4
  · rw [hFull] at hRead
    simpa [hFull] using hRead
  · have hPad : (4 - (sextets data).length % 4) % 4 = 4 - (sextets data).length % 4 :=
      Nat.mod_eq_of_lt (by omega)
    rw [hPad] at hRead
    simpa only [if_neg hFull] using hRead

theorem base64urlEncode_injective : Function.Injective base64urlEncode := by
  intro data data' h
  have hRead := base64urlDecode_encode data
  rw [h, base64urlDecode_encode] at hRead
  exact (Option.some.inj hRead).symm

/-- Every character is of the alphabet. -/
theorem mem_base64urlEncode {data : Bytes} {c : Char} (h : c ∈ (base64urlEncode data).toList) :
    c.isAlphanum = true ∨ c = '-' ∨ c = '_' := by
  rw [toList_base64urlEncode] at h
  obtain ⟨v, hv, rfl⟩ := List.mem_map.1 h
  exact (sextetChar_small v (sextets_lt data v hv)).2.2.2

theorem bar_notMem_base64urlEncode (data : Bytes) : '|' ∉ (base64urlEncode data).toList :=
  fun h => absurd (mem_base64urlEncode h) (by decide)

theorem slash_notMem_base64urlEncode (data : Bytes) : '/' ∉ (base64urlEncode data).toList :=
  fun h => absurd (mem_base64urlEncode h) (by decide)

/-- SHA-256 on bytes, behind the text form of the primitives. -/
structure Sha256 (prim : Primitives) where
  digest : Bytes → Bytes
  sha256Base64url_eq : ∀ data, prim.sha256Base64url data = base64urlEncode (digest (utf8 data))

end AgentShield.Sdk
