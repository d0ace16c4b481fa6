import Mathlib.Data.List.Basic

/-!
# UTF-16 code units and their order

Texts are ordered by code points or by UTF-16 code units.  The two orders differ only
where the first characters that differ are one of `U+E000` to `U+FFFF` and one above
`U+FFFF`: the latter begins with a surrogate, and surrogates come before `U+E000`
(`lt_iff_encode_lt`).
-/

namespace AgentShield.Lib.Utf16

/-- The code units of a character: its code point, or a surrogate pair. -/
def encodeChar (c : Char) : List Nat :=
  if c.toNat < 0x10000 then [c.toNat]
  else [0xD800 + (c.toNat - 0x10000) / 0x400, 0xDC00 + (c.toNat - 0x10000) % 0x400]

/-- A text as UTF-16 code units. -/
def encode (s : List Char) : List Nat := s.flatMap encodeChar

/-- A character after the surrogates that has one code unit. -/
def IsHigh (c : Char) : Prop := 0xE000 ≤ c.toNat ∧ c.toNat < 0x10000

instance (c : Char) : Decidable (IsHigh c) :=
  inferInstanceAs (Decidable (0xE000 ≤ c.toNat ∧ c.toNat < 0x10000))

/-- The two characters are ordered one way by code points and the other way by code
units. -/
def Swapped (c d : Char) : Prop :=
  IsHigh c ∧ 0x10000 ≤ d.toNat ∨ IsHigh d ∧ 0x10000 ≤ c.toNat

instance (c d : Char) : Decidable (Swapped c d) :=
  inferInstanceAs (Decidable (IsHigh c ∧ 0x10000 ≤ d.toNat ∨ IsHigh d ∧ 0x10000 ≤ c.toNat))

/-- The first characters in which the texts differ are swapped. -/
def Inverted : List Char → List Char → Prop
  | c :: s, d :: t => if c = d then Inverted s t else Swapped c d
  | _, _ => False

instance instDecidableInverted : (s t : List Char) → Decidable (Inverted s t)
  | [], [] => isFalse id
  | [], _ :: _ => isFalse id
  | _ :: _, [] => isFalse id
  | c :: s, d :: t =>
      if h : c = d then
        have : Decidable (Inverted s t) := instDecidableInverted s t
        decidable_of_iff (Inverted s t) (by simp [Inverted, h])
      else decidable_of_iff (Swapped c d) (by simp [Inverted, h])

/-- No character is a surrogate. -/
theorem toNat_range (c : Char) : c.toNat < 0xD800 ∨ 0xDFFF < c.toNat ∧ c.toNat < 0x110000 :=
  c.valid

/-- Characters are ordered by their code points. -/
theorem lt_iff_toNat_lt (c d : Char) : c < d ↔ c.toNat < d.toNat := Iff.rfl

/-- Different characters have encodings that differ at their first or second unit. -/
theorem encodeChar_append_lt {c d : Char} (h : c ≠ d) (s t : List Nat) :
    encodeChar c ++ s < encodeChar d ++ t ↔ (c < d ↔ ¬ Swapped c d) := by
  have hc := toNat_range c
  have hd := toNat_range d
  have hNe : c.toNat ≠ d.toNat := fun hEq => h (Char.toNat_inj.1 hEq)
  rw [lt_iff_toNat_lt]
  unfold encodeChar Swapped IsHigh
  split <;> split <;>
    simp only [List.cons_append, List.nil_append, List.cons_lt_cons_iff] <;> omega

/-- Behind a common character two texts compare as they do behind its units. -/
theorem encodeChar_append_lt_self (c : Char) (s t : List Nat) :
    encodeChar c ++ s < encodeChar c ++ t ↔ s < t := by
  unfold encodeChar
  split <;> simp

/-- Every character has at least one unit. -/
theorem encodeChar_ne_nil (c : Char) : ∃ u us, encodeChar c = u :: us := by
  unfold encodeChar
  split
  · exact ⟨_, _, rfl⟩
  · exact ⟨_, _, rfl⟩

/-- **Where the two orders agree**: everywhere but at a first difference between a character
above the surrogates and one beyond the first plane. -/
theorem lt_iff_encode_lt (s t : List Char) :
    (s < t ↔ encode s < encode t) ↔ ¬ Inverted s t := by
  induction s generalizing t with
  | nil =>
      cases t with
      | nil => simp [Inverted]
      | cons d t =>
          obtain ⟨u, us, hUnits⟩ := encodeChar_ne_nil d
          simp [Inverted, encode, hUnits]
  | cons c s ih =>
      cases t with
      | nil =>
          simp only [encode, List.flatMap_nil, List.not_lt_nil, iff_self, true_iff]
          exact id
      | cons d t =>
          have hEncode : ∀ (e : Char) r, encode (e :: r) = encodeChar e ++ encode r := by
            intro e r
            rfl
          rw [hEncode, hEncode]
          by_cases hSame : c = d
          · subst hSame
            rw [encodeChar_append_lt_self, List.cons_lt_cons_self]
            simpa [Inverted] using ih t
          · rw [encodeChar_append_lt hSame, List.cons_lt_cons_iff]
            simp only [hSame, false_and, or_false, Inverted, if_false]
            by_cases hSwapped : Swapped c d
            · by_cases hLt : c < d <;>
                simp only [hSwapped, hLt, not_true_eq_false, iff_false, iff_true, iff_self]
            · simp only [hSwapped, not_false_eq_true, iff_true, iff_self]

theorem Inverted.symm {s t : List Char} (h : Inverted s t) : Inverted t s := by
  induction s generalizing t with
  | nil => cases h
  | cons c s ih =>
      cases t with
      | nil => cases h
      | cons d t =>
          unfold Inverted at h ⊢
          by_cases hSame : c = d
          · rw [if_pos hSame] at h
            rw [if_pos hSame.symm]
            exact ih h
          · rw [if_neg hSame] at h
            rw [if_neg (Ne.symm hSame)]
            exact h.symm

end AgentShield.Lib.Utf16
