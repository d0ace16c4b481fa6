import Mathlib.Algebra.Field.ZMod
import Mathlib.Tactic.NormNum.Prime
import AgentShield.Governance.Agreement
import AgentShield.Lib.CheckDigits

/-!
# Errors that the IBAN check detects

The mod-97 checksum reads an IBAN as a number over the field of 97 elements, a letter in two
places and a digit in one.  Ten has the order 96 in it, and no IBAN has as many places, so
the check refuses every IBAN that differs from a valid one in one character, or in the
order of two neighbours, of one class (`iban_errors_rejected`).
-/

namespace AgentShield.Governance

open AgentShield.Lib AgentShield.Lib.CheckDigits AgentShield.Sdk

/-! ## The code -/

instance factPrime97 : Fact (Nat.Prime 97) := ⟨by norm_num⟩

abbrev IsUpperLetter (c : Char) : Prop := Regex.inRange 'A' 'Z' c = true
abbrev IsAsciiDigit (c : Char) : Prop := Regex.inRange '0' '9' c = true

/-- Two letters, or two digits. -/
def SameClass (a b : Char) : Prop :=
  IsUpperLetter a ∧ IsUpperLetter b ∨ IsAsciiDigit a ∧ IsAsciiDigit b

def ibanWidth (c : Char) : Nat := if IsUpperLetter c then 2 else 1

/-- `int(c, 36)` of a letter or a digit. -/
def ibanValue (c : Char) : Nat := if IsUpperLetter c then c.toNat - 55 else c.toNat - 48

theorem isUpperLetter_range {c : Char} (h : IsUpperLetter c) : 65 ≤ c.toNat ∧ c.toNat ≤ 90 := by
  unfold IsUpperLetter Regex.inRange at h
  rw [Bool.and_eq_true, decide_eq_true_eq, decide_eq_true_eq] at h
  exact h

theorem isAsciiDigit_range {c : Char} (h : IsAsciiDigit c) : 48 ≤ c.toNat ∧ c.toNat ≤ 57 := by
  unfold IsAsciiDigit Regex.inRange at h
  rw [Bool.and_eq_true, decide_eq_true_eq, decide_eq_true_eq] at h
  exact h

theorem not_isUpperLetter_of_isAsciiDigit {c : Char} (h : IsAsciiDigit c) :
    ¬ IsUpperLetter c := by
  intro hUpper
  have hDigit := isAsciiDigit_range h
  have hLetter := isUpperLetter_range hUpper
  omega

/-- Values of one class lie less than 97 apart. -/
theorem ibanValue_ne {a b : Char} (h : SameClass a b) (hNe : a ≠ b) :
    (ibanValue a : ZMod 97) ≠ ibanValue b := by
  have hCode : a.toNat ≠ b.toNat := fun hEq => hNe (Char.toNat_inj.1 hEq)
  intro hEq
  have hMod := (ZMod.natCast_eq_natCast_iff' _ _ _).1 hEq
  rcases h with ⟨ha, hb⟩ | ⟨ha, hb⟩
  · have hRange := isUpperLetter_range ha
    have hRange' := isUpperLetter_range hb
    rw [ibanValue, ibanValue, if_pos ha, if_pos hb] at hMod
    omega
  · have hRange := isAsciiDigit_range ha
    have hRange' := isAsciiDigit_range hb
    rw [ibanValue, ibanValue, if_neg (not_isUpperLetter_of_isAsciiDigit ha),
      if_neg (not_isUpperLetter_of_isAsciiDigit hb)] at hMod
    omega

/-- No power of ten below the 96th is one. -/
theorem ten_pow_ne_one (n : Nat) (hPos : 0 < n) (hLt : n < 96) : (10 : ZMod 97) ^ n ≠ 1 := by
  have hAll : ∀ n < 96, 0 < n → 10 ^ n % 97 ≠ 1 % 97 := by decide +kernel
  intro hEq
  apply hAll n hLt hPos
  apply (ZMod.natCast_eq_natCast_iff' _ _ _).1
  push_cast
  exact hEq

def ibanCode : Code Char (ZMod 97) where
  base := 10
  width := ibanWidth
  val c := ibanValue c
  Same := SameClass
  order := 96
  same_symm h := h.imp And.symm And.symm
  width_eq := by
    rintro a b (⟨ha, hb⟩ | ⟨ha, hb⟩)
    · rw [ibanWidth, ibanWidth, if_pos ha, if_pos hb]
    · rw [ibanWidth, ibanWidth, if_neg (not_isUpperLetter_of_isAsciiDigit ha),
        if_neg (not_isUpperLetter_of_isAsciiDigit hb)]
  width_pos c := by
    unfold ibanWidth
    split <;> decide
  val_ne := ibanValue_ne
  base_ne := by decide
  pow_ne := ten_pow_ne_one

/-! ## The check reads the code -/

/-- What one character adds to the digits. -/
theorem foldl_ibanDigits (c : Char) (n : Nat) :
    (ibanDigits c).foldl (fun n c => 10 * n + (c.toNat - 48)) n =
      n * 10 ^ ibanWidth c + ibanValue c := by
  have hTwo : ∀ v < 36, 10 ≤ v →
      (toString v).toList.map (fun c => c.toNat - 48) = [v / 10, v % 10] := by
    decide +kernel
  by_cases hUpper : IsUpperLetter c
  · have hRange := isUpperLetter_range hUpper
    have hDigits := hTwo (c.toNat - 55) (by omega) (by omega)
    have hFold : ∀ ds : List Char, ds.foldl (fun n c => 10 * n + (c.toNat - 48)) n =
        (ds.map fun c => c.toNat - 48).foldl (fun n d => 10 * n + d) n := fun ds => by
      rw [List.foldl_map]
    unfold ibanDigits
    rw [if_pos hUpper, hFold, hDigits, ibanWidth, ibanValue, if_pos hUpper, if_pos hUpper]
    show 10 * (10 * n + (c.toNat - 55) / 10) + (c.toNat - 55) % 10 = n * 10 ^ 2 + (c.toNat - 55)
    omega
  · unfold ibanDigits
    rw [if_neg hUpper, ibanWidth, ibanValue, if_neg hUpper, if_neg hUpper]
    show 10 * n + (c.toNat - 48) = n * 10 ^ 1 + (c.toNat - 48)
    omega

/-- The integer of the digits is the number of the text: a letter stands for two digits and
shifts the rest by two places. -/
theorem intOfDigits_number {cs : List Char} (h : ∀ c ∈ cs, IbanChar c) :
    ∃ n, intOfDigits (cs.flatMap ibanDigits) = some n ∧ (n : ZMod 97) = ibanCode.number cs := by
  have hDigits : (cs.flatMap ibanDigits).all (Regex.inRange '0' '9') = true := by
    rw [List.all_flatMap, List.all_eq_true]
    exact fun c hc => ibanDigits_digits (h c hc)
  have hFold : ∀ n : Nat,
      (((cs.flatMap ibanDigits).foldl (fun n c => 10 * n + (c.toNat - 48)) n : Nat) : ZMod 97) =
        cs.foldl (fun n c => n * ibanCode.base ^ ibanCode.width c + ibanCode.val c)
          (n : ZMod 97) := by
    induction cs with
    | nil => intro n; rfl
    | cons c cs ih =>
        intro n
        have hRest : ∀ c' ∈ cs, IbanChar c' := fun c' hc' => h c' (List.mem_cons_of_mem _ hc')
        have hRestDigits : (cs.flatMap ibanDigits).all (Regex.inRange '0' '9') = true := by
          rw [List.all_flatMap, List.all_eq_true]
          exact fun c' hc' => ibanDigits_digits (hRest c' hc')
        rw [List.flatMap_cons, List.foldl_append, foldl_ibanDigits c,
          ih hRest hRestDigits, List.foldl_cons]
        congr 1
        push_cast
        rfl
  unfold intOfDigits
  rw [if_pos hDigits]
  refine ⟨_, rfl, ?_⟩
  rw [hFold 0]
  simp [Code.number]

/-- `str.upper` leaves upper-case letters and digits as they are. -/
def KeepsUpper (text : PyText) : Prop := ∀ s : List Char, (∀ c ∈ s, IbanChar c) →
  text.upper (String.ofList s) = String.ofList s

section Check

variable {text : PyText} (hUpper : KeepsUpper text) {s : List Char} (h : ∀ c ∈ s, IbanChar c)
include hUpper h

/-- Upper-case letters and digits are an IBAN by length, pattern and number; the number is
that of the text with its first four characters moved to the end. -/
theorem isValidIban_eq :
    isValidIban text (String.ofList s) =
      .ok (decide ((15 ≤ s.length ∧ s.length ≤ 34) ∧
        ibanRe.matchStart (String.ofList s) = true ∧ ibanCode.number (rotated 4 s) = 1)) := by
  have hBlank : s.filter (· ≠ ' ') = s := by
    apply List.filter_eq_self.2
    intro c hc
    have hNe : c ≠ ' ' := by
      intro hEq
      exact absurd (hEq ▸ h c hc) (by unfold IbanChar; decide)
    simp [hNe]
  have hRotated : ∀ c ∈ rotated 4 s, IbanChar c := by
    intro c hc
    rcases List.mem_append.1 hc with hc | hc
    · exact h c (List.mem_of_mem_drop hc)
    · exact h c (List.mem_of_mem_take hc)
  obtain ⟨n, hInt, hNumber⟩ := intOfDigits_number hRotated
  have hMod : (n % 97 == 1) = decide (ibanCode.number (rotated 4 s) = 1) := by
    have hOne := ZMod.natCast_eq_natCast_iff' n 1 97
    rw [← hNumber, Bool.beq_eq_decide_eq]
    exact decide_eq_decide.2 (by simpa using hOne.symm)
  unfold isValidIban
  simp only [String.toList_ofList, hBlank, hUpper s h]
  by_cases hShape : (15 ≤ s.length ∧ s.length ≤ 34) ∧ ibanRe.matchStart (String.ofList s) = true
  · have hNot : ¬ (¬ (15 ≤ s.length ∧ s.length ≤ 34) ∨
        ibanRe.matchStart (String.ofList s) = false) := by
      simp [hShape.1, hShape.2]
    rw [if_neg hNot]
    split
    · rename_i m hRead
      obtain rfl : m = n := Option.some.inj (hRead.symm.trans hInt)
      rw [hMod]
      simp [hShape.1, hShape.2]
    · rename_i hRead
      cases hRead.symm.trans hInt
  · have hBad : ¬ (15 ≤ s.length ∧ s.length ≤ 34) ∨
        ibanRe.matchStart (String.ofList s) = false := by
      by_contra hNot
      obtain ⟨hLength, hMatch⟩ := not_or.1 hNot
      exact hShape ⟨not_not.1 hLength, by simpa using hMatch⟩
    rw [if_pos hBad]
    have hFalse : ¬ ((15 ≤ s.length ∧ s.length ≤ 34) ∧
        ibanRe.matchStart (String.ofList s) = true ∧ ibanCode.number (rotated 4 s) = 1) :=
      fun hAll => hShape ⟨hAll.1, hAll.2.1⟩
    rw [decide_eq_false hFalse]

end Check

/-! ## Slips -/

theorem SameClass.ibanChar {a b : Char} (h : SameClass a b) : IbanChar b := by
  unfold IbanChar
  rw [Bool.or_eq_true]
  exact h.imp And.right And.right

/-- A slip leaves the alphabet and the length. -/
theorem slip_keeps {s s' : List Char} (hSlip : Slip SameClass s s') (h : ∀ c ∈ s, IbanChar c) :
    (∀ c ∈ s', IbanChar c) ∧ s'.length = s.length := by
  cases hSlip with
  | @substitute p q a b hSame _ =>
      refine ⟨?_, by simp⟩
      intro c hc
      simp only [List.mem_append, List.mem_cons] at hc h
      rcases hc with hc | rfl | hc
      · exact h c (.inl hc)
      · exact hSame.ibanChar
      · exact h c (.inr (.inr hc))
  | @transpose p q a b _ _ =>
      refine ⟨?_, by simp⟩
      intro c hc
      apply h
      simp only [List.mem_append, List.mem_cons] at hc ⊢
      rcases hc with hc | rfl | rfl | hc <;> simp [*]

/-- A character takes at most two places. -/
theorem places_le (s : List Char) : ibanCode.places s ≤ 2 * s.length := by
  induction s with
  | nil => exact Nat.le_refl 0
  | cons c s ih =>
      have hWidth : ibanCode.width c ≤ 2 := by
        show ibanWidth c ≤ 2
        unfold ibanWidth
        split <;> omega
      rw [Code.places_cons, List.length_cons]
      omega

/-- **The IBAN check rejects every slip of a valid IBAN**: one character for another of its
class, or two neighbours of one class exchanged.  Either changes the number modulo 97,
whatever the length. -/
theorem iban_errors_rejected (text : PyText) (hUpper : KeepsUpper text) (s s' : List Char)
    (h : ∀ c ∈ s, IbanChar c) (hValid : isValidIban text (String.ofList s) = .ok true)
    (hSlip : Slip SameClass s s') : isValidIban text (String.ofList s') = .ok false := by
  obtain ⟨h', -⟩ := slip_keeps hSlip h
  rw [isValidIban_eq hUpper h] at hValid
  obtain ⟨hLength, -, hNumber⟩ := of_decide_eq_true (Except.ok.inj hValid)
  have hPlaces : ibanCode.places s < ibanCode.order := by
    have hLe := places_le s
    show ibanCode.places s < 96
    omega
  have hOther := hSlip.detected 4 hPlaces
  rw [isValidIban_eq hUpper h']
  apply congrArg
  apply decide_eq_false
  intro hAll
  exact hOther (hNumber.trans hAll.2.2.symm)

/-- The first two digits of a German IBAN behind its check digits change places: the second
check digit and the one that is read first. -/
theorem iban_errors_rejected_sample :
    (∀ c ∈ "DE89370400440532013000".toList, IbanChar c) ∧
      isValidIban Sample.text "DE89370400440532013000" = .ok true ∧
      isValidIban Sample.text "DE83970400440532013000" = .ok false := by
  have hAlphabet : ∀ c ∈ "DE89370400440532013000".toList, IbanChar c := by
    have hAll : "DE89370400440532013000".toList.all
        (fun c => Regex.inRange 'A' 'Z' c || Regex.inRange '0' '9' c) = true := by
      decide +kernel
    exact fun c hc => List.all_eq_true.1 hAll c hc
  have hValid : isValidIban Sample.text "DE89370400440532013000" = .ok true := by decide +kernel
  have hSlip : Slip SameClass "DE89370400440532013000".toList "DE83970400440532013000".toList :=
    .transpose "DE8".toList "70400440532013000".toList (by right; decide) (by decide)
  exact ⟨hAlphabet, hValid, iban_errors_rejected Sample.text (fun s _ => rfl) _ _ hAlphabet hValid
    hSlip⟩

end AgentShield.Governance
