import Mathlib.Data.List.Induction
import Mathlib.Tactic.Ring

/-!
# Numbers in a fixed number of digits

The digits of a number below `b ^ w` in base `b`, the largest first and exactly `w` of them.
They are read back (`value_digits`), their lexicographic order is the order of the numbers
(`digits_lt`), a prefix is the quotient (`digits_add`), and digits in base `b ^ k` are `k`
digits in base `b` each (`flatMap_digits`).  Separators at fixed places keep the order
(`separate_lt`).
-/

namespace AgentShield.Lib.Digits

/-- The last `w` digits of `n`, the largest first. -/
def digits (b : Nat) : Nat → Nat → List Nat
  | 0, _ => []
  | w + 1, n => n / b ^ w % b :: digits b w n

/-- The number that digits write. -/
def value (b : Nat) (ds : List Nat) : Nat := ds.foldl (fun v d => v * b + d) 0

section Digits

variable {b : Nat}

@[simp] theorem length_digits (w n : Nat) : (digits b w n).length = w := by
  induction w with
  | zero => rfl
  | succ w ih => simp [digits, ih]

theorem digits_below (hb : 0 < b) (w n : Nat) : ∀ d ∈ digits b w n, d < b := by
  induction w with
  | zero => simp [digits]
  | succ w ih =>
      intro d hd
      rcases List.mem_cons.1 hd with rfl | hd
      · exact Nat.mod_lt _ hb
      · exact ih d hd

/-- The first `w` of the digits are those of the quotient. -/
theorem digits_add (w w' n : Nat) :
    digits b (w + w') n = digits b w (n / b ^ w') ++ digits b w' n := by
  induction w with
  | zero => simp [digits]
  | succ w ih =>
      have hSucc : w + 1 + w' = w + w' + 1 := by omega
      rw [hSucc, digits, ih, digits, List.cons_append, Nat.div_div_eq_div_mul, ← Nat.pow_add,
        Nat.add_comm w' w]

theorem digits_mod (w w' n : Nat) (h : w ≤ w') : digits b w (n % b ^ w') = digits b w n := by
  induction w with
  | zero => rfl
  | succ w ih =>
      have hSplit : b ^ w' = b ^ w * b ^ (w' - w) := by
        rw [← Nat.pow_add]
        congr 1
        omega
      have hDvd : b ∣ b ^ (w' - w) := dvd_pow_self b (by omega)
      rw [digits, digits, ih (by omega), hSplit, Nat.mod_mul_right_div_self,
        Nat.mod_mod_of_dvd _ hDvd]

theorem value_append_singleton (ds : List Nat) (d : Nat) :
    value b (ds ++ [d]) = value b ds * b + d := by
  simp [value]

theorem value_append (ds ds' : List Nat) :
    value b (ds ++ ds') = value b ds * b ^ ds'.length + value b ds' := by
  induction ds' using List.reverseRecOn with
  | nil => simp [value]
  | append_singleton ds' d ih =>
      rw [← List.append_assoc, value_append_singleton, value_append_singleton, ih,
        List.length_append, List.length_singleton, Nat.pow_succ]
      ring

theorem value_lt (ds : List Nat) (h : ∀ d ∈ ds, d < b) :
    value b ds < b ^ ds.length := by
  induction ds using List.reverseRecOn with
  | nil => simp [value]
  | append_singleton ds d ih =>
      have hRest := ih fun d' hd' => h d' (List.mem_append_left _ hd')
      have hLast := h d (List.mem_append_right _ (List.mem_singleton_self d))
      rw [value_append_singleton, List.length_append, List.length_singleton, Nat.pow_succ]
      calc value b ds * b + d < value b ds * b + b := by omega
        _ = (value b ds + 1) * b := by ring
        _ ≤ b ^ ds.length * b := Nat.mul_le_mul_right b hRest

/-- **Digits are read back.** -/
theorem value_digits (w n : Nat) : value b (digits b w n) = n % b ^ w := by
  induction w generalizing n with
  | zero => simp [digits, value, Nat.mod_one]
  | succ w ih =>
      rw [digits_add w 1 n, value_append, ih]
      simp [digits, value]
      rw [Nat.pow_succ', Nat.mod_mul, Nat.mul_comm, Nat.add_comm]

/-- Numbers are written as they are read. -/
theorem digits_value (ds : List Nat) (h : ∀ d ∈ ds, d < b) :
    digits b ds.length (value b ds) = ds := by
  induction ds using List.reverseRecOn with
  | nil => rfl
  | append_singleton ds d ih =>
      have hRest : ∀ d' ∈ ds, d' < b := fun d' hd' => h d' (List.mem_append_left _ hd')
      have hLast := h d (List.mem_append_right _ (List.mem_singleton_self d))
      have hb : 0 < b := by omega
      rw [value_append_singleton, List.length_append, List.length_singleton, digits_add]
      have hQuotient : (value b ds * b + d) / b ^ 1 = value b ds := by
        rw [Nat.pow_one, Nat.mul_comm, Nat.mul_add_div hb, Nat.div_eq_of_lt hLast, Nat.add_zero]
      have hRemainder : digits b 1 (value b ds * b + d) = [d] := by
        simp [digits, Nat.mod_eq_of_lt hLast]
      rw [hQuotient, hRemainder, ih hRest]

/-- **The order of the digits is that of the numbers**, for numbers of the same width.  By
induction on the width, by whether the leading digits differ. -/
theorem digits_lt {w n n' : Nat} (h : n < n') (h' : n' < b ^ w) :
    digits b w n < digits b w n' := by
  induction w generalizing n n' with
  | zero =>
      rw [Nat.pow_zero] at h'
      omega
  | succ w ih =>
      have hb : 0 < b ^ w := by
        apply Nat.pos_of_ne_zero
        intro hZero
        rw [Nat.pow_succ, hZero, Nat.zero_mul] at h'
        omega
      rw [Nat.pow_succ] at h'
      have hTop : n' / b ^ w < b := Nat.div_lt_of_lt_mul h'
      have hLe : n / b ^ w ≤ n' / b ^ w := Nat.div_le_div_right (Nat.le_of_lt h)
      rw [digits, digits, List.cons_lt_cons_iff, Nat.mod_eq_of_lt hTop,
        Nat.mod_eq_of_lt (Nat.lt_of_le_of_lt hLe hTop)]
      by_cases hSame : n / b ^ w = n' / b ^ w
      · right
        refine ⟨hSame, ?_⟩
        have hn := Nat.div_add_mod n (b ^ w)
        have hn' := Nat.div_add_mod n' (b ^ w)
        rw [hSame] at hn
        rw [← digits_mod w w n (Nat.le_refl w), ← digits_mod w w n' (Nat.le_refl w)]
        apply ih _ (Nat.mod_lt _ hb)
        omega
      · left
        omega

/-- A digit in base `b ^ k` is `k` digits in base `b`. -/
theorem flatMap_digits (k w n : Nat) :
    (digits (b ^ k) w n).flatMap (digits b k) = digits b (k * w) n := by
  induction w with
  | zero => rfl
  | succ w ih =>
      have hSum : k * (w + 1) = k + k * w := by ring
      rw [digits, List.flatMap_cons, ih, digits_mod k k _ (Nat.le_refl k), ← Nat.pow_mul, hSum,
        digits_add]

end Digits

/-! ## Order -/

section Order

variable {α β : Type} [LT α] [LT β]

/-- Lists of one length are ordered by their first parts, and then by their last. -/
theorem append_lt_append {l l' r r' : List α} (hLength : l.length = l'.length) (h : l < l') :
    l ++ r < l' ++ r' := by
  induction l generalizing l' with
  | nil =>
      cases l' with
      | nil => exact absurd h List.not_lex_nil
      | cons y l' => cases hLength
  | cons x l ih =>
      cases l' with
      | nil => cases hLength
      | cons y l' =>
          rw [List.cons_append, List.cons_append]
          rcases List.cons_lt_cons_iff.1 h with hHead | ⟨rfl, hTail⟩
          · exact List.cons_lt_cons_iff.2 (.inl hHead)
          · exact List.cons_lt_cons_iff.2 (.inr ⟨rfl, ih (Nat.succ.inj hLength) hTail⟩)

/-- Two lists differ among their first `n` elements, or behind them. -/
theorem take_lt_or_drop_lt (n : Nat) {l l' : List α} (hLength : l.length = l'.length)
    (h : l < l') : l.take n < l'.take n ∨ l.take n = l'.take n ∧ l.drop n < l'.drop n := by
  induction n generalizing l l' with
  | zero => exact .inr ⟨rfl, h⟩
  | succ n ih =>
      cases l with
      | nil =>
          cases l' with
          | nil => exact absurd h List.not_lex_nil
          | cons y l' => cases hLength
      | cons x l =>
          cases l' with
          | nil => cases hLength
          | cons y l' =>
              simp only [List.take_succ_cons, List.drop_succ_cons, List.cons_lt_cons_iff]
              rcases List.cons_lt_cons_iff.1 h with hHead | ⟨rfl, hTail⟩
              · exact .inl (.inl hHead)
              · rcases ih (Nat.succ.inj hLength) hTail with hTake | ⟨hTake, hDrop⟩
                · exact .inl (.inr ⟨rfl, hTake⟩)
                · exact .inr ⟨by rw [hTake], hDrop⟩

/-- A separator behind each of the first groups, of the lengths `ns`. -/
def separate (c : α) : List Nat → List α → List α
  | [], l => l
  | n :: ns, l => l.take n ++ c :: separate c ns (l.drop n)

/-- **Separators at fixed places keep the order.** -/
theorem separate_lt (c : α) (ns : List Nat) {l l' : List α} (hLength : l.length = l'.length)
    (h : l < l') : separate c ns l < separate c ns l' := by
  induction ns generalizing l l' with
  | nil => exact h
  | cons n ns ih =>
      rw [separate, separate]
      rcases take_lt_or_drop_lt n hLength h with hTake | ⟨hTake, hDrop⟩
      · apply append_lt_append _ hTake
        rw [List.length_take, List.length_take, hLength]
      · have hRest : (l.drop n).length = (l'.drop n).length := by
          rw [List.length_drop, List.length_drop, hLength]
        rw [hTake]
        exact List.append_left_lt (List.cons_lt_cons_iff.2 (.inr ⟨rfl, ih hRest hDrop⟩))

/-- A map that keeps the order of the elements keeps that of the lists. -/
theorem map_lt_map (p : α → Prop) {f : α → β} (hf : ∀ x y, p x → p y → x < y → f x < f y)
    {l l' : List α} (hl : ∀ x ∈ l, p x) (hl' : ∀ x ∈ l', p x) (h : l < l') :
    l.map f < l'.map f := by
  induction l generalizing l' with
  | nil =>
      cases l' with
      | nil => exact absurd h List.not_lex_nil
      | cons y l' => exact List.Lex.nil
  | cons x l ih =>
      cases l' with
      | nil => exact absurd h List.not_lex_nil
      | cons y l' =>
          simp only [List.forall_mem_cons] at hl hl'
          rw [List.map_cons, List.map_cons]
          rcases List.cons_lt_cons_iff.1 h with hHead | ⟨rfl, hTail⟩
          · exact List.cons_lt_cons_iff.2 (.inl (hf x y hl.1 hl'.1 hHead))
          · exact List.cons_lt_cons_iff.2 (.inr ⟨rfl, ih hl.2 hl'.2 hTail⟩)

end Order

end AgentShield.Lib.Digits
