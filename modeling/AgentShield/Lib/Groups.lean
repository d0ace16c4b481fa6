import Mathlib.Algebra.BigOperators.Group.List.Basic
import Mathlib.Algebra.GroupWithZero.Nat
import Mathlib.Data.List.Nodup

/-!
# Sums by group

Items that are grouped by a key, in a list of keys that has the key of every item once:
the sum of the groups' sums is the sum of all items (`sum_groups`), and so with counts
(`countP_groups`).

When each row of a log has a row of a table with its id and its mark, the log's rows of a
part of the table have the marks of the logged rows of that part (`marks_matched`).
-/

namespace AgentShield.Lib.Groups

variable {α κ M : Type} [DecidableEq κ]

section Sums

variable [AddCommMonoid M]

/-- One more amount in the group of one key. -/
theorem sum_map_one {ks : List κ} (hNodup : ks.Nodup) {k : κ} (hk : k ∈ ks) (amount : M)
    (total : κ → M) :
    (ks.map fun k' => if k = k' then amount + total k' else total k').sum =
      amount + (ks.map total).sum := by
  induction ks with
  | nil => cases hk
  | cons k' ks ih =>
      have hRest := List.nodup_cons.1 hNodup
      by_cases hSame : k = k'
      · subst hSame
        have hOthers : (ks.map fun k' => if k = k' then amount + total k' else total k') =
            ks.map total := by
          apply List.map_congr_left
          intro k' hk'
          have hNe : ¬ k = k' := fun hSame => hRest.1 (hSame ▸ hk')
          rw [if_neg hNe]
        rw [List.map_cons, List.sum_cons, hOthers, if_pos rfl, List.map_cons, List.sum_cons,
          add_assoc]
      · have hk' : k ∈ ks := (List.mem_cons.1 hk).resolve_left hSame
        rw [List.map_cons, List.sum_cons, ih hRest.2 hk', if_neg hSame, List.map_cons,
          List.sum_cons, add_left_comm]

/-- **The groups sum up to the whole.** -/
theorem sum_groups {ks : List κ} (hNodup : ks.Nodup) (key : α → κ) (amount : α → M)
    {l : List α} (hKeys : ∀ x ∈ l, key x ∈ ks) :
    (ks.map fun k => ((l.filter fun x => key x = k).map amount).sum).sum =
      (l.map amount).sum := by
  induction l with
  | nil => simp
  | cons x l ih =>
      have hRest := ih fun y hy => hKeys y (List.mem_cons_of_mem _ hy)
      have hHead : (ks.map fun k => (((x :: l).filter fun y => key y = k).map amount).sum) =
          ks.map fun k =>
            if key x = k then amount x + ((l.filter fun y => key y = k).map amount).sum
            else ((l.filter fun y => key y = k).map amount).sum := by
        apply List.map_congr_left
        intro k _
        by_cases hk : key x = k
        · simp [hk]
        · simp [hk]
      rw [hHead, sum_map_one hNodup (hKeys x List.mem_cons_self), hRest, List.map_cons,
        List.sum_cons]

end Sums

theorem countP_eq_sum (p : α → Bool) (l : List α) :
    l.countP p = (l.map fun x => if p x then 1 else 0).sum := by
  induction l with
  | nil => rfl
  | cons x l ih =>
      rw [List.countP_cons, ih, List.map_cons, List.sum_cons, Nat.add_comm]

theorem countP_groups {ks : List κ} (hNodup : ks.Nodup) (key : α → κ) (p : α → Bool)
    {l : List α} (hKeys : ∀ x ∈ l, key x ∈ ks) :
    (ks.map fun k => (l.filter fun x => key x = k).countP p).sum = l.countP p := by
  simp only [countP_eq_sum]
  exact sum_groups hNodup key _ hKeys

/-! ## A log next to its table -/

section Matched

variable {β ι δ : Type} [DecidableEq ι] {rows : List α} {log : List β} {rowId : α → ι}
  {logId : β → ι} {rowMark : α → δ} {logMark : β → δ}

/-- Rows with different ids are different with their marks. -/
theorem nodup_pairs {α ι δ : Type} {rows : List α} {rowId : α → ι} (rowMark : α → δ)
    (keep : α → Bool) (h : (rows.map rowId).Nodup) :
    ((rows.filter keep).map fun v => (rowId v, rowMark v)).Nodup := by
  apply List.Nodup.of_map Prod.fst
  rw [List.map_map]
  exact h.sublist (List.filter_sublist.map rowId)

theorem marks_matched (hRows : (rows.map rowId).Nodup) (hLog : (log.map logId).Nodup)
    (hMatch : ∀ i ∈ log, ∃ v ∈ rows, rowId v = logId i ∧ rowMark v = logMark i)
    (keep : α → Bool) :
    ((log.filter fun i => logId i ∈ (rows.filter keep).map rowId).map logMark).Perm
      (((rows.filter keep).filter fun v => ∃ i ∈ log, logId i = rowId v).map rowMark) := by
  -- a log row and a kept row with one id have one mark
  have hSame : ∀ i ∈ log, ∀ v ∈ rows, logId i = rowId v → logMark i = rowMark v := by
    intro i hi v hv hId
    obtain ⟨v', hv', hId', hMark⟩ := hMatch i hi
    have hRow : v' = v := List.inj_on_of_nodup_map hRows hv' hv (hId'.trans hId)
    rw [← hMark, hRow]
  have hPairs : ((log.filter fun i => logId i ∈ (rows.filter keep).map rowId).map
      fun i => (logId i, logMark i)).Perm
        (((rows.filter keep).filter fun v => ∃ i ∈ log, logId i = rowId v).map
          fun v => (rowId v, rowMark v)) := by
    have hLeft := nodup_pairs logMark
      (fun i => decide (logId i ∈ (rows.filter keep).map rowId)) hLog
    have hRight := nodup_pairs rowMark
      (fun v => decide (∃ i ∈ log, logId i = rowId v) && keep v) hRows
    rw [← List.filter_filter] at hRight
    rw [List.perm_ext_iff_of_nodup hLeft hRight]
    intro pair
    simp only [List.mem_map, List.mem_filter, decide_eq_true_eq]
    constructor
    · rintro ⟨i, ⟨hi, v, ⟨hv, hKeep⟩, hId⟩, rfl⟩
      exact ⟨v, ⟨⟨hv, hKeep⟩, i, hi, hId.symm⟩, by rw [hId, hSame i hi v hv hId.symm]⟩
    · rintro ⟨v, ⟨⟨hv, hKeep⟩, i, hi, hId⟩, rfl⟩
      exact ⟨i, ⟨hi, v, ⟨hv, hKeep⟩, hId.symm⟩, by rw [hId, hSame i hi v hv hId]⟩
  have hMarks := hPairs.map Prod.snd
  rw [List.map_map, List.map_map] at hMarks
  exact hMarks

end Matched

end AgentShield.Lib.Groups
