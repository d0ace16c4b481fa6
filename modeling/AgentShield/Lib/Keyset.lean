import Mathlib.Data.Finset.Card
import Mathlib.Data.List.Sort
import Mathlib.Data.Set.Finite.Basic
import Mathlib.Order.Defs.LinearOrder

/-!
# Keyset pagination

A table is served in pages, from the largest key down.  A page ends with a cursor, the key
of its last row, unless nothing is left; the next request names the cursor and is served the
rows below it.  The table may be another at every request.  A client that follows the
cursors receives strictly falling keys, every key that stayed in the table to the end, and
comes to an end when only finitely many keys ever occur (`Serves.exact`).
-/

namespace AgentShield.Lib.Keyset

/-- Rows, and where the next page begins. -/
structure Page (α γ : Type) where
  rows : List α
  cursor : Option γ

/-- The page with its cursor written down. -/
def Page.mapCursor {α γ δ : Type} (f : γ → δ) (p : Page α γ) : Page α δ :=
  ⟨p.rows, p.cursor.map f⟩

/-! ## One page -/

section Pages

variable {α κ : Type} [LinearOrder κ] (key : α → κ)

/-- The rows from the largest key down. -/
def newestFirst (rows : List α) : List α := rows.insertionSort fun r r' => key r' ≤ key r

/-- The rows that a cursor leaves. -/
def below (cursor : Option κ) (rows : List α) : List α :=
  rows.filter fun r => cursor.all fun k => decide (key r < k)

/-- The rows that are left for a page and those after it. -/
def remaining (cursor : Option κ) (rows : List α) : List α :=
  below key cursor (newestFirst key rows)

/-- One row more than the page holds is looked at. -/
def page (limit : Nat) (cursor : Option κ) (rows : List α) : Page α κ :=
  let window := (remaining key cursor rows).take (limit + 1)
  if limit < window.length then
    ⟨window.take limit, (window.take limit).getLast?.map key⟩
  else ⟨window, none⟩

variable {key} {limit : Nat} {cursor : Option κ} {rows : List α}

theorem mem_remaining {r : α} :
    r ∈ remaining key cursor rows ↔ r ∈ rows ∧ ∀ k ∈ cursor, key r < k := by
  simp only [remaining, below, newestFirst, List.mem_filter, List.mem_insertionSort,
    Option.all_eq_true, decide_eq_true_eq, Option.mem_def]

theorem remaining_sorted (cursor : Option κ) (hKeys : (rows.map key).Nodup) :
    (remaining key cursor rows).Pairwise fun r r' => key r' < key r := by
  have hSorted : (newestFirst key rows).Pairwise fun r r' => key r' ≤ key r :=
    List.pairwise_insertionSort _ _
  have hDistinct : (newestFirst key rows).Pairwise fun r r' => key r ≠ key r' := by
    have hPerm := (List.perm_insertionSort (fun r r' => key r' ≤ key r) rows).map key
    exact List.pairwise_map.1 (hPerm.nodup_iff.2 hKeys)
  have hStrict := hSorted.and hDistinct
  exact (hStrict.imp fun h => lt_of_le_of_ne h.1 (Ne.symm h.2)).filter _

theorem page_rows : (page key limit cursor rows).rows = (remaining key cursor rows).take limit := by
  unfold page
  by_cases hMore : limit < ((remaining key cursor rows).take (limit + 1)).length
  · rw [if_pos hMore]
    show List.take limit _ = _
    rw [List.take_take, Nat.min_eq_left (Nat.le_succ limit)]
  · rw [if_neg hMore]
    rw [List.length_take] at hMore
    show List.take (limit + 1) _ = _
    rw [List.take_of_length_le (by omega), List.take_of_length_le (by omega)]

theorem page_cursor : (page key limit cursor rows).cursor =
    if limit < (remaining key cursor rows).length then
      ((remaining key cursor rows).take limit).getLast?.map key
    else none := by
  unfold page
  by_cases hMore : limit < (remaining key cursor rows).length
  · rw [if_pos hMore, if_pos (by rw [List.length_take]; omega)]
    show Option.map key (List.take limit (List.take (limit + 1) _)).getLast? = _
    rw [List.take_take, Nat.min_eq_left (Nat.le_succ limit)]
  · rw [if_neg hMore, if_neg (by rw [List.length_take]; omega)]

theorem mem_page {r : α} (h : r ∈ (page key limit cursor rows).rows) :
    r ∈ rows ∧ ∀ k ∈ cursor, key r < k := by
  rw [page_rows] at h
  exact mem_remaining.1 (List.mem_of_mem_take h)

theorem page_sorted (hKeys : (rows.map key).Nodup) :
    (page key limit cursor rows).rows.Pairwise fun r r' => key r' < key r := by
  rw [page_rows]
  exact (remaining_sorted cursor hKeys).sublist (List.take_sublist _ _)

/-- The last page holds all that is left. -/
theorem mem_page_of_last (h : (page key limit cursor rows).cursor = none) (hLimit : 0 < limit)
    {r : α} (hr : r ∈ rows) (hBelow : ∀ k ∈ cursor, key r < k) :
    r ∈ (page key limit cursor rows).rows := by
  have hLeft := mem_remaining.2 ⟨hr, hBelow⟩
  rw [page_cursor] at h
  by_cases hMore : limit < (remaining key cursor rows).length
  · rw [if_pos hMore, Option.map_eq_none_iff, List.getLast?_eq_none_iff, List.take_eq_nil_iff] at h
    rcases h with h | h
    · omega
    · rw [h] at hLeft
      cases hLeft
  · rw [page_rows, List.take_of_length_le (by omega)]
    exact hLeft

/-- A page with a cursor is not empty, and holds all that is left from the cursor up. -/
theorem page_next {k : κ} (h : (page key limit cursor rows).cursor = some k)
    (hKeys : (rows.map key).Nodup) :
    (∃ r ∈ (page key limit cursor rows).rows, key r = k) ∧
      (∀ r ∈ (page key limit cursor rows).rows, k ≤ key r) ∧
        ∀ r ∈ rows, (∀ k' ∈ cursor, key r < k') → k ≤ key r →
          r ∈ (page key limit cursor rows).rows := by
  have hSorted := remaining_sorted cursor hKeys
  rw [page_cursor] at h
  by_cases hMore : limit < (remaining key cursor rows).length
  · rw [if_pos hMore, Option.map_eq_some_iff] at h
    obtain ⟨last, hLast, rfl⟩ := h
    obtain ⟨front, hTake⟩ := List.getLast?_eq_some_iff.1 hLast
    rw [page_rows]
    have hAll : remaining key cursor rows =
        front ++ [last] ++ (remaining key cursor rows).drop limit := by
      rw [← hTake, List.take_append_drop]
    rw [hAll, List.pairwise_append] at hSorted
    obtain ⟨hFront, -, hAcross⟩ := hSorted
    have hMem : last ∈ (remaining key cursor rows).take limit := by
      rw [hTake]
      exact List.mem_append_right _ List.mem_cons_self
    refine ⟨⟨last, hMem, rfl⟩, fun r hr => ?_, fun r hr hBelow hUp => ?_⟩
    · rw [hTake, List.mem_append, List.mem_singleton] at hr
      rcases hr with hr | rfl
      · exact (List.pairwise_append.1 hFront).2.2 r hr last List.mem_cons_self |>.le
      · exact le_refl _
    · have hLeft := mem_remaining.2 ⟨hr, hBelow⟩
      rw [hAll, List.mem_append] at hLeft
      rcases hLeft with hLeft | hLeft
      · rw [hTake]
        exact hLeft
      · have hUnder := hAcross last (List.mem_append_right _ List.mem_cons_self) r hLeft
        exact absurd hUp (not_le.2 hUnder)
  · rw [if_neg hMore] at h
    cases h

/-- The rows can be changed before they are paged or after, when their keys stay. -/
theorem page_map {β : Type} {f : α → β} {key' : β → κ} (hKey : ∀ r, key' (f r) = key r) :
    page key' limit cursor (rows.map f) =
      ⟨(page key limit cursor rows).rows.map f, (page key limit cursor rows).cursor⟩ := by
  have hSorted : newestFirst key' (rows.map f) = (newestFirst key rows).map f := by
    unfold newestFirst
    refine (List.map_insertionSort (fun r r' => key r' ≤ key r) (fun r r' => key' r' ≤ key' r)
      f rows fun r _ r' _ => ?_).symm
    rw [hKey, hKey]
  have hRemaining : remaining key' cursor (rows.map f) = (remaining key cursor rows).map f := by
    simp only [remaining, below, hSorted, List.filter_map, Function.comp_def, hKey]
  have hComp : key' ∘ f = key := funext hKey
  have hPage : ∀ p : Page β κ, p = ⟨p.rows, p.cursor⟩ := fun _ => rfl
  rw [hPage (page key' limit cursor (rows.map f)), page_rows, page_cursor, page_rows, page_cursor,
    hRemaining, List.length_map, ← List.map_take, List.getLast?_map, Option.map_map, hComp]

end Pages

/-! ## A client that follows the cursors -/

/-- What a client does next. -/
inductive Client (γ ε : Type) where
  | asks (cursor : Option γ)
  | done
  | failed (e : ε)

section Client

variable {α γ ε : Type}

/-- The client after an answer. -/
def Client.after : Except ε (Page α γ) → Client γ ε
  | .ok p =>
      match p.cursor with
      | some c => .asks (some c)
      | none => .done
  | .error e => .failed e

/-- The rows of an answer. -/
def answered : Except ε (Page α γ) → List α
  | .ok p => p.rows
  | .error _ => []

variable (answer : Nat → Option γ → Except ε (Page α γ))

/-- The client after `n` requests, of which the `i`-th is answered by `answer i`. -/
def client : Nat → Client γ ε
  | 0 => .asks none
  | n + 1 =>
      match client n with
      | .asks c => .after (answer n c)
      | c => c

/-- The rows of the first `n` answers. -/
def received : Nat → List α
  | 0 => []
  | n + 1 =>
      match client answer n with
      | .asks c => received n ++ answered (answer n c)
      | _ => received n

variable {κ : Type} [LinearOrder κ] (key : α → κ)

/-- **Exact pagination** of tables by answers: the client never fails, its keys fall
strictly, its rows were in the table when they were served, it has each key that was there
at all its requests exactly once when it is done, and it is done some time unless there are
always new keys. -/
structure Exact (tables : Nat → List α) : Prop where
  not_failed : ∀ n e, client answer n ≠ .failed e
  falling : ∀ n, (received answer n).Pairwise fun r r' => key r' < key r
  sound : ∀ n, ∀ r ∈ received answer n, ∃ i < n, r ∈ tables i
  once : ∀ n, client answer n = .done → ∀ k, (∀ i < n, k ∈ (tables i).map key) →
    ((received answer n).map key).count k = 1
  ends : {k | ∃ i, k ∈ (tables i).map key}.Finite → ∃ n, client answer n = .done

/-- Every answer is a page of the table of its time, with its cursor written down. -/
def Serves (encode : κ → γ) (limits : Nat → Nat) (tables : Nat → List α) : Prop :=
  ∀ i k, answer i (k.map encode) =
    .ok ((page key (limits i) k (tables i)).mapCursor encode)

/-- What a client knows after `n` requests when it goes on with `cursor`: it has every key
from the cursor up that never left the table, and one row or more of each answer. -/
structure Progress (tables : Nat → List α) (n : Nat) (cursor : Option κ) (got : List α) :
    Prop where
  falling : got.Pairwise fun r r' => key r' < key r
  sound : ∀ r ∈ got, ∃ i < n, r ∈ tables i
  above : ∀ r ∈ got, ∃ k ∈ cursor, k ≤ key r
  complete : ∀ k ∈ cursor, ∀ k', k ≤ k' → (∀ i < n, k' ∈ (tables i).map key) → k' ∈ got.map key
  long : n ≤ got.length

section Serves

variable {answer key} {encode : κ → γ} {limits : Nat → Nat} {tables : Nat → List α}

/-- The keys of a page fall below all that was received. -/
theorem Progress.append_falling {n : Nat} {cursor : Option κ} {got : List α}
    (h : Progress key tables n cursor got) (hKeys : ((tables n).map key).Nodup) {limit : Nat} :
    (got ++ (page key limit cursor (tables n)).rows).Pairwise fun r r' => key r' < key r := by
  refine List.pairwise_append.2 ⟨h.falling, page_sorted hKeys, fun r hr r' hr' => ?_⟩
  obtain ⟨k, hk, hAbove⟩ := h.above r hr
  exact lt_of_lt_of_le ((mem_page hr').2 k hk) hAbove

theorem Progress.append_sound {n : Nat} {cursor : Option κ} {got : List α}
    (h : Progress key tables n cursor got) {limit : Nat} :
    ∀ r ∈ got ++ (page key limit cursor (tables n)).rows, ∃ i < n + 1, r ∈ tables i := by
  intro r hr
  rcases List.mem_append.1 hr with hr | hr
  · obtain ⟨i, hi, hMem⟩ := h.sound r hr
    exact ⟨i, by omega, hMem⟩
  · exact ⟨n, Nat.lt_succ_self n, (mem_page hr).1⟩

/-- One more page with a cursor: the rows received so far are those above the cursor, and the
page adds those just below it. -/
theorem Progress.next {n : Nat} {cursor : Option κ} {got : List α}
    (h : Progress key tables n cursor got) (hKeys : ((tables n).map key).Nodup) {limit : Nat}
    {k : κ} (hNext : (page key limit cursor (tables n)).cursor = some k) :
    Progress key tables (n + 1) (some k) (got ++ (page key limit cursor (tables n)).rows) := by
  obtain ⟨⟨last, hLast, hKey⟩, hUp, hAll⟩ := page_next hNext hKeys
  refine ⟨h.append_falling hKeys, h.append_sound, fun r hr => ⟨k, rfl, ?_⟩, ?_, ?_⟩
  · rcases List.mem_append.1 hr with hr | hr
    · obtain ⟨k', hk', hAbove⟩ := h.above r hr
      have hBelow := (mem_page hLast).2 k' hk'
      rw [hKey] at hBelow
      exact (lt_of_lt_of_le hBelow hAbove).le
    · exact hUp r hr
  · rintro _ ⟨⟩ k' hFrom hStayed
    rw [List.map_append, List.mem_append]
    by_cases hOld : ∃ c ∈ cursor, c ≤ k'
    · obtain ⟨c, hc, hAbove⟩ := hOld
      exact .inl (h.complete c hc k' hAbove fun i hi => hStayed i (by omega))
    · obtain ⟨r, hr, rfl⟩ := List.mem_map.1 (hStayed n (Nat.lt_succ_self n))
      have hBelow : ∀ c ∈ cursor, key r < c := fun c hc =>
        not_le.1 fun hAbove => hOld ⟨c, hc, hAbove⟩
      exact .inr (List.mem_map_of_mem (hAll r hr hBelow hFrom))
  · have hSome : 0 < (page key limit cursor (tables n)).rows.length :=
      List.length_pos_of_mem hLast
    have hLong := h.long
    rw [List.length_append]
    omega

/-- After the last page every key that never left the table has been received. -/
theorem Progress.last {n : Nat} {cursor : Option κ} {got : List α}
    (h : Progress key tables n cursor got) {limit : Nat} (hLimit : 0 < limit)
    (hNext : (page key limit cursor (tables n)).cursor = none) {k : κ}
    (hStayed : ∀ i < n + 1, k ∈ (tables i).map key) :
    k ∈ (got ++ (page key limit cursor (tables n)).rows).map key := by
  rw [List.map_append, List.mem_append]
  by_cases hOld : ∃ c ∈ cursor, c ≤ k
  · obtain ⟨c, hc, hAbove⟩ := hOld
    exact .inl (h.complete c hc k hAbove fun i hi => hStayed i (by omega))
  · obtain ⟨r, hr, rfl⟩ := List.mem_map.1 (hStayed n (Nat.lt_succ_self n))
    have hBelow : ∀ c ∈ cursor, key r < c := fun c hc =>
      not_le.1 fun hAbove => hOld ⟨c, hc, hAbove⟩
    exact .inr (List.mem_map_of_mem (mem_page_of_last hNext hLimit hr hBelow))

/-- What a client has when it goes on, and when it is done. -/
def Holds (key : α → κ) (encode : κ → γ) (tables : Nat → List α) (n : Nat) (got : List α) :
    Client γ ε → Prop
  | .asks c => ∃ cursor, c = cursor.map encode ∧ Progress key tables n cursor got
  | .done => got.Pairwise (fun r r' => key r' < key r) ∧
      (∀ r ∈ got, ∃ i < n, r ∈ tables i) ∧
        ∀ k, (∀ i < n, k ∈ (tables i).map key) → k ∈ got.map key
  | .failed _ => False

/-- Falling keys are distinct. -/
theorem nodup_of_falling {got : List α} (h : got.Pairwise fun r r' => key r' < key r) :
    (got.map key).Nodup :=
  List.pairwise_map.2 (h.imp fun hLess => (ne_of_lt hLess).symm)

variable (hServes : Serves answer key encode limits tables)
  (hKeys : ∀ i, ((tables i).map key).Nodup) (hLimits : ∀ i, 0 < limits i)
include hServes hKeys hLimits

/-- The induction over the requests: what was received is in order, and what is missing is
below the cursor. -/
theorem Serves.holds (n : Nat) :
    Holds key encode tables n (received answer n) (client answer n) := by
  induction n with
  | zero =>
      exact ⟨none, rfl, List.Pairwise.nil, fun r hr => (nomatch hr), fun r hr => (nomatch hr),
        fun k hk => (nomatch hk), Nat.le_refl 0⟩
  | succ n ih =>
      rw [client, received]
      cases hClient : client answer n with
      | asks c =>
          rw [hClient] at ih
          obtain ⟨cursor, rfl, hProgress⟩ := ih
          show Holds key encode tables (n + 1)
            (received answer n ++ answered (answer n (cursor.map encode)))
            (Client.after (answer n (cursor.map encode)))
          rw [hServes n cursor]
          show Holds key encode tables (n + 1)
            (received answer n ++ (page key (limits n) cursor (tables n)).rows)
            (match (page key (limits n) cursor (tables n)).cursor.map encode with
              | some c => .asks (some c)
              | none => .done)
          cases hNext : (page key (limits n) cursor (tables n)).cursor with
          | some k => exact ⟨some k, rfl, hProgress.next (hKeys n) hNext⟩
          | none =>
              exact ⟨hProgress.append_falling (hKeys n), hProgress.append_sound,
                fun k hStayed => hProgress.last (hLimits n) hNext hStayed⟩
      | done =>
          rw [hClient] at ih
          obtain ⟨hFalling, hSound, hAll⟩ := ih
          refine ⟨hFalling, fun r hr => ?_, fun k hStayed => hAll k fun i hi => ?_⟩
          · obtain ⟨i, hi, hMem⟩ := hSound r hr
            exact ⟨i, by omega, hMem⟩
          · exact hStayed i (by omega)
      | failed e =>
          rw [hClient] at ih
          exact ih.elim

/-- **Pages served from tables with distinct keys are exact**: no failure, no row twice, none
left out that is in every table, and an end where there are finitely many keys. -/
theorem Serves.exact : Exact answer key tables := by
  have hHolds := hServes.holds hKeys hLimits
  have hFalling : ∀ n, (received answer n).Pairwise fun r r' => key r' < key r := by
    intro n
    have hState := hHolds n
    cases hClient : client answer n with
    | asks c =>
        rw [hClient] at hState
        obtain ⟨cursor, -, hProgress⟩ := hState
        exact hProgress.falling
    | done =>
        rw [hClient] at hState
        exact hState.1
    | failed e =>
        rw [hClient] at hState
        exact hState.elim
  have hSound : ∀ n, ∀ r ∈ received answer n, ∃ i < n, r ∈ tables i := by
    intro n
    have hState := hHolds n
    cases hClient : client answer n with
    | asks c =>
        rw [hClient] at hState
        obtain ⟨cursor, -, hProgress⟩ := hState
        exact hProgress.sound
    | done =>
        rw [hClient] at hState
        exact hState.2.1
    | failed e =>
        rw [hClient] at hState
        exact hState.elim
  refine ⟨fun n e hFailed => ?_, hFalling, hSound, fun n hDone k hStayed => ?_, fun hFinite => ?_⟩
  · have hState := hHolds n
    rw [hFailed] at hState
    exact hState
  · have hState := hHolds n
    rw [hDone] at hState
    exact List.count_eq_one_of_mem (nodup_of_falling (hFalling n)) (hState.2.2 k hStayed)
  · -- a client that goes on has one key or more of each answer, all of them distinct
    have hCard : ∀ n c, client answer n = .asks c → n ≤ hFinite.toFinset.card := by
      intro n c hAsks
      have hState := hHolds n
      rw [hAsks] at hState
      obtain ⟨cursor, -, hProgress⟩ := hState
      have hSubset : ((received answer n).map key).toFinset ⊆ hFinite.toFinset := by
        intro k hk
        obtain ⟨r, hr, rfl⟩ := List.mem_map.1 (List.mem_toFinset.1 hk)
        obtain ⟨i, -, hMem⟩ := hSound n r hr
        rw [Set.Finite.mem_toFinset]
        exact ⟨i, List.mem_map_of_mem hMem⟩
      have hLe := Finset.card_le_card hSubset
      rw [List.toFinset_card_of_nodup (nodup_of_falling (hFalling n)), List.length_map] at hLe
      exact hProgress.long.trans hLe
    refine ⟨hFinite.toFinset.card + 1, ?_⟩
    have hState := hHolds (hFinite.toFinset.card + 1)
    cases hClient : client answer (hFinite.toFinset.card + 1) with
    | asks c => exact absurd (hCard _ c hClient) (Nat.not_succ_le_self _)
    | done => rfl
    | failed e =>
        rw [hClient] at hState
        exact hState.elim

end Serves

end Client

end AgentShield.Lib.Keyset
