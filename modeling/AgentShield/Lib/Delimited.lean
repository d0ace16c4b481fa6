import Mathlib.Data.List.Basic

/-!
# Texts joined with a delimiter

A joined text can be cut at the first or at the last delimiter when the part before or
after it has none, and otherwise in as many ways as it has delimiters (`cuts`).  Two texts
that are joined to the same text are the same or cut at different delimiters (`cut_apart`).

Items between separators, each of them a mark with a gap behind it, up to a closing mark are
read back when each item is read back in front of one of the marks
(`closedItems_injective`).
-/

namespace AgentShield.Lib.Delimited

variable {α : Type} {d : α} {a b s t : List α}

/-- The text before the first delimiter. -/
theorem cut_first (ha : d ∉ a) (hb : d ∉ b) (h : a ++ d :: s = b ++ d :: t) : a = b ∧ s = t := by
  induction a generalizing b with
  | nil =>
      cases b with
      | nil => exact ⟨rfl, (List.cons.inj h).2⟩
      | cons y b =>
          have hHead := (List.cons.inj h).1
          exact absurd (hHead ▸ List.mem_cons_self) hb
  | cons x a ih =>
      cases b with
      | nil =>
          have hHead := (List.cons.inj h).1
          exact absurd (hHead ▸ List.mem_cons_self) ha
      | cons y b =>
          obtain ⟨rfl, hRest⟩ := List.cons.inj h
          have ha' : d ∉ a := fun hd => ha (List.mem_cons_of_mem _ hd)
          have hb' : d ∉ b := fun hd => hb (List.mem_cons_of_mem _ hd)
          obtain ⟨rfl, rfl⟩ := ih ha' hb' hRest
          exact ⟨rfl, rfl⟩

/-- The text after the last delimiter. -/
theorem cut_last (hs : d ∉ s) (ht : d ∉ t) (h : a ++ d :: s = b ++ d :: t) : a = b ∧ s = t := by
  have hReverse := congrArg List.reverse h
  simp only [List.reverse_append, List.reverse_cons, List.append_assoc, List.cons_append,
    List.nil_append] at hReverse
  have hs' : d ∉ s.reverse := fun hd => hs (List.mem_reverse.1 hd)
  have ht' : d ∉ t.reverse := fun hd => ht (List.mem_reverse.1 hd)
  obtain ⟨hAfter, hBefore⟩ := cut_first hs' ht' hReverse
  exact ⟨List.reverse_injective hBefore, List.reverse_injective hAfter⟩

/-- Two ways to cut one text are the same, or there is a text between the two cuts. -/
theorem cut_apart : a ++ d :: s = b ++ d :: t ↔ (a = b ∧ s = t) ∨
    (∃ m, b = a ++ d :: m ∧ s = m ++ d :: t) ∨ ∃ m, a = b ++ d :: m ∧ t = m ++ d :: s := by
  constructor
  · intro h
    rcases List.append_eq_append_iff.1 h with ⟨m, rfl, hRest⟩ | ⟨m, rfl, hRest⟩
    · cases m with
      | nil => exact .inl ⟨(List.append_nil a).symm, (List.cons.inj hRest).2⟩
      | cons x m =>
          obtain ⟨rfl, rfl⟩ := List.cons.inj hRest
          exact .inr (.inl ⟨m, rfl, rfl⟩)
    · cases m with
      | nil => exact .inl ⟨List.append_nil b, (List.cons.inj hRest).2.symm⟩
      | cons x m =>
          obtain ⟨rfl, rfl⟩ := List.cons.inj hRest
          exact .inr (.inr ⟨m, rfl, rfl⟩)
  · rintro (⟨rfl, rfl⟩ | ⟨m, rfl, rfl⟩ | ⟨m, rfl, rfl⟩)
    · rfl
    · simp
    · simp

/-! ## Items between separators -/

section Items

variable {β : Type}

/-- The items after the first, each behind a separator and its gap, and the closing mark. -/
def moreItems (item : β → List α) (sep : α) (gap : List α) (close : α) : List β → List α
  | [] => [close]
  | x :: xs => sep :: (gap ++ (item x ++ moreItems item sep gap close xs))

/-- The items with separators between them, and the closing mark. -/
def closedItems (item : β → List α) (sep : α) (gap : List α) (close : α) : List β → List α
  | [] => [close]
  | x :: xs => item x ++ moreItems item sep gap close xs

/-- What `intercalate` writes between an opening and a closing mark is the recursive form that
the injectivity proof goes by. -/
theorem intercalate_closed (item : β → List α) (sep : α) (gap : List α) (close : α)
    (xs : List β) : (sep :: gap).intercalate (xs.map item) ++ [close] =
      closedItems item sep gap close xs := by
  have hMore : ∀ (l : List α) (xs : List β), (sep :: gap).intercalate (l :: xs.map item) ++
      [close] = l ++ moreItems item sep gap close xs := by
    intro l xs
    induction xs generalizing l with
    | nil => simp [moreItems]
    | cons x xs ih =>
        have hRest := ih (item x)
        simp only [List.map_cons, List.intercalate_cons_cons, List.append_assoc, moreItems,
          List.cons_append]
        rw [← hRest]
  cases xs with
  | nil => rfl
  | cons x xs => exact hMore (item x) xs

/-- A character of the further items is one of the gap, the closing mark or a character of an
item. -/
theorem mem_moreItems {item : β → List α} {sep close c : α} {gap : List α} {xs : List β}
    (h : c ∈ moreItems item sep gap close xs) :
    c ∈ sep :: gap ∨ c = close ∨ ∃ x ∈ xs, c ∈ item x := by
  induction xs with
  | nil => exact .inr (.inl (List.mem_singleton.1 h))
  | cons x xs ih =>
      rw [moreItems, ← List.cons_append, List.mem_append, List.mem_append] at h
      rcases h with hSep | hItem | hMore
      · exact .inl hSep
      · exact .inr (.inr ⟨x, List.mem_cons_self, hItem⟩)
      · exact (ih hMore).imp_right fun hOther => hOther.imp_right fun ⟨y, hy, hc⟩ =>
          ⟨y, List.mem_cons_of_mem _ hy, hc⟩

/-- A character of a closed list is one of the gap, the closing mark or a character of an
item. -/
theorem mem_closedItems {item : β → List α} {sep close c : α} {gap : List α} {xs : List β}
    (h : c ∈ closedItems item sep gap close xs) :
    c ∈ sep :: gap ∨ c = close ∨ ∃ x ∈ xs, c ∈ item x := by
  cases xs with
  | nil => exact .inr (.inl (List.mem_singleton.1 h))
  | cons x xs =>
      have hMore : c ∈ moreItems item sep gap close (x :: xs) :=
        List.mem_cons_of_mem sep (List.mem_append_right gap h)
      exact mem_moreItems hMore

/-- What may follow an item. -/
def Ends (sep close : α) (s : List α) : Prop := s.head? = some sep ∨ s.head? = some close

variable {item : β → List α} {sep close : α} {gap : List α}

/-- What follows an item starts with the separator or the closing mark, so the item's end can
be seen. -/
theorem ends_moreItems (xs : List β) : Ends sep close (moreItems item sep gap close xs) := by
  cases xs with
  | nil => exact .inr rfl
  | cons x xs => exact .inl rfl

section Reading

variable (hCut : ∀ x y s t, Ends sep close s → Ends sep close t → item x ++ s = item y ++ t →
  x = y ∧ s = t)
include hCut

/-- The further items of a list can be read back from what is written of them. -/
theorem moreItems_injective (hMarks : sep ≠ close) :
    Function.Injective (moreItems item sep gap close) := by
  intro xs ys h
  induction xs generalizing ys with
  | nil =>
      cases ys with
      | nil => rfl
      | cons y ys => exact absurd (List.cons.inj h).1.symm hMarks
  | cons x xs ih =>
      cases ys with
      | nil => exact absurd (List.cons.inj h).1 hMarks
      | cons y ys =>
          have hRest := List.append_cancel_left (List.cons.inj h).2
          have hItem := hCut x y _ _ (ends_moreItems xs) (ends_moreItems ys) hRest
          rw [hItem.1, ih hItem.2]

/-- A closed list of items can be read back, the empty one included. -/
theorem closedItems_injective (hMarks : sep ≠ close)
    (hOpen : ∀ x s, item x ++ s ≠ [close]) :
    Function.Injective (closedItems item sep gap close) := by
  intro xs ys h
  cases xs with
  | nil =>
      cases ys with
      | nil => rfl
      | cons y ys => exact absurd h.symm (hOpen y _)
  | cons x xs =>
      cases ys with
      | nil => exact absurd h (hOpen x _)
      | cons y ys =>
          have hItem := hCut x y _ _ (ends_moreItems xs) (ends_moreItems ys) h
          rw [hItem.1, moreItems_injective hCut hMarks hItem.2]

end Reading

end Items

variable [DecidableEq α]

/-- Every way to cut a text at a delimiter. -/
def cuts (d : α) : List α → List (List α × List α)
  | [] => []
  | x :: xs =>
      let later := (cuts d xs).map fun cut => (x :: cut.1, cut.2)
      if x = d then ([], xs) :: later else later

/-- The cuts of a text at a mark are exactly the ways to see it as what lies before the mark
and what lies after it. -/
theorem mem_cuts {l : List α} : (a, s) ∈ cuts d l ↔ l = a ++ d :: s := by
  induction l generalizing a with
  | nil => simp [cuts]
  | cons x xs ih =>
      have hLater : (a, s) ∈ (cuts d xs).map (fun cut => (x :: cut.1, cut.2)) ↔
          ∃ a', a = x :: a' ∧ xs = a' ++ d :: s := by
        simp only [List.mem_map, Prod.mk.injEq, Prod.exists]
        constructor
        · rintro ⟨a', s', hMem, rfl, rfl⟩
          exact ⟨a', rfl, ih.1 hMem⟩
        · rintro ⟨a', rfl, hCut⟩
          exact ⟨a', s, ih.2 hCut, rfl, rfl⟩
      have hCons : x :: xs = a ++ d :: s ↔
          (x = d ∧ a = [] ∧ s = xs) ∨ ∃ a', a = x :: a' ∧ xs = a' ++ d :: s := by
        cases a with
        | nil => simp [eq_comm]
        | cons y a => simp [eq_comm]
      rw [hCons, ← hLater, cuts]
      by_cases hx : x = d
      · rw [if_pos hx, List.mem_cons, Prod.mk.injEq]
        simp only [hx, true_and]
      · rw [if_neg hx]
        simp only [hx, false_and, false_or]

end AgentShield.Lib.Delimited
