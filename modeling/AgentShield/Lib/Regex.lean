import Mathlib.Data.List.Basic

/-!
# Regular expressions over characters

A matcher for the expressions of a backtracking engine that are asked only
whether they match: which of two alternatives is tried first, and how greedy a
repetition is, makes no difference here.  The classes of characters, and what a
word character is, are predicates of the expression.
-/

namespace AgentShield.Lib

/-- A regular expression as `re` reads it. Groups and what they capture are left out: only
whether a pattern is found counts. -/
inductive Regex where
  | empty
  | char (accepts : Char → Bool)
  | seq (r s : Regex)
  | alt (r s : Regex)
  | star (r : Regex)
  /-- Between a word character and none. -/
  | wordEdge (isWord : Char → Bool)
  /-- At the end, or before a newline that ends the text. -/
  | atEnd

namespace Regex

/-- A position in a text: the character before it and the text after it. -/
structure Cursor where
  before : Option Char
  rest : List Char

/-- All positions that repetitions of `step` reach.  A repetition that consumes
nothing ends there. -/
def closure (step : Cursor → List Cursor) : Nat → Cursor → List Cursor
  | 0, c => [c]
  | n + 1, c =>
      c :: ((step c).filter fun c' => c'.rest.length < c.rest.length).flatMap (closure step n)

/-- The positions at which a match that starts at the cursor ends, in the order in which a
backtracking matcher tries them. -/
def ends : Regex → Cursor → List Cursor
  | empty, c => [c]
  | char accepts, c =>
      match c.rest with
      | [] => []
      | x :: rest => if accepts x then [⟨some x, rest⟩] else []
  | seq r s, c => (ends r c).flatMap (ends s)
  | alt r s, c => ends r c ++ ends s c
  | star r, c => closure (ends r) c.rest.length c
  | wordEdge isWord, c =>
      if c.before.any isWord != c.rest.head?.any isWord then [c] else []
  | atEnd, c => if c.rest = [] ∨ c.rest = ['\n'] then [c] else []

/-- The expression matches at the start of the text. -/
def matchStart (r : Regex) (text : String) : Bool :=
  !(r.ends ⟨none, text.toList⟩).isEmpty

/-- `search` from a place in the text, with the character before it: the pattern is tried here
and at every later place. -/
def searchFrom (r : Regex) : Option Char → List Char → Bool
  | before, [] => !(r.ends ⟨before, []⟩).isEmpty
  | before, x :: rest =>
      !(r.ends ⟨before, x :: rest⟩).isEmpty || searchFrom r (some x) rest

/-- The expression matches somewhere in the text. -/
def search (r : Regex) (text : String) : Bool :=
  searchFrom r none text.toList

/-! ## Building expressions -/

/-- The pattern or nothing: `r?`. -/
def opt (r : Regex) : Regex := alt r empty

/-- The pattern once or more: `r+`. -/
def plus (r : Regex) : Regex := seq r (star r)

/-- The pattern exactly `n` times: `r{n}`. -/
def times : Nat → Regex → Regex
  | 0, _ => empty
  | n + 1, r => seq r (times n r)

/-- `n` or more repetitions. -/
def atLeast (n : Nat) (r : Regex) : Regex := seq (times n r) (star r)

/-- Between `m` and `n` repetitions. -/
def between (m n : Nat) (r : Regex) : Regex := seq (times m r) (times (n - m) (opt r))

/-- The patterns one after the other. -/
def concat : List Regex → Regex
  | [] => empty
  | r :: rs => seq r (concat rs)

/-- One of the alternatives. -/
def oneOf : Regex → List Regex → Regex
  | r, [] => r
  | r, s :: ss => alt r (oneOf s ss)

/-- The characters of a text, up to `fold`. -/
def literal (fold : Char → Char) (text : String) : Regex :=
  concat (text.toList.map fun x => char fun c => fold c == fold x)

/-- A character between two others, ends included: `[lo-hi]`. -/
def inRange (lo hi c : Char) : Bool := lo ≤ c && c ≤ hi

/-! ## What a match consumes -/

/-- The expression consumes characters of a class only.  Edges and ends consume nothing. -/
def Only (p : Char → Prop) : Regex → Prop
  | empty => True
  | char accepts => ∀ x, accepts x = true → p x
  | seq r s => Only p r ∧ Only p s
  | alt r s => Only p r ∧ Only p s
  | star r => Only p r
  | wordEdge _ => True
  | atEnd => True

section Only

variable {p : Char → Prop}

/-- The match between two positions consumes characters of the class. -/
def Passes (p : Char → Prop) (c c' : Cursor) : Prop :=
  ∃ consumed, c.rest = consumed ++ c'.rest ∧ ∀ x ∈ consumed, p x

theorem Passes.refl (c : Cursor) : Passes p c c := ⟨[], rfl, by simp⟩

/-- What is passed over on the way to a second cursor and from there to a third is passed over
on the whole way. -/
theorem Passes.trans {c₁ c₂ c₃ : Cursor} (h : Passes p c₁ c₂) (h' : Passes p c₂ c₃) :
    Passes p c₁ c₃ := by
  obtain ⟨first, hFirst, hAll⟩ := h
  obtain ⟨second, hSecond, hAll'⟩ := h'
  refine ⟨first ++ second, by rw [hFirst, hSecond, List.append_assoc], fun x hx => ?_⟩
  rcases List.mem_append.1 hx with hx | hx
  · exact hAll x hx
  · exact hAll' x hx

/-- A repetition passes only over characters that each of its rounds may pass over. -/
theorem passes_closure {step : Cursor → List Cursor}
    (hStep : ∀ c, ∀ c' ∈ step c, Passes p c c') (n : Nat) :
    ∀ c, ∀ c' ∈ closure step n c, Passes p c c' := by
  induction n with
  | zero =>
      intro c c' h
      rw [List.mem_singleton.1 h]
      exact Passes.refl c
  | succ n ih =>
      intro c c' h
      rcases List.mem_cons.1 h with rfl | h
      · exact Passes.refl c'
      · obtain ⟨next, hNext, hRest⟩ := List.mem_flatMap.1 h
        exact (hStep c next (List.mem_filter.1 hNext).1).trans (ih next c' hRest)

/-- **A match consumes what its expression accepts**, character by character.  By induction
over the expression; the repetitions are counted by what is left of the text. -/
theorem passes_ends {r : Regex} (h : Only p r) : ∀ c, ∀ c' ∈ ends r c, Passes p c c' := by
  induction r with
  | empty =>
      intro c c' hEnds
      rw [List.mem_singleton.1 hEnds]
      exact Passes.refl c
  | char accepts =>
      intro c c' hEnds
      unfold ends at hEnds
      cases hRest : c.rest with
      | nil =>
          rw [hRest] at hEnds
          cases hEnds
      | cons x rest =>
          simp only [hRest] at hEnds
          by_cases hAccepts : accepts x = true
          · rw [if_pos hAccepts] at hEnds
            rw [List.mem_singleton.1 hEnds]
            exact ⟨[x], hRest, by simpa using h x hAccepts⟩
          · rw [if_neg hAccepts] at hEnds
            cases hEnds
  | seq r s ihr ihs =>
      intro c c' hEnds
      obtain ⟨next, hNext, hRest⟩ := List.mem_flatMap.1 hEnds
      exact (ihr h.1 c next hNext).trans (ihs h.2 next c' hRest)
  | alt r s ihr ihs =>
      intro c c' hEnds
      rcases List.mem_append.1 hEnds with hEnds | hEnds
      · exact ihr h.1 c c' hEnds
      · exact ihs h.2 c c' hEnds
  | star r ih => exact fun c c' hEnds => passes_closure (ih h) _ c c' hEnds
  | wordEdge isWord =>
      intro c c' hEnds
      unfold ends at hEnds
      split at hEnds
      · rw [List.mem_singleton.1 hEnds]
        exact Passes.refl c
      · cases hEnds
  | atEnd =>
      intro c c' hEnds
      unfold ends at hEnds
      split at hEnds
      · rw [List.mem_singleton.1 hEnds]
        exact Passes.refl c
      · cases hEnds

theorem only_times {r : Regex} (h : Only p r) (n : Nat) : Only p (times n r) := by
  induction n with
  | zero => trivial
  | succ n ih => exact ⟨h, ih⟩

theorem only_between {r : Regex} (h : Only p r) (m n : Nat) : Only p (between m n r) :=
  ⟨only_times h m, only_times (r := opt r) ⟨h, trivial⟩ (n - m)⟩

/-- A pattern that is anchored at its end passes only over its own characters, and stops at
the end of the text or before its last newline. -/
theorem passes_ends_concat {rs : List Regex} (h : ∀ r ∈ rs, Only p r) :
    ∀ c, ∀ c' ∈ ends (concat (rs ++ [atEnd])) c,
      Passes p c c' ∧ (c'.rest = [] ∨ c'.rest = ['\n']) := by
  induction rs with
  | nil =>
      intro c c' hEnds
      obtain ⟨next, hNext, hRest⟩ := List.mem_flatMap.1 hEnds
      rw [List.mem_singleton.1 hRest]
      unfold ends at hNext
      split at hNext
      · rename_i hEnd
        rw [List.mem_singleton.1 hNext]
        exact ⟨Passes.refl c, hEnd⟩
      · cases hNext
  | cons r rs ih =>
      intro c c' hEnds
      obtain ⟨next, hNext, hRest⟩ := List.mem_flatMap.1 hEnds
      have hFirst := passes_ends (h r List.mem_cons_self) c next hNext
      obtain ⟨hLater, hEnd⟩ := ih (fun s hs => h s (List.mem_cons_of_mem _ hs)) next c' hRest
      exact ⟨hFirst.trans hLater, hEnd⟩

/-- A text that is matched up to its end is consumed, but for a newline that ends it. -/
theorem consumed_of_matchStart {rs : List Regex} (h : ∀ r ∈ rs, Only p r) {text : String}
    (hMatch : matchStart (concat (rs ++ [atEnd])) text = true) :
    ∃ consumed, (text.toList = consumed ∨ text.toList = consumed ++ ['\n']) ∧
      ∀ x ∈ consumed, p x := by
  unfold matchStart at hMatch
  obtain ⟨c', hEnds⟩ := List.exists_mem_of_ne_nil _ (by simpa using hMatch)
  obtain ⟨⟨consumed, hText, hAll⟩, hEnd⟩ := passes_ends_concat h _ c' hEnds
  refine ⟨consumed, ?_, hAll⟩
  rcases hEnd with hEnd | hEnd
  · exact .inl (by simpa [hEnd] using hText)
  · exact .inr (by simpa [hEnd] using hText)

end Only

end Regex

end AgentShield.Lib
