import AgentShield.Lib.Course
import Mathlib.Algebra.BigOperators.Group.Finset.Piecewise

/-!
# Changes and the notes of them

A handler makes a change with one step and notes it with a later one, and others do the same
in between.  For two counts of a state, what was `made` and what is `told`, `Settles` follows
how many notes a handler owes and says with how many it may end.  A `Tally` is the sum over a
running service: what was made is what is told and what the handlers owe together, so that in
every run no more is told than was made (`Tally.told_le`), and as much where nothing is owed
(`Tally.made_eq`).  Only the handlers of some requests need be followed, when the others tell
nothing (`Tally.run`).
-/

namespace AgentShield.Lib

namespace Async

variable {σ ε α β : Type}

/-- The handler owes `owed` notes.  It ends with a value and a debt in `Q`, or with an error
and a debt in `E`. -/
def Settles (made told : σ → Nat) (E : ε → Nat → Prop) (Q : α → Nat → Prop) :
    Async σ ε α → Nat → Prop
  | done (.ok a), owed => Q a owed
  | done (.error e), owed => E e owed
  | await upd k, owed => ∀ s, ∃ owed',
      made (upd s) + told s + owed = made s + told (upd s) + owed' ∧
        Settles made told E Q (k s) owed'

section Rules

variable {made told : σ → Nat} {E : ε → Nat → Prop} {Q : α → Nat → Prop} {Q' : β → Nat → Prop}
  {owed : Nat}

/-- The second part owes what the first has left. -/
theorem Settles.bind {prog : Async σ ε α} {next : α → Async σ ε β}
    (h : Settles made told E Q prog owed)
    (hNext : ∀ a o, Q a o → Settles made told E Q' (next a) o) :
    Settles made told E Q' (prog >>= next) owed := by
  induction prog generalizing owed with
  | done r =>
      cases r with
      | ok a => exact hNext a owed h
      | error e => exact h
  | await upd k ih =>
      intro s
      obtain ⟨owed', hStep, hRest⟩ := h s
      exact ⟨owed', hStep, ih s hRest⟩

/-- A handler that neither makes nor tells anything. -/
theorem Settles.of_steps {G : σ → σ → Prop} {P : α → Prop} {prog : Async σ ε α}
    (h : Steps (fun _ => True) G P prog)
    (hG : ∀ s s', G s s' → made s' = made s ∧ told s' = told s) (hEnd : ∀ e, E e owed) :
    Settles made told E (fun _ o => o = owed) prog owed := by
  induction prog with
  | done r =>
      cases r with
      | ok a => exact rfl
      | error e => exact hEnd e
  | await upd k ih =>
      intro s
      obtain ⟨hStep, hk⟩ := h s trivial
      obtain ⟨hMade, hTold⟩ := hG s (upd s) hStep
      exact ⟨owed, by rw [hMade, hTold], ih s hk⟩

/-- The next step, which may fail, leaves a debt that is known again. -/
theorem Settles.resumed {fault : ε} {upd : σ → σ} {k : σ → Async σ ε α}
    (h : Settles made told E Q (.await upd k) owed) (hFault : ∀ o, E fault o) (f : Fault)
    (s : σ) : ∃ owed', made (Pool.effect f upd s) + told s + owed =
        made s + told (Pool.effect f upd s) + owed' ∧
      Settles made told E Q (Pool.resumed fault f k s) owed' := by
  cases f with
  | none => exact h s
  | before => exact ⟨owed, rfl, hFault owed⟩
  | after =>
      obtain ⟨owed', hStep, -⟩ := h s
      exact ⟨owed', hStep, hFault owed'⟩

theorem Settles.raise {e : ε} (hEnd : E e owed) :
    Settles made told E Q (raise e : Async σ ε α) owed := hEnd

theorem Settles.raiseIf_bind {p : Prop} [Decidable p] {e : ε} {next : Unit → Async σ ε β}
    (hEnd : E e owed) (h : ¬ p → Settles made told E Q' (next ()) owed) :
    Settles made told E Q' (raiseIf p e >>= next) owed := by
  unfold raiseIf
  by_cases hp : p
  · rw [if_pos hp]
    exact hEnd
  · rw [if_neg hp]
    exact h hp

theorem Settles.require_bind {o : Option α} {e : ε} {next : α → Async σ ε β}
    (hNone : E e owed) (h : ∀ a, o = some a → Settles made told E Q' (next a) owed) :
    Settles made told E Q' (require o e >>= next) owed := by
  cases o with
  | none => exact hNone
  | some a => exact h a rfl

theorem Settles.read_bind {f : σ → α} {next : α → Async σ ε β}
    (h : ∀ s, Settles made told E Q' (next (f s)) owed) :
    Settles made told E Q' (read f >>= next) owed := fun s => ⟨owed, rfl, h s⟩

theorem Settles.write_bind {f : σ → σ} {next : Unit → Async σ ε β}
    (hSame : ∀ s, made (f s) = made s ∧ told (f s) = told s)
    (h : Settles made told E Q' (next ()) owed) :
    Settles made told E Q' (write f >>= next) owed :=
  fun s => ⟨owed, by rw [(hSame s).1, (hSame s).2], h⟩

end Rules

/-! ## Handlers that make nothing before a point -/

/-- From states with `W` the handler makes nothing until it comes to a program with `T`. -/
def MakesNothingUntil (W : σ → Prop) (made : σ → Nat) (T : Async σ ε α → Prop) :
    Async σ ε α → Prop
  | done _ => True
  | await upd k => T (await upd k) ∨
      ∀ s, W s → made (upd s) = made s ∧ MakesNothingUntil W made T (k s)

section Until

variable {W : σ → Prop} {made : σ → Nat} {T : Async σ ε β → Prop}

/-- A first part that makes nothing, and what comes after it. -/
theorem MakesNothingUntil.after {G : σ → σ → Prop} {P : α → Prop} {prog : Async σ ε α}
    {next : α → Async σ ε β} (h : Steps W G P prog) (hG : ∀ s s', G s s' → made s' = made s)
    (hNext : ∀ a, P a → MakesNothingUntil W made T (next a)) :
    MakesNothingUntil W made T (prog >>= next) := by
  induction prog with
  | done r =>
      cases r with
      | ok a => exact hNext a h
      | error e => trivial
  | await upd k ih =>
      refine .inr fun s hs => ?_
      obtain ⟨hStep, hk⟩ := h s hs
      exact ⟨hG s (upd s) hStep, ih s hk⟩

/-- A handler that makes nothing at all. -/
theorem MakesNothingUntil.of_steps {G : σ → σ → Prop} {P : β → Prop} {prog : Async σ ε β}
    (h : Steps W G P prog) (hG : ∀ s s', G s s' → made s' = made s) :
    MakesNothingUntil W made T prog := by
  induction prog with
  | done r => trivial
  | await upd k ih =>
      refine .inr fun s hs => ?_
      obtain ⟨hStep, hk⟩ := h s hs
      exact ⟨hG s (upd s) hStep, ih s hk⟩

/-- A handler at the point. -/
theorem MakesNothingUntil.here {prog : Async σ ε β} (h : T prog) :
    MakesNothingUntil W made T prog := by
  cases prog with
  | done r => trivial
  | await upd k => exact .inl h

/-- The next step, which may fail, before the point. -/
theorem MakesNothingUntil.resumed (fault : ε) {upd : σ → σ} {k : σ → Async σ ε β}
    (h : MakesNothingUntil W made T (.await upd k)) (hBefore : ¬ T (.await upd k)) {s : σ}
    (hs : W s) (f : Fault) : made (Pool.effect f upd s) = made s ∧
      MakesNothingUntil W made T (Pool.resumed fault f k s) := by
  obtain ⟨hStep, hk⟩ := (h.resolve_left hBefore) s hs
  cases f with
  | none => exact ⟨hStep, hk⟩
  | before => exact ⟨rfl, trivial⟩
  | after => exact ⟨hStep, trivial⟩

theorem MakesNothingUntil.read_bind {f : σ → α} {next : α → Async σ ε β}
    (h : ∀ s, W s → MakesNothingUntil W made T (next (f s))) :
    MakesNothingUntil W made T (read f >>= next) := .inr fun s hs => ⟨rfl, h s hs⟩

end Until

end Async

namespace Pool

open Async

variable {σ ε : Type} {svc : Service σ ε} {made told : σ → Nat}
  {O O' : Nat → svc.Req → Async σ ε svc.Res → Nat → Prop}

/-- What was made is what is told and what the handlers owe together, the `i`th one a number
of notes that `O` allows it. -/
def Tally (made told : σ → Nat) (O : Nat → svc.Req → Async σ ε svc.Res → Nat → Prop)
    (p : Pool svc) : Prop :=
  ∃ owed : Nat → Nat, (∀ i r prog, p.threads[i]? = some (r, prog) → O i r prog (owed i)) ∧
    made p.state = told p.state + ∑ i ∈ Finset.range p.threads.length, owed i

theorem tally_start {s : σ} (h : made s = told s) : Tally made told O (start s : Pool svc) :=
  ⟨fun _ => 0, fun i r prog hi => by simp [start] at hi, by simpa [start] using h⟩

/-- One of several debts is changed. -/
theorem sum_update (owed : Nat → Nat) (o : Nat) {i n : Nat} (hi : i < n) :
    ∑ j ∈ Finset.range n, Function.update owed i o j + owed i =
      ∑ j ∈ Finset.range n, owed j + o := by
  have hMem : i ∈ Finset.range n := Finset.mem_range.2 hi
  rw [Finset.sum_update_of_mem hMem]
  have hSplit := Finset.add_sum_erase (Finset.range n) owed hMem
  rw [← Finset.sdiff_singleton_eq_erase] at hSplit
  omega

/-- **Step rule.**  A new handler owes nothing, the handler that moves pays and owes, and the
others may still owe what they owed. -/
theorem Tally.step {p : Pool svc} (h : Tally made told O p) (e : Event svc)
    (hNew : ∀ r, e = .request r → O' p.threads.length r (svc.handle r) 0)
    (hExternal : ∀ x, e = .external x →
      made (svc.external x p.state) = made p.state ∧ told (svc.external x p.state) = told p.state)
    (hStay : ∀ i r prog o, p.threads[i]? = some (r, prog) →
      (p.step e).threads[i]? = some (r, prog) → O i r prog o → O' i r prog o)
    (hMove : ∀ i f r upd k o, e = .resume i f → p.threads[i]? = some (r, .await upd k) →
      O i r (.await upd k) o → ∃ o', made (effect f upd p.state) + told p.state + o =
          made p.state + told (effect f upd p.state) + o' ∧
        O' i r (resumed svc.fault f k p.state) o') :
    Tally made told O' (p.step e) := by
  obtain ⟨owed, hOwed, hBalance⟩ := h
  have hSame : p.step e = p → Tally made told O' (p.step e) := by
    intro hSame
    rw [hSame]
    exact ⟨owed, fun i r prog hi => hStay i r prog _ hi (hSame.symm ▸ hi) (hOwed i r prog hi),
      hBalance⟩
  cases e with
  | request r =>
      refine ⟨Function.update owed p.threads.length 0, fun i r' prog hi => ?_, ?_⟩
      · by_cases hLt : i < p.threads.length
        · have hOld : p.threads[i]? = some (r', prog) := by
            simpa only [Pool.step, List.getElem?_append_left hLt] using hi
          rw [Function.update_of_ne (Nat.ne_of_lt hLt)]
          exact hStay i r' prog _ hOld hi (hOwed i r' prog hOld)
        · have hBound := (List.getElem?_eq_some_iff.1 hi).1
          simp only [Pool.step, List.length_append, List.length_singleton] at hBound
          obtain rfl : i = p.threads.length := by omega
          obtain ⟨rfl, rfl⟩ : r = r' ∧ svc.handle r = prog := by
            simpa using (step_request p r).symm.trans hi
          rw [Function.update_self]
          exact hNew r rfl
      · have hOthers : ∑ i ∈ Finset.range p.threads.length,
            Function.update owed p.threads.length 0 i =
              ∑ i ∈ Finset.range p.threads.length, owed i :=
          Finset.sum_congr rfl fun i hi =>
            Function.update_of_ne (Nat.ne_of_lt (Finset.mem_range.1 hi)) _ _
        simp only [Pool.step, List.length_append, List.length_singleton, Finset.sum_range_succ,
          Function.update_self, hOthers, Nat.add_zero]
        exact hBalance
  | external x =>
      obtain ⟨hMade, hTold⟩ := hExternal x rfl
      refine ⟨owed, fun i r prog hi => hStay i r prog _ hi hi (hOwed i r prog hi), ?_⟩
      show made (svc.external x p.state) = told (svc.external x p.state) + _
      rw [hMade, hTold]
      exact hBalance
  | resume i f =>
      cases hi : p.threads[i]? with
      | none => exact hSame (by simp only [Pool.step, hi])
      | some t =>
          obtain ⟨r, prog⟩ := t
          cases prog with
          | done res => exact hSame (by simp only [Pool.step, hi])
          | await upd k =>
              have hNext : p.step (.resume i f) =
                  { state := effect f upd p.state
                    threads := p.threads.set i (r, resumed svc.fault f k p.state) } := by
                simp only [Pool.step, hi]
              have hLt : i < p.threads.length := (List.getElem?_eq_some_iff.1 hi).1
              obtain ⟨o, hStep, hOwn⟩ := hMove i f r upd k _ rfl hi (hOwed i r _ hi)
              refine ⟨Function.update owed i o, fun j r' prog' hj => ?_, ?_⟩
              · by_cases hij : i = j
                · subst hij
                  rw [hNext] at hj
                  obtain ⟨rfl, rfl⟩ : r = r' ∧ resumed svc.fault f k p.state = prog' := by
                    simpa [hLt] using hj
                  rw [Function.update_self]
                  exact hOwn
                · have hOld : p.threads[j]? = some (r', prog') := by
                    rw [hNext] at hj
                    simpa only [List.getElem?_set_ne hij] using hj
                  rw [Function.update_of_ne (Ne.symm hij)]
                  exact hStay j r' prog' _ hOld hj (hOwed j r' prog' hOld)
              · have hSum := sum_update owed o hLt
                rw [hNext]
                simp only [List.length_set]
                omega

/-- What the handlers of the followed requests owe.  The others may owe anything. -/
def Owing (K : svc.Req → Prop) (made told : σ → Nat) (E : ε → Nat → Prop)
    (Q : svc.Res → Nat → Prop) : Nat → svc.Req → Async σ ε svc.Res → Nat → Prop :=
  fun _ r prog o => K r → Settles made told E Q prog o

/-- **Run rule.**  The followed requests settle what they make, and the others tell nothing. -/
theorem Tally.run {c : Course σ svc.Req} {P : svc.Req → svc.Res → σ → Prop}
    (hSvc : svc.Follows c P) {K : svc.Req → Prop} {E : ε → Nat → Prop}
    {Q : svc.Res → Nat → Prop} (hFollowed : ∀ r, K r → Settles made told E Q (svc.handle r) 0)
    (hFault : ∀ o, E svc.fault o)
    (hOthers : ∀ r s s', ¬ K r → c.Step r s s' → told s' = told s ∧ made s ≤ made s')
    (hExternal : ∀ x s, made (svc.external x s) = made s ∧ told (svc.external x s) = told s)
    {p : Pool svc} (hCourse : p.OnCourse c P) (h : Tally made told (Owing K made told E Q) p)
    (es : List (Event svc)) : Tally made told (Owing K made told E Q) (p.run es) := by
  induction es generalizing p with
  | nil => exact h
  | cons e es ih =>
      have hMoves := step_moves hCourse e
      refine ih (step_onCourse hSvc hCourse e) (h.step e (fun r _ hK => hFollowed r hK)
        (fun x _ => hExternal x p.state) (fun _ _ _ _ _ _ hOwn => hOwn) ?_)
      rintro i f r upd k o rfl hi hOwn
      by_cases hK : K r
      · obtain ⟨o', hStep, hRest⟩ := (hOwn hK).resumed hFault f p.state
        exact ⟨o', hStep, fun _ => hRest⟩
      · have hStep : c.Step r p.state (effect f upd p.state) := by
          have hMove := hMoves (r, .await upd k) hi
          simpa only [Pool.step, hi] using hMove
        obtain ⟨hTold, hMade⟩ := hOthers r _ _ hK hStep
        exact ⟨o + (made (effect f upd p.state) - made p.state), by omega, fun h => absurd h hK⟩

/-- No more is told than was made. -/
theorem Tally.told_le {p : Pool svc} (h : Tally made told O p) :
    told p.state ≤ made p.state := by
  obtain ⟨owed, -, hBalance⟩ := h
  omega

/-- Where every handler owes a known number of notes, what was made is known: what was told,
and one more for each handler that owes. -/
theorem Tally.made_eq {p : Pool svc} (h : Tally made told O p)
    (owes : svc.Req × Async σ ε svc.Res → Bool)
    (hOwes : ∀ i r prog o, p.threads[i]? = some (r, prog) → O i r prog o →
      o = if owes (r, prog) = true then 1 else 0) :
    made p.state = told p.state + p.threads.countP owes := by
  obtain ⟨owed, hOwed, hBalance⟩ := h
  have hCount : ∀ ts : List (svc.Req × Async σ ε svc.Res),
      ∑ i ∈ Finset.range ts.length, (if (ts[i]?).any owes = true then 1 else 0) =
        ts.countP owes := by
    intro ts
    induction ts using List.reverseRecOn with
    | nil => rfl
    | append_singleton ts t ih =>
        have hInit : ∑ i ∈ Finset.range ts.length,
            (if ((ts ++ [t])[i]?).any owes = true then 1 else 0) = ts.countP owes := by
          rw [← ih]
          refine Finset.sum_congr rfl fun i hi => ?_
          rw [List.getElem?_append_left (Finset.mem_range.1 hi)]
        rw [List.length_append, List.length_singleton, Finset.sum_range_succ, hInit,
          List.countP_append, List.countP_singleton]
        simp
  rw [hBalance, ← hCount]
  congr 1
  refine Finset.sum_congr rfl fun i hi => ?_
  have hGet := List.getElem?_eq_getElem (Finset.mem_range.1 hi)
  rw [hGet]
  exact hOwes i _ _ _ hGet (hOwed i _ _ hGet)

/-! ### From a point on -/

/-- On the way the handler has come to a program with `T`. -/
def Came (T : svc.Req → Async σ ε svc.Res → Prop) (p : Pool svc) (es : List (Event svc))
    (i : Nat) (r : svc.Req) : Prop :=
  ∃ before prog, before <+: es ∧ (p.run before).threads[i]? = some (r, prog) ∧ T r prog

theorem came_append {T : svc.Req → Async σ ε svc.Res → Prop} {p : Pool svc}
    {es : List (Event svc)} {e : Event svc} {i : Nat} {r : svc.Req} :
    p.Came T (es ++ [e]) i r ↔ p.Came T es i r ∨
      ∃ prog, (p.run (es ++ [e])).threads[i]? = some (r, prog) ∧ T r prog := by
  constructor
  · rintro ⟨before, prog, hBefore, hi, hT⟩
    rcases List.prefix_concat_iff.1 hBefore with rfl | hEarlier
    · exact .inr ⟨prog, hi, hT⟩
    · exact .inl ⟨before, prog, hEarlier, hi, hT⟩
  · rintro (⟨before, prog, hBefore, hi, hT⟩ | ⟨prog, hi, hT⟩)
    · exact ⟨before, prog, hBefore.trans (List.prefix_append _ _), hi, hT⟩
    · exact ⟨es ++ [e], prog, List.prefix_refl _, hi, hT⟩

/-- Who makes something from a point on.  The handlers of the other requests, and those of the
requests in `K` before the point, make nothing. -/
structure MakesFrom (svc : Service σ ε) (c : Course σ svc.Req) (made : σ → Nat) (W : σ → Prop)
    (K : svc.Req → Prop) (T : svc.Req → Async σ ε svc.Res → Prop) (E : ε → Nat → Prop)
    (Q : svc.Res → Nat → Prop) : Prop where
  before : ∀ r, K r → MakesNothingUntil W made (T r) (svc.handle r)
  settles : ∀ r prog, T r prog → Settles made (fun _ => 0) E Q prog 0
  others : ∀ r s s', ¬ K r → c.Step r s s' → made s' = made s
  external : ∀ x s, made (svc.external x s) = made s

/-- What a handler owes that makes something from a point on. -/
def OwingFrom (p : Pool svc) (made : σ → Nat) (W : σ → Prop) (K : svc.Req → Prop)
    (T : svc.Req → Async σ ε svc.Res → Prop) (E : ε → Nat → Prop) (Q : svc.Res → Nat → Prop)
    (es : List (Event svc)) : Nat → svc.Req → Async σ ε svc.Res → Nat → Prop :=
  fun i r prog o => (p.Came T es i r → Settles made (fun _ => 0) E Q prog o) ∧
    (¬ p.Came T es i r → o = 0 ∧ (K r → MakesNothingUntil W made (T r) prog))

/-- No step of the handler of a request in `F` fails. -/
def Sound (F : svc.Req → Prop) (p : Pool svc) (e : Event svc) : Prop :=
  ∀ i f, e = .resume i f → ∀ t ∈ p.threads[i]?, F t.1 → f = .none

/-- **Run rule.**  A handler makes nothing before it has come to the point, and from there on
what it settles. -/
theorem Tally.run_from {c : Course σ svc.Req} {P : svc.Req → svc.Res → σ → Prop}
    (hSvc : svc.Follows c P) {W : σ → Prop} {K F : svc.Req → Prop}
    {T : svc.Req → Async σ ε svc.Res → Prop} {E : ε → Nat → Prop} {Q : svc.Res → Nat → Prop}
    (hMakes : MakesFrom svc c made W K T E Q) (hPoint : ∀ r prog, T r prog → F r) {s : σ}
    (h0 : made s = 0) (es : List (Event svc)) (hW : ∀ es, W ((start s : Pool svc).run es).state)
    (hSound : (start s : Pool svc).Along (Sound F) es) :
    Tally made (fun _ => 0) (OwingFrom (start s) made W K T E Q es)
      ((start s : Pool svc).run es) := by
  induction es using List.reverseRecOn with
  | nil => exact tally_start h0
  | append_singleton es e ih =>
      obtain ⟨hEarlier, hLast⟩ := along_append.1 hSound
      have hTally := ih hEarlier
      have hMoves := step_moves (run_onCourse hSvc (onCourse_start s) es) e
      have hNext : (start s : Pool svc).run (es ++ [e]) = ((start s).run es).step e :=
        run_append _ _ _
      -- the handler that comes to the point with this event
      have hOwes : ∀ {i r prog}, (((start s).run es).step e).threads[i]? = some (r, prog) →
          ¬ (start s : Pool svc).Came T es i r → (K r → MakesNothingUntil W made (T r) prog) →
          OwingFrom (start s) made W K T E Q (es ++ [e]) i r prog 0 := by
        intro i r prog hi hBefore hUntil
        refine ⟨fun hCame => ?_, fun _ => ⟨rfl, hUntil⟩⟩
        rcases came_append.1 hCame with hOld | ⟨prog', hi', hT⟩
        · exact absurd hOld hBefore
        · rw [hNext] at hi'
          obtain rfl : prog = prog' := by simpa using hi.symm.trans hi'
          exact hMakes.settles r prog hT
      rw [hNext]
      refine hTally.step e ?_ (fun x _ => ⟨hMakes.external x _, rfl⟩) ?_ ?_
      · rintro r rfl
        refine hOwes (step_request _ r) ?_ (hMakes.before r)
        rintro ⟨before, prog, hBefore, hi, -⟩
        obtain ⟨rest, rfl⟩ := hBefore
        obtain ⟨prog', hi', -⟩ := run_thread_stays hi rest
        rw [← run_append] at hi'
        exact absurd (List.getElem?_eq_some_iff.1 hi').1 (Nat.lt_irrefl _)
      · rintro i r prog o hi hi' ⟨hAfter, hUntil⟩
        by_cases hCame : (start s : Pool svc).Came T es i r
        · exact ⟨fun _ => hAfter hCame, fun hNot => absurd (came_append.2 (.inl hCame)) hNot⟩
        · obtain ⟨rfl, hRest⟩ := hUntil hCame
          exact hOwes hi' hCame hRest
      · rintro i f r upd k o rfl hi ⟨hAfter, hUntil⟩
        have hi' : (((start s : Pool svc).run es).step (.resume i f)).threads[i]? =
            some (r, resumed svc.fault f k ((start s).run es).state) := by
          simp only [Pool.step, hi]
          exact List.getElem?_set_self (List.getElem?_eq_some_iff.1 hi).1
        by_cases hCame : (start s : Pool svc).Came T es i r
        · have hF : F r := by
            obtain ⟨_, _, _, _, hT⟩ := hCame
            exact hPoint _ _ hT
          obtain rfl := hLast.1 i f rfl _ hi hF
          obtain ⟨o', hStep, hRest⟩ := hAfter hCame ((start s).run es).state
          exact ⟨o', hStep, fun _ => hRest, fun hNot => absurd (came_append.2 (.inl hCame)) hNot⟩
        · obtain ⟨rfl, hRest⟩ := hUntil hCame
          have hQuiet : made (effect f upd ((start s : Pool svc).run es).state) =
              made ((start s : Pool svc).run es).state ∧ (K r → MakesNothingUntil W made (T r)
                (resumed svc.fault f k ((start s : Pool svc).run es).state)) := by
            by_cases hK : K r
            · have hBefore : ¬ T r (.await upd k) := fun hT =>
                hCame ⟨es, _, List.prefix_refl _, hi, hT⟩
              have hResumed := (hRest hK).resumed svc.fault hBefore (hW es) f
              exact ⟨hResumed.1, fun _ => hResumed.2⟩
            · have hMove := hMoves (r, .await upd k) hi
              simp only [Pool.step, hi] at hMove
              exact ⟨hMakes.others r _ _ hK hMove, fun h => absurd h hK⟩
          exact ⟨0, by rw [hQuiet.1], hOwes hi' hCame hQuiet.2⟩

/-- The request has been answered. -/
def Answered (A : ε → Prop) {α : Type} : Async σ ε α → Prop
  | done (.ok _) => True
  | done (.error e) => A e
  | await _ _ => False

theorem answered_of_succeeded {A : ε → Prop} {α : Type} {prog : Async σ ε α}
    (h : prog.succeeded = true) : Answered A prog := by
  cases prog with
  | await upd k => cases h
  | done r =>
      cases r with
      | ok a => trivial
      | error e => cases h

end Pool

end AgentShield.Lib
