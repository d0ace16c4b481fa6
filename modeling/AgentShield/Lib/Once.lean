import AgentShield.Lib.Async

/-!
# Done at most once

Something is done in two halves, and the programs are meant to do it once: a program
checks whether it has been done, and does it when it has not.  `Once` names the states
before the first half, between the halves and after the second, and the steps that leave
them.  A program is *quiet* when it does not touch the thing once the first half is done.
The run rule says that it is done at most once when every other program is quiet whenever
a program does the first half.
-/

namespace AgentShield.Lib

open Async

/-- A thing that happens once: it is free, then open, then closed, and `Same` says which steps
leave it where it is. -/
structure Once (σ : Type) where
  Free : σ → Prop
  Open : σ → Prop
  Closed : σ → Prop
  Same : σ → σ → Prop
  rest : ∀ s, Same s s
  free : ∀ {s s'}, Same s s' → Free s → Free s'
  opened : ∀ {s s'}, Same s s' → Open s → Open s'
  closed : ∀ {s s'}, Same s s' → Closed s → Closed s'
  apart : ∀ {s}, Open s → ¬ Free s

namespace Once

variable {σ ε α β : Type} (o : Once σ)

/-- The first half has been done. -/
def Taken (s : σ) : Prop := o.Open s ∨ o.Closed s

/-- Once the first half is done, the program leaves the thing alone. -/
def Quiet (prog : Async σ ε α) : Prop := Steps o.Taken o.Same (fun _ => True) prog

/-- The program does the second half at most once, and is quiet then. -/
def Closes : Async σ ε α → Prop
  | done _ => True
  | await upd k => ∀ s, o.Open s → (o.Same s (upd s) ∧ Closes (k s)) ∨
      (o.Closed (upd s) ∧ o.Quiet (k s))

/-- The program does the first half at most once, and then the second. -/
def Opens : Async σ ε α → Prop
  | done _ => True
  | await upd k => ∀ s, o.Free s → (o.Same s (upd s) ∧ Opens (k s)) ∨
      (o.Open (upd s) ∧ o.Closes (k s))

variable {o}

theorem Quiet.closes {prog : Async σ ε α} (h : o.Quiet prog) : o.Closes prog := by
  induction prog with
  | done r => trivial
  | await upd k ih =>
      intro s hs
      obtain ⟨hSame, hk⟩ := h s (.inl hs)
      exact .inl ⟨hSame, ih s hk⟩

/-- Steps that leave the thing alone. -/
theorem opens_of_steps {Q : α → Prop} {prog : Async σ ε α} (h : Steps o.Free o.Same Q prog) :
    o.Opens prog := by
  induction prog with
  | done r => trivial
  | await upd k ih =>
      intro s hs
      obtain ⟨hSame, hk⟩ := h s hs
      exact .inl ⟨hSame, ih s hk⟩

/-- A sequence of quiet programs is quiet. -/
theorem Quiet.bind {prog : Async σ ε α} {next : α → Async σ ε β} (h : o.Quiet prog)
    (hNext : ∀ a, o.Quiet (next a)) : o.Quiet (prog >>= next) :=
  Steps.bind h fun a _ => hNext a

/-- What follows the closing must be quiet, whatever the first half answers. -/
theorem Closes.bind {prog : Async σ ε α} {next : α → Async σ ε β} (h : o.Closes prog)
    (hNext : ∀ a, o.Quiet (next a)) : o.Closes (prog >>= next) := by
  induction prog with
  | done r =>
      cases r with
      | ok a => exact (hNext a).closes
      | error e => trivial
  | await upd k ih =>
      intro s hs
      rcases h s hs with ⟨hSame, hk⟩ | ⟨hClosed, hk⟩
      · exact .inl ⟨hSame, ih s hk⟩
      · exact .inr ⟨hClosed, hk.bind hNext⟩

/-- A program that opens may be followed by one that finds the thing free still and opens it,
so long as that one is quiet where the first half has opened it. -/
theorem Opens.bind {prog : Async σ ε α} {next : α → Async σ ε β} (h : o.Opens prog)
    (hOpens : ∀ a, o.Opens (next a)) (hQuiet : ∀ a, o.Quiet (next a)) :
    o.Opens (prog >>= next) := by
  induction prog with
  | done r =>
      cases r with
      | ok a => exact hOpens a
      | error e => trivial
  | await upd k ih =>
      intro s hs
      rcases h s hs with ⟨hSame, hk⟩ | ⟨hOpen, hk⟩
      · exact .inl ⟨hSame, ih s hk⟩
      · exact .inr ⟨hOpen, hk.bind hQuiet⟩

/-- A part that leaves the thing alone comes first. -/
theorem Opens.after {Q : α → Prop} {prog : Async σ ε α} {next : α → Async σ ε β}
    (h : Steps o.Free o.Same Q prog) (hNext : ∀ a, Q a → o.Opens (next a)) :
    o.Opens (prog >>= next) := by
  induction prog with
  | done r =>
      cases r with
      | ok a => exact hNext a h
      | error e => trivial
  | await upd k ih =>
      intro s hs
      obtain ⟨hSame, hk⟩ := h s hs
      exact .inl ⟨hSame, ih s hk⟩

/-- The first half may leave the thing open, so long as what it answers tells the second half
how to close it. -/
theorem Closes.after {Q : α → Prop} {prog : Async σ ε α} {next : α → Async σ ε β}
    (h : Steps o.Open o.Same Q prog) (hNext : ∀ a, Q a → o.Closes (next a)) :
    o.Closes (prog >>= next) := by
  induction prog with
  | done r =>
      cases r with
      | ok a => exact hNext a h
      | error e => trivial
  | await upd k ih =>
      intro s hs
      obtain ⟨hSame, hk⟩ := h s hs
      exact .inl ⟨hSame, ih s hk⟩

/-- A step that leaves the thing free comes before the opening. -/
theorem Opens.act_bind {f : σ → σ × α} {next : α → Async σ ε β}
    (h : ∀ s, o.Free s → o.Same s (f s).1 ∧ o.Opens (next (f s).2)) :
    o.Opens (act f >>= next) :=
  fun s hs => .inl (h s hs)

theorem Opens.ofExcept_bind {r : Except ε α} {next : α → Async σ ε β}
    (h : ∀ a, r = .ok a → o.Opens (next a)) : o.Opens (ofExcept r >>= next) := by
  cases r with
  | ok a => exact h a rfl
  | error e => trivial

theorem Opens.read_bind {f : σ → α} {next : α → Async σ ε β}
    (h : ∀ s, o.Free s → o.Opens (next (f s))) : o.Opens (read f >>= next) :=
  fun s hs => .inl ⟨o.rest s, h s hs⟩

theorem Opens.write_bind {f : σ → σ} {next : Unit → Async σ ε β}
    (hSame : ∀ s, o.Free s → o.Same s (f s)) (h : o.Opens (next ())) :
    o.Opens (write f >>= next) :=
  fun s hs => .inl ⟨hSame s hs, h⟩

/-- The first half, which may fail. -/
theorem Opens.attempt_bind {f : σ → Except ε σ} {next : Unit → Async σ ε β}
    (hOpen : ∀ s s', o.Free s → f s = .ok s' → o.Open s') (h : o.Closes (next ())) :
    o.Opens (attempt f >>= next) := by
  intro s hs
  cases hf : f s with
  | ok s' =>
      right
      simpa only [hf] using ⟨hOpen s s' hs hf, h⟩
  | error e =>
      left
      simpa only [hf] using ⟨o.rest s, trivial⟩

/-- The second half. -/
theorem Closes.write_bind {f : σ → σ} {next : Unit → Async σ ε β}
    (hClosed : ∀ s, o.Open s → o.Closed (f s)) (h : o.Quiet (next ())) :
    o.Closes (write f >>= next) :=
  fun s hs => .inr ⟨hClosed s hs, h⟩

/-! ### Errors and parts -/

section Error

variable {ε' : Type} {f : ε → ε'} {prog : Async σ ε α}

theorem Quiet.mapError (h : o.Quiet prog) : o.Quiet (prog.mapError f) := Steps.mapError h

theorem Closes.mapError (h : o.Closes prog) : o.Closes (prog.mapError f) := by
  induction prog with
  | done r => trivial
  | await upd k ih =>
      intro s hs
      rcases h s hs with ⟨hSame, hk⟩ | ⟨hClosed, hk⟩
      · exact .inl ⟨hSame, ih s hk⟩
      · exact .inr ⟨hClosed, hk.mapError⟩

theorem Opens.mapError (h : o.Opens prog) : o.Opens (prog.mapError f) := by
  induction prog with
  | done r => trivial
  | await upd k ih =>
      intro s hs
      rcases h s hs with ⟨hSame, hk⟩ | ⟨hOpen, hk⟩
      · exact .inl ⟨hSame, ih s hk⟩
      · exact .inr ⟨hOpen, hk.mapError⟩

end Error

/-- The same thing, in a state of which it is a part.  What other parts of the state do is of
no concern to it. -/
def on {S : Type} (o : Once σ) (get : S → σ) : Once S where
  Free s := o.Free (get s)
  Open s := o.Open (get s)
  Closed s := o.Closed (get s)
  Same s s' := o.Same (get s) (get s')
  rest s := o.rest (get s)
  free := o.free
  opened := o.opened
  closed := o.closed
  apart := o.apart

section Part

variable {S : Type} {get : S → σ} {set : S → σ → S} {prog : Async σ ε α}

/-- A quiet program stays quiet on a part of a larger state. -/
theorem Quiet.within (hPart : ∀ s a, get (set s a) = a) (h : o.Quiet prog) :
    (o.on get).Quiet (within get set prog) := by
  induction prog with
  | done r => cases r <;> trivial
  | await upd k ih =>
      intro s hs
      obtain ⟨hSame, hk⟩ := h (get s) hs
      refine ⟨?_, ih _ hk⟩
      show o.Same (get s) (get (set s (upd (get s))))
      rw [hPart]
      exact hSame

/-- A closing program closes the thing in the part it runs on. -/
theorem Closes.within (hPart : ∀ s a, get (set s a) = a) (h : o.Closes prog) :
    (o.on get).Closes (within get set prog) := by
  induction prog with
  | done r => trivial
  | await upd k ih =>
      intro s hs
      have hUpd : get (set s (upd (get s))) = upd (get s) := hPart _ _
      rcases h (get s) hs with ⟨hSame, hk⟩ | ⟨hClosed, hk⟩
      · exact .inl ⟨(congrArg (o.Same (get s)) hUpd).mpr hSame, ih _ hk⟩
      · exact .inr ⟨(congrArg o.Closed hUpd).mpr hClosed, hk.within hPart⟩

/-- An opening program opens the thing in the part it runs on. -/
theorem Opens.within (hPart : ∀ s a, get (set s a) = a) (h : o.Opens prog) :
    (o.on get).Opens (within get set prog) := by
  induction prog with
  | done r => trivial
  | await upd k ih =>
      intro s hs
      have hUpd : get (set s (upd (get s))) = upd (get s) := hPart _ _
      rcases h (get s) hs with ⟨hSame, hk⟩ | ⟨hOpen, hk⟩
      · exact .inl ⟨(congrArg (o.Same (get s)) hUpd).mpr hSame, ih _ hk⟩
      · exact .inr ⟨(congrArg o.Open hUpd).mpr hOpen, hk.within hPart⟩

end Part

/-! ### Runs -/

section Runs

variable {svc : Service σ ε}

section

variable (o : Once σ)

/-- When the event does the first half, every other handler is quiet. -/
def Alone (p : Pool svc) (e : Event svc) : Prop :=
  o.Free p.state → ¬ o.Free (p.step e).state → ∀ i f, e = .resume i f →
    ∀ j t, j ≠ i → p.threads[j]? = some t → o.Quiet t.2

/-- How far the handlers of a pool have come: nobody has taken the thing, exactly one handler
holds it, or it has been given back and stays so. -/
inductive Phase (p : Pool svc) : Prop
  | free (h : o.Free p.state)
      (hThreads : ∀ (i : Nat) (t : svc.Req × Async σ ε svc.Res), p.threads[i]? = some t →
        o.Opens t.2)
  | opened (h : o.Open p.state) (m : Nat)
      (hOwn : ∀ t : svc.Req × Async σ ε svc.Res, p.threads[m]? = some t → o.Closes t.2)
      (hOthers : ∀ (i : Nat) (t : svc.Req × Async σ ε svc.Res), i ≠ m →
        p.threads[i]? = some t → o.Quiet t.2)
  | closed (h : o.Closed p.state)
      (hThreads : ∀ (i : Nat) (t : svc.Req × Async σ ε svc.Res), p.threads[i]? = some t →
        o.Quiet t.2)

/-- Every handler does the thing at most once, and leaves it alone when it has been
begun before. -/
structure Respected (svc : Service σ ε) : Prop where
  opens : ∀ r, o.Opens (svc.handle r)
  quiet : ∀ r, o.Quiet (svc.handle r)
  external : ∀ x s, o.Same s (svc.external x s)

end

section Resumed

variable {s : σ} {fault : ε} {upd : σ → σ} {k : σ → Async σ ε α}

/-- One step of a program that opens: either the thing is free still and the program has still
to open it, or it is open and the program has to close it. A failure leaves one of the two as
well. -/
theorem Opens.resumed (h : o.Opens (.await upd k)) (hs : o.Free s) (f : Fault) :
    (o.Same s (Pool.effect f upd s) ∧ o.Opens (Pool.resumed fault f k s)) ∨
      (o.Open (Pool.effect f upd s) ∧ o.Closes (Pool.resumed fault f k s)) := by
  cases f with
  | none => exact h s hs
  | before => exact .inl ⟨o.rest s, trivial⟩
  | after =>
      rcases h s hs with ⟨hSame, -⟩ | ⟨hOpen, -⟩
      · exact .inl ⟨hSame, trivial⟩
      · exact .inr ⟨hOpen, trivial⟩

/-- One step of a program that closes: the thing stays open with the program still to close
it, or it is closed and the program has nothing left to do about it. -/
theorem Closes.resumed (h : o.Closes (.await upd k)) (hs : o.Open s) (f : Fault) :
    (o.Same s (Pool.effect f upd s) ∧ o.Closes (Pool.resumed fault f k s)) ∨
      (o.Closed (Pool.effect f upd s) ∧ o.Quiet (Pool.resumed fault f k s)) := by
  cases f with
  | none => exact h s hs
  | before => exact .inl ⟨o.rest s, trivial⟩
  | after =>
      rcases h s hs with ⟨hSame, -⟩ | ⟨hClosed, -⟩
      · exact .inl ⟨hSame, trivial⟩
      · exact .inr ⟨hClosed, trivial⟩

/-- One step of a quiet program leaves the thing where it was. -/
theorem Quiet.resumed (h : o.Quiet (.await upd k)) (hs : o.Taken s) (f : Fault) :
    o.Same s (Pool.effect f upd s) ∧ o.Quiet (Pool.resumed fault f k s) := by
  obtain ⟨hSame, hk⟩ := h s hs
  cases f with
  | none => exact ⟨hSame, hk⟩
  | before => exact ⟨o.rest s, trivial⟩
  | after => exact ⟨hSame, trivial⟩

end Resumed

variable {p : Pool svc} {e : Event svc}

/-- A step of the `i`th handler, by the phase it finds: in a free state it may open the thing,
in an open one only the owner may close it. -/
theorem phase_resume {i : Nat} {f : Fault} {r : svc.Req} {upd : σ → σ}
    {k : σ → Async σ ε svc.Res} (h : o.Phase p) (hAlone : o.Alone p (.resume i f))
    (hi : p.threads[i]? = some (r, .await upd k)) : o.Phase (p.step (.resume i f)) := by
  have hState : (p.step (.resume i f)).state = Pool.effect f upd p.state := by
    simp only [Pool.step, hi]
  have hThreads : (p.step (.resume i f)).threads =
      p.threads.set i (r, Pool.resumed svc.fault f k p.state) := by
    simp only [Pool.step, hi]
  have hOwn : ∀ t, (p.step (.resume i f)).threads[i]? = some t →
      t.2 = Pool.resumed svc.fault f k p.state := by
    intro t ht
    rw [hThreads, List.getElem?_set_self (List.getElem?_eq_some_iff.1 hi).1] at ht
    rw [← Option.some.inj ht]
  have hOther : ∀ j t, j ≠ i → (p.step (.resume i f)).threads[j]? = some t →
      p.threads[j]? = some t := by
    intro j t hj ht
    rwa [hThreads, List.getElem?_set_ne (Ne.symm hj)] at ht
  cases h with
  | free h hOpens =>
      rcases (hOpens i _ hi).resumed h f with ⟨hSame, hLeft⟩ | ⟨hOpen, hLeft⟩
      · refine .free (hState ▸ o.free hSame h) fun j t ht => ?_
        by_cases hj : j = i
        · subst hj
          rw [hOwn t ht]
          exact hLeft
        · exact hOpens j t (hOther j t hj ht)
      · have hTaken : ¬ o.Free (p.step (.resume i f)).state := by
          rw [hState]
          exact o.apart hOpen
        refine .opened (hState ▸ hOpen) i (fun t ht => ?_) fun j t hj ht => ?_
        · rw [hOwn t ht]
          exact hLeft
        · exact hAlone h hTaken i f rfl j t hj (hOther j t hj ht)
  | opened h m hCloses hQuiet =>
      by_cases hm : i = m
      · subst hm
        rcases (hCloses _ hi).resumed h f with ⟨hSame, hLeft⟩ | ⟨hClosed, hLeft⟩
        · refine .opened (hState ▸ o.opened hSame h) i (fun t ht => ?_) fun j t hj ht => ?_
          · rw [hOwn t ht]
            exact hLeft
          · exact hQuiet j t hj (hOther j t hj ht)
        · refine .closed (hState ▸ hClosed) fun j t ht => ?_
          by_cases hj : j = i
          · subst hj
            rw [hOwn t ht]
            exact hLeft
          · exact hQuiet j t hj (hOther j t hj ht)
      · have hQuietly : o.Same p.state (Pool.effect f upd p.state) ∧
            o.Quiet (Pool.resumed svc.fault f k p.state) := (hQuiet i _ hm hi).resumed (.inl h) f
        obtain ⟨hSame, hLeft⟩ := hQuietly
        refine .opened (hState ▸ o.opened hSame h) m (fun t ht => ?_) fun j t hj ht => ?_
        · exact hCloses t (hOther m t (Ne.symm hm) ht)
        · by_cases hji : j = i
          · subst hji
            rw [hOwn t ht]
            exact hLeft
          · exact hQuiet j t hj (hOther j t hji ht)
  | closed h hQuiet =>
      have hQuietly : o.Same p.state (Pool.effect f upd p.state) ∧
          o.Quiet (Pool.resumed svc.fault f k p.state) := (hQuiet i _ hi).resumed (.inr h) f
      obtain ⟨hSame, hLeft⟩ := hQuietly
      refine .closed (hState ▸ o.closed hSame h) fun j t ht => ?_
      by_cases hj : j = i
      · subst hj
        rw [hOwn t ht]
        exact hLeft
      · exact hQuiet j t (hOther j t hj ht)

/-- **One event** in which every other handler is quiet when the thing is begun keeps the
phases: taken by nobody, by one, or by one that is done. -/
theorem phase_step (hSvc : o.Respected svc) (h : o.Phase p) (hAlone : o.Alone p e) :
    o.Phase (p.step e) := by
  by_cases hStep : ∃ i f r upd k, e = .resume i f ∧ p.threads[i]? = some (r, .await upd k)
  · obtain ⟨i, f, r, upd, k, rfl, hi⟩ := hStep
    exact phase_resume h hAlone hi
  · -- the handlers are as they were, but for a new one
    have hSame : o.Same p.state (p.step e).state := by
      cases e with
      | request r => exact o.rest _
      | external x => exact hSvc.external x _
      | resume i f =>
          simp only [Pool.step]
          split
          · rename_i r upd k hi
            exact absurd ⟨i, f, r, upd, k, rfl, hi⟩ hStep
          · exact o.rest _
    have hThread : ∀ (i : Nat) (t : svc.Req × Async σ ε svc.Res),
        (p.step e).threads[i]? = some t →
        (∃ r, t.2 = svc.handle r) ∨ p.threads[i]? = some t := by
      intro i t ht
      rcases Pool.thread_step ht with ⟨r, -, -, rfl⟩ | ⟨prog, hi, rfl | hNext⟩
      · exact .inl ⟨r, rfl⟩
      · exact .inr hi
      · obtain ⟨upd, k, f, hEvent, rfl, -⟩ := hNext
        exact absurd ⟨i, f, t.1, upd, k, hEvent, hi⟩ hStep
    cases h with
    | free h hOpens =>
        refine .free (o.free hSame h) fun i t ht => ?_
        rcases hThread i t ht with ⟨r, hNew⟩ | hOld
        · rw [hNew]
          exact hSvc.opens r
        · exact hOpens i t hOld
    | opened h m hCloses hQuiet =>
        refine .opened (o.opened hSame h) m (fun t ht => ?_) fun i t hi ht => ?_
        · rcases hThread m t ht with ⟨r, hNew⟩ | hOld
          · rw [hNew]
            exact (hSvc.quiet r).closes
          · exact hCloses t hOld
        · rcases hThread i t ht with ⟨r, hNew⟩ | hOld
          · rw [hNew]
            exact hSvc.quiet r
          · exact hQuiet i t hi hOld
    | closed h hQuiet =>
        refine .closed (o.closed hSame h) fun i t ht => ?_
        rcases hThread i t ht with ⟨r, hNew⟩ | hOld
        · rw [hNew]
          exact hSvc.quiet r
        · exact hQuiet i t hOld

/-- **Run rule.**  What is begun by handlers that are alone with it is done at most once. -/
theorem run_phase (hSvc : o.Respected svc) (es : List (Event svc)) (h : o.Phase p)
    (hAlone : p.Along o.Alone es) : o.Phase (p.run es) := by
  induction es generalizing p with
  | nil => exact h
  | cons e es ih => exact ih (phase_step hSvc h hAlone.1) hAlone.2

end Runs

end Once

end AgentShield.Lib
