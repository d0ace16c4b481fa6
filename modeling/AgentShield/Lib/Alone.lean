import AgentShield.Lib.Async

/-!
# A handler that runs alone

What the steps of one run touch and how the run can end.  `Spares get` says that every step
of the run leaves a part of the state alone, and not only in the state in which the run
takes it: a step that writes what is there already does not spare it.  `Raises E` says that
the handler ends with no error outside `E`, whatever its steps find.
-/

namespace AgentShield.Lib

namespace Async

variable {σ τ ε α β : Type}

/-! ## A part of the state -/

/-- A handler on a part of the state does there what it does alone. -/
theorem run_within {S : Type} {get : S → σ} {set : S → σ → S}
    (hPart : ∀ s a, get (set s a) = a) (hTwice : ∀ s a b, set (set s a) b = set s b)
    (hSame : ∀ s, set s (get s) = s) (prog : Async σ ε α) (s : S) :
    run (within get set prog) s = (set s (run prog (get s)).1, (run prog (get s)).2) := by
  induction prog generalizing s with
  | done r =>
      show (s, r) = (set s (get s), r)
      rw [hSame]
  | await upd k ih =>
      have hRest := ih (get s) (set s (upd (get s)))
      rw [hPart, hTwice] at hRest
      exact hRest

/-- A run with a result comes through a result of its first part. -/
theorem run_bind_ok {prog : Async σ ε α} {next : α → Async σ ε β} {s s' : σ} {b : β}
    (h : run (prog >>= next) s = (s', .ok b)) :
    ∃ s₁ a, run prog s = (s₁, .ok a) ∧ run (next a) s₁ = (s', .ok b) := by
  rw [run_bind] at h
  cases hRun : run prog s with
  | mk s₁ r =>
      rw [hRun] at h
      cases r with
      | ok a => exact ⟨s₁, a, rfl, h⟩
      | error e => cases (Prod.mk.inj h).2

/-- A program that visits only states with the property ends in one: the last state of a run
is visited too. -/
theorem Visits.run {P : σ → Prop} {prog : Async σ ε α} {s : σ} (h : Visits P prog s) :
    P (Async.run prog s).1 := by
  induction prog generalizing s with
  | done r => exact h
  | await upd k ih => exact ih s h.2

/-- The visited states may be described more loosely, state by state. -/
theorem Visits.mono {P P' : σ → Prop} {prog : Async σ ε α} {s : σ} (h : Visits P prog s)
    (hP : ∀ s, P s → P' s) : Visits P' prog s := by
  induction prog generalizing s with
  | done r => exact hP s h
  | await upd k ih => exact ⟨hP s h.1, ih s h.2⟩

/-- A check visits no state of its own. The rest counts where the condition is false, and
where it is true the run ends in the state at hand. -/
theorem Visits.raiseIf_bind {P : σ → Prop} {s : σ} {c : Prop} [Decidable c] {e : ε}
    {next : Unit → Async σ ε β} (hs : P s) (h : ¬ c → Visits P (next ()) s) :
    Visits P (raiseIf c e >>= next) s := by
  unfold raiseIf
  by_cases hc : c
  · rw [if_pos hc]
    exact hs
  · rw [if_neg hc]
    exact h hc

/-! ## What a run leaves alone -/

/-- No step of the run changes the part of the state, whatever state it is taken in. -/
def Spares (get : σ → τ) : Async σ ε α → σ → Prop
  | done _, _ => True
  | await upd k, s => (∀ s', get (upd s') = get s') ∧ Spares get (k s) (upd s)

section Spares

variable {get : σ → τ} {s : σ}

/-- The part that a program spares is after the whole run what it was before. -/
theorem Spares.run {prog : Async σ ε α} (h : Spares get prog s) :
    get (run prog s).1 = get s := by
  induction prog generalizing s with
  | done r => rfl
  | await upd k ih => exact (ih s h.2).trans (h.1 s)

/-- A sequence spares the part exactly when its first half does and its second does from every
state in which the first can have answered. -/
theorem spares_bind {prog : Async σ ε α} {next : α → Async σ ε β} :
    Spares get (prog >>= next) s ↔
      Spares get prog s ∧ ∀ a s', run prog s = (s', .ok a) → Spares get (next a) s' := by
  induction prog generalizing s with
  | done r =>
      cases r with
      | ok a =>
          refine ⟨fun h => ⟨trivial, fun a' s' hRun => ?_⟩, fun h => h.2 a s rfl⟩
          obtain ⟨rfl, hOk⟩ := Prod.mk.inj hRun
          obtain rfl := Except.ok.inj hOk
          exact h
      | error e =>
          refine ⟨fun _ => ⟨trivial, fun a s' hRun => ?_⟩, fun _ => trivial⟩
          cases (Prod.mk.inj hRun).2
  | await upd k ih =>
      show (_ ∧ Spares get (k s >>= next) (upd s)) ↔ _
      rw [ih s, ← and_assoc]
      rfl

theorem spares_read_bind {f : σ → α} {next : α → Async σ ε β} :
    Spares get (read f >>= next) s ↔ Spares get (next (f s)) s :=
  ⟨fun h => h.2, fun h => ⟨fun _ => rfl, h⟩⟩

/-- A step keeps the part by its own effect, and the rest is judged in the state behind the
step. -/
theorem spares_act_bind {f : σ → σ × α} {next : α → Async σ ε β}
    (hKeep : ∀ s', get (f s').1 = get s') :
    Spares get (act f >>= next) s ↔ Spares get (next (f s).2) (f s).1 :=
  ⟨fun h => h.2, fun h => ⟨hKeep, h⟩⟩

theorem spares_raiseIf_bind {c : Prop} [Decidable c] {e : ε} {next : Unit → Async σ ε β} :
    Spares get (raiseIf c e >>= next) s ↔ (¬ c → Spares get (next ()) s) := by
  unfold raiseIf
  by_cases hc : c
  · simp [hc, raise, Spares]
  · simp [hc]

theorem spares_require_bind {o : Option α} {e : ε} {next : α → Async σ ε β} :
    Spares get (require o e >>= next) s ↔ ∀ a, o = some a → Spares get (next a) s := by
  cases o with
  | none => simp [require, raise, Spares]
  | some a => simp [require]

theorem spares_ofExcept_bind {r : Except ε α} {next : α → Async σ ε β} :
    Spares get (ofExcept r >>= next) s ↔ ∀ a, r = .ok a → Spares get (next a) s := by
  cases r with
  | ok a => simp [ofExcept]
  | error e => simp [ofExcept, Spares]

/-- A part of a part. -/
theorem spares_within {S : Type} {part : S → σ} {set : S → σ → S} {prog : Async σ ε α}
    (hPart : ∀ s a, part (set s a) = a) (s : S) :
    Spares (fun s => get (part s)) (within part set prog) s ↔ Spares get prog (part s) := by
  induction prog generalizing s with
  | done r => exact Iff.rfl
  | await upd k ih =>
      show ((∀ s', _) ∧ _) ↔ ((∀ s', _) ∧ _)
      rw [ih (part s), hPart]
      refine and_congr_left fun _ => ?_
      constructor
      · intro h a
        have hHere : get (part (set (set s a) (upd (part (set s a))))) = get (part (set s a)) :=
          h (set s a)
        rwa [hPart, hPart] at hHere
      · intro h s'
        show get (part (set s' (upd (part s')))) = get (part s')
        rw [hPart]
        exact h (part s')

/-- Steps that never change the part spare it in every run. -/
theorem Steps.spares {Q : α → Prop} {prog : Async σ ε α}
    (h : Steps (fun _ => True) (fun s s' => get s' = get s) Q prog) : Spares get prog s := by
  induction prog generalizing s with
  | done r => trivial
  | await upd k ih => exact ⟨fun s' => (h s' trivial).1, ih s (h s trivial).2⟩

end Spares

/-! ## Where a run ends -/

/-- The run ends in a state and with a result that satisfy `Q`. -/
def Ensures (Q : σ → Except ε α → Prop) (prog : Async σ ε α) (s : σ) : Prop :=
  Q (Async.run prog s).1 (Async.run prog s).2

section Ensures

variable {s : σ}

/-- What a sequence ensures is what its first half ensures about the second; an error of the
first half is an error of the whole. -/
theorem ensures_bind {Q : σ → Except ε β → Prop} {prog : Async σ ε α} {next : α → Async σ ε β} :
    Ensures Q (prog >>= next) s ↔ Ensures (fun s' r =>
      match r with
      | .ok a => Ensures Q (next a) s'
      | .error e => Q s' (.error e)) prog s := by
  unfold Ensures
  rw [run_bind]
  cases hRun : Async.run prog s with
  | mk s' r => cases r <;> rfl

theorem ensures_read_bind {Q : σ → Except ε β → Prop} {f : σ → α} {next : α → Async σ ε β} :
    Ensures Q (read f >>= next) s ↔ Ensures Q (next (f s)) s := Iff.rfl

theorem ensures_write_bind {Q : σ → Except ε β → Prop} {f : σ → σ}
    {next : Unit → Async σ ε β} :
    Ensures Q (write f >>= next) s ↔ Ensures Q (next ()) (f s) := Iff.rfl

/-- A check splits the promise in two: it is owed of the error where the condition holds and
of the rest where it does not. -/
theorem ensures_raiseIf_bind {Q : σ → Except ε β → Prop} {c : Prop} [Decidable c] {e : ε}
    {next : Unit → Async σ ε β} :
    Ensures Q (raiseIf c e >>= next) s ↔ (c → Q s (.error e)) ∧ (¬ c → Ensures Q (next ()) s) := by
  unfold Ensures
  rw [run_raiseIf_bind]
  by_cases hc : c
  · simp [hc]
  · simp [hc]

end Ensures

/-! ## How a handler can end -/

/-- Every error with which the handler ends is in `E`, whatever its steps find. -/
def Raises (E : ε → Prop) : Async σ ε α → Prop
  | done (.ok _) => True
  | done (.error e) => E e
  | await _ k => ∀ s, Raises E (k s)

section Raises

variable {E : ε → Prop}

/-- Every error that a run ends with is one of the errors that the program was said to raise. -/
theorem Raises.run {prog : Async σ ε α} (h : Raises E prog) {s s' : σ} {e : ε}
    (hRun : Async.run prog s = (s', .error e)) : E e := by
  induction prog generalizing s with
  | done r =>
      cases r with
      | ok a => cases (Prod.mk.inj hRun).2
      | error e' =>
          obtain rfl := Except.error.inj (Prod.mk.inj hRun).2
          exact h
  | await upd k ih => exact ih s (h s) hRun

theorem Raises.pure (a : α) : Raises E (pure a : Async σ ε α) := trivial

theorem Raises.raise {e : ε} (h : E e) : Raises E (raise e : Async σ ε α) := h

/-- A sequence raises what its halves raise, whatever value is handed from the first to the
second. -/
theorem Raises.bind {prog : Async σ ε α} {next : α → Async σ ε β} (h : Raises E prog)
    (hNext : ∀ a, Raises E (next a)) : Raises E (prog >>= next) := by
  induction prog with
  | done r =>
      cases r with
      | ok a => exact hNext a
      | error e => exact h
  | await upd k ih => exact fun s => ih s (h s)

theorem Raises.read (f : σ → α) : Raises E (read f : Async σ ε α) := fun _ => trivial

theorem Raises.read_bind {f : σ → α} {next : α → Async σ ε β} (h : ∀ s, Raises E (next (f s))) :
    Raises E (Async.read f >>= next) := h

theorem Raises.write (f : σ → σ) : Raises E (write f : Async σ ε Unit) := fun _ => trivial

/-- A step that the store may refuse raises what the store refuses it with. -/
theorem Raises.attempt {f : σ → Except ε σ} (h : ∀ s e, f s = .error e → E e) :
    Raises E (attempt f) := by
  intro s
  simp only
  cases hf : f s with
  | ok s' => trivial
  | error e => exact h s e hf

theorem Raises.call {f : σ → σ × Except ε α} (h : ∀ s e, (f s).2 = .error e → E e) :
    Raises E (call f) := by
  intro s
  show Raises E (done (f s).2 : Async σ ε α)
  cases hf : (f s).2 with
  | ok a => trivial
  | error e => exact h s e hf

theorem Raises.raiseIf {c : Prop} [Decidable c] {e : ε} (h : c → E e) :
    Raises E (raiseIf c e : Async σ ε Unit) := by
  unfold Async.raiseIf
  by_cases hc : c
  · rw [if_pos hc]
    exact h hc
  · rw [if_neg hc]
    trivial

theorem Raises.require {o : Option α} {e : ε} (h : o = none → E e) :
    Raises E (require o e : Async σ ε α) := by
  cases o with
  | none => exact h rfl
  | some a => trivial

theorem Raises.ofExcept {r : Except ε α} (h : ∀ e, r = .error e → E e) :
    Raises E (ofExcept r : Async σ ε α) := by
  cases r with
  | ok a => trivial
  | error e => exact h e rfl

/-- A program that runs on a part of a larger state raises the same errors there. -/
theorem Raises.within {S : Type} {get : S → σ} {set : S → σ → S} {prog : Async σ ε α}
    (h : Raises E prog) : Raises E (within get set prog) := by
  induction prog with
  | done r => cases r <;> exact h
  | await upd k ih => exact fun s => ih (get s) (h (get s))

end Raises

end Async

end AgentShield.Lib
