import Mathlib.Logic.Relation

/-!
# Interleaved asynchronous programs

A handler of an asynchronous server runs without interruption between two
awaits, and other handlers run while it waits.  `Async σ ε α` is such a handler
over a shared state `σ`: a tree of atomic steps, each followed by a continuation
that sees the state in which its step was taken.  A `Service` starts one handler
per request, and a `Pool` is a running service: its events start requests, let
one handler take its next step (which may fail, with or without its effect), or
change the state from outside.  `EveryFailure` is about one handler that runs
alone and fails at any of its steps; its rules are exact.

The proof rules are rely-guarantee rules.  `Sat R C G Q prog P` says that from
a state with `P` each step of `prog` is a step of the guarantee `G`, whatever
steps of the rely `R` the others take in between, and that it ends with `Q`.
Steps that break the condition `C` end the obligation, so one proof serves the
runs in which every step satisfies `C`.
-/

namespace AgentShield.Lib

/-- A handler that shares a state of type `σ` and may end with an error in `ε`. -/
inductive Async (σ ε α : Type) where
  | done (r : Except ε α)
  | await (upd : σ → σ) (k : σ → Async σ ε α)

/-- What happens to one atomic step: it succeeds, it fails before it has an
effect, or its effect takes place and the answer is lost. -/
inductive Fault where
  | none
  | before
  | after
  deriving DecidableEq, Repr

namespace Async

variable {σ ε α β : Type}

/-- One program after the other: the second gets what the first answers, and an error of the
first ends the sequence. -/
def bind (prog : Async σ ε α) (next : α → Async σ ε β) : Async σ ε β :=
  match prog with
  | done (.ok a) => next a
  | done (.error e) => done (.error e)
  | await upd k => await upd fun s => (k s).bind next

instance : Monad (Async σ ε) where
  pure a := done (.ok a)
  bind := bind

/-- Ends the handler with an error. -/
def raise (e : ε) : Async σ ε α := done (.error e)

/-- One atomic step that changes the state and reads a value from it. -/
def act (f : σ → σ × α) : Async σ ε α :=
  await (fun s => (f s).1) fun s => done (.ok (f s).2)

/-- One atomic step that only reads. -/
def read (f : σ → α) : Async σ ε α := act fun s => (s, f s)

/-- One atomic step that only writes. -/
def write (f : σ → σ) : Async σ ε Unit := act fun s => (f s, ())

/-- One atomic step that the backend may refuse, leaving the state as it was. -/
def attempt (f : σ → Except ε σ) : Async σ ε Unit :=
  await (fun s => match f s with | .ok s' => s' | .error _ => s) fun s =>
    done (match f s with | .ok _ => .ok () | .error e => .error e)

/-- One atomic step that changes the state and returns a value or an error. -/
def call (f : σ → σ × Except ε α) : Async σ ε α :=
  await (fun s => (f s).1) fun s => done (f s).2

/-- Ends the handler with `e` when `c` holds. -/
def raiseIf (c : Prop) [Decidable c] (e : ε) : Async σ ε Unit :=
  if c then raise e else pure ()

/-- The value of an option, or the end of the handler with `e`. -/
def require (o : Option α) (e : ε) : Async σ ε α :=
  match o with
  | some a => pure a
  | none => raise e

/-- A computation without awaits. -/
def ofExcept (r : Except ε α) : Async σ ε α := done r

/-- A handler that works on a part of the state. -/
def within {S : Type} (get : S → σ) (set : S → σ → S) : Async σ ε α → Async S ε α
  | done r => done r
  | await upd k => await (fun S => set S (upd (get S))) fun S => within get set (k (get S))

/-- A handler with its errors translated. -/
def mapError {ε' : Type} (f : ε → ε') : Async σ ε α → Async σ ε' α
  | done r => done (r.mapError f)
  | await upd k => await upd fun s => mapError f (k s)

/-- What is left of a handler after its first step, taken in state `s`. -/
def next : Async σ ε α → σ → Async σ ε α
  | done r, _ => done r
  | await _ k, s => k s

/-- The handler has ended with a result. -/
def succeeded : Async σ ε α → Bool
  | done (.ok _) => true
  | _ => false

/-- The handler has ended with an error. -/
def failed : Async σ ε α → Bool
  | done (.error _) => true
  | _ => false

/-- The handler has ended, with a result or an error. -/
def finished : Async σ ε α → Bool
  | done _ => true
  | _ => false

@[simp] theorem pure_bind' (a : α) (next : α → Async σ ε β) :
    (pure a : Async σ ε α) >>= next = next a := rfl

@[simp] theorem done_ok_bind (a : α) (next : α → Async σ ε β) :
    (done (.ok a) : Async σ ε α) >>= next = next a := rfl

@[simp] theorem done_error_bind (e : ε) (next : α → Async σ ε β) :
    (done (.error e) : Async σ ε α) >>= next = done (.error e) := rfl

@[simp] theorem raise_bind (e : ε) (next : α → Async σ ε β) :
    (raise e : Async σ ε α) >>= next = raise e := rfl

@[simp] theorem await_bind (upd : σ → σ) (k : σ → Async σ ε α)
    (next : α → Async σ ε β) :
    await upd k >>= next = await upd fun s => k s >>= next := rfl

/-- It does not matter how a sequence of three programs is bracketed. -/
theorem bind_assoc' {γ : Type} (prog : Async σ ε α) (first : α → Async σ ε β)
    (second : β → Async σ ε γ) :
    prog >>= first >>= second = prog >>= fun a => first a >>= second := by
  induction prog with
  | done r => cases r <;> rfl
  | await upd k ih =>
      simp only [await_bind]
      congr 1
      funext s
      exact ih s

/-! ## Sequential execution -/

/-- Runs a handler alone.  The list says what happens to its steps in turn,
and steps beyond its end succeed. -/
def exec (fault : ε) : Async σ ε α → List Fault → σ → σ × Except ε α
  | done r, _, s => (s, r)
  | await upd k, [], s => exec fault (k s) [] (upd s)
  | await upd k, .none :: fs, s => exec fault (k s) fs (upd s)
  | await _ _, .before :: _, s => (s, .error fault)
  | await upd _, .after :: _, s => (upd s, .error fault)

/-- Runs a handler alone and without faults. -/
def run : Async σ ε α → σ → σ × Except ε α
  | done r, s => (s, r)
  | await upd k, s => run (k s) (upd s)

/-- A run with a result had no fault. -/
theorem exec_ok {fault : ε} {prog : Async σ ε α} {fs : List Fault} {s s' : σ} {a : α}
    (h : exec fault prog fs s = (s', .ok a)) : run prog s = (s', .ok a) := by
  induction prog generalizing fs s with
  | done r => exact h
  | await upd k ih =>
      match fs with
      | [] => exact ih s h
      | .none :: _ => exact ih s h
      | .before :: _ => exact absurd (Prod.mk.inj h).2 nofun
      | .after :: _ => exact absurd (Prod.mk.inj h).2 nofun

@[simp] theorem run_pure (a : α) (s : σ) :
    run (pure a : Async σ ε α) s = (s, .ok a) := rfl

@[simp] theorem run_raise (e : ε) (s : σ) :
    run (raise e : Async σ ε α) s = (s, .error e) := rfl

@[simp] theorem run_done (r : Except ε α) (s : σ) :
    run (done r : Async σ ε α) s = (s, r) := rfl

@[simp] theorem run_act_bind (f : σ → σ × α) (next : α → Async σ ε β) (s : σ) :
    run (act f >>= next) s = run (next (f s).2) (f s).1 := rfl

@[simp] theorem run_read_bind (f : σ → α) (next : α → Async σ ε β) (s : σ) :
    run (read f >>= next) s = run (next (f s)) s := rfl

@[simp] theorem run_write_bind (f : σ → σ) (next : Unit → Async σ ε β) (s : σ) :
    run (write f >>= next) s = run (next ()) (f s) := rfl

@[simp] theorem run_ofExcept_bind (r : Except ε α) (next : α → Async σ ε β) (s : σ) :
    run (ofExcept r >>= next) s =
      match r with
      | .ok a => run (next a) s
      | .error e => (s, .error e) := by
  cases r <;> rfl

@[simp] theorem run_raiseIf_bind (c : Prop) [Decidable c] (e : ε)
    (next : Unit → Async σ ε β) (s : σ) :
    run (raiseIf c e >>= next) s = if c then (s, .error e) else run (next ()) s := by
  unfold raiseIf
  split <;> rfl

@[simp] theorem run_attempt_bind (f : σ → Except ε σ) (next : Unit → Async σ ε β) (s : σ) :
    run (attempt f >>= next) s =
      match f s with
      | .ok s' => run (next ()) s'
      | .error e => (s, .error e) := by
  unfold attempt
  cases hf : f s with
  | ok s' => simp only [await_bind, run, hf, done_ok_bind]
  | error e => simp only [await_bind, run, hf, done_error_bind]

@[simp] theorem run_require_bind (o : Option α) (e : ε) (next : α → Async σ ε β) (s : σ) :
    run (require o e >>= next) s =
      match o with
      | some a => run (next a) s
      | none => (s, .error e) := by
  cases o <;> rfl

/-- A step after the end of `prog` runs in the state that `prog` left. -/
theorem run_bind (prog : Async σ ε α) (next : α → Async σ ε β) (s : σ) :
    run (prog >>= next) s =
      match run prog s with
      | (s', .ok a) => run (next a) s'
      | (s', .error e) => (s', .error e) := by
  induction prog generalizing s with
  | done r => cases r <;> rfl
  | await upd k ih => exact ih s (upd s)

/-! ## Runs alone -/

/-- Every state that a run of the handler alone comes through has `P`. -/
def Visits (P : σ → Prop) : Async σ ε α → σ → Prop
  | done _, s => P s
  | await upd k, s => P s ∧ Visits P (k s) (upd s)

section Visits

variable {P : σ → Prop} {s : σ}

/-- A program visits the state it starts in. -/
theorem Visits.start {prog : Async σ ε α} (h : Visits P prog s) : P s := by
  cases prog with
  | done r => exact h
  | await upd k => exact h.1

/-- Whatever step fails, the run stops in one of these states. -/
theorem Visits.exec {prog : Async σ ε α} (h : Visits P prog s) (fault : ε) (fs : List Fault) :
    P (exec fault prog fs s).1 := by
  induction prog generalizing fs s with
  | done r => exact h
  | await upd k ih =>
      match fs with
      | [] => exact ih s h.2 []
      | .none :: gs => exact ih s h.2 gs
      | .before :: _ => exact h.1
      | .after :: _ => exact h.2.start

/-- The states of a sequence are those of its first half and, where that ends with an answer,
those of the second from there. -/
theorem Visits.bind {prog : Async σ ε α} {next : α → Async σ ε β} (h : Visits P prog s)
    (hNext : ∀ s' a, run prog s = (s', .ok a) → Visits P (next a) s') :
    Visits P (prog >>= next) s := by
  induction prog generalizing s with
  | done r =>
      cases r with
      | ok a => exact hNext s a rfl
      | error e => exact h
  | await upd k ih => exact ⟨h.1, ih s h.2 fun s' a hRun => hNext s' a hRun⟩

theorem Visits.map {prog : Async σ ε α} (f : α → β) (h : Visits P prog s) :
    Visits P (do let a ← prog; return f a) s := by
  induction prog generalizing s with
  | done r => cases r <;> exact h
  | await upd k ih => exact ⟨h.1, ih s h.2⟩

theorem Visits.read_bind {f : σ → α} {next : α → Async σ ε β}
    (h : Visits P (next (f s)) s) : Visits P (read f >>= next) s := ⟨h.start, h⟩

/-- A step that the store may refuse: the state is counted where it is refused, and the rest
where it is accepted. -/
theorem Visits.attempt_bind {f : σ → Except ε σ} {next : Unit → Async σ ε β} (hs : P s)
    (h : ∀ s', f s = .ok s' → Visits P (next ()) s') : Visits P (attempt f >>= next) s := by
  unfold attempt
  cases hf : f s with
  | ok s' => simpa only [await_bind, Visits, hf, done_ok_bind] using ⟨hs, h s' hf⟩
  | error e => simpa only [await_bind, Visits, hf, done_error_bind, and_self] using hs

theorem Visits.ofExcept_bind {r : Except ε α} {next : α → Async σ ε β} (hs : P s)
    (h : ∀ a, r = .ok a → Visits P (next a) s) : Visits P (ofExcept r >>= next) s := by
  cases r with
  | ok a => exact h a rfl
  | error e => exact hs

theorem Visits.require_bind {o : Option α} {e : ε} {next : α → Async σ ε β} (hs : P s)
    (h : ∀ a, o = some a → Visits P (next a) s) : Visits P (require o e >>= next) s := by
  cases o with
  | some a => exact h a rfl
  | none => exact hs

end Visits

/-! ## Failing runs -/

/-- Every run of the handler alone that ends with an error, whatever step fails,
leaves a state with `I`. -/
def EveryFailure (I : σ → Prop) : Async σ ε α → σ → Prop
  | done (.ok _), _ => True
  | done (.error _), s => I s
  | await upd k, s => I s ∧ I (upd s) ∧ EveryFailure I (k s) (upd s)

section Failure

variable {I : σ → Prop} {s : σ}

/-- `EveryFailure` looks at every list of faults. -/
theorem everyFailure_iff (fault : ε) {prog : Async σ ε α} :
    EveryFailure I prog s ↔ ∀ fs e, (exec fault prog fs s).2 = .error e →
      I (exec fault prog fs s).1 := by
  induction prog generalizing s with
  | done r =>
      cases r with
      | ok a => simp [EveryFailure, exec]
      | error e => simp [EveryFailure, exec]
  | await upd k ih =>
      constructor
      · rintro ⟨hBefore, hAfter, hRest⟩ fs e hErr
        match fs with
        | [] => exact (ih s).1 hRest [] e hErr
        | .none :: gs => exact (ih s).1 hRest gs e hErr
        | .before :: _ => exact hBefore
        | .after :: _ => exact hAfter
      · intro h
        refine ⟨h [.before] fault rfl, h [.after] fault rfl, (ih s).2 fun gs e hErr => ?_⟩
        exact h (.none :: gs) e hErr

theorem everyFailure_pure (a : α) : EveryFailure I (pure a : Async σ ε α) s := trivial

/-- A failing read leaves the state it found, so a read asks for the state at hand once. -/
theorem everyFailure_read_bind {f : σ → α} {next : α → Async σ ε β} :
    EveryFailure I (read f >>= next) s ↔ I s ∧ EveryFailure I (next (f s)) s := by
  constructor
  · exact fun h => ⟨h.1, h.2.2⟩
  · exact fun h => ⟨h.1, h.1, h.2⟩

/-- A failing step may have taken effect or not, so both the state before it and the state
behind it count. -/
theorem everyFailure_act_bind {f : σ → σ × α} {next : α → Async σ ε β} :
    EveryFailure I (act f >>= next) s ↔
      I s ∧ I (f s).1 ∧ EveryFailure I (next (f s).2) (f s).1 := Iff.rfl

theorem everyFailure_write_bind {f : σ → σ} {next : Unit → Async σ ε β} :
    EveryFailure I (write f >>= next) s ↔
      I s ∧ I (f s) ∧ EveryFailure I (next ()) (f s) := Iff.rfl

theorem everyFailure_ofExcept_bind {r : Except ε α} {next : α → Async σ ε β} (hs : I s) :
    EveryFailure I (ofExcept r >>= next) s ↔
      ∀ a, r = .ok a → EveryFailure I (next a) s := by
  cases r with
  | ok a => simp [ofExcept]
  | error e => simp [ofExcept, EveryFailure, hs]

theorem everyFailure_require_bind {o : Option α} {e : ε} {next : α → Async σ ε β} (hs : I s) :
    EveryFailure I (require o e >>= next) s ↔
      ∀ a, o = some a → EveryFailure I (next a) s := by
  cases o with
  | some a => simp [require]
  | none => simp [require, raise, EveryFailure, hs]

theorem everyFailure_raiseIf_bind {c : Prop} [Decidable c] {e : ε}
    {next : Unit → Async σ ε β} (hs : I s) :
    EveryFailure I (raiseIf c e >>= next) s ↔ (¬ c → EveryFailure I (next ()) s) := by
  unfold raiseIf
  split
  · rename_i hc
    simp [raise, EveryFailure, hs, hc]
  · rename_i hc
    simp [hc]

/-- A step that the store may refuse has an effect only where it is accepted. -/
theorem everyFailure_attempt_bind {f : σ → Except ε σ} {next : Unit → Async σ ε β} (hs : I s) :
    EveryFailure I (attempt f >>= next) s ↔
      ∀ s', f s = .ok s' → I s' ∧ EveryFailure I (next ()) s' := by
  unfold attempt
  simp only [await_bind, EveryFailure]
  cases f s with
  | ok s' => simp [hs]
  | error e => simp [EveryFailure, hs]

end Failure

/-! ## Rely-guarantee specifications -/

/-- An assertion that survives every step of the others. -/
def Stable (R : σ → σ → Prop) (P : σ → Prop) : Prop :=
  ∀ s s', R s s' → P s → P s'

/-- What others cannot undo, taken together, they cannot undo either. -/
theorem Stable.and {R : σ → σ → Prop} {P P' : σ → Prop}
    (h : Stable R P) (h' : Stable R P') : Stable R fun s => P s ∧ P' s :=
  fun s s' hR hP => ⟨h s s' hR hP.1, h' s s' hR hP.2⟩

theorem stable_const (R : σ → σ → Prop) (p : Prop) : Stable R fun _ => p :=
  fun _ _ _ hp => hp

/-- From a state with `P` the steps of a handler are steps of `G` and it ends
with `Q`, as long as its steps satisfy `C` and the others take steps of `R`. -/
def Sat (R C G : σ → σ → Prop) (Q : Except ε α → σ → Prop) :
    Async σ ε α → (σ → Prop) → Prop
  | done r, P => ∀ s, P s → Q r s
  | await upd k, P => ∀ s, P s → G s (upd s) ∧
      (C s (upd s) → ∃ P', Stable R P' ∧ P' (upd s) ∧ Sat R C G Q (k s) P')

section Rules

variable {R C G : σ → σ → Prop} {Q : Except ε α → σ → Prop} {P P' : σ → Prop}

/-- A specification holds from fewer states too. -/
theorem Sat.weaken {prog : Async σ ε α} (h : Sat R C G Q prog P)
    (hP : ∀ s, P' s → P s) : Sat R C G Q prog P' := by
  cases prog with
  | done r => exact fun s hs => h s (hP s hs)
  | await upd k => exact fun s hs => h s (hP s hs)

/-- The answer may be described more loosely. -/
theorem Sat.post {Q' : Except ε α → σ → Prop} {prog : Async σ ε α}
    (h : Sat R C G Q prog P) (hQ : ∀ r s, Q r s → Q' r s) :
    Sat R C G Q' prog P := by
  induction prog generalizing P with
  | done r => exact fun s hs => hQ r s (h s hs)
  | await upd k ih =>
      intro s hs
      obtain ⟨hG, hk⟩ := h s hs
      refine ⟨hG, fun hC => ?_⟩
      obtain ⟨P', hStable, hP', hSat⟩ := hk hC
      exact ⟨P', hStable, hP', ih s hSat⟩

/-- A program that does only what `G` allows does only what anything looser allows. -/
theorem Sat.guarantee {G' : σ → σ → Prop} {prog : Async σ ε α}
    (h : Sat R C G Q prog P) (hG : ∀ s s', G s s' → G' s s') :
    Sat R C G' Q prog P := by
  induction prog generalizing P with
  | done r => exact h
  | await upd k ih =>
      intro s hs
      obtain ⟨hs', hk⟩ := h s hs
      refine ⟨hG _ _ hs', fun hC => ?_⟩
      obtain ⟨P', hStable, hP', hSat⟩ := hk hC
      exact ⟨P', hStable, hP', ih s hSat⟩

/-- Nothing is owed from an assertion that cannot hold. -/
theorem Sat.of_false {prog : Async σ ε α} (h : ∀ s, ¬ P s) : Sat R C G Q prog P := by
  cases prog with
  | done r => exact fun s hs => (h s hs).elim
  | await upd k => exact fun s hs => (h s hs).elim

/-- What every step keeps may be added to the assertions. -/
theorem Sat.keep {I : σ → Prop} {prog : Async σ ε α} (h : Sat R C G Q prog P)
    (hOwn : ∀ s s', I s → G s s' → I s') (hOthers : Stable R I) :
    Sat R C G (fun r s => Q r s ∧ I s) prog fun s => P s ∧ I s := by
  induction prog generalizing P with
  | done r => exact fun s hs => ⟨h s hs.1, hs.2⟩
  | await upd k ih =>
      intro s hs
      obtain ⟨hG, hk⟩ := h s hs.1
      refine ⟨hG, fun hC => ?_⟩
      obtain ⟨P', hStable, hP', hSat⟩ := hk hC
      exact ⟨_, hStable.and hOthers, ⟨hP', hOwn _ _ hs.2 hG⟩, ih s hSat⟩

/-- A call that may fail after its effect: the effect is what `G` allows, and from the state
behind it both its error and its answer have to be dealt with. -/
theorem Sat.call_bind {Q : Except ε β → σ → Prop} {f : σ → σ × Except ε α}
    {next : α → Async σ ε β} (hG : ∀ s, P s → G s (f s).1)
    (h : ∀ s, P s → C s (f s).1 → ∃ P', Stable R P' ∧ P' (f s).1 ∧
      (∀ e, (f s).2 = .error e → ∀ s, P' s → Q (.error e) s) ∧
      ∀ a, (f s).2 = .ok a → Sat R C G Q (next a) P') :
    Sat R C G Q (call f >>= next) P := by
  intro s hs
  refine ⟨hG s hs, fun hC => ?_⟩
  obtain ⟨P', hStable, hP', hErr, hOk⟩ := h s hs hC
  refine ⟨P', hStable, hP', ?_⟩
  show Sat R C G Q ((done (f s).2 : Async σ ε α) >>= next) P'
  cases hAnswer : (f s).2 with
  | ok a => exact hOk a hAnswer
  | error e => exact hErr e hAnswer

theorem Sat.mapError {ε' : Type} {f : ε → ε'} {Q : Except ε' α → σ → Prop}
    {prog : Async σ ε α} (h : Sat R C G (fun r s => Q (r.mapError f) s) prog P) :
    Sat R C G Q (prog.mapError f) P := by
  induction prog generalizing P with
  | done r => exact h
  | await upd k ih =>
      intro s hs
      obtain ⟨hG, hk⟩ := h s hs
      refine ⟨hG, fun hC => ?_⟩
      obtain ⟨P', hStable, hP', hSat⟩ := hk hC
      exact ⟨P', hStable, hP', ih s hSat⟩

/-- A handler on a part of the state keeps its specification there, when the others take
steps of its rely on the part. -/
theorem Sat.onPart {S : Type} (get : S → σ) (set : S → σ → S) {R' C' : S → S → Prop}
    {prog : Async σ ε α} (hPart : ∀ S s, get (set S s) = s)
    (hR : ∀ S S', R' S S' → R (get S) (get S')) (hC : ∀ S s, C' S (set S s) → C (get S) s)
    (h : Sat R C G Q prog P) :
    Sat R' C' (fun S S' => ∃ s, G (get S) s ∧ S' = set S s) (fun r S => Q r (get S))
      (within get set prog) fun S => P (get S) := by
  induction prog generalizing P with
  | done r => exact fun S hS => h (get S) hS
  | await upd k ih =>
      intro S hS
      obtain ⟨hG, hk⟩ := h (get S) hS
      refine ⟨⟨_, hG, rfl⟩, fun hC' => ?_⟩
      obtain ⟨P', hStable, hP', hSat⟩ := hk (hC S _ hC')
      refine ⟨fun S => P' (get S), fun S S' hR' => hStable _ _ (hR S S' hR'), ?_, ih _ hSat⟩
      show P' (get (set S (upd (get S))))
      rw [hPart]
      exact hP'

theorem Sat.pure {a : α} (h : ∀ s, P s → Q (.ok a) s) :
    Sat R C G Q (pure a : Async σ ε α) P := h

/-- The sequence rule.  `S a` is what the first part leaves for the second. -/
theorem Sat.bind {Q : Except ε β → σ → Prop} {S : α → σ → Prop}
    {prog : Async σ ε α} {next : α → Async σ ε β}
    (h : Sat R C G (fun r s =>
      match r with
      | .ok a => S a s
      | .error e => Q (.error e) s) prog P)
    (hNext : ∀ a, Sat R C G Q (next a) (S a)) :
    Sat R C G Q (prog >>= next) P := by
  induction prog generalizing P with
  | done r =>
      cases r with
      | ok a => exact (hNext a).weaken h
      | error e => exact h
  | await upd k ih =>
      intro s hs
      obtain ⟨hG, hk⟩ := h s hs
      refine ⟨hG, fun hC => ?_⟩
      obtain ⟨P', hStable, hP', hSat⟩ := hk hC
      exact ⟨P', hStable, hP', ih s hSat⟩

/-- One atomic step followed by the rest.  The assertion after the step may
depend on the state `s` in which it was taken, which fixes the value read. -/
theorem Sat.act_bind {Q : Except ε β → σ → Prop} {f : σ → σ × α}
    {next : α → Async σ ε β}
    (h : ∀ s, P s → G s (f s).1 ∧ (C s (f s).1 → ∃ P', Stable R P' ∧
      P' (f s).1 ∧ Sat R C G Q (next (f s).2) P')) :
    Sat R C G Q (act f >>= next) P := h

/-- Between a read and what follows others may run. The rule asks for what is known of the
state read, `P'`, that they cannot undo. -/
theorem Sat.read_bind {Q : Except ε β → σ → Prop} {f : σ → α}
    {next : α → Async σ ε β} (hG : ∀ s, G s s)
    (h : ∀ s, P s → ∃ P', Stable R P' ∧ P' s ∧ Sat R C G Q (next (f s)) P') :
    Sat R C G Q (read f >>= next) P :=
  fun s hs => ⟨hG s, fun _ => h s hs⟩

/-- A write does what `G` allows; what is known behind it and cannot be undone by others is
what the rest starts from. -/
theorem Sat.write_bind {Q : Except ε β → σ → Prop} {f : σ → σ}
    {next : Unit → Async σ ε β} (hG : ∀ s, P s → G s (f s))
    (h : ∀ s, P s → C s (f s) →
      ∃ P', Stable R P' ∧ P' (f s) ∧ Sat R C G Q (next ()) P') :
    Sat R C G Q (write f >>= next) P :=
  fun s hs => ⟨hG s hs, h s hs⟩

/-- A step that the store may refuse: the two cases are dealt with apart, each with what it
leaves known. -/
theorem Sat.attempt_bind {Q : Except ε β → σ → Prop} {f : σ → Except ε σ}
    {next : Unit → Async σ ε β} (hRest : ∀ s, G s s)
    (hOk : ∀ s s', P s → f s = .ok s' → G s s' ∧
      (C s s' → ∃ P', Stable R P' ∧ P' s' ∧ Sat R C G Q (next ()) P'))
    (hErr : ∀ s e, P s → f s = .error e → ∃ P', Stable R P' ∧ P' s ∧
      ∀ s, P' s → Q (.error e) s) :
    Sat R C G Q (attempt f >>= next) P := by
  intro s hs
  cases hf : f s with
  | ok s' =>
      obtain ⟨hG, hk⟩ := hOk s s' hs hf
      simpa only [hf] using ⟨hG, hk⟩
  | error e =>
      obtain ⟨P', hStable, hP', hQ⟩ := hErr s e hs hf
      simp only [hf]
      exact ⟨hRest s, fun _ => ⟨P', hStable, hP', hQ⟩⟩

/-- A check leaves its condition known to be false behind it, and an error where it is true. -/
theorem Sat.raiseIf_bind {Q : Except ε β → σ → Prop} {c : Prop} [Decidable c]
    {e : ε} {next : Unit → Async σ ε β}
    (hRaise : c → ∀ s, P s → Q (.error e) s)
    (hNext : ¬ c → Sat R C G Q (next ()) P) :
    Sat R C G Q (raiseIf c e >>= next) P := by
  unfold raiseIf
  split
  · exact hRaise ‹c›
  · exact hNext ‹¬ c›

theorem Sat.require_bind {Q : Except ε β → σ → Prop} {o : Option α} {e : ε}
    {next : α → Async σ ε β}
    (hNone : o = none → ∀ s, P s → Q (.error e) s)
    (hSome : ∀ a, o = some a → Sat R C G Q (next a) P) :
    Sat R C G Q (require o e >>= next) P := by
  cases o with
  | none => exact hNone rfl
  | some a => exact hSome a rfl

theorem Sat.ofExcept_bind {Q : Except ε β → σ → Prop} {r : Except ε α}
    {next : α → Async σ ε β}
    (hErr : ∀ e, r = .error e → ∀ s, P s → Q (.error e) s)
    (hOk : ∀ a, r = .ok a → Sat R C G Q (next a) P) :
    Sat R C G Q (ofExcept r >>= next) P := by
  cases r with
  | ok a => exact hOk a rfl
  | error e => exact hErr e rfl

end Rules

/-! ## Specifications without a history -/

/-- In states with `P`, whatever they come from, the steps of a handler are steps of
`G`, and its results satisfy `Q`. -/
def Steps (P : σ → Prop) (G : σ → σ → Prop) (Q : α → Prop) : Async σ ε α → Prop
  | done (.ok a) => Q a
  | done (.error _) => True
  | await upd k => ∀ s, P s → G s (upd s) ∧ Steps P G Q (k s)

section Steps

variable {P : σ → Prop} {G : σ → σ → Prop} {Q : α → Prop} {Q' : β → Prop}

theorem Steps.pure {a : α} (h : Q a) : Steps P G Q (pure a : Async σ ε α) := h

theorem Steps.raise (e : ε) : Steps P G Q (raise e : Async σ ε α) := trivial

/-- What the steps may do can be described more loosely. -/
theorem Steps.guarantee {G' : σ → σ → Prop} {prog : Async σ ε α} (h : Steps P G Q prog)
    (hG : ∀ s s', G s s' → G' s s') : Steps P G' Q prog := by
  induction prog with
  | done r => cases r <;> exact h
  | await upd k ih =>
      intro s hs
      obtain ⟨hs', hk⟩ := h s hs
      exact ⟨hG _ _ hs', ih s hk⟩

/-- The states in which the steps count may be fewer. -/
theorem Steps.weaken {P' : σ → Prop} {prog : Async σ ε α} (h : Steps P G Q prog)
    (hP : ∀ s, P' s → P s) : Steps P' G Q prog := by
  induction prog with
  | done r => cases r <;> exact h
  | await upd k ih =>
      intro s hs
      obtain ⟨hG, hk⟩ := h s (hP s hs)
      exact ⟨hG, ih s hk⟩

/-- Every step of a sequence is one of its halves', and the first half hands on what it
promises of its answer. -/
theorem Steps.bind {prog : Async σ ε α} {next : α → Async σ ε β} (h : Steps P G Q prog)
    (hNext : ∀ a, Q a → Steps P G Q' (next a)) : Steps P G Q' (prog >>= next) := by
  induction prog with
  | done r =>
      cases r with
      | ok a => exact hNext a h
      | error e => trivial
  | await upd k ih =>
      intro s hs
      obtain ⟨hG, hk⟩ := h s hs
      exact ⟨hG, ih s hk⟩

/-- A step has to be allowed in every state that counts, and so have those behind it. -/
theorem Steps.act_bind {f : σ → σ × α} {next : α → Async σ ε β}
    (h : ∀ s, P s → G s (f s).1 ∧ Steps P G Q' (next (f s).2)) :
    Steps P G Q' (act f >>= next) := h

theorem Steps.read_bind {f : σ → α} {next : α → Async σ ε β} (hRest : ∀ s, G s s)
    (h : ∀ s, P s → Steps P G Q' (next (f s))) : Steps P G Q' (read f >>= next) :=
  fun s hs => ⟨hRest s, h s hs⟩

theorem Steps.write_bind {f : σ → σ} {next : Unit → Async σ ε β}
    (hG : ∀ s, P s → G s (f s)) (h : Steps P G Q' (next ())) :
    Steps P G Q' (write f >>= next) :=
  fun s hs => ⟨hG s hs, h⟩

theorem Steps.write {f : σ → σ} {Q : Unit → Prop} (hG : ∀ s, P s → G s (f s))
    (h : Q ()) : Steps P G Q (write f : Async σ ε Unit) :=
  fun s hs => ⟨hG s hs, h⟩

/-- Where the store refuses a step nothing has changed, which `G` allows by `hRest`. -/
theorem Steps.attempt_bind {f : σ → Except ε σ} {next : Unit → Async σ ε β}
    (hRest : ∀ s, G s s) (hOk : ∀ s s', P s → f s = .ok s' → G s s')
    (h : Steps P G Q' (next ())) : Steps P G Q' (attempt f >>= next) := by
  intro s hs
  cases hf : f s with
  | ok s' => simpa only [hf] using ⟨hOk s s' hs hf, h⟩
  | error e => simpa only [hf] using ⟨hRest s, trivial⟩

theorem Steps.call {f : σ → σ × Except ε α} (hG : ∀ s, P s → G s (f s).1) :
    Steps P G (fun _ => True) (Async.call f) := by
  intro s hs
  refine ⟨hG s hs, ?_⟩
  show Steps P G (fun _ => True) (done (f s).2 : Async σ ε α)
  cases (f s).2 <;> trivial

/-- A call counts by its effect, whether it answers or fails after it. -/
theorem Steps.call_bind {f : σ → σ × Except ε α} {next : α → Async σ ε β}
    (hG : ∀ s, P s → G s (f s).1) (h : ∀ a, Steps P G Q' (next a)) :
    Steps P G Q' (Async.call f >>= next) :=
  Steps.bind (Steps.call hG) fun a _ => h a

theorem Steps.mapError {ε' : Type} {f : ε → ε'} {prog : Async σ ε α} (h : Steps P G Q prog) :
    Steps P G Q (prog.mapError f) := by
  induction prog with
  | done r => cases r <;> exact h
  | await upd k ih => exact fun s hs => ⟨(h s hs).1, ih s (h s hs).2⟩

/-- A handler on a part of the state. -/
theorem Steps.within {S : Type} {get : S → σ} {set : S → σ → S} {P : S → Prop}
    {G : S → S → Prop} {prog : Async σ ε α} (hG : ∀ S s, P S → G S (set S s)) :
    Steps P G (fun _ => True) (within get set prog) := by
  induction prog with
  | done r => cases r <;> trivial
  | await upd k ih => exact fun S hS => ⟨hG S _ hS, ih (get S)⟩

/-- A handler on a part of the state takes its steps there. -/
theorem Steps.onPart {S : Type} {get : S → σ} {set : S → σ → S} {prog : Async σ ε α}
    (h : Steps (fun _ => True) G Q prog) :
    Steps (fun _ => True) (fun S S' => ∃ s', G (get S) s' ∧ S' = set S s') Q
      (Async.within get set prog) := by
  induction prog with
  | done r => cases r <;> exact h
  | await upd k ih =>
      intro S _
      obtain ⟨hG, hk⟩ := h (get S) trivial
      exact ⟨⟨_, hG, rfl⟩, ih (get S) hk⟩

/-- A run of the handler alone comes through states with `P` when its steps keep it. -/
theorem Steps.visits {prog : Async σ ε α} (h : Steps P G Q prog)
    (hKeep : ∀ s s', P s → G s s' → P s') {s : σ} (hs : P s) : Visits P prog s := by
  induction prog generalizing s with
  | done r => exact hs
  | await upd k ih =>
      obtain ⟨hG, hk⟩ := h s hs
      exact ⟨hs, ih s hk (hKeep _ _ hs hG)⟩

/-- Steps that are kept to without a history are kept to in every run. -/
theorem Steps.sat {R C : σ → σ → Prop} {prog : Async σ ε α}
    (h : Steps (fun _ => True) G Q prog) :
    Sat R C G (fun r _ => ∀ a, r = .ok a → Q a) prog fun _ => True := by
  induction prog with
  | done r =>
      intro s _ a ha
      subst ha
      exact h
  | await upd k ih =>
      intro s _
      obtain ⟨hG, hk⟩ := h s trivial
      exact ⟨hG, fun _ => ⟨fun _ => True, fun _ _ _ _ => trivial, trivial, ih s hk⟩⟩

/-- A part of which only the steps matter. -/
theorem Steps.sat_bind {R C : σ → σ → Prop} {Q : Except ε β → σ → Prop} {prog : Async σ ε α}
    {next : α → Async σ ε β} (h : Steps (fun _ => True) G (fun _ => True) prog)
    (hErr : ∀ e s, Q (.error e) s) (hNext : ∀ a, Sat R C G Q (next a) fun _ => True) :
    Sat R C G Q (prog >>= next) fun _ => True := by
  refine Sat.bind (S := fun _ _ => True) (h.sat.post fun r s _ => ?_) hNext
  cases r with
  | ok a => trivial
  | error e => exact hErr e s

theorem Steps.raiseIf_bind {c : Prop} [Decidable c] {e : ε} {next : Unit → Async σ ε β}
    (h : ¬ c → Steps P G Q' (next ())) : Steps P G Q' (raiseIf c e >>= next) := by
  unfold raiseIf
  split
  · trivial
  · exact h ‹¬ c›

theorem Steps.require_bind {o : Option α} {e : ε} {next : α → Async σ ε β}
    (h : ∀ a, o = some a → Steps P G Q' (next a)) :
    Steps P G Q' (require o e >>= next) := by
  cases o with
  | none => trivial
  | some a => exact h a rfl

theorem Steps.ofExcept {r : Except ε α} (h : ∀ a, r = .ok a → Q a) :
    Steps P G Q (Async.ofExcept r : Async σ ε α) := by
  cases r with
  | ok a => exact h a rfl
  | error e => trivial

/-- A computed result takes no step: only the rest counts, with a value that was computed. -/
theorem Steps.ofExcept_bind {r : Except ε α} {next : α → Async σ ε β}
    (h : ∀ a, r = .ok a → Steps P G Q' (next a)) :
    Steps P G Q' (Async.ofExcept r >>= next) := by
  cases r with
  | ok a => exact h a rfl
  | error e => trivial

/-- When the handler ends with a result, its last step has just made `I` true. -/
def Establishes (I : σ → Prop) : Async σ ε α → Prop
  | done _ => True
  | await upd k => ∀ s, (∀ a, k s = done (.ok a) → I (upd s)) ∧ Establishes I (k s)

/-- A look-up that the handler goes on from, or fails for. -/
theorem Establishes.read_require_bind {I : σ → Prop} {f : σ → Option α} {e : ε}
    {next : α → Async σ ε β} (hMore : ∀ a b, next a ≠ done (.ok b))
    (h : ∀ a, Establishes I (next a)) :
    Establishes I (read f >>= fun o => require o e >>= next) := by
  intro s
  show (∀ b, require (f s) e >>= next = done (.ok b) → I s) ∧
    Establishes I (require (f s) e >>= next)
  cases f s with
  | none => exact ⟨fun b hb => (by cases hb), trivial⟩
  | some a => exact ⟨fun b hb => absurd hb (hMore a b), h a⟩

theorem Establishes.map {I : σ → Prop} {prog : Async σ ε α} (h : Establishes I prog)
    (f : α → β) : Establishes I (prog >>= fun a => Pure.pure (f a)) := by
  induction prog with
  | done r => cases r <;> trivial
  | await upd k ih =>
      intro s
      obtain ⟨hLast, hk⟩ := h s
      refine ⟨fun b hb => ?_, ih s hk⟩
      change (k s >>= fun a => Pure.pure (f a)) = done (.ok b) at hb
      cases hr : k s with
      | await upd' k' =>
          rw [hr] at hb
          cases hb
      | done r =>
          cases r with
          | ok a => exact hLast a hr
          | error e =>
              rw [hr] at hb
              cases hb

end Steps

/-! ## Programs that only read up to a point -/

/-- The program only reads until what is left of it satisfies `T`, or it ends. -/
inductive ReadsUntil (T : Async σ ε α → Prop) : Async σ ε α → Prop
  | ended (r : Except ε α) : ReadsUntil T (done r)
  | last {prog : Async σ ε α} (h : T prog) : ReadsUntil T prog
  | reads {upd : σ → σ} {k : σ → Async σ ε α} (hRest : ∀ s, upd s = s)
      (hNext : ∀ s, ReadsUntil T (k s)) : ReadsUntil T (await upd k)

section ReadsUntil

variable {T : Async σ ε α → Prop} {T' : Async σ ε β → Prop}

/-- Reads before a sequence of reads and a last part are reads before that last part. -/
theorem ReadsUntil.bind {prog : Async σ ε α} {next : α → Async σ ε β} (h : ReadsUntil T prog)
    (hLast : ∀ p, T p → T' (p >>= next)) (hNext : ∀ a, ReadsUntil T' (next a)) :
    ReadsUntil T' (prog >>= next) := by
  induction h with
  | ended r =>
      cases r with
      | ok a => exact hNext a
      | error e => exact .ended (.error e)
  | last h => exact .last (hLast _ h)
  | reads hRest _ ih => exact .reads hRest ih

theorem ReadsUntil.read_bind {f : σ → α} {next : α → Async σ ε β}
    (h : ∀ a, ReadsUntil T' (next a)) : ReadsUntil T' (read f >>= next) :=
  .reads (fun _ => rfl) fun s => h (f s)

theorem ReadsUntil.raiseIf_bind {c : Prop} [Decidable c] {e : ε} {next : Unit → Async σ ε β}
    (h : ReadsUntil T' (next ())) : ReadsUntil T' (raiseIf c e >>= next) := by
  unfold raiseIf
  split
  · exact .ended (.error e)
  · exact h

theorem ReadsUntil.ofExcept_bind {r : Except ε α} {next : α → Async σ ε β}
    (h : ∀ a, ReadsUntil T' (next a)) : ReadsUntil T' (ofExcept r >>= next) := by
  cases r with
  | ok a => exact h a
  | error e => exact .ended (.error e)

end ReadsUntil

/-! ## Programs that end -/

/-- The program ends after at most `n` steps, whatever it reads. -/
def EndsWithin : Nat → Async σ ε α → Prop
  | _, done _ => True
  | 0, await _ _ => False
  | n + 1, await _ k => ∀ s, EndsWithin n (k s)

section Ends

variable {m n : Nat}

/-- A program that ends within some steps ends within more. -/
theorem EndsWithin.mono {prog : Async σ ε α} (h : EndsWithin n prog) (hLe : n ≤ m) :
    EndsWithin m prog := by
  induction prog generalizing m n with
  | done r => cases m <;> trivial
  | await upd k ih =>
      cases n with
      | zero => exact h.elim
      | succ n =>
          obtain ⟨m, rfl⟩ : ∃ m', m = m' + 1 := ⟨m - 1, by omega⟩
          exact fun s => ih s (h s) (by omega)

/-- A sequence ends within the steps of its two halves together. -/
theorem EndsWithin.bind {prog : Async σ ε α} {next : α → Async σ ε β} (h : EndsWithin n prog)
    (hNext : ∀ a, EndsWithin m (next a)) : EndsWithin (m + n) (prog >>= next) := by
  induction prog generalizing n with
  | done r =>
      cases r with
      | ok a => exact (hNext a).mono (by omega)
      | error e => exact EndsWithin.mono (n := 0) trivial (Nat.zero_le _)
  | await upd k ih =>
      cases n with
      | zero => exact h.elim
      | succ n => exact fun s => ih s (h s)

theorem EndsWithin.raiseIf {c : Prop} [Decidable c] {e : ε} :
    EndsWithin 0 (raiseIf c e : Async σ ε Unit) := by
  unfold Async.raiseIf
  split <;> trivial

end Ends

/-! ## Two runs -/

/-- In any two states related by `R` the handler takes the same course, and its
steps lead to related states. -/
def Agree (R : σ → σ → Prop) : Async σ ε α → Prop
  | done _ => True
  | await upd k => ∀ s s', R s s' → R (upd s) (upd s') ∧ k s = k s' ∧ Agree R (k s)

section Agree

variable {R : σ → σ → Prop}

theorem Agree.pure (a : α) : Agree R (pure a : Async σ ε α) := trivial

/-- A sequence goes alike in two related states where both its halves do, since the first
answers alike in both. -/
theorem Agree.bind {prog : Async σ ε α} {next : α → Async σ ε β} (h : Agree R prog)
    (hNext : ∀ a, Agree R (next a)) : Agree R (prog >>= next) := by
  induction prog with
  | done r =>
      cases r with
      | ok a => exact hNext a
      | error e => trivial
  | await upd k ih =>
      intro s s' hR
      obtain ⟨hUpd, hSame, hk⟩ := h s s' hR
      exact ⟨hUpd, congrArg (· >>= next) hSame, ih s hk⟩

/-- A step has to keep the relation and to answer alike on its two sides. -/
theorem Agree.act_bind {f : σ → σ × α} {next : α → Async σ ε β}
    (h : ∀ s s', R s s' → R (f s).1 (f s').1 ∧ (f s).2 = (f s').2)
    (hNext : ∀ a, Agree R (next a)) : Agree R (act f >>= next) := by
  intro s s' hR
  obtain ⟨hUpd, hSame⟩ := h s s' hR
  exact ⟨hUpd, congrArg next hSame, hNext _⟩

/-- A read has to see the same in related states. -/
theorem Agree.read_bind {f : σ → α} {next : α → Async σ ε β}
    (h : ∀ s s', R s s' → f s = f s') (hNext : ∀ a, Agree R (next a)) :
    Agree R (read f >>= next) :=
  Agree.act_bind (fun s s' hR => ⟨hR, h s s' hR⟩) hNext

theorem Agree.write_bind {f : σ → σ} {next : Unit → Async σ ε β}
    (h : ∀ s s', R s s' → R (f s) (f s')) (hNext : Agree R (next ())) :
    Agree R (write f >>= next) :=
  fun s s' hR => ⟨h s s' hR, rfl, hNext⟩

theorem Agree.write {f : σ → σ} (h : ∀ s s', R s s' → R (f s) (f s')) :
    Agree R (write f : Async σ ε Unit) :=
  fun s s' hR => ⟨h s s' hR, rfl, trivial⟩

/-- The store has to accept a step in both states or refuse it in both, with one error. -/
theorem Agree.attempt_bind {f : σ → Except ε σ} {next : Unit → Async σ ε β}
    (hOk : ∀ s s' t, R s s' → f s = .ok t → ∃ t', f s' = .ok t' ∧ R t t')
    (hErr : ∀ s s' e, R s s' → f s = .error e → f s' = .error e)
    (hNext : Agree R (next ())) : Agree R (attempt f >>= next) := by
  intro s s' hR
  cases hf : f s with
  | ok t =>
      obtain ⟨t', hf', hR'⟩ := hOk s s' t hR hf
      simp only [hf, hf']
      exact ⟨hR', trivial, hNext⟩
  | error e =>
      simp only [hf, hErr s s' e hR hf]
      exact ⟨hR, trivial, trivial⟩

theorem Agree.raiseIf_bind {c : Prop} [Decidable c] {e : ε} {next : Unit → Async σ ε β}
    (hNext : Agree R (next ())) : Agree R (raiseIf c e >>= next) := by
  unfold raiseIf
  split
  · trivial
  · exact hNext

theorem Agree.require_bind {o : Option α} {e : ε} {next : α → Async σ ε β}
    (hNext : ∀ a, Agree R (next a)) : Agree R (require o e >>= next) := by
  cases o with
  | none => trivial
  | some a => exact hNext a

theorem Agree.ofExcept_bind {r : Except ε α} {next : α → Async σ ε β}
    (hNext : ∀ a, Agree R (next a)) : Agree R (ofExcept r >>= next) := by
  cases r with
  | ok a => exact hNext a
  | error e => trivial

/-- What the steps of the handler keep may be added to the relation. -/
theorem Agree.restrict {P : σ → Prop} {G : σ → σ → Prop} {Q : α → Prop}
    {prog : Async σ ε α} (h : Agree R prog) (hSteps : Steps (fun _ => True) G Q prog)
    (hKeep : ∀ s s', P s → G s s' → P s') : Agree (fun s s' => R s s' ∧ P s) prog := by
  induction prog with
  | done r => trivial
  | await upd k ih =>
      intro s s' hR
      obtain ⟨hUpd, hSame, hk⟩ := h s s' hR.1
      obtain ⟨hG, hLeft⟩ := hSteps s trivial
      exact ⟨⟨hUpd, hKeep _ _ hR.2 hG⟩, hSame, ih s hk hLeft⟩

end Agree

end Async

/-! ## Services and pools of handlers -/

open Async

/-- A service starts one handler per request.  `external` is what may happen to
the state outside the handlers, and `fault` is the error of a failed step. -/
structure Service (σ ε : Type) where
  Req : Type
  Res : Type
  handle : Req → Async σ ε Res
  Ext : Type
  external : Ext → σ → σ
  fault : ε

/-- One event of a running service. -/
inductive Event {σ ε : Type} (svc : Service σ ε) where
  | request (r : svc.Req)
  | resume (i : Nat) (f : Fault)
  | external (x : svc.Ext)

/-- A running service: the shared state, and every request so far with what is
left of its handler. -/
structure Pool {σ ε : Type} (svc : Service σ ε) where
  state : σ
  threads : List (svc.Req × Async σ ε svc.Res)

namespace Pool

variable {σ ε : Type} {svc : Service σ ε}

/-- The service before its first request. -/
def start (s : σ) : Pool svc := ⟨s, []⟩

/-- What is left of a handler after its next step. -/
def resumed (fault : ε) {α : Type} (f : Fault) (k : σ → Async σ ε α) (s : σ) :
    Async σ ε α :=
  match f with
  | .none => k s
  | .before => done (.error fault)
  | .after => done (.error fault)

/-- The state after the next step of a handler. -/
def effect (f : Fault) (upd : σ → σ) (s : σ) : σ :=
  match f with
  | .none => upd s
  | .before => s
  | .after => upd s

/-- The service after one event.  Resuming a handler that has ended, or that
does not exist, changes nothing. -/
def step (p : Pool svc) : Event svc → Pool svc
  | .request r => { p with threads := p.threads ++ [(r, svc.handle r)] }
  | .resume i f =>
      match p.threads[i]? with
      | some (r, .await upd k) =>
          { state := effect f upd p.state
            threads := p.threads.set i (r, resumed svc.fault f k p.state) }
      | _ => p
  | .external x => { p with state := svc.external x p.state }

/-- The pool after a list of events, taken in turn. -/
def run (p : Pool svc) : List (Event svc) → Pool svc
  | [] => p
  | e :: es => run (p.step e) es

/-- Every step of the run satisfies `C`. -/
def Within (C : σ → σ → Prop) (p : Pool svc) : List (Event svc) → Prop
  | [] => True
  | e :: es => C p.state (p.step e).state ∧ Within C (p.step e) es

instance instDecidableWithin (C : σ → σ → Prop) [∀ s s', Decidable (C s s')]
    (p : Pool svc) : (es : List (Event svc)) → Decidable (p.Within C es)
  | [] => isTrue trivial
  | e :: es =>
      match inferInstanceAs (Decidable (C p.state (p.step e).state)),
        instDecidableWithin C (p.step e) es with
      | isTrue h, isTrue h' => isTrue ⟨h, h'⟩
      | isFalse h, _ => isFalse fun hW => h hW.1
      | _, isFalse h => isFalse fun hW => h hW.2

/-- `C` holds of every event of the run, in the pool in which it happens. -/
def Along (C : Pool svc → Event svc → Prop) (p : Pool svc) : List (Event svc) → Prop
  | [] => True
  | e :: es => C p e ∧ Along C (p.step e) es

instance instDecidableAlong (C : Pool svc → Event svc → Prop) [∀ p e, Decidable (C p e)]
    (p : Pool svc) : (es : List (Event svc)) → Decidable (p.Along C es)
  | [] => isTrue trivial
  | e :: es =>
      match inferInstanceAs (Decidable (C p e)), instDecidableAlong C (p.step e) es with
      | isTrue h, isTrue h' => isTrue ⟨h, h'⟩
      | isFalse h, _ => isFalse fun hW => h hW.1
      | _, isFalse h => isFalse fun hW => h hW.2

@[simp] theorem run_nil (p : Pool svc) : p.run [] = p := rfl

@[simp] theorem run_cons (p : Pool svc) (e : Event svc) (es : List (Event svc)) :
    p.run (e :: es) = (p.step e).run es := rfl

/-- A run can be cut in two at any event. -/
theorem run_append (p : Pool svc) (es fs : List (Event svc)) :
    p.run (es ++ fs) = (p.run es).run fs := by
  induction es generalizing p with
  | nil => rfl
  | cons e es ih => exact ih (p.step e)

/-- What holds at each event of a run holds at each event of its two parts. -/
theorem along_append {C : Pool svc → Event svc → Prop} {p : Pool svc} {es fs : List (Event svc)} :
    p.Along C (es ++ fs) ↔ p.Along C es ∧ (p.run es).Along C fs := by
  induction es generalizing p with
  | nil => simp [Along]
  | cons e es ih => simp [Along, ih, and_assoc]

/-- A property of the events, whatever the pool, holds along every run of such events. -/
theorem along_of_forall {C : Pool svc → Event svc → Prop} {es : List (Event svc)}
    (h : ∀ e ∈ es, ∀ p, C p e) (p : Pool svc) : p.Along C es := by
  induction es generalizing p with
  | nil => trivial
  | cons e es ih =>
      exact ⟨h e List.mem_cons_self p, ih (fun e' he' => h e' (List.mem_cons_of_mem _ he')) _⟩

/-- What is true after a run and was not before became true with one of its events. -/
theorem first_event {X : σ → Prop} {p : Pool svc} {es : List (Event svc)} (h0 : ¬ X p.state)
    (hX : X (p.run es).state) :
    ∃ es₁ e es₂, es = es₁ ++ e :: es₂ ∧ ¬ X (p.run es₁).state ∧ X ((p.run es₁).step e).state := by
  induction es generalizing p with
  | nil => exact absurd hX h0
  | cons e es ih =>
      by_cases hStep : X (p.step e).state
      · exact ⟨[], e, es, rfl, h0, hStep⟩
      · obtain ⟨es₁, e', es₂, rfl, hBefore, hAfter⟩ := ih hStep hX
        exact ⟨e :: es₁, e', es₂, rfl, hBefore, hAfter⟩

/-- One event leaves a handler as it was, or is its next step: a read of the state and a write
to it, at once, and then the rest. -/
theorem step_thread {p : Pool svc} {i : Nat} {r : svc.Req} {prog : Async σ ε svc.Res}
    (hi : p.threads[i]? = some (r, prog)) (e : Event svc) :
    ∃ prog', (p.step e).threads[i]? = some (r, prog') ∧
      (prog' = prog ∨ ∃ upd k f, e = .resume i f ∧ prog = .await upd k ∧
        prog' = resumed svc.fault f k p.state ∧ (p.step e).state = effect f upd p.state) := by
  have hLt : i < p.threads.length := (List.getElem?_eq_some_iff.1 hi).1
  cases e with
  | request r' =>
      refine ⟨prog, ?_, .inl rfl⟩
      simp only [step]
      rw [List.getElem?_append_left hLt]
      exact hi
  | external x => exact ⟨prog, hi, .inl rfl⟩
  | resume j f =>
      simp only [step]
      split
      · rename_i r' upd k hj
        by_cases hij : j = i
        · subst hij
          obtain ⟨rfl, rfl⟩ : r = r' ∧ prog = .await upd k := by
            have h := hi.symm.trans hj
            simpa using h
          refine ⟨_, ?_, .inr ⟨upd, k, f, rfl, rfl, rfl, rfl⟩⟩
          simp [hLt]
        · refine ⟨prog, ?_, .inl rfl⟩
          simp only
          rw [List.getElem?_set_ne hij]
          exact hi
      · exact ⟨prog, hi, .inl rfl⟩

/-- A handler stays in the pool, and one that has ended stays as it is. -/
theorem run_thread_stays {p : Pool svc} {i : Nat} {r : svc.Req} {prog : Async σ ε svc.Res}
    (hi : p.threads[i]? = some (r, prog)) (es : List (Event svc)) :
    ∃ prog', (p.run es).threads[i]? = some (r, prog') ∧ (prog.finished = true → prog' = prog) := by
  induction es generalizing p prog with
  | nil => exact ⟨prog, hi, fun _ => rfl⟩
  | cons e es ih =>
      obtain ⟨prog₁, hi₁, hStep⟩ := step_thread hi e
      obtain ⟨prog', hi', hSame⟩ := ih hi₁
      refine ⟨prog', hi', fun hDone => ?_⟩
      rcases hStep with rfl | ⟨upd, k, f, -, rfl, -, -⟩
      · exact hSame hDone
      · cases hDone

/-- After one event a handler is new, or is as it was, or has taken its next step. -/
theorem thread_step {p : Pool svc} {e : Event svc} {i : Nat} {t : svc.Req × Async σ ε svc.Res}
    (hi : (p.step e).threads[i]? = some t) :
    (∃ r, e = .request r ∧ i = p.threads.length ∧ t = (r, svc.handle r)) ∨
      ∃ prog, p.threads[i]? = some (t.1, prog) ∧ (t.2 = prog ∨ ∃ upd k f, e = .resume i f ∧
        prog = .await upd k ∧ t.2 = resumed svc.fault f k p.state ∧
        (p.step e).state = effect f upd p.state) := by
  by_cases hLt : i < p.threads.length
  · have hOld : p.threads[i]? = some (p.threads[i].1, p.threads[i].2) :=
      List.getElem?_eq_getElem hLt
    obtain ⟨prog', hi', hStep⟩ := step_thread hOld e
    obtain rfl : t = (p.threads[i].1, prog') := Option.some.inj (hi.symm.trans hi')
    exact .inr ⟨p.threads[i].2, hOld, hStep⟩
  · have hNew : i < (p.step e).threads.length := (List.getElem?_eq_some_iff.1 hi).1
    cases e with
    | request r =>
        left
        simp only [step] at hi hNew
        rw [List.length_append, List.length_singleton] at hNew
        obtain rfl : i = p.threads.length := by omega
        rw [List.getElem?_append_right (Nat.le_refl _)] at hi
        exact ⟨r, rfl, rfl, List.mem_singleton.1 (List.mem_of_getElem? hi)⟩
    | external x => exact absurd hNew hLt
    | resume j f =>
        simp only [step] at hNew
        split at hNew
        · rw [List.length_set] at hNew
          exact absurd hNew hLt
        · exact absurd hNew hLt

/-- The event is a step of the `i`th handler. -/
def isStepOf (i : Nat) : Event svc → Bool
  | .resume j _ => j = i
  | _ => false

/-- **A handler ends** when it has taken as many steps as its program has at most. -/
theorem run_ends {p : Pool svc} {i n : Nat} {r : svc.Req} {prog : Async σ ε svc.Res}
    (hi : p.threads[i]? = some (r, prog)) (hEnds : EndsWithin n prog) (es : List (Event svc))
    (hSteps : n ≤ es.countP (isStepOf i)) :
    ∃ res, (p.run es).threads[i]? = some (r, .done res) := by
  induction es generalizing p n prog with
  | nil =>
      obtain rfl : n = 0 := by simpa using hSteps
      cases prog with
      | done res => exact ⟨res, hi⟩
      | await upd k => exact hEnds.elim
  | cons e es ih =>
      obtain ⟨prog', hi', hStep⟩ := step_thread hi e
      rw [List.countP_cons] at hSteps
      cases prog with
      | done res =>
          rcases hStep with rfl | ⟨_, _, _, _, hAwait, _⟩
          · exact ih hi' (n := 0) trivial (Nat.zero_le _)
          · cases hAwait
      | await upd k =>
          by_cases hOwn : isStepOf i e = true
          · cases e with
            | request r' => cases hOwn
            | external x => cases hOwn
            | resume j f =>
                obtain rfl : j = i := by simpa [isStepOf] using hOwn
                have hNext : (p.step (.resume j f)).threads[j]? =
                    some (r, resumed svc.fault f k p.state) := by
                  simp only [step, hi]
                  exact List.getElem?_set_self (List.getElem?_eq_some_iff.1 hi).1
                cases n with
                | zero => exact hEnds.elim
                | succ n =>
                    rw [if_pos hOwn] at hSteps
                    refine ih hNext (n := n) ?_ (by omega)
                    cases f with
                    | none => exact hEnds p.state
                    | before => cases n <;> trivial
                    | after => cases n <;> trivial
          · rw [if_neg hOwn, Nat.add_zero] at hSteps
            rcases hStep with rfl | ⟨_, _, _, rfl, _⟩
            · exact ih hi' hEnds hSteps
            · simp [isStepOf] at hOwn

/-- A new request starts as the last handler. -/
theorem step_request (p : Pool svc) (r : svc.Req) :
    (p.step (.request r)).threads[p.threads.length]? = some (r, svc.handle r) := by
  simp only [step]
  rw [List.getElem?_append_right (Nat.le_refl _), Nat.sub_self]
  rfl

/-- A new state is the effect of a handler's step, or of what happens outside. -/
theorem step_change {p : Pool svc} {e : Event svc} (h : (p.step e).state ≠ p.state) :
    (∃ x, e = .external x) ∨ ∃ i f r upd k, e = .resume i f ∧
      p.threads[i]? = some (r, .await upd k) ∧ (p.step e).state = upd p.state := by
  cases e with
  | request r => exact absurd rfl h
  | external x => exact .inl ⟨x, rfl⟩
  | resume i f =>
      simp only [step] at h ⊢
      split at h
      · rename_i r upd k hi
        refine .inr ⟨i, f, r, upd, k, rfl, hi, ?_⟩
        simp only
        cases f with
        | none => rfl
        | before => exact absurd rfl h
        | after => rfl
      · exact absurd rfl h

/-- The event is the last step of a handler of `r`, which ends with a result. -/
def Completes (p : Pool svc) (e : Event svc) (r : svc.Req) : Prop :=
  ∃ i upd k, e = .resume i .none ∧ p.threads[i]? = some (r, .await upd k) ∧
    (k p.state).succeeded = true

/-- A handler has ended with a result. -/
def ended (p : Pool svc) (i : Nat) : Bool := (p.threads[i]?).any fun t => t.2.succeeded

/-- A resumption after which a request has ended, and before which it had not, completes it. -/
theorem completes_of_ended {p : Pool svc} {i : Nat} {r : svc.Req}
    (hReq : (p.threads[i]?).map Prod.fst = some r) (hBefore : p.ended i = false)
    (hAfter : (p.step (.resume i .none)).ended i = true) : p.Completes (.resume i .none) r := by
  cases hi : p.threads[i]? with
  | none => simp [hi] at hReq
  | some t =>
      obtain ⟨r', prog⟩ := t
      obtain rfl : r' = r := by simpa [hi] using hReq
      have hLt : i < p.threads.length := (List.getElem?_eq_some_iff.1 hi).1
      cases prog with
      | done res =>
          have hSame : (p.step (.resume i .none)).ended i = p.ended i := by
            simp only [ended, Pool.step, hi]
          rw [hSame, hBefore] at hAfter
          cases hAfter
      | await upd k =>
          have hSet : (p.step (.resume i .none)).threads[i]? = some (r', k p.state) := by
            simp only [Pool.step, hi, resumed]
            exact List.getElem?_set_self hLt
          unfold ended at hAfter
          rw [hSet] at hAfter
          exact ⟨i, upd, k, rfl, hi, hAfter⟩

/-- An event that completes a request is a resumption that ends its thread. -/
theorem Completes.ended {p : Pool svc} {e : Event svc} {r : svc.Req} (h : p.Completes e r) :
    ∃ i, e = .resume i .none ∧ (p.step e).ended i = true := by
  obtain ⟨i, upd, k, rfl, hi, hEnd⟩ := h
  have hLt : i < p.threads.length := (List.getElem?_eq_some_iff.1 hi).1
  refine ⟨i, rfl, ?_⟩
  have hSet : (p.step (.resume i .none)).threads[i]? = some (r, k p.state) := by
    simp only [Pool.step, hi, resumed]
    exact List.getElem?_set_self hLt
  unfold Pool.ended
  rw [hSet]
  exact hEnd

/-- What is known of the pool where an event completes a request: the thread stood before its
last step, and that step's effect is the change of state. -/
theorem Completes.step {p : Pool svc} {e : Event svc} {r : svc.Req} (h : p.Completes e r) :
    ∃ upd k a, (r, .await upd k) ∈ p.threads ∧ k p.state = .done (.ok a) ∧
      (p.step e).state = upd p.state ∧
      ∀ t ∈ (p.step e).threads, t ∈ p.threads ∨ t.2 = .done (.ok a) := by
  obtain ⟨i, upd, k, rfl, hi, hEnd⟩ := h
  obtain ⟨a, ha⟩ : ∃ a, k p.state = .done (.ok a) := by
    unfold succeeded at hEnd
    split at hEnd
    · exact ⟨_, by assumption⟩
    · cases hEnd
  refine ⟨upd, k, a, List.mem_of_getElem? hi, ha, ?_, fun t ht => ?_⟩
  · simp only [Pool.step, hi, effect]
  · simp only [Pool.step, hi, resumed, ha] at ht
    rcases List.mem_or_eq_of_mem_set ht with ht | rfl
    · exact .inl ht
    · exact .inr rfl

/-- A looser bound on what each event does to the state holds as well. -/
theorem Within.mono {C C' : σ → σ → Prop} (hC : ∀ s s', C s s' → C' s s')
    {p : Pool svc} {es : List (Event svc)} (h : p.Within C es) : p.Within C' es := by
  induction es generalizing p with
  | nil => trivial
  | cons e es ih => exact ⟨hC _ _ h.1, ih h.2⟩

theorem within_true (p : Pool svc) (es : List (Event svc)) :
    p.Within (fun _ _ => True) es := by
  induction es generalizing p with
  | nil => trivial
  | cons e es ih => exact ⟨trivial, ih _⟩

end Pool

/-- Every handler of the service, and everything outside them, keeps to `G` in
runs whose steps satisfy `C`. -/
structure Service.Keeps {σ ε : Type} (svc : Service σ ε) (C G : σ → σ → Prop) :
    Prop where
  rest : ∀ s, G s s
  external : ∀ x s, G s (svc.external x s)
  handler : ∀ r, Sat (fun s s' => G s s' ∧ C s s') C G (fun _ _ => True)
    (svc.handle r) fun _ => True

namespace Pool

variable {σ ε : Type} {svc : Service σ ε} {C G : σ → σ → Prop}

/-- What is known about a handler in the middle of its run. -/
def ThreadOk {α : Type} (C G : σ → σ → Prop) (Q : Except ε α → σ → Prop) (s : σ)
    (prog : Async σ ε α) : Prop :=
  ∃ P, Stable (fun s s' => G s s' ∧ C s s') P ∧ P s ∧
    Sat (fun s s' => G s s' ∧ C s s') C G Q prog P

/-- A step of another thread leaves a thread's promise standing, since it keeps to `G`, which
the thread copes with. -/
theorem ThreadOk.other {α : Type} {Q : Except ε α → σ → Prop} {s s' : σ}
    {prog : Async σ ε α} (h : ThreadOk C G Q s prog) (hG : G s s') (hC : C s s') :
    ThreadOk C G Q s' prog := by
  obtain ⟨P, hStable, hP, hSat⟩ := h
  exact ⟨P, hStable, hStable s s' ⟨hG, hC⟩ hP, hSat⟩

/-- The step that a thread takes next, failing or not, is one that `G` allows. -/
theorem ThreadOk.guarantee {α : Type} {Q : Except ε α → σ → Prop} {s : σ}
    {upd : σ → σ} {k : σ → Async σ ε α} (h : ThreadOk C G Q s (.await upd k))
    (hRest : ∀ s, G s s) (f : Fault) : G s (effect f upd s) := by
  obtain ⟨P, -, hP, hSat⟩ := h
  cases f with
  | none => exact (hSat s hP).1
  | before => exact hRest s
  | after => exact (hSat s hP).1

/-- A thread that has taken its next step still keeps its promise; where the step failed, the
promise for the error is owed. -/
theorem ThreadOk.resumed {α : Type} {Q : Except ε α → σ → Prop} {fault : ε} {s : σ}
    {upd : σ → σ} {k : σ → Async σ ε α} (h : ThreadOk C G Q s (.await upd k))
    (hFault : ∀ s, Q (.error fault) s) (f : Fault) (hC : C s (effect f upd s)) :
    ThreadOk C G Q (effect f upd s) (resumed fault f k s) := by
  obtain ⟨P, hStable, hP, hSat⟩ := h
  cases f with
  | none =>
      obtain ⟨P', hStable', hP', hSat'⟩ := (hSat s hP).2 hC
      exact ⟨P', hStable', hP', hSat'⟩
  | before => exact ⟨fun _ => True, fun _ _ _ _ => trivial, trivial, fun s _ => hFault s⟩
  | after => exact ⟨fun _ => True, fun _ _ _ _ => trivial, trivial, fun s _ => hFault s⟩

/-- Every handler in the pool is in the middle of a run that keeps to `G`. -/
def AllOk (C G : σ → σ → Prop) (p : Pool svc) : Prop :=
  ∀ t ∈ p.threads, ThreadOk C G (fun _ _ => True) p.state t.2

/-- A pool without threads owes nothing. -/
theorem allOk_start (s : σ) : AllOk C G (start s : Pool svc) := by
  intro t ht
  simp [start] at ht

/-- **One step of the pool** is a step of the guarantee. -/
theorem step_guarantee (hK : svc.Keeps C G) {p : Pool svc} (hp : AllOk C G p)
    (e : Event svc) : G p.state (p.step e).state := by
  cases e with
  | request r => exact hK.rest _
  | external x => exact hK.external x _
  | resume i f =>
      simp only [step]
      split
      · rename_i r upd k hi
        exact (hp _ (List.mem_of_getElem? hi)).guarantee hK.rest f
      · exact hK.rest _

/-- One event keeps every thread's promise: the resumed one by its own step, the others
because that step keeps to `G`. -/
theorem step_allOk (hK : svc.Keeps C G) {p : Pool svc} (hp : AllOk C G p)
    (e : Event svc) (hC : C p.state (p.step e).state) : AllOk C G (p.step e) := by
  have hG := step_guarantee hK hp e
  intro t ht
  cases e with
  | request r =>
      simp only [step, List.mem_append, List.mem_singleton] at ht hC hG ⊢
      rcases ht with ht | rfl
      · exact hp t ht
      · exact ⟨fun _ => True, fun _ _ _ _ => trivial, trivial, hK.handler r⟩
  | external x => exact (hp t ht).other hG hC
  | resume i f =>
      simp only [step] at ht hC hG ⊢
      split at ht
      · rename_i r upd k hi
        simp only [hi] at hC hG ⊢
        rcases List.mem_or_eq_of_mem_set ht with ht | rfl
        · exact (hp t ht).other hG hC
        · exact (hp _ (List.mem_of_getElem? hi)).resumed (fun _ => trivial) f hC
      · rename_i hi
        simp only at hC hG ⊢
        exact hp t ht

/-- Every thread's promise holds at the end of a run, by induction on its events. -/
theorem run_allOk (hK : svc.Keeps C G) {p : Pool svc} (hp : AllOk C G p)
    (es : List (Event svc)) (hC : p.Within C es) : AllOk C G (p.run es) := by
  induction es generalizing p with
  | nil => exact hp
  | cons e es ih => exact ih (step_allOk hK hp e hC.1) hC.2

/-- **Invariant rule.** What every step of the guarantee keeps holds in every
state of a run whose steps satisfy `C`. -/
theorem run_inv (hK : svc.Keeps C G) {I : σ → Prop}
    (hI : ∀ s s', I s → G s s' → C s s' → I s') {p : Pool svc} (hp : AllOk C G p)
    (es : List (Event svc)) (hC : p.Within C es) (h0 : I p.state) :
    I (p.run es).state := by
  induction es generalizing p with
  | nil => exact h0
  | cons e es ih =>
      have hG := step_guarantee hK hp e
      exact ih (step_allOk hK hp e hC.1) hC.2 (hI _ _ h0 hG hC.1)

/-- **Thread rule.** A handler keeps its own specification over any run of the
others, to its end. -/
theorem run_thread (hK : svc.Keeps C G) {p : Pool svc} (hp : AllOk C G p)
    {i : Nat} {r : svc.Req} {prog : Async σ ε svc.Res}
    {Q : Except ε svc.Res → σ → Prop} (hi : p.threads[i]? = some (r, prog))
    (hProg : ThreadOk C G Q p.state prog) (hFault : ∀ s, Q (.error svc.fault) s)
    (es : List (Event svc)) (hC : p.Within C es) :
    ∃ prog', (p.run es).threads[i]? = some (r, prog') ∧
      ThreadOk C G Q (p.run es).state prog' := by
  induction es generalizing p prog with
  | nil => exact ⟨prog, hi, hProg⟩
  | cons e es ih =>
      have hG := step_guarantee hK hp e
      have hOk := step_allOk hK hp e hC.1
      obtain ⟨prog', hi', hStep⟩ := step_thread hi e
      refine ih hOk hi' ?_ hC.2
      rcases hStep with rfl | ⟨upd, k, f, rfl, rfl, rfl, hState⟩
      · exact hProg.other hG hC.1
      · have hC' := hC.1
        rw [hState] at hC' ⊢
        exact hProg.resumed hFault f hC'

/-! ### Runs from a state with `P` -/

section Steps

variable {P : σ → Prop}

/-- What is left of a handler after its next step keeps to its specification. -/
theorem steps_resumed {α : Type} {fault : ε} {Q : α → Prop} {upd : σ → σ}
    {k : σ → Async σ ε α} {s : σ} (h : Steps P G Q (.await upd k)) (hs : P s) (f : Fault) :
    Steps P G Q (resumed fault f k s) := by
  cases f with
  | none => exact (h s hs).2
  | before => trivial
  | after => trivial

/-- One event in a state with `P` is a step of `G`, and the handlers go on keeping
to it. -/
theorem step_steps (hRest : ∀ s, G s s) (hExternal : ∀ x s, P s → G s (svc.external x s))
    {p : Pool svc} {e : Event svc}
    (hReq : ∀ r, e = .request r → Steps P G (fun _ => True) (svc.handle r))
    (hThreads : ∀ t ∈ p.threads, Steps P G (fun _ => True) t.2) (hP : P p.state) :
    G p.state (p.step e).state ∧ ∀ t ∈ (p.step e).threads, Steps P G (fun _ => True) t.2 := by
  cases e with
  | request r =>
      refine ⟨hRest _, fun t ht => ?_⟩
      simp only [step, List.mem_append, List.mem_singleton] at ht
      rcases ht with ht | rfl
      · exact hThreads t ht
      · exact hReq r rfl
  | external x => exact ⟨hExternal x _ hP, hThreads⟩
  | resume i f =>
      simp only [step]
      split
      · rename_i r upd k hi
        have hOwn := hThreads _ (List.mem_of_getElem? hi)
        constructor
        · cases f with
          | none => exact (hOwn p.state hP).1
          | before => exact hRest _
          | after => exact (hOwn p.state hP).1
        · intro t ht
          rcases List.mem_or_eq_of_mem_set ht with ht | rfl
          · exact hThreads t ht
          · exact steps_resumed hOwn hP f
      · exact ⟨hRest _, hThreads⟩

/-- **Run rule.**  From a state with `P`, in which every handler keeps to `G`, a run
whose new handlers keep to `G` takes steps of `G` only. -/
theorem run_steps (hRest : ∀ s, G s s) (hExternal : ∀ x s, P s → G s (svc.external x s))
    (hKeep : ∀ s s', P s → G s s' → P s') {p : Pool svc} (es : List (Event svc))
    (hReqs : ∀ r, .request r ∈ es → Steps P G (fun _ => True) (svc.handle r))
    (hThreads : ∀ t ∈ p.threads, Steps P G (fun _ => True) t.2) (hP : P p.state) :
    Relation.ReflTransGen G p.state (p.run es).state ∧ P (p.run es).state ∧
      ∀ t ∈ (p.run es).threads, Steps P G (fun _ => True) t.2 := by
  induction es generalizing p with
  | nil => exact ⟨.refl, hP, hThreads⟩
  | cons e es ih =>
      have hReqs' : ∀ r, .request r ∈ es → Steps P G (fun _ => True) (svc.handle r) :=
        fun r hr => hReqs r (List.mem_cons_of_mem _ hr)
      have hStep := step_steps hRest hExternal
        (fun r hr => hReqs r (hr ▸ List.mem_cons_self)) hThreads hP
      obtain ⟨hSteps, hP', hThreads'⟩ :=
        ih hReqs' hStep.2 (hKeep _ _ hP hStep.1)
      exact ⟨.head hStep.1 hSteps, hP', hThreads'⟩

/-- **Run rule with requests.**  When every handler keeps to the steps of its request and
these keep `P`, then so it is in every run from a state with `P`. -/
theorem run_requests {G : svc.Req → σ → σ → Prop} (hKeep : ∀ r s s', P s → G r s s' → P s')
    (hExternal : ∀ x s, P s → P (svc.external x s))
    (hReqs : ∀ r, Steps P (G r) (fun _ => True) (svc.handle r)) {p : Pool svc}
    (hThreads : ∀ t ∈ p.threads, Steps P (G t.1) (fun _ => True) t.2) (hP : P p.state)
    (es : List (Event svc)) :
    P (p.run es).state ∧ ∀ t ∈ (p.run es).threads, Steps P (G t.1) (fun _ => True) t.2 := by
  induction es generalizing p with
  | nil => exact ⟨hP, hThreads⟩
  | cons e es ih =>
      cases e with
      | request r =>
          refine ih (p := p.step (.request r)) (fun t ht => ?_) hP
          simp only [step, List.mem_append, List.mem_singleton] at ht
          rcases ht with ht | rfl
          · exact hThreads t ht
          · exact hReqs r
      | external x => exact ih (p := p.step (.external x)) hThreads (hExternal x _ hP)
      | resume i f =>
          have hStep : P (p.step (.resume i f)).state ∧ ∀ t ∈ (p.step (.resume i f)).threads,
              Steps P (G t.1) (fun _ => True) t.2 := by
            simp only [step]
            split
            · rename_i r upd k hi
              have hOwn := hThreads _ (List.mem_of_getElem? hi)
              have hNext : P (upd p.state) := hKeep r _ _ hP (hOwn p.state hP).1
              constructor
              · cases f with
                | none => exact hNext
                | before => exact hP
                | after => exact hNext
              · intro t ht
                rcases List.mem_or_eq_of_mem_set ht with ht | rfl
                · exact hThreads t ht
                · exact steps_resumed hOwn hP f
            · exact ⟨hP, hThreads⟩
          exact ih hStep.2 hStep.1

/-- Every event of a run of handlers that keep to `G` is a step of `G`. -/
theorem along_steps (hRest : ∀ s, G s s) (hExternal : ∀ x s, G s (svc.external x s))
    (hReqs : ∀ r, Steps (fun _ => True) G (fun _ => True) (svc.handle r)) {p : Pool svc}
    (hThreads : ∀ t ∈ p.threads, Steps (fun _ => True) G (fun _ => True) t.2)
    (es : List (Event svc)) : p.Along (fun p e => G p.state (p.step e).state) es := by
  induction es generalizing p with
  | nil => trivial
  | cons e es ih =>
      have hStep := step_steps hRest (fun x s _ => hExternal x s) (e := e)
        (fun r _ => hReqs r) hThreads trivial
      exact ⟨hStep.1, ih hStep.2⟩

/-- What holds at each event may be described more loosely. -/
theorem Along.mono {C' : Pool svc → Event svc → Prop} {p : Pool svc}
    {es : List (Event svc)} {C : Pool svc → Event svc → Prop}
    (h : p.Along C es) (hC : ∀ p e, C p e → C' p e) : p.Along C' es := by
  induction es generalizing p with
  | nil => trivial
  | cons e es ih => exact ⟨hC _ _ h.1, ih h.2⟩

/-- What the events keep holds in every pool of the run. -/
theorem Along.with_inv {C : Pool svc → Event svc → Prop} {I : Pool svc → Prop}
    (hI : ∀ p e, C p e → I p → I (p.step e)) {p : Pool svc} {es : List (Event svc)}
    (h : p.Along C es) (hp : I p) : p.Along (fun p e => C p e ∧ I p) es := by
  induction es generalizing p with
  | nil => trivial
  | cons e es ih => exact ⟨⟨h.1, hp⟩, ih h.2 (hI _ _ h.1 hp)⟩

/-- Two properties that hold at each event hold together. -/
theorem Along.and {C C' : Pool svc → Event svc → Prop} {p : Pool svc} {es : List (Event svc)}
    (h : p.Along C es) (h' : p.Along C' es) : p.Along (fun p e => C p e ∧ C' p e) es := by
  induction es generalizing p with
  | nil => trivial
  | cons e es ih => exact ⟨⟨h.1, h'.1⟩, ih h.2 h'.2⟩

/-- What holds of every handler when it starts, and stays true when it takes a step or
ends, holds of every handler of a run. -/
theorem run_threads {T : svc.Req → Async σ ε svc.Res → Prop}
    (hNext : ∀ r upd k s, T r (.await upd k) → T r (k s)) (hDone : ∀ r res, T r (done res))
    {p : Pool svc} (es : List (Event svc))
    (hReqs : ∀ r, .request r ∈ es → T r (svc.handle r)) (h : ∀ t ∈ p.threads, T t.1 t.2) :
    ∀ t ∈ (p.run es).threads, T t.1 t.2 := by
  induction es generalizing p with
  | nil => exact h
  | cons e es ih =>
      refine ih (fun r hr => hReqs r (List.mem_cons_of_mem _ hr)) fun t ht => ?_
      cases e with
      | request r =>
          simp only [step, List.mem_append, List.mem_singleton] at ht
          rcases ht with ht | rfl
          · exact h t ht
          · exact hReqs r List.mem_cons_self
      | external x => exact h t ht
      | resume i f =>
          simp only [step] at ht
          split at ht
          · rename_i r upd k hi
            rcases List.mem_or_eq_of_mem_set ht with ht | rfl
            · exact h t ht
            · have hOwn := h _ (List.mem_of_getElem? hi)
              cases f with
              | none => exact hNext r upd k p.state hOwn
              | before => exact hDone _ _
              | after => exact hDone _ _
          · exact h t ht

/-- **Two-run rule.**  Pools with the same handlers in related states stay so, as
long as every handler takes the same course in related states. -/
theorem run_agree {R : σ → σ → Prop}
    (hExternal : ∀ x s s', R s s' → R (svc.external x s) (svc.external x s'))
    {p p' : Pool svc} (es : List (Event svc))
    (hReqs : ∀ r, .request r ∈ es → Agree R (svc.handle r))
    (hThreads : ∀ t ∈ p.threads, Agree R t.2) (hSame : p.threads = p'.threads)
    (hR : R p.state p'.state) :
    (p.run es).threads = (p'.run es).threads ∧ R (p.run es).state (p'.run es).state ∧
      ∀ t ∈ (p.run es).threads, Agree R t.2 := by
  induction es generalizing p p' with
  | nil => exact ⟨hSame, hR, hThreads⟩
  | cons e es ih =>
      have hReqs' : ∀ r, .request r ∈ es → Agree R (svc.handle r) :=
        fun r hr => hReqs r (List.mem_cons_of_mem _ hr)
      have hStep : (p.step e).threads = (p'.step e).threads ∧
          R (p.step e).state (p'.step e).state ∧ ∀ t ∈ (p.step e).threads, Agree R t.2 := by
        cases e with
        | request r =>
            refine ⟨congrArg (· ++ [(r, svc.handle r)]) hSame, hR, fun t ht => ?_⟩
            simp only [step, List.mem_append, List.mem_singleton] at ht
            rcases ht with ht | rfl
            · exact hThreads t ht
            · exact hReqs r List.mem_cons_self
        | external x => exact ⟨hSame, hExternal x _ _ hR, hThreads⟩
        | resume i f =>
            simp only [step, ← hSame]
            split
            · rename_i r upd k hi
              obtain ⟨hUpd, hNext, hLeft⟩ :=
                hThreads _ (List.mem_of_getElem? hi) p.state p'.state hR
              have hResumed : resumed svc.fault f k p.state = resumed svc.fault f k p'.state := by
                cases f with
                | none => exact hNext
                | before => rfl
                | after => rfl
              refine ⟨by rw [hResumed], ?_, fun t ht => ?_⟩
              · cases f with
                | none => exact hUpd
                | before => exact hR
                | after => exact hUpd
              · rcases List.mem_or_eq_of_mem_set ht with ht | rfl
                · exact hThreads t ht
                · cases f with
                  | none => exact hLeft
                  | before => trivial
                  | after => trivial
            · exact ⟨hSame, hR, hThreads⟩
      exact ih hReqs' hStep.2.2 hStep.1 hStep.2.1

end Steps

end Pool

end AgentShield.Lib
