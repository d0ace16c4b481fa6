import Mathlib.Order.Defs.Unbundled
import AgentShield.Lib.Course

/-!
# What a handler knows since a state

The others take steps of a preorder `R`.  `Since R G Q prog s₀` says that whenever the
handler is resumed after `s₀`, its steps are steps of `G`, and it returns `a` in a state `s`
with `Q a s`.  After each of its steps it speaks of the state that the step has left, so that
what was read is a fact about a state that the later ones follow.

A handler keeps to its `Since` in every run in which the events of the others are steps of
`R` (`run_since`): the rely of one handler may be stronger than what all of them guarantee.
When they all keep to one preorder, every event is a step of it (`run_underway`).
-/

namespace AgentShield.Lib

namespace Async

variable {σ ε α β : Type}

/-- A program begun in a state `s₀` after which others have done only what `R` allows: it does
only what `G` allows, and where it answers, `Q` holds of its answer. -/
def Since (R G : σ → σ → Prop) (Q : α → σ → Prop) (prog : Async σ ε α) (s₀ : σ) : Prop :=
  Sat R (fun _ _ => True) G (fun r s => ∀ a, r = .ok a → Q a s) prog (R s₀)

section Rules

variable {R G : σ → σ → Prop} {Q : α → σ → Prop} {Q' : β → σ → Prop} {s₀ : σ}

/-- A specification from every state with `P` is one from `P`. -/
theorem Sat.of_points {C : σ → σ → Prop} {Q : Except ε α → σ → Prop} {P : σ → Prop}
    {prog : Async σ ε α} (h : ∀ s, P s → Sat R C G Q prog (fun s' => s' = s)) :
    Sat R C G Q prog P := by
  cases prog with
  | done r => exact fun s hs => h s hs s rfl
  | await upd k => exact fun s hs => h s hs s rfl

theorem Since.post {P : α → σ → Prop} {prog : Async σ ε α} (h : Since R G P prog s₀)
    (hQ : ∀ a s, P a s → Q a s) : Since R G Q prog s₀ :=
  Sat.post h fun _ s hP a ha => hQ a s (hP a ha)

/-- The others do less than was relied on. -/
theorem Sat.rely {R' C : σ → σ → Prop} {Q : Except ε α → σ → Prop} {P : σ → Prop}
    {prog : Async σ ε α} (h : Sat R C G Q prog P) (hR : ∀ s s', R' s s' → R s s') :
    Sat R' C G Q prog P := by
  induction prog generalizing P with
  | done r => exact h
  | await upd k ih =>
      intro s hs
      obtain ⟨hG, hk⟩ := h s hs
      refine ⟨hG, fun hC => ?_⟩
      obtain ⟨P', hStable, hP', hSat⟩ := hk hC
      exact ⟨P', fun s s' hR' => hStable s s' (hR s s' hR'), hP', ih s hSat⟩

/-- A program that copes with what `R` allows copes with any less. -/
theorem Since.rely {R' : σ → σ → Prop} {prog : Async σ ε α} (h : Since R G Q prog s₀)
    (hR : ∀ s s', R' s s' → R s s') : Since R' G Q prog s₀ :=
  Sat.weaken (Sat.rely h hR) fun _ hs => hR _ _ hs

/-- An error owes nothing about answers. -/
theorem Since.raise (e : ε) : Since R G Q (raise e : Async σ ε α) s₀ := by
  intro s _ a ha
  cases ha

theorem Since.pure {a : α} (h : ∀ s, R s₀ s → Q a s) : Since R G Q (pure a : Async σ ε α) s₀ := by
  intro s hs a' ha
  cases ha
  exact h s hs

/-- Behind a check the condition is known to be false; where it is true the program has ended
in an error. -/
theorem Since.raiseIf_bind {p : Prop} [Decidable p] {e : ε} {next : Unit → Async σ ε β}
    (h : ¬ p → Since R G Q' (next ()) s₀) : Since R G Q' (raiseIf p e >>= next) s₀ := by
  unfold raiseIf
  by_cases hp : p
  · rw [if_pos hp]
    exact Since.raise e
  · rw [if_neg hp]
    exact h hp

theorem Since.require_bind {o : Option α} {e : ε} {next : α → Async σ ε β}
    (h : ∀ a, o = some a → Since R G Q' (next a) s₀) : Since R G Q' (require o e >>= next) s₀ := by
  cases o with
  | none => exact Since.raise e
  | some a => exact h a rfl

theorem Since.ofExcept_bind {r : Except ε α} {next : α → Async σ ε β}
    (h : ∀ a, r = .ok a → Since R G Q' (next a) s₀) :
    Since R G Q' (ofExcept r >>= next) s₀ := by
  cases r with
  | ok a => exact h a rfl
  | error e => exact Since.raise e

/-- Steps that are kept to without a history. -/
theorem Steps.since {P : α → Prop} {prog : Async σ ε α}
    (h : Steps (fun _ => True) G P prog) : Since R G (fun a _ => P a) prog s₀ :=
  Sat.weaken h.sat fun _ _ => trivial

section Refl

variable [Std.Refl R]

/-- The second part starts in the state in which the first has ended. -/
theorem Since.bind {P : α → σ → Prop} {prog : Async σ ε α} {next : α → Async σ ε β}
    (h : Since R G P prog s₀) (hNext : ∀ a s, P a s → Since R G Q' (next a) s) :
    Since R G Q' (prog >>= next) s₀ := by
  refine Sat.bind (S := P) (Sat.post h fun r s hr => ?_) fun a => ?_
  · cases r with
    | ok a => exact hr a rfl
    | error e =>
        intro b hb
        cases hb
  · refine Sat.of_points fun s hs => Sat.weaken (hNext a s hs) ?_
    rintro s' rfl
    exact refl _

end Refl

section Trans

variable [IsTrans σ R]

theorem stable_since (s₀ : σ) : Stable R (R s₀) := fun _ _ hR h => IsTrans.trans _ _ _ h hR

variable [Std.Refl R]

/-- A step must be one that `G` allows, in any state that others can have made of `s₀`; the
rest is counted from the state behind it. -/
theorem Since.act_bind {f : σ → σ × α} {next : α → Async σ ε β}
    (hG : ∀ s, R s₀ s → G s (f s).1)
    (h : ∀ s, R s₀ s → Since R G Q' (next (f s).2) (f s).1) :
    Since R G Q' (act f >>= next) s₀ :=
  fun s hs => ⟨hG s hs, fun _ => ⟨_, stable_since _, refl _, h s hs⟩⟩

theorem Since.write_bind {f : σ → σ} {next : Unit → Async σ ε β} (hG : ∀ s, R s₀ s → G s (f s))
    (h : ∀ s, R s₀ s → Since R G Q' (next ()) (f s)) : Since R G Q' (write f >>= next) s₀ :=
  Since.act_bind hG h

variable [Std.Refl G]

/-- A read starts the count afresh at the state it was made in. -/
theorem Since.read_bind {f : σ → α} {next : α → Async σ ε β}
    (h : ∀ s, R s₀ s → Since R G Q' (next (f s)) s) : Since R G Q' (read f >>= next) s₀ :=
  Since.act_bind (fun s _ => refl s) h

theorem Since.read {f : σ → α} (h : ∀ s s', R s₀ s → R s s' → Q (f s) s') :
    Since R G Q (read f : Async σ ε α) s₀ :=
  fun s hs => ⟨refl s, fun _ => ⟨_, stable_since s, refl s, fun s' hs' a ha => by
    cases ha
    exact h s s' hs hs'⟩⟩

/-- A step that the store may refuse: only what it does where it is accepted has to be
allowed. -/
theorem Since.attempt_bind {f : σ → Except ε σ} {next : Unit → Async σ ε β}
    (h : ∀ s s', R s₀ s → f s = .ok s' → G s s' ∧ Since R G Q' (next ()) s') :
    Since R G Q' (attempt f >>= next) s₀ := by
  intro s hs
  cases hf : f s with
  | ok s' =>
      obtain ⟨hG, hNext⟩ := h s s' hs hf
      simp only [hf]
      exact ⟨hG, fun _ => ⟨_, stable_since _, refl _, hNext⟩⟩
  | error e =>
      simp only [hf]
      refine ⟨refl s, fun _ => ⟨_, stable_since s, refl s, ?_⟩⟩
      intro s' _ a ha
      cases ha

end Trans

end Rules

end Async

namespace Pool

open Async

variable {σ ε : Type} {svc : Service σ ε} {R G : σ → σ → Prop}

/-- What is left of a handler after some of its steps. -/
def Underway {α : Type} (R G : σ → σ → Prop) (Q : α → σ → Prop) (prog : Async σ ε α) (s : σ) :
    Prop :=
  ∃ P, Stable R P ∧ P s ∧
    Sat R (fun _ _ => True) G (fun r s => ∀ a, r = .ok a → Q a s) prog P

section Underway

variable {α : Type} {Q : α → σ → Prop} {prog : Async σ ε α} {s s' : σ}

/-- A step of somebody else that `R` allows leaves a program under way where it was. -/
theorem Underway.other (h : Underway R G Q prog s) (hR : R s s') : Underway R G Q prog s' := by
  obtain ⟨P, hStable, hP, hSat⟩ := h
  exact ⟨P, hStable, hStable s s' hR hP, hSat⟩

/-- A program that has ended with an answer stands in a state in which the answer is right. -/
theorem Underway.answer {a : α} (h : Underway R G Q (done (.ok a) : Async σ ε α) s) : Q a s := by
  obtain ⟨P, -, hP, hSat⟩ := h
  exact hSat s hP a rfl

/-- A program is under way from the state it was begun in. -/
theorem underway_of_since [Std.Refl R] [IsTrans σ R] (h : Since R G Q prog s) :
    Underway R G Q prog s :=
  ⟨R s, stable_since s, refl s, h⟩

theorem underway_error (e : ε) : Underway R G Q (done (.error e) : Async σ ε α) s := by
  refine ⟨fun _ => True, fun _ _ _ _ => trivial, trivial, fun s _ a ha => ?_⟩
  cases ha

/-- The program's own step, failing or not, leaves it under way. -/
theorem Underway.resumed {upd : σ → σ} {k : σ → Async σ ε α} (h : Underway R G Q (.await upd k) s)
    {fault : ε} (f : Fault) :
    Underway R G Q (resumed fault f k s) (effect f upd s) := by
  cases f with
  | none =>
      obtain ⟨P, -, hP, hSat⟩ := h
      exact (hSat s hP).2 trivial
  | before => exact underway_error fault
  | after => exact underway_error fault

/-- The program's own step is one that `G` allows, also where a failure lets only its effect
through. -/
theorem Underway.guarantee [Std.Refl G] {upd : σ → σ} {k : σ → Async σ ε α}
    (h : Underway R G Q (.await upd k) s) (f : Fault) : G s (effect f upd s) := by
  obtain ⟨P, -, hP, hSat⟩ := h
  cases f with
  | none => exact (hSat s hP).1
  | before => exact refl s
  | after => exact (hSat s hP).1

end Underway

/-- **Thread rule.**  A handler keeps to its specification as long as the events of the
others are steps of its rely. -/
theorem run_since {p : Pool svc} {i : Nat} {r : svc.Req} {prog : Async σ ε svc.Res}
    {Q : svc.Res → σ → Prop} (hi : p.threads[i]? = some (r, prog))
    (hProg : Underway R G Q prog p.state) (es : List (Event svc))
    (hOthers : p.Along (fun p e => isStepOf i e = false → R p.state (p.step e).state) es) :
    ∃ prog', (p.run es).threads[i]? = some (r, prog') ∧
      Underway R G Q prog' (p.run es).state := by
  induction es generalizing p prog with
  | nil => exact ⟨prog, hi, hProg⟩
  | cons e es ih =>
      obtain ⟨prog', hi', hStep⟩ := step_thread hi e
      refine ih hi' ?_ hOthers.2
      by_cases hOwn : isStepOf i e = true
      · cases e with
        | request r' => cases hOwn
        | external x => cases hOwn
        | resume j f =>
            obtain rfl : j = i := by simpa [isStepOf] using hOwn
            cases prog with
            | done res =>
                have hSame : p.step (.resume j f) = p := by simp only [step, hi]
                rw [hSame, hi] at hi'
                obtain rfl : done res = prog' := by simpa using hi'
                rw [hSame]
                exact hProg
            | await upd k =>
                have hNext : p.step (.resume j f) =
                    { state := effect f upd p.state
                      threads := p.threads.set j (r, resumed svc.fault f k p.state) } := by
                  simp only [step, hi]
                rw [hNext] at hi' ⊢
                obtain rfl : resumed svc.fault f k p.state = prog' := by
                  have hLt := (List.getElem?_eq_some_iff.1 hi).1
                  simpa [hLt] using hi'
                exact hProg.resumed f
      · have hOther := hOthers.1 (Bool.eq_false_iff.2 hOwn)
        rcases hStep with rfl | ⟨upd, k, f, rfl, -⟩
        · exact hProg.other hOther
        · simp [isStepOf] at hOwn

/-- What the `i`th handler has answered, once it has. -/
def answerOf (p : Pool svc) (i : Nat) : Option svc.Res :=
  (p.threads[i]?).bind fun t => t.2.answer?

/-- A request keeps its place. -/
theorem run_kept {p : Pool svc} {i : Nat} {r : svc.Req} {prog : Async σ ε svc.Res}
    (hi : p.threads[i]? = some (r, prog)) (es : List (Event svc)) :
    ∃ prog', (p.run es).threads[i]? = some (r, prog') := by
  induction es generalizing p prog with
  | nil => exact ⟨prog, hi⟩
  | cons e es ih =>
      obtain ⟨prog', hi', -⟩ := step_thread hi e
      exact ih hi'

/-- The answer to a request stands at its place. -/
theorem mem_of_answer {p : Pool svc} {r : svc.Req} {es : List (Event svc)} {a : svc.Res}
    (hEnd : (p.run (.request r :: es)).answerOf p.threads.length = some a) :
    (r, done (.ok a)) ∈ (p.run (.request r :: es)).threads := by
  obtain ⟨prog, hKept⟩ := run_kept (step_request p r) es
  have hAnswer : prog.answer? = some a := by
    unfold answerOf at hEnd
    rw [run_cons, hKept] at hEnd
    exact hEnd
  rw [answer?_eq_some.1 hAnswer] at hKept
  rw [run_cons]
  exact List.mem_of_getElem? hKept

/-- **Answer rule.**  What the answer to a request has to do with the state in which it was
asked. -/
theorem run_answer [Std.Refl R] [IsTrans σ R] {p : Pool svc} {r : svc.Req}
    {Q : svc.Res → σ → Prop} (h : Since R G Q (svc.handle r) p.state) (es : List (Event svc))
    (hOthers : (p.step (.request r)).Along
      (fun p' e => isStepOf p.threads.length e = false → R p'.state (p'.step e).state) es)
    {a : svc.Res} (hEnd : (p.run (.request r :: es)).answerOf p.threads.length = some a) :
    Q a (p.run (.request r :: es)).state := by
  obtain ⟨prog', hi', hProg⟩ :=
    run_since (step_request p r) (underway_of_since h) es hOthers
  obtain rfl : prog' = done (.ok a) := by
    unfold answerOf at hEnd
    rw [run_cons, hi'] at hEnd
    exact answer?_eq_some.1 hEnd
  exact hProg.answer

/-- A run of steps of a preorder is a step of it. -/
theorem along_trans [Std.Refl R] [IsTrans σ R] {p : Pool svc} {es : List (Event svc)}
    (h : p.Along (fun p e => R p.state (p.step e).state) es) : R p.state (p.run es).state := by
  induction es generalizing p with
  | nil => exact refl _
  | cons e es ih => exact IsTrans.trans _ _ _ h.1 (ih h.2)

/-- Every handler of a run was asked for. -/
theorem run_asked {P : svc.Req → Prop} {p : Pool svc} (h : ∀ t ∈ p.threads, P t.1)
    (es : List (Event svc)) (hNew : ∀ r, .request r ∈ es → P r) :
    ∀ t ∈ (p.run es).threads, P t.1 := by
  induction es generalizing p with
  | nil => exact h
  | cons e es ih =>
      refine ih (fun t ht => ?_) fun r hr => hNew r (List.mem_cons_of_mem _ hr)
      obtain ⟨i, hi⟩ := List.getElem?_of_mem ht
      rcases thread_step hi with ⟨r, rfl, -, rfl⟩ | ⟨prog, hOld, -⟩
      · exact hNew r List.mem_cons_self
      · exact h (t.1, prog) (List.mem_of_getElem? hOld)

/-- **Frame rule.**  When every handler takes the steps of its request, the events of the
others than the `n`th are steps of their requests. -/
theorem along_others {P : σ → Prop} {G : svc.Req → σ → σ → Prop} {K : svc.Req → Prop}
    (hRest : ∀ r s, G r s s) (hKeep : ∀ r s s', P s → G r s s' → P s')
    (hExternal : ∀ x s, P s → P (svc.external x s))
    (hReqs : ∀ r, Steps P (G r) (fun _ => True) (svc.handle r)) {p : Pool svc} {n : Nat}
    (hThreads : ∀ t ∈ p.threads, Steps P (G t.1) (fun _ => True) t.2) (hP : P p.state)
    (hn : n < p.threads.length)
    (hOk : ∀ i r prog, p.threads[i]? = some (r, prog) → i ≠ n → K r) (es : List (Event svc))
    (hNew : ∀ r, .request r ∈ es → K r) :
    p.Along (fun p e => isStepOf n e = false →
      (∃ x, e = .external x) ∨ (p.step e).state = p.state ∨
        ∃ r, K r ∧ G r p.state (p.step e).state) es := by
  induction es generalizing p with
  | nil => trivial
  | cons e es ih =>
      have hStep := run_requests hKeep hExternal hReqs hThreads hP [e]
      refine ⟨fun hOther => ?_, ih hStep.2 hStep.1 ?_ ?_ fun r hr =>
        hNew r (List.mem_cons_of_mem _ hr)⟩
      · cases e with
        | request r => exact .inr (.inl rfl)
        | external x => exact .inl ⟨x, rfl⟩
        | resume i f =>
            cases hi : p.threads[i]? with
            | none => exact .inr (.inl (by simp only [step, hi]))
            | some t =>
                obtain ⟨r, prog⟩ := t
                have hne : i ≠ n := by
                  rintro rfl
                  simp [isStepOf] at hOther
                cases prog with
                | done res => exact .inr (.inl (by simp only [step, hi]))
                | await upd k =>
                    refine .inr (.inr ⟨r, hOk i r _ hi hne, ?_⟩)
                    have hOwn := (hThreads _ (List.mem_of_getElem? hi) p.state hP).1
                    simp only [step, hi]
                    cases f with
                    | none => exact hOwn
                    | before => exact hRest r _
                    | after => exact hOwn
      · obtain ⟨prog', hi, -⟩ := step_thread (List.getElem?_eq_getElem hn) e
        exact (List.getElem?_eq_some_iff.1 hi).1
      · intro i r prog' hi hne
        rcases thread_step hi with ⟨r', rfl, -, hNewest⟩ | ⟨prog, hOld, -⟩
        · obtain ⟨rfl, -⟩ := Prod.mk.inj hNewest
          exact hNew r List.mem_cons_self
        · exact hOk i r prog hOld hne

section Run

variable {I : σ → Prop} {Q : svc.Req → svc.Res → σ → Prop}

/-- One event, when every handler keeps to the preorder. -/
theorem step_underway [Std.Refl R] [IsTrans σ R] (hExternal : ∀ x s, R s (svc.external x s))
    {p : Pool svc} (hReq : ∀ r, Since R R (Q r) (svc.handle r) p.state)
    (h : ∀ t ∈ p.threads, Underway R R (Q t.1) t.2 p.state) (e : Event svc) :
    R p.state (p.step e).state ∧
      ∀ t ∈ (p.step e).threads, Underway R R (Q t.1) t.2 (p.step e).state := by
  cases e with
  | request r =>
      refine ⟨refl _, fun t ht => ?_⟩
      simp only [step, List.mem_append, List.mem_singleton] at ht
      rcases ht with ht | rfl
      · exact h t ht
      · exact underway_of_since (hReq r)
  | external x => exact ⟨hExternal x _, fun t ht => (h t ht).other (hExternal x _)⟩
  | resume i f =>
      simp only [step]
      split
      · rename_i r upd k hi
        have hOwn := h _ (List.mem_of_getElem? hi)
        have hStep := hOwn.guarantee f
        refine ⟨hStep, fun t ht => ?_⟩
        rcases List.mem_or_eq_of_mem_set ht with ht | rfl
        · exact (h t ht).other hStep
        · exact hOwn.resumed f
      · exact ⟨refl _, h⟩

/-- **Run rule.**  When every handler keeps to a preorder in states with `I`, which it keeps,
then every event of a run is a step of it, and so is what is left of the handlers. -/
theorem run_underway [Std.Refl R] [IsTrans σ R] (hKeep : ∀ s s', I s → R s s' → I s')
    (hExternal : ∀ x s, R s (svc.external x s))
    (hReq : ∀ r s, I s → Since R R (Q r) (svc.handle r) s) {p : Pool svc} (hI : I p.state)
    (h : ∀ t ∈ p.threads, Underway R R (Q t.1) t.2 p.state) (es : List (Event svc)) :
    I (p.run es).state ∧ p.Along (fun p e => R p.state (p.step e).state) es ∧
      ∀ t ∈ (p.run es).threads, Underway R R (Q t.1) t.2 (p.run es).state := by
  induction es generalizing p with
  | nil => exact ⟨hI, trivial, h⟩
  | cons e es ih =>
      obtain ⟨hR, hThreads⟩ := step_underway hExternal (fun r => hReq r _ hI) h e
      obtain ⟨hI', hAlong, hThreads'⟩ := ih (hKeep _ _ hI hR) hThreads
      exact ⟨hI', ⟨hR, hAlong⟩, hThreads'⟩

end Run

end Pool

end AgentShield.Lib
