import AgentShield.Lib.Async

/-!
# Handlers that know the past

A handler reads, waits and writes, and what it has read may no longer be true when it
writes.  What stays true is that it was so in an earlier state.  A `Course` names the steps
that a handler of each request may take, and the order `Later` in which states follow each
other; `Leads` follows a handler from a state through every later state in which it may be
resumed, so that a proof about its next step can speak of all the states it has been in.

The run rules say that a service whose handlers keep to the course takes only its steps,
whatever the interleaving and whichever steps fail.
-/

namespace AgentShield.Lib

open Async

/-- What programs may do to a state over time: an order `Later` on the states and, for every
request `ι`, the steps that a program serving it may take. -/
structure Course (σ ι : Type) where
  Later : σ → σ → Prop
  Step : ι → σ → σ → Prop
  refl : ∀ s, Later s s
  trans : ∀ {s₁ s₂ s₃}, Later s₁ s₂ → Later s₂ s₃ → Later s₁ s₃
  rest : ∀ i s, Step i s s
  later : ∀ {i s s'}, Step i s s' → Later s s'

namespace Course

variable {σ ι ε α β : Type} (c : Course σ ι)

/-- A handler of `i` in state `s`: whenever it is resumed, it takes a step of the course,
and it ends with `Q`. -/
def Leads (i : ι) (Q : α → σ → Prop) : Async σ ε α → σ → Prop
  | done (.ok a), s => Q a s
  | done (.error _), _ => True
  | await upd k, s => ∀ s', c.Later s s' → c.Step i s' (upd s') ∧ Leads i Q (k s') (upd s')

section Leads

variable {c} {i : ι} {Q : α → σ → Prop} {Q' : β → σ → Prop} {s : σ}

/-- A sequence leads where its second half leads, from every state and value to which the
first half leads. -/
theorem Leads.bind {P : α → σ → Prop} {prog : Async σ ε α} {next : α → Async σ ε β}
    (h : c.Leads i P prog s)
    (hNext : ∀ a s', c.Later s s' → P a s' → c.Leads i Q' (next a) s') :
    c.Leads i Q' (prog >>= next) s := by
  induction prog generalizing s with
  | done r =>
      cases r with
      | ok a => exact hNext a s (c.refl s) h
      | error e => trivial
  | await upd k ih =>
      intro s' hs'
      have hk := h s' hs'
      have hOwn : c.Later s (upd s') := c.trans hs' (c.later hk.1)
      exact ⟨hk.1, ih s' hk.2 fun a s'' hs'' => hNext a s'' (c.trans hOwn hs'')⟩

/-- A part of which only the course counts. -/
theorem Leads.andThen {P : α → σ → Prop} {prog : Async σ ε α} {next : α → Async σ ε β}
    (h : c.Leads i P prog s) (hNext : ∀ a s', c.Later s s' → c.Leads i Q' (next a) s') :
    c.Leads i Q' (prog >>= next) s :=
  h.bind fun a s' hs' _ => hNext a s' hs'

/-- A read answers from some later state, since other programs may have run since, and the
rest starts there. -/
theorem Leads.read_bind {f : σ → α} {next : α → Async σ ε β}
    (h : ∀ s', c.Later s s' → c.Leads i Q' (next (f s')) s') :
    c.Leads i Q' (Async.read f >>= next) s :=
  fun s' hs' => ⟨c.rest i s', h s' hs'⟩

/-- A check asks for the rest only where its condition is false: an error owes nothing. -/
theorem Leads.raiseIf_bind {p : Prop} [Decidable p] {e : ε} {next : Unit → Async σ ε β}
    (h : ¬ p → c.Leads i Q' (next ()) s) : c.Leads i Q' (raiseIf p e >>= next) s := by
  unfold raiseIf
  by_cases hp : p
  · rw [if_pos hp]
    trivial
  · rw [if_neg hp]
    exact h hp

theorem Leads.require_bind {o : Option α} {e : ε} {next : α → Async σ ε β}
    (h : ∀ a, o = some a → c.Leads i Q' (next a) s) :
    c.Leads i Q' (require o e >>= next) s := by
  cases o with
  | none => trivial
  | some a => exact h a rfl

end Leads

/-- What is left of a handler that was in a state of the past and ends with `Q`. -/
def InFlight (i : ι) (Q : α → σ → Prop) (prog : Async σ ε α) (s : σ) : Prop :=
  ∃ s₀, c.Later s₀ s ∧ c.Leads i Q prog s₀

end Course

/-- Every handler of the service keeps to the course and ends with `Q`, and what happens
outside them moves it on. -/
structure Service.Follows {σ ε : Type} (svc : Service σ ε) (c : Course σ svc.Req)
    (Q : svc.Req → svc.Res → σ → Prop) : Prop where
  external : ∀ x s, c.Later s (svc.external x s)
  handler : ∀ r s, c.Leads r (Q r) (svc.handle r) s

/-! ## Answers -/

namespace Async

variable {σ ε α β : Type}

/-- The handler can return `a` when each of its steps finds a state with `W`. -/
def Returns (W : σ → Prop) : Async σ ε α → α → Prop
  | done (.ok b), a => b = a
  | done (.error _), _ => False
  | await _ k, a => ∃ s, W s ∧ Returns W (k s) a

variable {W : σ → Prop}

/-- What a handler has answered, once it has. -/
def answer? : Async σ ε α → Option α
  | done (.ok a) => some a
  | _ => none

/-- A program has an answer to read off exactly when it has ended with that answer. -/
theorem answer?_eq_some {prog : Async σ ε α} {a : α} :
    prog.answer? = some a ↔ prog = done (.ok a) := by
  cases prog with
  | done r => cases r <;> simp [answer?]
  | await upd k => simp [answer?]

theorem returns_raise {e : ε} {a : α} : ¬ Returns W (raise e : Async σ ε α) a := nofun

/-- A sequence can return a value exactly when its first half can return one from which the
second returns it. -/
theorem returns_bind {prog : Async σ ε α} {next : α → Async σ ε β} {b : β} :
    Returns W (prog >>= next) b ↔ ∃ a, Returns W prog a ∧ Returns W (next a) b := by
  induction prog with
  | done r =>
      cases r with
      | ok a => exact ⟨fun h => ⟨a, rfl, h⟩, fun ⟨a', ha, h⟩ => ha ▸ h⟩
      | error e => exact ⟨fun h => h.elim, fun ⟨a', ha, h⟩ => ha.elim⟩
  | await upd k ih =>
      constructor
      · rintro ⟨s, hs, h⟩
        obtain ⟨a, ha, hNext⟩ := (ih s).1 h
        exact ⟨a, ⟨s, hs, ha⟩, hNext⟩
      · rintro ⟨a, ⟨s, hs, ha⟩, hNext⟩
        exact ⟨s, hs, (ih s).2 ⟨a, ha, hNext⟩⟩

/-- A read may answer as in any of the states the program can meet. -/
theorem returns_read_bind {f : σ → α} {next : α → Async σ ε β} {b : β} :
    Returns W (read f >>= next) b ↔ ∃ s, W s ∧ Returns W (next (f s)) b := Iff.rfl

end Async

namespace Pool

variable {σ ε : Type} {svc : Service σ ε} {c : Course σ svc.Req}
  {Q : svc.Req → svc.Res → σ → Prop}

/-- The event takes a step of the course: one of the handler that it resumes, or one
outside the handlers. -/
def Moves (c : Course σ svc.Req) (p : Pool svc) : Event svc → Prop
  | .request _ => True
  | .external _ => True
  | .resume i f => ∀ t, p.threads[i]? = some t →
      c.Step t.1 p.state (p.step (.resume i f)).state

/-- Every handler of the pool keeps to the course and ends with `Q`. -/
def OnCourse (c : Course σ svc.Req) (Q : svc.Req → svc.Res → σ → Prop) (p : Pool svc) : Prop :=
  ∀ t ∈ p.threads, c.InFlight t.1 (Q t.1) t.2 p.state

/-- A pool that serves nobody yet is on any course. -/
theorem onCourse_start (s : σ) : (start s : Pool svc).OnCourse c Q := by
  intro t ht
  simp [start] at ht

/-- On a course, every event moves the state as the request it belongs to may, or leaves it
alone. -/
theorem step_moves {p : Pool svc} (h : p.OnCourse c Q) (e : Event svc) : p.Moves c e := by
  cases e with
  | request r => trivial
  | external x => trivial
  | resume i f =>
      intro t ht
      obtain ⟨s₀, hs₀, hProg⟩ := h t (List.mem_of_getElem? ht)
      obtain ⟨r, prog⟩ := t
      simp only [step, ht]
      cases prog with
      | done res => exact c.rest r p.state
      | await upd k =>
          cases f with
          | none => exact (hProg p.state hs₀).1
          | before => exact c.rest r p.state
          | after => exact (hProg p.state hs₀).1

/-- No event takes the state back: what it leaves is later than what it found. -/
theorem step_later (hSvc : svc.Follows c Q) {p : Pool svc} (h : p.OnCourse c Q) (e : Event svc) :
    c.Later p.state (p.step e).state := by
  cases e with
  | request r => exact c.refl _
  | external x => exact hSvc.external x _
  | resume i f =>
      have hMoves := step_moves h (.resume i f)
      cases hi : p.threads[i]? with
      | none =>
          have hSame : (p.step (.resume i f)).state = p.state := by simp [step, hi]
          rw [hSame]
          exact c.refl _
      | some t => exact c.later (hMoves t hi)

/-- One event keeps the pool on its course, whether it starts a request, resumes one or lets
it fail. -/
theorem step_onCourse (hSvc : svc.Follows c Q) {p : Pool svc} (h : p.OnCourse c Q)
    (e : Event svc) : (p.step e).OnCourse c Q := by
  have hLater := step_later hSvc h e
  intro t ht
  obtain ⟨i, hi⟩ := List.mem_iff_getElem?.1 ht
  rcases thread_step hi with ⟨r, rfl, -, rfl⟩ | ⟨prog, hOld, hProg⟩
  · exact ⟨p.state, hLater, hSvc.handler r p.state⟩
  · obtain ⟨s₀, hs₀, hLeads⟩ := h _ (List.mem_of_getElem? hOld)
    rcases hProg with hSame | ⟨upd, k, f, rfl, rfl, hNext, hState⟩
    · rw [hSame]
      exact ⟨s₀, c.trans hs₀ hLater, hLeads⟩
    · rw [hNext, hState]
      cases f with
      | none => exact ⟨upd p.state, c.refl _, (hLeads p.state hs₀).2⟩
      | before => exact ⟨p.state, c.refl _, trivial⟩
      | after => exact ⟨upd p.state, c.refl _, trivial⟩

/-- So does any list of events, by induction on the list. -/
theorem run_onCourse (hSvc : svc.Follows c Q) {p : Pool svc} (h : p.OnCourse c Q)
    (es : List (Event svc)) : (p.run es).OnCourse c Q := by
  induction es generalizing p with
  | nil => exact h
  | cons e es ih => exact ih (step_onCourse hSvc h e)

/-- The requests that have been answered, with their answers. -/
def answers (p : Pool svc) : List (svc.Req × svc.Res) :=
  p.threads.filterMap fun t => t.2.answer?.map fun a => (t.1, a)

/-- The answers of a pool are the results of the threads that have ended without an error. -/
theorem mem_answers {p : Pool svc} {r : svc.Req} {a : svc.Res} :
    (r, a) ∈ p.answers ↔ (r, done (.ok a)) ∈ p.threads := by
  simp only [answers, List.mem_filterMap, Option.map_eq_some_iff, answer?_eq_some]
  constructor
  · rintro ⟨⟨r', prog⟩, ht, a', hEnd, hSame⟩
    obtain ⟨rfl, rfl⟩ := Prod.mk.inj hSame
    rwa [← hEnd]
  · intro ht
    exact ⟨(r, done (.ok a)), ht, a, rfl, rfl⟩

/-- A handler that has answered ended with `Q`, in a state of the past. -/
theorem OnCourse.answered {p : Pool svc} (h : p.OnCourse c Q) {r : svc.Req} {a : svc.Res}
    (ha : (r, a) ∈ p.answers) : ∃ s₀, c.Later s₀ p.state ∧ Q r a s₀ :=
  h _ (mem_answers.1 ha)

/-- **Invariant rule.**  What the steps of the course and those outside keep holds in every
state of a run. -/
theorem run_course (hSvc : svc.Follows c Q) {I : σ → Prop}
    (hStep : ∀ r s s', I s → c.Step r s s' → I s')
    (hExternal : ∀ x s, I s → I (svc.external x s)) {p : Pool svc} (h : p.OnCourse c Q)
    (es : List (Event svc)) (h0 : I p.state) : I (p.run es).state := by
  induction es generalizing p with
  | nil => exact h0
  | cons e es ih =>
      refine ih (step_onCourse hSvc h e) ?_
      cases e with
      | request r => exact h0
      | external x => exact hExternal x _ h0
      | resume i f =>
          have hMoves := step_moves h (.resume i f)
          cases hi : p.threads[i]? with
          | none =>
              have hSame : (p.step (.resume i f)).state = p.state := by simp [step, hi]
              rw [hSame]
              exact h0
          | some t => exact hStep t.1 _ _ h0 (hMoves t hi)

end Pool

end AgentShield.Lib
