import AgentShield.Lib.Async

/-!
# Obligations of a handler

A handler takes a step that others can see, and another one later that completes
it.  In between it *owes* the second step, and a handler that ends there leaves the
first without it.  `Owes F D` says that the rest of a handler is bound to make `D`
true, unless it ends with an error of its own where `F` allows it; `Incurs C F D`
that every step with `C` leaves a handler that owes `D`; and `Pool.Loses` is the
event with which a handler ends with an error and still owes `D`.
-/

namespace AgentShield.Lib

namespace Async

variable {σ ε α β : Type} {C : σ → σ → Prop} {F : Prop} {D : σ → Prop}

/-- Whatever states it finds, the handler comes to a step that makes `D` true before
it ends with a result. -/
def Owes (F : Prop) (D : σ → Prop) : Async σ ε α → Prop
  | done (.ok _) => False
  | done (.error _) => F
  | await upd k => ∀ s, D (upd s) ∨ Owes F D (k s)

/-- Every step with `C` leaves a handler that owes `D`. -/
def Incurs (C : σ → σ → Prop) (F : Prop) (D : σ → Prop) : Async σ ε α → Prop
  | done _ => True
  | await upd k => ∀ s, (C s (upd s) → Owes F D (k s)) ∧ Incurs C F D (k s)

theorem Owes.bind {prog : Async σ ε α} {next : α → Async σ ε β} (h : Owes F D prog) :
    Owes F D (prog >>= next) := by
  induction prog with
  | done r =>
      cases r with
      | ok a => cases h
      | error e => exact h
  | await upd k ih => exact fun s => (h s).imp_right (ih s)

theorem Owes.write_now {f : σ → σ} {next : Unit → Async σ ε β} (h : ∀ s, D (f s)) :
    Owes F D (write f >>= next) := fun s => .inl (h s)

theorem Owes.write_later {f : σ → σ} {next : Unit → Async σ ε β} (h : Owes F D (next ())) :
    Owes F D (write f >>= next) := fun _ => .inr h

/-- A step that makes `D` true when it returns a value. -/
theorem Owes.call_now {f : σ → σ × Except ε α} {next : α → Async σ ε β}
    (h : ∀ s a, (f s).2 = .ok a → D (f s).1) : Owes True D (call f >>= next) := by
  intro s
  show D (f s).1 ∨ Owes True D ((done (f s).2 : Async σ ε α) >>= next)
  cases hf : (f s).2 with
  | ok a => exact .inl (h s a hf)
  | error e => exact .inr trivial

theorem Owes.call_later {f : σ → σ × Except ε α} {next : α → Async σ ε β}
    (h : ∀ a, Owes True D (next a)) : Owes True D (call f >>= next) := by
  intro s
  show D (f s).1 ∨ Owes True D ((done (f s).2 : Async σ ε α) >>= next)
  cases (f s).2 with
  | ok a => exact .inr (h a)
  | error e => exact .inr trivial

/-- What comes after a handler on a part of the state. -/
theorem Owes.within_bind {S : Type} {D : S → Prop} {get : S → σ} {set : S → σ → S}
    {prog : Async σ ε α} {next : α → Async S ε β} (h : ∀ a, Owes True D (next a)) :
    Owes True D (within get set prog >>= next) := by
  induction prog with
  | done r =>
      cases r with
      | ok a => exact h a
      | error e => trivial
  | await upd k ih => exact fun S => .inr (ih (get S))

/-- A handler whose steps are never steps with `C`. -/
theorem Incurs.of_steps {G : σ → σ → Prop} {Q : α → Prop} {prog : Async σ ε α}
    (h : Steps (fun _ => True) G Q prog) (hG : ∀ s s', G s s' → ¬ C s s') :
    Incurs C F D prog := by
  induction prog with
  | done r => trivial
  | await upd k ih =>
      intro s
      obtain ⟨hStep, hk⟩ := h s trivial
      exact ⟨fun hC => absurd hC (hG _ _ hStep), ih s hk⟩

theorem Incurs.bind {prog : Async σ ε α} {next : α → Async σ ε β} (h : Incurs C F D prog)
    (hNext : ∀ a, Incurs C F D (next a)) : Incurs C F D (prog >>= next) := by
  induction prog with
  | done r =>
      cases r with
      | ok a => exact hNext a
      | error e => trivial
  | await upd k ih =>
      intro s
      obtain ⟨hOwes, hk⟩ := h s
      exact ⟨fun hC => (hOwes hC).bind, ih s hk⟩

theorem Incurs.read_bind {f : σ → α} {next : α → Async σ ε β} (hRest : ∀ s, ¬ C s s)
    (hNext : ∀ a, Incurs C F D (next a)) : Incurs C F D (read f >>= next) :=
  fun s => ⟨fun hC => absurd hC (hRest s), hNext (f s)⟩

theorem Incurs.write_bind {f : σ → σ} {next : Unit → Async σ ε β} (hNot : ∀ s, ¬ C s (f s))
    (hNext : Incurs C F D (next ())) : Incurs C F D (write f >>= next) :=
  fun s => ⟨fun hC => absurd hC (hNot s), hNext⟩

theorem Incurs.call_bind {f : σ → σ × Except ε α} {next : α → Async σ ε β}
    (hOk : ∀ s a, (f s).2 = .ok a → C s (f s).1 → Owes F D (next a))
    (hErr : ∀ s e, (f s).2 = .error e → ¬ C s (f s).1) (hNext : ∀ a, Incurs C F D (next a)) :
    Incurs C F D (call f >>= next) := by
  intro s
  show (C s (f s).1 → Owes F D ((done (f s).2 : Async σ ε α) >>= next)) ∧
    Incurs C F D ((done (f s).2 : Async σ ε α) >>= next)
  cases hf : (f s).2 with
  | ok a => exact ⟨hOk s a hf, hNext a⟩
  | error e => exact ⟨fun hC => absurd hC (hErr s e hf), trivial⟩

theorem Incurs.ofExcept_bind {r : Except ε α} {next : α → Async σ ε β}
    (hNext : ∀ a, Incurs C F D (next a)) : Incurs C F D (ofExcept r >>= next) := by
  cases r with
  | ok a => exact hNext a
  | error e => trivial

/-- The step that incurs the obligation, when the backend accepts it. -/
theorem Incurs.attempt_bind {f : σ → Except ε σ} {next : Unit → Async σ ε β}
    (hRest : ∀ s, ¬ C s s) (hOk : ∀ s s', f s = .ok s' → C s s' → Owes F D (next ()))
    (hNext : Incurs C F D (next ())) : Incurs C F D (attempt f >>= next) := by
  intro s
  cases hf : f s with
  | ok s' => simpa only [hf] using ⟨hOk s s' hf, hNext⟩
  | error e => simpa only [hf] using ⟨fun hC => absurd hC (hRest s), trivial⟩

end Async

namespace Pool

open Async

variable {σ ε : Type} {svc : Service σ ε} {C : σ → σ → Prop} {F : Prop} {D : σ → Prop}

/-- `D` holds, or a handler in flight owes it. -/
def Owed (p : Pool svc) (i : Nat) (F : Prop) (D : σ → Prop) : Prop :=
  D p.state ∨ ∃ r upd k, p.threads[i]? = some (r, .await upd k) ∧
    Owes F D (.await upd k : Async σ ε svc.Res)

/-- A handler fails while it owes `D`, or with the step that makes it owe `D`.  That is a
failing step, or where `F` allows it an error that the handler itself ends with. -/
def Loses (p : Pool svc) (e : Event svc) (C : σ → σ → Prop) (F : Prop) (D : σ → Prop) : Prop :=
  ∃ i f r upd k, e = .resume i f ∧ p.threads[i]? = some (r, .await upd k) ∧
    (f = .none → F ∧ ∃ err, k p.state = done (.error err)) ∧
    (Owes F D (.await upd k : Async σ ε svc.Res) ∨ C p.state (p.step e).state) ∧
    ¬ D (p.step e).state

/-- Where only failing steps count, nothing is lost where no step fails. -/
theorem not_loses {p : Pool svc} {e : Event svc} (h : ∀ i f, e = .resume i f → f = .none) :
    ¬ p.Loses e C False D := by
  rintro ⟨i, f, _, _, _, hEvent, _, hOwn, _⟩
  exact (hOwn (h i f hEvent)).1

/-- No step fails, and no handler ends with an error. -/
def clean (p : Pool svc) : Event svc → Bool
  | .resume i f =>
      decide (f = .none) && !((p.step (.resume i f)).threads[i]?).any fun t => t.2.failed
  | _ => true

/-- Nothing is lost with a clean event. -/
theorem not_loses_of_clean {p : Pool svc} {e : Event svc} (h : p.clean e = true) :
    ¬ p.Loses e C F D := by
  rintro ⟨i, f, r, upd, k, rfl, hi, hOwn, _⟩
  simp only [clean, Bool.and_eq_true, decide_eq_true_eq, Bool.not_eq_true'] at h
  obtain ⟨rfl, hFailed⟩ := h
  obtain ⟨-, err, hk⟩ := hOwn rfl
  have hLt : i < p.threads.length := (List.getElem?_eq_some_iff.1 hi).1
  have hi' : (p.step (.resume i .none)).threads[i]? = some (r, k p.state) := by
    simp only [step, hi, resumed]
    exact List.getElem?_set_self hLt
  rw [hi', hk] at hFailed
  cases hFailed

/-- What a handler owes after a step of its own. -/
private theorem owed_resumed {p : Pool svc} {i : Nat} {r : svc.Req} {upd : σ → σ}
    {k : σ → Async σ ε svc.Res} (hi : p.threads[i]? = some (r, .await upd k))
    (hOwes : Owes F D (k p.state))
    (hLost : Owes F D (.await upd k : Async σ ε svc.Res) ∨
      C p.state (p.step (.resume i .none)).state)
    (hKept : ¬ p.Loses (.resume i .none) C F D) :
    (p.step (.resume i .none)).Owed i F D := by
  have hLt : i < p.threads.length := (List.getElem?_eq_some_iff.1 hi).1
  have hi' : (p.step (.resume i .none)).threads[i]? = some (r, k p.state) := by
    simp only [step, hi, resumed]
    exact List.getElem?_set_self hLt
  cases hk : k p.state with
  | await upd' k' =>
      rw [hk] at hi' hOwes
      exact .inr ⟨r, upd', k', hi', hOwes⟩
  | done res =>
      rw [hk] at hOwes
      cases res with
      | ok a => cases hOwes
      | error err =>
          by_cases hD : D (p.step (.resume i .none)).state
          · exact .inl hD
          · exact absurd ⟨i, .none, r, upd, k, rfl, hi, fun _ => ⟨hOwes, err, hk⟩, hLost, hD⟩ hKept

/-- An event that loses nothing and keeps `D` keeps the obligation. -/
theorem step_owed {p : Pool svc} {i : Nat} (h : p.Owed i F D) {e : Event svc}
    (hD : D p.state → D (p.step e).state) (hKept : ¬ p.Loses e C F D) :
    (p.step e).Owed i F D := by
  rcases h with hNow | ⟨r, upd, k, hi, hOwes⟩
  · exact .inl (hD hNow)
  obtain ⟨prog', hi', hStep⟩ := step_thread hi e
  rcases hStep with rfl | ⟨upd', k', f, rfl, hProg, rfl, hState⟩
  · exact .inr ⟨r, upd, k, hi', hOwes⟩
  · cases hProg
    by_cases hFault : f = .none
    · subst hFault
      rcases hOwes p.state with hNow | hLater
      · refine .inl ?_
        rw [hState]
        exact hNow
      · exact owed_resumed hi hLater (.inl hOwes) hKept
    · by_cases hAfter : D (p.step (.resume i f)).state
      · exact .inl hAfter
      · exact absurd ⟨i, f, r, upd, k, rfl, hi, fun hf => absurd hf hFault, .inl hOwes, hAfter⟩
          hKept

/-- The event with which a handler incurs the obligation. -/
theorem owed_of_incurs (hRest : ∀ s, ¬ C s s) {p : Pool svc} {i : Nat}
    {f : Fault} {r : svc.Req} {prog : Async σ ε svc.Res} (hi : p.threads[i]? = some (r, prog))
    (hProg : Incurs C F D prog) (hC : C p.state (p.step (.resume i f)).state)
    (hKept : ¬ p.Loses (.resume i f) C F D) : (p.step (.resume i f)).Owed i F D := by
  cases prog with
  | done res =>
      simp only [step, hi] at hC
      exact absurd hC (hRest _)
  | await upd k =>
      by_cases hFault : f = .none
      · subst hFault
        have hStep : C p.state (upd p.state) := by simpa only [step, hi, effect] using hC
        exact owed_resumed hi ((hProg p.state).1 hStep) (.inr hC) hKept
      · by_cases hAfter : D (p.step (.resume i f)).state
        · exact .inl hAfter
        · exact absurd ⟨i, f, r, upd, k, rfl, hi, fun hf => absurd hf hFault, .inr hC, hAfter⟩
            hKept

/-- **Obligations are met.**  An obligation that no event of the run loses holds when
no handler is in flight. -/
theorem run_owed {p : Pool svc} {i : Nat} (h : p.Owed i F D) {es : List (Event svc)}
    (hRun : p.Along (fun p e => (D p.state → D (p.step e).state) ∧ ¬ p.Loses e C F D) es)
    (hIdle : ∀ t ∈ (p.run es).threads, t.2.finished = true) : D (p.run es).state := by
  induction es generalizing p with
  | nil =>
      rcases h with hNow | ⟨r, upd, k, hi, -⟩
      · exact hNow
      · cases hIdle _ (List.mem_of_getElem? hi)
  | cons e es ih =>
      obtain ⟨⟨hD, hKept⟩, hRest⟩ := hRun
      exact ih (step_owed h hD hKept) hRest hIdle

end Pool

end AgentShield.Lib
