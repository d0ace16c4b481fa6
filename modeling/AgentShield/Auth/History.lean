import AgentShield.Auth.Constraints
import AgentShield.Auth.Leads

/-!
# Runs of the authentication server

`Reached` is what any run of the service does to the world, whatever the requests, their
interleaving and the steps that fail (`authRun_reached`): steps of the course, and what
happens outside.  An invariant of the writes holds of every world that is reached
(`Reached.invariant`), and every entry of the log was written by a world of the past
(`Reached.split`).
-/

namespace AgentShield.Auth

open AgentShield.Lib AgentShield.Sdk AgentShield.Server

variable (settings : AuthSettings)

/-- One step of a handler, or of what is outside the handlers. -/
def Moves (w w' : AuthWorld) : Prop :=
  (∃ route, AuthStep settings route w w') ∨ ∃ x, w' = outside x w

def Reached : AuthWorld → AuthWorld → Prop := Relation.ReflTransGen (Moves settings)

variable {settings} {s w w' : AuthWorld}

theorem Reached.refl : Reached settings w w := Relation.ReflTransGen.refl

theorem outside_later (x : Outside) (w : AuthWorld) : w.Later (outside x w) := by
  cases x with
  | tick ns => exact AuthWorld.later_of_same rfl rfl (World.now_tick _ ns) (Nat.le_refl _)
  | cache down => exact AuthWorld.later_of_same rfl rfl (Int.le_refl _) (Nat.le_refl _)
  | database db => exact AuthWorld.later_of_same rfl rfl (Int.le_refl _) (Nat.le_refl _)

/-- A run from a pool whose handlers are on course. -/
theorem run_reached {p : Pool (authService settings)}
    (hp : p.OnCourse (authCourse settings) (Delivers settings))
    (events : List (Event (authService settings))) :
    Reached settings p.state (p.run events).state := by
  refine Pool.run_course (c := authCourse settings) (authService_follows settings)
    (I := fun w => Reached settings p.state w) ?_ ?_ hp events Reached.refl
  · intro r w w' hw hStep
    exact Relation.ReflTransGen.tail hw (.inl ⟨r.route, hStep⟩)
  · intro x w hw
    exact Relation.ReflTransGen.tail hw (.inr ⟨x, rfl⟩)

theorem authRun_reached (settings : AuthSettings) (server : World) (db : AuthDb)
    (events : List (Event (authService settings))) :
    Reached settings (.initial server db) (authRun settings server db events).state :=
  run_reached (Pool.onCourse_start _) events

theorem authRun_onCourse (settings : AuthSettings) (server : World) (db : AuthDb)
    (events : List (Event (authService settings))) :
    (authRun settings server db events).OnCourse (authCourse settings) (Delivers settings) :=
  Pool.run_onCourse (authService_follows settings) (Pool.onCourse_start _) events

/-- The second part of a run goes on from the first. -/
theorem authRun_append (settings : AuthSettings) (server : World) (db : AuthDb)
    (first second : List (Event (authService settings))) :
    Reached settings (authRun settings server db first).state
      (authRun settings server db (first ++ second)).state := by
  unfold authRun
  rw [Pool.run_append]
  exact run_reached (authRun_onCourse settings server db first) second

theorem Reached.later (h : Reached settings s w) : s.Later w := by
  induction h with
  | refl => exact AuthWorld.Later.refl _
  | tail _ hMove ih =>
      rcases hMove with ⟨route, hStep⟩ | ⟨x, rfl⟩
      · exact ih.trans (hStep.later settings)
      · exact ih.trans (outside_later x _)

/-- A write that was made on the way: from a reached state, with fresh random values, and for
a reason that the route of its handler allows. -/
structure Written (settings : AuthSettings) (s w : AuthWorld) (statement : Statement)
    (reason : Reason) (db : AuthDb) : Prop where
  reached : Reached settings s w
  run : w.db.execute settings.prim statement = .ok db
  fresh : statement.Fresh settings.prim w.drawn
  justified : ∃ route, Justified settings route w statement reason

/-- **Invariant rule.**  What every write keeps, and what no other step can change. -/
theorem Reached.invariant {I : AuthWorld → Prop} (h : Reached settings s w) (h0 : I s)
    (hQuiet : ∀ w w', w'.db = w.db → w'.log = w.log → w.server.now ≤ w'.server.now →
      w.drawn ≤ w'.drawn → I w → I w')
    (hWrite : ∀ w statement reason db, Written settings s w statement reason db →
      I w → I (w.wrote statement reason db)) : I w := by
  induction h with
  | refl => exact h0
  | tail hBefore hMove ih =>
      rename_i w₁ w₂
      rcases hMove with ⟨route, hStep⟩ | ⟨x, rfl⟩
      · cases hStep with
        | quiet hDb hLog hNow hDrawn => exact hQuiet _ _ hDb hLog (Int.le_of_eq hNow.symm) hDrawn ih
        | write hRun hFresh hReason =>
            exact hWrite _ _ _ _ ⟨hBefore, hRun, hFresh, route, hReason⟩ ih
      · have hLater := outside_later x w₁
        cases x with
        | tick ns => exact hQuiet w₁ _ rfl rfl hLater.now (Nat.le_refl _) ih
        | cache down => exact hQuiet w₁ _ rfl rfl (Int.le_refl _) (Nat.le_refl _) ih
        | database db => exact hQuiet w₁ _ rfl rfl (Int.le_refl _) (Nat.le_refl _) ih

/-- **Every entry of the log** was written by a world on the way, whose log is what comes
before the entry. -/
theorem Reached.split (h : Reached settings s w) (hStart : s.log = []) {l₁ l₂ : List Executed}
    {e : Executed} (hLog : w.log = l₁ ++ e :: l₂) :
    ∃ w₀ db, Written settings s w₀ e.statement e.reason db ∧ w₀.log = l₁ ∧
      e = w₀.entry e.statement e.reason ∧
      Reached settings (w₀.wrote e.statement e.reason db) w := by
  induction h generalizing l₂ with
  | refl =>
      rw [hStart] at hLog
      exact absurd hLog.symm (by simp)
  | tail hBefore hMove ih =>
      rename_i w₁ w₂
      have hOld : ∀ {l₂}, w₁.log = l₁ ++ e :: l₂ →
          ∃ w₀ db, Written settings s w₀ e.statement e.reason db ∧ w₀.log = l₁ ∧
            e = w₀.entry e.statement e.reason ∧
            Reached settings (w₀.wrote e.statement e.reason db) w₂ := by
        intro l₂ hl₂
        obtain ⟨w₀, db, hWritten, hPrefix, hEntry, hRest⟩ := ih hl₂
        exact ⟨w₀, db, hWritten, hPrefix, hEntry, Relation.ReflTransGen.tail hRest hMove⟩
      rcases hMove with ⟨route, hStep⟩ | ⟨x, rfl⟩
      · cases hStep with
        | quiet hDb hLog' hNow hDrawn => exact hOld (hLog'.symm.trans hLog)
        | @write statement reason db hRun hFresh hReason =>
            have hSame : w₁.log ++ [w₁.entry statement reason] = l₁ ++ e :: l₂ := hLog
            rcases List.eq_nil_or_concat l₂ with rfl | ⟨l, e', rfl⟩
            · obtain ⟨rfl, hLast⟩ := List.append_inj' hSame rfl
              obtain rfl := List.singleton_inj.1 hLast
              exact ⟨w₁, db, ⟨hBefore, hRun, hFresh, route, hReason⟩, rfl, rfl, Reached.refl⟩
            · have hShift : w₁.log ++ [w₁.entry statement reason] = (l₁ ++ e :: l) ++ [e'] := by
                rw [hSame]
                simp
              exact hOld (List.append_inj' hShift rfl).1
      · cases x with
        | tick ns => exact hOld hLog
        | cache down => exact hOld hLog
        | database db => exact hOld hLog

/-- A write is a step of the run. -/
theorem Written.andThen {statement : Statement} {reason : Reason} {db : AuthDb}
    (hWritten : Written settings s w statement reason db)
    (hRest : Reached settings (w.wrote statement reason db) w') : Reached settings w w' := by
  obtain ⟨route, hReason⟩ := hWritten.justified
  have hStep : Moves settings w (w.wrote statement reason db) :=
    .inl ⟨route, .write hWritten.run hWritten.fresh hReason⟩
  exact Relation.ReflTransGen.head hStep hRest

/-- What was once the case was the case in a world on the way. -/
theorem Reached.of_saw (h : Reached settings s w) (hStart : s.log = []) {P : AuthDb → Prop}
    (hSaw : w.Saw P) :
    ∃ w₀, Reached settings s w₀ ∧ Reached settings w₀ w ∧ P w₀.db := by
  rcases AuthWorld.saw_iff.1 hSaw with ⟨e, he, hP⟩ | hNow
  · obtain ⟨l₁, l₂, hLog⟩ := List.append_of_mem he
    obtain ⟨w₀, db, hWritten, -, hEntry, hRest⟩ := h.split hStart hLog
    refine ⟨w₀, hWritten.reached, hWritten.andThen hRest, ?_⟩
    rw [hEntry] at hP
    exact hP
  · exact ⟨w, h, Reached.refl, hNow⟩

/-- The texts of every entry were drawn before now. -/
theorem Reached.drawn (h : Reached settings s w) (hStart : s.log = []) :
    ∀ e ∈ w.log, e.drawn + 16 ≤ w.drawn := by
  refine h.invariant (I := fun w => ∀ e ∈ w.log, e.drawn + 16 ≤ w.drawn) ?_ ?_ ?_
  · simp [hStart]
  · intro w w' hDb hLog hNow hDrawn hOld e he
    rw [hLog] at he
    exact Nat.le_trans (hOld e he) hDrawn
  · intro w statement reason db hWritten hOld e he
    rcases List.mem_append.1 he with he | he
    · exact Nat.le_trans (hOld e he) (Nat.le_add_right _ _)
    · obtain rfl := List.mem_singleton.1 he
      exact Nat.le_refl _

/-- What every write keeps of the tables. -/
theorem Reached.tables {I : AuthDb → Prop} (h : Reached settings s w) (h0 : I s.db)
    (hWrite : ∀ w statement reason, Written settings s w statement reason (w.db.apply statement) →
      w.db.constraints settings.prim statement = .ok () → I w.db → I (w.db.apply statement)) :
    I w.db := by
  refine h.invariant (I := fun w => I w.db) h0 ?_ ?_
  · intro w w' hDb _ _ _ hOld
    rw [hDb]
    exact hOld
  · intro w statement reason db hWritten hOld
    obtain ⟨hChecked, rfl⟩ := AuthDb.execute_ok hWritten.run
    exact hWrite w statement reason hWritten hChecked hOld

/-- The keys and unique columns hold in every run. -/
theorem Reached.valid (h : Reached settings s w) (hValid : s.db.Valid settings.prim) :
    w.db.Valid settings.prim :=
  h.tables hValid fun _ _ _ _ hChecked hOld => hOld.apply hChecked

/-- A user stays. -/
theorem Reached.hasUser (h : Reached settings s w) {userId : String}
    (hUser : s.db.hasUser userId) : w.db.hasUser userId :=
  h.tables (I := fun db => db.hasUser userId) hUser
    fun _ _ _ _ _ hOld => AuthDb.hasUser_apply hOld

/-- The user of a token is there. -/
theorem Presents.hasUser (h : Reached settings s w) (hStart : s.log = [])
    (hValid : s.db.Valid settings.prim) {token : TokenRow} (hPresents : Presents w token) :
    w.db.hasUser token.userId := by
  obtain ⟨w₀, hThen, hLater, hMem⟩ := h.of_saw hStart hPresents.seen
  exact hLater.hasUser ((hThen.valid hValid).tokenUsers token hMem)

/-! ## The log as a history -/

/-- The log is in the order of the numbers of its writes. -/
theorem Reached.log_sorted (h : Reached settings s w) (hStart : s.log = []) :
    w.log.Pairwise fun e e' => e.drawn < e'.drawn := by
  refine h.invariant (I := fun w => w.log.Pairwise fun e e' => e.drawn < e'.drawn) ?_ ?_ ?_
  · simp [hStart]
  · intro w w' _ hLog _ _ hOld
    rw [hLog]
    exact hOld
  · intro w statement reason db hWritten hOld
    refine List.pairwise_append.2 ⟨hOld, List.pairwise_singleton _ _, fun e he e' he' => ?_⟩
    obtain rfl := List.mem_singleton.1 he'
    have hDrawn := hWritten.reached.drawn hStart e he
    show e.drawn < w.drawn
    omega

/-- Two entries with one number are the same entry. -/
theorem Reached.entry_eq (h : Reached settings s w) (hStart : s.log = []) {e e' : Executed}
    (he : e ∈ w.log) (he' : e' ∈ w.log) (hSame : e.drawn = e'.drawn) : e = e' := by
  have hApart : w.log.Pairwise fun e e' => e.drawn ≠ e'.drawn :=
    (h.log_sorted hStart).imp fun hLess => Nat.ne_of_lt hLess
  have hKeys : KeyUnique (·.drawn) w.log := List.pairwise_map.2 hApart
  exact hKeys.eq he he' hSame

/-- The entries before an entry are those with smaller numbers. -/
theorem Reached.mem_earlier (h : Reached settings s w) (hStart : s.log = [])
    {l₁ l₂ : List Executed} {e e' : Executed} (hLog : w.log = l₁ ++ e :: l₂) (he' : e' ∈ w.log)
    (hLess : e'.drawn < e.drawn) : e' ∈ l₁ := by
  have hSorted := h.log_sorted hStart
  rw [hLog] at hSorted he'
  rcases List.mem_append.1 he' with hBefore | hAfter
  · exact hBefore
  · have hCons := (List.pairwise_append.1 hSorted).2.1
    rcases List.mem_cons.1 hAfter with rfl | hAfter
    · omega
    · have hMore := (List.pairwise_cons.1 hCons).1 e' hAfter
      omega

/-- An entry of the log, the world that wrote it, and what comes before it. -/
theorem Reached.entry (h : Reached settings s w) (hStart : s.log = []) {e : Executed}
    (he : e ∈ w.log) :
    ∃ w₀ db, Written settings s w₀ e.statement e.reason db ∧ e = w₀.entry e.statement e.reason ∧
      Reached settings (w₀.wrote e.statement e.reason db) w ∧ (∃ l, w.log = w₀.log ++ e :: l) ∧
      ∀ e' ∈ w.log, e'.drawn < e.drawn → e' ∈ w₀.log := by
  obtain ⟨l₁, l₂, hLog⟩ := List.append_of_mem he
  obtain ⟨w₀, db, hWritten, rfl, hEntry, hRest⟩ := h.split hStart hLog
  exact ⟨w₀, db, hWritten, hEntry, hRest, ⟨l₂, hLog⟩,
    fun e' he' hLess => h.mem_earlier hStart hLog he' hLess⟩

/-! ## Runs whose writes meet a condition -/

/-- Every entry of a log meets a condition, given the entries before it. -/
def Along (C : List Executed → Executed → Prop) (log : List Executed) : Prop :=
  ∀ i, ∀ h : i < log.length, C (log.take i) log[i]

section Along

variable {C : List Executed → Executed → Prop} {log : List Executed}

instance [∀ earlier e, Decidable (C earlier e)] : Decidable (Along C log) :=
  inferInstanceAs (Decidable (∀ i, ∀ h : i < log.length, C (log.take i) log[i]))

theorem Along.of_forall {P : Executed → Prop} (h : ∀ e ∈ log, P e) : Along (fun _ => P) log :=
  fun _ _ => h _ (List.getElem_mem _)

theorem Along.split (h : Along C log) {l₁ l₂ : List Executed} {e : Executed}
    (hLog : log = l₁ ++ e :: l₂) : C l₁ e := by
  subst hLog
  have hHere := h l₁.length (by simp)
  simpa using hHere

theorem Along.earlier {more : List Executed} (h : Along C (log ++ more)) : Along C log := by
  intro i hi
  have hHere := h i (by rw [List.length_append]; omega)
  rwa [List.take_append_of_le_length (Nat.le_of_lt hi), List.getElem_append_left hi] at hHere

theorem Along.last {e : Executed} (h : Along C (log ++ [e])) : C log e := h.split rfl

end Along

/-- A write that was made on the way, and it and every write before it met the condition. -/
structure WrittenUnder (settings : AuthSettings) (C : List Executed → Executed → Prop)
    (s w : AuthWorld) (statement : Statement) (reason : Reason) : Prop where
  written : Written settings s w statement reason (w.db.apply statement)
  checked : w.db.constraints settings.prim statement = .ok ()
  earlier : Along C w.log
  now : C w.log (w.entry statement reason)

section Under

variable {C : List Executed → Executed → Prop}

/-- **Invariant rule under a condition.**  What every write keeps that meets the condition,
in a run whose writes all meet it. -/
theorem Reached.under {I : AuthWorld → Prop} (h : Reached settings s w) (hAll : Along C w.log)
    (h0 : I s)
    (hQuiet : ∀ w w', w'.db = w.db → w'.log = w.log → w.server.now ≤ w'.server.now →
      w.drawn ≤ w'.drawn → I w → I w')
    (hWrite : ∀ w statement reason, WrittenUnder settings C s w statement reason → I w →
      I (w.wrote statement reason (w.db.apply statement))) : I w := by
  refine h.invariant (I := fun w => Along C w.log → I w) (fun _ => h0) ?_ ?_ hAll
  · intro w w' hDb hLog hNow hDrawn hOld hAll
    rw [hLog] at hAll
    exact hQuiet w w' hDb hLog hNow hDrawn (hOld hAll)
  · intro w statement reason db hWritten hOld hAll
    obtain ⟨hChecked, rfl⟩ := AuthDb.execute_ok hWritten.run
    have hEarlier : Along C w.log := Along.earlier hAll
    exact hWrite w statement reason ⟨hWritten, hChecked, hEarlier, Along.last hAll⟩
      (hOld hEarlier)

/-- **At most once.**  The first write of a kind leaves the thing used; it stays used, and
while it is used there is no write of the kind. -/
theorem Reached.atMostOnce {p : Executed → Bool} {U : AuthWorld → Prop}
    (h : Reached settings s w) (hAll : Along C w.log) (hStart : s.log = [])
    (hQuiet : ∀ w w', w'.db = w.db → w.drawn ≤ w'.drawn → U w → U w')
    (hFirst : ∀ w statement reason, WrittenUnder settings C s w statement reason →
      p (w.entry statement reason) = true → U (w.wrote statement reason (w.db.apply statement)))
    (hKeep : ∀ w statement reason, WrittenUnder settings C s w statement reason →
      p (w.entry statement reason) = false → U w →
      U (w.wrote statement reason (w.db.apply statement)))
    (hNever : ∀ w statement reason, WrittenUnder settings C s w statement reason →
      p (w.entry statement reason) = true → ¬ U w) :
    w.log.countP p = 0 ∨ (w.log.countP p = 1 ∧ U w) := by
  refine h.under (I := fun w => w.log.countP p = 0 ∨ (w.log.countP p = 1 ∧ U w)) hAll
    (.inl (by simp [hStart])) ?_ ?_
  · intro w w' hDb hLog _ hDrawn hOld
    rw [hLog]
    exact hOld.imp_right fun hUsed => ⟨hUsed.1, hQuiet w w' hDb hDrawn hUsed.2⟩
  · intro w statement reason hWritten hOld
    have hCount : (w.log ++ [w.entry statement reason]).countP p =
        w.log.countP p + if p (w.entry statement reason) = true then 1 else 0 := by
      rw [List.countP_append, List.countP_singleton]
    show (w.log ++ [w.entry statement reason]).countP p = 0 ∨
      ((w.log ++ [w.entry statement reason]).countP p = 1 ∧ _)
    rw [hCount]
    cases hp : p (w.entry statement reason) with
    | true =>
        rcases hOld with hNone | ⟨-, hUsed⟩
        · exact .inr ⟨by simp [hNone], hFirst w statement reason hWritten hp⟩
        · exact absurd hUsed (hNever w statement reason hWritten hp)
    | false =>
        rcases hOld with hNone | ⟨hOne, hUsed⟩
        · exact .inl (by simp [hNone])
        · exact .inr ⟨by simp [hOne], hKeep w statement reason hWritten hp hUsed⟩

end Under

end AgentShield.Auth
