import AgentShield.Auth.LogSteps
import AgentShield.Auth.Passwords

/-!
# The counter of failed sign-ins

A wrong password is counted by a locking read and an `UPDATE`.  The read runs on a connection
of its own, so that its lock does not last until the `UPDATE`: two sign-ins may read one
counter and both write its successor.  The counter follows its writes as long as each `UPDATE`
finds the counter that its handler has read (`counter_follows`).  A sign-in that is refused for
its password writes it once, and no other request does (`failures_eq`); so no failed sign-in is
lost, and the lockout follows their number (`failed_logins_counted`).
-/

namespace AgentShield.Auth

open AgentShield.Lib AgentShield.Sdk AgentShield.Server

/-! ## Failures and successes of a user -/

namespace Executed

/-- The counter of the user is written, for a wrong password. -/
def countsFailure (userId : String) (e : Executed) : Bool :=
  match e.statement with
  | .setFailedLogin _ _ _ user => user = userId
  | _ => false

/-- A sign-in that has passed its checks clears the counter. -/
def clearsFailures (userId : String) (e : Executed) : Bool :=
  match e.statement with
  | .resetFailedLogin _ user => user = userId
  | _ => false

/-- The time from which a failed sign-in of the user counts its lockout. -/
def failsAt? (userId : String) (e : Executed) : Option Int :=
  match e.reason with
  | .failedLogin user _ time => if user.userId = userId then some time else none
  | _ => none

/-- The write of a counter finds the counter that its handler has read. -/
def counterCurrent (e : Executed) : Prop :=
  match e.reason with
  | .failedLogin user row _ =>
      (e.before.findByUserId user.userId).map (·.failedLoginCount) =
        row.map (·.failedLoginCount)
  | _ => True

instance (e : Executed) : Decidable e.counterCurrent := by
  obtain ⟨statement, reason, before, clock, drawn⟩ := e
  unfold counterCurrent
  induction reason using Reason.casesOn <;> infer_instance

end Executed

/-- The number of writes of the counter of the user in a log. -/
def failures (userId : String) (log : List Executed) : Nat :=
  log.countP (Executed.countsFailure userId)

/-- Every write of the counter since `start` was read has added one to it.  Past the threshold,
the account is locked from the last one on, for the minutes of the schedule. -/
structure CounterFollows (start : User) (w : AuthWorld) : Prop where
  stored : w.db.hasUser start.userId
  counter : ∀ u ∈ w.db.users, u.userId = start.userId →
    u.failedLoginCount = start.failedLoginCount + failures start.userId w.log
  lockout : 0 < failures start.userId w.log →
    lockoutThreshold < start.failedLoginCount + failures start.userId w.log →
    ∃ time ≤ w.server.now, latest (Executed.failsAt? start.userId) w.log = some time ∧
      ∀ u ∈ w.db.users, u.userId = start.userId → ∀ t, lockoutIsActive u t = true ↔
        t < time + lockoutMinutesFor (start.failedLoginCount +
          failures start.userId w.log) * 60000

/-! ## The schedule -/

theorem lockoutMinutes_pos {count : Nat} (h : lockoutThreshold < count) :
    0 < lockoutMinutesFor count := by
  have hOver : count - lockoutThreshold ≠ 0 := by omega
  have hIndex : min (count - lockoutThreshold - 1) (lockoutMinutesSchedule.length - 1) <
      lockoutMinutesSchedule.length := by
    have hLength : lockoutMinutesSchedule.length = 4 := rfl
    omega
  have hEvery : ∀ minutes ∈ lockoutMinutesSchedule, 0 < minutes := by decide
  unfold lockoutMinutesFor
  simp only [if_neg hOver]
  rw [List.getD_eq_getElem?_getD, List.getElem?_eq_getElem hIndex, Option.getD_some]
  exact hEvery _ (List.getElem_mem hIndex)

/-- A row that was locked out when its counter was written. -/
theorem lockout_of_locked {u : User} {count : Nat} {time : Int}
    (hStatus : u.lockedUntil ≠ none → u.status = .locked)
    (hUntil : u.lockedUntil = lockedUntilFor count time) (h : lockoutThreshold < count)
    (t : Int) : lockoutIsActive u t = true ↔ t < time + lockoutMinutesFor count * 60000 := by
  have hPos := lockoutMinutes_pos h
  have hSome : u.lockedUntil = some (time + lockoutMinutesFor count * 60000) := by
    rw [hUntil, lockedUntilFor, if_neg (by omega)]
  have hLocked : u.status = .locked := hStatus (by rw [hSome]; simp)
  simp [lockoutIsActive, hLocked, hSome]

/-! ## What a write does to the counter -/

section

variable {settings : AuthSettings} {s w : AuthWorld}

/-- Only these two statements touch what the lockout looks at. -/
theorem setUser_lockout {statement : Statement} {u : User}
    (hFailed : ∀ count lockedUntil now, statement ≠ .setFailedLogin count lockedUntil now u.userId)
    (hReset : ∀ now, statement ≠ .resetFailedLogin now u.userId) :
    (statement.setUser u).failedLoginCount = u.failedLoginCount ∧
      (statement.setUser u).status = u.status ∧
      (statement.setUser u).lockedUntil = u.lockedUntil := by
  cases statement with
  | setFailedLogin count lockedUntil now userId =>
      have hOther : u.userId ≠ userId := fun hSame => hFailed _ _ _ (by rw [hSame])
      simp only [Statement.setUser, if_neg hOther, and_self]
  | resetFailedLogin now userId =>
      have hOther : u.userId ≠ userId := fun hSame => hReset _ (by rw [hSame])
      simp only [Statement.setUser, if_neg hOther, and_self]
  | _ => refine ⟨?_, ?_, ?_⟩ <;> simp only [Statement.setUser] <;> split <;> rfl

/-- The user's row after a write is the one before it, updated. -/
theorem user_of_apply {statement : Statement} {db : AuthDb} {userId : String}
    (hUser : db.hasUser userId) (hChecked : db.constraints settings.prim statement = .ok ())
    {u : User} (hu : u ∈ (db.apply statement).users) (hId : u.userId = userId) :
    ∃ old ∈ db.users, old.userId = userId ∧ u = statement.setUser old := by
  rcases List.mem_append.1 hu with hu | hu
  · obtain ⟨old, hOld, rfl⟩ := List.mem_map.1 hu
    exact ⟨old, hOld, (statement.setUser_userId old).symm.trans hId, rfl⟩
  · obtain ⟨old, hOld, hOldId⟩ := hUser
    exact absurd (hOldId.trans hId.symm) (AuthDb.constraints_addUser hChecked old hOld u hu).1

/-- A failure that is counted now: the handler has read the counter that is stored. -/
theorem countsFailure_cases (hValid : w.db.Valid settings.prim) {statement : Statement}
    {reason : Reason} {db : AuthDb} (hWritten : Written settings s w statement reason db)
    (hCurrent : (w.entry statement reason).counterCurrent) {userId : String}
    (hCounts : (w.entry statement reason).countsFailure userId = true) {old : User}
    (hOld : old ∈ w.db.users) (hId : old.userId = userId) :
    ∃ user row time now, user.userId = userId ∧ reason = .failedLogin user row time ∧
      time ≤ w.server.now ∧ statement = .setFailedLogin (old.failedLoginCount + 1)
        (lockedUntilFor (old.failedLoginCount + 1) time) now userId := by
  obtain ⟨route, hReason⟩ := hWritten.justified
  cases hReason <;> simp only [Executed.countsFailure, AuthWorld.entry, Bool.false_eq_true,
    decide_eq_true_eq] at hCounts
  rename_i user row time now hRoute hTime
  have hFind : w.db.findByUserId userId = some old := by
    rw [← hId]
    exact hValid.userIds.find_eq hOld
  have hRead : some old.failedLoginCount = row.map (·.failedLoginCount) := by
    have hHere : (w.db.findByUserId user.userId).map (·.failedLoginCount) =
        row.map (·.failedLoginCount) := hCurrent
    rwa [hCounts, hFind] at hHere
  have hCount : newFailedCount row = old.failedLoginCount + 1 := by
    rw [newFailedCount, ← hRead, Option.getD_some]
  refine ⟨user, row, time, now, hCounts, rfl, hTime, ?_⟩
  rw [hCount, hCounts]

theorem failures_append (userId : String) (log : List Executed) (e : Executed) :
    failures userId (log ++ [e]) =
      failures userId log + if e.countsFailure userId = true then 1 else 0 := by
  unfold failures
  rw [List.countP_append, List.countP_singleton]

/-- A failure is counted.  The write finds the counter as it was read, so that it becomes one
more, and the lockout is that of the new number from the clock reading of the failure. -/
theorem CounterFollows.failure {start : User} (h : CounterFollows start w)
    (hValid : w.db.Valid settings.prim) {statement : Statement} {reason : Reason}
    (hWritten : Written settings s w statement reason (w.db.apply statement))
    (hChecked : w.db.constraints settings.prim statement = .ok ())
    (hCurrent : (w.entry statement reason).counterCurrent)
    (hCounts : (w.entry statement reason).countsFailure start.userId = true) :
    CounterFollows start (w.wrote statement reason (w.db.apply statement)) := by
  have hMore : failures start.userId (w.log ++ [w.entry statement reason]) =
      failures start.userId w.log + 1 := by
    rw [failures_append, if_pos hCounts]
  obtain ⟨first, hFirst, hFirstId⟩ := h.stored
  obtain ⟨user, row, time, now, hUserId, rfl, hTime, rfl⟩ :=
    countsFailure_cases hValid hWritten hCurrent hCounts hFirst hFirstId
  have hCount : first.failedLoginCount + 1 =
      start.failedLoginCount + (failures start.userId w.log + 1) := by
    have hOld := h.counter first hFirst hFirstId
    omega
  -- the row is the one that was found before, with the next counter
  have hRow : ∀ u ∈ (w.db.apply (.setFailedLogin (first.failedLoginCount + 1)
      (lockedUntilFor (first.failedLoginCount + 1) time) now start.userId)).users,
      u.userId = start.userId → u.failedLoginCount = first.failedLoginCount + 1 ∧
        u.lockedUntil = lockedUntilFor (first.failedLoginCount + 1) time ∧
        (u.lockedUntil ≠ none → u.status = .locked) := by
    intro u hu hId
    obtain ⟨old, hOld, hOldId, rfl⟩ := user_of_apply h.stored hChecked hu hId
    simp only [Statement.setUser, if_pos hOldId, true_and]
    intro hLocked
    rw [if_neg hLocked]
  refine ⟨AuthDb.hasUser_apply h.stored, fun u hu hId => ?_, fun _ hPast => ?_⟩
  · show u.failedLoginCount = _ + failures _ (w.log ++ [_])
    rw [hMore, (hRow u hu hId).1, hCount]
  · refine ⟨time, hTime, ?_, fun u hu hId t => ?_⟩
    · exact latest_append_some (by simp [Executed.failsAt?, AuthWorld.entry, hUserId])
    · have hPast' : lockoutThreshold < first.failedLoginCount + 1 := by
        have hNow : lockoutThreshold < start.failedLoginCount +
          failures start.userId (w.log ++ [_]) := hPast
        rw [hMore] at hNow
        omega
      obtain ⟨-, hUntil, hStatus⟩ := hRow u hu hId
      show _ ↔ t < time + lockoutMinutesFor (_ + failures _ (w.log ++ [_])) * 60000
      rw [hMore, ← hCount]
      exact lockout_of_locked hStatus hUntil hPast' t

/-- Every other write leaves the counter and the lockout alone, and the user stays in the
table. -/
theorem CounterFollows.other {start : User} (h : CounterFollows start w)
    {statement : Statement} {reason : Reason}
    (hWritten : Written settings s w statement reason (w.db.apply statement))
    (hChecked : w.db.constraints settings.prim statement = .ok ())
    (hClears : (w.entry statement reason).clearsFailures start.userId = false)
    (hCounts : (w.entry statement reason).countsFailure start.userId = false) :
    CounterFollows start (w.wrote statement reason (w.db.apply statement)) := by
  have hSame : failures start.userId (w.log ++ [w.entry statement reason]) =
      failures start.userId w.log := by
    rw [failures_append, hCounts]
    rfl
  have hRow : ∀ u ∈ (w.db.apply statement).users, u.userId = start.userId →
      ∃ old ∈ w.db.users, old.userId = start.userId ∧
        u.failedLoginCount = old.failedLoginCount ∧
        ∀ t, lockoutIsActive u t = lockoutIsActive old t := by
    intro u hu hId
    obtain ⟨old, hOld, hOldId, rfl⟩ := user_of_apply h.stored hChecked hu hId
    have hFailed : ∀ count lockedUntil now,
        statement ≠ .setFailedLogin count lockedUntil now old.userId := by
      rintro count lockedUntil now rfl
      simp [Executed.countsFailure, AuthWorld.entry, hOldId] at hCounts
    have hReset : ∀ now, statement ≠ .resetFailedLogin now old.userId := by
      rintro now rfl
      simp [Executed.clearsFailures, AuthWorld.entry, hOldId] at hClears
    obtain ⟨hCount, hStatus, hUntil⟩ := setUser_lockout hFailed hReset
    refine ⟨old, hOld, hOldId, hCount, fun t => ?_⟩
    simp only [lockoutIsActive, hStatus, hUntil]
  have hNoFailure : (w.entry statement reason).failsAt? start.userId = none := by
    obtain ⟨route, hReason⟩ := hWritten.justified
    cases hReason <;> simp only [Executed.failsAt?, AuthWorld.entry]
    rename_i user row time now hRoute hTime
    refine if_neg fun hId => ?_
    simp [Executed.countsFailure, AuthWorld.entry, hId] at hCounts
  refine ⟨AuthDb.hasUser_apply h.stored, fun u hu hId => ?_, fun hSome hPast => ?_⟩
  · obtain ⟨old, hOld, hOldId, hCounter, -⟩ := hRow u hu hId
    show u.failedLoginCount = _ + failures _ (w.log ++ [_])
    rw [hSame, hCounter]
    exact h.counter old hOld hOldId
  · have hSome' : 0 < failures start.userId (w.log ++ [_]) := hSome
    have hPast' : lockoutThreshold < start.failedLoginCount +
      failures start.userId (w.log ++ [_]) := hPast
    rw [hSame] at hSome' hPast'
    obtain ⟨time, hTime, hLatest, hActive⟩ := h.lockout hSome' hPast'
    refine ⟨time, hTime, (latest_append_none hNoFailure).trans hLatest, fun u hu hId t => ?_⟩
    obtain ⟨old, hOld, hOldId, -, hLockout⟩ := hRow u hu hId
    show _ ↔ t < time + lockoutMinutesFor (_ + failures _ (w.log ++ [_])) * 60000
    rw [hSame, hLockout t]
    exact hActive old hOld hOldId t

end

/-! ## Every run -/

/-- The counter follows its writes, as long as each finds the counter that its handler has
read and nothing clears it. -/
theorem counter_follows {settings : AuthSettings} {server : World} {db : AuthDb}
    (hValid : db.Valid settings.prim) {user : User} (hUser : user ∈ db.users)
    {events : List (Event (authService settings))}
    (hNoSuccess : ∀ e ∈ (authRun settings server db events).state.log,
      e.clearsFailures user.userId = false)
    (hCurrent : ∀ e ∈ (authRun settings server db events).state.log,
      e.countsFailure user.userId = true → e.counterCurrent) :
    CounterFollows user (authRun settings server db events).state := by
  have hRun := authRun_reached settings server db events
  have hAll : Along (fun _ e => e.clearsFailures user.userId = false ∧
      (e.countsFailure user.userId = true → e.counterCurrent))
      (authRun settings server db events).state.log :=
    .of_forall fun e he => ⟨hNoSuccess e he, hCurrent e he⟩
  refine hRun.under (I := CounterFollows user) hAll ?_ ?_ ?_
  · refine ⟨⟨user, hUser, rfl⟩, fun u hu hId => ?_, fun hSome => absurd hSome (Nat.lt_irrefl 0)⟩
    rw [hValid.userIds.eq hu hUser hId]
    rfl
  · intro w w' hDb hLog hNow _ hOld
    constructor
    · rw [hDb]
      exact hOld.stored
    · rw [hDb, hLog]
      exact hOld.counter
    · rw [hDb, hLog]
      intro hSome hPast
      obtain ⟨time, hTime, hRest⟩ := hOld.lockout hSome hPast
      exact ⟨time, Int.le_trans hTime hNow, hRest⟩
  · intro w statement reason hWritten hOld
    obtain ⟨hClears, hHere⟩ := hWritten.now
    cases hCounts : (w.entry statement reason).countsFailure user.userId with
    | true =>
        exact hOld.failure (hWritten.written.reached.valid hValid) hWritten.written
          hWritten.checked (hHere hCounts) hCounts
    | false => exact hOld.other hWritten.written hWritten.checked hClears hCounts

/-! ## Failed sign-ins -/

/-- The request is a sign-in with the address. -/
def Request.signsInAs (prim : AuthPrimitives) (email : String) : Request → Bool
  | signIn _ body => prim.lower body.email = prim.lower email
  | _ => false

section

variable {settings : AuthSettings}

/-- The number of sign-ins of the user that have failed. -/
def failedSignIns (user : User) (p : Pool (authService settings)) : Nat :=
  p.threads.countP fun t => t.1.signsInAs settings.prim user.email && t.2.failed

/-- The sign-in of the user has come to its password, which is wrong. -/
def AtWrongPassword (settings : AuthSettings) (user : User) (r : Request)
    (prog : AuthHandler Response) : Prop :=
  r.signsInAs settings.prim user.email = true ∧ ∃ ip userAgent body row rest,
    row.userId = user.userId ∧
    PasswordHasherService.accepts settings.prim settings.peppers body.password row = false ∧
    prog = checkPassword settings ip userAgent body row >>= rest

/-- The sign-ins of the user have ended, with no step that failed, and the ones that were
refused were refused for their passwords. -/
structure RefusedForPassword (user : User) (s : AuthWorld)
    (events : List (Event (authService settings))) : Prop where
  ended : ∀ t ∈ ((Pool.start s).run events).threads,
    t.1.signsInAs settings.prim user.email = true → t.2.finished = true
  sound : (Pool.start s).Along
    (Pool.Sound fun r : Request => r.signsInAs settings.prim user.email = true) events
  refused : ∀ i r prog, ((Pool.start s).run events).threads[i]? = some (r, prog) →
    r.signsInAs settings.prim user.email = true → prog.failed = true →
    (Pool.start s).Came (AtWrongPassword settings user) events i r

/-- The rows with the id of the user are the rows with the address of the user. -/
def OwnAddress (settings : AuthSettings) (user : User) (w : AuthWorld) : Prop :=
  ∀ u ∈ w.db.users, u.userId = user.userId ↔
    settings.prim.lower u.email = settings.prim.lower user.email

theorem Reached.ownAddress {s w : AuthWorld} (h : Reached settings s w)
    (hValid : s.db.Valid settings.prim) {user : User} (hUser : user ∈ s.db.users) :
    OwnAddress settings user w := by
  have hKept : ∃ u ∈ w.db.users, u.userId = user.userId ∧ u.email = user.email := by
    refine h.tables (I := fun db => ∃ u ∈ db.users, u.userId = user.userId ∧
      u.email = user.email) ⟨user, hUser, rfl, rfl⟩ ?_
    rintro w statement reason hWritten hChecked ⟨u, hu, hId, hEmail⟩
    refine ⟨statement.setUser u, List.mem_append_left _ (List.mem_map_of_mem hu), ?_, ?_⟩
    · rw [statement.setUser_userId u, hId]
    · rw [statement.setUser_email u, hEmail]
  obtain ⟨own, hOwn, hId, hEmail⟩ := hKept
  have hUnique := h.valid hValid
  intro u hu
  constructor
  · intro hSame
    rw [hUnique.userIds.eq hu hOwn (hSame.trans hId.symm), hEmail]
  · intro hSame
    rw [hUnique.emails.eq hu hOwn (by rw [hSame, hEmail]), hId]

/-- The statement writes no counter of the user. -/
def CountsNone (userId : String) (statement : Statement) (_ : Reason) : Prop :=
  ∀ count lockedUntil now, statement ≠ .setFailedLogin count lockedUntil now userId

theorem countsFailure_eq_false {userId : String} {e : Executed}
    (h : CountsNone userId e.statement e.reason) : e.countsFailure userId = false := by
  unfold Executed.countsFailure
  split
  · rename_i count lockedUntil now other hSame
    refine decide_eq_false ?_
    rintro rfl
    exact h count lockedUntil now hSame
  · rfl

theorem failures_logStep {userId : String} {w w' : AuthWorld}
    (h : LogStep (CountsNone userId) w w') :
    failures userId w'.log = failures userId w.log := by
  rcases h with hSame | ⟨e, hLog, hNone⟩
  · rw [hSame]
  · rw [hLog, failures_append, countsFailure_eq_false hNone]
    rfl

/-- A sign-in writes no counter of the user before it has come to a wrong password. -/
theorem signIn_untilPassword (user : User) (http : Http) (body : SignInRequest) :
    Async.MakesNothingUntil (OwnAddress settings user)
      (fun w : AuthWorld => failures user.userId w.log)
      (AtWrongPassword settings user (.signIn http body))
      (signIn settings (http.to .signIn) body) := by
  have hAudit : ∀ reason row, CountsNone user.userId (.insertAudit row) reason := by
    rintro reason row count lockedUntil now hSame
    cases hSame
  have hRest : ∀ {α : Type} {prog : AuthHandler α}, Logs (CountsNone user.userId) prog →
      Async.Steps (OwnAddress settings user) (LogStep (CountsNone user.userId))
        (fun _ => True) prog :=
    fun h => h.weaken fun _ _ => trivial
  unfold signIn
  refine .after (hRest (enforceOrBlock_logs _ _ _)) (fun _ _ => failures_logStep) fun _ _ => ?_
  refine .read_bind fun w hOwn => ?_
  split
  · refine .of_steps (hRest ?_) fun _ _ => failures_logStep
    exact bind_logs (signInFail_logs (hAudit _)) fun _ => trivial
  · rename_i row hFound
    refine .after (hRest (checkAccount_logs (hAudit _))) (fun _ _ => failures_logStep)
      fun _ _ => ?_
    by_cases hWrong : row.userId = user.userId ∧
      PasswordHasherService.accepts settings.prim settings.peppers body.password row = false
    · refine .here ⟨?_, _, _, body, row, _, hWrong.1, hWrong.2, rfl⟩
      have hEmail : settings.prim.lower row.email = settings.prim.lower body.email := by
        simpa using List.find?_some hFound
      have hAddress := (hOwn row (mem_of_find hFound)).1 hWrong.1
      exact decide_eq_true (hEmail.symm.trans hAddress)
    · refine .of_steps (hRest ?_) fun _ _ => failures_logStep
      have hPassword : Logs (CountsNone user.userId) (checkPassword settings
          (clientIp http.headers http.client) http.userAgent body row) := by
        by_cases hId : row.userId = user.userId
        · have hRight : PasswordHasherService.accepts settings.prim settings.peppers
              body.password row = true := by
            by_contra hNot
            exact hWrong ⟨hId, by simpa using hNot⟩
          unfold checkPassword
          rw [if_pos hRight]
          trivial
        · refine checkPassword_logs (hAudit _) (hAudit _) ?_
          rintro _ _ _ count lockedUntil now hSame
          exact hId (Statement.setFailedLogin.inj hSame).2.2.2
      refine bind_logs hPassword fun _ => bind_logs (checkTotp_logs (hAudit _)) fun _ => ?_
      refine signedIn_logs (hAudit _) ?_ ?_ ?_
      · rintro _ count lockedUntil now hSame
        cases hSame
      · rintro _ _ _ count lockedUntil now hSame
        cases hSame
      · rintro _ count lockedUntil now hSame
        cases hSame

/-- A wrong password is counted once, whatever fails afterwards: the audit rows that follow
are no writes of the counter. -/
theorem checkPassword_counts {user row : User} {ip userAgent : Option String}
    {body : SignInRequest} (hId : row.userId = user.userId)
    (hWrong : PasswordHasherService.accepts settings.prim settings.peppers body.password row =
      false) :
    LogOwes (Executed.countsFailure user.userId) (fun _ => false) (fun _ o => o = 1)
      (fun _ _ => False) (checkPassword settings ip userAgent body row) 0 := by
  unfold checkPassword recordFailedLogin signInFail insertAudit
  rw [if_neg (by simp [hWrong])]
  refine Async.Settles.bind (Q := fun _ o => o = 1) ?_ ?_
  · refine Async.Settles.read_bind fun w => Async.Settles.read_bind fun w' => ?_
    refine Async.Settles.bind (Q := fun _ o => o = 1) ?_ ?_
    · refine executeNow_owes ?_ fun _ _ _ => ⟨1, ?_, rfl⟩
      · intro db now n c hRefused
        cases hRefused
      · simp [Executed.countsFailure, AuthWorld.entry, hId]
    · rintro _ o rfl
      unfold auditLock insertAudit
      split
      · exact rfl
      · refine Async.Settles.bind (executeNow_idle (fun _ _ _ => ⟨rfl, rfl⟩) fun _ => rfl) ?_
        exact fun _ _ hOne => hOne
  · rintro _ o rfl
    refine Async.Settles.bind (executeNow_idle (fun _ _ _ => ⟨rfl, rfl⟩) fun _ => rfl) ?_
    exact fun _ _ hOne => hOne

/-- What the sign-ins of the user add to the counter, from their wrong passwords on. -/
theorem makesFrom_password (user : User) :
    Pool.MakesFrom (authService settings) (authCourse settings)
      (fun w => failures user.userId w.log) (OwnAddress settings user)
      (fun r : Request => r.route = .signIn) (AtWrongPassword settings user)
      (fun _ o => o = 1) (fun _ _ => False) where
  before := by
    intro r hRoute
    cases r with
    | signIn http body =>
        show Async.MakesNothingUntil _ _ _
          (Async.raiseIf _ (apiError 404 .notFound) >>= fun _ => signIn settings _ body)
        unfold Async.raiseIf
        split
        · trivial
        · exact signIn_untilPassword user http body
    | _ => cases hRoute
  settles := by
    rintro r prog ⟨-, ip, userAgent, body, row, rest, hId, hWrong, rfl⟩
    have hNone : (fun w : AuthWorld => w.log.countP fun _ => false) = fun _ => 0 := by
      funext w
      exact List.countP_eq_zero.2 fun _ _ h => by cases h
    have hCounts : LogOwes (Executed.countsFailure user.userId) (fun _ => false)
        (fun _ o => o = 1) (fun _ _ => False) (checkPassword settings ip userAgent body row) 0 :=
      checkPassword_counts hId hWrong
    unfold LogOwes at hCounts
    rw [hNone] at hCounts
    exact hCounts.bind fun _ _ h => h.elim
  others := by
    intro r w w' hOther hStep
    cases hStep with
    | quiet hDb hLog hNow hDrawn => rw [hLog]
    | @write statement reason db hRun hFresh hReason =>
        refine failures_logStep (.inr ⟨w.entry statement reason, rfl, ?_⟩)
        cases hReason with
        | failedLogin hRoute => exact absurd hRoute hOther
        | _ =>
            rintro count lockedUntil now hSame
            cases hSame
  external x w := by cases x <;> rfl

/-- The writes of the counter are as many as the sign-ins that have failed, where each of them
was refused for its password. -/
theorem failures_eq {server : World} {db : AuthDb} (hValid : db.Valid settings.prim)
    {user : User} (hUser : user ∈ db.users) {events : List (Event (authService settings))}
    (hRefused : RefusedForPassword user (.initial server db) events) :
    failures user.userId (authRun settings server db events).state.log =
      failedSignIns user (authRun settings server db events) := by
  have hTally := Pool.Tally.run_from (authService_follows settings) (makesFrom_password user)
    (fun _ _ hAt => hAt.1) (s := .initial server db) rfl events
    (fun es => (authRun_reached settings server db es).ownAddress hValid hUser) hRefused.sound
  refine (hTally.made_eq (fun t : Request × AuthHandler Response =>
    t.1.signsInAs settings.prim user.email && t.2.failed) ?_).trans (Nat.zero_add _)
  rintro i r prog o hi ⟨hCame, hNot⟩
  by_cases hPoint : (Pool.start (.initial server db) : Pool (authService settings)).Came
    (AtWrongPassword settings user) events i r
  · have hSignIn : r.signsInAs settings.prim user.email = true := by
      obtain ⟨_, _, _, _, hAt⟩ := hPoint
      exact hAt.1
    have hEnded := hRefused.ended _ (List.mem_of_getElem? hi) hSignIn
    have hOwed := hCame hPoint
    cases prog with
    | await upd k => cases hEnded
    | done res =>
        cases res with
        | ok a => exact hOwed.elim
        | error e =>
            rw [if_pos (by simp [hSignIn, Async.failed])]
            exact hOwed
  · rw [(hNot hPoint).1, if_neg]
    intro hFailed
    obtain ⟨hSignIn, hFailed⟩ := Bool.and_eq_true_iff.1 hFailed
    exact hPoint (hRefused.refused i r prog hi hSignIn hFailed)

end

/-- Every failed sign-in of the user is counted.  Past the threshold, the account is locked
from the last failure on, for the minutes of the schedule. -/
structure FailuresCounted {settings : AuthSettings} (start : User)
    (p : Pool (authService settings)) : Prop where
  stored : p.state.db.hasUser start.userId
  counter : ∀ u ∈ p.state.db.users, u.userId = start.userId →
    u.failedLoginCount = start.failedLoginCount + failedSignIns start p
  lockout : 0 < failedSignIns start p →
    lockoutThreshold < start.failedLoginCount + failedSignIns start p →
    ∃ time ≤ p.state.server.now,
      latest (Executed.failsAt? start.userId) p.state.log = some time ∧
      ∀ u ∈ p.state.db.users, u.userId = start.userId → ∀ t, lockoutIsActive u t = true ↔
        t < time + lockoutMinutesFor (start.failedLoginCount + failedSignIns start p) * 60000

/-- **No failed sign-in is lost.**  In every run without a success of the user, in which each
write of the counter finds the counter that its handler has read and the sign-ins of the user
fail for their passwords, the counter has grown by the number of the failed sign-ins, and past
the threshold the lockout is in force. -/
theorem failed_logins_counted (settings : AuthSettings) (server : World) (db : AuthDb)
    (hValid : db.Valid settings.prim) (user : User) (hUser : user ∈ db.users)
    (events : List (Event (authService settings)))
    (hNoSuccess : ∀ e ∈ (authRun settings server db events).state.log,
      e.clearsFailures user.userId = false)
    (hCurrent : ∀ e ∈ (authRun settings server db events).state.log,
      e.countsFailure user.userId = true → e.counterCurrent)
    (hRefused : RefusedForPassword user (.initial server db) events) :
    FailuresCounted user (authRun settings server db events) := by
  have hFollows := counter_follows hValid hUser hNoSuccess hCurrent
  have hCount := failures_eq hValid hUser hRefused
  refine ⟨hFollows.stored, ?_, ?_⟩
  · rw [← hCount]
    exact hFollows.counter
  · rw [← hCount]
    exact hFollows.lockout

namespace Sample

/-- The user after some failures in a row. -/
def failedUser (count : Nat) : User := { user with failedLoginCount := count }

def failedDb (count : Nat) : AuthDb := { authDb with users := [failedUser count] }

theorem failedDb_valid (count : Nat) : (failedDb count).Valid authPrim := by
  constructor <;> simp [KeyUnique, failedDb, failedUser, authDb, AuthDb.hasUser, user, resetToken]

def wrongBody : SignInRequest where
  email := "mail"
  password := "wrong"

/-- A sign-in with a wrong password, from some address. -/
def wrongSignIn (client : String) : Request := .signIn { client := client } wrongBody

/-- What comes after the password of such a sign-in. -/
def afterPassword (client : String) (user : User) : Unit → AuthHandler Response := fun _ => do
  checkTotp authSettings client none wrongBody user
  let _ ← resetFailedLogin authSettings user.userId (.signIn user wrongBody.password)
  rehash authSettings wrongBody.password user
  issueSession authSettings user client none { event := .signInOk, ip := client }
    (.signIn user wrongBody.password)

/-- Two sign-ins that both read the counter before either writes it. -/
def twoFailures : List (Event (authService authSettings)) :=
  [.request (wrongSignIn "a"), .request (wrongSignIn "b")] ++
    steps 0 6 ++ steps 1 6 ++ steps 0 20 ++ steps 1 20

/-- One failure alone. -/
def oneFailure : List (Event (authService authSettings)) :=
  .request (wrongSignIn "a") :: steps 0 20

theorem steps_sound {p : Pool (authService authSettings)} {F : Request → Prop} (i n : Nat) :
    p.Along (Pool.Sound F) (steps i n) := by
  refine Pool.along_of_forall (fun e he p => ?_) p
  rintro j f rfl t _ _
  cases (List.eq_of_mem_replicate he)
  rfl

theorem atWrongPassword (client : String) (count : Nat) :
    AtWrongPassword authSettings (failedUser count) (wrongSignIn client)
      (checkPassword authSettings client none wrongBody (failedUser count) >>=
        afterPassword client (failedUser count)) := by
  have hWrong : PasswordHasherService.accepts authSettings.prim authSettings.peppers
      wrongBody.password user = false := by decide +kernel
  exact ⟨rfl, client, none, wrongBody, failedUser count, _, rfl, hWrong, rfl⟩

/-- The request of a handler, as a run shows it. -/
theorem request_eq {ts : List (Request × AuthHandler Response)} (rs : List Request)
    (hRequests : ts.map Prod.fst = rs) {i : Nat} {r : Request} {prog : AuthHandler Response}
    (hi : ts[i]? = some (r, prog)) : rs[i]? = some r := by
  rw [← hRequests, List.getElem?_map, hi]
  rfl

theorem oneFailure_refused :
    RefusedForPassword (failedUser 5) (.initial authServer (failedDb 5)) oneFailure where
  ended := by decide +kernel
  sound := ⟨nofun, steps_sound 0 20⟩
  refused := by
    intro i r prog hi _ _
    have hRequest := request_eq [wrongSignIn "a"] (by decide +kernel) hi
    match i, hRequest with
    | 0, rfl => exact ⟨oneFailure.take 6, _, List.take_prefix _ _, rfl, atWrongPassword "a" 5⟩

set_option maxRecDepth 2000 in
theorem twoFailures_refused :
    RefusedForPassword (failedUser 4) (.initial authServer (failedDb 4)) twoFailures where
  ended := by decide +kernel
  sound := by
    refine Pool.along_append.2 ⟨Pool.along_append.2 ⟨Pool.along_append.2 ⟨Pool.along_append.2
      ⟨⟨nofun, nofun, trivial⟩, ?_⟩, ?_⟩, ?_⟩, ?_⟩
    all_goals exact steps_sound _ _
  refused := by
    intro i r prog hi _ _
    have hRequest := request_eq [wrongSignIn "a", wrongSignIn "b"] (by decide +kernel) hi
    match i, hRequest with
    | 0, rfl => exact ⟨twoFailures.take 7, _, List.take_prefix _ _, rfl, atWrongPassword "a" 4⟩
    | 1, rfl => exact ⟨twoFailures.take 13, _, List.take_prefix _ _, rfl, atWrongPassword "b" 4⟩

end Sample

theorem failed_logins_counted_sample :
    FailuresCounted (Sample.failedUser 5) (authRun Sample.authSettings Sample.authServer
      (Sample.failedDb 5) Sample.oneFailure) :=
  failed_logins_counted Sample.authSettings Sample.authServer (Sample.failedDb 5)
    (Sample.failedDb_valid 5) (Sample.failedUser 5) (List.mem_singleton_self _)
    Sample.oneFailure (by decide +kernel) (by decide +kernel) Sample.oneFailure_refused

/-- **A failed sign-in is not counted.**  Two sign-ins fail after four failures; both have
read the same counter, the account has five failures and is not locked. -/
theorem concurrent_failures_lost :
    failedSignIns (Sample.failedUser 4) (authRun Sample.authSettings Sample.authServer
        (Sample.failedDb 4) Sample.twoFailures) = 2 ∧
      (authRun Sample.authSettings Sample.authServer (Sample.failedDb 4)
        Sample.twoFailures).state.db.users.map (fun u => (u.failedLoginCount, u.status)) =
        [(5, .active)] ∧
      ¬ ∀ (settings : AuthSettings) (server : World) (db : AuthDb), db.Valid settings.prim →
        ∀ user ∈ db.users, ∀ (events : List (Event (authService settings))),
        (∀ e ∈ (authRun settings server db events).state.log,
          e.clearsFailures user.userId = false) →
        RefusedForPassword user (.initial server db) events →
        FailuresCounted user (authRun settings server db events) := by
  have hTwo : failedSignIns (Sample.failedUser 4) (authRun Sample.authSettings
      Sample.authServer (Sample.failedDb 4) Sample.twoFailures) = 2 := by
    decide +kernel
  have hFive : ∃ u ∈ (authRun Sample.authSettings Sample.authServer (Sample.failedDb 4)
      Sample.twoFailures).state.db.users,
      u.userId = (Sample.failedUser 4).userId ∧ u.failedLoginCount = 5 := by decide +kernel
  refine ⟨hTwo, by decide +kernel, fun hAll => ?_⟩
  have hCounted := hAll Sample.authSettings Sample.authServer (Sample.failedDb 4)
    (Sample.failedDb_valid 4) (Sample.failedUser 4)
    (List.mem_singleton_self _) Sample.twoFailures (by decide +kernel) Sample.twoFailures_refused
  obtain ⟨u, hMem, hId, hFiveNow⟩ := hFive
  have hSix := hCounted.counter u hMem hId
  rw [hTwo, hFiveNow] at hSix
  exact absurd hSix (by decide)

end AgentShield.Auth
