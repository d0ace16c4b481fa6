import AgentShield.Auth.Admission

/-!
# The password of a user

A change and a reset store a fresh hash whatever is stored, and complete with a row of the
audit log.  A sign-in that finds a hash under an old pepper stores a fresh hash of the
password that it has verified, some statements after it has read the row.  What the stored
hash accepts is the password of the last change or reset as long as every such re-hash finds
a hash that still accepts its password.
-/

namespace AgentShield.Auth

open AgentShield.Lib AgentShield.Sdk AgentShield.Server

/-! ## Changes, resets and their completions -/

namespace Executed

/-- The hash and the password that a change or reset of a user's password stores. -/
def setsPassword? (userId : String) (e : Executed) : Option (String × String) :=
  match e.statement, e.reason with
  | .setPasswordHash passwordHash _ _ user, .passwordChange _ _ password =>
      if user = userId then some (passwordHash, password) else none
  | .setPasswordHash passwordHash _ _ user, .passwordReset _ password =>
      if user = userId then some (passwordHash, password) else none
  | _, _ => none

/-- The hash that a change or reset of the user's password had stored, in its last write. -/
def completes? (userId : String) (e : Executed) : Option String :=
  match e.statement, e.reason with
  | .insertAudit row, .passwordSet passwordHash =>
      if row.userId = some userId then some passwordHash else none
  | _, _ => none

end Executed

/-- The last of what the entries of a log say. -/
def latest {α : Type} (f : Executed → Option α) (log : List Executed) : Option α :=
  log.reverse.findSome? f

/-- The condition for the password: a re-hash finds a hash that accepts the password it has
verified, and a change or reset that completes is the last one to have stored a hash. -/
def passwordKept (settings : AuthSettings) (earlier : List Executed) (e : Executed) : Prop :=
  match e.statement, e.reason with
  | .setPasswordHash _ _ _ _, .rehash user password =>
      ∀ u ∈ e.before.users, u.userId = user.userId →
        PasswordHasherService.accepts settings.prim settings.peppers password u = true
  | .insertAudit row, .passwordSet passwordHash =>
      ∀ userId ∈ row.userId,
        (latest (Executed.setsPassword? userId) earlier).map Prod.fst = some passwordHash
  | _, _ => True

instance (settings : AuthSettings) (earlier : List Executed) (e : Executed) :
    Decidable (passwordKept settings earlier e) := by
  obtain ⟨statement, reason, before, clock, drawn⟩ := e
  unfold passwordKept
  induction statement using Statement.casesOn with
  | setPasswordHash _ _ _ _ => induction reason using Reason.casesOn <;> infer_instance
  | insertAudit _ => induction reason using Reason.casesOn <;> infer_instance
  | _ => infer_instance

/-- Every change and reset of the user's password that has stored its hash has completed. -/
def AllCompleted (userId : String) (log : List Executed) : Prop :=
  ∀ e ∈ log, ∀ set ∈ e.setsPassword? userId, ∃ e' ∈ log, e'.completes? userId = some set.1

instance (userId : String) (log : List Executed) : Decidable (AllCompleted userId log) :=
  inferInstanceAs (Decidable (∀ e ∈ log, ∀ set ∈ e.setsPassword? userId,
    ∃ e' ∈ log, e'.completes? userId = some set.1))

section Latest

variable {α : Type} {f : Executed → Option α} {log : List Executed}

theorem latest_append (e : Executed) : latest f (log ++ [e]) = (f e).or (latest f log) := by
  unfold latest
  rw [List.reverse_append, List.reverse_singleton, List.singleton_append, List.findSome?_cons]
  cases f e <;> rfl

theorem latest_append_none {e : Executed} (h : f e = none) :
    latest f (log ++ [e]) = latest f log := by
  rw [latest_append, h, Option.none_or]

theorem latest_append_some {e : Executed} {a : α} (h : f e = some a) :
    latest f (log ++ [e]) = some a := by
  rw [latest_append, h, Option.some_or]

theorem exists_of_latest {a : α} (h : latest f log = some a) : ∃ e ∈ log, f e = some a := by
  obtain ⟨e, he, hf⟩ := List.exists_of_findSome?_eq_some h
  exact ⟨e, List.mem_reverse.1 he, hf⟩

end Latest

/-! ## What the stored hash accepts -/

section

variable {settings : AuthSettings} {s w : AuthWorld}

/-- The stored hash of the user accepts exactly one password. -/
def AcceptsOnly (settings : AuthSettings) (db : AuthDb) (userId password : String) : Prop :=
  ∀ u ∈ db.users, u.userId = userId → ∀ candidate,
    PasswordHasherService.accepts settings.prim settings.peppers candidate u = true ↔
      candidate = password

/-- A change or reset belongs to a user of the tables, and stores a fresh hash. -/
theorem setsPassword_cases (h : Reached settings s w) (hStart : s.log = [])
    (hValid : s.db.Valid settings.prim) {statement : Statement} {reason : Reason} {db : AuthDb}
    (hWritten : Written settings s w statement reason db) {userId passwordHash password : String}
    (hSets : (w.entry statement reason).setsPassword? userId = some (passwordHash, password)) :
    w.db.hasUser userId ∧ passwordHash = (freshHash settings w.drawn password).1 ∧
      ∃ now, statement = .setPasswordHash (freshHash settings w.drawn password).1
        (freshHash settings w.drawn password).2 now userId := by
  obtain ⟨route, hReason⟩ := hWritten.justified
  cases hReason <;> simp only [Executed.setsPassword?, AuthWorld.entry, reduceCtorEq] at hSets
  case changed caller user newPassword now hRoute hChanges =>
    obtain ⟨rfl, hPair⟩ := Option.ite_none_right_eq_some.1 hSets
    obtain ⟨rfl, rfl⟩ := Prod.mk.inj (Option.some.inj hPair)
    obtain ⟨w₀, -, hLater, hSeen⟩ := h.of_saw hStart hChanges.seen
    exact ⟨hLater.hasUser ⟨user, hSeen, rfl⟩, rfl, now, rfl⟩
  case reset token newPassword now hRoute hPresents hConsumed =>
    obtain ⟨rfl, hPair⟩ := Option.ite_none_right_eq_some.1 hSets
    obtain ⟨rfl, rfl⟩ := Prod.mk.inj (Option.some.inj hPair)
    exact ⟨hPresents.hasUser h hStart hValid, rfl, now, rfl⟩

/-- A statement that is no write of the user's hash leaves it alone. -/
theorem setUser_passwordHash (statement : Statement) (u : User)
    (h : ∀ passwordHash pepperKid now,
      statement ≠ .setPasswordHash passwordHash pepperKid now u.userId) :
    (statement.setUser u).passwordHash = u.passwordHash ∧
      (statement.setUser u).passwordPepperKid = u.passwordPepperKid := by
  cases statement with
  | setPasswordHash passwordHash pepperKid now userId =>
      have hOther : u.userId ≠ userId := fun hSame => h _ _ _ (by rw [hSame])
      simp only [Statement.setUser, if_neg hOther, and_self]
  | _ => constructor <;> simp only [Statement.setUser] <;> split <;> rfl

/-- The user's row after a fresh hash of a password. -/
theorem acceptsOnly_fresh (hSound : SoundHashing settings.prim) {db : AuthDb}
    {n : Nat} {password userId : String} {now : Int} :
    AcceptsOnly settings (db.apply (.setPasswordHash (freshHash settings n password).1
      (freshHash settings n password).2 now userId)) userId password := by
  intro u hu hId candidate
  have hMapped : u ∈ db.users.map (Statement.setPasswordHash (freshHash settings n password).1
      (freshHash settings n password).2 now userId).setUser := by
    simpa [AuthDb.apply, Statement.addUser] using hu
  obtain ⟨old, hOld, rfl⟩ := List.mem_map.1 hMapped
  rw [Statement.setUser_userId] at hId
  simp only [Statement.setUser, if_pos hId]
  exact PasswordHasherService.verify_hash hSound settings.peppers n password candidate

/-- Every other write keeps what the stored hash of a user accepts. -/
theorem AcceptsOnly.apply {statement : Statement} {db : AuthDb} {userId password : String}
    (h : AcceptsOnly settings db userId password) (hUser : db.hasUser userId)
    (hChecked : db.constraints settings.prim statement = .ok ())
    (hOther : ∀ passwordHash pepperKid now,
      statement ≠ .setPasswordHash passwordHash pepperKid now userId) :
    AcceptsOnly settings (db.apply statement) userId password := by
  intro u hu hId candidate
  rcases List.mem_append.1 hu with hu | hu
  · obtain ⟨old, hOld, rfl⟩ := List.mem_map.1 hu
    rw [Statement.setUser_userId] at hId
    have hSame := setUser_passwordHash statement old (by rwa [hId])
    unfold PasswordHasherService.accepts
    rw [hSame.1, hSame.2]
    exact h old hOld hId candidate
  · obtain ⟨old, hOld, hOldId⟩ := hUser
    exact absurd (hOldId.trans hId.symm)
      (AuthDb.constraints_addUser hChecked old hOld u hu).1

/-- The last change or reset of the user's password decides what the stored hash accepts.  A
later re-hash is of the same password under the condition, and other writes leave the hash
alone. -/
theorem Reached.accepts_latest (h : Reached settings s w) (hStart : s.log = [])
    (hValid : s.db.Valid settings.prim) (hSound : SoundHashing settings.prim)
    (hAll : Along (passwordKept settings) w.log) {userId passwordHash password : String}
    (hLatest : latest (Executed.setsPassword? userId) w.log = some (passwordHash, password)) :
    w.db.hasUser userId ∧ AcceptsOnly settings w.db userId password := by
  have hEvery : ∀ passwordHash password,
      latest (Executed.setsPassword? userId) w.log = some (passwordHash, password) →
      w.db.hasUser userId ∧ AcceptsOnly settings w.db userId password := by
    refine h.under (I := fun w => ∀ passwordHash password,
      latest (Executed.setsPassword? userId) w.log = some (passwordHash, password) →
      w.db.hasUser userId ∧ AcceptsOnly settings w.db userId password) hAll ?_ ?_ ?_
    · intro passwordHash password hNone
      rw [hStart] at hNone
      cases hNone
    · intro w w' hDb hLog _ _ hOld
      rw [hDb, hLog]
      exact hOld
    · intro w statement reason hWritten hOld passwordHash password hNow
      cases hSets : (w.entry statement reason).setsPassword? userId with
      | some pair =>
          have hPair : some pair = some (passwordHash, password) :=
            (latest_append_some hSets).symm.trans hNow
          obtain rfl := Option.some.inj hPair
          obtain ⟨hUser, -, now, rfl⟩ :=
            setsPassword_cases hWritten.written.reached hStart hValid hWritten.written hSets
          exact ⟨AuthDb.hasUser_apply hUser, acceptsOnly_fresh hSound⟩
      | none =>
          obtain ⟨hUser, hOnly⟩ := hOld passwordHash password
            ((latest_append_none hSets).symm.trans hNow)
          refine ⟨AuthDb.hasUser_apply hUser, ?_⟩
          by_cases hHash : ∃ hash kid now, statement = .setPasswordHash hash kid now userId
          · obtain ⟨hash, kid, now, rfl⟩ := hHash
            -- a re-hash, of the password that the stored hash accepts
            have hKept := hWritten.now
            obtain ⟨route, hReason⟩ := hWritten.written.justified
            cases hReason with
            | @rehashed user verified now hSigns =>
                obtain ⟨u, hu, hId⟩ := hUser
                have hAccepts : PasswordHasherService.accepts settings.prim settings.peppers
                    verified u = true := hKept u hu hId
                obtain rfl := (hOnly u hu hId verified).1 hAccepts
                exact acceptsOnly_fresh hSound
            | changed hRoute hChanges =>
                simp [Executed.setsPassword?, AuthWorld.entry] at hSets
            | reset hRoute hPresents hConsumed =>
                simp [Executed.setsPassword?, AuthWorld.entry] at hSets
          · exact hOnly.apply hUser hWritten.checked fun hash kid now hSame =>
              hHash ⟨hash, kid, now, hSame⟩
  exact hEvery passwordHash password hLatest

/-! ## The last completion -/

/-- The hash of a change or reset in the log was drawn with the number of its entry. -/
theorem hash_of_setsPassword (h : Reached settings s w) (hStart : s.log = [])
    (hValid : s.db.Valid settings.prim) {e : Executed} (he : e ∈ w.log)
    {userId passwordHash password : String}
    (hSets : e.setsPassword? userId = some (passwordHash, password)) :
    passwordHash = (freshHash settings e.drawn password).1 := by
  obtain ⟨l₁, l₂, hLog⟩ := List.append_of_mem he
  obtain ⟨w₀, db, hWritten, -, hEntry, -⟩ := h.split hStart hLog
  rw [hEntry] at hSets
  have hHash := (setsPassword_cases hWritten.reached hStart hValid hWritten hSets).2.1
  rw [hEntry]
  exact hHash

/-- What has completed had stored its hash before. -/
theorem sets_of_completes (hAll : Along (passwordKept settings) w.log) {e : Executed}
    (he : e ∈ w.log) {userId passwordHash : String}
    (hCompletes : e.completes? userId = some passwordHash) :
    ∃ e' ∈ w.log, ∃ password, e'.setsPassword? userId = some (passwordHash, password) := by
  obtain ⟨l₁, l₂, hLog⟩ := List.append_of_mem he
  have hKept := hAll.split hLog
  unfold Executed.completes? at hCompletes
  unfold passwordKept at hKept
  split at hCompletes
  · rename_i row hash hStatement hReason
    rw [hStatement, hReason] at hKept
    obtain ⟨hUser, hHash⟩ := Option.ite_none_right_eq_some.1 hCompletes
    obtain rfl := Option.some.inj hHash
    obtain ⟨pair, hLatest, hFirst⟩ := Option.map_eq_some_iff.1 (hKept userId hUser)
    obtain ⟨e', he', hSets⟩ := exists_of_latest hLatest
    refine ⟨e', ?_, pair.2, ?_⟩
    · rw [hLog]
      exact List.mem_append_left _ he'
    · rw [hSets, ← hFirst]
  · cases hCompletes

/-- When the last change or reset to store a hash has completed, it is the last to have
completed. -/
theorem Reached.completed_latest (h : Reached settings s w) (hStart : s.log = [])
    (hValid : s.db.Valid settings.prim) (hSound : SoundHashing settings.prim)
    (hAll : Along (passwordKept settings) w.log) {userId : String} :
    ∀ passwordHash password,
      latest (Executed.setsPassword? userId) w.log = some (passwordHash, password) →
      (∃ e ∈ w.log, e.completes? userId = some passwordHash) →
      latest (Executed.completes? userId) w.log = some passwordHash := by
  refine h.under (I := fun w => ∀ passwordHash password,
    latest (Executed.setsPassword? userId) w.log = some (passwordHash, password) →
    (∃ e ∈ w.log, e.completes? userId = some passwordHash) →
    latest (Executed.completes? userId) w.log = some passwordHash) hAll ?_ ?_ ?_
  · intro passwordHash password hNone
    rw [hStart] at hNone
    cases hNone
  · intro w w' _ hLog _ _ hOld
    rw [hLog]
    exact hOld
  · intro w statement reason hWritten hOld passwordHash password hLatest hCompleted
    have hNow := hWritten.now
    have hEarlier := hWritten.earlier
    have hReached := hWritten.written.reached
    show latest (Executed.completes? userId) (w.log ++ [w.entry statement reason]) = _
    cases hSets : (w.entry statement reason).setsPassword? userId with
    | some pair =>
        -- a fresh hash has not completed yet
        have hPair : some pair = some (passwordHash, password) :=
          (latest_append_some hSets).symm.trans hLatest
        obtain rfl := Option.some.inj hPair
        obtain ⟨-, hHash, now, rfl⟩ :=
          setsPassword_cases hReached hStart hValid hWritten.written hSets
        obtain ⟨e, he, hCompletes⟩ := hCompleted
        rcases List.mem_append.1 he with he | he
        · obtain ⟨e', he', old, hOldSets⟩ := sets_of_completes hEarlier he hCompletes
          have hOldHash := hash_of_setsPassword hReached hStart hValid he' hOldSets
          have hSalt : e'.drawn = w.drawn := hSound.fresh _ _ _ _ (hOldHash.symm.trans hHash)
          have hLess := hReached.drawn hStart e' he'
          omega
        · obtain rfl := List.mem_singleton.1 he
          simp [Executed.completes?, AuthWorld.entry] at hCompletes
    | none =>
        have hBefore := (latest_append_none hSets).symm.trans hLatest
        cases hCompletes : (w.entry statement reason).completes? userId with
        | some completed =>
            -- the completion of the last hash
            rw [latest_append_some hCompletes]
            unfold Executed.completes? at hCompletes
            unfold passwordKept at hNow
            split at hCompletes
            · rename_i row hash hStatement hReason
              rw [hStatement, hReason] at hNow
              obtain ⟨hUser, hSame⟩ := Option.ite_none_right_eq_some.1 hCompletes
              have hLast := hNow userId hUser
              rw [hBefore, Option.map_some] at hLast
              rw [← hSame, hLast]
            · cases hCompletes
        | none =>
            rw [latest_append_none hCompletes]
            refine hOld passwordHash password hBefore ?_
            obtain ⟨e, he, hDone⟩ := hCompleted
            rcases List.mem_append.1 he with he | he
            · exact ⟨e, he, hDone⟩
            · obtain rfl := List.mem_singleton.1 he
              rw [hCompletes] at hDone
              cases hDone

end

/-! ## Every run -/

/-- The stored hash of the user verifies exactly the password of the change or reset that
was the last to complete. -/
def PasswordDurable (settings : AuthSettings) (w : AuthWorld) (userId : String) : Prop :=
  ∀ passwordHash, latest (Executed.completes? userId) w.log = some passwordHash →
    ∃ password, (∃ e ∈ w.log, e.setsPassword? userId = some (passwordHash, password)) ∧
      AcceptsOnly settings w.db userId password

/-- **A password change is durable.**  In every run in which each re-hash finds a hash that
still accepts its password, and changes and resets complete in the order in which they have
stored their hashes, the stored hash of a user verifies exactly the password of the last
change or reset, once all of them have completed. -/
theorem password_durable (settings : AuthSettings) (server : World) (db : AuthDb)
    (hValid : db.Valid settings.prim) (hSound : SoundHashing settings.prim)
    (events : List (Event (authService settings)))
    (hKept : Along (passwordKept settings) (authRun settings server db events).state.log)
    (userId : String)
    (hCompleted : AllCompleted userId (authRun settings server db events).state.log) :
    PasswordDurable settings (authRun settings server db events).state userId := by
  intro passwordHash hLast
  have hRun := authRun_reached settings server db events
  obtain ⟨e, he, hCompletes⟩ := exists_of_latest hLast
  obtain ⟨e₁, he₁, password₁, hSets₁⟩ := sets_of_completes hKept he hCompletes
  -- some change or reset has stored a hash, so there is a last one
  cases hLatest : latest (Executed.setsPassword? userId)
      (authRun settings server db events).state.log with
  | none =>
      have hNone := List.findSome?_eq_none_iff.1 hLatest e₁ (List.mem_reverse.2 he₁)
      rw [hSets₁] at hNone
      cases hNone
  | some pair =>
      obtain ⟨storedHash, password⟩ := pair
      obtain ⟨e₂, he₂, hSets₂⟩ := exists_of_latest hLatest
      have hDone := hCompleted e₂ he₂ _ hSets₂
      have hSame := hRun.completed_latest rfl hValid hSound hKept storedHash password hLatest hDone
      obtain rfl : storedHash = passwordHash := Option.some.inj (hSame.symm.trans hLast)
      exact ⟨password, ⟨e₂, he₂, hSets₂⟩,
        (hRun.accepts_latest rfl hValid hSound hKept hLatest).2⟩

namespace Sample

/-- A sign-in that verifies the old password, then a reset, and then the rest of the sign-in,
which re-hashes the old password. -/
def resetDuringSignIn : List (Event (authService authSettings)) :=
  [.request (Request.signIn {}
      { email := "mail", password := "password", totpCode := some "123456" }),
    .request (Request.passwordResetComplete { token := "reset", newPassword := "password-1" })] ++
    steps 0 11 ++ steps 1 10 ++ steps 0 9

/-- Some password is accepted by the stored hash of the user. -/
def acceptedBy (w : AuthWorld) (password : String) : List Bool :=
  w.db.users.map (PasswordHasherService.accepts authPrim peppers password)

end Sample

theorem password_durable_sample :
    ∃ password, AcceptsOnly Sample.authSettings (authRun Sample.authSettings Sample.authServer
      Sample.authDb Sample.oneReset).state.db "u" password := by
  have hDurable := password_durable Sample.authSettings Sample.authServer Sample.authDb
    Sample.authDb_valid Sample.authPrim_sound Sample.oneReset (by decide +kernel) "u"
    (by decide +kernel)
  have hLast : latest (Executed.completes? "u") (authRun Sample.authSettings Sample.authServer
      Sample.authDb Sample.oneReset).state.log =
      some (freshHash Sample.authSettings 16 "password-1").1 := by decide +kernel
  obtain ⟨password, -, hOnly⟩ := hDurable _ hLast
  exact ⟨password, hOnly⟩

/-- **A reset is undone.**  A sign-in verifies the old password, the password is reset, and
the sign-in stores a fresh hash of the old password. -/
theorem rehash_restores_old_password :
    (authRun Sample.authSettings Sample.authServer Sample.authDb
        Sample.resetDuringSignIn).threads.map (·.2.succeeded) = [true, true] ∧
      Sample.acceptedBy (authRun Sample.authSettings Sample.authServer Sample.authDb
        Sample.resetDuringSignIn).state "password" = [true] ∧
      Sample.acceptedBy (authRun Sample.authSettings Sample.authServer Sample.authDb
        Sample.resetDuringSignIn).state "password-1" = [false] ∧
      ¬ ∀ (settings : AuthSettings) (server : World) (db : AuthDb), db.Valid settings.prim →
        SoundHashing settings.prim → ∀ (events : List (Event (authService settings))) userId,
        (∀ t ∈ (authRun settings server db events).threads, t.2.finished = true) →
        AllCompleted userId (authRun settings server db events).state.log →
        PasswordDurable settings (authRun settings server db events).state userId := by
  have hOld : Sample.acceptedBy (authRun Sample.authSettings Sample.authServer Sample.authDb
      Sample.resetDuringSignIn).state "password" = [true] := by decide +kernel
  refine ⟨by decide +kernel, hOld, by decide +kernel, fun hAll => ?_⟩
  have hDurable := hAll Sample.authSettings Sample.authServer Sample.authDb Sample.authDb_valid
    Sample.authPrim_sound Sample.resetDuringSignIn "u" (by decide +kernel) (by decide +kernel)
  have hLast : latest (Executed.completes? "u") (authRun Sample.authSettings Sample.authServer
      Sample.authDb Sample.resetDuringSignIn).state.log =
      some (freshHash Sample.authSettings 48 "password-1").1 := by decide +kernel
  obtain ⟨password, ⟨e, he, hSets⟩, hOnly⟩ := hDurable _ hLast
  have hNew : ∀ e ∈ (authRun Sample.authSettings Sample.authServer Sample.authDb
      Sample.resetDuringSignIn).state.log, ∀ pair ∈ e.setsPassword? "u",
      pair.2 = "password-1" := by decide +kernel
  obtain rfl : password = "password-1" := hNew e he _ hSets
  have hUser : ∀ u ∈ (authRun Sample.authSettings Sample.authServer Sample.authDb
      Sample.resetDuringSignIn).state.db.users, u.userId = "u" ∧
      PasswordHasherService.accepts Sample.authPrim Sample.peppers "password" u = true := by
    decide +kernel
  obtain ⟨u, hMem⟩ : ∃ u, u ∈ (authRun Sample.authSettings Sample.authServer Sample.authDb
      Sample.resetDuringSignIn).state.db.users := by
    have hSome : (authRun Sample.authSettings Sample.authServer Sample.authDb
      Sample.resetDuringSignIn).state.db.users ≠ [] := by decide +kernel
    exact List.exists_mem_of_ne_nil _ hSome
  have hSame := (hOnly u hMem (hUser u hMem).1 "password").1 (hUser u hMem).2
  exact absurd hSame (by decide)

end AgentShield.Auth
