import AgentShield.Auth.History
import AgentShield.Lib.Balance

/-!
# What the handlers add to the log

A handler adds an entry to the log with each of its writes.  `Logs` says that what it writes
meets a condition, with one rule for each kind of step.  `LogOwes` follows two counts of the
entries, where each entry that is made has to be made up for by one that is told; so in every
run no more are told than were made (`authRun_told_le`).
-/

namespace AgentShield.Auth

open AgentShield.Lib AgentShield.Sdk AgentShield.Server

/-- A step adds to the log what meets a condition, if anything. -/
def LogStep (C : Statement → Reason → Prop) (w w' : AuthWorld) : Prop :=
  w'.log = w.log ∨ ∃ e, w'.log = w.log ++ [e] ∧ C e.statement e.reason

/-- What the handler writes meets a condition. -/
abbrev Logs {α : Type} (C : Statement → Reason → Prop) (prog : AuthHandler α) : Prop :=
  Async.Steps (fun _ => True) (LogStep C) (fun _ => True) prog

section Logs

variable {C : Statement → Reason → Prop} {settings : AuthSettings} {α β : Type}

/-- A step that executes nothing leaves the log as it is. -/
theorem logStep_rest (w : AuthWorld) : LogStep C w w := .inl rfl

/-- What a program writes is what it executes, so a bound on its writes bounds its log. -/
theorem WritesOnly.logs {prim : AuthPrimitives} {prog : AuthHandler α}
    (h : WritesOnly prim C prog) : Logs C prog := by
  refine Async.Steps.guarantee h fun w w' hStep => ?_
  rcases hStep with ⟨-, hLog, -⟩ | ⟨st, reason, hC, -, rfl⟩
  · exact .inl hLog
  · exact .inr ⟨_, rfl, hC⟩

/-- A statement adds one entry, which has to be of the kind `C`. -/
theorem execute_logs {prim : AuthPrimitives} {statement : Nat → Statement} {reason : Reason}
    (h : ∀ n, C (statement n) reason) : Logs C (execute prim statement reason) :=
  WritesOnly.logs (execute_writes h)

theorem executeNow_logs {prim : AuthPrimitives} {statement : Int → Nat → Statement}
    {reason : Reason} (h : ∀ now n, C (statement now n) reason) :
    Logs C (executeNow prim statement reason) :=
  WritesOnly.logs (executeNow_writes h)

theorem fetch_logs {f : AuthDb → β} {next : β → AuthHandler α} (h : ∀ b, Logs C (next b)) :
    Logs C (fetch f >>= next) :=
  Async.Steps.read_bind logStep_rest fun _ _ => h _

theorem read_logs {f : AuthWorld → β} {next : β → AuthHandler α} (h : ∀ b, Logs C (next b)) :
    Logs C (Async.read f >>= next) :=
  Async.Steps.read_bind logStep_rest fun _ _ => h _

/-- What a sequence executes is what its halves execute. -/
theorem bind_logs {prog : AuthHandler β} {next : β → AuthHandler α} (h : Logs C prog)
    (hNext : ∀ b, Logs C (next b)) : Logs C (prog >>= next) :=
  Async.Steps.bind h fun b _ => hNext b

theorem raiseIf_logs {p : Prop} [Decidable p] {e : Failure} {next : Unit → AuthHandler α}
    (h : Logs C (next ())) : Logs C (Async.raiseIf p e >>= next) :=
  Async.Steps.raiseIf_bind fun _ => h

theorem raiseIf_end_logs {p : Prop} [Decidable p] {e : Failure} :
    Logs C (Async.raiseIf p e : AuthHandler Unit) := by
  unfold Async.raiseIf
  split <;> trivial

theorem require_logs {o : Option β} {e : Failure} {next : β → AuthHandler α}
    (h : ∀ b, Logs C (next b)) : Logs C (Async.require o e >>= next) :=
  Async.Steps.require_bind fun b _ => h b

theorem sendMail_logs (recipient url : String) {next : Unit → AuthHandler α}
    (h : Logs C (next ())) : Logs C (sendMail recipient url >>= next) :=
  Async.Steps.write_bind (fun _ _ => .inl rfl) h

theorem onCache_logs (f : World → World × β) : Logs C (onCache f) := by
  intro w _
  refine ⟨.inl ?_, trivial⟩
  show (AuthWorld.callCache f w).1.log = w.log
  unfold AuthWorld.callCache
  cases w.cacheDown <;> rfl

/-- A rate limit writes to the cache only. -/
theorem enforceOrBlock_logs (config : RateLimitConfig) (headers : Dict String String)
    (fallbackIp : Option String) : Logs C (enforceOrBlock settings config headers fallbackIp) := by
  have hCheck : ∀ key limit windowSeconds,
      Logs C (incrementAndCheck settings key limit windowSeconds) := by
    intro key limit windowSeconds
    unfold incrementAndCheck
    refine bind_logs (onCache_logs _) fun answer => ?_
    split
    · trivial
    · exact bind_logs (onCache_logs _) fun _ => trivial
    · split
      · trivial
      · exact bind_logs (onCache_logs _) fun _ => trivial
  unfold enforceOrBlock
  refine read_logs fun now => bind_logs (hCheck _ _ _) fun exceeded => ?_
  exact raiseIf_end_logs

/-! ### The steps of a sign-in -/

theorem insertAudit_logs {a : AuditEvent} {reason : Reason}
    (hAudit : ∀ row, C (.insertAudit row) reason) : Logs C (insertAudit settings a reason) :=
  executeNow_logs fun _ _ => hAudit _

theorem signInFail_logs {ip userAgent : Option String} {email : String} {userId : Option String}
    {text : String} {why : Reason} (hAudit : ∀ row, C (.insertAudit row) why) :
    Logs C (signInFail settings ip userAgent email userId text why) := by
  unfold signInFail
  exact bind_logs (insertAudit_logs hAudit) fun _ => trivial

theorem signInRefuse_logs {event : AuthEvent} {ip userAgent : Option String} {userId : String}
    {detail : List (String × Json)} {failure : Failure}
    (hAudit : ∀ row, C (.insertAudit row) .plain) :
    Logs C (signInRefuse settings event ip userAgent userId detail failure) := by
  unfold signInRefuse
  exact bind_logs (insertAudit_logs hAudit) fun _ => trivial

/-- The check of an account writes rows of the audit trail and nothing else. -/
theorem checkAccount_logs {ip userAgent : Option String} {email : String} {user : User}
    (hAudit : ∀ row, C (.insertAudit row) .plain) :
    Logs C (checkAccount settings ip userAgent email user) := by
  unfold checkAccount
  split
  · exact signInFail_logs hAudit
  · refine read_logs fun now => ?_
    split
    · exact signInRefuse_logs hAudit
    · trivial

/-- A wrong password is counted, and the lock and the refusal are noted. -/
theorem checkPassword_logs {ip userAgent : Option String} {body : SignInRequest} {user : User}
    (hAudit : ∀ row, C (.insertAudit row) .plain)
    (hRefused : ∀ row, C (.insertAudit row) (.wrongPassword user))
    (hCount : ∀ row time now, C (.setFailedLogin (newFailedCount row)
      (lockedUntilFor (newFailedCount row) time) now user.userId) (.failedLogin user row time)) :
    Logs C (checkPassword settings ip userAgent body user) := by
  unfold checkPassword
  split
  · trivial
  · refine bind_logs ?_ fun _ => signInFail_logs hRefused
    unfold recordFailedLogin
    refine fetch_logs fun row => read_logs fun time => ?_
    refine bind_logs (executeNow_logs fun _ _ => hCount _ _ _) fun _ => ?_
    unfold auditLock
    split
    · trivial
    · exact bind_logs (insertAudit_logs hAudit) fun _ => trivial

/-- So does the check of the second factor. -/
theorem checkTotp_logs {ip userAgent : Option String} {body : SignInRequest} {user : User}
    (hAudit : ∀ row, C (.insertAudit row) .plain) :
    Logs C (checkTotp settings ip userAgent body user) := by
  unfold checkTotp
  split
  · refine fetch_logs fun credential => ?_
    cases credential with
    | none => exact signInFail_logs hAudit
    | some credential =>
        simp only [checkCredential]
        split
        · exact signInRefuse_logs hAudit
        · refine bind_logs ?_ fun ok => ?_
          · unfold checkCode
            exact require_logs fun _ => read_logs fun _ => trivial
          · split
            · exact bind_logs (insertAudit_logs hAudit) fun _ => trivial
            · exact signInRefuse_logs hAudit
  · trivial

/-- A rehash sets the password hash of its user, under the reason that says so. -/
theorem rehash_logs {password : String} {user : User}
    (hHash : ∀ passwordHash pepperKid now,
      C (.setPasswordHash passwordHash pepperKid now user.userId) (.rehash user password)) :
    Logs C (rehash settings password user) := by
  unfold rehash updatePasswordHash
  split
  · refine bind_logs ?_ fun _ => trivial
    exact bind_logs (executeNow_logs fun _ _ => hHash _ _ _) fun _ => trivial
  · trivial

/-- What follows the checks of a sign-in. -/
theorem signedIn_logs {body : SignInRequest} {user : User} {ip userAgent : Option String}
    {event : AuditEvent} (hAudit : ∀ row, C (.insertAudit row) .plain)
    (hReset : ∀ now, C (.resetFailedLogin now user.userId) (.signIn user body.password))
    (hHash : ∀ passwordHash pepperKid now,
      C (.setPasswordHash passwordHash pepperKid now user.userId) (.rehash user body.password))
    (hSession : ∀ row, C (.insertSession row) (.signIn user body.password)) :
    Logs C (do
      let _ ← resetFailedLogin settings user.userId (.signIn user body.password)
      rehash settings body.password user
      issueSession settings user ip userAgent event (.signIn user body.password)) := by
  refine bind_logs (executeNow_logs fun _ _ => hReset _) fun _ => ?_
  refine bind_logs (rehash_logs hHash) fun _ => ?_
  exact WritesOnly.logs (issueSession_writes hSession hAudit user ip userAgent event)

end Logs

/-! ## Counts of the log -/

/-- The handler owes `owed` entries with `told`, one for each entry with `made`. -/
abbrev LogOwes {α : Type} (made told : Executed → Bool) (E : Failure → Nat → Prop)
    (Q : α → Nat → Prop) (prog : AuthHandler α) (owed : Nat) : Prop :=
  Async.Settles (fun w : AuthWorld => w.log.countP made) (fun w => w.log.countP told) E Q prog
    owed

section Counts

variable {made told : Executed → Bool} {E : Failure → Nat → Prop} {settings : AuthSettings}
  {α : Type} {owed : Nat}

/-- One more statement is one more entry in a count of the log, if it is of the counted kind. -/
theorem countP_wrote (p : Executed → Bool) (w : AuthWorld) (st : Statement) (reason : Reason)
    (db : AuthDb) : (w.wrote st reason db).log.countP p =
      w.log.countP p + (p (w.entry st reason)).toNat := by
  show (w.log ++ [w.entry st reason]).countP p = _
  rw [List.countP_append, List.countP_singleton]
  cases p (w.entry st reason) <;> rfl

/-- A handler that writes neither. -/
theorem owes_of_logs {C : Statement → Reason → Prop} {prog : AuthHandler α} (h : Logs C prog)
    (hC : ∀ e : Executed, C e.statement e.reason → made e = false ∧ told e = false)
    (hEnd : ∀ e, E e owed) : LogOwes made told E (fun _ o => o = owed) prog owed := by
  refine Async.Settles.of_steps h (fun w w' hStep => ?_) hEnd
  rcases hStep with hSame | ⟨e, hLog, hNew⟩
  · rw [hSame]
    exact ⟨rfl, rfl⟩
  · obtain ⟨hMade, hTold⟩ := hC e hNew
    simp only [hLog, List.countP_append, List.countP_singleton, hMade, hTold, Bool.false_eq_true,
      if_false, Nat.add_zero, and_self]

/-- A write, and what is owed after it.  Where the database refuses it, what was owed before
is what the handler ends with. -/
theorem execute_owes {prim : AuthPrimitives} {statement : Nat → Statement} {reason : Reason}
    {Q : Nat → Nat → Prop}
    (hEnd : ∀ (db : AuthDb) n c, db.constraints prim (statement n) = .error c →
      E (.database c) owed)
    (h : ∀ (w : AuthWorld) n, ∃ o, o + (told (w.entry (statement n) reason)).toNat =
      owed + (made (w.entry (statement n) reason)).toNat ∧ Q n o) :
    LogOwes made told E Q (execute prim statement reason) owed := by
  intro w
  cases hRun : w.db.execute prim (statement w.drawn) with
  | error c =>
      refine ⟨owed, ?_, ?_⟩
      · simp only [hRun]
      · simp only [hRun]
        refine hEnd w.db w.drawn c ?_
        unfold AuthDb.execute at hRun
        cases hCheck : w.db.constraints prim (statement w.drawn) with
        | error c' =>
            rw [hCheck] at hRun
            exact congrArg _ (Except.error.inj hRun)
        | ok u =>
            rw [hCheck] at hRun
            cases hRun
  | ok db =>
      obtain ⟨o, hOwed, hQ⟩ := h w w.drawn
      refine ⟨o, ?_, ?_⟩
      · simp only [hRun, countP_wrote]
        omega
      · simp only [hRun]
        exact hQ

/-- A statement with the time of its execution settles or adds to what is owed, as its entry
does. -/
theorem executeNow_owes {prim : AuthPrimitives} {statement : Int → Nat → Statement}
    {reason : Reason} {Q : Nat → Nat → Prop}
    (hEnd : ∀ (db : AuthDb) now n c, db.constraints prim (statement now n) = .error c →
      E (.database c) owed)
    (h : ∀ (w : AuthWorld) now n, ∃ o, o + (told (w.entry (statement now n) reason)).toNat =
      owed + (made (w.entry (statement now n) reason)).toNat ∧ Q n o) :
    LogOwes made told E Q (executeNow prim statement reason) owed :=
  Async.Settles.read_bind fun w => execute_owes (fun db n c => hEnd db w.server.now n c)
    fun w' n => h w' w.server.now n

/-- A write that is counted neither way. -/
theorem executeNow_idle {prim : AuthPrimitives} {statement : Int → Nat → Statement}
    {reason : Reason} (h : ∀ (w : AuthWorld) now n,
      made (w.entry (statement now n) reason) = false ∧
        told (w.entry (statement now n) reason) = false)
    (hEnd : ∀ e, E e owed) :
    LogOwes made told E (fun _ o => o = owed) (executeNow prim statement reason) owed := by
  refine executeNow_owes (fun _ _ _ c _ => hEnd (.database c)) fun w now n => ⟨owed, ?_, rfl⟩
  obtain ⟨hMade, hTold⟩ := h w now n
  rw [hMade, hTold]

/-- **No more is told than was made**, when the handlers of the routes in `K` owe it and the
others tell nothing. -/
theorem authRun_told_le {K : Route → Prop}
    (hFollowed : ∀ r : Request, K r.route →
      LogOwes made told (fun _ _ => True) (fun _ _ => True) (handle settings r) 0)
    (hOthers : ∀ route w st reason, Justified settings route w st reason →
      told (w.entry st reason) = true → K route)
    (server : World) (db : AuthDb) (events : List (Event (authService settings))) :
    (authRun settings server db events).state.log.countP told ≤
      (authRun settings server db events).state.log.countP made := by
  have hStart : (Pool.start (AuthWorld.initial server db) : Pool (authService settings)).Tally
      (fun w => w.log.countP made) (fun w => w.log.countP told)
      (Pool.Owing (fun r : Request => K r.route) (fun w => w.log.countP made)
        (fun w => w.log.countP told) (fun _ _ => True) fun _ _ => True) := Pool.tally_start rfl
  refine (hStart.run (authService_follows settings) hFollowed (fun _ => trivial) ?_
    (fun x s => by cases x <;> exact ⟨rfl, rfl⟩) (Pool.onCourse_start _) events).told_le
  · intro r w w' hOther hStep
    cases hStep with
    | quiet hDb hLog hNow hDrawn =>
        rw [hLog]
        exact ⟨rfl, Nat.le_refl _⟩
    | @write st reason db hRun hFresh hReason =>
        have hQuiet : told (w.entry st reason) = false := by
          by_contra hTold
          exact hOther (hOthers _ _ _ _ hReason (by simpa using hTold))
        simp only [countP_wrote, hQuiet]
        exact ⟨rfl, Nat.le_add_right _ _⟩

end Counts

end AgentShield.Auth
