import AgentShield.Auth.SingleUse

/-!
# Sessions and the sign-ins behind them

A session is created by a sign-in, a recovery or the acceptance of an invite, and rotated by
a refresh or a change of the password.  Each of them reads the account first and creates or
rotates the session some statements later; the recovery does not look at the status of the
account at all.  Behind every session there is the verification of a credential of its user.
-/

namespace AgentShield.Auth

open AgentShield.Lib AgentShield.Sdk AgentShield.Server

/-! ## What a session needs -/

/-- The status of an account with the end of its lockout. -/
def AuthDb.account (db : AuthDb) (userId : String) : Option (UserStatus × Option Int) :=
  (db.findByUserId userId).map fun u => (u.status, u.lockedUntil)

/-- The status after `reset_failed_login`. -/
def UserStatus.afterReset (status : UserStatus) : UserStatus :=
  if status = .locked then .active else status

namespace Executed

/-- The session that a write creates or rotates, and its user. -/
def session? (e : Executed) : Option (String × String) :=
  match e.statement with
  | .insertSession row => some (row.sessionId, row.userId)
  | .rotateToken _ _ _ sessionId =>
      (e.before.findSession sessionId).map fun row => (row.sessionId, row.userId)
  | _ => none

/-- The write finds the account as its handler has left it: as the handler has read it, or
after a sign-in as its own reset of the counter has left it.  A recovery has read an account
that is neither disabled nor locked out. -/
def accountKept (e : Executed) : Prop :=
  match e.statement, e.reason with
  | .insertSession _, .signIn user _ =>
      e.before.account user.userId = some (user.status.afterReset, none)
  | .insertSession _, .recovery user _ _ =>
      e.before.account user.userId = some (user.status, user.lockedUntil) ∧
        user.status ≠ .disabled ∧ lockoutIsActive user e.clock = false
  | .insertSession row, .acceptInvite _ => e.before.account row.userId = some (.active, none)
  | .rotateToken _ _ _ _, .caller (.session _ user _) =>
      e.before.account user.userId = some (user.status, user.lockedUntil)
  | .rotateToken _ _ _ _, .passwordChange (.session _ user _) _ _ =>
      e.before.account user.userId = some (user.status, user.lockedUntil)
  | _, _ => True

instance (e : Executed) : Decidable e.accountKept := by
  obtain ⟨statement, reason, before, clock, drawn⟩ := e
  unfold accountKept
  induction statement using Statement.casesOn with
  | insertSession _ => induction reason using Reason.casesOn <;> infer_instance
  | rotateToken _ _ _ _ =>
      induction reason using Reason.casesOn <;> first
        | infer_instance
        | induction ‹Caller› using Caller.casesOn <;> infer_instance
  | _ => infer_instance

end Executed

/-- The handler of a write has verified a credential of the user: the password, a recovery
code of the stored list, or an unconsumed invite that it has made the user of. -/
def Reason.Verifies (settings : AuthSettings) (log : List Executed) (userId : String) :
    Reason → Prop
  | signIn user password =>
      user.userId = userId ∧ (∃ e ∈ log, user ∈ e.before.users) ∧
        PasswordHasherService.accepts settings.prim settings.peppers password user = true
  | recovery user stored code =>
      user.userId = userId ∧
        (∃ e ∈ log, ∃ c ∈ e.before.totpCredentials,
          c.userId = userId ∧ c.recoveryCodesHash = stored) ∧
        TotpService.hashRecoveryCode settings.prim code ∈ stored
  | acceptInvite invite =>
      (∃ e ∈ log, invite ∈ e.before.invites) ∧ invite.consumedAt = none ∧
        ∃ e ∈ log, e.statement.createsUser userId ∧ e.reason = .acceptInvite invite
  | _ => False

/-- A write of the log has created the session on a verified credential. -/
def SignedIn (settings : AuthSettings) (log : List Executed) (sessionId userId : String) : Prop :=
  ∃ e ∈ log, ∃ row, e.statement = .insertSession row ∧ row.sessionId = sessionId ∧
    row.userId = userId ∧ e.reason.Verifies settings log userId

/-- A session may be created or rotated by a write, after the writes of a log: the account is
neither disabled nor locked out, and the session comes from a verified credential, or was
there from the start. -/
structure Admissible (settings : AuthSettings) (start : List Session) (log : List Executed)
    (e : Executed) (sessionId userId : String) : Prop where
  account : ∃ u ∈ e.before.users, u.userId = userId ∧ u.status ≠ .disabled ∧
    lockoutIsActive u e.clock = false
  signedIn : SignedIn settings (log ++ [e]) sessionId userId ∨
    ∃ row ∈ start, row.sessionId = sessionId ∧ row.userId = userId

/-! ## Where the sessions come from -/

section

variable {settings : AuthSettings} {s w : AuthWorld}

theorem Reason.Verifies.mono {log log' : List Executed} {userId : String} {reason : Reason}
    (h : reason.Verifies settings log userId) (hLog : ∀ e ∈ log, e ∈ log') :
    reason.Verifies settings log' userId := by
  cases reason with
  | signIn user password =>
      obtain ⟨hUser, ⟨e, he, hSeen⟩, hVerified⟩ := h
      exact ⟨hUser, ⟨e, hLog e he, hSeen⟩, hVerified⟩
  | recovery user stored code =>
      obtain ⟨hUser, ⟨e, he, hSeen⟩, hMember⟩ := h
      exact ⟨hUser, ⟨e, hLog e he, hSeen⟩, hMember⟩
  | acceptInvite invite =>
      obtain ⟨⟨e, he, hSeen⟩, hFree, e', he', hMade⟩ := h
      exact ⟨⟨e, hLog e he, hSeen⟩, hFree, e', hLog e' he', hMade⟩
  | _ => exact h

theorem SignedIn.mono {log log' : List Executed} {sessionId userId : String}
    (h : SignedIn settings log sessionId userId) (hLog : ∀ e ∈ log, e ∈ log') :
    SignedIn settings log' sessionId userId := by
  obtain ⟨e, he, row, hStatement, hId, hUser, hVerified⟩ := h
  exact ⟨e, hLog e he, row, hStatement, hId, hUser, hVerified.mono hLog⟩

/-- What has been seen was in the tables before an entry of the log, the entry of the write
that is made now included. -/
theorem AuthWorld.Saw.before {P : AuthDb → Prop} (h : w.Saw P) (statement : Statement)
    (reason : Reason) : ∃ e ∈ w.log ++ [w.entry statement reason], P e.before := by
  rcases AuthWorld.saw_iff.1 h with ⟨e, he, hP⟩ | hNow
  · exact ⟨e, List.mem_append_left _ he, hP⟩
  · exact ⟨_, List.mem_append_right _ (List.mem_singleton_self _), hNow⟩

/-- A write that creates a session comes after the verification of a credential. -/
theorem Justified.verifies {route : Route} {row : Session} {reason : Reason}
    (h : Justified settings route w (.insertSession row) reason) :
    reason.Verifies settings (w.log ++ [w.entry (.insertSession row) reason]) row.userId := by
  cases h with
  | signedIn hSigns hUser => exact ⟨hUser.symm, hSigns.seen.before _ _, hSigns.verified⟩
  | recovered _ hRecovers hUser hConsumed =>
      rw [hUser]
      exact ⟨rfl, hRecovers.listed.before _ _, hRecovers.member⟩
  | welcomed hInvited hUser =>
      obtain ⟨e, he, hMade⟩ := hUser
      exact ⟨hInvited.seen.before _ _, hInvited.usable.1, e, List.mem_append_left _ he, hMade⟩

/-- Every session was there at the start, or was created on a verified credential. -/
theorem Reached.sessions_signedIn (h : Reached settings s w) :
    ∀ row ∈ w.db.sessions, SignedIn settings w.log row.sessionId row.userId ∨
      ∃ old ∈ s.db.sessions, old.sessionId = row.sessionId ∧ old.userId = row.userId := by
  refine h.invariant (I := fun w => ∀ row ∈ w.db.sessions,
    SignedIn settings w.log row.sessionId row.userId ∨
      ∃ old ∈ s.db.sessions, old.sessionId = row.sessionId ∧ old.userId = row.userId) ?_ ?_ ?_
  · exact fun row hRow => .inr ⟨row, hRow, rfl, rfl⟩
  · intro w w' hDb hLog _ _ hOld row hRow
    rw [hDb] at hRow
    rw [hLog]
    exact hOld row hRow
  · intro w statement reason db hWritten hOld row hRow
    obtain ⟨-, rfl⟩ := AuthDb.execute_ok hWritten.run
    rcases List.mem_append.1 hRow with hRow | hRow
    · obtain ⟨old, hMem, rfl⟩ := List.mem_map.1 hRow
      rw [statement.setSession_sessionId, statement.setSession_userId]
      exact (hOld old hMem).imp_left fun hSigned =>
        hSigned.mono fun e he => List.mem_append_left _ he
    · obtain ⟨route, hReason⟩ := hWritten.justified
      cases statement <;>
        simp only [Statement.addSession, List.mem_singleton, List.not_mem_nil] at hRow
      subst hRow
      exact .inl ⟨_, List.mem_append_right _ (List.mem_singleton_self _), row, rfl, rfl, rfl,
        hReason.verifies⟩

/-- A session that was once in the tables is still there, with its user. -/
theorem Reached.session_kept (h : Reached settings s w) {row : Session}
    (hRow : row ∈ s.db.sessions) :
    ∃ now ∈ w.db.sessions, now.sessionId = row.sessionId ∧ now.userId = row.userId := by
  refine h.tables (I := fun db => ∃ now ∈ db.sessions, now.sessionId = row.sessionId ∧
    now.userId = row.userId) ⟨row, hRow, rfl, rfl⟩ ?_
  intro w statement reason hWritten hChecked hOld
  obtain ⟨old, hMem, hId, hUser⟩ := hOld
  refine ⟨statement.setSession old, List.mem_append_left _ (List.mem_map_of_mem hMem), ?_, ?_⟩
  · rw [statement.setSession_sessionId, hId]
  · rw [statement.setSession_userId, hUser]

/-- The user of a session is the one that its caller was resolved to. -/
theorem own_session (h : Reached settings s w) (hStart : s.log = [])
    (hValid : s.db.Valid settings.prim) {row found : Session} {user : User}
    {membership : Membership} {sessionId : String}
    (hSeen : (Caller.session row user membership).Seen settings w)
    (hOwn : (Caller.session row user membership).principal.session? = some sessionId)
    (hFound : w.db.findSession sessionId = some found) :
    found.userId = user.userId ∧ user.status = .active := by
  obtain ⟨hRow, -, -, hUser, hStatus, -⟩ := hSeen
  obtain ⟨w₀, -, hLater, hMem⟩ := h.of_saw hStart hRow
  obtain ⟨now, hNow, hId, hSame⟩ := hLater.session_kept hMem
  have hRowId : row.sessionId = sessionId := by
    simpa [Principal.session?, Principal.isSession, Caller.principal] using hOwn
  have hFoundId : found.sessionId = sessionId := by simpa using List.find?_some hFound
  obtain rfl : found = now := (h.valid hValid).sessionIds.eq (mem_of_find hFound) hNow
    (hFoundId.trans (hRowId.symm.trans hId.symm))
  exact ⟨hSame.trans hUser.symm, hStatus⟩

/-! ## The account of a session -/

theorem mem_of_account {db : AuthDb} {userId : String} {status : UserStatus}
    {lockedUntil : Option Int} (h : db.account userId = some (status, lockedUntil)) :
    ∃ u ∈ db.users, u.userId = userId ∧ u.status = status ∧ u.lockedUntil = lockedUntil := by
  obtain ⟨u, hFind, hSame⟩ := Option.map_eq_some_iff.1 h
  have hId : u.userId = userId := by simpa using List.find?_some hFind
  exact ⟨u, mem_of_find hFind, hId, (Prod.mk.inj hSame).1, (Prod.mk.inj hSame).2⟩

theorem notLocked_of_status {u : User} (h : u.status ≠ .locked) (t : Int) :
    lockoutIsActive u t = false := by
  simp [lockoutIsActive, h]

theorem afterReset_ne_locked (status : UserStatus) : status.afterReset ≠ .locked := by
  cases status <;> simp [UserStatus.afterReset]

/-- A caller with a session was resolved while the account was active, and the write finds it
as it was. -/
theorem account_of_caller (h : Reached settings s w) (hStart : s.log = [])
    (hValid : s.db.Valid settings.prim) {row found : Session} {user : User}
    {membership : Membership} {sessionId : String}
    (hSeen : (Caller.session row user membership).Seen settings w)
    (hOwn : (Caller.session row user membership).principal.session? = some sessionId)
    (hKept : w.db.account user.userId = some (user.status, user.lockedUntil))
    (hFound : w.db.findSession sessionId = some found) :
    ∃ u ∈ w.db.users, u.userId = found.userId ∧ u.status ≠ .disabled ∧
      lockoutIsActive u w.server.now = false := by
  obtain ⟨hUser, hStatus⟩ := own_session h hStart hValid hSeen hOwn hFound
  obtain ⟨u, hMem, hId, hSame, -⟩ := mem_of_account hKept
  have hActive : u.status = .active := hSame.trans hStatus
  refine ⟨u, hMem, hId.trans hUser.symm, ?_, notLocked_of_status ?_ _⟩
  · rw [hActive]
    decide
  · rw [hActive]
    decide

theorem session_of_caller {caller : Caller} {sessionId : String}
    (h : caller.principal.session? = some sessionId) :
    ∃ row user membership, caller = .session row user membership := by
  cases caller with
  | session row user membership => exact ⟨row, user, membership, rfl⟩
  | _ => simp [Principal.session?, Principal.isSession, Caller.principal, syntheticDevPrincipal,
      apiTokenOnlyPrincipal] at h

/-- The account behind a session that is written now is neither disabled nor locked out, as
the write finds the row as the sign-in has read it. -/
theorem account_admissible (h : Reached settings s w) (hStart : s.log = [])
    (hValid : s.db.Valid settings.prim) {statement : Statement} {reason : Reason}
    {db : AuthDb} (hWritten : Written settings s w statement reason db)
    (hKept : (w.entry statement reason).accountKept) {sessionId userId : String}
    (hSession : (w.entry statement reason).session? = some (sessionId, userId)) :
    ∃ u ∈ w.db.users, u.userId = userId ∧ u.status ≠ .disabled ∧
      lockoutIsActive u w.server.now = false := by
  obtain ⟨route, hReason⟩ := hWritten.justified
  cases hReason <;> simp only [Executed.session?, AuthWorld.entry, reduceCtorEq] at hSession
  case signedIn user password row hSigns hUser =>
    obtain ⟨-, rfl⟩ := Prod.mk.inj (Option.some.inj hSession)
    obtain ⟨u, hMem, hId, hStatus, hLocked⟩ := mem_of_account hKept
    refine ⟨u, hMem, hId.trans hUser.symm, ?_, notLocked_of_status ?_ _⟩
    · rw [hStatus]
      have hNotDisabled := hSigns.notDisabled
      unfold UserStatus.afterReset
      split
      · decide
      · exact hNotDisabled
    · rw [hStatus]
      exact afterReset_ne_locked _
  case recovered user stored code row hRoute hRecovers hUser hConsumed =>
    obtain ⟨-, rfl⟩ := Prod.mk.inj (Option.some.inj hSession)
    obtain ⟨hAccount, hNotDisabled, hFree⟩ := hKept
    obtain ⟨u, hMem, hId, hStatus, hLocked⟩ := mem_of_account hAccount
    have hFreeNow : lockoutIsActive user w.server.now = false := hFree
    refine ⟨u, hMem, hId.trans hUser.symm, by rw [hStatus]; exact hNotDisabled, ?_⟩
    simpa only [lockoutIsActive, hStatus, hLocked] using hFreeNow
  case welcomed invite row hInvited hUser =>
    obtain ⟨-, rfl⟩ := Prod.mk.inj (Option.some.inj hSession)
    obtain ⟨u, hMem, hId, hStatus, -⟩ := mem_of_account hKept
    refine ⟨u, hMem, hId, ?_, notLocked_of_status ?_ _⟩
    · rw [hStatus]
      decide
    · rw [hStatus]
      decide
  case refreshed caller sid tokenHash csrfToken now hSeen hOwn =>
    obtain ⟨found, hFound, hPair⟩ := Option.map_eq_some_iff.1 hSession
    obtain ⟨-, rfl⟩ := Prod.mk.inj hPair
    obtain ⟨row, user, membership, rfl⟩ := session_of_caller hOwn
    exact account_of_caller h hStart hValid hSeen hOwn hKept hFound
  case rotated caller user password sid tokenHash csrfToken now passwordHash hChanges hOwn hSet =>
    obtain ⟨found, hFound, hPair⟩ := Option.map_eq_some_iff.1 hSession
    obtain ⟨-, rfl⟩ := Prod.mk.inj hPair
    obtain ⟨row, user, membership, rfl⟩ := session_of_caller hOwn
    exact account_of_caller h hStart hValid hChanges.resolved hOwn hKept hFound

/-- The credential behind a session that is written now. -/
theorem signedIn_admissible (h : Reached settings s w) {statement : Statement} {reason : Reason}
    {db : AuthDb} (hWritten : Written settings s w statement reason db)
    {sessionId userId : String}
    (hSession : (w.entry statement reason).session? = some (sessionId, userId)) :
    SignedIn settings (w.log ++ [w.entry statement reason]) sessionId userId ∨
      ∃ row ∈ s.db.sessions, row.sessionId = sessionId ∧ row.userId = userId := by
  obtain ⟨route, hReason⟩ := hWritten.justified
  cases statement <;> simp only [Executed.session?, AuthWorld.entry, reduceCtorEq] at hSession
  case insertSession row =>
    obtain ⟨rfl, rfl⟩ := Prod.mk.inj (Option.some.inj hSession)
    exact .inl ⟨_, List.mem_append_right _ (List.mem_singleton_self _), row, rfl, rfl, rfl,
      hReason.verifies⟩
  case rotateToken tokenHash csrfToken now sid =>
    obtain ⟨found, hFound, hPair⟩ := Option.map_eq_some_iff.1 hSession
    obtain ⟨rfl, rfl⟩ := Prod.mk.inj hPair
    exact (h.sessions_signedIn found (mem_of_find hFound)).imp_left fun hSigned =>
      hSigned.mono fun e he => List.mem_append_left _ he

end

/-! ## Every run -/

/-- **No session without an admissible sign-in.**  In every run in which each write of a
session finds the account as its handler has left it, and no recovery has read an account
that is disabled or locked out, every session that is created or rotated is admissible. -/
theorem session_admissible (settings : AuthSettings) (server : World) (db : AuthDb)
    (hValid : db.Valid settings.prim) (events : List (Event (authService settings)))
    (hKept : ∀ e ∈ (authRun settings server db events).state.log, e.accountKept)
    (earlier later : List Executed) (e : Executed)
    (hLog : (authRun settings server db events).state.log = earlier ++ e :: later)
    (sessionId userId : String) (hSession : e.session? = some (sessionId, userId)) :
    Admissible settings db.sessions earlier e sessionId userId := by
  have hRun := authRun_reached settings server db events
  obtain ⟨w₀, db', hWritten, rfl, hEntry, -⟩ := hRun.split rfl hLog
  have hKeptNow : e.accountKept := hKept e (by rw [hLog]; simp)
  rw [hEntry] at hSession hKeptNow ⊢
  exact {
    account := account_admissible hWritten.reached rfl hValid hWritten hKeptNow hSession
    signedIn := signedIn_admissible hWritten.reached hWritten hSession }

namespace Sample

/-- One sign-in with the password and a code of the authenticator. -/
def oneSignIn : List (Event (authService authSettings)) :=
  .request (Request.signIn {}
    { email := "mail", password := "password", totpCode := some "123456" }) :: steps 0 20

/-- The text of the `n`th draw of an identifier. -/
def uuid (n : Nat) : String := authPrim.uuid n

/-- The user is disabled. -/
def disabledDb : AuthDb := { authDb with users := [{ user with status := .disabled }] }

theorem disabledDb_valid : disabledDb.Valid authPrim := by
  constructor <;> simp [KeyUnique, disabledDb, authDb, AuthDb.hasUser, user, resetToken]

/-- One recovery. -/
def oneRecovery : List (Event (authService authSettings)) :=
  .request (Request.totpRecovery {} { email := "mail", recoveryCode := "one" }) :: steps 0 10

end Sample

theorem session_admissible_sample :
    ∃ earlier e later, (authRun Sample.authSettings Sample.authServer Sample.authDb
        Sample.oneSignIn).state.log = earlier ++ e :: later ∧
      Admissible Sample.authSettings [] earlier e (Sample.uuid 48) "u" := by
  have hCreated : ∃ e ∈ (authRun Sample.authSettings Sample.authServer Sample.authDb
      Sample.oneSignIn).state.log, e.session? = some (Sample.uuid 48, "u") := by decide +kernel
  obtain ⟨e, he, hSession⟩ := hCreated
  obtain ⟨earlier, later, hLog⟩ := List.append_of_mem he
  exact ⟨earlier, e, later, hLog, session_admissible Sample.authSettings Sample.authServer
    Sample.authDb Sample.authDb_valid Sample.oneSignIn (by decide +kernel) earlier later e hLog
    (Sample.uuid 48) "u" hSession⟩

/-- **A disabled user gets a session.**  The recovery does not look at the status of the
account. -/
theorem disabled_user_recovers :
    (authRun Sample.authSettings Sample.authServer Sample.disabledDb
        Sample.oneRecovery).threads.map (·.2.succeeded) = [true] ∧
      (authRun Sample.authSettings Sample.authServer Sample.disabledDb
        Sample.oneRecovery).state.db.sessions.map (·.userId) = ["u"] ∧
      ¬ ∀ (settings : AuthSettings) (server : World) (db : AuthDb),
        db.Valid settings.prim → ∀ (events : List (Event (authService settings)))
        (earlier later : List Executed) (e : Executed),
        (authRun settings server db events).state.log = earlier ++ e :: later →
        ∀ sessionId userId, e.session? = some (sessionId, userId) →
        Admissible settings db.sessions earlier e sessionId userId := by
  refine ⟨by decide +kernel, by decide +kernel, fun hAll => ?_⟩
  have hCreated : ∃ e ∈ (authRun Sample.authSettings Sample.authServer Sample.disabledDb
      Sample.oneRecovery).state.log, e.session? = some (Sample.uuid 16, "u") ∧
      ∀ u ∈ e.before.users, u.status = .disabled := by decide +kernel
  obtain ⟨e, he, hSession, hDisabled⟩ := hCreated
  obtain ⟨earlier, later, hLog⟩ := List.append_of_mem he
  have hAdmissible := hAll Sample.authSettings Sample.authServer Sample.disabledDb
    Sample.disabledDb_valid Sample.oneRecovery earlier later e hLog _ _ hSession
  obtain ⟨u, hMem, -, hStatus, -⟩ := hAdmissible.account
  exact hStatus (hDisabled u hMem)

end AgentShield.Auth
