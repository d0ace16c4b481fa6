import AgentShield.Auth.Admission
import AgentShield.Auth.Authority
import AgentShield.Auth.KeyScope

/-!
# The audit log and the changes

Each route that changes something writes the change first and then a row of the audit log
that tells of it: who did it, in which organisation, and to what.  In every run the rows tell
of no more than the changes that were made before them, and once every request is answered of
each change once (`audit_trail`).
-/

namespace AgentShield.Auth

open AgentShield.Lib AgentShield.Sdk AgentShield.Server

/-! ## What changes and rows tell -/

/-- What the audit trail has to tell of: one constructor for each kind of change, with what
identifies the change in the row that tells of it. -/
inductive Tale where
  | signedIn (userId : String)
  | signedOut (userId orgId : String)
  | sessionRevoked (userId orgId targetSessionId : String)
  | sessionRefreshed (userId orgId : String)
  | resetRequested (userId : String)
  | passwordSet (userId : String)
  | addressVerified (userId : String)
  | secondFactorSetUp (userId : String)
  | secondFactorSet (userId : String) (enabled : Bool)
  | roleChanged (userId orgId targetUserId newRole : String)
  | invited (userId orgId targetEmail role : String)
  | joined (orgId inviteId role : String)
  | keyIssued (userId orgId apiKeyId keyPrefix : String)
  | keyRevoked (userId orgId apiKeyId : String)
  deriving DecidableEq, Repr

/-- What a change has to be told as.  The first session of an invitee is part of joining, and
a rehash sets no new password. -/
def Statement.tale : Statement → Reason → Option Tale
  | insertSession _, .acceptInvite _ => none
  | insertSession row, _ => some (.signedIn row.userId)
  | revokeSession _ _, .signOut c => some (.signedOut c.principal.userId c.principal.orgId)
  | revokeSession _ sessionId, .caller c =>
      some (.sessionRevoked c.principal.userId c.principal.orgId sessionId)
  | rotateToken _ _ _ _, .caller c =>
      some (.sessionRefreshed c.principal.userId c.principal.orgId)
  | insertToken row, _ =>
      if row.kind = .passwordReset then some (.resetRequested row.userId) else none
  | setPasswordHash _ _ _ _, .rehash _ _ => none
  | setPasswordHash _ _ _ userId, _ => some (.passwordSet userId)
  | setEmailVerified _ userId, .consumed _ => some (.addressVerified userId)
  | insertTotpCredential row, _ => some (.secondFactorSetUp row.userId)
  | setTotpEnabled enabled _ userId, _ => some (.secondFactorSet userId enabled)
  | setRole role userId orgId, .caller c =>
      some (.roleChanged c.principal.userId orgId userId role.value)
  | insertInvite row, _ => some (.invited row.invitedBy row.orgId row.email row.role.value)
  | consumeInvite _ inviteId, .acceptInvite invite =>
      some (.joined invite.orgId inviteId invite.role.value)
  | insertApiKey row, _ =>
      some (.keyIssued row.createdBy row.orgId row.apiKeyId row.keyPrefix.value)
  | revokeApiKey _ apiKeyId, .caller c =>
      some (.keyRevoked c.principal.userId c.principal.orgId apiKeyId)
  | _, _ => none

/-- A text of the detail of a row. -/
def AuditRow.text (row : AuditRow) (key : String) : Option String :=
  match Dict.get? row.detail key with
  | some (.str text) => some text
  | _ => none

/-- What a row of the audit log tells.  Rows about refusals tell of no change, and a row
without the names that its tale needs (an actor, an organisation, a target in the detail)
tells nothing. -/
def AuditRow.tale (row : AuditRow) : Option Tale :=
  match row.event with
  | .signUpOk => row.userId.map .signedIn
  | .signInOk => row.userId.map .signedIn
  | .signInRecoveryOk => row.userId.map .signedIn
  | .signOut => do return .signedOut (← row.userId) (← row.orgId)
  | .sessionRevoke => do
      return .sessionRevoked (← row.userId) (← row.orgId) (← row.text "target_session_id")
  | .sessionRefresh => do return .sessionRefreshed (← row.userId) (← row.orgId)
  | .passwordResetRequest => row.userId.map .resetRequested
  | .passwordResetComplete => row.userId.map .passwordSet
  | .passwordChange => row.userId.map .passwordSet
  | .emailVerifyComplete => row.userId.map .addressVerified
  | .totpSetup => row.userId.map .secondFactorSetUp
  | .totpConfirm => row.userId.map (.secondFactorSet · true)
  | .totpDisable => row.userId.map (.secondFactorSet · false)
  | .roleChange => do
      return .roleChanged (← row.userId) (← row.orgId) (← row.text "target_user_id")
        (← row.text "new_role")
  | .inviteSend => do
      return .invited (← row.userId) (← row.orgId) (← row.text "target_email")
        (← row.text "role")
  | .inviteAcceptOk => do
      return .joined (← row.orgId) (← row.text "invite_id") (← row.text "role")
  | .apiKeyIssue => do
      return .keyIssued (← row.userId) (← row.orgId) (← row.text "api_key_id")
        (← row.text "prefix")
  | .apiKeyRevoke => do
      return .keyRevoked (← row.userId) (← row.orgId) (← row.text "api_key_id")
  | _ => none

/-- The row that a statement adds to the audit log. -/
def Statement.told : Statement → Option Tale
  | insertAudit row => row.tale
  | _ => none

/-- The statement adds a row, or finds one to change.  An UPDATE or a DELETE whose WHERE
clause meets no row is a success to its caller, but it changes nothing. -/
def AuthDb.finds (db : AuthDb) : Statement → Bool
  | .setFailedLogin _ _ _ userId => db.hasUser userId
  | .resetFailedLogin _ userId => db.hasUser userId
  | .setPasswordHash _ _ _ userId => db.hasUser userId
  | .setTotpEnabled _ _ userId => db.hasUser userId
  | .setEmailVerified _ userId => db.hasUser userId
  | .setRole _ userId orgId => ∃ m ∈ db.memberships, m.userId = userId ∧ m.orgId = orgId
  | .touchSession _ sessionId => ∃ s ∈ db.sessions, s.sessionId = sessionId
  | .rotateToken _ _ _ sessionId => ∃ s ∈ db.sessions, s.sessionId = sessionId
  | .revokeSession _ sessionId => ∃ s ∈ db.sessions, s.sessionId = sessionId
  | .revokeAllForUser _ userId => ∃ s ∈ db.sessions, s.userId = userId ∧ s.revokedAt = none
  | .consumeToken kind _ tokenHash => (db.findToken kind tokenHash).isSome
  | .consumeInvite _ inviteId => ∃ i ∈ db.invites, i.inviteId = inviteId
  | .setRecoveryCodes _ _ userId => ∃ c ∈ db.totpCredentials, c.userId = userId
  | .deleteTotpCredential userId => ∃ c ∈ db.totpCredentials, c.userId = userId
  | .touchApiKey _ apiKeyId => ∃ key ∈ db.apiKeys, key.apiKeyId = apiKeyId
  | .revokeApiKey _ apiKeyId => ∃ key ∈ db.apiKeys, key.apiKeyId = apiKeyId
  | .insertOrganization orgId => orgId ∉ db.organizations
  | _ => true

namespace Executed

/-- What an executed statement has to be told as. -/
def tale (e : Executed) : Option Tale := e.statement.tale e.reason

/-- The change that the write has made. -/
def change (e : Executed) : Option Tale := if e.before.finds e.statement then e.tale else none

/-- What the write would have changed, had it found its row. -/
def miss (e : Executed) : Option Tale := if e.before.finds e.statement then none else e.tale

end Executed

namespace AuthWorld

/-- The changes so far. -/
def changes (w : AuthWorld) : List Tale := w.log.filterMap Executed.change

/-- What the writes so far have missed that found no row. -/
def misses (w : AuthWorld) : List Tale := w.log.filterMap Executed.miss

/-- What the audit log tells. -/
def told (w : AuthWorld) : List Tale := w.db.auditLog.filterMap AuditRow.tale

end AuthWorld

/-- An error that the client is told of. -/
def AnswersClient : Failure → Prop
  | .app _ => True
  | .validation => True
  | _ => False

/-! ## What a handler owes -/

/-- How often a tale is this one. -/
def weight (k : Tale) (t : Option Tale) : Nat := (decide (t = some k)).toNat

/-- The handler owes `owed` rows that tell `k`, and ends with an answer when it owes none. -/
abbrev Owes {α : Type} (k : Tale) (Q : α → Nat → Prop) (prog : AuthHandler α) (owed : Nat) :
    Prop :=
  LogOwes (fun e => e.tale = some k) (fun e => e.statement.told = some k)
    (fun e o => AnswersClient e → o = 0) Q prog owed

/-- The handler owes nothing, and leaves nothing owed. -/
abbrev Settled {α : Type} (k : Tale) (prog : AuthHandler α) : Prop :=
  Owes k (fun _ o => o = 0) prog 0

section Writes

variable {k : Tale} {settings : AuthSettings} {α β : Type}

/-- A statement adds to what is owed if it is a change of the tale `k`, and takes from it if
it is the row that tells it. -/
theorem owes_execute {prim : AuthPrimitives} {statement : Nat → Statement} {reason : Reason}
    {Q : Nat → Nat → Prop} {owed : Nat}
    (h : ∀ n, ∃ o, o + weight k (statement n).told =
      owed + weight k ((statement n).tale reason) ∧ Q n o) :
    Owes k Q (execute prim statement reason) owed :=
  execute_owes (fun _ _ _ _ hAnswer => hAnswer.elim) fun _ n => h n

theorem owes_executeNow {prim : AuthPrimitives} {statement : Int → Nat → Statement}
    {reason : Reason} {Q : Nat → Nat → Prop} {owed : Nat}
    (h : ∀ now n, ∃ o, o + weight k (statement now n).told =
      owed + weight k ((statement now n).tale reason) ∧ Q n o) :
    Owes k Q (executeNow prim statement reason) owed :=
  executeNow_owes (fun _ _ _ _ _ hAnswer => hAnswer.elim) fun _ now n => h now n

/-! ### Handlers that owe nothing -/

/-- The statement is no change that is told of, and tells of none. -/
def Quiet (st : Statement) (reason : Reason) : Prop := st.tale reason = none ∧ st.told = none

/-- A program whose statements are neither changes nor rows about changes leaves nothing owed.
-/
theorem settled_of_writes {prog : AuthHandler α} (h : WritesOnly settings.prim Quiet prog) :
    Settled k prog := by
  refine owes_of_logs h.logs (fun e hQuiet => ?_) fun _ _ => rfl
  unfold Executed.tale
  rw [hQuiet.1, hQuiet.2]
  exact ⟨rfl, rfl⟩

theorem settled_pure (a : α) : Settled k (pure a : AuthHandler α) := rfl

/-- Where both halves of a sequence leave nothing owed, so does the sequence. -/
theorem settled_bind {prog : AuthHandler α} {next : α → AuthHandler β}
    (h : Settled k prog) (hNext : ∀ a, Settled k (next a)) :
    Settled k (prog >>= next) := by
  refine Async.Settles.bind h fun a o hZero => ?_
  rw [hZero]
  exact hNext a

theorem settled_fetch {f : AuthDb → α} {next : α → AuthHandler β}
    (h : ∀ a, Settled k (next a)) : Settled k (fetch f >>= next) :=
  Async.Settles.read_bind fun _ => h _

theorem settled_read {f : AuthWorld → α} {next : α → AuthHandler β}
    (h : ∀ a, Settled k (next a)) : Settled k (Async.read f >>= next) :=
  Async.Settles.read_bind fun _ => h _

theorem settled_raise {e : Failure} : Settled k (Async.raise e : AuthHandler α) := fun _ => rfl

theorem settled_raiseIf {p : Prop} [Decidable p] {e : Failure} {next : Unit → AuthHandler α}
    (h : Settled k (next ())) : Settled k (Async.raiseIf p e >>= next) :=
  Async.Settles.raiseIf_bind (fun _ => rfl) fun _ => h

theorem settled_require {o : Option α} {e : Failure} {next : α → AuthHandler β}
    (h : ∀ a, Settled k (next a)) : Settled k (Async.require o e >>= next) :=
  Async.Settles.require_bind (fun _ => rfl) fun a _ => h a

theorem settled_require_end {o : Option α} {e : Failure} :
    Settled k (Async.require o e : AuthHandler α) := by
  cases o with
  | none => exact fun _ => rfl
  | some a => exact rfl

theorem settled_raiseIf_end {p : Prop} [Decidable p] {e : Failure} :
    Settled k (Async.raiseIf p e : AuthHandler Unit) := by
  unfold Async.raiseIf
  split
  · exact settled_raise
  · exact settled_pure ()

/-- A single statement that is no change and tells of none. -/
theorem settled_quiet {prim : AuthPrimitives} {statement : Int → Nat → Statement}
    {reason : Reason} (h : ∀ now n, Quiet (statement now n) reason) :
    Settled k (executeNow prim statement reason) := by
  refine owes_executeNow fun now n => ⟨0, ?_, rfl⟩
  obtain ⟨hTale, hTold⟩ := h now n
  rw [hTale, hTold]

/-- A row that tells of no change, such as that of a refusal. -/
theorem settled_insertAudit {a : AuditEvent} {reason : Reason}
    (h : ∀ auditId now, (a.row auditId now).tale = none) :
    Settled k (insertAudit settings a reason) :=
  settled_quiet fun now _ => ⟨rfl, h _ now⟩

/-- A mail neither makes nor tells anything. -/
theorem owes_sendMail {recipient url : String} {owed : Nat} {Q : α → Nat → Prop}
    {next : Unit → AuthHandler α} (h : Owes k Q (next ()) owed) :
    Owes k Q (sendMail recipient url >>= next) owed :=
  Async.Settles.write_bind (fun _ => ⟨rfl, rfl⟩) h

/-- The rate limit works on the cache only. -/
theorem settled_enforceOrBlock (config : RateLimitConfig) (headers : Dict String String)
    (fallbackIp : Option String) :
    Settled k (enforceOrBlock settings config headers fallbackIp) :=
  owes_of_logs (C := fun _ _ => False) (enforceOrBlock_logs config headers fallbackIp)
    (fun _ h => h.elim) fun _ _ => rfl

/-! ### A change and the row that tells of it -/

/-- The handler makes the change `t`. -/
theorem owes_change {prim : AuthPrimitives} {statement : Int → Nat → Statement} {reason : Reason}
    {t : Int → Nat → Tale} (h : ∀ now n, (statement now n).tale reason = some (t now n) ∧
      (statement now n).told = none) :
    Owes k (fun n o => ∃ now, o = weight k (some (t now n)))
      (executeNow prim statement reason) 0 := by
  refine owes_executeNow fun now n => ⟨weight k (some (t now n)), ?_, now, rfl⟩
  obtain ⟨hTale, hTold⟩ := h now n
  rw [hTale, hTold]
  show _ + 0 = 0 + _
  omega

/-- The row that tells of `t`. -/
theorem owes_insertAudit {a : AuditEvent} {reason : Reason} {t : Tale}
    (h : ∀ auditId now, (a.row auditId now).tale = some t) :
    Owes k (fun _ o => o = 0) (insertAudit settings a reason) (weight k (some t)) := by
  refine owes_executeNow fun now n => ⟨0, ?_, rfl⟩
  have hTold : (Statement.insertAudit (a.row (settings.prim.uuid n) now)).told = some t :=
    h _ now
  rw [hTold]
  show 0 + _ = _ + 0
  omega

/-- The row, and the answer. -/
theorem owes_audit {a : AuditEvent} {reason : Reason} {t : Tale} {next : Nat → AuthHandler α}
    (h : ∀ auditId now, (a.row auditId now).tale = some t)
    (hNext : ∀ n, Settled k (next n)) :
    Owes k (fun _ o => o = 0) (insertAudit settings a reason >>= next)
      (weight k (some t)) := by
  refine Async.Settles.bind (owes_insertAudit h) fun n o hZero => ?_
  rw [hZero]
  exact hNext n

/-- A change whose tale is known before it, and what follows it. -/
theorem settled_change {prim : AuthPrimitives} {statement : Int → Nat → Statement}
    {reason : Reason} {t : Tale} {next : Nat → AuthHandler α}
    (h : ∀ now n, (statement now n).tale reason = some t ∧ (statement now n).told = none)
    (hNext : ∀ n, Owes k (fun _ o => o = 0) (next n) (weight k (some t))) :
    Settled k (executeNow prim statement reason >>= next) := by
  refine Async.Settles.bind (owes_change (t := fun _ _ => t) h) fun n o hOwed => ?_
  obtain ⟨-, rfl⟩ := hOwed
  exact hNext n

/-- A statement that is neither, while something is owed. -/
theorem owes_quiet {prim : AuthPrimitives} {statement : Int → Nat → Statement} {reason : Reason}
    {owed : Nat} {next : Nat → AuthHandler α} (h : ∀ now n, Quiet (statement now n) reason)
    (hNext : ∀ n, Owes k (fun _ o => o = 0) (next n) owed) :
    Owes k (fun _ o => o = 0) (executeNow prim statement reason >>= next) owed := by
  refine Async.Settles.bind (Q := fun _ o => o = owed) ?_ fun n o hOwed => ?_
  · refine owes_executeNow fun now n => ⟨owed, ?_, rfl⟩
    obtain ⟨hTale, hTold⟩ := h now n
    rw [hTale, hTold]
  · rw [hOwed]
    exact hNext n

end Writes

/-! ## The handlers -/

section Handlers

variable {k : Tale} {settings : AuthSettings}

/-- Finding the caller touches the session or the key, which is no change that is told of. -/
theorem principalContext_settled (http : Http) :
    Settled k (principalContext settings http) :=
  settled_of_writes (principalContext_writes (fun _ _ => ⟨rfl, rfl⟩) (fun _ _ => ⟨rfl, rfl⟩) http)

theorem requireRole_settled (roles : List Role) (http : Http) :
    Settled k (requireRole settings roles http) := by
  unfold requireRole
  exact settled_bind (principalContext_settled http) fun caller =>
    settled_raiseIf (settled_pure _)

theorem ownSession_settled (http : Http) (caller : Caller) :
    Settled k (ownSession http caller) := by
  unfold ownSession requireCsrf
  exact settled_require fun sessionId => settled_fetch fun found => settled_require fun row =>
    settled_raiseIf (settled_pure _)

theorem checkCode_settled (credential : TotpCredential) (code : String) :
    Settled k (checkCode settings credential code) := by
  unfold checkCode
  exact settled_require fun _ => settled_read fun _ => settled_pure _

/-- A session of a user who did not come by an invite, and what follows it. -/
theorem createSession_owes {userId : String} {ip userAgent : Option String} {reason : Reason}
    {next : IssuedSession → AuthHandler Response}
    (h : ∀ row, (Statement.insertSession row).tale reason = some (.signedIn row.userId))
    (hNext : ∀ sess, Owes k (fun _ o => o = 0) (next sess)
      (weight k (some (.signedIn userId)))) :
    Settled k (createSession settings userId ip userAgent reason >>= next) := by
  unfold createSession
  rw [Async.bind_assoc']
  exact settled_change (fun now n => ⟨h _, rfl⟩) fun n => hNext _

/-- The session owes its row, which follows in the same route. -/
theorem issueSession_settled (user : User) (ip userAgent : Option String) (event : AuditEvent)
    {reason : Reason} (h : ∀ row, (Statement.insertSession row).tale reason =
      some (.signedIn row.userId)) (hEvent : event.event = .signInOk ∨
      event.event = .signInRecoveryOk) :
    Settled k (issueSession settings user ip userAgent event reason) := by
  unfold issueSession
  refine settled_fetch fun found => settled_require fun membership => ?_
  refine createSession_owes h fun sess => owes_audit (fun auditId now => ?_) fun _ => settled_pure _
  unfold AuditRow.tale AuditEvent.row
  rcases hEvent with hEvent | hEvent <;> simp only [hEvent] <;> rfl

theorem createUser_settled (new : NewUser) (reason : Reason) :
    Settled k (createUser settings new reason) := by
  unfold createUser
  exact settled_bind (settled_quiet fun _ _ => ⟨rfl, rfl⟩) fun n =>
    settled_fetch fun found => settled_require_end

theorem issue_settled (userId : String) :
    Settled k (issue settings .emailVerification userId) := by
  unfold issue
  exact settled_read fun _ => settled_bind (settled_quiet fun _ _ => ⟨rfl, rfl⟩) fun _ =>
    settled_pure _

/-- A rehash keeps the password, so it owes nothing. -/
theorem rehash_settled (password : String) (user : User) :
    Settled k (rehash settings password user) := by
  unfold rehash updatePasswordHash
  split
  · refine settled_bind ?_ fun _ => settled_pure _
    exact settled_bind (settled_quiet fun _ _ => ⟨rfl, rfl⟩) fun _ => settled_pure _
  · exact settled_pure _

/-! ### The refusals of a sign-in -/

/-- A refused sign-in tells of no change. -/
theorem signInFail_settled (ip userAgent : Option String) (email : String)
    (userId : Option String) (text : String) (why : Reason) :
    Settled k (signInFail settings ip userAgent email userId text why) := by
  unfold signInFail
  exact settled_bind (settled_insertAudit fun _ _ => rfl) fun _ => settled_raise

theorem signInRefuse_settled {event : AuthEvent} (ip userAgent : Option String)
    (userId : String) (detail : List (String × Json)) (failure : Failure)
    (h : ∀ auditId now, ((AuditEvent.mk event userId none ip userAgent detail).row auditId
      now).tale = none) :
    Settled k (signInRefuse settings event ip userAgent userId detail failure) := by
  unfold signInRefuse
  exact settled_bind (settled_insertAudit h) fun _ => settled_raise

theorem checkAccount_settled (ip userAgent : Option String) (email : String) (user : User) :
    Settled k (checkAccount settings ip userAgent email user) := by
  unfold checkAccount
  split
  · exact signInFail_settled ip userAgent email user.userId _ _
  · refine settled_read fun now => ?_
    split
    · exact signInRefuse_settled ip userAgent user.userId _ _ fun _ _ => rfl
    · exact settled_pure _

/-- A wrong password moves the counter, and a lock is told by a row of its own kind, which is
none of the tales. -/
theorem checkPassword_settled (ip userAgent : Option String) (body : SignInRequest)
    (user : User) : Settled k (checkPassword settings ip userAgent body user) := by
  unfold checkPassword
  split
  · exact settled_pure _
  · refine settled_bind ?_ fun _ => signInFail_settled ip userAgent body.email _ _ _
    unfold recordFailedLogin
    refine settled_fetch fun row => settled_read fun time => ?_
    refine settled_bind (settled_quiet fun _ _ => ⟨rfl, rfl⟩) fun _ => ?_
    unfold auditLock
    split
    · exact settled_pure _
    · exact settled_bind (settled_insertAudit fun _ _ => rfl) fun _ => settled_pure _

theorem checkTotp_settled (ip userAgent : Option String) (body : SignInRequest) (user : User) :
    Settled k (checkTotp settings ip userAgent body user) := by
  unfold checkTotp
  split
  · refine settled_fetch fun credential => ?_
    cases credential with
    | none => exact signInFail_settled ip userAgent body.email _ _ _
    | some credential =>
        simp only [checkCredential]
        split
        · exact signInRefuse_settled ip userAgent user.userId _ _ fun _ _ => rfl
        · refine settled_bind (checkCode_settled _ _) fun ok => ?_
          split
          · exact settled_bind (settled_insertAudit fun _ _ => rfl) fun _ => settled_pure _
          · exact signInRefuse_settled ip userAgent user.userId _ _ fun _ _ => rfl
  · exact settled_pure _

/-- A sign-in makes one change that is told of, the new session, and tells it last. -/
theorem signIn_settled (http : Http) (body : SignInRequest) :
    Settled k (signIn settings http body) := by
  unfold signIn
  refine settled_bind (settled_enforceOrBlock _ _ _) fun _ => settled_fetch fun found => ?_
  cases found with
  | none => exact settled_bind (signInFail_settled _ _ _ _ _ _) fun _ => settled_raise
  | some user =>
      refine settled_bind (checkAccount_settled _ _ _ user) fun _ => ?_
      refine settled_bind (checkPassword_settled _ _ body user) fun _ => ?_
      refine settled_bind (checkTotp_settled _ _ body user) fun _ => ?_
      refine settled_bind (settled_quiet fun _ _ => ⟨rfl, rfl⟩) fun _ => ?_
      refine settled_bind (rehash_settled body.password user) fun _ => ?_
      exact issueSession_settled user _ _ _ (fun _ => rfl) (.inl rfl)

/-- A sign-up makes one change that is told, the session of the new user; the mailed token is
for the address. -/
theorem signUp_settled (http : Http) (body : SignUpRequest) :
    Settled k (signUp settings http body) := by
  unfold signUp checkNewPassword
  refine settled_raiseIf (settled_raiseIf ?_)
  refine settled_bind (settled_enforceOrBlock _ _ _) fun _ => settled_fetch fun taken => ?_
  refine settled_raiseIf (settled_bind (createUser_settled _ _) fun user => ?_)
  refine createSession_owes (fun _ => rfl) fun sess => owes_audit (fun _ _ => rfl) fun _ => ?_
  exact settled_bind (issue_settled _) fun raw => owes_sendMail (settled_pure _)

/-! ### The caller's own session, password and address -/

/-- The revocation and its row come together, or there was no session to revoke. -/
theorem signOut_settled (http : Http) : Settled k (signOut settings http) := by
  unfold signOut
  refine settled_bind (principalContext_settled http) fun caller => ?_
  refine settled_bind ?_ fun _ => settled_pure _
  unfold revokeOwn
  split
  · exact settled_pure _
  · exact settled_change (fun _ _ => ⟨rfl, rfl⟩) fun _ => owes_audit (fun _ _ => rfl) fun _ =>
      settled_pure _

theorem sessionRefresh_settled (http : Http) : Settled k (sessionRefresh settings http) := by
  unfold sessionRefresh
  refine settled_bind (principalContext_settled http) fun caller => ?_
  refine settled_bind (ownSession_settled http caller) fun sessionId => ?_
  unfold rotateToken
  rw [Async.bind_assoc']
  exact settled_change (fun _ _ => ⟨rfl, rfl⟩) fun _ => owes_audit (fun _ _ => rfl) fun _ =>
    settled_pure _

/-- The token of a reset is told of; an unknown address has none. -/
theorem passwordResetRequest_settled (http : Http) (email : String) :
    Settled k (passwordResetRequest settings http email) := by
  unfold passwordResetRequest
  refine settled_bind (settled_enforceOrBlock _ _ _) fun _ => settled_fetch fun found => ?_
  cases found with
  | none => exact settled_pure _
  | some user =>
      show Settled k (issue settings .passwordReset user.userId >>= _)
      unfold issue
      rw [Async.bind_assoc']
      refine settled_read fun expiresFrom => ?_
      rw [Async.bind_assoc']
      exact settled_change (fun _ _ => ⟨rfl, rfl⟩) fun n => owes_sendMail
        (owes_audit (fun _ _ => rfl) fun _ => settled_pure _)

theorem consume_settled (kind : TokenKind) (raw : String) :
    Settled k (consume settings kind raw) := by
  unfold consume
  refine settled_fetch fun found => settled_read fun now => ?_
  split
  · exact settled_pure _
  · exact settled_bind (settled_quiet fun _ _ => ⟨rfl, rfl⟩) fun _ => settled_pure _

/-- Setting the password is told of once, and the token and the revoked sessions belong to it.
-/
theorem passwordResetComplete_settled (body : PasswordResetComplete) :
    Settled k (passwordResetComplete settings body) := by
  unfold passwordResetComplete checkNewPassword
  refine settled_raiseIf (settled_bind (consume_settled _ _) fun consumed => ?_)
  refine settled_require fun token => ?_
  unfold updatePasswordHash
  rw [Async.bind_assoc']
  refine settled_change (fun _ _ => ⟨rfl, rfl⟩) fun n => owes_quiet (fun _ _ => ⟨rfl, rfl⟩) ?_
  exact fun _ => owes_audit (fun _ _ => rfl) fun _ => settled_pure _

/-- A change of password is told of; the rotated cookie belongs to it. -/
theorem passwordChange_settled (http : Http) (body : PasswordChangeRequest) :
    Settled k (passwordChange settings http body) := by
  unfold passwordChange checkNewPassword
  refine settled_bind (principalContext_settled http) fun caller => settled_raiseIf ?_
  refine settled_bind (ownSession_settled http caller) fun sessionId => ?_
  refine settled_fetch fun found => settled_require fun user => settled_raiseIf ?_
  unfold updatePasswordHash
  rw [Async.bind_assoc']
  refine settled_change (fun _ _ => ⟨rfl, rfl⟩) fun n => ?_
  unfold rotateToken
  rw [Async.pure_bind', Async.bind_assoc']
  refine owes_quiet (fun _ _ => ⟨rfl, rfl⟩) fun _ => ?_
  exact owes_audit (fun _ _ => rfl) fun _ => settled_pure _

theorem emailVerifyRequest_settled (http : Http) :
    Settled k (emailVerifyRequest settings http) := by
  unfold emailVerifyRequest requireSession
  refine settled_bind (principalContext_settled http) fun caller => settled_raiseIf ?_
  refine settled_bind (issue_settled _) fun raw => owes_sendMail ?_
  exact settled_bind (settled_insertAudit fun _ _ => rfl) fun _ => settled_pure _

/-- A verified address is told of by the row of its token's user. -/
theorem emailVerifyComplete_settled (token : String) :
    Settled k (emailVerifyComplete settings token) := by
  unfold emailVerifyComplete
  refine settled_bind (consume_settled _ token) fun consumed => settled_require fun row => ?_
  exact settled_change (fun _ _ => ⟨rfl, rfl⟩) fun _ => owes_audit (fun _ _ => rfl) fun _ =>
    settled_pure _

/-! ### The second factor -/

theorem totpSetup_settled (http : Http) : Settled k (totpSetup settings http) := by
  unfold totpSetup requireSession
  refine settled_bind (principalContext_settled http) fun caller => settled_raiseIf ?_
  exact settled_change (fun _ _ => ⟨rfl, rfl⟩) fun n => owes_audit (fun _ _ => rfl) fun _ =>
    settled_pure _

/-- The second factor is told of when it is turned on, the recovery codes with it. -/
theorem totpConfirm_settled (http : Http) (code : String) :
    Settled k (totpConfirm settings http code) := by
  unfold totpConfirm requireSession
  refine settled_bind (principalContext_settled http) fun caller => settled_raiseIf ?_
  refine settled_fetch fun found => settled_require fun credential => ?_
  refine settled_bind (checkCode_settled credential code) fun ok => settled_raiseIf ?_
  refine settled_bind (settled_quiet fun _ _ => ⟨rfl, rfl⟩) fun n => ?_
  exact settled_change (fun _ _ => ⟨rfl, rfl⟩) fun _ => owes_audit (fun _ _ => rfl) fun _ =>
    settled_pure _

/-- The deleted credential and the flag are one change, told of as the flag. -/
theorem totpDisable_settled (http : Http) (body : TotpDisableRequest) :
    Settled k (totpDisable settings http body) := by
  unfold totpDisable requireSession
  refine settled_bind (principalContext_settled http) fun caller => settled_raiseIf ?_
  refine settled_fetch fun found => settled_require fun user => settled_raiseIf ?_
  refine settled_fetch fun credential => settled_bind ?_ fun _ => ?_
  · unfold checkStoredCode
    split
    · exact settled_pure _
    · exact settled_bind (checkCode_settled _ _) fun ok => settled_raiseIf_end
  · refine settled_bind ?_ fun _ => ?_
    · exact owes_execute fun n => ⟨0, rfl, rfl⟩
    · exact settled_change (fun _ _ => ⟨rfl, rfl⟩) fun _ => owes_audit (fun _ _ => rfl) fun _ =>
        settled_pure _

/-- A recovery code buys a session, which is told of as any other. -/
theorem totpRecovery_settled (http : Http) (body : TotpRecoveryRequest) :
    Settled k (totpRecovery settings http body) := by
  unfold totpRecovery
  refine settled_fetch fun found => settled_require fun user => settled_fetch fun credential => ?_
  refine settled_require fun tc => settled_raiseIf ?_
  refine settled_bind (settled_quiet fun _ _ => ⟨rfl, rfl⟩) fun _ => ?_
  exact issueSession_settled user _ _ _ (fun _ => rfl) (.inr rfl)

/-! ### Administration -/

theorem withRoles_settled (orgId : String) (users : List User) :
    Settled k (withRoles orgId users) := by
  induction users with
  | nil => exact settled_pure _
  | cons u rest ih => exact settled_fetch fun first => settled_bind ih fun others => settled_pure _

/-- The revocation is owed to the session named and told with the same id. -/
theorem adminRevokeSession_settled (http : Http) (sessionId : String) :
    Settled k (adminRevokeSession settings http sessionId) := by
  unfold adminRevokeSession
  refine settled_bind (requireRole_settled _ http) fun caller => ?_
  exact settled_change (fun _ _ => ⟨rfl, rfl⟩) fun _ => owes_audit (fun _ _ => rfl) fun _ =>
    settled_pure _

/-- The new role is owed to the user named and told with the same names. -/
theorem adminChangeRole_settled (http : Http) (userId : String) (role : Role) :
    Settled k (adminChangeRole settings http userId role) := by
  unfold adminChangeRole changeRole
  refine settled_bind (requireRole_settled _ http) fun caller => ?_
  refine Async.Settles.bind (Q := fun _ o => o = weight k (some (.roleChanged
    caller.principal.userId caller.principal.orgId userId role.value))) ?_ fun n o hOwed => ?_
  · refine owes_execute fun n => ⟨_, ?_, rfl⟩
    show _ + 0 = 0 + _
    rw [Nat.add_zero, Nat.zero_add]
    rfl
  · rw [hOwed]
    exact owes_audit (fun _ _ => rfl) fun _ => settled_pure _

theorem adminInvite_settled (http : Http) (body : AdminInviteRequest) :
    Settled k (adminInvite settings http body) := by
  unfold adminInvite
  refine settled_bind (requireRole_settled _ http) fun caller => settled_read fun now => ?_
  exact settled_change (fun _ _ => ⟨rfl, rfl⟩) fun n => owes_sendMail
    (owes_audit (fun _ _ => rfl) fun _ => settled_pure _)

theorem inviteFail_settled {α : Type} (ip userAgent inviteId : Option String) (text : String) :
    Settled k (inviteFail settings ip userAgent inviteId text : AuthHandler α) := by
  unfold inviteFail
  exact settled_bind (settled_insertAudit fun _ _ => rfl) fun _ => settled_raise

/-- Joining is told of when the invite is consumed. -/
theorem admitInvitee_settled (ip userAgent : Option String) (body : AcceptInviteRequest)
    (invite : Invite) : Settled k (admitInvitee settings ip userAgent body invite) := by
  unfold admitInvitee
  refine settled_bind (createUser_settled _ _) fun user => ?_
  refine settled_bind (settled_quiet fun _ _ => ⟨rfl, rfl⟩) fun _ => ?_
  refine settled_change (fun _ _ => ⟨rfl, rfl⟩) fun _ => owes_audit (fun _ _ => rfl) fun _ => ?_
  unfold createSession
  refine settled_bind ?_ fun sess => settled_pure _
  exact settled_bind (settled_quiet fun _ _ => ⟨rfl, rfl⟩) fun _ => settled_pure _

/-- Joining is told of once, when the invite is used up; the invitee's first session belongs
to it. -/
theorem acceptInvite_settled (http : Http) (body : AcceptInviteRequest) :
    Settled k (acceptInvite settings http body) := by
  unfold acceptInvite checkNewPassword
  refine settled_raiseIf (settled_bind (settled_enforceOrBlock _ _ _) fun _ => ?_)
  refine settled_fetch fun found => ?_
  cases found with
  | none => exact inviteFail_settled _ _ _ _
  | some invite =>
      refine settled_bind ?_ fun _ => settled_fetch fun existing => ?_
      · unfold checkInvite
        split
        · exact inviteFail_settled _ _ _ _
        · refine settled_read fun now => ?_
          split
          · exact inviteFail_settled _ _ _ _
          · exact settled_pure _
      · cases existing with
        | some _ => exact inviteFail_settled _ _ _ _
        | none => exact admitInvitee_settled _ _ body invite

/-- The number of the key is known when it is stored, so that the row told after it names the
key that was made. -/
theorem issueApiKey_settled (http : Http) (body : IssueApiKeyRequest) :
    Settled k (issueApiKey settings http body) := by
  unfold issueApiKey
  refine settled_bind (requireRole_settled _ http) fun caller => settled_bind ?_ fun _ => ?_
  · unfold assertApiKeyAgentScope
    split
    · exact settled_pure _
    · exact settled_read fun orgAgents => settled_raiseIf_end
  · refine settled_read fun now => ?_
    unfold issueKey
    rw [Async.bind_assoc']
    refine settled_raiseIf ?_
    rw [Async.bind_assoc']
    refine settled_read fun created => ?_
    rw [Async.bind_assoc']
    refine Async.Settles.bind (Q := fun n o => o = weight k (some (.keyIssued
      caller.principal.userId caller.principal.orgId (settings.prim.uuid n)
      body.keyPrefix.value))) ?_ fun n o hOwed => ?_
    · refine owes_execute fun n => ⟨_, ?_, rfl⟩
      show _ + 0 = 0 + _
      rw [Nat.add_zero, Nat.zero_add]
      rfl
    · rw [hOwed]
      exact owes_audit (fun _ _ => rfl) fun _ => settled_pure _

theorem revokeApiKey_settled (http : Http) (apiKeyId : String) :
    Settled k (revokeApiKey settings http apiKeyId) := by
  unfold revokeApiKey
  refine settled_bind (requireRole_settled _ http) fun caller => settled_read fun rows => ?_
  refine settled_raiseIf ?_
  exact settled_change (fun _ _ => ⟨rfl, rfl⟩) fun _ => owes_audit (fun _ _ => rfl) fun _ =>
    settled_pure _

/-! ### Reads and the command line -/

/-- The routes that only read owe nothing. -/
theorem reads_settled (http : Http) (userId : String) :
    Settled k (getSession settings http) ∧ Settled k (adminListUsers settings http) ∧
      Settled k (adminListSessions settings http userId) ∧
      Settled k (listApiKeys settings http) ∧ Settled k (otherRouter settings http) := by
  refine ⟨?_, ?_, ?_, ?_, ?_⟩
  · unfold getSession
    refine settled_bind (principalContext_settled http) fun caller => ?_
    split
    · exact settled_pure _
    · exact settled_fetch fun row => settled_pure _
  · unfold adminListUsers
    exact settled_bind (requireRole_settled _ http) fun caller => settled_fetch fun rows =>
      settled_bind (withRoles_settled _ rows) fun users => settled_pure _
  · unfold adminListSessions
    exact settled_bind (requireRole_settled _ http) fun _ => settled_fetch fun rows =>
      settled_pure _
  · unfold listApiKeys
    exact settled_bind (requireRole_settled _ http) fun caller => settled_read fun rows =>
      settled_pure _
  · unfold otherRouter authContext
    exact settled_bind (settled_bind (principalContext_settled http) fun caller =>
      settled_pure _) fun ctx => settled_pure _

/-- The command line makes no change that the trail tells of. -/
theorem seedAdmin_settled (args : SeedAdmin) : Settled k (seedAdmin settings args) := by
  unfold seedAdmin
  refine settled_raiseIf (settled_bind ?_ fun _ => settled_fetch fun existing => ?_)
  · exact owes_execute fun n => ⟨0, rfl, rfl⟩
  · cases existing with
    | some user => exact settled_pure _
    | none => exact settled_bind (createUser_settled _ _) fun user => settled_pure _

/-- **Every handler** settles what it changes: it ends with as many rows told as changes made,
unless a step fails in between, and never tells of one before it is made. -/
theorem handle_settled (r : Request) : Settled k (handle settings r) := by
  unfold handle
  refine settled_raiseIf ?_
  cases r with
  | signUp http body => exact signUp_settled _ body
  | signIn http body => exact signIn_settled _ body
  | signOut http => exact signOut_settled _
  | getSession http => exact (reads_settled _ "").1
  | sessionRefresh http => exact sessionRefresh_settled _
  | passwordResetRequest http email => exact passwordResetRequest_settled _ email
  | passwordResetComplete body => exact passwordResetComplete_settled body
  | passwordChange http body => exact passwordChange_settled _ body
  | emailVerifyRequest http => exact emailVerifyRequest_settled _
  | emailVerifyComplete token => exact emailVerifyComplete_settled token
  | totpSetup http => exact totpSetup_settled _
  | totpConfirm http code => exact totpConfirm_settled _ code
  | totpDisable http body => exact totpDisable_settled _ body
  | totpRecovery http body => exact totpRecovery_settled _ body
  | adminListUsers http => exact (reads_settled _ "").2.1
  | adminListSessions http userId => exact (reads_settled _ userId).2.2.1
  | adminRevokeSession http sessionId => exact adminRevokeSession_settled _ sessionId
  | adminChangeRole http userId role => exact adminChangeRole_settled _ userId role
  | adminInvite http body => exact adminInvite_settled _ body
  | acceptInvite http body => exact acceptInvite_settled _ body
  | issueApiKey http body => exact issueApiKey_settled _ body
  | listApiKeys http => exact (reads_settled _ "").2.2.2.1
  | revokeApiKey http apiKeyId => exact revokeApiKey_settled _ apiKeyId
  | seedAdmin args => exact seedAdmin_settled args
  | otherRouter http => exact (reads_settled _ "").2.2.2.2

end Handlers

/-! ## Every run -/

section Runs

variable (settings : AuthSettings) (server : World) (db : AuthDb)
  (events : List (Event (authService settings)))

/-- The tables are what the writes of the log have made of the first ones. -/
theorem authRun_replay :
    (authRun settings server db events).state.db =
      (authRun settings server db events).state.log.foldl
        (fun tables e => tables.apply e.statement) db := by
  refine (authRun_reached settings server db events).invariant
    (I := fun w => w.db = w.log.foldl (fun tables e => tables.apply e.statement) db) rfl ?_ ?_
  · intro w w' hDb hLog _ _ hOld
    rw [hDb, hLog]
    exact hOld
  · intro w statement reason db' hWritten hOld
    obtain ⟨-, rfl⟩ := AuthDb.execute_ok hWritten.run
    show w.db.apply statement = (w.log ++ [w.entry statement reason]).foldl _ db
    rw [List.foldl_append, ← hOld]
    rfl

/-- What the log has added to the audit log. -/
theorem authRun_told :
    (authRun settings server db events).state.told = db.auditLog.filterMap AuditRow.tale ++
      (authRun settings server db events).state.log.filterMap (·.statement.told) := by
  refine (authRun_reached settings server db events).invariant
    (I := fun w => w.told = db.auditLog.filterMap AuditRow.tale ++
      w.log.filterMap (·.statement.told)) (List.append_nil _).symm ?_ ?_
  · intro w w' hDb hLog _ _ hOld
    unfold AuthWorld.told
    rw [hDb, hLog]
    exact hOld
  · intro w statement reason db' hWritten hOld
    obtain ⟨-, rfl⟩ := AuthDb.execute_ok hWritten.run
    have hTold : (statement.addAudit).filterMap AuditRow.tale = statement.told.toList := by
      cases statement with
      | insertAudit row => cases h : row.tale <;> simp [Statement.addAudit, Statement.told, h]
      | _ => rfl
    have hNew : [w.entry statement reason].filterMap (·.statement.told) =
        statement.told.toList := by
      cases h : statement.told <;> simp [AuthWorld.entry, h]
    show (w.db.auditLog ++ statement.addAudit).filterMap AuditRow.tale =
      _ ++ (w.log ++ [w.entry statement reason]).filterMap _
    rw [List.filterMap_append, List.filterMap_append, hTold, hNew, ← List.append_assoc]
    exact congrArg (· ++ statement.told.toList) hOld

/-- The writes and the rows that tell of them are in balance. -/
theorem authRun_tally (k : Tale) :
    (authRun settings server db events).Tally
      (fun w => w.log.countP fun e => e.tale = some k)
      (fun w => w.log.countP fun e => e.statement.told = some k)
      (Pool.Owing (fun _ : Request => True) (fun w => w.log.countP fun e => e.tale = some k)
        (fun w => w.log.countP fun e => e.statement.told = some k)
        (fun e o => AnswersClient e → o = 0) fun _ o => o = 0) := by
  refine Pool.Tally.run (authService_follows settings) (fun r _ => handle_settled r)
    (fun _ hAnswer => hAnswer.elim) (fun _ _ _ hOther => absurd trivial hOther) ?_
    (Pool.onCourse_start _) (Pool.tally_start rfl) events
  intro x w
  cases x <;> exact ⟨rfl, rfl⟩

end Runs

/-! ## Writes that find no row -/

/-- The request names what is to be changed, and nobody looks whether it is there. -/
def Tale.targeted : Tale → Bool
  | sessionRevoked _ _ _ => true
  | roleChanged _ _ _ _ => true
  | _ => false

section Misses

variable {settings : AuthSettings} {s w : AuthWorld}

/-- A caller with a session has an account: the rows were seen, and accounts are never
deleted. -/
theorem caller_hasUser (h : Reached settings s w) (hStart : s.log = []) {caller : Caller}
    (hSeen : caller.Seen settings w) (hSession : caller.principal.isSession = true) :
    w.db.hasUser caller.principal.userId := by
  cases caller with
  | session row user membership =>
      obtain ⟨-, -, hUser, -⟩ := hSeen
      obtain ⟨w₀, -, hLater, hMem⟩ := h.of_saw hStart hUser
      exact hLater.hasUser ⟨user, hMem, rfl⟩
  | _ => cases hSession

/-- The session of the caller is still there. -/
theorem caller_session (h : Reached settings s w) (hStart : s.log = []) {caller : Caller}
    {sessionId : String} (hSeen : caller.Seen settings w)
    (hOwn : caller.principal.session? = some sessionId) :
    ∃ row ∈ w.db.sessions, row.sessionId = sessionId := by
  obtain ⟨row, user, membership, rfl⟩ := session_of_caller hOwn
  obtain ⟨w₀, -, hLater, hMem⟩ := h.of_saw hStart hSeen.1
  obtain ⟨now, hNow, hId, -⟩ := hLater.session_kept hMem
  have hRowId : row.sessionId = sessionId := by
    simpa [Principal.session?, Principal.isSession, Caller.principal] using hOwn
  exact ⟨now, hNow, hId.trans hRowId⟩

/-- An invite that was seen is still there. -/
theorem invite_there (h : Reached settings s w) (hStart : s.log = []) {invite : Invite}
    (hInvited : Invited w invite) : ∃ i ∈ w.db.invites, i.inviteId = invite.inviteId := by
  obtain ⟨w₀, -, hLater, hMem⟩ := h.of_saw hStart hInvited.seen
  refine hLater.tables (I := fun db => ∃ i ∈ db.invites, i.inviteId = invite.inviteId)
    ⟨invite, hMem, rfl⟩ ?_
  rintro w statement reason - - ⟨i, hi, hId⟩
  exact ⟨statement.setInvite i, List.mem_append_left _ (List.mem_map_of_mem hi),
    (statement.setInvite_inviteId i).trans hId⟩

/-- A write with a tale finds its row, but for the two whose target the request names. -/
theorem finds_of_justified (h : Reached settings s w) (hStart : s.log = [])
    (hValid : s.db.Valid settings.prim) {route : Route} {statement : Statement}
    {reason : Reason} (hReason : Justified settings route w statement reason) {t : Tale}
    (hTale : statement.tale reason = some t) (hOther : t.targeted = false) :
    w.db.finds statement = true := by
  cases hReason with
  | changed _ hChanges =>
      obtain ⟨w₀, -, hLater, hMem⟩ := h.of_saw hStart hChanges.seen
      exact decide_eq_true (hLater.hasUser ⟨_, hMem, rfl⟩)
  | reset _ hPresents _ => exact decide_eq_true (hPresents.hasUser h hStart hValid)
  | verified _ hPresents => exact decide_eq_true (hPresents.hasUser h hStart hValid)
  | totpEnabled hConfirms hSession =>
      exact decide_eq_true (caller_hasUser h hStart hConfirms.resolved hSession)
  | totpDisabled hSeen hSession => exact decide_eq_true (caller_hasUser h hStart hSeen hSession)
  | refreshed hSeen hOwn => exact decide_eq_true (caller_session h hStart hSeen hOwn)
  | signedOut hSeen hOwn => exact decide_eq_true (caller_session h hStart hSeen hOwn)
  | inviteConsumed hInvited => exact decide_eq_true (invite_there h hStart hInvited)
  | keyRevoked _ _ hSeen =>
      obtain ⟨w₀, -, hLater, key, hMem, -, hId⟩ := h.of_saw hStart hSeen
      obtain ⟨now, hNow, hSame⟩ := hLater.key_kept hMem
      exact decide_eq_true ⟨now, hNow, hSame.apiKeyId.trans hId⟩
  | roleChanged =>
      obtain rfl := Option.some.inj hTale
      cases hOther
  | revoked =>
      obtain rfl := Option.some.inj hTale
      cases hOther
  | _ => first | rfl | cases hTale

/-- What the log has missed was named by a request. -/
theorem misses_targeted (h : Reached settings s w) (hStart : s.log = [])
    (hValid : s.db.Valid settings.prim) : ∀ t ∈ w.misses, t.targeted = true := by
  intro t ht
  obtain ⟨e, he, hMiss⟩ := List.mem_filterMap.1 ht
  obtain ⟨w₀, db, hWritten, hEntry, -⟩ := h.entry hStart he
  obtain ⟨route, hReason⟩ := hWritten.justified
  obtain ⟨hNone, hTale⟩ := Option.ite_none_left_eq_some.1 hMiss
  rw [hEntry] at hNone
  by_contra hOther
  exact hNone (finds_of_justified hWritten.reached hStart hValid hReason hTale
    (by simpa using hOther))

end Misses

/-- A write with a tale has made a change or has missed it. -/
theorem count_changes (k : Tale) (log : List Executed) :
    (log.filterMap Executed.change).count k + (log.filterMap Executed.miss).count k =
      log.countP fun e => e.tale = some k := by
  induction log with
  | nil => rfl
  | cons e log ih =>
      rw [List.countP_cons, ← ih, List.filterMap_cons, List.filterMap_cons]
      unfold Executed.change Executed.miss
      cases hTale : e.tale with
      | none => simp
      | some t =>
          cases e.before.finds e.statement <;> simp [List.count_cons] <;> omega

/-- The rows that tell a tale, counted in the log. -/
theorem count_told (k : Tale) (log : List Executed) :
    (log.filterMap (·.statement.told)).count k =
      log.countP fun e => e.statement.told = some k := by
  rw [List.count_filterMap]
  congr 1
  funext e
  rw [beq_eq_decide]

end AgentShield.Auth
