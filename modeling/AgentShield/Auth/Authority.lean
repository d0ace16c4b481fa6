import AgentShield.Auth.Callers
import AgentShield.Auth.LogSteps
import AgentShield.Auth.SingleUse
import AgentShield.Lib.Grants

/-!
# Where authority comes from

Roles are given by owners, invites by owners, and API keys by administrators of an
organisation, and each acts on a role of its own.  So in every run every role, invite and key
ends a chain of such grants, and the chain starts with an owner whom the command line has
made for that organisation (`authority_rooted`).
-/

namespace AgentShield.Auth

open AgentShield.Lib AgentShield.Sdk AgentShield.Server

/-! ## Who makes the first user -/

/-- The one statement that makes a user, and with it a membership. -/
def Statement.isInsertUser : Statement → Bool
  | insertUser .. => true
  | _ => false

/-- The write makes a user whom nobody has invited. -/
def Founds (st : Statement) (reason : Reason) : Prop := st.isInsertUser = true ∧ reason = .plain

/-- The condition holds along the whole log. -/
theorem logSteps_log {C : Statement → Reason → Prop} {w w' : AuthWorld}
    (hSteps : Relation.ReflTransGen (LogStep C) w w') (h0 : ∀ e ∈ w.log, C e.statement e.reason) :
    ∀ e ∈ w'.log, C e.statement e.reason := by
  induction hSteps with
  | refl => exact h0
  | tail _ hStep ih =>
      intro e he
      rcases hStep with hSame | ⟨new, hLog, hNew⟩
      · rw [hSame] at he
        exact ih e he
      · rw [hLog] at he
        rcases List.mem_append.1 he with hOld | hLast
        · exact ih e hOld
        · obtain rfl := List.mem_singleton.1 hLast
          exact hNew

/-! ### The handlers -/

/-- The handler makes no user whom nobody has invited. -/
abbrev Invites {α : Type} (prog : AuthHandler α) : Prop :=
  Logs (fun st reason => ¬ Founds st reason) prog

section Handlers

variable {settings : AuthSettings}

/-- Only the INSERT of a user makes a user whom nobody has invited. -/
theorem not_founds {st : Statement} {reason : Reason} (h : st.isInsertUser = false) :
    ¬ Founds st reason := by
  rintro ⟨hInsert, -⟩
  rw [h] at hInsert
  cases hInsert

theorem insertAudit_invites (a : AuditEvent) (reason : Reason) :
    Invites (insertAudit settings a reason) :=
  executeNow_logs fun _ _ => not_founds rfl

theorem principalContext_invites (http : Http) : Invites (principalContext settings http) :=
  WritesOnly.logs (principalContext_writes (fun _ _ => not_founds rfl) (fun _ _ => not_founds rfl)
    http)

theorem requireRole_invites (roles : List Role) (http : Http) :
    Invites (requireRole settings roles http) := by
  unfold requireRole
  exact bind_logs (principalContext_invites http) fun caller => raiseIf_logs trivial

theorem issueSession_invites (user : User) (ip userAgent : Option String) (event : AuditEvent)
    (reason : Reason) : Invites (issueSession settings user ip userAgent event reason) :=
  WritesOnly.logs (issueSession_writes (fun _ => not_founds rfl) (fun _ => not_founds rfl)
    user ip userAgent event)

theorem issue_invites (kind : TokenKind) (userId : String) :
    Invites (issue settings kind userId) := by
  unfold issue
  refine read_logs fun _ => bind_logs (executeNow_logs fun _ _ => not_founds rfl) fun _ => ?_
  trivial

theorem consume_invites (kind : TokenKind) (raw : String) :
    Invites (consume settings kind raw) := by
  unfold consume
  refine fetch_logs fun found => read_logs fun now => ?_
  split
  · trivial
  · exact bind_logs (executeNow_logs fun _ _ => not_founds rfl) fun _ => trivial

theorem checkCode_invites (credential : TotpCredential) (code : String) :
    Invites (checkCode settings credential code) := by
  unfold checkCode
  exact require_logs fun _ => read_logs fun _ => trivial

theorem updatePasswordHash_invites (userId password : String) (reason : Reason) :
    Invites (updatePasswordHash settings userId password reason) := by
  unfold updatePasswordHash
  exact bind_logs (executeNow_logs fun _ _ => not_founds rfl) fun _ => trivial

theorem rotateToken_invites (sessionId : String) (reason : Reason) :
    Invites (rotateToken settings sessionId reason) := by
  unfold rotateToken
  exact bind_logs (executeNow_logs fun _ _ => not_founds rfl) fun _ => trivial

theorem ownSession_invites (http : Http) (caller : Caller) : Invites (ownSession http caller) := by
  unfold ownSession
  refine require_logs fun sessionId => fetch_logs fun found => require_logs fun row => ?_
  unfold requireCsrf
  exact raiseIf_logs trivial

theorem checkNewPassword_invites {α : Type} {password : String} {next : Unit → AuthHandler α}
    (h : Invites (next ())) : Invites (checkNewPassword password >>= next) :=
  raiseIf_logs h

/-- A sign-in makes no user: it writes the counter, the hash, the session and the audit trail.
-/
theorem signIn_invites (http : Http) (body : SignInRequest) :
    Invites (signIn settings http body) := by
  unfold signIn
  refine bind_logs (enforceOrBlock_logs _ _ _) fun _ => fetch_logs fun found => ?_
  cases found with
  | none => exact bind_logs (signInFail_logs fun _ => not_founds rfl) fun _ => trivial
  | some user =>
      refine bind_logs (checkAccount_logs fun _ => not_founds rfl) fun _ => ?_
      refine bind_logs (checkPassword_logs (fun _ => not_founds rfl) (fun _ => not_founds rfl)
        fun _ _ _ => not_founds rfl) fun _ => ?_
      refine bind_logs (checkTotp_logs fun _ => not_founds rfl) fun _ => ?_
      exact signedIn_logs (fun _ => not_founds rfl) (fun _ => not_founds rfl)
        (fun _ _ _ => not_founds rfl) fun _ => not_founds rfl

theorem passwordReset_invites (http : Http) (email : String) (body : PasswordResetComplete) :
    Invites (passwordResetRequest settings http email) ∧
      Invites (passwordResetComplete settings body) := by
  constructor
  · unfold passwordResetRequest
    refine bind_logs (enforceOrBlock_logs _ _ _) fun _ => fetch_logs fun found => ?_
    cases found with
    | none => trivial
    | some user =>
        refine bind_logs (issue_invites _ _) fun raw => sendMail_logs _ _ ?_
        exact bind_logs (insertAudit_invites _ _) fun _ => trivial
  · unfold passwordResetComplete
    refine checkNewPassword_invites (bind_logs (consume_invites _ _) fun consumed => ?_)
    refine require_logs fun token => bind_logs (updatePasswordHash_invites _ _ _) fun _ => ?_
    refine bind_logs (executeNow_logs fun _ _ => not_founds rfl) fun _ => ?_
    exact bind_logs (insertAudit_invites _ _) fun _ => trivial

/-- A change of password makes no user. -/
theorem passwordChange_invites (http : Http) (body : PasswordChangeRequest) :
    Invites (passwordChange settings http body) := by
  unfold passwordChange
  refine bind_logs (principalContext_invites _) fun caller => checkNewPassword_invites ?_
  refine bind_logs (ownSession_invites _ _) fun sessionId => fetch_logs fun found => ?_
  refine require_logs fun user => raiseIf_logs (bind_logs (updatePasswordHash_invites _ _ _) ?_)
  refine fun _ => bind_logs (rotateToken_invites _ _) fun _ => ?_
  exact bind_logs (insertAudit_invites _ _) fun _ => trivial

/-- The routes of the caller's own session and address, taken together: they write sessions,
tokens and rows of the audit trail. -/
theorem session_invites (http : Http) (token : String) :
    Invites (signOut settings http) ∧ Invites (getSession settings http) ∧
      Invites (sessionRefresh settings http) ∧ Invites (emailVerifyRequest settings http) ∧
      Invites (emailVerifyComplete settings token) := by
  refine ⟨?_, ?_, ?_, ?_, ?_⟩
  · unfold signOut
    refine bind_logs (principalContext_invites _) fun caller => bind_logs ?_ fun _ => trivial
    unfold revokeOwn
    split
    · trivial
    · refine bind_logs (executeNow_logs fun _ _ => not_founds rfl) fun _ => ?_
      exact bind_logs (insertAudit_invites _ _) fun _ => trivial
  · unfold getSession
    refine bind_logs (principalContext_invites _) fun caller => ?_
    split
    · trivial
    · exact fetch_logs fun _ => trivial
  · unfold sessionRefresh
    refine bind_logs (principalContext_invites _) fun caller => ?_
    refine bind_logs (ownSession_invites _ _) fun sessionId => ?_
    refine bind_logs (rotateToken_invites _ _) fun issued => ?_
    exact bind_logs (insertAudit_invites _ _) fun _ => trivial
  · unfold emailVerifyRequest requireSession
    refine bind_logs (principalContext_invites _) fun caller => raiseIf_logs ?_
    refine bind_logs (issue_invites _ _) fun raw => sendMail_logs _ _ ?_
    exact bind_logs (insertAudit_invites _ _) fun _ => trivial
  · unfold emailVerifyComplete
    refine bind_logs (consume_invites _ _) fun consumed => require_logs fun row => ?_
    refine bind_logs (executeNow_logs fun _ _ => not_founds rfl) fun _ => ?_
    exact bind_logs (insertAudit_invites _ _) fun _ => trivial

/-- The routes of the second factor, taken together: they write credentials, codes and rows of
the audit trail. -/
theorem totp_invites (http : Http) (code : String) (disable : TotpDisableRequest)
    (recovery : TotpRecoveryRequest) :
    Invites (totpSetup settings http) ∧ Invites (totpConfirm settings http code) ∧
      Invites (totpDisable settings http disable) ∧
      Invites (totpRecovery settings http recovery) := by
  refine ⟨?_, ?_, ?_, ?_⟩
  · unfold totpSetup requireSession
    refine bind_logs (principalContext_invites _) fun caller => raiseIf_logs ?_
    refine bind_logs (executeNow_logs fun _ _ => not_founds rfl) fun _ => ?_
    exact bind_logs (insertAudit_invites _ _) fun _ => trivial
  · unfold totpConfirm requireSession
    refine bind_logs (principalContext_invites _) fun caller => raiseIf_logs ?_
    refine fetch_logs fun found => require_logs fun credential => ?_
    refine bind_logs (checkCode_invites _ _) fun ok => raiseIf_logs ?_
    refine bind_logs (executeNow_logs fun _ _ => not_founds rfl) fun _ => ?_
    refine bind_logs (executeNow_logs fun _ _ => not_founds rfl) fun _ => ?_
    exact bind_logs (insertAudit_invites _ _) fun _ => trivial
  · unfold totpDisable requireSession
    refine bind_logs (principalContext_invites _) fun caller => raiseIf_logs ?_
    refine fetch_logs fun found => require_logs fun user => raiseIf_logs ?_
    refine fetch_logs fun credential => bind_logs ?_ fun _ => ?_
    · cases credential with
      | none => trivial
      | some credential => exact bind_logs (checkCode_invites _ _) fun ok => raiseIf_end_logs
    · refine bind_logs (execute_logs fun _ => not_founds rfl) fun _ => ?_
      refine bind_logs (executeNow_logs fun _ _ => not_founds rfl) fun _ => ?_
      exact bind_logs (insertAudit_invites _ _) fun _ => trivial
  · unfold totpRecovery
    refine fetch_logs fun found => require_logs fun user => fetch_logs fun credential => ?_
    refine require_logs fun tc => raiseIf_logs ?_
    refine bind_logs (executeNow_logs fun _ _ => not_founds rfl) fun _ => ?_
    exact issueSession_invites _ _ _ _ _

/-- The routes of administrators. -/
theorem admin_invites (http : Http) (target : String) (role : Role) (invite : AdminInviteRequest) :
    Invites (adminListUsers settings http) ∧ Invites (adminListSessions settings http target) ∧
      Invites (adminRevokeSession settings http target) ∧
      Invites (adminChangeRole settings http target role) ∧
      Invites (adminInvite settings http invite) := by
  refine ⟨?_, ?_, ?_, ?_, ?_⟩
  · have hRoles : ∀ orgId users, Invites (withRoles orgId users) := by
      intro orgId users
      induction users with
      | nil => trivial
      | cons u rest ih => exact fetch_logs fun first => bind_logs ih fun others => trivial
    unfold adminListUsers
    refine bind_logs (requireRole_invites _ _) fun caller => fetch_logs fun rows => ?_
    exact bind_logs (hRoles _ _) fun _ => trivial
  · unfold adminListSessions
    exact bind_logs (requireRole_invites _ _) fun _ => fetch_logs fun _ => trivial
  · unfold adminRevokeSession
    refine bind_logs (requireRole_invites _ _) fun caller => ?_
    refine bind_logs (executeNow_logs fun _ _ => not_founds rfl) fun _ => ?_
    exact bind_logs (insertAudit_invites _ _) fun _ => trivial
  · unfold adminChangeRole
    refine bind_logs (requireRole_invites _ _) fun caller => ?_
    refine bind_logs (execute_logs fun _ => not_founds rfl) fun _ => ?_
    exact bind_logs (insertAudit_invites _ _) fun _ => trivial
  · unfold adminInvite
    refine bind_logs (requireRole_invites _ _) fun caller => read_logs fun expiresFrom => ?_
    refine bind_logs (executeNow_logs fun _ _ => not_founds rfl) fun n => sendMail_logs _ _ ?_
    exact bind_logs (insertAudit_invites _ _) fun _ => trivial

/-- The user that an invitee becomes has been invited: the INSERT has the invite for its
reason. -/
theorem acceptInvite_invites (http : Http) (body : AcceptInviteRequest) :
    Invites (acceptInvite settings http body) := by
  have hFail : ∀ {α : Type} ip userAgent inviteId text,
      Invites (inviteFail settings ip userAgent inviteId text : AuthHandler α) := by
    intro α ip userAgent inviteId text
    unfold inviteFail
    exact bind_logs (insertAudit_invites _ _) fun _ => trivial
  have hAdmit : ∀ invite, ∀ st, ¬ Founds st (.acceptInvite invite) := by
    rintro invite st ⟨-, hReason⟩
    cases hReason
  unfold acceptInvite
  refine checkNewPassword_invites (bind_logs (enforceOrBlock_logs _ _ _) fun _ => ?_)
  refine fetch_logs fun found => ?_
  cases found with
  | none => exact hFail _ _ _ _
  | some invite =>
      refine bind_logs ?_ fun _ => fetch_logs fun existing => ?_
      · unfold checkInvite
        split
        · exact hFail _ _ _ _
        · refine read_logs fun now => ?_
          split
          · exact hFail _ _ _ _
          · trivial
      · cases existing with
        | some user => exact hFail _ _ _ _
        | none =>
            simp only [admitInvitee, createUser, createSession, setEmailVerified]
            refine bind_logs (bind_logs (executeNow_logs fun _ _ => hAdmit _ _) fun _ => ?_) ?_
            · exact fetch_logs fun user => by cases user <;> trivial
            · refine fun user => bind_logs (executeNow_logs fun _ _ => not_founds rfl) fun _ => ?_
              refine bind_logs (executeNow_logs fun _ _ => not_founds rfl) fun _ => ?_
              refine bind_logs (insertAudit_invites _ _) fun _ => bind_logs ?_ fun _ => trivial
              exact bind_logs (executeNow_logs fun _ _ => not_founds rfl) fun _ => trivial

/-- The routes of the API keys. -/
theorem apiKey_invites (http : Http) (body : IssueApiKeyRequest) (apiKeyId : String) :
    Invites (issueApiKey settings http body) ∧ Invites (listApiKeys settings http) ∧
      Invites (revokeApiKey settings http apiKeyId) := by
  refine ⟨?_, ?_, ?_⟩
  · unfold issueApiKey
    refine bind_logs (requireRole_invites _ _) fun caller => bind_logs ?_ fun _ => ?_
    · unfold assertApiKeyAgentScope
      split
      · trivial
      · exact read_logs fun orgAgents => raiseIf_end_logs
    · refine read_logs fun now => bind_logs ?_ fun issued => ?_
      · unfold issueKey
        refine raiseIf_logs (read_logs fun now => ?_)
        exact bind_logs (execute_logs fun _ => not_founds rfl) fun _ => trivial
      · exact bind_logs (insertAudit_invites _ _) fun _ => trivial
  · unfold listApiKeys
    exact bind_logs (requireRole_invites _ _) fun _ => fetch_logs fun _ => trivial
  · unfold revokeApiKey
    refine bind_logs (requireRole_invites _ _) fun caller => fetch_logs fun rows => ?_
    refine raiseIf_logs (bind_logs (executeNow_logs fun _ _ => not_founds rfl) fun _ => ?_)
    exact bind_logs (insertAudit_invites _ _) fun _ => trivial

end Handlers

/-- A user whom nobody has invited is the owner that the command line makes. -/
def Seeds (r : Request) (st : Statement) (reason : Reason) : Prop :=
  Founds st reason → ∃ args, r = .seedAdmin args ∧
    ∀ u m, st = .insertUser u m → m.orgId = args.org ∧ m.role = .orgOwner

/-- Of all requests only the command line makes a user whom nobody has invited, and it makes
an owner. A sign-up gets through in no mode. -/
theorem handle_seeds (settings : AuthSettings) (r : Request) :
    Logs (Seeds r) (handle settings r) := by
  have hOther : ∀ {prog : AuthHandler Response}, Invites prog → Logs (Seeds r) prog := by
    intro prog h
    refine Async.Steps.guarantee h fun w w' hStep => ?_
    rcases hStep with hSame | ⟨e, hLog, hNot⟩
    · exact .inl hSame
    · exact .inr ⟨e, hLog, fun hFounds => absurd hFounds hNot⟩
  unfold handle
  refine Async.Steps.raiseIf_bind fun hMounted => ?_
  cases r with
  | signUp http body =>
      refine raiseIf_logs (Async.Steps.raiseIf_bind fun hMode => ?_)
      refine absurd ⟨hMode, ?_, ?_⟩ hMounted
      · exact fun h => by cases h
      · exact fun h => by cases h
  | seedAdmin args =>
      show Logs _ (seedAdmin settings args)
      unfold seedAdmin createUser
      refine raiseIf_logs (bind_logs (execute_logs fun _ h => ?_) fun _ => ?_)
      · exact absurd h (not_founds rfl)
      · refine fetch_logs fun existing => ?_
        cases existing with
        | some user => trivial
        | none =>
            refine bind_logs (bind_logs (executeNow_logs fun _ _ _ => ?_) fun _ => ?_) fun _ => ?_
            · refine ⟨args, rfl, fun u m h => ?_⟩
              cases h
              exact ⟨rfl, rfl⟩
            · exact fetch_logs fun user => by cases user <;> trivial
            · trivial
  | signIn http body => exact hOther (signIn_invites _ _)
  | signOut http => exact hOther (session_invites _ "").1
  | getSession http => exact hOther (session_invites _ "").2.1
  | sessionRefresh http => exact hOther (session_invites _ "").2.2.1
  | passwordResetRequest http email => exact hOther (passwordReset_invites _ _ ⟨"", ""⟩).1
  | passwordResetComplete body => exact hOther (passwordReset_invites {} "" _).2
  | passwordChange http body => exact hOther (passwordChange_invites _ _)
  | emailVerifyRequest http => exact hOther (session_invites _ "").2.2.2.1
  | emailVerifyComplete token => exact hOther (session_invites {} token).2.2.2.2
  | totpSetup http => exact hOther (totp_invites _ "" ⟨"", ""⟩ ⟨"", ""⟩).1
  | totpConfirm http code => exact hOther (totp_invites _ code ⟨"", ""⟩ ⟨"", ""⟩).2.1
  | totpDisable http body => exact hOther (totp_invites _ "" body ⟨"", ""⟩).2.2.1
  | totpRecovery http body => exact hOther (totp_invites _ "" ⟨"", ""⟩ body).2.2.2
  | adminListUsers http => exact hOther (admin_invites _ "" .orgOwner ⟨"", .orgOwner⟩).1
  | adminListSessions http userId =>
      exact hOther (admin_invites _ userId .orgOwner ⟨"", .orgOwner⟩).2.1
  | adminRevokeSession http sessionId =>
      exact hOther (admin_invites _ sessionId .orgOwner ⟨"", .orgOwner⟩).2.2.1
  | adminChangeRole http userId role =>
      exact hOther (admin_invites _ userId role ⟨"", .orgOwner⟩).2.2.2.1
  | adminInvite http body => exact hOther (admin_invites _ "" .orgOwner body).2.2.2.2
  | acceptInvite http body => exact hOther (acceptInvite_invites _ _)
  | issueApiKey http body => exact hOther (apiKey_invites _ body "").1
  | listApiKeys http => exact hOther (apiKey_invites _ {} "").2.1
  | revokeApiKey http apiKeyId => exact hOther (apiKey_invites _ {} apiKeyId).2.2
  | otherRouter http =>
      exact hOther (bind_logs (bind_logs (principalContext_invites _) fun _ => trivial)
        fun _ => trivial)

/-! ## What a write does to the authorities -/

namespace Statement

variable (st : Statement)

/-- A write changes a membership by setting its role. -/
theorem setMembership_cases (m : Membership) :
    st.setMembership m = m ∨
      ∃ role, st = .setRole role m.userId m.orgId ∧
        st.setMembership m = { m with role := role } := by
  cases st with
  | setRole role userId orgId =>
      by_cases hRow : m.userId = userId ∧ m.orgId = orgId
      · refine .inr ⟨role, by rw [hRow.1, hRow.2], ?_⟩
        exact if_pos hRow
      · exact .inl (if_neg hRow)
  | _ => exact .inl rfl

/-- No UPDATE moves an invite to another organisation. -/
theorem setInvite_orgId (i : Invite) : (st.setInvite i).orgId = i.orgId := by
  cases st <;> simp only [setInvite]
  split <;> rfl

theorem setInvite_role (i : Invite) : (st.setInvite i).role = i.role := by
  cases st <;> simp only [setInvite]
  split <;> rfl

/-- No UPDATE moves a key to another organisation. -/
theorem setApiKey_orgId (k : ApiKey) : (st.setApiKey k).orgId = k.orgId := by
  cases st <;> simp only [setApiKey] <;> split <;> rfl

variable {st}

/-- A membership comes with the INSERT of its user. -/
theorem addMembership_eq {m : Membership} (h : m ∈ st.addMembership) :
    ∃ u, st = .insertUser u m := by
  cases st <;> simp only [addMembership, List.mem_singleton, List.not_mem_nil] at h
  exact ⟨_, by rw [h]⟩

theorem addInvite_eq {i : Invite} (h : i ∈ st.addInvite) : st = .insertInvite i := by
  cases st <;> simp only [addInvite, List.mem_singleton, List.not_mem_nil] at h
  rw [h]

theorem addApiKey_eq {k : ApiKey} (h : k ∈ st.addApiKey) : st = .insertApiKey k := by
  cases st <;> simp only [addApiKey, List.mem_singleton, List.not_mem_nil] at h
  rw [h]

end Statement

/-! ## Chains of authority -/

/-- What may be acted on: a role in an organisation, an invite to one, a key of one. -/
inductive Authority where
  | role (userId orgId : String) (role : Role)
  | invite (inviteId orgId email : String) (role : Role)
  | key (apiKeyId orgId : String)

/-- The organisation that an authority is for. -/
def Authority.orgId : Authority → String
  | role _ orgId _ => orgId
  | invite _ orgId _ _ => orgId
  | key _ orgId => orgId

/-- The tables hold the authority. -/
def AuthDb.Holds (db : AuthDb) : Authority → Prop
  | .role userId orgId role =>
      ∃ m ∈ db.memberships, m.userId = userId ∧ m.orgId = orgId ∧ m.role = role
  | .invite inviteId orgId email role => ∃ i ∈ db.invites,
      i.inviteId = inviteId ∧ i.orgId = orgId ∧ i.email = email ∧ i.role = role
  | .key apiKeyId orgId => ∃ k ∈ db.apiKeys, k.apiKeyId = apiKeyId ∧ k.orgId = orgId

/-- A write that gives an authority on the strength of another one: an owner's role stands
behind the roles and the invites of the organisation, an invite behind the role of the user it
makes, and an administrator's role behind a key. -/
inductive Gives (e : Executed) : Authority → Authority → Prop
  | role {caller userId orgId role} (hWrite : e.statement = .setRole role userId orgId)
      (hBy : e.reason = .caller caller) :
      Gives e (.role caller.principal.userId orgId .orgOwner) (.role userId orgId role)
  | invite {caller row} (hWrite : e.statement = .insertInvite row)
      (hBy : e.reason = .caller caller) :
      Gives e (.role caller.principal.userId row.orgId .orgOwner)
        (.invite row.inviteId row.orgId row.email row.role)
  | accept {invite u m} (hWrite : e.statement = .insertUser u m)
      (hBy : e.reason = .acceptInvite invite) :
      Gives e (.invite invite.inviteId m.orgId u.email m.role) (.role m.userId m.orgId m.role)
  | key {caller row role} (hWrite : e.statement = .insertApiKey row)
      (hBy : e.reason = .caller caller) (hRole : role ∈ adminRoles) :
      Gives e (.role caller.principal.userId row.orgId role) (.key row.apiKeyId row.orgId)

/-- The first user of an organisation has a role that nobody has given, and every other
authority is given. -/
def authorities : Grants Executed Authority where
  Root e a := ∃ u m, e.statement = .insertUser u m ∧ e.reason = .plain ∧
    a = .role m.userId m.orgId m.role
  Pass := Gives

/-- Every authority in the tables has been granted. -/
def Held (log : List Executed) (db : AuthDb) : Prop := ∀ a, db.Holds a → Granted authorities log a

section Chains

variable {settings : AuthSettings} {w : AuthWorld} {log : List Executed}

/-- Authority is handed on within its organisation. -/
theorem Gives.orgId {e : Executed} {a a' : Authority} (h : Gives e a a') : a'.orgId = a.orgId := by
  cases h <;> rfl

/-- A caller with a role of administrators holds it in its organisation, by a membership that
the resolution has seen; a key has another role. -/
theorem Caller.Seen.holds {caller : Caller} {roles : List Role}
    (hMode : settings.mode = .enterprise) (hSeen : caller.Seen settings w)
    (hRole : caller.principal.hasRole roles = true)
    (hSession : .integrationEngineer ∉ roles) :
    ∃ role ∈ roles, w.Saw fun db =>
      db.Holds (.role caller.principal.userId caller.principal.orgId role) := by
  cases caller with
  | openMode =>
      have hOpen : settings.mode = .openMode := hSeen
      rw [hMode] at hOpen
      cases hOpen
  | apiToken =>
      have hToken : settings.mode = .apiTokenOnly := hSeen
      rw [hMode] at hToken
      cases hToken
  | session row user membership =>
      obtain ⟨-, -, -, -, -, db, hDb, hPrimary⟩ := hSeen
      obtain ⟨hMember, hUser⟩ := primaryMembership_mem hPrimary
      have hIn : membership.role ∈ roles := by
        simpa [Principal.hasRole, Caller.principal] using hRole
      exact ⟨membership.role, hIn, db, hDb, membership, hMember, hUser, rfl, rfl⟩
  | apiKey key =>
      have hIn : Role.integrationEngineer ∈ roles := by
        simpa [Principal.hasRole, Caller.principal] using hRole
      exact absurd hIn hSession

/-- The log of a write, and what it grants. -/
theorem granted_write {st : Statement} {reason : Reason} {a a' : Authority}
    (hFrom : Granted authorities w.log a) (h : Gives (w.entry st reason) a a') :
    Granted authorities (w.wrote st reason (w.db.apply st)).log a' :=
  .pass hFrom h

/-- What was held at some time has been granted by now. -/
theorem granted_of_saw {a : Authority} (hHeld : ∀ db ∈ w.snapshots, Held w.log db)
    (h : w.Saw fun db => db.Holds a) : Granted authorities w.log a := by
  obtain ⟨db, hDb, hHolds⟩ := h
  exact hHeld db hDb a hHolds

/-- A caller who acts as an owner has been granted that role. -/
theorem Reached.granted_owner (hMode : settings.mode = .enterprise) {caller : Caller}
    (hHeld : ∀ db ∈ w.snapshots, Held w.log db) (hSeen : caller.Seen settings w)
    (hRole : caller.principal.hasRole [.orgOwner] = true) :
    Granted authorities w.log
      (.role caller.principal.userId caller.principal.orgId .orgOwner) := by
  obtain ⟨role, hIn, hSaw⟩ := hSeen.holds hMode hRole (by decide)
  obtain rfl := List.mem_singleton.1 hIn
  exact granted_of_saw hHeld hSaw

/-- Only an owner sets roles, and only in its organisation. -/
theorem Justified.setRole {route : Route} {role : Role} {userId orgId : String} {reason : Reason}
    (h : Justified settings route w (.setRole role userId orgId) reason) :
    ∃ caller, reason = .caller caller ∧ orgId = caller.principal.orgId ∧
      caller.Seen settings w ∧ caller.principal.hasRole [.orgOwner] = true := by
  cases h with
  | roleChanged hSeen hRole => exact ⟨_, rfl, rfl, hSeen, hRole⟩

/-- **Every write** of a role is made on the strength of an authority, or makes the first
user. -/
theorem role_write (hMode : settings.mode = .enterprise) {route : Route} {st : Statement}
    {reason : Reason} (hReason : Justified settings route w st reason)
    (hHeld : ∀ db ∈ w.snapshots, Held w.log db) {m : Membership}
    (hm : m ∈ (w.db.apply st).memberships) :
    Granted authorities (w.wrote st reason (w.db.apply st)).log
      (.role m.userId m.orgId m.role) := by
  have hNow : Held w.log w.db := hHeld w.db (by simp [AuthWorld.snapshots])
  have hOld : ∀ m ∈ w.db.memberships, Granted authorities (w.wrote st reason (w.db.apply st)).log
      (.role m.userId m.orgId m.role) := by
    intro m hm
    exact .later (hNow (.role m.userId m.orgId m.role) ⟨m, hm, rfl, rfl, rfl⟩)
  rcases List.mem_append.1 hm with hSet | hAdd
  · obtain ⟨m₀, hm₀, rfl⟩ := List.mem_map.1 hSet
    rcases st.setMembership_cases m₀ with hSame | ⟨role, rfl, hRole⟩
    · rw [hSame]
      exact hOld m₀ hm₀
    · rw [hRole]
      obtain ⟨caller, rfl, hOrg, hSeen, hOwner⟩ := hReason.setRole
      have hFrom := Reached.granted_owner hMode hHeld hSeen hOwner
      rw [← hOrg] at hFrom
      exact granted_write hFrom (.role rfl rfl)
  · obtain ⟨u, rfl⟩ := Statement.addMembership_eq hAdd
    cases hReason with
    | user => exact .root ⟨u, m, rfl, rfl, rfl⟩
    | invitee hInvited hEmail hOrg hRole =>
        rename_i invite
        have hInvite : Granted authorities w.log
            (.invite invite.inviteId m.orgId u.email m.role) := by
          refine granted_of_saw hHeld ?_
          obtain ⟨db, hDb, hIn⟩ := hInvited.seen
          exact ⟨db, hDb, invite, hIn, rfl, hOrg.symm, hEmail.symm, hRole.symm⟩
        exact granted_write hInvite (.accept rfl rfl)

/-- **Every write** of an invite is made by an owner. -/
theorem invite_write (hMode : settings.mode = .enterprise) {route : Route} {st : Statement}
    {reason : Reason} (hReason : Justified settings route w st reason)
    (hHeld : ∀ db ∈ w.snapshots, Held w.log db) {i : Invite}
    (hi : i ∈ (w.db.apply st).invites) :
    Granted authorities (w.wrote st reason (w.db.apply st)).log
      (.invite i.inviteId i.orgId i.email i.role) := by
  have hNow : Held w.log w.db := hHeld w.db (by simp [AuthWorld.snapshots])
  rcases List.mem_append.1 hi with hSet | hAdd
  · obtain ⟨i₀, hi₀, rfl⟩ := List.mem_map.1 hSet
    rw [st.setInvite_inviteId, st.setInvite_orgId, st.setInvite_email, st.setInvite_role]
    exact .later (hNow (.invite i₀.inviteId i₀.orgId i₀.email i₀.role)
      ⟨i₀, hi₀, rfl, rfl, rfl, rfl⟩)
  · obtain rfl := Statement.addInvite_eq hAdd
    cases hReason with
    | invited hSeen hOwner hOrg =>
        have hFrom := Reached.granted_owner hMode hHeld hSeen hOwner
        rw [← hOrg] at hFrom
        exact granted_write hFrom (.invite rfl rfl)

/-- **Every write** of an API key is made by an administrator. -/
theorem key_write (hMode : settings.mode = .enterprise) {route : Route} {st : Statement}
    {reason : Reason} (hReason : Justified settings route w st reason)
    (hHeld : ∀ db ∈ w.snapshots, Held w.log db) {k : ApiKey}
    (hk : k ∈ (w.db.apply st).apiKeys) :
    Granted authorities (w.wrote st reason (w.db.apply st)).log (.key k.apiKeyId k.orgId) := by
  have hNow : Held w.log w.db := hHeld w.db (by simp [AuthWorld.snapshots])
  rcases List.mem_append.1 hk with hSet | hAdd
  · obtain ⟨k₀, hk₀, rfl⟩ := List.mem_map.1 hSet
    rw [st.setApiKey_apiKeyId, st.setApiKey_orgId]
    exact .later (hNow (.key k₀.apiKeyId k₀.orgId) ⟨k₀, hk₀, rfl, rfl⟩)
  · obtain rfl := Statement.addApiKey_eq hAdd
    cases hReason with
    | keyIssued hSeen hAdmin hOrg =>
        obtain ⟨role, hIn, hSaw⟩ := hSeen.holds hMode hAdmin (by decide)
        have hFrom := granted_of_saw hHeld hSaw
        rw [← hOrg] at hFrom
        exact granted_write hFrom (.key rfl rfl hIn)

/-- **Every authority** in the tables has been granted, whatever is written. -/
theorem held_write (hMode : settings.mode = .enterprise) {route : Route} {st : Statement}
    {reason : Reason} (hReason : Justified settings route w st reason)
    (hHeld : ∀ db ∈ w.snapshots, Held w.log db) :
    Held (w.wrote st reason (w.db.apply st)).log (w.db.apply st) := by
  intro a hHolds
  cases a with
  | role userId orgId role =>
      obtain ⟨m, hm, rfl, rfl, rfl⟩ := hHolds
      exact role_write hMode hReason hHeld hm
  | invite inviteId orgId email role =>
      obtain ⟨i, hi, rfl, rfl, rfl, rfl⟩ := hHolds
      exact invite_write hMode hReason hHeld hi
  | key apiKeyId orgId =>
      obtain ⟨k, hk, rfl, rfl⟩ := hHolds
      exact key_write hMode hReason hHeld hk

/-- **In every run** every authority that was ever in the tables has been granted. -/
theorem Reached.held {s : AuthWorld} (hMode : settings.mode = .enterprise)
    (h : Reached settings s w) (hStart : ∀ db ∈ s.snapshots, Held s.log db) :
    ∀ db ∈ w.snapshots, Held w.log db := by
  refine h.invariant (I := fun w => ∀ db ∈ w.snapshots, Held w.log db) hStart ?_ ?_
  · intro w w' hDb hLog _ _ hOld db hSnapshot
    unfold AuthWorld.snapshots at hSnapshot
    rw [hDb, hLog] at hSnapshot
    rw [hLog]
    exact hOld db hSnapshot
  · intro w st reason db hWritten hOld db' hSnapshot
    obtain ⟨-, rfl⟩ := AuthDb.execute_ok hWritten.run
    obtain ⟨route, hReason⟩ := hWritten.justified
    rcases List.mem_append.1 hSnapshot with hPast | hNew
    · have hBefore : db' ∈ w.snapshots := by
        simpa [AuthWorld.snapshots, AuthWorld.wrote, AuthWorld.entry] using hPast
      intro a hHolds
      exact .later (hOld db' hBefore a hHolds)
    · obtain rfl := List.mem_singleton.1 hNew
      exact held_write hMode hReason hOld

end Chains

/-! ## Whole runs -/

/-- **The first user** of an organisation is made by the command line, as its owner: no route
makes a user without an invite, in enterprise mode. -/
theorem founded_by (settings : AuthSettings) (server : World) (db : AuthDb)
    (events : List (Event (authService settings))) :
    ∀ e ∈ (authRun settings server db events).state.log, Founds e.statement e.reason →
      ∃ args, .request (Request.seedAdmin args) ∈ events ∧
        ∀ u m, e.statement = .insertUser u m → m.orgId = args.org ∧ m.role = .orgOwner := by
  let C : Statement → Reason → Prop := fun st reason => Founds st reason →
    ∃ args, .request (Request.seedAdmin args) ∈ events ∧
      ∀ u m, st = .insertUser u m → m.orgId = args.org ∧ m.role = .orgOwner
  have hReqs : ∀ r : Request, .request r ∈ events → Logs C (handle settings r) := by
    intro r hr
    refine Async.Steps.guarantee (handle_seeds settings r) fun w w' hStep => ?_
    rcases hStep with hSame | ⟨e, hLog, hSeeds⟩
    · exact .inl hSame
    · refine .inr ⟨e, hLog, fun hFounds => ?_⟩
      obtain ⟨args, rfl, hOwner⟩ := hSeeds hFounds
      exact ⟨args, hr, hOwner⟩
  have hExternal : ∀ (x : Outside) (w : AuthWorld), True → LogStep C w (outside x w) := by
    intro x w _
    cases x <;> exact .inl rfl
  let p : Pool (authService settings) := Pool.start (.initial server db)
  have hThreads : ∀ t ∈ p.threads, Logs C t.2 := by simp [p, Pool.start]
  have hSteps := (Pool.run_steps (p := p) logStep_rest hExternal (fun _ _ _ _ => trivial) events
    hReqs hThreads trivial).1
  refine logSteps_log hSteps ?_
  simp [p, Pool.start, AuthWorld.initial]

/-- **Authority is rooted.**  In every run from tables without members, each role, invite and
key ends a chain of grants in the log: owners give roles and invites, administrators give
keys, and an invite gives its role.  A chain starts with a user whom the command line has
made an owner, and stays in the organisation of that user. -/
theorem authority_rooted (settings : AuthSettings) (hMode : settings.mode = .enterprise)
    (server : World) (db : AuthDb) (hEmpty : ∀ a, ¬ db.Holds a)
    (events : List (Event (authService settings))) :
    let w := (authRun settings server db events).state
    (∀ a, w.db.Holds a → Granted authorities w.log a ∧
      ∃ args, .request (Request.seedAdmin args) ∈ events ∧ args.org = a.orgId) ∧
    ∀ e ∈ w.log, ∀ a, authorities.Root e a → ∃ args userId,
      .request (Request.seedAdmin args) ∈ events ∧ a = .role userId args.org .orgOwner := by
  intro w
  have hHeld : ∀ db ∈ w.snapshots, Held w.log db := by
    refine Reached.held hMode (authRun_reached settings server db events) ?_
    intro db' hSnapshot a hHolds
    obtain rfl : db' = db := by simpa [AuthWorld.snapshots, AuthWorld.initial] using hSnapshot
    exact absurd hHolds (hEmpty a)
  have hRoots : ∀ e ∈ w.log, ∀ a, authorities.Root e a → ∃ args userId,
      .request (Request.seedAdmin args) ∈ events ∧ a = .role userId args.org .orgOwner := by
    intro e he a hRoot
    obtain ⟨u, m, hInsert, hPlain, rfl⟩ := hRoot
    have hFounds : Founds e.statement e.reason := by
      rw [hInsert, hPlain]
      exact ⟨rfl, rfl⟩
    obtain ⟨args, hArgs, hOwner⟩ := founded_by settings server db events e he hFounds
    obtain ⟨hOrg, hRole⟩ := hOwner u m hInsert
    exact ⟨args, m.userId, hArgs, by rw [hOrg, hRole]⟩
  refine ⟨fun a hHolds => ?_, hRoots⟩
  have hGranted := hHeld w.db (by simp [AuthWorld.snapshots]) a hHolds
  refine ⟨hGranted, ?_⟩
  obtain ⟨e, he, a₀, hRoot, hOrg⟩ :=
    hGranted.rooted (f := Authority.orgId) fun _ _ _ _ hGives => hGives.orgId
  obtain ⟨args, userId, hArgs, rfl⟩ := hRoots e he a₀ hRoot
  exact ⟨args, hArgs, hOrg⟩

namespace Sample

/-- The owner of an organisation is made, signs in and invites a guest, who accepts. -/
def guestJoins : List (Event (authService authSettings)) :=
  .request (Request.seedAdmin { email := "owner", org := "acme", password := "password" }) ::
    steps 0 6 ++
  .request (Request.signIn {} { email := "owner", password := "password" }) :: steps 1 14 ++
  .request (Request.adminInvite { cookies := [("shield_session", authPrim.token 48)] }
    { email := "guest", role := .securityAdmin }) :: steps 2 12 ++
  .request (Request.acceptInvite {} { token := authPrim.token 96, password := "password" }) ::
    steps 3 22

end Sample

theorem authority_rooted_sample :
    ∃ userId, Granted authorities
      (authRun Sample.authSettings Sample.authServer {} Sample.guestJoins).state.log
      (.role userId "acme" .securityAdmin) := by
  have hRooted := authority_rooted Sample.authSettings rfl Sample.authServer {}
    (by rintro (_ | _ | _) ⟨x, hx, -⟩ <;> cases hx) Sample.guestJoins
  have hJoined : ∃ m ∈ (authRun Sample.authSettings Sample.authServer {}
      Sample.guestJoins).state.db.memberships, m.orgId = "acme" ∧ m.role = .securityAdmin := by
    decide +kernel
  obtain ⟨m, hm, hOrg, hRole⟩ := hJoined
  exact ⟨m.userId, (hRooted.1 (.role m.userId "acme" .securityAdmin) ⟨m, hm, rfl, hOrg, hRole⟩).1⟩

end AgentShield.Auth
