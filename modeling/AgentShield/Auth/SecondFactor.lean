import AgentShield.Auth.Callers
import AgentShield.Auth.KeyScope

/-!
# The second factor of an administrator

`require2faIfAdmin` is the dependency that would refuse an administrator without a second
factor, and no route asks for it.  So every administrator with a session performs admin
operations (`second_factor_iff`), and only the writes that make an administrator can keep
one without a second factor from existing.
-/

namespace AgentShield.Auth

open AgentShield.Lib AgentShield.Sdk AgentShield.Server

/-! ## Requests of administrators -/

/-- The request and the roles that its route asks for, where that is a role of an
administrator. -/
def Request.admin? : Request → Option (Http × List Role)
  | adminListUsers http => some (http, adminRoles)
  | adminListSessions http _ => some (http, adminRoles)
  | adminRevokeSession http _ => some (http, adminRoles)
  | adminChangeRole http _ _ => some (http, [.orgOwner])
  | adminInvite http _ => some (http, [.orgOwner])
  | issueApiKey http _ => some (http, adminRoles)
  | listApiKeys http => some (http, adminRoles)
  | revokeApiKey http _ => some (http, adminRoles)
  | _ => none

section Requests

variable {settings : AuthSettings} {w : AuthWorld} {http : Http}

theorem run_handle {req : Request} (hMode : settings.mode = .enterprise) :
    Async.run (handle settings req) w = Async.run (dispatch settings req) w := by
  unfold handle
  rw [Async.run_raiseIf_bind, if_neg (by simp [hMode])]

theorem run_withRoles (orgId : String) (users : List User) :
    Async.run (withRoles orgId users) w = (w, .ok (users.map (adminUser orgId w.db))) := by
  induction users with
  | nil => rfl
  | cons u rest ih =>
      unfold withRoles
      rw [run_fetch_bind, Async.run_bind, ih]
      rfl

/-- Every administrator may list the users. -/
theorem run_adminListUsers {caller : Caller} (hCaller : callerOf settings w http = some caller)
    (hRole : caller.principal.hasRole adminRoles = true) :
    Async.run (adminListUsers settings (http.to .adminListUsers)) w =
      (w.stamped caller, .ok { reply := .users ((w.stamped caller).db.users.map
        (adminUser caller.principal.orgId (w.stamped caller).db)) }) := by
  have hHere : callerOf settings w (http.to .adminListUsers) = some caller := hCaller
  have hAllowed : Async.run (requireRole settings adminRoles (http.to .adminListUsers)) w =
      (w.stamped caller, .ok caller) := by
    rw [run_requireRole hHere, if_neg (by simp [hRole])]
  unfold adminListUsers
  rw [Async.run_bind, hAllowed]
  simp only [run_fetch_bind]
  rw [Async.run_bind, run_withRoles]
  rfl

end Requests

/-! ## One request -/

/-- A session of an administrator whose user has not enabled a second factor. -/
def Caller.Unfactored (caller : Caller) : Prop :=
  caller.principal.isSession = true ∧ caller.principal.isAdmin = true ∧
    caller.principal.totpEnabled = false

/-- No request to a route of administrators is answered to such a caller. -/
def SecondFactor (settings : AuthSettings) (w : AuthWorld) : Prop :=
  ∀ req http roles, req.admin? = some (http, roles) →
    ∀ caller, callerOf settings w http = some caller → caller.Unfactored →
      ¬ ∃ response, (Async.run (handle settings req) w).2 = .ok response

/-- Every administrator who can be resolved from a session has enabled a second factor. -/
def Enrolled (settings : AuthSettings) (w : AuthWorld) : Prop :=
  settings.mode = .enterprise → ∀ http row user membership,
    sessionOf settings w http = some (row, user, membership) →
      membership.role ∈ adminRoles → user.totpEnabled = true

section Request

variable {settings : AuthSettings} {w : AuthWorld}

theorem isAdmin_iff {p : Principal} : p.isAdmin = true ↔ p.role ∈ adminRoles := by
  simp [Principal.isAdmin, adminRoles]

/-- **Nothing but the enrolment of the administrators** stands in the way of an admin
operation without a second factor. -/
theorem second_factor_iff : SecondFactor settings w ↔ Enrolled settings w := by
  constructor
  · intro h hMode http row user membership hSession hRole
    by_contra hTotp
    have hCaller : callerOf settings w http = some (.session row user membership) := by
      unfold callerOf
      rw [hMode]
      simp only [hSession]
    have hHasRole : (Caller.session row user membership).principal.hasRole adminRoles = true := by
      simpa [Principal.hasRole, Caller.principal] using hRole
    have hUnfactored : (Caller.session row user membership).Unfactored :=
      ⟨rfl, isAdmin_iff.2 hRole, by simpa [Caller.principal] using hTotp⟩
    have hListed : Async.run (handle settings (.adminListUsers http)) w = _ :=
      (run_handle hMode).trans (run_adminListUsers hCaller hHasRole)
    exact h (.adminListUsers http) http adminRoles rfl _ hCaller hUnfactored
      ⟨_, congrArg Prod.snd hListed⟩
  · intro h req http roles hAdmin caller hCaller hUnfactored hRun
    obtain ⟨hSession, hRole, hTotp⟩ := hUnfactored
    cases caller with
    | session row user membership =>
        obtain ⟨hMode, hFound⟩ := callerOf_session hCaller
        have hEnabled := h hMode http row user membership hFound (isAdmin_iff.1 hRole)
        rw [show user.totpEnabled = false from hTotp] at hEnabled
        cases hEnabled
    | _ => cases hSession

end Request

/-! ## Runs -/

/-- Every administrator has enabled a second factor. -/
def AuthDb.AdminsEnrolled (db : AuthDb) : Prop :=
  ∀ m ∈ db.memberships, m.role ∈ adminRoles →
    ∀ u ∈ db.users, u.userId = m.userId → u.totpEnabled = true

/-- `REFERENCES users`. -/
def AuthDb.MembersExist (db : AuthDb) : Prop := ∀ m ∈ db.memberships, db.hasUser m.userId

/-- The write makes nobody an administrator without a second factor: it creates no such
user, gives no such user the role, and takes no second factor from an administrator. -/
def Executed.keepsFactor (e : Executed) : Prop :=
  match e.statement with
  | .insertUser user membership => membership.role ∈ adminRoles → user.totpEnabled = true
  | .setRole role userId orgId => role ∈ adminRoles →
      ∀ m ∈ e.before.memberships, m.userId = userId → m.orgId = orgId →
        ∀ u ∈ e.before.users, u.userId = userId → u.totpEnabled = true
  | .setTotpEnabled enabled _ userId => enabled = false →
      ∀ m ∈ e.before.memberships, m.userId = userId → m.role ∉ adminRoles
  | _ => True

instance (e : Executed) : Decidable e.keepsFactor := by
  obtain ⟨statement, reason, before, clock, drawn⟩ := e
  unfold Executed.keepsFactor
  induction statement using Statement.casesOn <;> infer_instance

section Writes

variable {settings : AuthSettings} {w : AuthWorld} {statement : Statement} {reason : Reason}

theorem AuthDb.MembersExist.apply {db : AuthDb} (h : db.MembersExist) (st : Statement)
    (hSame : ∀ user membership, st = .insertUser user membership →
      membership.userId = user.userId) : (db.apply st).MembersExist := by
  intro m hm
  rcases List.mem_append.1 hm with hOld | hNew
  · obtain ⟨old, hMem, rfl⟩ := List.mem_map.1 hOld
    rw [Statement.setMembership_userId]
    exact AuthDb.hasUser_apply (h old hMem)
  · cases st with
    | insertUser user membership =>
        obtain rfl := List.mem_singleton.1 hNew
        exact ⟨user, List.mem_append_right _ (List.mem_singleton_self _),
          (hSame user m rfl).symm⟩
    | _ => cases hNew

/-- A role that is new is one that the write sets. -/
theorem setMembership_role (st : Statement) (m : Membership) :
    (st.setMembership m).role = m.role ∨
      ∃ role, st = .setRole role m.userId m.orgId ∧ (st.setMembership m).role = role := by
  cases st with
  | setRole role userId orgId =>
      simp only [Statement.setMembership]
      by_cases hHere : m.userId = userId ∧ m.orgId = orgId
      · rw [if_pos hHere]
        obtain ⟨rfl, rfl⟩ := hHere
        exact .inr ⟨role, rfl, rfl⟩
      · rw [if_neg hHere]
        exact .inl rfl
  | _ => exact .inl rfl

/-- A second factor that is gone is one that the write takes. -/
theorem setUser_totpEnabled (st : Statement) (u : User) (h : u.totpEnabled = true) :
    (st.setUser u).totpEnabled = true ∨ ∃ now, st = .setTotpEnabled false now u.userId := by
  cases st with
  | setTotpEnabled enabled now userId =>
      simp only [Statement.setUser]
      by_cases hHere : u.userId = userId
      · rw [if_pos hHere]
        subst hHere
        cases enabled with
        | true => exact .inl rfl
        | false => exact .inr ⟨now, rfl⟩
      · rw [if_neg hHere]
        exact .inl h
  | setFailedLogin count lockedUntil now userId =>
      simp only [Statement.setUser]
      split <;> exact .inl h
  | resetFailedLogin now userId =>
      simp only [Statement.setUser]
      split <;> exact .inl h
  | setPasswordHash passwordHash pepperKid now userId =>
      simp only [Statement.setUser]
      split <;> exact .inl h
  | setEmailVerified now userId =>
      simp only [Statement.setUser]
      split <;> exact .inl h
  | _ => exact .inl h

/-- A write that keeps the second factors leaves every administrator with one, whether the
write changes a role, a user or a credential, or adds a member. -/
theorem AuthDb.AdminsEnrolled.apply (h : w.db.AdminsEnrolled) (hMembers : w.db.MembersExist)
    (hChecked : w.db.constraints settings.prim statement = .ok ())
    (hSame : ∀ user membership, statement = .insertUser user membership →
      membership.userId = user.userId)
    (hKeeps : (w.entry statement reason).keepsFactor) : (w.db.apply statement).AdminsEnrolled := by
  intro m hm hRole u hu hId
  rcases List.mem_append.1 hm with hOldM | hNewM
  · obtain ⟨oldM, hMemM, rfl⟩ := List.mem_map.1 hOldM
    rw [Statement.setMembership_userId] at hId
    rcases List.mem_append.1 hu with hOldU | hNewU
    · obtain ⟨oldU, hMemU, rfl⟩ := List.mem_map.1 hOldU
      rw [Statement.setUser_userId] at hId
      -- the second factor is an old one, whether the role is old or new
      have hBefore : oldU.totpEnabled = true ∧ ¬ ∃ now, statement =
          .setTotpEnabled false now oldU.userId := by
        rcases setMembership_role statement oldM with hSameRole | ⟨role, hSet, hNewRole⟩
        · rw [hSameRole] at hRole
          refine ⟨h oldM hMemM hRole oldU hMemU hId, ?_⟩
          rintro ⟨now, rfl⟩
          exact hKeeps rfl oldM hMemM hId.symm hRole
        · rw [hNewRole] at hRole
          subst hSet
          exact ⟨hKeeps hRole oldM hMemM rfl rfl oldU hMemU hId, nofun⟩
      rcases setUser_totpEnabled statement oldU hBefore.1 with hEnabled | hTaken
      · exact hEnabled
      · exact absurd hTaken hBefore.2
    · -- a new user has no old membership
      cases statement with
      | insertUser user membership =>
          obtain rfl := List.mem_singleton.1 hNewU
          simp only [AuthDb.constraints, check_bind_ok] at hChecked
          rw [hId] at hChecked
          exact absurd (hMembers oldM hMemM) hChecked.1
      | _ => cases hNewU
  · cases statement with
    | insertUser user membership =>
        obtain rfl := List.mem_singleton.1 hNewM
        rcases List.mem_append.1 hu with hOldU | hNewU
        · obtain ⟨oldU, hMemU, rfl⟩ := List.mem_map.1 hOldU
          simp only [AuthDb.constraints, check_bind_ok] at hChecked
          refine absurd ⟨oldU, hMemU, ?_⟩ hChecked.1
          rw [← hSame user m rfl, ← hId, Statement.setUser_userId]
        · obtain rfl := List.mem_singleton.1 hNewU
          exact hKeeps hRole
    | _ => cases hNewM

end Writes

/-- **Who may administrate without a second factor.**  In every state of every run, exactly
an administrator with a session who has not enrolled; and there is none in the runs that
begin with none and whose writes keep the second factors. -/
theorem second_factor_of_admins (settings : AuthSettings) (server : World) (db : AuthDb)
    (hMembers : db.MembersExist) (events : List (Event (authService settings))) :
    (SecondFactor settings (authRun settings server db events).state ↔
        Enrolled settings (authRun settings server db events).state) ∧
      (db.AdminsEnrolled →
        (∀ e ∈ (authRun settings server db events).state.log, e.keepsFactor) →
        (authRun settings server db events).state.db.AdminsEnrolled ∧
          SecondFactor settings (authRun settings server db events).state) := by
  refine ⟨second_factor_iff, fun hStart hWrites => ?_⟩
  have hRun := authRun_reached settings server db events
  have hAll : Along (fun _ e => e.keepsFactor) (authRun settings server db events).state.log :=
    .of_forall hWrites
  have hInvariant : (authRun settings server db events).state.db.AdminsEnrolled ∧
      (authRun settings server db events).state.db.MembersExist := by
    refine hRun.under (I := fun w => w.db.AdminsEnrolled ∧ w.db.MembersExist) hAll
      ⟨hStart, hMembers⟩ ?_ ?_
    · intro w w' hDb _ _ _ hOld
      rw [hDb]
      exact hOld
    · intro w statement reason hWritten hOld
      have hSame : ∀ user membership, statement = .insertUser user membership →
          membership.userId = user.userId := by
        rintro user membership rfl
        have hFresh := hWritten.written.fresh
        exact hFresh.2.1.trans hFresh.1.symm
      exact ⟨hOld.1.apply hOld.2 hWritten.checked hSame hWritten.now,
        hOld.2.apply statement hSame⟩
  refine ⟨hInvariant.1, second_factor_iff.2 fun _ http row user membership hSession hRole => ?_⟩
  have hRows := sessionOf_some hSession
  obtain ⟨hMember, hOwn⟩ := primaryMembership_mem hRows.member
  exact hInvariant.1 membership hMember hRole user (List.mem_of_find?_eq_some hRows.owner)
    hOwn.symm

namespace Sample

def unfactoredUser : User := { user with totpEnabled := false }

/-- An owner with a session and without a second factor. -/
def unfactoredDb : AuthDb := { signedInDb firstSession with users := [unfactoredUser] }

/-- The enrolled owner invites a guest, who joins to read only, and gives another role of an
administrator to themselves. -/
def ownerAdministers : List (Event (authService authSettings)) :=
  .request (Request.adminInvite ownerHttp { email := "guest", role := .readonlyInvestigator }) ::
    steps 0 14 ++
  .request (Request.acceptInvite {} { token := authPrim.token 16, password := "password" }) ::
    steps 1 22 ++
  .request (Request.adminChangeRole ownerHttp "u" .securityAdmin) :: steps 2 14

end Sample

/-- A user joins and a role is changed, and every administrator has still enrolled. -/
theorem second_factor_of_admins_sample :
    let w := (authRun Sample.authSettings Sample.authServer
      (Sample.signedInDb Sample.firstSession) Sample.ownerAdministers).state
    w.db.memberships.map (·.role) = [.securityAdmin, .readonlyInvestigator] ∧
      SecondFactor Sample.authSettings w := by
  have hMembers : (Sample.signedInDb Sample.firstSession).MembersExist := by
    intro m hm
    obtain rfl := List.mem_singleton.1 hm
    exact ⟨Sample.user, List.mem_singleton_self _, rfl⟩
  have hStart : (Sample.signedInDb Sample.firstSession).AdminsEnrolled := by
    intro m _ _ u hu _
    obtain rfl := List.mem_singleton.1 hu
    rfl
  exact ⟨by decide +kernel, ((second_factor_of_admins Sample.authSettings Sample.authServer
    (Sample.signedInDb Sample.firstSession) hMembers Sample.ownerAdministers).2 hStart
    (by decide +kernel)).2⟩

/-- **An administrator without a second factor** lists the users. -/
theorem unfactored_admin_served :
    ¬ ∀ (settings : AuthSettings) (server : World) (db : AuthDb), db.MembersExist →
      ∀ events : List (Event (authService settings)),
        SecondFactor settings (authRun settings server db events).state := by
  intro hAll
  have hMembers : Sample.unfactoredDb.MembersExist := by
    intro m hm
    obtain rfl := List.mem_singleton.1 hm
    exact ⟨Sample.unfactoredUser, List.mem_singleton_self _, rfl⟩
  have hServed := hAll Sample.authSettings Sample.authServer Sample.unfactoredDb hMembers []
  have hEnrolled := second_factor_iff.1 hServed rfl Sample.ownerHttp
    (Sample.session "a" "one") Sample.unfactoredUser
    { userId := "u", orgId := demoOrgId, role := .orgOwner, joinedAt := 0 } (by decide +kernel)
  exact absurd (hEnrolled (by decide)) (by decide)

end AgentShield.Auth
