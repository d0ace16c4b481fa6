import AgentShield.Auth.Callers
import AgentShield.Auth.KeyScope
import AgentShield.Auth.Lockout

/-!
# The two readings of a lockout

A lockout is a status with a time of its end.  The sign-in reads both, `lockoutIsActive`;
the resolution of a session reads the status alone, and no statement sets the status back
when the time has come.  So the two agree exactly while no account is locked without being
locked out (`sessions_follow_lockout_iff`).
-/

namespace AgentShield.Auth

open AgentShield.Lib AgentShield.Sdk AgentShield.Server

/-- Every user is a member of an organisation, as `create_user` leaves them. -/
def AuthDb.EveryoneJoined (db : AuthDb) : Prop :=
  ∀ u ∈ db.users, ∃ m ∈ db.memberships, m.userId = u.userId

/-- The request is resolved to a principal by its session cookie. -/
def SessionWorks (settings : AuthSettings) (w : AuthWorld) (http : Http) : Prop :=
  ∃ caller, (Async.run (resolveSession settings http) w).2 = .ok (some caller)

section Members

theorem earliest_isSome {ms : List Membership} (h : ms ≠ []) : (earliest ms).isSome = true := by
  cases ms with
  | nil => exact absurd rfl h
  | cons m rest =>
      unfold earliest
      cases earliest rest with
      | none => rfl
      | some other =>
          simp only
          split <;> rfl

theorem AuthDb.EveryoneJoined.apply {db : AuthDb} (h : db.EveryoneJoined) (st : Statement)
    (hSame : ∀ user membership, st = .insertUser user membership →
      membership.userId = user.userId) : (db.apply st).EveryoneJoined := by
  intro u hu
  rcases List.mem_append.1 hu with hOld | hNew
  · obtain ⟨old, hMem, rfl⟩ := List.mem_map.1 hOld
    obtain ⟨m, hm, hId⟩ := h old hMem
    refine ⟨st.setMembership m, List.mem_append_left _ (List.mem_map_of_mem hm), ?_⟩
    rw [Statement.setMembership_userId, hId, Statement.setUser_userId]
  · cases st with
    | insertUser user membership =>
        obtain rfl := List.mem_singleton.1 hNew
        exact ⟨membership, List.mem_append_right _ (List.mem_singleton_self _),
          hSame u membership rfl⟩
    | _ => cases hNew

theorem Reached.everyoneJoined {settings : AuthSettings} {s w : AuthWorld}
    (h : Reached settings s w) (hStart : s.db.EveryoneJoined) : w.db.EveryoneJoined := by
  refine h.tables (I := AuthDb.EveryoneJoined) hStart fun w statement reason hWritten _ hOld => ?_
  refine hOld.apply statement fun user membership hStatement => ?_
  have hFresh := hWritten.fresh
  rw [hStatement] at hFresh
  exact hFresh.2.1.trans hFresh.1.symm

/-- A member has a first membership. -/
theorem AuthDb.EveryoneJoined.primary {db : AuthDb} (h : db.EveryoneJoined) {u : User}
    (hu : u ∈ db.users) : ∃ m, db.primaryMembership u.userId = some m := by
  obtain ⟨m, hm, hId⟩ := h u hu
  have hSome : db.memberships.filter (fun m => m.userId = u.userId) ≠ [] :=
    List.ne_nil_of_mem (List.mem_filter.2 ⟨hm, by simpa using hId⟩)
  exact Option.isSome_iff_exists.1 (earliest_isSome hSome)

end Members

/-! ## What a session needs -/

section Session

variable {settings : AuthSettings} {w : AuthWorld} {http : Http} {raw : String} {row : Session}
  {user : User}

theorem sessionWorks_iff :
    SessionWorks settings w http ↔ ∃ found, sessionOf settings w http = some found := by
  unfold SessionWorks
  rw [run_resolveSession]
  cases sessionOf settings w http with
  | none => simp
  | some found => simp

/-- A live session of a member works exactly when the status of the user is active. -/
theorem sessionWorks_iff_active (hValid : w.db.Valid settings.prim)
    (hJoined : w.db.EveryoneJoined)
    (hCookie : nonempty (Dict.get? http.cookies settings.cookieName) = some raw)
    (hRow : row ∈ w.db.sessions) (hHash : row.tokenHash = settings.prim.sha256Hex raw)
    (hLive : row.active w.server.now = true) (hUser : user ∈ w.db.users)
    (hOwn : user.userId = row.userId) :
    SessionWorks settings w http ↔ user.status = .active := by
  obtain ⟨membership, hMember⟩ := hJoined.primary hUser
  have hFindRow : w.db.findSessionByHash (settings.prim.sha256Hex raw) = some row := by
    rw [← hHash]
    exact hValid.cookies.find_eq hRow
  have hFindUser : w.db.findByUserId row.userId = some user := by
    rw [← hOwn]
    exact hValid.userIds.find_eq hUser
  have hFilter : (some row).filter (Session.active · w.server.now) = some row := by
    simp [hLive]
  have hSession : sessionOf settings w http =
      ((some user).filter fun u => u.status = .active).map fun u => (row, u, membership) := by
    unfold sessionOf
    simp only [hCookie, hFindRow, hFilter, hFindUser, Option.bind_eq_bind, Option.bind_some]
    by_cases hStatus : user.status = .active
    · simp [Option.filter, hStatus, hMember]
    · simp [Option.filter, hStatus]
  rw [sessionWorks_iff, hSession]
  by_cases hStatus : user.status = .active
  · simp [Option.filter, hStatus]
  · simp [Option.filter, hStatus]

end Session

/-- **When sessions follow the lockout.**  At every time of every run, a live session is
resolved exactly when its user is neither disabled nor locked out, if and only if the
account is not left locked after its lockout. -/
theorem sessions_follow_lockout_iff (settings : AuthSettings) (server : World) (db : AuthDb)
    (hValid : db.Valid settings.prim) (hJoined : db.EveryoneJoined)
    (events : List (Event (authService settings))) (http : Http) (raw : String)
    (hCookie : nonempty (Dict.get? http.cookies settings.cookieName) = some raw)
    (row : Session) (hRow : row ∈ (authRun settings server db events).state.db.sessions)
    (hHash : row.tokenHash = settings.prim.sha256Hex raw)
    (hLive : row.active (authRun settings server db events).state.server.now = true)
    (user : User) (hUser : user ∈ (authRun settings server db events).state.db.users)
    (hOwn : user.userId = row.userId) :
    (SessionWorks settings (authRun settings server db events).state http ↔
        user.status ≠ .disabled ∧
          lockoutIsActive user (authRun settings server db events).state.server.now = false) ↔
      ¬ (user.status = .locked ∧
        lockoutIsActive user (authRun settings server db events).state.server.now = false) := by
  have hReached := authRun_reached settings server db events
  rw [sessionWorks_iff_active (hReached.valid hValid) (hReached.everyoneJoined hJoined) hCookie
    hRow hHash hLive hUser hOwn]
  have hOut : lockoutIsActive user (authRun settings server db events).state.server.now = true →
      user.status = .locked := by
    intro h
    unfold lockoutIsActive at h
    exact (of_decide_eq_true h).1
  cases hStatus : user.status with
  | active =>
      have hFree : lockoutIsActive user (authRun settings server db events).state.server.now =
          false := by
        by_contra hActive
        exact absurd (hOut (by simpa using hActive)) (by simp [hStatus])
      simp [hFree]
  | disabled => simp
  | locked => simp

namespace Sample

/-- A session that lasts. -/
def lastingSession : Session := { session "a" "one" with expiresAt := 10000000 }

def lockableDb : AuthDb := { failedDb 5 with sessions := [lastingSession] }

theorem lockableDb_valid : lockableDb.Valid authPrim :=
  { failedDb_valid 5 with
    sessionIds := keyUnique_singleton _ _
    cookies := keyUnique_singleton _ _ }

theorem lockableDb_joined : lockableDb.EveryoneJoined := by
  intro u hu
  obtain rfl : u = failedUser 5 := List.mem_singleton.1 hu
  exact ⟨_, List.mem_singleton_self _, rfl⟩

/-- One failure too many, and six minutes. -/
def lockoutOver : List (Event (authService authSettings)) :=
  oneFailure ++ [.external (.tick (360000 * 1000000))]

/-- The user is locked until five minutes after the failure. -/
def lockedUser : User :=
  { failedUser 6 with status := .locked, lockedUntil := some 301000, updatedAt := 1000 }

end Sample

/-- One failure too many locks the user out, and the live session works no longer. -/
theorem sessions_follow_lockout_sample :
    ¬ SessionWorks Sample.authSettings (authRun Sample.authSettings Sample.authServer
      Sample.lockableDb Sample.oneFailure).state Sample.ownerHttp := by
  have hSessions : Sample.lastingSession ∈ (authRun Sample.authSettings Sample.authServer
      Sample.lockableDb Sample.oneFailure).state.db.sessions := by decide +kernel
  have hUsers : Sample.lockedUser ∈ (authRun Sample.authSettings Sample.authServer
      Sample.lockableDb Sample.oneFailure).state.db.users := by decide +kernel
  have hIff := sessions_follow_lockout_iff Sample.authSettings Sample.authServer
    Sample.lockableDb Sample.lockableDb_valid Sample.lockableDb_joined Sample.oneFailure
    Sample.ownerHttp "one" (by decide) Sample.lastingSession hSessions rfl (by decide +kernel)
    Sample.lockedUser hUsers rfl
  have hLocked : lockoutIsActive Sample.lockedUser (authRun Sample.authSettings Sample.authServer
      Sample.lockableDb Sample.oneFailure).state.server.now = true := by decide +kernel
  intro hWorks
  have hFree := ((hIff.2 fun hOver => by simp [hLocked] at hOver).1 hWorks).2
  rw [hLocked] at hFree
  cases hFree

/-- **A session stays out after the lockout.**  The lockout is over, and the user is still
not resolved. -/
theorem session_locked_out_for_good :
    ¬ ∀ (settings : AuthSettings) (server : World) (db : AuthDb), db.Valid settings.prim →
      db.EveryoneJoined → ∀ (events : List (Event (authService settings))) (http : Http)
      (raw : String), nonempty (Dict.get? http.cookies settings.cookieName) = some raw →
      ∀ row ∈ (authRun settings server db events).state.db.sessions,
      row.tokenHash = settings.prim.sha256Hex raw →
      row.active (authRun settings server db events).state.server.now = true →
      ∀ user ∈ (authRun settings server db events).state.db.users, user.userId = row.userId →
      (SessionWorks settings (authRun settings server db events).state http ↔
        user.status ≠ .disabled ∧
          lockoutIsActive user (authRun settings server db events).state.server.now = false) := by
  intro hAll
  have hUsers : Sample.lockedUser ∈ (authRun Sample.authSettings Sample.authServer
      Sample.lockableDb Sample.lockoutOver).state.db.users := by decide +kernel
  have hSessions : Sample.lastingSession ∈ (authRun Sample.authSettings Sample.authServer
      Sample.lockableDb Sample.lockoutOver).state.db.sessions := by decide +kernel
  have hWorks := hAll Sample.authSettings Sample.authServer Sample.lockableDb
    Sample.lockableDb_valid Sample.lockableDb_joined Sample.lockoutOver Sample.ownerHttp "one"
    (by decide) Sample.lastingSession hSessions rfl (by decide +kernel) Sample.lockedUser hUsers
    rfl
  have hNone : (Async.run (resolveSession Sample.authSettings Sample.ownerHttp)
      (authRun Sample.authSettings Sample.authServer Sample.lockableDb
        Sample.lockoutOver).state).2 = .ok none := by decide +kernel
  obtain ⟨caller, hCaller⟩ := hWorks.2 ⟨by decide, by decide +kernel⟩
  rw [hNone] at hCaller
  cases hCaller

end AgentShield.Auth
