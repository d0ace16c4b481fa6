import AgentShield.Lib.Alone
import AgentShield.Auth.Routes
import AgentShield.Auth.Constraints

/-!
# A request alone

What a handler does that no other handler interrupts: how its caller is resolved
(`run_principalContext`), what the resolution leaves behind, and what a write answers.
-/

namespace AgentShield.Auth

open AgentShield.Lib AgentShield.Sdk AgentShield.Server

/-! ## Writes -/

/-- The world after a write that the database refused. -/
def AuthWorld.refused (w : AuthWorld) : AuthWorld := { w with drawn := w.drawn + 16 }

section Writes

variable {prim : AuthPrimitives} {w : AuthWorld} {reason : Reason}

theorem run_execute (statement : Nat → Statement) :
    Async.run (execute prim statement reason) w =
      match w.db.constraints prim (statement w.drawn) with
      | .ok _ => (w.wrote (statement w.drawn) reason (w.db.apply (statement w.drawn)), .ok w.drawn)
      | .error c => (w.refused, .error (.database c)) := by
  unfold execute AuthDb.execute
  cases hCheck : w.db.constraints prim (statement w.drawn) with
  | ok u =>
      simp only [Async.call, Async.run, hCheck]
      rfl
  | error c =>
      simp only [Async.call, Async.run, hCheck]
      rfl

theorem run_executeNow (statement : Int → Nat → Statement) :
    Async.run (executeNow prim statement reason) w =
      Async.run (execute prim (statement w.server.now) reason) w := rfl

/-- A statement that breaks no constraint is written. -/
theorem run_execute_ok {statement : Nat → Statement}
    (h : w.db.constraints prim (statement w.drawn) = .ok ()) :
    Async.run (execute prim statement reason) w =
      (w.wrote (statement w.drawn) reason (w.db.apply (statement w.drawn)), .ok w.drawn) := by
  rw [run_execute, h]

/-- A write ends with the tables that it leaves, or with the constraint that it breaks. -/
theorem ensures_execute {Q : AuthWorld → Except Failure Nat → Prop}
    {statement : Nat → Statement}
    (hOk : w.db.constraints prim (statement w.drawn) = .ok () →
      Q (w.wrote (statement w.drawn) reason (w.db.apply (statement w.drawn))) (.ok w.drawn))
    (hError : ∀ c, Q w.refused (.error (.database c))) :
    Async.Ensures Q (execute prim statement reason) w := by
  unfold Async.Ensures
  rw [run_execute]
  cases hCheck : w.db.constraints prim (statement w.drawn) with
  | ok u => exact hOk hCheck
  | error c => exact hError c

theorem ensures_execute_bind {β : Type} {Q : AuthWorld → Except Failure β → Prop}
    {statement : Nat → Statement} {next : Nat → AuthHandler β}
    (hOk : w.db.constraints prim (statement w.drawn) = .ok () →
      Async.Ensures Q (next w.drawn)
        (w.wrote (statement w.drawn) reason (w.db.apply (statement w.drawn))))
    (hError : ∀ c, Q w.refused (.error (.database c))) :
    Async.Ensures Q (execute prim statement reason >>= next) w :=
  Async.ensures_bind.2 (ensures_execute hOk hError)

theorem ensures_executeNow_bind {β : Type} {Q : AuthWorld → Except Failure β → Prop}
    {statement : Int → Nat → Statement} {next : Nat → AuthHandler β}
    (hOk : w.db.constraints prim (statement w.server.now w.drawn) = .ok () →
      Async.Ensures Q (next w.drawn) (w.wrote (statement w.server.now w.drawn) reason
        (w.db.apply (statement w.server.now w.drawn))))
    (hError : ∀ c, Q w.refused (.error (.database c))) :
    Async.Ensures Q (executeNow prim statement reason >>= next) w := by
  show Async.Ensures Q (execute prim (statement w.server.now) reason >>= next) w
  exact ensures_execute_bind hOk hError

/-- A statement without a constraint is always written. -/
theorem ensures_executeNow_ok_bind {β : Type} {Q : AuthWorld → Except Failure β → Prop}
    {statement : Int → Nat → Statement} {next : Nat → AuthHandler β}
    (h : w.db.constraints prim (statement w.server.now w.drawn) = .ok ()) :
    Async.Ensures Q (executeNow prim statement reason >>= next) w ↔
      Async.Ensures Q (next w.drawn) (w.wrote (statement w.server.now w.drawn) reason
        (w.db.apply (statement w.server.now w.drawn))) := by
  rw [Async.ensures_bind]
  unfold Async.Ensures
  rw [run_executeNow, run_execute_ok h]

end Writes

/-! ## Who the caller is -/

section Callers

variable (settings : AuthSettings)

/-- The session that a cookie stands for, with its user and the first membership of the
user. -/
def sessionOf (w : AuthWorld) (http : Http) : Option (Session × User × Membership) := do
  let raw ← nonempty (Dict.get? http.cookies settings.cookieName)
  let row ← (w.db.findSessionByHash (settings.prim.sha256Hex raw)).filter
    (Session.active · w.server.now)
  let user ← (w.db.findByUserId row.userId).filter fun u => u.status = .active
  let membership ← w.db.primaryMembership user.userId
  return (row, user, membership)

def keyOf (w : AuthWorld) (http : Http) : Option ApiKey := do
  let raw ← (bearer http).filter looksLikeKey
  (w.db.findApiKey (settings.prim.sha256Hex raw)).filter (ApiKey.active · w.server.now)

/-- The caller of a request in this state, if it has one.  In enterprise mode a session cookie
is looked at first, and a bearer key only where there is no session. -/
def callerOf (w : AuthWorld) (http : Http) : Option Caller :=
  match settings.mode with
  | .openMode => some .openMode
  | .apiTokenOnly => resolveApiTokenOnly settings http
  | .enterprise =>
      match sessionOf settings w http with
      | some (row, user, membership) => some (.session row user membership)
      | none => (keyOf settings w http).map .apiKey

/-- The world after a caller has been resolved: the row of their session or key says when it
was last used, and nothing else changes. -/
def AuthWorld.stamped (w : AuthWorld) : Caller → AuthWorld
  | .session row _ _ =>
      w.wrote (.touchSession w.server.now row.sessionId) .plain
        (w.db.apply (.touchSession w.server.now row.sessionId))
  | .apiKey key =>
      w.wrote (.touchApiKey w.server.now key.apiKeyId) .plain
        (w.db.apply (.touchApiKey w.server.now key.apiKeyId))
  | _ => w

variable {settings} {w : AuthWorld} {http : Http}

/-- The rows behind a session that is resolved: the cookie's hash finds the session, the
session is neither expired nor revoked, its user is active and has a membership. -/
structure SessionRows (settings : AuthSettings) (w : AuthWorld) (http : Http) (row : Session)
    (user : User) (membership : Membership) : Prop where
  cookie : ∃ raw, nonempty (Dict.get? http.cookies settings.cookieName) = some raw ∧
    w.db.findSessionByHash (settings.prim.sha256Hex raw) = some row
  live : row.active w.server.now = true
  owner : w.db.findByUserId row.userId = some user
  status : user.status = .active
  member : w.db.primaryMembership user.userId = some membership

theorem sessionOf_some {row : Session} {user : User} {membership : Membership}
    (h : sessionOf settings w http = some (row, user, membership)) :
    SessionRows settings w http row user membership := by
  unfold sessionOf at h
  simp only [Option.bind_eq_bind, Option.bind_eq_some_iff, Option.filter_eq_some_iff] at h
  obtain ⟨raw, hCookie, row', ⟨hRow, hLive⟩, user', ⟨hUser, hStatus⟩, m, hMember, hSame⟩ := h
  obtain ⟨rfl, hRest⟩ := Prod.mk.inj (Option.some.inj hSame)
  obtain ⟨rfl, rfl⟩ := Prod.mk.inj hRest
  exact ⟨⟨raw, hCookie, hRow⟩, hLive, hUser, by simpa using hStatus, hMember⟩

theorem earliest_mem {ms : List Membership} {m : Membership} (h : earliest ms = some m) :
    m ∈ ms := by
  induction ms with
  | nil => cases h
  | cons first rest ih =>
      unfold earliest at h
      cases hRest : earliest rest with
      | none =>
          rw [hRest] at h
          obtain rfl := Option.some.inj h
          exact List.mem_cons_self
      | some other =>
          simp only [hRest] at h
          split at h
          · exact List.mem_cons_of_mem _ (ih (hRest.trans h))
          · obtain rfl := Option.some.inj h
            exact List.mem_cons_self

theorem primaryMembership_mem {db : AuthDb} {userId : String} {m : Membership}
    (h : db.primaryMembership userId = some m) : m ∈ db.memberships ∧ m.userId = userId := by
  have hFiltered := List.mem_filter.1 (earliest_mem h)
  exact ⟨hFiltered.1, by simpa using hFiltered.2⟩

/-- Only the enterprise mode has sessions, and there the caller is the one of the session's
rows. -/
theorem callerOf_session {row : Session} {user : User} {membership : Membership}
    (h : callerOf settings w http = some (.session row user membership)) :
    settings.mode = .enterprise ∧ sessionOf settings w http = some (row, user, membership) := by
  unfold callerOf at h
  cases hMode : settings.mode with
  | openMode =>
      rw [hMode] at h
      cases h
  | apiTokenOnly =>
      rw [hMode] at h
      simp only [resolveApiTokenOnly] at h
      split at h <;> cases h
  | enterprise =>
      simp only [hMode] at h
      cases hFound : sessionOf settings w http with
      | none =>
          rw [hFound] at h
          obtain ⟨key, -, hKey⟩ := Option.map_eq_some_iff.1 h
          cases hKey
      | some found =>
          obtain ⟨row', user', membership'⟩ := found
          rw [hFound] at h
          cases h
          exact ⟨rfl, rfl⟩

theorem run_fetch_bind {α β : Type} (f : AuthDb → α) (next : α → AuthHandler β) :
    Async.run (fetch f >>= next) w = Async.run (next (f w.db)) w := rfl

theorem nonempty_some {text : Option String} {s : String} (h : nonempty text = some s) :
    s ≠ "" := by
  have hKept := (Option.filter_eq_some_iff.1 h).2
  simpa using hKept

theorem run_lookupSession {raw : String} (h : raw ≠ "") :
    Async.run (lookupSession settings raw) w =
      (w, .ok ((w.db.findSessionByHash (settings.prim.sha256Hex raw)).filter
        (Session.active · w.server.now))) := by
  unfold lookupSession
  rw [if_neg h]
  rfl

theorem run_lookupApiKey {raw : String} (h : raw ≠ "") :
    Async.run (lookupApiKey settings raw) w =
      (w, .ok ((w.db.findApiKey (settings.prim.sha256Hex raw)).filter
        (ApiKey.active · w.server.now))) := by
  unfold lookupApiKey
  rw [if_neg h]
  rfl

theorem run_resolveActive (row : Session) :
    Async.run (resolveActive settings row) w =
      match (w.db.findByUserId row.userId).filter fun u => u.status = .active with
      | none => (w, .ok none)
      | some user =>
          match w.db.primaryMembership user.userId with
          | none => (w, .ok none)
          | some membership =>
              (w.stamped (.session row user membership),
                .ok (some (.session row user membership))) := by
  unfold resolveActive
  rw [run_fetch_bind]
  cases (w.db.findByUserId row.userId).filter fun u => u.status = .active with
  | none => rfl
  | some user =>
      simp only [run_fetch_bind]
      cases w.db.primaryMembership user.userId with
      | none => rfl
      | some membership => rfl

theorem run_resolveSession :
    Async.run (resolveSession settings http) w =
      match sessionOf settings w http with
      | none => (w, .ok none)
      | some (row, user, membership) =>
          (w.stamped (.session row user membership),
            .ok (some (.session row user membership))) := by
  unfold resolveSession sessionOf
  cases hCookie : nonempty (Dict.get? http.cookies settings.cookieName) with
  | none => rfl
  | some raw =>
      have hRaw : raw ≠ "" := nonempty_some hCookie
      simp only [Async.run_bind, run_lookupSession hRaw, Option.bind_eq_bind, Option.bind_some]
      cases (w.db.findSessionByHash (settings.prim.sha256Hex raw)).filter
          (Session.active · w.server.now) with
      | none => rfl
      | some row =>
          simp only [run_resolveActive, Option.bind_some]
          cases (w.db.findByUserId row.userId).filter fun u => u.status = .active with
          | none => rfl
          | some user =>
              cases hMember : w.db.primaryMembership user.userId with
              | none => simp [hMember]
              | some membership => simp [hMember]

theorem run_resolveApiKey :
    Async.run (resolveApiKey settings http) w =
      match keyOf settings w http with
      | none => (w, .ok none)
      | some key => (w.stamped (.apiKey key), .ok (some (.apiKey key))) := by
  unfold resolveApiKey keyOf
  cases hBearer : (bearer http).filter looksLikeKey with
  | none => rfl
  | some raw =>
      have hRaw : raw ≠ "" := by
        rintro rfl
        have hShape := (Option.filter_eq_some_iff.1 hBearer).2
        exact absurd hShape (by decide)
      simp only [Async.run_bind, run_lookupApiKey hRaw, Option.bind_eq_bind, Option.bind_some]
      cases (w.db.findApiKey (settings.prim.sha256Hex raw)).filter
          (ApiKey.active · w.server.now) with
      | none => rfl
      | some key => rfl

/-- **Resolving a caller** stamps their session or key, or ends the request.  Later proofs
cite this and look no further into the resolution. -/
theorem run_principalContext :
    Async.run (principalContext settings http) w =
      match callerOf settings w http with
      | some caller => (w.stamped caller, .ok caller)
      | none => (w, .error unauthorized) := by
  unfold principalContext callerOf
  cases settings.mode with
  | openMode => rfl
  | apiTokenOnly =>
      simp only
      cases hToken : resolveApiTokenOnly settings http with
      | none => rfl
      | some caller =>
          have hCaller : caller = .apiToken := by
            unfold resolveApiTokenOnly at hToken
            split at hToken
            · exact (Option.some.inj hToken).symm
            · cases hToken
          subst hCaller
          rfl
  | enterprise =>
      unfold enterpriseContext
      simp only [Async.run_bind, run_resolveSession]
      cases sessionOf settings w http with
      | some found => rfl
      | none =>
          simp only [run_resolveApiKey, Async.run_bind]
          cases keyOf settings w http with
          | none => rfl
          | some key => rfl

/-- A handler behind the resolution goes on with the caller, in the stamped world. -/
theorem run_caller_bind {α : Type} {caller : Caller} (h : callerOf settings w http = some caller)
    (next : Caller → AuthHandler α) :
    Async.run (principalContext settings http >>= next) w =
      Async.run (next caller) (w.stamped caller) := by
  rw [Async.run_bind, run_principalContext, h]

theorem run_requireRole {caller : Caller} (h : callerOf settings w http = some caller)
    (roles : List Role) :
    Async.run (requireRole settings roles http) w =
      if caller.principal.isOpenSynthetic = false ∧ caller.principal.hasRole roles = false then
        (w.stamped caller, .error forbidden)
      else (w.stamped caller, .ok caller) := by
  unfold requireRole
  rw [run_caller_bind h, Async.run_raiseIf_bind]
  rfl

theorem ensures_requireRole_bind {α : Type} {Q : AuthWorld → Except Failure α → Prop}
    {caller : Caller} {roles : List Role} {next : Caller → AuthHandler α}
    (hCaller : callerOf settings w http = some caller)
    (hDenied : caller.principal.hasRole roles = false → Q (w.stamped caller) (.error forbidden))
    (h : Async.Ensures Q (next caller) (w.stamped caller)) :
    Async.Ensures Q (requireRole settings roles http >>= next) w := by
  refine Async.ensures_bind.2 ?_
  unfold Async.Ensures
  rw [run_requireRole hCaller]
  by_cases hRole : caller.principal.isOpenSynthetic = false ∧
      caller.principal.hasRole roles = false
  · rw [if_pos hRole]
    exact hDenied hRole.2
  · rw [if_neg hRole]
    exact h

/-- A caller with one of the roles gets through. -/
theorem ensures_requireRole_ok_bind {α : Type} {Q : AuthWorld → Except Failure α → Prop}
    {caller : Caller} {roles : List Role} {next : Caller → AuthHandler α}
    (hCaller : callerOf settings w http = some caller)
    (hRole : caller.principal.hasRole roles = true) :
    Async.Ensures Q (requireRole settings roles http >>= next) w ↔
      Async.Ensures Q (next caller) (w.stamped caller) := by
  rw [Async.ensures_bind]
  unfold Async.Ensures
  rw [run_requireRole hCaller, if_neg fun hDenied => by simp [hRole] at hDenied]

end Callers

end AgentShield.Auth
