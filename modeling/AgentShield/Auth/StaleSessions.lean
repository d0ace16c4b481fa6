import AgentShield.Auth.Lockout

/-!
# Sessions after a change of the password

A reset revokes every session of the user, and a change rotates the cookie of the caller's
session only.  A cookie is old when it was in force at the write of the new hash, when a
sign-in got it that had verified an old hash, or when it was refreshed from an old cookie.
The condition says what has to hold at a write so that no old cookie outlives the change;
the proof follows the derivation of the cookie.
-/

namespace AgentShield.Auth

open AgentShield.Lib AgentShield.Sdk AgentShield.Server

/-! ## Old hashes and old cookies -/

/-- The cookie that a statement gives to a session. -/
def Statement.givesCookie? : Statement → Option (String × String)
  | insertSession row => some (row.tokenHash, row.sessionId)
  | rotateToken tokenHash _ _ sessionId => some (tokenHash, sessionId)
  | _ => none

namespace Executed

def storesHash (userId passwordHash : String) (e : Executed) : Bool :=
  match e.statement with
  | .setPasswordHash hash _ _ user => hash = passwordHash ∧ user = userId
  | _ => false

/-- A change of the password rotates the cookie of the session. -/
def rotatesOnChange (sessionId : String) (e : Executed) : Bool :=
  match e.statement, e.reason with
  | .rotateToken _ _ _ session, .passwordChange _ _ _ => session = sessionId
  | _, _ => false

def isReset (e : Executed) : Bool :=
  match e.reason with
  | .passwordReset _ _ => true
  | _ => false

def revokesAll (userId : String) (e : Executed) : Bool :=
  match e.statement with
  | .revokeAllForUser _ user => user = userId
  | _ => false

end Executed

/-- A hash that the user had when the change `p` was written, or that a sign-in has made of
a password that it had verified against an old hash. -/
inductive OldHash (log : List Executed) (p : Executed) (userId : String) : String → Prop
  | inForce {e : Executed} {u : User} (he : e ∈ log) (hOrder : e.drawn ≤ p.drawn)
      (hu : u ∈ e.before.users) (hId : u.userId = userId) : OldHash log p userId u.passwordHash
  | rehashed {e : Executed} {user : User} {password passwordHash : String} (he : e ∈ log)
      (hReason : e.reason = .rehash user password)
      (hStores : e.storesHash userId passwordHash = true)
      (hOld : OldHash log p userId user.passwordHash) : OldHash log p userId passwordHash

/-- A cookie that was issued on the strength of the password before the change `p`. -/
inductive OldCookie (log : List Executed) (p : Executed) (userId : String) : String → Prop
  | inForce {e : Executed} {row : Session} (he : e ∈ log) (hOrder : e.drawn ≤ p.drawn)
      (hRow : row ∈ e.before.sessions) (hUser : row.userId = userId) :
      OldCookie log p userId row.tokenHash
  | signedIn {e : Executed} {row : Session} {user : User} {password : String} (he : e ∈ log)
      (hStatement : e.statement = .insertSession row) (hReason : e.reason = .signIn user password)
      (hUser : row.userId = userId) (hOld : OldHash log p userId user.passwordHash) :
      OldCookie log p userId row.tokenHash
  | refreshed {e : Executed} {tokenHash csrfToken sessionId : String} {now : Int} {row : Session}
      {user : User} {membership : Membership} (he : e ∈ log)
      (hStatement : e.statement = .rotateToken tokenHash csrfToken now sessionId)
      (hReason : e.reason = .caller (.session row user membership))
      (hOld : OldCookie log p userId row.tokenHash) : OldCookie log p userId tokenHash

/-! ## The condition -/

/-- No change or reset of the user has stored a hash since this one was stored. -/
def HashCurrent (earlier : List Executed) (userId passwordHash : String) : Prop :=
  ∀ c ∈ earlier, c.setsPassword? userId ≠ none →
    ∃ e ∈ earlier, c.drawn ≤ e.drawn ∧ e.storesHash userId passwordHash = true

/-- The reset has come to revoke the sessions of the user. -/
def HasRevoked (earlier : List Executed) (userId : String) (c : Executed) : Prop :=
  ∃ r ∈ earlier, c.drawn < r.drawn ∧ r.reason = c.reason ∧ r.revokesAll userId = true

/-- No change of the user, and no reset that has come to revoke the sessions, has stored a
hash since this one was stored. -/
def SessionCurrent (earlier : List Executed) (userId passwordHash : String) : Prop :=
  ∀ c ∈ earlier, c.setsPassword? userId ≠ none →
    (c.isReset = true → HasRevoked earlier userId c) →
    ∃ e ∈ earlier, c.drawn ≤ e.drawn ∧ e.storesHash userId passwordHash = true

/-- No change has rotated the session since it was given this cookie. -/
def CookieCurrent (earlier : List Executed) (sessionId tokenHash : String) : Prop :=
  ∀ c ∈ earlier, c.rotatesOnChange sessionId = true →
    ∃ e ∈ earlier, c.drawn ≤ e.drawn ∧ e.statement.givesCookie? = some (tokenHash, sessionId)

/-- The condition for the sessions: a change finds no other live session of the user; a
sign-in stores a hash or a session while the hash that it has verified is current; a refresh
rotates while the cookie of its caller is. -/
def sessionsEnded (earlier : List Executed) (e : Executed) : Prop :=
  match e.statement, e.reason with
  | .setPasswordHash _ _ _ _, .passwordChange caller user _ =>
      ∀ row ∈ e.before.sessions, row.userId = user.userId →
        caller.principal.session? ≠ some row.sessionId → row.active e.clock = false
  | .setPasswordHash _ _ _ _, .rehash user _ =>
      HashCurrent earlier user.userId user.passwordHash
  | .insertSession _, .signIn user _ => SessionCurrent earlier user.userId user.passwordHash
  | .rotateToken _ _ _ sessionId, .caller (.session row _ _) =>
      CookieCurrent earlier sessionId row.tokenHash
  | _, _ => True

instance (earlier : List Executed) (userId passwordHash : String) :
    Decidable (HashCurrent earlier userId passwordHash) :=
  inferInstanceAs (Decidable (∀ c ∈ earlier, c.setsPassword? userId ≠ none →
    ∃ e ∈ earlier, c.drawn ≤ e.drawn ∧ e.storesHash userId passwordHash = true))

instance (earlier : List Executed) (userId : String) (c : Executed) :
    Decidable (HasRevoked earlier userId c) :=
  inferInstanceAs (Decidable (∃ r ∈ earlier, c.drawn < r.drawn ∧ r.reason = c.reason ∧
    r.revokesAll userId = true))

instance (earlier : List Executed) (userId passwordHash : String) :
    Decidable (SessionCurrent earlier userId passwordHash) :=
  inferInstanceAs (Decidable (∀ c ∈ earlier, c.setsPassword? userId ≠ none →
    (c.isReset = true → HasRevoked earlier userId c) →
    ∃ e ∈ earlier, c.drawn ≤ e.drawn ∧ e.storesHash userId passwordHash = true))

instance (earlier : List Executed) (sessionId tokenHash : String) :
    Decidable (CookieCurrent earlier sessionId tokenHash) :=
  inferInstanceAs (Decidable (∀ c ∈ earlier, c.rotatesOnChange sessionId = true →
    ∃ e ∈ earlier, c.drawn ≤ e.drawn ∧ e.statement.givesCookie? = some (tokenHash, sessionId)))

instance (earlier : List Executed) (e : Executed) : Decidable (sessionsEnded earlier e) := by
  obtain ⟨statement, reason, before, clock, drawn⟩ := e
  unfold sessionsEnded
  induction statement using Statement.casesOn with
  | setPasswordHash _ _ _ _ => induction reason using Reason.casesOn <;> infer_instance
  | insertSession _ => induction reason using Reason.casesOn <;> infer_instance
  | rotateToken _ _ _ _ =>
      induction reason using Reason.casesOn <;> first
        | infer_instance
        | induction ‹Caller› using Caller.casesOn <;> infer_instance
  | _ => infer_instance

/-! ## Secrets and their owners -/

/-- The random salts of the hashes at the start are not drawn again. -/
def FreshHashes (prim : AuthPrimitives) (db : AuthDb) : Prop :=
  ∀ u ∈ db.users, ∀ n text, u.passwordHash ≠ prim.argon2Hash n text

def AuthDb.HasHash (db : AuthDb) (passwordHash : String) : Prop :=
  ∃ u ∈ db.users, u.passwordHash = passwordHash

/-- A hash with the salt of a number. -/
def DrawsHash (prim : AuthPrimitives) (n : Nat) (passwordHash : String) : Prop :=
  ∃ text, passwordHash = prim.argon2Hash n text

theorem FreshHashes.once {prim : AuthPrimitives} {db : AuthDb} (h : FreshHashes prim db)
    (hSound : SoundHashing prim) : DrawnOnce db.HasHash (DrawsHash prim) where
  apart := by
    rintro n m hash ⟨text, rfl⟩ ⟨text', hSame⟩
    exact hSound.fresh _ _ _ _ hSame
  unseen := by
    rintro n hash ⟨u, hu, rfl⟩ ⟨text, hSame⟩
    exact h u hu n text hSame

/-- The session has had the cookie, in the tables or by a write. -/
def Owns (w : AuthWorld) (tokenHash sessionId : String) : Prop :=
  w.Saw (fun db => ∃ row ∈ db.sessions, row.tokenHash = tokenHash ∧ row.sessionId = sessionId) ∨
    ∃ e ∈ w.log, e.statement.givesCookie? = some (tokenHash, sessionId)

section Owners

variable {settings : AuthSettings} {s w w' : AuthWorld}

theorem saw_wrote {statement : Statement} {reason : Reason} {db : AuthDb} {P : AuthDb → Prop} :
    (w.wrote statement reason db).Saw P ↔ w.Saw P ∨ P db := by
  simp [AuthWorld.Saw, AuthWorld.snapshots, AuthWorld.wrote, AuthWorld.entry, or_and_right,
    exists_or, or_assoc]

theorem givesCookie_fresh {statement : Statement} {n : Nat} {tokenHash sessionId : String}
    (hFresh : statement.Fresh settings.prim n)
    (hGives : statement.givesCookie? = some (tokenHash, sessionId)) :
    DrawsToken settings.prim n tokenHash := by
  cases statement <;> simp only [Statement.givesCookie?, reduceCtorEq, Option.some.injEq,
    Prod.mk.injEq] at hGives
  case insertSession row =>
    rw [← hGives.1]
    exact hFresh.2
  case rotateToken hash csrfToken now session =>
    rw [← hGives.1]
    exact hFresh

/-- A write gives a cookie to one session at most, and it is a fresh one. -/
theorem owns_wrote {statement : Statement} {reason : Reason}
    (hFresh : statement.Fresh settings.prim w.drawn) {tokenHash sessionId : String}
    (h : Owns (w.wrote statement reason (w.db.apply statement)) tokenHash sessionId) :
    Owns w tokenHash sessionId ∨ (DrawsToken settings.prim w.drawn tokenHash ∧
      statement.givesCookie? = some (tokenHash, sessionId)) := by
  rcases h with hSaw | ⟨e, he, hGives⟩
  · rcases saw_wrote.1 hSaw with hOld | ⟨row, hRow, rfl, rfl⟩
    · exact .inl (.inl hOld)
    · rcases List.mem_append.1 hRow with hRow | hRow
      · obtain ⟨old, hMem, rfl⟩ := List.mem_map.1 hRow
        rcases statement.setSession_tokenHash (s := old) with hKeep | ⟨hash, csrf, now, rfl, hNew⟩
        · refine .inl (.inl (AuthWorld.saw_now ⟨old, hMem, hKeep.symm, ?_⟩))
          exact (statement.setSession_sessionId old).symm
        · have hId := (Statement.rotateToken hash csrf now old.sessionId).setSession_sessionId old
          rw [hNew, hId]
          exact .inr ⟨hFresh, rfl⟩
      · cases statement <;>
          simp only [Statement.addSession, List.mem_singleton, List.not_mem_nil] at hRow
        subst hRow
        exact .inr ⟨hFresh.2, rfl⟩
  · rcases List.mem_append.1 he with he | he
    · exact .inl (.inr ⟨e, he, hGives⟩)
    · obtain rfl := List.mem_singleton.1 he
      exact .inr ⟨givesCookie_fresh hFresh hGives, hGives⟩

/-- **A cookie belongs to one session** in the whole run, and has been issued.  A token is
drawn once, for the session that it is inserted or rotated for. -/
theorem Reached.owner (h : Reached settings s w) (hStart : s.log = [])
    (hValid : s.db.Valid settings.prim) (hFresh : FreshCookies settings.prim s.db) :
    (∀ tokenHash a, Owns w tokenHash a → CookieIssued settings.prim s w tokenHash) ∧
      ∀ tokenHash a b, Owns w tokenHash a → Owns w tokenHash b → a = b := by
  refine h.invariant (I := fun w =>
    (∀ tokenHash a, Owns w tokenHash a → CookieIssued settings.prim s w tokenHash) ∧
      ∀ tokenHash a b, Owns w tokenHash a → Owns w tokenHash b → a = b) ?_ ?_ ?_
  · have hOnly : ∀ tokenHash a, Owns s tokenHash a →
        ∃ row ∈ s.db.sessions, row.tokenHash = tokenHash ∧ row.sessionId = a := by
      intro tokenHash a hOwns
      simpa [Owns, AuthWorld.Saw, AuthWorld.snapshots, hStart] using hOwns
    constructor
    · intro tokenHash a hOwns
      obtain ⟨row, hRow, hHash, -⟩ := hOnly tokenHash a hOwns
      exact .inl ⟨row, hRow, hHash⟩
    · intro tokenHash a b ha hb
      obtain ⟨row, hRow, hHash, rfl⟩ := hOnly tokenHash a ha
      obtain ⟨row', hRow', hHash', rfl⟩ := hOnly tokenHash b hb
      rw [hValid.cookies.eq hRow hRow' (hHash.trans hHash'.symm)]
  · intro w w' hDb hLog _ hDrawn hOld
    have hSame : ∀ tokenHash a, Owns w' tokenHash a → Owns w tokenHash a := by
      intro tokenHash a hOwns
      simpa only [Owns, AuthWorld.Saw, AuthWorld.snapshots, hDb, hLog] using hOwns
    exact ⟨fun tokenHash a hOwns => (hOld.1 tokenHash a (hSame _ _ hOwns)).mono hDrawn,
      fun tokenHash a b ha hb => hOld.2 tokenHash a b (hSame _ _ ha) (hSame _ _ hb)⟩
  · intro w statement reason db hWritten hOld
    obtain ⟨-, rfl⟩ := AuthDb.execute_ok hWritten.run
    have hNotNew : ∀ tokenHash a, Owns w tokenHash a →
        ¬ DrawsToken settings.prim w.drawn tokenHash := fun tokenHash a hOwns =>
      (hOld.1 tokenHash a hOwns).not_drawn hFresh.once (Nat.le_refl _)
    constructor
    · intro tokenHash a hOwns
      rcases owns_wrote hWritten.fresh hOwns with hBefore | ⟨hDraw, -⟩
      · exact (hOld.1 tokenHash a hBefore).mono (Nat.le_add_right _ _)
      · exact .inr ⟨w.drawn, by show w.drawn < w.drawn + 16; omega, hDraw⟩
    · intro tokenHash a b ha hb
      rcases owns_wrote hWritten.fresh ha with ha | ⟨hDraw, hGives⟩
      · rcases owns_wrote hWritten.fresh hb with hb | ⟨hDraw', -⟩
        · exact hOld.2 tokenHash a b ha hb
        · exact absurd hDraw' (hNotNew tokenHash a ha)
      · rcases owns_wrote hWritten.fresh hb with hb | ⟨-, hGives'⟩
        · exact absurd hDraw (hNotNew tokenHash b hb)
        · exact (Prod.mk.inj (Option.some.inj (hGives.symm.trans hGives'))).2

/-- Every hash of the tables was there at the start or has been drawn by one of the writes so
far. -/
theorem Reached.hashes_issued (h : Reached settings s w) :
    ∀ u ∈ w.db.users, Issued s.db.HasHash (DrawsHash settings.prim) w.drawn u.passwordHash := by
  refine h.invariant (I := fun w => ∀ u ∈ w.db.users,
    Issued s.db.HasHash (DrawsHash settings.prim) w.drawn u.passwordHash) ?_ ?_ ?_
  · exact fun u hu => .inl ⟨u, hu, rfl⟩
  · intro w w' hDb _ _ hDrawn hOld u hu
    rw [hDb] at hu
    exact (hOld u hu).mono hDrawn
  · intro w statement reason db hWritten hOld u hu
    obtain ⟨-, rfl⟩ := AuthDb.execute_ok hWritten.run
    have hFresh := hWritten.fresh
    have hDrawn : w.drawn < w.drawn + 16 := by omega
    rcases List.mem_append.1 hu with hu | hu
    · obtain ⟨old, hMem, rfl⟩ := List.mem_map.1 hu
      by_cases hHash : ∃ hash kid now, statement = .setPasswordHash hash kid now old.userId
      · obtain ⟨hash, kid, now, rfl⟩ := hHash
        simp only [Statement.setUser, if_true]
        exact .inr ⟨w.drawn, hDrawn, hFresh⟩
      · have hSame := (setUser_passwordHash statement old
          fun hash kid now hEq => hHash ⟨hash, kid, now, hEq⟩).1
        rw [hSame]
        exact (hOld old hMem).mono (Nat.le_add_right _ _)
    · cases statement <;>
        simp only [Statement.addUser, List.mem_singleton, List.not_mem_nil] at hu
      subst hu
      exact .inr ⟨w.drawn, hDrawn, hFresh.2.2⟩

theorem storesHash_cases {e : Executed} {userId passwordHash : String}
    (h : e.storesHash userId passwordHash = true) :
    ∃ kid now, e.statement = .setPasswordHash passwordHash kid now userId := by
  unfold Executed.storesHash at h
  split at h
  · rename_i hash kid now user hStatement
    simp only [decide_eq_true_eq] at h
    obtain ⟨rfl, rfl⟩ := h
    exact ⟨kid, now, hStatement⟩
  · cases h

/-- A change or reset stores its hash for the user. -/
theorem setsPassword_statement {e : Executed} {userId passwordHash password : String}
    (h : e.setsPassword? userId = some (passwordHash, password)) :
    ∃ kid now, e.statement = .setPasswordHash passwordHash kid now userId := by
  unfold Executed.setsPassword? at h
  split at h
  · rename_i hash kid now user caller user' newPassword hStatement hReason
    obtain ⟨rfl, hPair⟩ := Option.ite_none_right_eq_some.1 h
    obtain ⟨rfl, rfl⟩ := Prod.mk.inj (Option.some.inj hPair)
    exact ⟨kid, now, hStatement⟩
  · rename_i hash kid now user token newPassword hStatement hReason
    obtain ⟨rfl, hPair⟩ := Option.ite_none_right_eq_some.1 h
    obtain ⟨rfl, rfl⟩ := Prod.mk.inj (Option.some.inj hPair)
    exact ⟨kid, now, hStatement⟩
  · cases h

/-- The number of an entry is in the hash that it stores. -/
theorem drawsHash_of_stores (h : Reached settings s w) (hStart : s.log = []) {e : Executed}
    (he : e ∈ w.log) {userId passwordHash : String}
    (hStores : e.storesHash userId passwordHash = true) :
    DrawsHash settings.prim e.drawn passwordHash := by
  obtain ⟨w₀, db, hWritten, hEntry, -⟩ := h.entry hStart he
  obtain ⟨kid, now, hStatement⟩ := storesHash_cases hStores
  have hFresh := hWritten.fresh
  rw [hStatement] at hFresh
  rw [hEntry]
  exact hFresh

/-- The number of an entry is in the cookie that it gives. -/
theorem drawsToken_of_gives (h : Reached settings s w) (hStart : s.log = []) {e : Executed}
    (he : e ∈ w.log) {tokenHash sessionId : String}
    (hGives : e.statement.givesCookie? = some (tokenHash, sessionId)) :
    DrawsToken settings.prim e.drawn tokenHash := by
  obtain ⟨w₀, db, hWritten, hEntry, -⟩ := h.entry hStart he
  rw [hEntry]
  exact givesCookie_fresh hWritten.fresh hGives

/-- A session that was there before an entry is there before a later one. -/
theorem session_before (h : Reached settings s w) (hStart : s.log = []) {e p : Executed}
    (he : e ∈ w.log) (hp : p ∈ w.log) (hOrder : e.drawn ≤ p.drawn) {row : Session}
    (hRow : row ∈ e.before.sessions) :
    ∃ now ∈ p.before.sessions, now.sessionId = row.sessionId ∧ now.userId = row.userId := by
  by_cases hSame : e.drawn = p.drawn
  · obtain rfl := h.entry_eq hStart he hp hSame
    exact ⟨row, hRow, rfl, rfl⟩
  · obtain ⟨wₚ, dbₚ, hWrittenₚ, hEntryₚ, -, -, hBefore⟩ := h.entry hStart hp
    have hEarlier : e ∈ wₚ.log := hBefore e he (by omega)
    obtain ⟨wₑ, dbₑ, hWrittenₑ, hEntryₑ, hRest, -, -⟩ := hWrittenₚ.reached.entry hStart hEarlier
    rw [hEntryₑ] at hRow
    rw [hEntryₚ]
    exact (hWrittenₑ.andThen hRest).session_kept hRow

/-- A session that an entry has created is there before a later one. -/
theorem session_created (h : Reached settings s w) (hStart : s.log = []) {e p : Executed}
    (he : e ∈ w.log) (hp : p ∈ w.log) (hOrder : e.drawn < p.drawn) {row : Session}
    (hStatement : e.statement = .insertSession row) :
    ∃ now ∈ p.before.sessions, now.sessionId = row.sessionId ∧ now.userId = row.userId := by
  obtain ⟨wₚ, dbₚ, hWrittenₚ, hEntryₚ, -, -, hBefore⟩ := h.entry hStart hp
  obtain ⟨wₑ, dbₑ, hWrittenₑ, -, hRest, -, -⟩ :=
    hWrittenₚ.reached.entry hStart (hBefore e he hOrder)
  obtain ⟨-, rfl⟩ := AuthDb.execute_ok hWrittenₑ.run
  have hRow : row ∈ (wₑ.wrote e.statement e.reason (wₑ.db.apply e.statement)).db.sessions := by
    rw [hStatement]
    exact List.mem_append_right _ (List.mem_singleton_self _)
  rw [hEntryₚ]
  exact hRest.session_kept hRow

end Owners

/-! ## Sessions that have ended -/

theorem Statement.setSession_expiresAt (st : Statement) (row : Session) :
    (st.setSession row).expiresAt = row.expiresAt := by
  cases st <;> simp only [setSession] <;> split <;> rfl

/-- Revoked, or expired by `t`. -/
def Session.EndedBy (t : Int) (row : Session) : Prop := row.revokedAt ≠ none ∨ row.expiresAt < t

theorem Session.endedBy_iff {row : Session} {t : Int} : row.EndedBy t ↔ row.active t = false := by
  unfold EndedBy active
  by_cases hRevoked : row.revokedAt = none
  · simp [hRevoked]
  · simp [hRevoked]

theorem Session.EndedBy.set {row : Session} {t : Int} (h : row.EndedBy t) (st : Statement) :
    (st.setSession row).EndedBy t := by
  rcases h with hRevoked | hExpired
  · exact .inl (st.setSession_revoked hRevoked)
  · refine .inr ?_
    rw [st.setSession_expiresAt]
    exact hExpired

theorem Session.EndedBy.later {row : Session} {t t' : Int} (h : row.EndedBy t) (ht : t ≤ t') :
    row.active t' = false := by
  refine Session.endedBy_iff.1 ?_
  rcases h with hRevoked | hExpired
  · exact .inl hRevoked
  · exact .inr (Int.lt_of_lt_of_le hExpired ht)

section Ended

variable {settings : AuthSettings} {s w : AuthWorld}

/-- A session that has ended stays ended. -/
theorem Reached.session_ended (h : Reached settings s w) (hValid : s.db.Valid settings.prim)
    {row : Session} (hRow : row ∈ s.db.sessions) {t : Int} (hEnded : row.EndedBy t) :
    ∀ now ∈ w.db.sessions, now.sessionId = row.sessionId → now.EndedBy t := by
  have hAll : AllMarked (Session.EndedBy t) (·.sessionId = row.sessionId) w.db.sessions := by
    refine h.tables (I := fun db => AllMarked (Session.EndedBy t)
      (·.sessionId = row.sessionId) db.sessions) ?_ ?_
    · exact AllMarked.of_unique hValid.sessionIds hRow hEnded
    · intro w statement reason hWritten hChecked hOld
      obtain ⟨old, hMem, hId⟩ := hOld.exist
      refine hOld.add (fun x => by rw [statement.setSession_sessionId x])
        (fun _ hx => hx.set statement) fun new hNew hSame => ?_
      have hFresh := (AuthDb.constraints_addSession hChecked old hMem new hNew).1
      exact hFresh (hId.trans hSame.symm)
  exact hAll.mark

end Ended

/-! ## Old cookies after a change -/

/-- A run from empty history whose writes all meet the condition.  Ids, cookies and hashes are
fresh, so that a stored token belongs to the session that was given it. -/
structure SessionsKept (settings : AuthSettings) (s w : AuthWorld) : Prop where
  reached : Reached settings s w
  start : s.log = []
  valid : s.db.Valid settings.prim
  sound : SoundHashing settings.prim
  cookies : FreshCookies settings.prim s.db
  hashes : FreshHashes settings.prim s.db
  kept : Along sessionsEnded w.log

namespace SessionsKept

variable {settings : AuthSettings} {s w : AuthWorld} {p : Executed} {userId : String}

/-- A change has come before an entry that is none, unless the entry came first. -/
theorem change_before (k : SessionsKept settings s w) (hp : p ∈ w.log)
    (hChange : p.setsPassword? userId ≠ none) {e : Executed} (he : e ∈ w.log)
    (hOther : e.setsPassword? userId = none) (hOrder : p.drawn ≤ e.drawn) :
    p.drawn < e.drawn := by
  refine Nat.lt_of_le_of_ne hOrder fun hSame => ?_
  obtain rfl := k.reached.entry_eq k.start hp he hSame
  exact hChange hOther

/-- **No old hash is stored** from the change on: what a later write stores has been drawn
later.  The induction is on how the hash came to be an old one. -/
theorem oldHash_not_stored (k : SessionsKept settings s w) (hp : p ∈ w.log)
    (hChange : p.setsPassword? userId ≠ none) {passwordHash : String}
    (hOld : OldHash w.log p userId passwordHash) :
    ∀ e ∈ w.log, p.drawn ≤ e.drawn → ¬ e.storesHash userId passwordHash = true := by
  have hOnce := k.hashes.once k.sound
  induction hOld with
  | @inForce e u he hOrder hu hId =>
      intro e' he' hLater hStores
      obtain ⟨w₀, db, hWritten, hEntry, -⟩ := k.reached.entry k.start he
      have hUser : u ∈ w₀.db.users := by
        rw [hEntry] at hu
        exact hu
      have hDrawn : w₀.drawn ≤ e'.drawn := by
        have hHere : e.drawn = w₀.drawn := congrArg Executed.drawn hEntry
        omega
      exact (hWritten.reached.hashes_issued u hUser).not_drawn hOnce hDrawn
        (drawsHash_of_stores k.reached k.start he' hStores)
  | @rehashed e user password passwordHash he hReason hStored hOld ih =>
      intro e' he' hLater hStores
      have hSame : e'.drawn = e.drawn := hOnce.apart
        (drawsHash_of_stores k.reached k.start he' hStores)
        (drawsHash_of_stores k.reached k.start he hStored)
      obtain rfl := k.reached.entry_eq k.start he' he hSame
      obtain ⟨kid, now, hStatement⟩ := storesHash_cases hStored
      have hOther : e'.setsPassword? userId = none := by
        simp only [Executed.setsPassword?, hStatement, hReason]
      have hOrder := k.change_before hp hChange he hOther hLater
      obtain ⟨w₀, db, hWritten, hEntry, -, ⟨l, hLog⟩, hBefore⟩ := k.reached.entry k.start he
      have hCurrent : HashCurrent w₀.log user.userId user.passwordHash := by
        have hHere := k.kept.split hLog
        simpa only [sessionsEnded, hStatement, hReason] using hHere
      have hUser : user.userId = userId := by
        obtain ⟨route, hJustified⟩ := hWritten.justified
        rw [hStatement, hReason] at hJustified
        cases hJustified
        rfl
      rw [hUser] at hCurrent
      obtain ⟨e'', he'', hAfter, hStoresOld⟩ := hCurrent p (hBefore p hp hOrder) hChange
      have hMem : e'' ∈ w.log := by
        rw [hLog]
        exact List.mem_append_left _ he''
      exact ih e'' hMem hAfter hStoresOld

/-- From `q` on no old session is created: the write of a change, or for a reset the write
that revokes the sessions. -/
structure CutsOff (userId : String) (p q : Executed) : Prop where
  order : p.drawn ≤ q.drawn
  reset : p.isReset = true →
    p.drawn < q.drawn ∧ q.reason = p.reason ∧ q.revokesAll userId = true

/-- A sign-in that has verified an old hash has got its session before it is cut off. -/
theorem signIn_before (k : SessionsKept settings s w) (hp : p ∈ w.log)
    (hChange : p.setsPassword? userId ≠ none) {q : Executed} (hq : q ∈ w.log)
    (hCut : CutsOff userId p q) {e : Executed} {row : Session} {user : User}
    {password : String} (he : e ∈ w.log) (hStatement : e.statement = .insertSession row)
    (hReason : e.reason = .signIn user password) (hUser : row.userId = userId)
    (hOld : OldHash w.log p userId user.passwordHash) : e.drawn < q.drawn := by
  by_contra hNot
  have hOther : e.setsPassword? userId = none := by
    simp only [Executed.setsPassword?, hStatement]
  have hOrder := k.change_before hp hChange he hOther (by have hLe := hCut.order; omega)
  obtain ⟨w₀, db, hWritten, hEntry, -, ⟨l, hLog⟩, hBefore⟩ := k.reached.entry k.start he
  have hRevoked : p.isReset = true → HasRevoked w₀.log userId p := by
    intro hReset
    obtain ⟨hLess, hSame, hAll⟩ := hCut.reset hReset
    have hApart : q.drawn ≠ e.drawn := by
      intro hEq
      obtain rfl := k.reached.entry_eq k.start hq he hEq
      simp [Executed.revokesAll, hStatement] at hAll
    exact ⟨q, hBefore q hq (by omega), hLess, hSame, hAll⟩
  have hCurrent : SessionCurrent w₀.log user.userId user.passwordHash := by
    have hHere := k.kept.split hLog
    simpa only [sessionsEnded, hStatement, hReason] using hHere
  have hSame : row.userId = user.userId := by
    obtain ⟨route, hJustified⟩ := hWritten.justified
    rw [hStatement, hReason] at hJustified
    cases hJustified with
    | signedIn hSigns hUser => exact hUser
  rw [← hSame, hUser] at hCurrent
  obtain ⟨e', he', hAfter, hStores⟩ := hCurrent p (hBefore p hp hOrder) hChange hRevoked
  have hMem : e' ∈ w.log := by
    rw [hLog]
    exact List.mem_append_left _ he'
  exact k.oldHash_not_stored hp hChange hOld e' hMem hAfter hStores

/-- What a refresh has read: the session that it rotates, with the cookie of its caller. -/
theorem refresh_cases (k : SessionsKept settings s w) {e : Executed} (he : e ∈ w.log)
    {tokenHash csrfToken sessionId : String} {now : Int} {row : Session} {user : User}
    {membership : Membership}
    (hStatement : e.statement = .rotateToken tokenHash csrfToken now sessionId)
    (hReason : e.reason = .caller (.session row user membership)) :
    Owns w row.tokenHash sessionId := by
  obtain ⟨w₀, db, hWritten, hEntry, hRest, -⟩ := k.reached.entry k.start he
  obtain ⟨route, hJustified⟩ := hWritten.justified
  rw [hStatement, hReason] at hJustified
  cases hJustified with
  | refreshed hSeen hOwn =>
      have hId : row.sessionId = sessionId := by
        simpa [Principal.session?, Principal.isSession, Caller.principal] using hOwn
      have hSaw := (hWritten.andThen hRest).later.saw hSeen.1
      obtain ⟨db', hdb', hMem⟩ := hSaw
      exact .inl ⟨db', hdb', row, hMem, rfl, hId⟩

/-- **The session of an old cookie** was there before it was cut off, and it belongs to the
user whose password was changed. -/
theorem oldCookie_session (k : SessionsKept settings s w) (hp : p ∈ w.log)
    (hChange : p.setsPassword? userId ≠ none) {q : Executed} (hq : q ∈ w.log)
    (hCut : CutsOff userId p q) {tokenHash : String}
    (hOld : OldCookie w.log p userId tokenHash) :
    ∀ sessionId, Owns w tokenHash sessionId →
      ∃ row ∈ q.before.sessions, row.sessionId = sessionId ∧ row.userId = userId := by
  have hOwner := (k.reached.owner k.start k.valid k.cookies).2
  induction hOld with
  | @inForce e row he hOrder hRow hUser =>
      intro sessionId hOwns
      have hOwn : Owns w row.tokenHash row.sessionId :=
        .inl (AuthWorld.saw_iff.2 (.inl ⟨e, he, row, hRow, rfl, rfl⟩))
      obtain ⟨now, hMem, hId, hSame⟩ := session_before k.reached k.start he hq
        (Nat.le_trans hOrder hCut.order) hRow
      exact ⟨now, hMem, hId.trans (hOwner _ _ _ hOwn hOwns), hSame.trans hUser⟩
  | @signedIn e row user password he hStatement hReason hUser hOldHash =>
      intro sessionId hOwns
      have hOwn : Owns w row.tokenHash row.sessionId := by
        refine .inr ⟨e, he, ?_⟩
        rw [hStatement]
        rfl
      have hOrder := k.signIn_before hp hChange hq hCut he hStatement hReason hUser hOldHash
      obtain ⟨now, hMem, hId, hSame⟩ :=
        session_created k.reached k.start he hq hOrder hStatement
      exact ⟨now, hMem, hId.trans (hOwner _ _ _ hOwn hOwns), hSame.trans hUser⟩
  | @refreshed e tokenHash csrfToken session now row user membership he hStatement hReason hOld
      ih =>
      intro sessionId hOwns
      have hOwn : Owns w tokenHash session := by
        refine .inr ⟨e, he, ?_⟩
        rw [hStatement]
        rfl
      obtain rfl := hOwner _ _ _ hOwn hOwns
      exact ih session (k.refresh_cases he hStatement hReason)

/-- **No old cookie is given** to the caller's session once the change has rotated it.  The
induction is on how the cookie came to be an old one. -/
theorem oldCookie_not_given (k : SessionsKept settings s w) (hp : p ∈ w.log)
    (hChange : p.setsPassword? userId ≠ none) (hCut : CutsOff userId p p) {r : Executed}
    (hr : r ∈ w.log) (hOrder : p.drawn < r.drawn) {sessionId : String}
    (hRotates : r.rotatesOnChange sessionId = true) {tokenHash : String}
    (hOld : OldCookie w.log p userId tokenHash) :
    ∀ e ∈ w.log, r.drawn ≤ e.drawn →
      e.statement.givesCookie? ≠ some (tokenHash, sessionId) := by
  have hOnce := k.cookies.once
  induction hOld with
  | @inForce e row he hEarly hRow hUser =>
      intro e' he' hLater hGives
      obtain ⟨w₀, db, hWritten, hEntry, -⟩ := k.reached.entry k.start he
      have hMem : row ∈ w₀.db.sessions := by
        rw [hEntry] at hRow
        exact hRow
      have hDrawn : w₀.drawn ≤ e'.drawn := by
        have hHere : e.drawn = w₀.drawn := congrArg Executed.drawn hEntry
        omega
      exact (hWritten.reached.cookies_issued row hMem).not_drawn hOnce hDrawn
        (drawsToken_of_gives k.reached k.start he' hGives)
  | @signedIn e row user password he hStatement hReason hUser hOldHash =>
      intro e' he' hLater hGives
      have hGivesOld : e.statement.givesCookie? = some (row.tokenHash, row.sessionId) := by
        rw [hStatement]
        rfl
      have hSame : e.drawn = e'.drawn := hOnce.apart
        (drawsToken_of_gives k.reached k.start he hGivesOld)
        (drawsToken_of_gives k.reached k.start he' hGives)
      have hBefore := k.signIn_before hp hChange hp hCut he hStatement hReason hUser hOldHash
      omega
  | @refreshed e tokenHash csrfToken session now row user membership he hStatement hReason hOld
      ih =>
      intro e' he' hLater hGives
      have hGivesOld : e.statement.givesCookie? = some (tokenHash, session) := by
        rw [hStatement]
        rfl
      have hSame : e'.drawn = e.drawn := hOnce.apart
        (drawsToken_of_gives k.reached k.start he' hGives)
        (drawsToken_of_gives k.reached k.start he hGivesOld)
      obtain rfl := k.reached.entry_eq k.start he' he hSame
      obtain rfl : session = sessionId :=
        (Prod.mk.inj (Option.some.inj (hGivesOld.symm.trans hGives))).2
      -- the rotation of the change is another entry, so it came before this one
      have hApart : r.drawn ≠ e'.drawn := by
        intro hEq
        obtain rfl := k.reached.entry_eq k.start hr he hEq
        simp [Executed.rotatesOnChange, hStatement, hReason] at hRotates
      obtain ⟨w₀, db, hWritten, hEntry, -, ⟨l, hLog⟩, hBefore⟩ := k.reached.entry k.start he
      have hCurrent : CookieCurrent w₀.log session row.tokenHash := by
        have hHere := k.kept.split hLog
        simpa only [sessionsEnded, hStatement, hReason] using hHere
      obtain ⟨e'', he'', hAfter, hGivesRow⟩ :=
        hCurrent r (hBefore r hr (by omega)) hRotates
      have hMem : e'' ∈ w.log := by
        rw [hLog]
        exact List.mem_append_left _ he''
      exact ih e'' hMem hAfter hGivesRow

/-- The change or reset that a completion belongs to, with the write of the same handler that
cuts off the other sessions and lies between the two. -/
theorem completes_cases (k : SessionsKept settings s w) (hp : p ∈ w.log)
    {passwordHash password : String}
    (hSets : p.setsPassword? userId = some (passwordHash, password))
    (hDone : ∃ c ∈ w.log, c.completes? userId = some passwordHash) :
    ∃ r ∈ w.log, p.drawn < r.drawn ∧ p.reason = r.reason ∧
      ((∃ caller user newPassword sessionId, p.reason = .passwordChange caller user newPassword ∧
          caller.principal.session? = some sessionId ∧ Statement.rotates sessionId r.statement) ∨
        (∃ token newPassword, p.reason = .passwordReset token newPassword ∧
          Statement.revokesAll userId r.statement)) := by
  have hOnce := k.hashes.once k.sound
  obtain ⟨c, hc, hCompletes⟩ := hDone
  obtain ⟨w₀, db, hWritten, hEntry, hRest, ⟨l, hLog⟩, -⟩ := k.reached.entry k.start hc
  have hStored : p.storesHash userId passwordHash = true := by
    obtain ⟨kid, now, hStatement⟩ := setsPassword_statement hSets
    simp [Executed.storesHash, hStatement]
  -- the two writes of the handler, of which the first is the change itself
  have hBoth : ∀ {user : String} {Q : Statement → Prop} {reason : Reason},
      w₀.DidBoth (Statement.setsHash passwordHash user) Q reason →
      ∃ r ∈ w.log, p.drawn < r.drawn ∧ p.reason = reason ∧ r.reason = reason ∧
        Q r.statement ∧ Statement.setsHash passwordHash user p.statement := by
    rintro user Q reason ⟨e, r, hOrder, hHash, hQ, hReason, hReason'⟩
    have hSub : [e, r].Sublist w.log := by
      rw [hLog]
      exact hOrder.trans (List.sublist_append_left _ _)
    have he : e ∈ w.log := hSub.subset (by simp)
    have hr : r ∈ w.log := hSub.subset (by simp)
    have hLess : e.drawn < r.drawn :=
      (List.pairwise_cons.1 ((k.reached.log_sorted k.start).sublist hSub)).1 r (by simp)
    have hStores : e.storesHash user passwordHash = true := by
      unfold Executed.storesHash
      revert hHash
      cases e.statement <;> simp [Statement.setsHash]
    have hSame : e.drawn = p.drawn := hOnce.apart
      (drawsHash_of_stores k.reached k.start he hStores)
      (drawsHash_of_stores k.reached k.start hp hStored)
    obtain rfl := k.reached.entry_eq k.start he hp hSame
    exact ⟨r, hr, hLess, hReason, hReason', hQ, hHash⟩
  obtain ⟨route, hJustified⟩ := hWritten.justified
  unfold Executed.completes? at hCompletes
  split at hCompletes
  · rename_i row hash hStatement hReason
    obtain ⟨hUser, hHash⟩ := Option.ite_none_right_eq_some.1 hCompletes
    obtain rfl := Option.some.inj hHash
    rw [hStatement, hReason] at hJustified
    cases hJustified with
    | changeAudited hRoute hOwn hRow hDid =>
        obtain ⟨r, hr, hLess, hReason, hReason', hRotates, -⟩ := hBoth hDid
        exact ⟨r, hr, hLess, hReason.trans hReason'.symm,
          .inl ⟨_, _, _, _, hReason, hOwn, hRotates⟩⟩
    | resetAudited hRoute hRow hDid =>
        obtain ⟨r, hr, hLess, hReason, hReason', hRevokes, hSetsHash⟩ := hBoth hDid
        refine ⟨r, hr, hLess, hReason.trans hReason'.symm, .inr ⟨_, _, hReason, ?_⟩⟩
        obtain ⟨kid, now, hStored⟩ := storesHash_cases hStored
        rw [hStored] at hSetsHash
        rw [hSetsHash.2]
        exact hRevokes
  · cases hCompletes

/-- From the rotation of a change on, the session has a cookie that was given since. -/
theorem cookie_since (k : SessionsKept settings s w) {r : Executed} (hr : r ∈ w.log)
    {sessionId : String} (hRotates : Statement.rotates sessionId r.statement)
    (hExists : ∃ row ∈ r.before.sessions, row.sessionId = sessionId) :
    ∀ row ∈ w.db.sessions, row.sessionId = sessionId →
      ∃ e ∈ w.log, r.drawn ≤ e.drawn ∧
        e.statement.givesCookie? = some (row.tokenHash, sessionId) := by
  obtain ⟨w₀, db, hWritten, hEntry, hRest, -⟩ := k.reached.entry k.start hr
  obtain ⟨hChecked, rfl⟩ := AuthDb.execute_ok hWritten.run
  have hBefore : r.before = w₀.db := congrArg Executed.before hEntry
  have hDrawn : r.drawn = w₀.drawn := congrArg Executed.drawn hEntry
  refine (hRest.invariant (I := fun w => (∃ row ∈ w.db.sessions, row.sessionId = sessionId) ∧
    ∀ row ∈ w.db.sessions, row.sessionId = sessionId → ∃ e ∈ w.log, r.drawn ≤ e.drawn ∧
      e.statement.givesCookie? = some (row.tokenHash, sessionId)) ?_ ?_ ?_).2
  · obtain ⟨tokenHash, csrfToken, now, hStatement⟩ : ∃ tokenHash csrfToken now,
        r.statement = .rotateToken tokenHash csrfToken now sessionId := by
      revert hRotates
      cases r.statement <;> simp [Statement.rotates]
    rw [hBefore] at hExists
    obtain ⟨row, hRow, hId⟩ := hExists
    constructor
    · exact ⟨r.statement.setSession row, List.mem_append_left _ (List.mem_map_of_mem hRow),
        (r.statement.setSession_sessionId row).trans hId⟩
    · intro row' hRow' hId'
      refine ⟨r, ?_, Nat.le_refl _, ?_⟩
      · show r ∈ w₀.log ++ [w₀.entry r.statement r.reason]
        rw [← hEntry]
        simp
      · have hMapped : row' ∈ w₀.db.sessions.map r.statement.setSession := by
          rw [hStatement] at hRow' ⊢
          simpa [AuthWorld.wrote, AuthDb.apply, Statement.addSession] using hRow'
        obtain ⟨old, hOld, rfl⟩ := List.mem_map.1 hMapped
        rw [r.statement.setSession_sessionId] at hId'
        simp only [hStatement, Statement.setSession, if_pos hId', Statement.givesCookie?]
  · intro w w' hDb hLog _ _ hOld
    rw [hDb, hLog]
    exact hOld
  · rintro w statement reason db hNext ⟨⟨row₀, hRow₀, hId₀⟩, hOld⟩
    obtain ⟨hChecked', rfl⟩ := AuthDb.execute_ok hNext.run
    constructor
    · exact ⟨statement.setSession row₀, List.mem_append_left _ (List.mem_map_of_mem hRow₀),
        (statement.setSession_sessionId row₀).trans hId₀⟩
    · intro row hRow hId
      rcases List.mem_append.1 hRow with hRow | hRow
      · obtain ⟨old, hMem, rfl⟩ := List.mem_map.1 hRow
        rw [statement.setSession_sessionId] at hId
        rcases statement.setSession_tokenHash (s := old) with hKeep | ⟨hash, csrf, now, rfl, hNew⟩
        · rw [hKeep]
          obtain ⟨e, he, hRest⟩ := hOld old hMem hId
          exact ⟨e, List.mem_append_left _ he, hRest⟩
        · refine ⟨_, List.mem_append_right _ (List.mem_singleton_self _), ?_, ?_⟩
          · have hLater := hNext.reached.later.drawn
            have hStep : w₀.drawn + 16 ≤ w.drawn := hLater
            show r.drawn ≤ w.drawn
            omega
          · rw [hNew]
            show some (hash, old.sessionId) = _
            rw [hId]
      · have hFresh := (AuthDb.constraints_addSession hChecked' row₀ hRow₀ row hRow).1
        exact absurd (hId₀.trans hId.symm) hFresh

/-- **The session of an old cookie has ended** once the change or reset has completed: the
caller's own session has a new cookie by then, and every other one has been revoked. -/
theorem oldCookie_ended (k : SessionsKept settings s w) (hp : p ∈ w.log)
    {passwordHash password : String}
    (hSets : p.setsPassword? userId = some (passwordHash, password))
    (hDone : ∃ c ∈ w.log, c.completes? userId = some passwordHash) {row : Session}
    (hRow : row ∈ w.db.sessions) (hOld : OldCookie w.log p userId row.tokenHash) :
    row.active w.server.now = false := by
  have hChange : p.setsPassword? userId ≠ none := by
    rw [hSets]
    simp
  have hOwns : Owns w row.tokenHash row.sessionId := .inl (AuthWorld.saw_now ⟨row, hRow, rfl, rfl⟩)
  obtain ⟨r, hr, hLess, hSameReason, hKind⟩ := k.completes_cases hp hSets hDone
  rcases hKind with ⟨caller, user, newPassword, sessionId, hReason, hOwn, hRotates⟩ |
    ⟨token, newPassword, hReason, hRevokes⟩
  · have hCut : CutsOff userId p p := by
      refine ⟨Nat.le_refl _, fun hReset => ?_⟩
      simp [Executed.isReset, hReason] at hReset
    obtain ⟨old, hMem, hId, hUser⟩ := k.oldCookie_session hp hChange hp hCut hOld _ hOwns
    by_cases hCaller : row.sessionId = sessionId
    · -- the session of the caller: its cookie was given after the change
      have hRotatesOn : r.rotatesOnChange sessionId = true := by
        rw [hReason] at hSameReason
        unfold Executed.rotatesOnChange
        rw [← hSameReason]
        revert hRotates
        cases r.statement <;> simp [Statement.rotates]
      obtain ⟨now, hNow, hNowId, -⟩ :=
        session_before k.reached k.start hp hr (Nat.le_of_lt hLess) hMem
      obtain ⟨e, he, hAfter, hGives⟩ := k.cookie_since hr hRotates
        ⟨now, hNow, hNowId.trans (hId.trans hCaller)⟩ row hRow hCaller
      exact absurd hGives
        (k.oldCookie_not_given hp hChange hCut hr hLess hRotatesOn hOld e he hAfter)
    · -- another session: it had ended when the hash was written
      obtain ⟨w₀, db, hWritten, hEntry, hRest, ⟨l, hLog⟩, -⟩ := k.reached.entry k.start hp
      obtain ⟨kid, time, hStatement⟩ := setsPassword_statement hSets
      have hOwner : user.userId = userId := by
        obtain ⟨route, hJustified⟩ := hWritten.justified
        rw [hStatement, hReason] at hJustified
        cases hJustified
        rfl
      have hEnded : old.EndedBy p.clock := by
        have hHere := k.kept.split hLog
        simp only [sessionsEnded, hStatement, hReason] at hHere
        refine Session.endedBy_iff.2 (hHere old hMem (hUser.trans hOwner.symm) ?_)
        rw [hOwn]
        exact fun hSame => hCaller (hId.symm.trans (Option.some.inj hSame).symm)
      have hMem₀ : old ∈ w₀.db.sessions := by
        rw [hEntry] at hMem
        exact hMem
      have hStill := (hWritten.andThen hRest).session_ended (hWritten.reached.valid k.valid) hMem₀
        hEnded row hRow hId.symm
      have hClock : p.clock = w₀.server.now := congrArg Executed.clock hEntry
      refine hStill.later ?_
      rw [hClock]
      exact (hWritten.andThen hRest).later.now
  · -- a reset revokes every session that is there by then
    obtain ⟨time, hStatement⟩ : ∃ time, r.statement = .revokeAllForUser time userId := by
      revert hRevokes
      cases r.statement <;> simp [Statement.revokesAll]
    have hCut : CutsOff userId p r := by
      refine ⟨Nat.le_of_lt hLess, fun _ => ⟨hLess, hSameReason.symm, ?_⟩⟩
      simp [Executed.revokesAll, hStatement]
    obtain ⟨old, hMem, hId, hUser⟩ := k.oldCookie_session hp hChange hr hCut hOld _ hOwns
    obtain ⟨w₁, db, hWritten, hEntry, hRest, -⟩ := k.reached.entry k.start hr
    obtain ⟨hChecked, rfl⟩ := AuthDb.execute_ok hWritten.run
    have hMem₁ : old ∈ w₁.db.sessions := by
      rw [hEntry] at hMem
      exact hMem
    have hAfter : r.statement.setSession old ∈ (w₁.wrote r.statement r.reason
        (w₁.db.apply r.statement)).db.sessions :=
      List.mem_append_left _ (List.mem_map_of_mem hMem₁)
    have hRevoked : (r.statement.setSession old).revokedAt ≠ none := by
      rw [hStatement]
      simp only [Statement.setSession]
      by_cases hFree : old.revokedAt = none
      · rw [if_pos ⟨hUser, hFree⟩]
        simp
      · rw [if_neg fun hBoth => hFree hBoth.2]
        exact hFree
    have hValid₁ := (hWritten.reached.valid k.valid).apply hChecked
    have hSameId : row.sessionId = (r.statement.setSession old).sessionId := by
      rw [r.statement.setSession_sessionId]
      exact hId.symm
    have hEnded : (r.statement.setSession old).EndedBy w.server.now := .inl hRevoked
    exact Session.endedBy_iff.1 (hRest.session_ended hValid₁ hAfter hEnded row hRow hSameId)

end SessionsKept

/-! ## Every run -/

/-- A request with the cookie is resolved to a principal in this state of the server. -/
def Resolves (settings : AuthSettings) (w : AuthWorld) (raw : String) : Prop :=
  ∃ http caller, Dict.get? http.cookies settings.cookieName = some raw ∧
    Async.Returns (· = w) (resolveSession settings http) (some caller)

section Resolves

variable {settings : AuthSettings} {w : AuthWorld} {raw : String}

theorem Resolves.active (h : Resolves settings w raw) :
    ∃ row ∈ w.db.sessions, row.tokenHash = settings.prim.sha256Hex raw ∧
      row.active w.server.now = true := by
  obtain ⟨http, caller, hCookie, hReturns⟩ := h
  unfold resolveSession at hReturns
  rw [hCookie] at hReturns
  by_cases hEmpty : raw = ""
  · subst hEmpty
    cases hReturns
  · have hSome : nonempty (some raw) = some raw := by simp [nonempty, hEmpty]
    rw [hSome] at hReturns
    obtain ⟨found, hLookup, hRest⟩ := Async.returns_bind.1 hReturns
    cases found with
    | none => cases hRest
    | some row =>
        obtain ⟨w₁, rfl, hRow, hHash, w₂, rfl, hActive⟩ := returns_lookupSession hLookup
        exact ⟨row, hRow, hHash, hActive⟩

/-- A live session of an active user who is a member of an organisation. -/
theorem resolves_of {row : Session} {user : User} {membership : Membership} (hRaw : raw ≠ "")
    (hRow : w.db.findSessionByHash (settings.prim.sha256Hex raw) = some row)
    (hActive : row.active w.server.now = true)
    (hUser : w.db.findByUserId row.userId = some user) (hStatus : user.status = .active)
    (hMember : w.db.primaryMembership user.userId = some membership) :
    Resolves settings w raw := by
  refine ⟨{ cookies := [(settings.cookieName, raw)] }, .session row user membership, ?_, ?_⟩
  · simp [Dict.get?]
  · have hSome : nonempty (some raw) = some raw := by simp [nonempty, hRaw]
    have hGet : Dict.get? [(settings.cookieName, raw)] settings.cookieName = some raw := by
      simp [Dict.get?]
    unfold resolveSession
    simp only [hGet, hSome]
    refine Async.returns_bind.2 ⟨some row, ?_, ?_⟩
    · unfold lookupSession
      rw [if_neg hRaw]
      refine ⟨w, rfl, w, rfl, ?_⟩
      show Option.filter _ (w.db.findSessionByHash _) = some row
      rw [hRow]
      simp [hActive]
    · refine Async.returns_read_bind.2 ⟨w, rfl, ?_⟩
      have hFound : (w.db.findByUserId row.userId).filter (fun u => u.status = .active) =
          some user := by
        rw [hUser]
        simp [hStatus]
      simp only [hFound]
      refine Async.returns_read_bind.2 ⟨w, rfl, ?_⟩
      simp only [hMember]
      exact Async.returns_bind.2 ⟨w.drawn, ⟨w, rfl, w, rfl, rfl⟩, rfl⟩

end Resolves

/-- **Old sessions end with the password.**  In every run whose writes meet the condition,
once a change or reset has completed, no cookie that was issued on the strength of the
password before it is resolved to a principal. -/
theorem password_change_ends_sessions (settings : AuthSettings) (server : World) (db : AuthDb)
    (hValid : db.Valid settings.prim) (hSound : SoundHashing settings.prim)
    (hCookies : FreshCookies settings.prim db) (hHashes : FreshHashes settings.prim db)
    (events : List (Event (authService settings)))
    (hKept : Along sessionsEnded (authRun settings server db events).state.log)
    (userId : String) (p : Executed) (hp : p ∈ (authRun settings server db events).state.log)
    (passwordHash password : String)
    (hSets : p.setsPassword? userId = some (passwordHash, password))
    (hDone : ∃ c ∈ (authRun settings server db events).state.log,
      c.completes? userId = some passwordHash)
    (raw : String) (hOld : OldCookie (authRun settings server db events).state.log p userId
      (settings.prim.sha256Hex raw)) :
    ¬ Resolves settings (authRun settings server db events).state raw := by
  intro hResolves
  have k : SessionsKept settings (.initial server db) (authRun settings server db events).state :=
    ⟨authRun_reached settings server db events, rfl, hValid, hSound, hCookies, hHashes, hKept⟩
  obtain ⟨row, hRow, hHash, hActive⟩ := hResolves.active
  rw [← hHash] at hOld
  have hEnded := k.oldCookie_ended hp hSets hDone hRow hOld
  rw [hActive] at hEnded
  cases hEnded

namespace Sample

def session (sessionId cookie : String) : Session where
  sessionId := sessionId
  userId := "u"
  tokenHash := cookie
  csrfToken := "csrf"
  createdAt := 0
  lastUsedAt := 0
  expiresAt := 100000

/-- The user is signed in with some cookies. -/
def signedInDb (sessions : List Session) : AuthDb := { authDb with sessions := sessions }

/-- One change of the password, with the first cookie. -/
def oneChange : List (Event (authService authSettings)) :=
  .request (Request.passwordChange
    { headers := [("x-csrf-token", "csrf")], cookies := [("shield_session", "one")] }
    { currentPassword := "password", newPassword := "password-1" }) :: steps 0 20

theorem signedInDb_valid {sessions : List Session} (hIds : KeyUnique (·.sessionId) sessions)
    (hCookies : KeyUnique (·.tokenHash) sessions) : (signedInDb sessions).Valid authPrim :=
  { authDb_valid with sessionIds := hIds, cookies := hCookies }

theorem signedInDb_cookies {sessions : List Session}
    (h : ∀ row ∈ sessions, row.tokenHash.toList.all (· = 't') = false) :
    FreshCookies authPrim (signedInDb sessions) where
  apart _ _ hSame := authPrim_token hSame
  unseen row hRow n := authPrim_token_ne (h row hRow) n

theorem signedInDb_hashes (sessions : List Session) :
    FreshHashes authPrim (signedInDb sessions) := by
  intro u hu n text hSame
  obtain rfl : u = user := by simpa [signedInDb, authDb] using hu
  have hText := congrArg String.toList hSame
  simp [user, authPrim, String.toList_ofList, List.replicate_succ] at hText

/-- A session, and another one of the same user. -/
def firstSession : List Session := [session "a" "one"]

def twoSessions : List Session := [session "a" "one", session "b" "two"]

end Sample

/-- The cookie with which the change was made resolves nothing afterwards. -/
theorem password_change_ends_sessions_sample :
    ¬ Resolves Sample.authSettings (authRun Sample.authSettings Sample.authServer
      (Sample.signedInDb Sample.firstSession) Sample.oneChange).state "one" := by
  have hChange : ∃ p ∈ (authRun Sample.authSettings Sample.authServer
      (Sample.signedInDb Sample.firstSession) Sample.oneChange).state.log,
      p.setsPassword? "u" = some ((freshHash Sample.authSettings 16 "password-1").1,
        "password-1") ∧
      ∃ row ∈ p.before.sessions, row.userId = "u" ∧ row.tokenHash = "one" := by decide +kernel
  obtain ⟨p, hp, hSets, row, hRow, hUser, hCookie⟩ := hChange
  have hOld := OldCookie.inForce hp (Nat.le_refl _) hRow hUser
  rw [hCookie] at hOld
  exact password_change_ends_sessions Sample.authSettings Sample.authServer
    (Sample.signedInDb Sample.firstSession)
    (Sample.signedInDb_valid (by simp [KeyUnique, Sample.firstSession])
      (by simp [KeyUnique, Sample.firstSession]))
    Sample.authPrim_sound (Sample.signedInDb_cookies (by decide)) (Sample.signedInDb_hashes _)
    Sample.oneChange (by decide +kernel) "u" p hp _ _ hSets (by decide +kernel) "one" hOld

/-- **Another session outlives the change.**  The user is signed in twice and changes the
password in one session; the cookie of the other one still resolves. -/
theorem other_session_survives_change :
    (authRun Sample.authSettings Sample.authServer (Sample.signedInDb Sample.twoSessions)
        Sample.oneChange).threads.map (·.2.succeeded) = [true] ∧
      Resolves Sample.authSettings (authRun Sample.authSettings Sample.authServer
        (Sample.signedInDb Sample.twoSessions) Sample.oneChange).state "two" ∧
      ¬ ∀ (settings : AuthSettings) (server : World) (db : AuthDb), db.Valid settings.prim →
        SoundHashing settings.prim → FreshCookies settings.prim db →
        FreshHashes settings.prim db → ∀ (events : List (Event (authService settings)))
        (userId : String), ∀ p ∈ (authRun settings server db events).state.log,
        ∀ passwordHash password, p.setsPassword? userId = some (passwordHash, password) →
        (∃ c ∈ (authRun settings server db events).state.log,
          c.completes? userId = some passwordHash) →
        ∀ raw, OldCookie (authRun settings server db events).state.log p userId
          (settings.prim.sha256Hex raw) →
        ¬ Resolves settings (authRun settings server db events).state raw := by
  have hResolves : Resolves Sample.authSettings (authRun Sample.authSettings Sample.authServer
      (Sample.signedInDb Sample.twoSessions) Sample.oneChange).state "two" := by
    have hUser : ∃ u ∈ (authRun Sample.authSettings Sample.authServer
        (Sample.signedInDb Sample.twoSessions) Sample.oneChange).state.db.users,
        (authRun Sample.authSettings Sample.authServer (Sample.signedInDb Sample.twoSessions)
          Sample.oneChange).state.db.findByUserId "u" = some u ∧ u.status = .active ∧
        ∃ m ∈ Sample.authDb.memberships, (authRun Sample.authSettings Sample.authServer
          (Sample.signedInDb Sample.twoSessions) Sample.oneChange).state.db.primaryMembership
          u.userId = some m := by decide +kernel
    obtain ⟨u, -, hFind, hStatus, m, -, hMember⟩ := hUser
    have hRow : (authRun Sample.authSettings Sample.authServer
        (Sample.signedInDb Sample.twoSessions) Sample.oneChange).state.db.findSessionByHash
        "two" = some (Sample.session "b" "two") := by decide +kernel
    exact resolves_of (by decide) hRow (by decide +kernel) hFind hStatus hMember
  have hChange : ∃ p ∈ (authRun Sample.authSettings Sample.authServer
      (Sample.signedInDb Sample.twoSessions) Sample.oneChange).state.log,
      p.setsPassword? "u" = some ((freshHash Sample.authSettings 16 "password-1").1,
        "password-1") ∧
      ∃ row ∈ p.before.sessions, row.userId = "u" ∧ row.tokenHash = "two" := by decide +kernel
  refine ⟨by decide +kernel, hResolves, fun hAll => ?_⟩
  obtain ⟨p, hp, hSets, row, hRow, hUser, hCookie⟩ := hChange
  have hOld := OldCookie.inForce hp (Nat.le_refl _) hRow hUser
  rw [hCookie] at hOld
  exact hAll Sample.authSettings Sample.authServer (Sample.signedInDb Sample.twoSessions)
    (Sample.signedInDb_valid (by simp [KeyUnique, Sample.twoSessions, Sample.session])
      (by simp [KeyUnique, Sample.twoSessions, Sample.session]))
    Sample.authPrim_sound (Sample.signedInDb_cookies (by decide)) (Sample.signedInDb_hashes _)
    Sample.oneChange "u" p hp _ _ hSets (by decide +kernel) "two" hOld hResolves

end AgentShield.Auth
