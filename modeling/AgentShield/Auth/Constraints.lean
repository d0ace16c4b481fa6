import AgentShield.Lib.Rows
import AgentShield.Auth.Tables

/-!
# What the constraints of the tables promise

The keys and unique columns of the tables hold whatever statement is executed
(`AuthDb.Valid.apply`): a statement that would break one is refused.
-/

namespace AgentShield.Auth

open AgentShield.Lib AgentShield.Sdk AgentShield.Server

/-! ## Constraints that were checked -/

theorem check_bind_ok {p : Prop} [Decidable p] {c : Constraint}
    {next : Unit → Except Constraint Unit} :
    (check p c >>= next) = .ok () ↔ p ∧ next () = .ok () := by
  unfold check
  by_cases hp : p
  · simp [hp, bind, Except.bind]
  · simp [hp, bind, Except.bind]

/-- A check passes exactly when its condition holds. -/
theorem check_ok {p : Prop} [Decidable p] {c : Constraint} : check p c = .ok () ↔ p := by
  unfold check
  by_cases hp : p
  · simp [hp]
  · simp [hp]

/-! ## What no statement changes -/

namespace Statement

variable (st : Statement)

theorem setUser_userId (u : User) : (st.setUser u).userId = u.userId := by
  cases st <;> simp only [setUser] <;> split <;> rfl

theorem setUser_email (u : User) : (st.setUser u).email = u.email := by
  cases st <;> simp only [setUser] <;> split <;> rfl

theorem setMembership_userId (m : Membership) : (st.setMembership m).userId = m.userId := by
  cases st <;> simp only [setMembership]
  split <;> rfl

theorem setSession_sessionId (s : Session) : (st.setSession s).sessionId = s.sessionId := by
  cases st <;> simp only [setSession] <;> split <;> rfl

theorem setSession_userId (s : Session) : (st.setSession s).userId = s.userId := by
  cases st <;> simp only [setSession] <;> split <;> rfl

theorem setToken_kind (t : TokenRow) : (st.setToken t).kind = t.kind := by
  cases st <;> simp only [setToken]
  split <;> rfl

theorem setToken_tokenHash (t : TokenRow) : (st.setToken t).tokenHash = t.tokenHash := by
  cases st <;> simp only [setToken]
  split <;> rfl

theorem setToken_userId (t : TokenRow) : (st.setToken t).userId = t.userId := by
  cases st <;> simp only [setToken]
  split <;> rfl

theorem setInvite_inviteId (i : Invite) : (st.setInvite i).inviteId = i.inviteId := by
  cases st <;> simp only [setInvite]
  split <;> rfl

theorem setInvite_tokenHash (i : Invite) : (st.setInvite i).tokenHash = i.tokenHash := by
  cases st <;> simp only [setInvite]
  split <;> rfl

theorem setInvite_email (i : Invite) : (st.setInvite i).email = i.email := by
  cases st <;> simp only [setInvite]
  split <;> rfl

/-- No UPDATE moves a credential to another user. -/
theorem setTotpCredential_userId {c c' : TotpCredential}
    (h : st.setTotpCredential c = some c') : c'.userId = c.userId := by
  cases st with
  | setRecoveryCodes hashes now userId =>
      obtain rfl := Option.some.inj h
      split <;> rfl
  | deleteTotpCredential userId =>
      simp only [setTotpCredential, Option.ite_none_left_eq_some, Option.some.injEq] at h
      rw [h.2]
  | _ =>
      obtain rfl := Option.some.inj h
      rfl

theorem setApiKey_apiKeyId (k : ApiKey) : (st.setApiKey k).apiKeyId = k.apiKeyId := by
  cases st <;> simp only [setApiKey] <;> split <;> rfl

theorem setApiKey_tokenHash (k : ApiKey) : (st.setApiKey k).tokenHash = k.tokenHash := by
  cases st <;> simp only [setApiKey] <;> split <;> rfl

/-- Only a rotation gives a session another cookie. -/
theorem setSession_tokenHash {s : Session} :
    (st.setSession s).tokenHash = s.tokenHash ∨ ∃ tokenHash csrfToken now,
      st = .rotateToken tokenHash csrfToken now s.sessionId ∧
        (st.setSession s).tokenHash = tokenHash := by
  cases st with
  | rotateToken tokenHash csrfToken now sessionId =>
      simp only [setSession]
      by_cases hSame : s.sessionId = sessionId
      · exact .inr ⟨tokenHash, csrfToken, now, by rw [hSame], by rw [if_pos hSame]⟩
      · exact .inl (by rw [if_neg hSame])
  | _ => exact .inl (by simp only [setSession] <;> split <;> rfl)

end Statement

/-! ## Keys and unique columns -/

/-- No two rows of a table share a key or a unique column, and a token belongs to a user. -/
structure AuthDb.Valid (prim : AuthPrimitives) (db : AuthDb) : Prop where
  userIds : KeyUnique (·.userId) db.users
  emails : KeyUnique (fun u => prim.lower u.email) db.users
  sessionIds : KeyUnique (·.sessionId) db.sessions
  cookies : KeyUnique (·.tokenHash) db.sessions
  tokens : KeyUnique (fun t => (t.kind, t.tokenHash)) db.tokens
  inviteIds : KeyUnique (·.inviteId) db.invites
  inviteTokens : KeyUnique (·.tokenHash) db.invites
  totpCredentials : KeyUnique (·.userId) db.totpCredentials
  apiKeyIds : KeyUnique (·.apiKeyId) db.apiKeys
  keyHashes : KeyUnique (·.tokenHash) db.apiKeys
  tokenUsers : ∀ t ∈ db.tokens, db.hasUser t.userId

namespace Statement

/-! ### A statement adds one row at most -/

variable {κ : Type} (st : Statement)

/-- A statement adds at most one user, so its own rows do not collide. -/
theorem addUser_unique (key : User → κ) : KeyUnique key st.addUser := by
  cases st <;> first | exact keyUnique_nil _ | exact keyUnique_singleton _ _

theorem addSession_unique (key : Session → κ) : KeyUnique key st.addSession := by
  cases st <;> first | exact keyUnique_nil _ | exact keyUnique_singleton _ _

theorem addToken_unique (key : TokenRow → κ) : KeyUnique key st.addToken := by
  cases st <;> first | exact keyUnique_nil _ | exact keyUnique_singleton _ _

theorem addInvite_unique (key : Invite → κ) : KeyUnique key st.addInvite := by
  cases st <;> first | exact keyUnique_nil _ | exact keyUnique_singleton _ _

theorem addTotpCredential_unique (key : TotpCredential → κ) :
    KeyUnique key st.addTotpCredential := by
  cases st <;> first | exact keyUnique_nil _ | exact keyUnique_singleton _ _

theorem addApiKey_unique (key : ApiKey → κ) : KeyUnique key st.addApiKey := by
  cases st <;> first | exact keyUnique_nil _ | exact keyUnique_singleton _ _

end Statement

namespace AuthDb

/-! ### What the checks of an insert say -/

variable {prim : AuthPrimitives} {db : AuthDb} {st : Statement}

/-- A user that may be added has an id and an address that no other user has, upper and lower
case apart. -/
theorem constraints_addUser (h : db.constraints prim st = .ok ()) :
    ∀ u ∈ db.users, ∀ new ∈ st.addUser,
      u.userId ≠ new.userId ∧ prim.lower u.email ≠ prim.lower new.email := by
  intro u hu new hNew
  cases st <;> simp only [Statement.addUser, List.mem_singleton, List.not_mem_nil] at hNew
  subst hNew
  simp only [constraints, check_bind_ok] at h
  exact ⟨fun hSame => h.1 ⟨u, hu, hSame⟩, h.2.1 u hu⟩

/-- A session that may be added has an id and a token that no other session has. -/
theorem constraints_addSession (h : db.constraints prim st = .ok ()) :
    ∀ s ∈ db.sessions, ∀ new ∈ st.addSession,
      s.sessionId ≠ new.sessionId ∧ s.tokenHash ≠ new.tokenHash := by
  intro s hs new hNew
  cases st <;> simp only [Statement.addSession, List.mem_singleton, List.not_mem_nil] at hNew
  subst hNew
  simp only [constraints, check_bind_ok] at h
  exact ⟨h.1 s hs, h.2.1 s hs⟩

/-- A token that may be added is not in its table yet. -/
theorem constraints_addToken (h : db.constraints prim st = .ok ()) :
    ∀ t ∈ db.tokens, ∀ new ∈ st.addToken, (t.kind, t.tokenHash) ≠ (new.kind, new.tokenHash) := by
  intro t ht new hNew
  cases st <;> simp only [Statement.addToken, List.mem_singleton, List.not_mem_nil] at hNew
  subst hNew
  simp only [constraints, check_bind_ok] at h
  intro hSame
  exact h.1 t ht (Prod.mk.inj hSame)

/-- An invite that may be added has an id and a token that no other invite has. -/
theorem constraints_addInvite (h : db.constraints prim st = .ok ()) :
    ∀ i ∈ db.invites, ∀ new ∈ st.addInvite,
      i.inviteId ≠ new.inviteId ∧ i.tokenHash ≠ new.tokenHash := by
  intro i hi new hNew
  cases st <;> simp only [Statement.addInvite, List.mem_singleton, List.not_mem_nil] at hNew
  subst hNew
  simp only [constraints, check_bind_ok] at h
  exact ⟨h.1 i hi, h.2.1 i hi⟩

/-- A credential may be added for a user who has none. -/
theorem constraints_addTotpCredential (h : db.constraints prim st = .ok ()) :
    ∀ c ∈ db.totpCredentials, ∀ new ∈ st.addTotpCredential, c.userId ≠ new.userId := by
  intro c hc new hNew
  cases st <;>
    simp only [Statement.addTotpCredential, List.mem_singleton, List.not_mem_nil] at hNew
  subst hNew
  simp only [constraints, check_bind_ok] at h
  exact h.1 c hc

/-- A key that may be added has an id and a secret that no other key has. -/
theorem constraints_addApiKey (h : db.constraints prim st = .ok ()) :
    ∀ k ∈ db.apiKeys, ∀ new ∈ st.addApiKey,
      k.apiKeyId ≠ new.apiKeyId ∧ k.tokenHash ≠ new.tokenHash := by
  intro k hk new hNew
  cases st <;> simp only [Statement.addApiKey, List.mem_singleton, List.not_mem_nil] at hNew
  subst hNew
  simp only [constraints, check_bind_ok] at h
  exact ⟨h.1 k hk, h.2.1 k hk⟩

/-- A rotation keeps the cookies apart: no other session has the new one, and the session
itself is the only one that is changed. -/
theorem cookies_rotateToken {tokenHash csrfToken sessionId : String} {now : Int}
    (hIds : KeyUnique (·.sessionId) db.sessions) (hCookies : KeyUnique (·.tokenHash) db.sessions)
    (h : db.constraints prim (.rotateToken tokenHash csrfToken now sessionId) = .ok ()) :
    KeyUnique (·.tokenHash)
      (db.sessions.map (Statement.rotateToken tokenHash csrfToken now sessionId).setSession) := by
  have hOthers : ∀ s ∈ db.sessions, ∀ s' ∈ db.sessions, s.sessionId = sessionId →
      s'.sessionId ≠ sessionId → s'.tokenHash ≠ tokenHash := by
    simp only [constraints, check_ok] at h
    rcases h with hNone | hFree
    · exact fun s hs _ _ hId _ => absurd hId (hNone s hs)
    · exact fun _ _ s' hs' _ hOther => (hFree s' hs').resolve_left hOther
  unfold KeyUnique
  rw [List.map_map]
  refine List.Nodup.map_on ?_ (List.Nodup.of_map _ hCookies)
  intro s hs s' hs' hSame
  simp only [Function.comp_apply, Statement.setSession] at hSame
  by_cases hId : s.sessionId = sessionId
  · by_cases hId' : s'.sessionId = sessionId
    · exact hIds.eq hs hs' (hId.trans hId'.symm)
    · rw [if_pos hId, if_neg hId'] at hSame
      exact absurd hSame.symm (hOthers s hs s' hs' hId hId')
  · by_cases hId' : s'.sessionId = sessionId
    · rw [if_neg hId, if_pos hId'] at hSame
      exact absurd hSame (hOthers s' hs' s hs hId' hId)
    · rw [if_neg hId, if_neg hId'] at hSame
      exact hCookies.eq hs hs' hSame

/-- No statement takes a user away. -/
theorem hasUser_apply {userId : String} (h : db.hasUser userId) :
    (db.apply st).hasUser userId := by
  obtain ⟨u, hu, hId⟩ := h
  exact ⟨st.setUser u, List.mem_append_left _ (List.mem_map_of_mem hu),
    (st.setUser_userId u).trans hId⟩

/-- A new token is checked to belong to a user. -/
theorem tokenUsers_apply (hOld : ∀ t ∈ db.tokens, db.hasUser t.userId)
    (h : db.constraints prim st = .ok ()) :
    ∀ t ∈ (db.apply st).tokens, (db.apply st).hasUser t.userId := by
  intro t ht
  rcases List.mem_append.1 ht with ht | ht
  · obtain ⟨old, hMem, rfl⟩ := List.mem_map.1 ht
    rw [st.setToken_userId]
    exact hasUser_apply (hOld old hMem)
  · cases st <;> simp only [Statement.addToken, List.mem_singleton, List.not_mem_nil] at ht
    subst ht
    simp only [constraints, check_bind_ok, check_ok] at h
    exact hasUser_apply h.2

/-- **The keys and unique columns** hold after every statement that is executed.  Each column
is kept by the old rows and met by the new ones, which the constraints have been checked for.
-/
theorem Valid.apply (hValid : db.Valid prim) (h : db.constraints prim st = .ok ()) :
    (db.apply st).Valid prim where
  userIds := hValid.userIds.add (fun u _ => st.setUser_userId u) (st.addUser_unique _)
    fun u hu new hNew => (constraints_addUser h u hu new hNew).1
  emails := hValid.emails.add (fun u _ => by rw [st.setUser_email u]) (st.addUser_unique _)
    fun u hu new hNew => (constraints_addUser h u hu new hNew).2
  sessionIds := hValid.sessionIds.add (fun s _ => st.setSession_sessionId s)
    (st.addSession_unique _) fun s hs new hNew => (constraints_addSession h s hs new hNew).1
  cookies := by
    by_cases hKeep : ∀ s ∈ db.sessions, (st.setSession s).tokenHash = s.tokenHash
    · exact hValid.cookies.add hKeep (st.addSession_unique _)
        fun s hs new hNew => (constraints_addSession h s hs new hNew).2
    · push Not at hKeep
      obtain ⟨s, hs, hChanged⟩ := hKeep
      obtain ⟨tokenHash, csrfToken, now, rfl, -⟩ :=
        (st.setSession_tokenHash (s := s)).resolve_left hChanged
      have hRotated := cookies_rotateToken hValid.sessionIds hValid.cookies h
      simpa [AuthDb.apply, Statement.addSession] using hRotated
  tokens := hValid.tokens.add
    (fun t _ => by rw [st.setToken_kind t, st.setToken_tokenHash t]) (st.addToken_unique _)
    (constraints_addToken h)
  inviteIds := hValid.inviteIds.add (fun i _ => st.setInvite_inviteId i)
    (st.addInvite_unique _) fun i hi new hNew => (constraints_addInvite h i hi new hNew).1
  inviteTokens := hValid.inviteTokens.add (fun i _ => st.setInvite_tokenHash i)
    (st.addInvite_unique _) fun i hi new hNew => (constraints_addInvite h i hi new hNew).2
  totpCredentials := hValid.totpCredentials.filterMap
    (fun _ _ hSet => st.setTotpCredential_userId hSet) (st.addTotpCredential_unique _)
    (constraints_addTotpCredential h)
  apiKeyIds := hValid.apiKeyIds.add (fun k _ => st.setApiKey_apiKeyId k)
    (st.addApiKey_unique _) fun k hk new hNew => (constraints_addApiKey h k hk new hNew).1
  keyHashes := hValid.keyHashes.add (fun k _ => st.setApiKey_tokenHash k)
    (st.addApiKey_unique _) fun k hk new hNew => (constraints_addApiKey h k hk new hNew).2
  tokenUsers := tokenUsers_apply hValid.tokenUsers h

end AuthDb

end AgentShield.Auth
