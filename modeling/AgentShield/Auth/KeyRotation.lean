import AgentShield.Auth.Callers
import AgentShield.Auth.SingleUse

/-!
# Key rotation

The peppers of the passwords and the keys of the TOTP secrets rotate: a new one becomes
active, and older ones are removed in the end.  A sign-in that finds a password hash under
an old pepper replaces it.  Nothing replaces a TOTP secret under an old key, although
`decrypt` reports that it should be: it is readable as long as that key is kept
(`able_after_rotation_iff`).
-/

namespace AgentShield.Auth

open AgentShield.Lib AgentShield.Sdk AgentShield.Server

/-! ## What a sign-in is verified with -/

/-- What of an account depends on a pepper: its hash and the key id of the pepper under it. -/
structure UserSecrets where
  userId : String
  passwordHash : String
  passwordPepperKid : String
  deriving DecidableEq

def User.secrets (u : User) : UserSecrets where
  userId := u.userId
  passwordHash := u.passwordHash
  passwordPepperKid := u.passwordPepperKid

/-- The hashes of the passwords and the credentials of the second factor. -/
structure Secrets where
  users : List UserSecrets
  credentials : List TotpCredential

/-- All that is stored under a pepper or a Fernet key. -/
def AuthDb.secrets (db : AuthDb) : Secrets where
  users := db.users.map User.secrets
  credentials := db.totpCredentials

/-- An account's secrets after its password has been hashed anew. -/
def UserSecrets.rehash (userId : String) (hashed : String × String) (u : UserSecrets) :
    UserSecrets :=
  if u.userId = userId then
    { u with passwordHash := hashed.1, passwordPepperKid := hashed.2 }
  else u

def Secrets.rehash (s : Secrets) (userId : String) (hashed : String × String) : Secrets :=
  { s with users := s.users.map (UserSecrets.rehash userId hashed) }

/-- The statement is one of a sign-in, and stores no hash. -/
def Statement.keepsSecrets : Statement → Bool
  | .setFailedLogin .. | .resetFailedLogin .. | .insertSession _ | .insertAudit _ => true
  | _ => false

/-- A statement outside the secrets leaves them all as they are. -/
theorem secrets_apply {st : Statement} (h : st.keepsSecrets = true) (db : AuthDb) :
    (db.apply st).secrets = db.secrets := by
  have hUsers : st.addUser = [] ∧ ∀ u, (st.setUser u).secrets = u.secrets := by
    cases st <;> cases h
    all_goals
      refine ⟨rfl, fun u => ?_⟩
      simp only [Statement.setUser]
      try split <;> rfl
  have hCredentials : st.addTotpCredential = [] ∧ ∀ c, st.setTotpCredential c = some c := by
    cases st <;> first | exact ⟨rfl, fun c => rfl⟩ | cases h
  unfold AuthDb.secrets AuthDb.apply
  simp only [hUsers.1, hCredentials.1, List.append_nil, List.map_map]
  congr 1
  · exact List.map_congr_left fun u _ => hUsers.2 u
  · have hSome : st.setTotpCredential = some := funext hCredentials.2
    rw [hSome, List.filterMap_some]

/-- The one statement of a sign-in that touches the secrets is the rehash of its user. -/
theorem secrets_setPasswordHash (db : AuthDb) (hashed : String × String) (now : Int)
    (userId : String) : (db.apply (.setPasswordHash hashed.1 hashed.2 now userId)).secrets =
      db.secrets.rehash userId hashed := by
  have hRow : ∀ u : User, ((Statement.setPasswordHash hashed.1 hashed.2 now userId).setUser
      u).secrets = u.secrets.rehash userId hashed := by
    intro u
    by_cases hId : u.userId = userId
    · simp [Statement.setUser, UserSecrets.rehash, User.secrets, hId]
    · simp [Statement.setUser, UserSecrets.rehash, User.secrets, hId]
  have hUsers : (db.users.map (Statement.setPasswordHash hashed.1 hashed.2 now
      userId).setUser).map User.secrets =
      (db.users.map User.secrets).map (UserSecrets.rehash userId hashed) := by
    rw [List.map_map, List.map_map]
    exact List.map_congr_left fun u _ => hRow u
  have hCredentials : db.totpCredentials.filterMap (Statement.setPasswordHash hashed.1 hashed.2
      now userId).setTotpCredential = db.totpCredentials := by
    show db.totpCredentials.filterMap some = _
    rw [List.filterMap_some]
  unfold AuthDb.secrets AuthDb.apply Secrets.rehash
  simp only [Statement.addUser, Statement.addTotpCredential, List.append_nil, hUsers,
    hCredentials]

/-! ## The steps of a sign-in -/

section Steps

variable {settings : AuthSettings}

/-- The steps of the handler leave the tables alone. -/
abbrev KeepsDb {α : Type} (prog : AuthHandler α) : Prop :=
  Async.Steps (fun _ => True) (fun w w' : AuthWorld => w'.db = w.db) (fun _ => True) prog

/-- The steps of the handler leave hashes and credentials alone. -/
abbrev KeepsSecrets {α : Type} (prog : AuthHandler α) : Prop :=
  Async.Steps (fun _ => True) (fun w w' : AuthWorld => w'.db.secrets = w.db.secrets)
    (fun _ => True) prog

theorem onCache_keepsDb {α : Type} (f : World → World × α) : KeepsDb (onCache f) := by
  intro w _
  refine ⟨?_, trivial⟩
  show (w.callCache f).1.db = w.db
  unfold AuthWorld.callCache
  split <;> rfl

/-- Statements that store no hash and no credential keep the secrets. -/
theorem WritesOnly.keepsSecrets {α : Type} {prog : AuthHandler α}
    (h : WritesOnly settings.prim (fun st _ => st.keepsSecrets = true) prog) :
    KeepsSecrets prog := by
  refine h.guarantee fun w w' hStep => ?_
  rcases hStep with ⟨hSame, -, -⟩ | ⟨st, reason, hKeeps, -, rfl⟩
  · rw [hSame]
  · exact secrets_apply hKeeps w.db

/-- A single statement outside the secrets. -/
theorem executeNow_keepsSecrets {statement : Int → Nat → Statement}
    (h : ∀ now n, (statement now n).keepsSecrets = true) (reason : Reason) :
    KeepsSecrets (executeNow settings.prim statement reason) := by
  have hWrites : WritesOnly settings.prim (fun st _ => st.keepsSecrets = true)
      (executeNow settings.prim statement reason) := executeNow_writes h
  exact hWrites.keepsSecrets

theorem insertAudit_keepsSecrets (a : AuditEvent) (reason : Reason) :
    KeepsSecrets (insertAudit settings a reason) :=
  executeNow_keepsSecrets (fun _ _ => rfl) reason

theorem raise_keepsSecrets {α : Type} (e : Failure) :
    KeepsSecrets (Async.raise e : AuthHandler α) := trivial

theorem signInFail_keepsSecrets (ip userAgent : Option String) (email : String)
    (userId : Option String) (text : String) (why : Reason) :
    KeepsSecrets (signInFail settings ip userAgent email userId text why) :=
  Async.Steps.bind (insertAudit_keepsSecrets _ _) fun _ _ => raise_keepsSecrets _

theorem signInRefuse_keepsSecrets (event : AuthEvent) (ip userAgent : Option String)
    (userId : String) (detail : List (String × Json)) (failure : Failure) :
    KeepsSecrets (signInRefuse settings event ip userAgent userId detail failure) :=
  Async.Steps.bind (insertAudit_keepsSecrets _ _) fun _ _ => raise_keepsSecrets _

/-- The checks of a sign-in write the audit trail and the counter, and no secret. -/
theorem checkAccount_keepsSecrets (ip userAgent : Option String) (email : String) (user : User) :
    KeepsSecrets (checkAccount settings ip userAgent email user) := by
  unfold checkAccount
  by_cases hDisabled : user.status = .disabled
  · rw [if_pos hDisabled]
    exact signInFail_keepsSecrets _ _ _ _ _ _
  · rw [if_neg hDisabled]
    refine Async.Steps.read_bind (fun _ => rfl) fun w _ => ?_
    by_cases hLocked : lockoutIsActive user w.server.now = true
    · rw [if_pos hLocked]
      exact signInRefuse_keepsSecrets _ _ _ _ _ _
    · rw [if_neg hLocked]
      trivial

theorem recordFailedLogin_keepsSecrets (user : User) (ip userAgent : Option String) :
    KeepsSecrets (recordFailedLogin settings user ip userAgent) := by
  unfold recordFailedLogin
  refine Async.Steps.read_bind (fun _ => rfl) fun w _ => ?_
  refine Async.Steps.read_bind (fun _ => rfl) fun w' _ => ?_
  refine Async.Steps.bind (executeNow_keepsSecrets (fun _ _ => rfl) _) fun _ _ => ?_
  cases lockedUntilFor (newFailedCount (w.db.findByUserId user.userId)) w'.server.now with
  | none => trivial
  | some lockedUntil =>
      exact Async.Steps.bind (insertAudit_keepsSecrets _ _) fun _ _ => trivial

theorem checkPassword_keepsSecrets (ip userAgent : Option String) (body : SignInRequest)
    (user : User) : KeepsSecrets (checkPassword settings ip userAgent body user) := by
  unfold checkPassword
  split
  · trivial
  · exact Async.Steps.bind (recordFailedLogin_keepsSecrets _ _ _) fun _ _ =>
      signInFail_keepsSecrets _ _ _ _ _ _

theorem checkCode_keepsSecrets (credential : TotpCredential) (code : String) :
    KeepsSecrets (checkCode settings credential code) := by
  unfold checkCode
  refine Async.Steps.require_bind fun decrypted _ => ?_
  exact Async.Steps.read_bind (fun _ => rfl) fun _ _ => trivial

theorem checkCredential_keepsSecrets (ip userAgent : Option String) (body : SignInRequest)
    (user : User) (credential : TotpCredential) :
    KeepsSecrets (checkCredential settings ip userAgent body user credential) := by
  unfold checkCredential
  cases nonempty body.totpCode with
  | none => exact signInRefuse_keepsSecrets _ _ _ _ _ _
  | some code =>
      refine Async.Steps.bind (checkCode_keepsSecrets credential code) fun ok _ => ?_
      by_cases hOk : ok = true
      · rw [if_pos hOk]
        exact Async.Steps.bind (insertAudit_keepsSecrets _ _) fun _ _ => trivial
      · rw [if_neg hOk]
        exact signInRefuse_keepsSecrets _ _ _ _ _ _

/-- The second factor is checked and its row never written back, also where its key is an old
one. -/
theorem checkTotp_keepsSecrets (ip userAgent : Option String) (body : SignInRequest)
    (user : User) : KeepsSecrets (checkTotp settings ip userAgent body user) := by
  unfold checkTotp
  by_cases hEnabled : user.totpEnabled = true
  · rw [if_pos hEnabled]
    refine Async.Steps.read_bind (fun _ => rfl) fun w _ => ?_
    beta_reduce
    cases w.db.findTotpCredential user.userId with
    | none => exact signInFail_keepsSecrets _ _ _ _ _ _
    | some credential => exact checkCredential_keepsSecrets _ _ _ _ _
  · rw [if_neg hEnabled]
    trivial

theorem resetFailedLogin_keepsSecrets (userId : String) (reason : Reason) :
    KeepsSecrets (resetFailedLogin settings userId reason) :=
  executeNow_keepsSecrets (fun _ _ => rfl) reason

/-- The new session leaves the secrets alone. -/
theorem issueSession_keepsSecrets (user : User) (ip userAgent : Option String)
    (event : AuditEvent) (reason : Reason) :
    KeepsSecrets (issueSession settings user ip userAgent event reason) := by
  have hWrites : WritesOnly settings.prim (fun st _ => st.keepsSecrets = true)
      (issueSession settings user ip userAgent event reason) :=
    issueSession_writes (fun _ => rfl) (fun _ => rfl) _ _ _ _
  exact hWrites.keepsSecrets

/-- The rate limit works on the cache and leaves the tables alone. -/
theorem enforceOrBlock_keepsDb (config : RateLimitConfig) (headers : Dict String String)
    (fallbackIp : Option String) :
    KeepsDb (enforceOrBlock settings config headers fallbackIp) := by
  have hCount : ∀ (key : String) (limit windowSeconds : Int),
      KeepsDb (incrementAndCheck settings key limit windowSeconds) := by
    intro key limit windowSeconds
    unfold incrementAndCheck
    refine Async.Steps.bind (onCache_keepsDb _) fun found _ => ?_
    cases found with
    | none => trivial
    | some entry =>
        cases entry with
        | none => exact Async.Steps.bind (onCache_keepsDb _) fun _ _ => trivial
        | some existing =>
            dsimp only
            cases existing.toInt? with
            | none => trivial
            | some n => exact Async.Steps.bind (onCache_keepsDb _) fun _ _ => trivial
  unfold enforceOrBlock
  refine Async.Steps.read_bind (fun _ => rfl) fun w _ => ?_
  refine Async.Steps.bind (hCount _ _ _) fun exceeded _ => ?_
  cases exceeded <;> trivial

end Steps

/-! ## Passwords and the peppers they were hashed under -/

/-- A list of kids, each of which names its own secret. -/
structure KeyRing (secretOf : String → String) where
  kids : KidList
  named : ∀ k ∈ kids.entries, k.2 = secretOf k.1

/-- The key ids that a list of keys knows. -/
def KidList.names (kids : KidList) : List String := kids.entries.map Prod.fst

theorem KeyRing.activeSecret {secretOf : String → String} (ring : KeyRing secretOf) :
    ring.kids.activeSecret = secretOf ring.kids.activeKid :=
  ring.named _ List.mem_cons_self

/-- What a key ring answers for a key id: the secret that belongs to it wherever the id is
known. -/
theorem KeyRing.secret? {secretOf : String → String} (ring : KeyRing secretOf) (kid : String) :
    ring.kids.secret? kid = if kid ∈ ring.kids.names then some (secretOf kid) else none := by
  have hNamed := ring.named
  unfold KidList.secret? KidList.names
  generalize ring.kids.entries = entries at hNamed ⊢
  induction entries with
  | nil => rfl
  | cons k ks ih =>
      have hRest := ih fun k' hk' => hNamed k' (List.mem_cons_of_mem _ hk')
      by_cases hKid : kid = k.1
      · have hSecret := hNamed k List.mem_cons_self
        have hFirst : List.lookup k.1 ((k.1, k.2) :: ks) = some k.2 := List.lookup_cons_self
        simpa [hKid, ← hSecret] using hFirst
      · have hNe : (kid == k.1) = false := by simp [hKid]
        have hMem : kid ∈ (k :: ks).map Prod.fst ↔ kid ∈ ks.map Prod.fst := by simp [hKid]
        rw [List.lookup_cons, hNe]
        simp only [hMem]
        exact hRest

section Passwords

variable (prim : AuthPrimitives) (pepperOf : String → String)

/-- The stored hash is one of the password, under the pepper of the stored kid. -/
def UserSecrets.HashOf (password : String) (u : UserSecrets) : Prop :=
  ∃ salt, u.passwordHash =
    prim.argon2Hash salt (pepperPassword prim password (pepperOf u.passwordPepperKid))

variable {prim pepperOf}

/-- **A stored password verifies as long as its pepper is kept**, and no other does. -/
theorem UserSecrets.HashOf.accepts_iff (hSound : SoundHashing prim) {u : User}
    {password : String} (h : u.secrets.HashOf prim pepperOf password)
    (peppers : KeyRing pepperOf) (candidate : String) :
    PasswordHasherService.accepts prim peppers.kids candidate u = true ↔
      u.passwordPepperKid ∈ peppers.kids.names ∧ candidate = password := by
  obtain ⟨salt, hHash⟩ := h
  have hStored : u.passwordHash =
      prim.argon2Hash salt (pepperPassword prim password (pepperOf u.passwordPepperKid)) := hHash
  have hVerify : prim.argon2Verify u.passwordHash
      (pepperPassword prim candidate (pepperOf u.passwordPepperKid)) = true ↔
        candidate = password := by
    rw [hStored, hSound.verify]
    constructor
    · exact fun hSame => (hSound.keyed _ _ _ hSame).symm
    · exact fun hSame => by rw [hSame]
  unfold PasswordHasherService.accepts PasswordHasherService.verify
  rw [peppers.secret?]
  by_cases hKid : u.passwordPepperKid ∈ peppers.kids.names
  · simp only [hKid, true_and, ← hVerify]
    by_cases hOk : prim.argon2Verify u.passwordHash
        (pepperPassword prim candidate (pepperOf u.passwordPepperKid)) = true
    · simp [hOk]
    · simp [hOk]
  · simp [hKid]

/-- A fresh hash is one of its password. -/
theorem hashOf_fresh (settings : AuthSettings) {peppers : KeyRing pepperOf}
    (hPeppers : settings.peppers = peppers.kids) (u : UserSecrets) (n : Nat) (password : String) :
    UserSecrets.HashOf settings.prim pepperOf password
      { u with
        passwordHash := (freshHash settings n password).1
        passwordPepperKid := (freshHash settings n password).2 } := by
  refine ⟨n, ?_⟩
  show settings.prim.argon2Hash n (pepperPassword settings.prim password
    settings.peppers.activeSecret) = _
  rw [hPeppers, peppers.activeSecret]
  show _ = settings.prim.argon2Hash n (pepperPassword settings.prim password
    (pepperOf settings.peppers.activeKid))
  rw [hPeppers]

end Passwords

/-! ## TOTP secrets and the keys they were encrypted under -/

/-- What authenticated encryption promises: a ciphertext is read with its key and with no
other. -/
structure SoundEncryption (prim : AuthPrimitives) : Prop where
  own : ∀ key iv text, prim.fernetDecrypt key (prim.fernetEncrypt key iv text) = some text
  other : ∀ key key' iv text, key' ≠ key →
    prim.fernetDecrypt key' (prim.fernetEncrypt key iv text) = none

section Credentials

variable (prim : AuthPrimitives) (fernetOf : String → String)

/-- The stored ciphertext is one of the secret, under the key of the stored kid. -/
def TotpCredential.WrapOf (secret : String) (c : TotpCredential) : Prop :=
  ∃ iv, c.secretEncrypted = prim.fernetEncrypt (fernetOf c.activeKid) iv secret

variable {prim fernetOf}

/-- **A stored TOTP secret is readable exactly as long as its key is kept**, under its own id
or under another one, since every key of the ring is tried in turn. -/
theorem TotpCredential.WrapOf.decrypt_eq (hSound : SoundEncryption prim) {c : TotpCredential}
    {secret : String} (h : c.WrapOf prim fernetOf secret) (keys : KeyRing fernetOf) :
    (TotpService.decrypt prim keys.kids c.secretEncrypted c.activeKid).map (·.secret) =
      if ∃ kid ∈ keys.kids.names, fernetOf kid = fernetOf c.activeKid then some secret
      else none := by
  obtain ⟨iv, hCipher⟩ := h
  have hNamed := keys.named
  have hFind : (keys.kids.entries.findSome? fun k => prim.fernetDecrypt k.2 c.secretEncrypted) =
      if ∃ kid ∈ keys.kids.names, fernetOf kid = fernetOf c.activeKid then some secret
      else none := by
    unfold KidList.names
    generalize keys.kids.entries = entries at hNamed ⊢
    induction entries with
    | nil => simp
    | cons k ks ih =>
        have hRest := ih fun k' hk' => hNamed k' (List.mem_cons_of_mem _ hk')
        have hSecret := hNamed k List.mem_cons_self
        rw [List.findSome?_cons, hSecret, hCipher]
        by_cases hKey : fernetOf k.1 = fernetOf c.activeKid
        · rw [hKey, hSound.own]
          simp [hKey]
        · rw [hSound.other _ _ _ _ hKey]
          have hMem : (∃ kid ∈ (k :: ks).map Prod.fst, fernetOf kid = fernetOf c.activeKid) ↔
              ∃ kid ∈ ks.map Prod.fst, fernetOf kid = fernetOf c.activeKid := by simp [hKey]
          rw [hCipher] at hRest
          simp only [hMem]
          exact hRest
  unfold TotpService.decrypt
  rw [hFind]
  split <;> rfl

end Credentials

/-! ## What a sign-in does to the stored secrets -/

section SignIn

variable {settings : AuthSettings}

/-- A program that keeps the tables leaves them as they were. -/
theorem KeepsDb.run {α : Type} {prog : AuthHandler α} (h : KeepsDb prog) {w w' : AuthWorld}
    {r : Except Failure α} (hRun : Async.run prog w = (w', r)) : w'.db = w.db := by
  have hSame : (Async.run prog w).1.db = w.db := h.spares.run
  rwa [hRun] at hSame

/-- A program that keeps the secrets leaves them as they were. -/
theorem KeepsSecrets.run {α : Type} {prog : AuthHandler α} (h : KeepsSecrets prog)
    {w w' : AuthWorld} {r : Except Failure α} (hRun : Async.run prog w = (w', r)) :
    w'.db.secrets = w.db.secrets := by
  have hSame : (Async.run prog w).1.db.secrets = w.db.secrets := h.spares.run
  rwa [hRun] at hSame

theorem KeepsDb.keepsSecrets {α : Type} {prog : AuthHandler α} (h : KeepsDb prog) :
    KeepsSecrets prog :=
  Async.Steps.guarantee h fun w w' hDb => by rw [hDb]

/-- The rehash of a sign-in either leaves the secrets or hashes its user's password anew under
the active pepper. -/
theorem rehash_steps (password : String) (user : User) :
    Async.Steps (fun _ => True) (fun w w' : AuthWorld => w'.db.secrets = w.db.secrets ∨
      ∃ n, w'.db.secrets = w.db.secrets.rehash user.userId (freshHash settings n password))
      (fun _ => True) (rehash settings password user) := by
  unfold rehash
  split
  · refine Async.Steps.bind (Q := fun _ => True) ?_ fun _ _ => trivial
    unfold updatePasswordHash
    refine Async.Steps.bind (Q := fun _ => True) ?_ fun _ _ => trivial
    have hWrites : WritesOnly settings.prim (fun st _ => ∃ now n, st = .setPasswordHash
        (freshHash settings n password).1 (freshHash settings n password).2 now user.userId)
        (executeNow settings.prim (fun now n => .setPasswordHash
          (freshHash settings n password).1 (freshHash settings n password).2 now user.userId)
          (.rehash user password)) := executeNow_writes fun now n => ⟨now, n, rfl⟩
    refine hWrites.guarantee fun w w' hStep => ?_
    rcases hStep with ⟨hSame, -, -⟩ | ⟨st, reason, ⟨now, n, rfl⟩, -, rfl⟩
    · exact .inl (by rw [hSame])
    · exact .inr ⟨n, secrets_setPasswordHash w.db (freshHash settings n password) now user.userId⟩
  · trivial

/-- **Invariant rule.**  What a sign-in keeps, whichever of its steps fail: what holds of
the stored secrets, when it is kept by a fresh hash of a password that a row has accepted. -/
theorem signIn_keeps {I : Secrets → Prop} {R : User → Prop} (http : Http) (body : SignInRequest)
    (hRows : ∀ db : AuthDb, I db.secrets → ∀ u ∈ db.users, R u)
    (hRehash : ∀ s u n, I s → R u →
      PasswordHasherService.accepts settings.prim settings.peppers body.password u = true →
      I (s.rehash u.userId (freshHash settings n body.password)))
    {w : AuthWorld} (h : I w.db.secrets) (fs : List Fault) :
    I (Async.exec .backend (signIn settings http body) fs w).1.db.secrets := by
  -- a handler that keeps the secrets keeps what holds of them
  have hKeep : ∀ {α : Type} {prog : AuthHandler α}, KeepsSecrets prog →
      Async.Steps (fun w : AuthWorld => I w.db.secrets)
        (fun w w' => I w.db.secrets → I w'.db.secrets) (fun _ => True) prog := by
    intro α prog hProg
    refine (hProg.weaken fun _ _ => trivial).guarantee fun w w' hSame hI => ?_
    rwa [hSame]
  have hSteps : Async.Steps (fun w : AuthWorld => I w.db.secrets)
      (fun w w' => I w.db.secrets → I w'.db.secrets) (fun _ => True)
      (signIn settings http body) := by
    unfold signIn
    refine Async.Steps.bind (hKeep (enforceOrBlock_keepsDb _ _ _).keepsSecrets) fun _ _ => ?_
    refine Async.Steps.read_bind (fun _ hI => hI) fun w hI => ?_
    beta_reduce
    cases hFound : w.db.findByEmail settings.prim body.email with
    | none =>
        exact Async.Steps.bind (hKeep (signInFail_keepsSecrets _ _ _ _ _ _)) fun _ _ => trivial
    | some user =>
        have hRow : R user := hRows w.db hI user (List.mem_of_find?_eq_some hFound)
        refine Async.Steps.bind (hKeep (checkAccount_keepsSecrets _ _ _ _)) fun _ _ => ?_
        refine Async.Steps.bind (Q := fun _ => PasswordHasherService.accepts settings.prim
          settings.peppers body.password user = true) ?_ fun _ hAccepts => ?_
        · unfold checkPassword
          by_cases hAccepts : PasswordHasherService.accepts settings.prim settings.peppers
              body.password user = true
          · rw [if_pos hAccepts]
            exact hAccepts
          · rw [if_neg hAccepts]
            refine Async.Steps.bind (hKeep (recordFailedLogin_keepsSecrets _ _ _)) fun _ _ => ?_
            exact Async.Steps.bind (hKeep (insertAudit_keepsSecrets _ _)) fun _ _ => trivial
        · refine Async.Steps.bind (hKeep (checkTotp_keepsSecrets _ _ _ _)) fun _ _ => ?_
          refine Async.Steps.bind (hKeep (resetFailedLogin_keepsSecrets _ _)) fun _ _ => ?_
          refine Async.Steps.bind (Q := fun _ => True) ?_ fun _ _ =>
            hKeep (issueSession_keepsSecrets _ _ _ _ _)
          refine ((rehash_steps body.password user).weaken fun _ _ => trivial).guarantee
            fun w w' hStep hI => ?_
          rcases hStep with hSame | ⟨n, hHash⟩
          · rwa [hSame]
          · rw [hHash]
            exact hRehash _ _ _ hI hRow hAccepts
  exact (hSteps.visits (fun _ _ hI hStep => hStep hI) h).exec .backend fs

theorem executeNow_ok {statement : Int → Nat → Statement} {reason : Reason} {w w' : AuthWorld}
    {n : Nat} (hRun : Async.run (executeNow settings.prim statement reason) w = (w', .ok n)) :
    w'.db = w.db.apply (statement w.server.now w.drawn) := by
  rw [run_executeNow, run_execute] at hRun
  cases hCheck : w.db.constraints settings.prim (statement w.server.now w.drawn) with
  | error c =>
      rw [hCheck] at hRun
      cases (Prod.mk.inj hRun).2
  | ok u =>
      rw [hCheck] at hRun
      rw [← (Prod.mk.inj hRun).1]
      rfl

/-- A sign-in that completes leaves a hash under the active pepper. -/
theorem rehash_ok {password : String} {user : User} {w w' : AuthWorld}
    (hAccepts : PasswordHasherService.accepts settings.prim settings.peppers password user = true)
    (hRun : Async.run (rehash settings password user) w = (w', .ok ())) :
    (w'.db.secrets = w.db.secrets ∧ user.passwordPepperKid = settings.peppers.activeKid) ∨
      ∃ n, w'.db.secrets = w.db.secrets.rehash user.userId (freshHash settings n password) := by
  unfold rehash at hRun
  split at hRun
  · right
    obtain ⟨w₁, hash, hUpdate, hPure⟩ := Async.run_bind_ok hRun
    obtain ⟨w₂, n, hWrite, hPure'⟩ := Async.run_bind_ok hUpdate
    obtain rfl : w₁ = w' := (Prod.mk.inj hPure).1
    obtain rfl : w₂ = w₁ := (Prod.mk.inj hPure').1
    refine ⟨w.drawn, ?_⟩
    rw [executeNow_ok hWrite]
    exact secrets_setPasswordHash w.db (freshHash settings w.drawn password) w.server.now _
  · rename_i hNeeds
    left
    obtain rfl : w = w' := (Prod.mk.inj hRun).1
    refine ⟨rfl, ?_⟩
    unfold PasswordHasherService.accepts at hAccepts
    unfold PasswordHasherService.verify at hAccepts hNeeds
    split at hAccepts
    · cases hAccepts
    · split at hAccepts
      · simp_all
      · cases hAccepts

/-- What a sign-in that completes has found, and what it leaves: the hash is accepted under a
pepper of the ring, the stored secret was decrypted where there is a second factor, and a hash
under an older pepper has been replaced by a fresh one. -/
structure SignInDone (settings : AuthSettings) (body : SignInRequest) (w w' : AuthWorld)
    (user : User) : Prop where
  found : w.db.findByEmail settings.prim body.email = some user
  accepts : PasswordHasherService.accepts settings.prim settings.peppers body.password user = true
  secondFactor : user.totpEnabled = true → ∃ credential decrypted,
    w.db.findTotpCredential user.userId = some credential ∧
    TotpService.decrypt settings.prim settings.fernetKeys credential.secretEncrypted
      credential.activeKid = some decrypted
  rehashed : (w'.db.secrets = w.db.secrets ∧
      user.passwordPepperKid = settings.peppers.activeKid) ∨
    ∃ n, w'.db.secrets = w.db.secrets.rehash user.userId (freshHash settings n body.password)

/-- A second factor that has been accepted belongs to a stored credential that the server
could decrypt. -/
theorem checkTotp_ok {ip userAgent : Option String} {body : SignInRequest} {user : User}
    {w w' : AuthWorld}
    (hRun : Async.run (checkTotp settings ip userAgent body user) w = (w', .ok ()))
    (hEnabled : user.totpEnabled = true) : ∃ credential decrypted,
      w.db.findTotpCredential user.userId = some credential ∧
      TotpService.decrypt settings.prim settings.fernetKeys credential.secretEncrypted
        credential.activeKid = some decrypted := by
  unfold checkTotp at hRun
  rw [if_pos hEnabled, run_fetch_bind] at hRun
  cases hFound : w.db.findTotpCredential user.userId with
  | none =>
      rw [hFound] at hRun
      obtain ⟨w₁, n, -, hRaise⟩ := Async.run_bind_ok hRun
      cases (Prod.mk.inj hRaise).2
  | some credential =>
      rw [hFound] at hRun
      refine ⟨credential, ?_⟩
      have hCredential : Async.run (checkCredential settings ip userAgent body user credential) w =
        (w', .ok ()) := hRun
      unfold checkCredential at hCredential
      cases hCode : nonempty body.totpCode with
      | none =>
          rw [hCode] at hCredential
          obtain ⟨w₁, n, -, hRaise⟩ := Async.run_bind_ok hCredential
          cases (Prod.mk.inj hRaise).2
      | some code =>
          rw [hCode] at hCredential
          obtain ⟨w₁, ok, hCheck, -⟩ := Async.run_bind_ok hCredential
          obtain ⟨w₂, decrypted, hDecrypt, -⟩ := Async.run_bind_ok hCheck
          refine ⟨decrypted, rfl, ?_⟩
          cases hFind : TotpService.decrypt settings.prim settings.fernetKeys
              credential.secretEncrypted credential.activeKid with
          | none =>
              rw [hFind] at hDecrypt
              cases (Prod.mk.inj hDecrypt).2
          | some found =>
              rw [hFind] at hDecrypt
              rw [Except.ok.inj (Prod.mk.inj hDecrypt).2]

/-- A password that has been accepted fits the stored hash under a pepper that the server
knows. -/
theorem checkPassword_ok {ip userAgent : Option String} {body : SignInRequest} {user : User}
    {w w' : AuthWorld}
    (hRun : Async.run (checkPassword settings ip userAgent body user) w = (w', .ok ())) :
    PasswordHasherService.accepts settings.prim settings.peppers body.password user = true := by
  unfold checkPassword at hRun
  by_cases hAccepts : PasswordHasherService.accepts settings.prim settings.peppers body.password
      user = true
  · exact hAccepts
  · rw [if_neg hAccepts] at hRun
    obtain ⟨w₁, u, -, hFail⟩ := Async.run_bind_ok hRun
    obtain ⟨w₂, n, -, hRaise⟩ := Async.run_bind_ok hFail
    cases (Prod.mk.inj hRaise).2

/-- What a sign-in that answers has gone through, from the account to the session.  The one
lemma about a successful sign-in that the rotation of keys needs. -/
theorem signIn_ok {http : Http} {body : SignInRequest} {w w' : AuthWorld} {response : Response}
    (hRun : Async.run (signIn settings http body) w = (w', .ok response)) :
    ∃ user, SignInDone settings body w w' user := by
  unfold signIn at hRun
  obtain ⟨w₁, u₁, hLimit, hRun⟩ := Async.run_bind_ok hRun
  have hDb : w₁.db = w.db := (enforceOrBlock_keepsDb _ _ _).run hLimit
  rw [run_fetch_bind, hDb] at hRun
  cases hFound : w.db.findByEmail settings.prim body.email with
  | none =>
      rw [hFound] at hRun
      obtain ⟨w₂, u₂, hFail, -⟩ := Async.run_bind_ok hRun
      obtain ⟨w₃, n, -, hRaise⟩ := Async.run_bind_ok hFail
      cases (Prod.mk.inj hRaise).2
  | some user =>
      rw [hFound] at hRun
      obtain ⟨w₂, u₂, hAccount, hRun⟩ := Async.run_bind_ok hRun
      obtain ⟨w₃, u₃, hPassword, hRun⟩ := Async.run_bind_ok hRun
      obtain ⟨w₄, u₄, hTotp, hRun⟩ := Async.run_bind_ok hRun
      obtain ⟨w₅, u₅, hReset, hRun⟩ := Async.run_bind_ok hRun
      obtain ⟨w₆, u₆, hRehash, hRun⟩ := Async.run_bind_ok hRun
      have hSecrets₃ : w₃.db.secrets = w.db.secrets := by
        rw [(checkPassword_keepsSecrets _ _ _ _).run hPassword,
          (checkAccount_keepsSecrets _ _ _ _).run hAccount, hDb]
      have hSecrets₅ : w₅.db.secrets = w.db.secrets := by
        rw [(resetFailedLogin_keepsSecrets _ _).run hReset,
          (checkTotp_keepsSecrets _ _ _ _).run hTotp, hSecrets₃]
      have hLast := (issueSession_keepsSecrets _ _ _ _ _).run hRun
      have hAccepts := checkPassword_ok hPassword
      refine ⟨user, hFound, hAccepts, fun hEnabled => ?_, ?_⟩
      · obtain ⟨credential, decrypted, hCredential, hDecrypt⟩ := checkTotp_ok hTotp hEnabled
        have hRows : w₃.db.totpCredentials = w.db.totpCredentials :=
          congrArg Secrets.credentials hSecrets₃
        refine ⟨credential, decrypted, ?_, hDecrypt⟩
        unfold AuthDb.findTotpCredential at hCredential ⊢
        rwa [hRows] at hCredential
      · rw [hLast, ← hSecrets₅]
        exact rehash_ok hAccepts hRehash

end SignIn

/-! ## Rotations and sign-ins -/

/-- The server with the keys of its settings. -/
structure Deployment (pepperOf fernetOf : String → String) where
  world : AuthWorld
  peppers : KeyRing pepperOf
  fernetKeys : KeyRing fernetOf

/-- The server is restarted with other keys, somebody signs in while steps may fail, or
something happens outside. -/
inductive Turn (pepperOf fernetOf : String → String) where
  | rotate (peppers : KeyRing pepperOf) (fernetKeys : KeyRing fernetOf)
  | signIn (http : Http) (body : SignInRequest) (faults : List Fault)
  | outside (x : Outside)

namespace Deployment

variable {pepperOf fernetOf : String → String} (base : AuthSettings)

/-- The settings of a deployment at the moment: the fixed ones with the key lists it runs
with. -/
def settings (d : Deployment pepperOf fernetOf) : AuthSettings :=
  { base with peppers := d.peppers.kids, fernetKeys := d.fernetKeys.kids }

/-- One sign-in, alone. -/
def signIn (d : Deployment pepperOf fernetOf) (http : Http) (body : SignInRequest)
    (faults : List Fault) : AuthWorld × Except Failure Response :=
  Async.exec .backend (Auth.signIn (d.settings base) http body) faults d.world

/-- One turn: new key lists, a sign-in with its failing steps, or anything outside that leaves
the secrets alone. -/
def step (d : Deployment pepperOf fernetOf) : Turn pepperOf fernetOf → Deployment pepperOf fernetOf
  | .rotate peppers fernetKeys => { d with peppers := peppers, fernetKeys := fernetKeys }
  | .signIn http body faults => { d with world := (d.signIn base http body faults).1 }
  | .outside x => { d with world := Auth.outside x d.world }

/-- The deployment after a list of turns. -/
def run (d : Deployment pepperOf fernetOf) (ts : List (Turn pepperOf fernetOf)) :
    Deployment pepperOf fernetOf :=
  ts.foldl (step base) d

/-- The kids that are active now or become so during the turns. -/
def activeSince (active : Deployment pepperOf fernetOf → String)
    (d : Deployment pepperOf fernetOf) : List (Turn pepperOf fernetOf) → List String
  | [] => [active d]
  | t :: ts => active d :: activeSince active (d.step base t) ts

/-- The passwords of the user are verified with this one. -/
def passwordVerifies (d : Deployment pepperOf fernetOf) (userId password : String) : Bool :=
  (d.world.db.findByUserId userId).any fun u =>
    PasswordHasherService.accepts base.prim d.peppers.kids password u

/-- The codes of the user are verified with this secret. -/
def totpSecret? (d : Deployment pepperOf fernetOf) (userId : String) : Option String :=
  (d.world.db.findTotpCredential userId).bind fun c =>
    (TotpService.decrypt base.prim d.fernetKeys.kids c.secretEncrypted c.activeKid).map (·.secret)

/-- The tables hold hashes and ciphertexts as `hash` and `encrypt` make them, under the
stored kids, and no user twice. -/
structure Stored (prim : AuthPrimitives) (pepperOf fernetOf : String → String) (s : Secrets) :
    Prop where
  users : ∀ u ∈ s.users, ∃ password, u.HashOf prim pepperOf password
  credentials : ∀ c ∈ s.credentials, ∃ secret, c.WrapOf prim fernetOf secret
  userIds : KeyUnique (·.userId) s.users

/-- Of the keys, those are left that have been active since `d`: every older pepper and Fernet
key has been taken out of its ring. -/
structure OlderRemoved (d : Deployment pepperOf fernetOf) (ts : List (Turn pepperOf fernetOf)) :
    Prop where
  peppers : ∀ kid, kid ∈ (d.run base ts).peppers.kids.names ↔
    kid ∈ d.activeSince base (·.peppers.kids.activeKid) ts
  fernetKeys : ∀ kid, kid ∈ (d.run base ts).fernetKeys.kids.names ↔
    kid ∈ d.activeSince base (·.fernetKeys.kids.activeKid) ts

/-! ### What turns keep -/

section Turns

variable {base}

/-- **One turn**, for what is kept by a fresh hash of an accepted password. -/
theorem step_keeps {I : Secrets → Prop} {R : User → Prop} (d : Deployment pepperOf fernetOf)
    (t : Turn pepperOf fernetOf)
    (hRows : ∀ db : AuthDb, I db.secrets → ∀ u ∈ db.users, R u)
    (hRehash : ∀ s u n password, I s → R u →
      PasswordHasherService.accepts base.prim d.peppers.kids password u = true →
      I (s.rehash u.userId (freshHash (d.settings base) n password)))
    (h : I d.world.db.secrets) : I (d.step base t).world.db.secrets := by
  cases t with
  | rotate peppers fernetKeys => exact h
  | signIn http body faults =>
      exact signIn_keeps http body hRows (fun s u n => hRehash s u n body.password) h faults
  | outside x => cases x <;> exact h

/-- No turn writes to the credentials of the second factor. -/
theorem step_credentials (d : Deployment pepperOf fernetOf) (t : Turn pepperOf fernetOf) :
    (d.step base t).world.db.totpCredentials = d.world.db.totpCredentials := by
  refine step_keeps (I := fun s => s.credentials = d.world.db.totpCredentials)
    (R := fun _ => True) d t (fun _ _ _ _ => trivial) ?_ rfl
  exact fun s u n password hSame _ _ => hSame

/-- So no run does: a credential stays under the key that it was enrolled with. -/
theorem run_credentials (d : Deployment pepperOf fernetOf) (ts : List (Turn pepperOf fernetOf)) :
    (d.run base ts).world.db.totpCredentials = d.world.db.totpCredentials := by
  induction ts generalizing d with
  | nil => rfl
  | cons t ts ih => exact (ih (d.step base t)).trans (step_credentials d t)

theorem rehash_userId (userId : String) (hashed : String × String) (u : UserSecrets) :
    (u.rehash userId hashed).userId = u.userId := by
  unfold UserSecrets.rehash
  split <;> rfl

theorem rehash_userIds (s : Secrets) (userId : String) (hashed : String × String) :
    (s.rehash userId hashed).users.map (·.userId) = s.users.map (·.userId) := by
  show (s.users.map _).map _ = _
  rw [List.map_map]
  exact List.map_congr_left fun u _ => rehash_userId userId hashed u

/-- No turn adds an account or takes one away. -/
theorem step_userIds (d : Deployment pepperOf fernetOf) (t : Turn pepperOf fernetOf) :
    (d.step base t).world.db.secrets.users.map (·.userId) =
      d.world.db.secrets.users.map (·.userId) := by
  refine step_keeps (I := fun s => s.users.map (·.userId) =
    d.world.db.secrets.users.map (·.userId)) (R := fun _ => True) d t (fun _ _ _ _ => trivial)
    ?_ rfl
  exact fun s u n password hSame _ _ => (rehash_userIds s _ _).trans hSame

theorem run_userIds (d : Deployment pepperOf fernetOf) (ts : List (Turn pepperOf fernetOf)) :
    (d.run base ts).world.db.secrets.users.map (·.userId) =
      d.world.db.secrets.users.map (·.userId) := by
  induction ts generalizing d with
  | nil => rfl
  | cons t ts ih => exact (ih (d.step base t)).trans (step_userIds d t)

/-- The rows after a fresh hash: those of the user have it. -/
theorem mem_rehash {s : Secrets} {userId : String} {hashed : String × String} {u : UserSecrets}
    (hu : u ∈ (s.rehash userId hashed).users) :
    (u ∈ s.users ∧ u.userId ≠ userId) ∨ ∃ old ∈ s.users, old.userId = userId ∧
      u = { old with passwordHash := hashed.1, passwordPepperKid := hashed.2 } := by
  obtain ⟨old, hOld, rfl⟩ := List.mem_map.1 hu
  unfold UserSecrets.rehash
  by_cases hId : old.userId = userId
  · exact .inr ⟨old, hOld, hId, if_pos hId⟩
  · rw [if_neg hId]
    exact .inl ⟨hOld, hId⟩

/-- A fresh hash is stored under the active pepper, which belongs to the ring. -/
theorem Stored.rehash {s : Secrets} (h : Stored base.prim pepperOf fernetOf s)
    (d : Deployment pepperOf fernetOf) (userId : String) (n : Nat) (password : String) :
    Stored base.prim pepperOf fernetOf
      (s.rehash userId (freshHash (d.settings base) n password)) where
  users u hu := by
    rcases mem_rehash hu with ⟨hOld, -⟩ | ⟨old, -, -, rfl⟩
    · exact h.users u hOld
    · exact ⟨password, hashOf_fresh (d.settings base) rfl old n password⟩
  credentials := h.credentials
  userIds := by
    have hUnique := h.userIds
    unfold KeyUnique at hUnique ⊢
    rwa [rehash_userIds]

/-- In every run what is stored stays under secrets that belong to its key ids. -/
theorem run_stored (d : Deployment pepperOf fernetOf) (ts : List (Turn pepperOf fernetOf))
    (h : Stored base.prim pepperOf fernetOf d.world.db.secrets) :
    Stored base.prim pepperOf fernetOf (d.run base ts).world.db.secrets := by
  induction ts generalizing d with
  | nil => exact h
  | cons t ts ih =>
      refine ih (d.step base t) (step_keeps (R := fun _ => True) d t (fun _ _ _ _ => trivial) ?_ h)
      exact fun s u n password hStored _ _ => hStored.rehash d u.userId n password

/-- The stored hash of the user is one of the password, under one of the peppers. -/
def PasswordKept (prim : AuthPrimitives) (pepperOf : String → String) (userId password : String)
    (kids : List String) (s : Secrets) : Prop :=
  ∀ u ∈ s.users, u.userId = userId →
    u.HashOf prim pepperOf password ∧ u.passwordPepperKid ∈ kids

/-- A fresh hash is under the active pepper, and of the same password. -/
theorem PasswordKept.step (hHash : SoundHashing base.prim) {userId password : String}
    {kids : List String} (d : Deployment pepperOf fernetOf) (t : Turn pepperOf fernetOf)
    (hActive : d.peppers.kids.activeKid ∈ kids)
    (h : PasswordKept base.prim pepperOf userId password kids d.world.db.secrets) :
    PasswordKept base.prim pepperOf userId password kids (d.step base t).world.db.secrets := by
  refine step_keeps (R := fun u => u.userId = userId →
    u.secrets.HashOf base.prim pepperOf password) d t ?_ ?_ h
  · intro db hKept u hu hId
    exact (hKept u.secrets (List.mem_map_of_mem hu) hId).1
  · intro s user n verified hKept hRow hAccepts u hu hId
    rcases mem_rehash hu with ⟨hOld, -⟩ | ⟨old, hOld, hOldId, rfl⟩
    · exact hKept u hOld hId
    · have hOwn : user.userId = userId := hOldId.symm.trans hId
      obtain rfl : verified = password :=
        (((hRow hOwn).accepts_iff hHash d.peppers verified).1 hAccepts).2
      exact ⟨hashOf_fresh (d.settings base) rfl old n verified, hActive⟩

/-- A user's password stays good in every run whose active peppers are among the key ids
counted. -/
theorem PasswordKept.run (hHash : SoundHashing base.prim) {userId password : String}
    {kids : List String} (d : Deployment pepperOf fernetOf) (ts : List (Turn pepperOf fernetOf))
    (hActive : ∀ kid ∈ d.activeSince base (·.peppers.kids.activeKid) ts, kid ∈ kids)
    (h : PasswordKept base.prim pepperOf userId password kids d.world.db.secrets) :
    PasswordKept base.prim pepperOf userId password kids (d.run base ts).world.db.secrets := by
  induction ts generalizing d with
  | nil => exact h
  | cons t ts ih =>
      have hNow := h.step hHash d t (hActive _ List.mem_cons_self)
      exact ih (d.step base t) (fun kid hKid => hActive kid (List.mem_cons_of_mem _ hKid)) hNow

/-- **A sign-in that completes leaves the hash under the active pepper.** -/
theorem passwordKept_of_done (hHash : SoundHashing base.prim) {d : Deployment pepperOf fernetOf}
    (hStored : Stored base.prim pepperOf fernetOf d.world.db.secrets) {body : SignInRequest}
    {w' : AuthWorld} {user : User} (hDone : SignInDone (d.settings base) body d.world w' user) :
    PasswordKept base.prim pepperOf user.userId body.password [d.peppers.kids.activeKid]
      w'.db.secrets := by
  intro u hu hId
  have hMem : user.secrets ∈ d.world.db.secrets.users :=
    List.mem_map_of_mem (List.mem_of_find?_eq_some hDone.found)
  rcases hDone.rehashed with ⟨hSame, hKid⟩ | ⟨n, hRehash⟩
  · rw [hSame] at hu
    obtain rfl : u = user.secrets := hStored.userIds.eq hu hMem hId
    obtain ⟨password, hOf⟩ := hStored.users _ hMem
    obtain rfl : body.password = password :=
      ((hOf.accepts_iff hHash d.peppers body.password).1 hDone.accepts).2
    exact ⟨hOf, List.mem_singleton.2 hKid⟩
  · rw [hRehash] at hu
    rcases mem_rehash hu with ⟨-, hOther⟩ | ⟨old, -, -, rfl⟩
    · exact absurd hId hOther
    · exact ⟨hashOf_fresh (d.settings base) rfl old n body.password, List.mem_singleton_self _⟩

end Turns

/-! ### The secrets with which a user has signed in -/

section Able

/-- The password and the TOTP secret with which the user signed in at `d` verify at `d'`. -/
def StillVerify (d d' : Deployment pepperOf fernetOf) (user : User) (password : String) : Prop :=
  d'.passwordVerifies base user.userId password = true ∧
    (user.totpEnabled = true → ∃ secret, d.totpSecret? base user.userId = some secret ∧
      d'.totpSecret? base user.userId = some secret)

variable {base}

/-- The key that is active at the start is one of those active since. -/
theorem mem_activeSince (active : Deployment pepperOf fernetOf → String)
    (d : Deployment pepperOf fernetOf) (ts : List (Turn pepperOf fernetOf)) :
    active d ∈ d.activeSince base active ts := by
  cases ts <;> exact List.mem_cons_self

/-- The password still verifies when the peppers are kept that have been active since. -/
theorem passwordVerifies_of_kept (hHash : SoundHashing base.prim)
    {d : Deployment pepperOf fernetOf} {userId password : String} {kids : List String}
    (hKept : PasswordKept base.prim pepperOf userId password kids d.world.db.secrets)
    (hKids : ∀ kid ∈ kids, kid ∈ d.peppers.kids.names)
    (hUser : userId ∈ d.world.db.secrets.users.map (·.userId)) :
    d.passwordVerifies base userId password = true := by
  obtain ⟨v, hv, hvId⟩ := List.mem_map.1 hUser
  obtain ⟨u, hu, rfl⟩ := List.mem_map.1 hv
  unfold passwordVerifies AuthDb.findByUserId
  cases hFind : d.world.db.users.find? fun u => u.userId = userId with
  | none =>
      have hNot := List.find?_eq_none.1 hFind u hu
      exact absurd (decide_eq_true hvId) hNot
  | some found =>
      have hId : found.userId = userId := by simpa using List.find?_some hFind
      have hMem := List.mem_of_find?_eq_some hFind
      obtain ⟨hOf, hKid⟩ := hKept found.secrets (List.mem_map_of_mem hMem) hId
      exact (hOf.accepts_iff hHash d.peppers password).2 ⟨hKids _ hKid, rfl⟩

/-- Whatever the turns, a password that has been verified still verifies. -/
theorem passwordVerifies_after (hHash : SoundHashing base.prim)
    {d : Deployment pepperOf fernetOf} {http : Http} {body : SignInRequest} {faults : List Fault}
    {after : List (Turn pepperOf fernetOf)} {userId : String}
    (hKept : PasswordKept base.prim pepperOf userId body.password [d.peppers.kids.activeKid]
      (d.step base (.signIn http body faults)).world.db.secrets)
    (hRemoved : (d.step base (.signIn http body faults)).OlderRemoved base after)
    (hUser : userId ∈ d.world.db.secrets.users.map (·.userId)) :
    ((d.step base (.signIn http body faults)).run base after).passwordVerifies base userId
      body.password = true := by
  have hSince : PasswordKept base.prim pepperOf userId body.password
      ((d.step base (.signIn http body faults)).activeSince base (·.peppers.kids.activeKid) after)
      (d.step base (.signIn http body faults)).world.db.secrets := by
    intro u hu hId
    obtain ⟨hOf, hKid⟩ := hKept u hu hId
    refine ⟨hOf, ?_⟩
    rw [List.mem_singleton.1 hKid]
    exact mem_activeSince (fun d => d.peppers.kids.activeKid)
      (d.step base (.signIn http body faults)) after
  refine passwordVerifies_of_kept hHash (hSince.run hHash _ after fun kid hKid => hKid)
    (fun kid => (hRemoved.peppers kid).2) ?_
  rw [run_userIds, step_userIds]
  exact hUser

/-- The TOTP secret of a stored credential, while its key is there. -/
theorem totpSecret?_eq (hEncryption : SoundEncryption base.prim)
    {d : Deployment pepperOf fernetOf} {userId secret : String} {credential : TotpCredential}
    (hFound : d.world.db.findTotpCredential userId = some credential)
    (hWrap : credential.WrapOf base.prim fernetOf secret) :
    d.totpSecret? base userId =
      if ∃ kid ∈ d.fernetKeys.kids.names, fernetOf kid = fernetOf credential.activeKid then
        some secret
      else none := by
  unfold totpSecret?
  rw [hFound]
  exact hWrap.decrypt_eq hEncryption d.fernetKeys

/-- **Key rotation and sign-ins.**  A user has signed in, the keys have rotated and others
have signed in, and of the keys those are left that have been active since.  The password
still verifies, and the TOTP secret does if and only if it is encrypted under a key that has
been active since: a sign-in does not encrypt it anew. -/
theorem able_after_rotation_iff (hHash : SoundHashing base.prim)
    (hEncryption : SoundEncryption base.prim) {d₀ : Deployment pepperOf fernetOf}
    (hStored : Stored base.prim pepperOf fernetOf d₀.world.db.secrets)
    (before after : List (Turn pepperOf fernetOf)) (http : Http) (body : SignInRequest)
    (faults : List Fault) {response : Response}
    (hDone : ((d₀.run base before).signIn base http body faults).2 = .ok response)
    {user : User}
    (hUser : (d₀.run base before).world.db.findByEmail base.prim body.email = some user)
    (hRemoved : ((d₀.run base before).step base (.signIn http body faults)).OlderRemoved base
      after) :
    StillVerify base (d₀.run base before)
        (((d₀.run base before).step base (.signIn http body faults)).run base after) user
        body.password ↔
      (user.totpEnabled = true → ∃ credential,
        (d₀.run base before).world.db.findTotpCredential user.userId = some credential ∧
        ∃ kid ∈ ((d₀.run base before).step base (.signIn http body faults)).activeSince base
          (·.fernetKeys.kids.activeKid) after,
          fernetOf kid = fernetOf credential.activeKid) := by
  have hReached := run_stored d₀ before hStored
  generalize d₀.run base before = d at hDone hUser hRemoved hReached ⊢
  obtain ⟨found, hSigned⟩ := signIn_ok (Async.exec_ok (Prod.ext rfl hDone))
  obtain rfl : user = found := Option.some.inj (hUser.symm.trans hSigned.found)
  have hKept := passwordKept_of_done hHash hReached hSigned
  have hPassword := passwordVerifies_after hHash hKept hRemoved
    (List.mem_map.2 ⟨user.secrets, List.mem_map_of_mem (List.mem_of_find?_eq_some hUser), rfl⟩)
  have hRows : (((d.step base (.signIn http body faults)).run base after).world.db.totpCredentials)
      = d.world.db.totpCredentials :=
    (run_credentials _ after).trans (step_credentials d (.signIn http body faults))
  have hFind : ((d.step base (.signIn http body faults)).run base
      after).world.db.findTotpCredential user.userId =
        d.world.db.findTotpCredential user.userId := by
    unfold AuthDb.findTotpCredential
    rw [hRows]
  unfold StillVerify
  rw [and_iff_right hPassword]
  refine forall_congr' fun hEnabled => ?_
  obtain ⟨credential, decrypted, hFound, hDecrypt⟩ := hSigned.secondFactor hEnabled
  obtain ⟨secret, hWrap⟩ := hReached.credentials credential (List.mem_of_find?_eq_some hFound)
  -- the secret was readable when the user signed in
  have hBefore : d.totpSecret? base user.userId = some secret := by
    have hSome : (d.totpSecret? base user.userId).isSome = true := by
      have hHere : TotpService.decrypt base.prim d.fernetKeys.kids credential.secretEncrypted
          credential.activeKid = some decrypted := hDecrypt
      unfold totpSecret?
      rw [hFound, Option.bind_some, hHere]
      rfl
    rw [totpSecret?_eq hEncryption hFound hWrap] at hSome ⊢
    split at hSome
    · rename_i hKey
      rw [if_pos hKey]
    · cases hSome
  rw [hBefore, totpSecret?_eq hEncryption (hFind.trans hFound) hWrap, hFound]
  simp only [Option.some.injEq, exists_eq_left', hRemoved.fernetKeys]
  by_cases hKey : ∃ kid ∈ (d.step base (.signIn http body faults)).activeSince base
      (·.fernetKeys.kids.activeKid) after, fernetOf kid = fernetOf credential.activeKid
  · simp [hKey]
  · simp [hKey]

end Able

end Deployment

/-! ## A rotation -/

namespace Sample

/-- A key in front of what it has encrypted. -/
def wrapHead (key : String) : List Char := List.replicate key.length 'x' ++ ':' :: key.toList

def wrapText (key text : String) : String := String.ofList (wrapHead key ++ text.toList)

def wrapPrim : AuthPrimitives :=
  { authPrim with
    fernetEncrypt := fun key _ text => wrapText key text
    fernetDecrypt := fun key cipher =>
      if (wrapHead key).isPrefixOf cipher.toList = true then
        some (String.ofList (cipher.toList.drop (wrapHead key).length))
      else none }

/-- The length of a run of one letter is where its end is. -/
theorem runs_prefix (n m : Nat) {l r : List Char}
    (h : List.replicate n 'x' ++ ':' :: l <+: List.replicate m 'x' ++ ':' :: r) :
    n = m ∧ l <+: r := by
  induction n generalizing m with
  | zero =>
      cases m with
      | zero => exact ⟨rfl, by simpa using h⟩
      | succ m => simp [List.replicate_succ] at h
  | succ n ih =>
      cases m with
      | zero => simp [List.replicate_succ] at h
      | succ m =>
          have hRest : List.replicate n 'x' ++ ':' :: l <+: List.replicate m 'x' ++ ':' :: r := by
            simpa [List.replicate_succ] using h
          obtain ⟨hSame, hTail⟩ := ih m hRest
          exact ⟨by rw [hSame], hTail⟩

theorem wrapHead_isHead {key key' : String} {text : List Char}
    (h : wrapHead key' <+: wrapHead key ++ text) : key' = key := by
  unfold wrapHead at h
  rw [List.append_assoc, List.cons_append] at h
  obtain ⟨hLength, hPrefix⟩ := runs_prefix _ _ h
  have hKey : key'.toList.length = key.toList.length := by
    rw [String.length_toList, String.length_toList]
    exact hLength
  have hSame : key'.toList = key.toList := by
    rw [List.prefix_iff_eq_take.1 hPrefix, hKey, List.take_left]
  exact String.toList_inj.1 hSame

theorem wrapPrim_encryption : SoundEncryption wrapPrim where
  own key iv text := by
    have hPrefix : (wrapHead key).isPrefixOf (wrapText key text).toList = true := by
      rw [wrapText, String.toList_ofList, List.isPrefixOf_iff_prefix]
      exact List.prefix_append _ _
    show (if (wrapHead key).isPrefixOf (wrapText key text).toList = true then
      some (String.ofList ((wrapText key text).toList.drop (wrapHead key).length)) else none) = _
    rw [if_pos hPrefix, wrapText, String.toList_ofList, List.drop_left, String.ofList_toList]
  other key key' iv text hOther := by
    have hPrefix : ¬ (wrapHead key').isPrefixOf (wrapText key text).toList = true := by
      rw [wrapText, String.toList_ofList, List.isPrefixOf_iff_prefix]
      exact fun hPrefix => hOther (wrapHead_isHead hPrefix)
    show (if (wrapHead key').isPrefixOf (wrapText key text).toList = true then _ else _) = _
    rw [if_neg hPrefix]

theorem wrapPrim_sound : SoundHashing wrapPrim :=
  ⟨authPrim_sound.verify, authPrim_sound.fresh, authPrim_sound.keyed⟩

def wrapSettings : AuthSettings where
  prim := wrapPrim
  peppers := peppers
  fernetKeys := fernetKeys

/-- Every kid is its own secret. -/
def ringOf (kids : KidList) (h : kids.entries.all (fun k => k.2 = k.1) = true) : KeyRing id where
  kids := kids
  named k hk := of_decide_eq_true (List.all_eq_true.1 h k hk)

def oldPepper : KeyRing id := ringOf { active := ("p1", "p1"), distinct := by decide } (by decide)

def bothPeppers : KeyRing id :=
  ringOf { active := ("p2", "p2"), older := [("p1", "p1")], distinct := by decide } (by decide)

def newPepper : KeyRing id := ringOf { active := ("p2", "p2"), distinct := by decide } (by decide)

def oldKey : KeyRing id := ringOf { active := ("k1", "k1"), distinct := by decide } (by decide)

def bothKeys : KeyRing id :=
  ringOf { active := ("k2", "k2"), older := [("k1", "k1")], distinct := by decide } (by decide)

def newKey : KeyRing id := ringOf { active := ("k2", "k2"), distinct := by decide } (by decide)

/-- A user with a second factor, under the first pepper and the first key. -/
def enrolledUser : User := { user with passwordHash := authPrim.argon2Hash 0 "p1password" }

def enrolledDb : AuthDb :=
  { authDb with
    users := [enrolledUser]
    totpCredentials := [{ credential with secretEncrypted := wrapText "k1" "secret" }] }

def firstKeys : Deployment id id where
  world := .initial { clock := 1000 * 1000000, db := { agents := [], agentKeys := [] } } enrolledDb
  peppers := oldPepper
  fernetKeys := oldKey

theorem firstKeys_stored :
    Deployment.Stored wrapSettings.prim id id firstKeys.world.db.secrets where
  users u hu := by
    obtain rfl := List.mem_singleton.1 hu
    exact ⟨"password", 0, rfl⟩
  credentials c hc := by
    have hOnly : c ∈ [{ credential with secretEncrypted := wrapText "k1" "secret" }] := hc
    obtain rfl := List.mem_singleton.1 hOnly
    exact ⟨"secret", 0, rfl⟩
  userIds := List.nodup_singleton _

def totpSignIn : SignInRequest where
  email := "mail"
  password := "password"
  totpCode := some "123456"

/-- The deployment when the user signs in, and in the end. -/
def pepperRotated : Deployment id id := firstKeys.run wrapSettings [.rotate bothPeppers oldKey]

def keyRotated : Deployment id id := firstKeys.run wrapSettings [.rotate bothPeppers bothKeys]

end Sample

/-- The user signs in after a rotation of the peppers, and the old pepper is removed. -/
theorem able_after_rotation_sample :
    Deployment.StillVerify Sample.wrapSettings Sample.pepperRotated
      ((Sample.pepperRotated.step Sample.wrapSettings (.signIn {} Sample.totpSignIn [])).run
        Sample.wrapSettings [.rotate Sample.newPepper Sample.oldKey])
      Sample.enrolledUser "password" := by
  have hOk : (Sample.pepperRotated.signIn Sample.wrapSettings {} Sample.totpSignIn
      []).2.isOk = true := by decide +kernel
  have hFound : Sample.pepperRotated.world.db.findByEmail Sample.wrapPrim "mail" =
      some Sample.enrolledUser := by decide +kernel
  have hRemoved : (Sample.pepperRotated.step Sample.wrapSettings
      (.signIn {} Sample.totpSignIn [])).OlderRemoved Sample.wrapSettings
        [.rotate Sample.newPepper Sample.oldKey] := by
    constructor
    · intro kid
      show kid ∈ ["p2"] ↔ kid ∈ ["p2", "p2"]
      simp
    · intro kid
      show kid ∈ ["k1"] ↔ kid ∈ ["k1", "k1"]
      simp
  cases hDone : (Sample.pepperRotated.signIn Sample.wrapSettings {} Sample.totpSignIn []).2 with
  | error e =>
      rw [hDone] at hOk
      cases hOk
  | ok response =>
      refine (Deployment.able_after_rotation_iff Sample.wrapPrim_sound
        Sample.wrapPrim_encryption Sample.firstKeys_stored
        [.rotate Sample.bothPeppers Sample.oldKey] [.rotate Sample.newPepper Sample.oldKey] {}
        Sample.totpSignIn [] hDone hFound hRemoved).2 fun _ => ?_
      exact ⟨_, rfl, "k1", List.mem_cons_self, rfl⟩

/-- **A second factor is lost to a rotation.**  The user signs in with a password and a code
while the new key is active, and the old one is removed: the password verifies, and nothing
reads the TOTP secret. -/
theorem totp_secret_lost_to_rotation :
    (Sample.keyRotated.signIn Sample.wrapSettings {} Sample.totpSignIn []).2.isOk = true ∧
      Sample.keyRotated.totpSecret? Sample.wrapSettings "u" = some "secret" ∧
      ((Sample.keyRotated.step Sample.wrapSettings (.signIn {} Sample.totpSignIn [])).run
        Sample.wrapSettings [.rotate Sample.newPepper Sample.newKey]).passwordVerifies
          Sample.wrapSettings "u" "password" = true ∧
      ((Sample.keyRotated.step Sample.wrapSettings (.signIn {} Sample.totpSignIn [])).run
        Sample.wrapSettings [.rotate Sample.newPepper Sample.newKey]).totpSecret?
          Sample.wrapSettings "u" = none ∧
      ¬ Deployment.StillVerify Sample.wrapSettings Sample.keyRotated
        ((Sample.keyRotated.step Sample.wrapSettings (.signIn {} Sample.totpSignIn [])).run
          Sample.wrapSettings [.rotate Sample.newPepper Sample.newKey])
        Sample.enrolledUser "password" := by
  have hLost : ((Sample.keyRotated.step Sample.wrapSettings
      (.signIn {} Sample.totpSignIn [])).run Sample.wrapSettings
        [.rotate Sample.newPepper Sample.newKey]).totpSecret? Sample.wrapSettings "u" = none := by
    decide +kernel
  refine ⟨by decide +kernel, by decide +kernel, by decide +kernel, hLost, fun hVerify => ?_⟩
  obtain ⟨secret, -, hKept⟩ := hVerify.2 rfl
  have hNone : (none : Option String) = some secret := hLost.symm.trans hKept
  cases hNone

end AgentShield.Auth
