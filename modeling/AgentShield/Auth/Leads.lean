import AgentShield.Auth.Steps

/-!
# Every route keeps to the course

One rule for each step that the handlers are made of, one lemma for each function that the
routes share, and one for each route.  A fact that a handler has read is kept as a fact
about the worlds so far (`AuthWorld.Saw`, `AuthWorld.Did`), which later worlds inherit.
-/

namespace AgentShield.Auth

open AgentShield.Lib AgentShield.Sdk AgentShield.Server

/-! ## What later worlds inherit -/

section Later

variable {settings : AuthSettings} {w w' : AuthWorld}

/-- A statement that has been executed has been executed ever after. -/
theorem AuthWorld.Later.did (h : w.Later w') {P : Statement → Prop} {reason : Reason}
    (hDid : w.Did P reason) : w'.Did P reason := by
  obtain ⟨e, he, hP⟩ := hDid
  exact ⟨e, h.log.subset he, hP⟩

theorem AuthWorld.Later.didBoth (h : w.Later w') {P Q : Statement → Prop} {reason : Reason}
    (hDid : w.DidBoth P Q reason) : w'.DidBoth P Q reason := by
  obtain ⟨e, e', hOrder, hRest⟩ := hDid
  exact ⟨e, e', hOrder.trans h.log.sublist, hRest⟩

/-- The rows behind a caller, once seen, have been seen in every later world. -/
theorem Caller.Seen.later {caller : Caller} (hSeen : caller.Seen settings w)
    (h : w.Later w') : caller.Seen settings w' := by
  cases caller with
  | openMode => exact hSeen
  | apiToken => exact hSeen
  | session row user membership =>
      obtain ⟨hRow, ⟨t, ht, hActive⟩, hUser, hOwn, hStatus, hMember⟩ := hSeen
      exact ⟨h.saw hRow, ⟨t, Int.le_trans ht h.now, hActive⟩, h.saw hUser, hOwn, hStatus,
        h.saw hMember⟩
  | apiKey key =>
      obtain ⟨hKey, t, ht, hActive⟩ := hSeen
      exact ⟨h.saw hKey, t, Int.le_trans ht h.now, hActive⟩

/-- What justifies a sign-in justifies it later: the log and the clock only go on. -/
theorem SignsIn.later {user : User} {password : String}
    (hSigns : SignsIn settings w user password) (h : w.Later w') :
    SignsIn settings w' user password where
  seen := h.saw hSigns.seen
  notDisabled := hSigns.notDisabled
  notLocked := by
    obtain ⟨t, ht, hFree⟩ := hSigns.notLocked
    exact ⟨t, Int.le_trans ht h.now, hFree⟩
  verified := hSigns.verified
  secondFactor hEnabled := by
    obtain ⟨credential, code, t, ht, hSaw, hRest⟩ := hSigns.secondFactor hEnabled
    exact ⟨credential, code, t, Int.le_trans ht h.now, h.saw hSaw, hRest⟩

/-- What justifies a recovery justifies it later. -/
theorem Recovers.later {user : User} {stored : List String} {code : String}
    (hRec : Recovers settings w user stored code) (h : w.Later w') :
    Recovers settings w' user stored code :=
  ⟨h.saw hRec.seen, hRec.enabled, h.saw hRec.listed, hRec.member⟩

/-- What justifies an invitee's account justifies it later. -/
theorem Invited.later {invite : Invite} (hInv : Invited w invite) (h : w.Later w') :
    Invited w' invite where
  seen := h.saw hInv.seen
  usable := by
    obtain ⟨hFree, t, ht, hTime⟩ := hInv.usable
    exact ⟨hFree, t, Int.le_trans ht h.now, hTime⟩

/-- What justifies the use of a token justifies it later. -/
theorem Presents.later {row : TokenRow} (hRow : Presents w row) (h : w.Later w') :
    Presents w' row where
  seen := h.saw hRow.seen
  usable := by
    obtain ⟨t, ht, hTime⟩ := hRow.usable
    exact ⟨t, Int.le_trans ht h.now, hTime⟩

/-- What justifies a change of password justifies it later. -/
theorem Changes.later {caller : Caller} {user : User}
    (hChange : Changes settings w caller user) (h : w.Later w') :
    Changes settings w' caller user :=
  ⟨hChange.resolved.later h, hChange.own, h.saw hChange.seen, hChange.verified⟩

/-- What justifies a confirmation of the second factor justifies it later. -/
theorem Confirms.later {caller : Caller} {credential : TotpCredential} {code : String}
    (hConf : Confirms settings w caller credential code) (h : w.Later w') :
    Confirms settings w' caller credential code where
  resolved := hConf.resolved.later h
  seen := h.saw hConf.seen
  own := hConf.own
  accepted := by
    obtain ⟨t, ht, hCode⟩ := hConf.accepted
    exact ⟨t, Int.le_trans ht h.now, hCode⟩

/-- The write that was just made. -/
theorem did_wrote (w : AuthWorld) {statement : Statement} {reason : Reason} {db : AuthDb}
    {P : Statement → Prop} (h : P statement) : (w.wrote statement reason db).Did P reason :=
  ⟨_, List.mem_append_right _ (List.mem_singleton_self _), h, rfl⟩

/-- A write after another one. -/
theorem AuthWorld.Did.wrote {statement : Statement} {reason : Reason} {db : AuthDb}
    {P Q : Statement → Prop} (hDid : w.Did P reason) (h : w.Later w') (hQ : Q statement) :
    (w'.wrote statement reason db).DidBoth P Q reason := by
  obtain ⟨e, he, hP, hReason⟩ := h.did hDid
  refine ⟨e, w'.entry statement reason, ?_, hP, hQ, hReason, rfl⟩
  exact (List.singleton_sublist.2 he).append (List.Sublist.refl _)

end Later

/-! ## One rule for each kind of step -/

section Rules

variable {settings : AuthSettings} {r : Request} {α β : Type} {Q : β → AuthWorld → Prop}
  {s : AuthWorld}

/-- A read of the tables answers from some later world, and the rest starts there. -/
theorem fetch_bind {f : AuthDb → α} {next : α → AuthHandler β}
    (h : ∀ w, s.Later w → (authCourse settings).Leads r Q (next (f w.db)) w) :
    (authCourse settings).Leads r Q (fetch f >>= next) s :=
  Course.Leads.read_bind h

theorem nowMs_bind {next : Int → AuthHandler β}
    (h : ∀ w, s.Later w → (authCourse settings).Leads r Q (next w.server.now) w) :
    (authCourse settings).Leads r Q (nowMs >>= next) s :=
  Course.Leads.read_bind h

/-- A write: it is fresh and justified, and the handler goes on from there. -/
theorem execute_bind {statement : Nat → Statement} {reason : Reason} {next : Nat → AuthHandler β}
    (hFresh : ∀ n, (statement n).Fresh settings.prim n)
    (hReason : ∀ w, s.Later w →
      Justified settings r.route w (statement w.drawn) reason)
    (h : ∀ w db, s.Later w → (authCourse settings).Leads r Q (next w.drawn)
      (w.wrote (statement w.drawn) reason db)) :
    (authCourse settings).Leads r Q (execute settings.prim statement reason >>= next) s := by
  intro w hw
  show AuthStep settings r.route w _ ∧ (authCourse settings).Leads r Q (_ >>= next) _
  cases hRun : w.db.execute settings.prim (statement w.drawn) with
  | error c =>
      simp only [hRun]
      exact ⟨.quiet rfl rfl rfl (Nat.le_add_right _ _), trivial⟩
  | ok db =>
      simp only [hRun]
      exact ⟨.write hRun (hFresh _) (hReason w hw), h w db hw⟩

/-- A statement must be fresh in what it draws, and justified in every later world that it can
be executed in; the rest starts from the world that it leaves. -/
theorem executeNow_bind {statement : Int → Nat → Statement} {reason : Reason}
    {next : Nat → AuthHandler β} (hFresh : ∀ now n, (statement now n).Fresh settings.prim n)
    (hReason : ∀ w now, s.Later w →
      Justified settings r.route w (statement now w.drawn) reason)
    (h : ∀ w now db, s.Later w → (authCourse settings).Leads r Q (next w.drawn)
      (w.wrote (statement now w.drawn) reason db)) :
    (authCourse settings).Leads r Q (executeNow settings.prim statement reason >>= next) s := by
  unfold executeNow
  rw [Async.bind_assoc']
  refine nowMs_bind fun w hw => execute_bind (hFresh _) (fun w' hw' => ?_) fun w' db hw' => ?_
  · exact hReason w' _ (hw.trans hw')
  · exact h w' _ db (hw.trans hw')

theorem wrongPassword_of_event {a : AuditEvent} (h : a.event ≠ .signInFail) (auditId : String)
    (now : Int) : (a.row auditId now).wrongPassword = false := by
  simp [AuditRow.wrongPassword, AuditEvent.row, h]

/-- An audit row is written for any reason that it has. -/
theorem insertAudit_bind {a : AuditEvent} {reason : Reason} {next : Nat → AuthHandler β}
    (hReason : ∀ w auditId now, s.Later w →
      Justified settings r.route w (.insertAudit (a.row auditId now)) reason)
    (h : ∀ n w, s.Later w → (authCourse settings).Leads r Q (next n) w) :
    (authCourse settings).Leads r Q (insertAudit settings a reason >>= next) s := by
  refine executeNow_bind (fun _ _ => rfl) (fun w now hw => hReason w _ now hw)
    fun w now db hw => ?_
  exact h _ _ (hw.trans (w.later_wrote _ _ _))

/-- A row that says nothing of a wrong password. -/
theorem audit_bind {a : AuditEvent} {next : Nat → AuthHandler β} (hEvent : a.event ≠ .signInFail)
    (h : ∀ n w, s.Later w → (authCourse settings).Leads r Q (next n) w) :
    (authCourse settings).Leads r Q (insertAudit settings a >>= next) s :=
  insertAudit_bind (fun _ auditId now _ => .audited (wrongPassword_of_event hEvent auditId now)) h

/-- A row of the audit trail that names its caller is justified once the caller has been seen.
-/
theorem callerAudit_bind {a : AuditEvent} {caller : Caller} {next : Nat → AuthHandler β}
    (hEvent : a.event ≠ .signInFail) (hSeen : caller.Seen settings s)
    (h : ∀ n w, s.Later w → (authCourse settings).Leads r Q (next n) w) :
    (authCourse settings).Leads r Q (insertAudit settings a (.caller caller) >>= next) s :=
  insertAudit_bind (fun _ auditId now hw => .callerAudited (hSeen.later hw)
    (wrongPassword_of_event hEvent auditId now)) h

theorem sendMail_bind {recipient url : String} {next : Unit → AuthHandler β}
    (h : ∀ w, s.Later w → (authCourse settings).Leads r Q (next ()) w) :
    (authCourse settings).Leads r Q (sendMail recipient url >>= next) s := by
  intro w hw
  have hStep : AuthStep settings r.route w { w with mails := w.mails ++ [⟨recipient, url⟩] } :=
    .quiet rfl rfl rfl (Nat.le_refl _)
  exact ⟨hStep, h _ (hw.trans hStep.later)⟩

/-- A call of the cache leaves the accounts alone, whatever it answers. -/
theorem onCache_bind {f : World → World × α} {next : Option α → AuthHandler β}
    (h : ∀ o w, s.Later w → (authCourse settings).Leads r Q (next o) w) :
    (authCourse settings).Leads r Q (onCache f >>= next) s := by
  intro w hw
  have hStep : AuthStep settings r.route w (w.callCache f).1 := by
    unfold AuthWorld.callCache
    split
    · exact .quiet rfl rfl rfl (Nat.le_refl _)
    · exact .quiet rfl rfl rfl (Nat.le_refl _)
  exact ⟨hStep, h _ _ (hw.trans hStep.later)⟩

end Rules

/-! ## The functions that the routes share -/

section Shared

variable {settings : AuthSettings} {r : Request} {s : AuthWorld}

/-- What a lookup finds is a row of the table. -/
theorem mem_of_find {α : Type} {p : α → Bool} {rows : List α} {row : α}
    (h : rows.find? p = some row) : row ∈ rows :=
  List.mem_of_find?_eq_some h

theorem incrementAndCheck_leads (key : String) (limit windowSeconds : Int) :
    (authCourse settings).Leads r (fun _ _ => True)
      (incrementAndCheck settings key limit windowSeconds) s := by
  unfold incrementAndCheck
  refine onCache_bind fun existing w hw => ?_
  rcases existing with _ | _ | existing
  · trivial
  · exact onCache_bind fun _ w' _ => trivial
  · dsimp only
    cases existing.toInt? with
    | none => trivial
    | some count => exact onCache_bind fun _ w' _ => trivial

/-- The rate limit writes to the cache only, so it needs no justification. -/
theorem enforceOrBlock_leads (config : RateLimitConfig) (headers : Dict String String)
    (fallbackIp : Option String) :
    (authCourse settings).Leads r (fun _ _ => True)
      (enforceOrBlock settings config headers fallbackIp) s := by
  unfold enforceOrBlock
  refine nowMs_bind fun w hw => (incrementAndCheck_leads _ _ _).andThen fun exceeded w' hw' => ?_
  unfold Async.raiseIf
  split
  · trivial
  · trivial

/-- The counter of a sign-in is written for the user whose password was wrong, from the row
that was read. -/
theorem recordFailedLogin_leads (hRoute : r.route = .signIn) (user : User)
    (ip userAgent : Option String) :
    (authCourse settings).Leads r (fun _ _ => True)
      (recordFailedLogin settings user ip userAgent) s := by
  unfold recordFailedLogin
  refine fetch_bind fun w₁ hw₁ => nowMs_bind fun w₂ hw₂ => ?_
  refine executeNow_bind (fun _ _ => trivial)
    (fun w now hw => .failedLogin hRoute hw.now) fun w now db hw => ?_
  unfold auditLock
  cases lockedUntilFor _ w₂.server.now with
  | none => trivial
  | some lockedUntil => exact audit_bind (by simp) fun _ _ _ => trivial

/-- The user that was created, by a write with the reason. -/
theorem createUser_leads (new : NewUser) {reason : Reason}
    (hReason : ∀ w now, s.Later w → Justified settings r.route w
      (.insertUser (new.user settings w.drawn now) (new.membership settings w.drawn now))
      reason) :
    (authCourse settings).Leads r
      (fun user w => w.Did (Statement.createsUser user.userId) reason)
      (createUser settings new reason) s := by
  unfold createUser
  refine executeNow_bind (fun now n => ⟨rfl, rfl, _, rfl⟩) hReason fun w now db hw => ?_
  refine fetch_bind fun w' hw' => ?_
  unfold Async.require
  cases hFound : w'.db.findByUserId (settings.prim.uuid w.drawn) with
  | none => trivial
  | some user =>
      have hId : user.userId = settings.prim.uuid w.drawn := by
        simpa using List.find?_some hFound
      refine hw'.did (did_wrote w ?_)
      exact hId.symm

/-- A new session needs its reason in every world that it can be stored in. -/
theorem createSession_leads (userId : String) (ip userAgent : Option String) {reason : Reason}
    (hReason : ∀ w now, s.Later w → Justified settings r.route w
      (.insertSession (newSession settings userId ip userAgent now w.drawn)) reason) :
    (authCourse settings).Leads r (fun _ _ => True)
      (createSession settings userId ip userAgent reason) s :=
  executeNow_bind (fun _ _ => ⟨rfl, rfl⟩) hReason fun _ _ _ _ => trivial

/-- A rotation is one statement on the session, under the reason that it is given. -/
theorem rotateToken_leads (sessionId : String) {reason : Reason}
    (hReason : ∀ w tokenHash csrfToken now, s.Later w → Justified settings r.route w
      (.rotateToken tokenHash csrfToken now sessionId) reason) :
    (authCourse settings).Leads r
      (fun _ w => ∃ w₁, s.Later w₁ ∧ ∃ statement db, Statement.rotates sessionId statement ∧
        w = w₁.wrote statement reason db)
      (rotateToken settings sessionId reason) s :=
  executeNow_bind (fun _ _ => rfl) (fun w _ hw => hReason w _ _ _ hw)
    fun w now db hw => ⟨w, hw, .rotateToken _ _ now sessionId, db, rfl, rfl⟩

/-- The hash of a password is stored, by a write with the reason. -/
theorem updatePasswordHash_leads (userId password : String) {reason : Reason}
    (hReason : ∀ w now, s.Later w → Justified settings r.route w
      (.setPasswordHash (freshHash settings w.drawn password).1
        (freshHash settings w.drawn password).2 now userId) reason) :
    (authCourse settings).Leads r
      (fun passwordHash w => w.Did (Statement.setsHash passwordHash userId) reason)
      (updatePasswordHash settings userId password reason) s :=
  executeNow_bind (fun _ _ => ⟨_, rfl⟩) hReason fun w _ _ _ => did_wrote w ⟨rfl, rfl⟩

theorem issue_leads (kind : TokenKind) (userId : String) :
    (authCourse settings).Leads r (fun _ _ => True) (issue settings kind userId) s := by
  unfold issue
  refine nowMs_bind fun w hw => ?_
  exact executeNow_bind (fun _ _ => ⟨rfl, rfl⟩) (fun _ _ _ => .token) fun _ _ _ _ => trivial

/-- A token that was usable, and is marked as consumed: the row was seen unconsumed, and the
UPDATE has run by the time the token is handed over. -/
theorem consume_leads (kind : TokenKind) (raw : String) :
    (authCourse settings).Leads r
      (fun found w => ∀ row, found = some row → Presents w row ∧
        ∃ now, w.Did (· = .consumeToken row.kind now row.tokenHash) (.consumed row))
      (consume settings kind raw) s := by
  unfold consume
  refine fetch_bind fun w₁ hw₁ => nowMs_bind fun w₂ hw₂ => ?_
  cases hFound : (w₁.db.findToken kind (settings.prim.sha256Hex raw)).filter
      (TokenRow.usable · w₂.server.now) with
  | none => exact fun row hRow => nomatch hRow
  | some row =>
      obtain ⟨hFind, hUsable⟩ := Option.filter_eq_some_iff.1 hFound
      have hKeys : row.kind = kind ∧ row.tokenHash = settings.prim.sha256Hex raw := by
        simpa using List.find?_some hFind
      have hSeen : Presents w₂ row := {
        seen := hw₂.saw (AuthWorld.saw_now (mem_of_find hFind))
        usable := ⟨_, Int.le_refl _, hUsable⟩ }
      refine executeNow_bind (fun _ _ => trivial) (fun w now hw => ?_) fun w now db hw => ?_
      · rw [← hKeys.1, ← hKeys.2]
        exact .consumed (hSeen.later hw)
      · intro row' hRow'
        obtain rfl := Option.some.inj hRow'
        refine ⟨hSeen.later (hw.trans (w.later_wrote _ _ _)), now, did_wrote w ?_⟩
        rw [hKeys.1, hKeys.2]

/-! ### The caller -/

theorem touchSession_bind {β : Type} {Q : β → AuthWorld → Prop} {sessionId : String}
    {next : Nat → AuthHandler β}
    (h : ∀ n w, s.Later w → (authCourse settings).Leads r Q (next n) w) :
    (authCourse settings).Leads r Q (touchSession settings sessionId >>= next) s :=
  executeNow_bind (fun _ _ => trivial) (fun _ _ _ => .touched)
    fun w _ _ hw => h _ _ (hw.trans (w.later_wrote _ _ _))

/-- A session that is found was in the tables and active at some time since. -/
theorem lookupSession_leads (rawToken : String) :
    (authCourse settings).Leads r
      (fun found w => ∀ row, found = some row →
        w.Saw (row ∈ ·.sessions) ∧ ∃ t ≤ w.server.now, row.active t = true)
      (lookupSession settings rawToken) s := by
  unfold lookupSession
  split
  · exact fun row hRow => nomatch hRow
  · refine fetch_bind fun w₁ hw₁ => nowMs_bind fun w₂ hw₂ => ?_
    intro row hRow
    obtain ⟨hFind, hActive⟩ := Option.filter_eq_some_iff.1 hRow
    exact ⟨hw₂.saw (AuthWorld.saw_now (mem_of_find hFind)), _, Int.le_refl _, hActive⟩

/-- A caller that is found has been seen: the session, its user and the membership were in the
tables, each when it was read, and the session was active at a time up to now. -/
theorem resolveActive_leads {row : Session}
    (hRow : s.Saw (row ∈ ·.sessions) ∧ ∃ t ≤ s.server.now, row.active t = true) :
    (authCourse settings).Leads r
      (fun found w => ∀ caller, found = some caller → caller.Seen settings w)
      (resolveActive settings row) s := by
  obtain ⟨hSaw, t, ht, hActive⟩ := hRow
  unfold resolveActive
  refine fetch_bind fun w₁ hw₁ => ?_
  cases hFound : (w₁.db.findByUserId row.userId).filter fun u => u.status = .active with
  | none => exact fun caller hCaller => nomatch hCaller
  | some user =>
      obtain ⟨hFind, hStatus⟩ := Option.filter_eq_some_iff.1 hFound
      have hOwn : user.userId = row.userId := by simpa using List.find?_some hFind
      refine fetch_bind fun w₂ hw₂ => ?_
      cases hMember : w₂.db.primaryMembership user.userId with
      | none => exact fun caller hCaller => nomatch hCaller
      | some membership =>
          refine touchSession_bind fun _ w hw => ?_
          intro caller hCaller
          obtain rfl := Option.some.inj hCaller
          have h₁ := hw₂.trans hw
          have h := hw₁.trans h₁
          exact ⟨h.saw hSaw, ⟨t, Int.le_trans ht h.now, hActive⟩,
            h₁.saw (AuthWorld.saw_now (mem_of_find hFind)), hOwn, by simpa using hStatus,
            hw.saw (AuthWorld.saw_now hMember)⟩

/-- The caller of a cookie has been seen. -/
theorem resolveSession_leads (http : Http) :
    (authCourse settings).Leads r
      (fun found w => ∀ caller, found = some caller → caller.Seen settings w)
      (resolveSession settings http) s := by
  unfold resolveSession
  cases nonempty (Dict.get? http.cookies settings.cookieName) with
  | none => exact fun caller hCaller => nomatch hCaller
  | some rawCookie =>
      refine (lookupSession_leads rawCookie).bind fun found w hw hFound => ?_
      cases found with
      | none => exact fun caller hCaller => nomatch hCaller
      | some row => exact resolveActive_leads (hFound row rfl)

/-- The caller of a key has been seen. -/
theorem resolveApiKey_leads (http : Http) :
    (authCourse settings).Leads r
      (fun found w => ∀ caller, found = some caller → caller.Seen settings w)
      (resolveApiKey settings http) s := by
  unfold resolveApiKey
  cases (bearer http).filter looksLikeKey with
  | none => exact fun caller hCaller => nomatch hCaller
  | some raw =>
      have hLookup : (authCourse settings).Leads r
          (fun found w => ∀ row, found = some row →
            w.Saw (row ∈ ·.apiKeys) ∧ ∃ t ≤ w.server.now, row.active t = true)
          (lookupApiKey settings raw) s := by
        unfold lookupApiKey
        split
        · exact fun row hRow => nomatch hRow
        · refine fetch_bind fun w₁ hw₁ => nowMs_bind fun w₂ hw₂ => ?_
          intro row hRow
          obtain ⟨hFind, hActive⟩ := Option.filter_eq_some_iff.1 hRow
          exact ⟨hw₂.saw (AuthWorld.saw_now (mem_of_find hFind)), _, Int.le_refl _, hActive⟩
      refine hLookup.bind fun found w hw hFound => ?_
      cases found with
      | none => exact fun caller hCaller => nomatch hCaller
      | some row =>
          obtain ⟨hSaw, t, ht, hActive⟩ := hFound row rfl
          refine executeNow_bind (fun _ _ => trivial) (fun _ _ _ => .keyTouched)
            fun w₁ now db hw₁ => ?_
          intro caller hCaller
          obtain rfl := Option.some.inj hCaller
          have h := hw₁.trans (w₁.later_wrote (.touchApiKey now row.apiKeyId) .plain db)
          exact ⟨h.saw hSaw, t, Int.le_trans ht h.now, hActive⟩

/-- Whoever a request is served for has been seen, in any mode. -/
theorem principalContext_leads (http : Http) :
    (authCourse settings).Leads r (fun caller w => caller.Seen settings w)
      (principalContext settings http) s := by
  unfold principalContext
  cases hMode : settings.mode with
  | openMode => exact hMode
  | apiTokenOnly =>
      show (authCourse settings).Leads r _ (Async.require _ _) s
      unfold resolveApiTokenOnly
      split
      · exact hMode
      · trivial
  | enterprise =>
      show (authCourse settings).Leads r _ (enterpriseContext settings http) s
      unfold enterpriseContext
      refine (resolveSession_leads http).bind fun session w hw hSession => ?_
      cases session with
      | some caller => exact hSession caller rfl
      | none =>
          refine (resolveApiKey_leads http).bind fun key w' hw' hKey => ?_
          cases key with
          | none => trivial
          | some caller => exact hKey caller rfl

/-- An administrator has been seen with one of the roles asked for. -/
theorem requireRole_leads (roles : List Role) (http : Http) (hMode : settings.mode = .enterprise) :
    (authCourse settings).Leads r
      (fun caller w => caller.Seen settings w ∧ caller.principal.hasRole roles = true)
      (requireRole settings roles http) s := by
  unfold requireRole
  refine (principalContext_leads http).bind fun caller w hw hSeen => ?_
  refine Course.Leads.raiseIf_bind fun hAllowed => ⟨hSeen, ?_⟩
  have hKind : caller.principal.isOpenSynthetic = false := by
    cases caller with
    | openMode => exact absurd (hMode.symm.trans hSeen) (by decide)
    | apiToken => rfl
    | session row user membership => rfl
    | apiKey key => rfl
  simpa [hKind] using hAllowed

/-- The session that the caller came with. -/
theorem ownSession_leads (http : Http) (caller : Caller) :
    (authCourse settings).Leads r
      (fun sessionId _ => caller.principal.session? = some sessionId)
      (ownSession http caller) s := by
  unfold ownSession
  refine Course.Leads.require_bind fun sessionId hOwn => fetch_bind fun w hw => ?_
  refine Course.Leads.require_bind fun row hRow => ?_
  unfold requireCsrf
  exact Course.Leads.raiseIf_bind fun _ => hOwn

/-- A code that is accepted fits the credential at some time that has passed. -/
theorem checkCode_leads (credential : TotpCredential) (code : String) :
    (authCourse settings).Leads r
      (fun ok w => ok = true → ∃ t ≤ w.server.now, CodeAccepted settings credential code t)
      (checkCode settings credential code) s := by
  unfold checkCode
  refine Course.Leads.require_bind fun decrypted hDecrypt => nowMs_bind fun w hw => ?_
  exact fun hOk => ⟨_, Int.le_refl _, decrypted, hDecrypt, hOk⟩

end Shared

/-! ## The routes -/

section Routes

variable {settings : AuthSettings} {r : Request} {s : AuthWorld}

/-- A refusal leaves nothing to be proved of what comes after it. -/
theorem signInFail_leads {ip userAgent : Option String} {email : String} {userId : Option String}
    {reason : String} {why : Reason}
    (hReason : ∀ w auditId now, s.Later w → Justified settings r.route w
      (.insertAudit ((signInFailure ip userAgent email userId reason).row auditId now)) why)
    {Q : Unit → AuthWorld → Prop} :
    (authCourse settings).Leads r Q
      (signInFail settings ip userAgent email userId reason why) s :=
  insertAudit_bind hReason fun _ _ _ => trivial

/-- A refusal for another reason than the password. -/
theorem signInFail_other {ip userAgent : Option String} {email : String} {userId : Option String}
    {reason : String} (hReason : reason ≠ "password") {Q : Unit → AuthWorld → Prop} :
    (authCourse settings).Leads r Q
      (signInFail settings ip userAgent email userId reason) s := by
  refine signInFail_leads fun w auditId now hw => .audited ?_
  simp [AuditRow.wrongPassword, AuditEvent.row, signInFailure, hReason]

theorem signInRefuse_leads {event : AuthEvent} {ip userAgent : Option String} {userId : String}
    {detail : List (String × Json)} {failure : Failure} (hEvent : event ≠ .signInFail)
    {Q : Unit → AuthWorld → Prop} :
    (authCourse settings).Leads r Q
      (signInRefuse settings event ip userAgent userId detail failure) s :=
  audit_bind hEvent fun _ _ _ => trivial

/-- An account that passes was neither disabled nor locked out when it was checked. -/
theorem checkAccount_leads (ip userAgent : Option String) (email : String) (user : User) :
    (authCourse settings).Leads r
      (fun _ w => user.status ≠ .disabled ∧
        ∃ t ≤ w.server.now, lockoutIsActive user t = false)
      (checkAccount settings ip userAgent email user) s := by
  unfold checkAccount
  by_cases hDisabled : user.status = .disabled
  · rw [if_pos hDisabled]
    exact signInFail_other (by decide)
  · rw [if_neg hDisabled]
    refine nowMs_bind fun w hw => ?_
    by_cases hLocked : lockoutIsActive user w.server.now = true
    · rw [if_pos hLocked]
      exact signInRefuse_leads (by decide)
    · rw [if_neg hLocked]
      exact ⟨hDisabled, _, Int.le_refl _, by simpa using hLocked⟩

/-- A password that passes fits the row of the account that was read. -/
theorem checkPassword_leads (hRoute : r.route = .signIn) (ip userAgent : Option String)
    (body : SignInRequest) (user : User) :
    (authCourse settings).Leads r
      (fun _ _ => PasswordHasherService.accepts settings.prim settings.peppers body.password
        user = true)
      (checkPassword settings ip userAgent body user) s := by
  unfold checkPassword
  split
  · assumption
  · refine (recordFailedLogin_leads hRoute user ip userAgent).andThen fun _ w _ => ?_
    exact signInFail_leads fun w' auditId now _ => .failureAudited hRoute rfl rfl

/-- A second factor that passes had a credential of the user's in the tables, and a code for
it. -/
theorem checkTotp_leads (ip userAgent : Option String) (body : SignInRequest) (user : User) :
    (authCourse settings).Leads r
      (fun _ w => user.totpEnabled = true → ∃ credential code t, t ≤ w.server.now ∧
        w.Saw (credential ∈ ·.totpCredentials) ∧ credential.userId = user.userId ∧
        CodeAccepted settings credential code t)
      (checkTotp settings ip userAgent body user) s := by
  unfold checkTotp
  by_cases hEnabled : user.totpEnabled = true
  · rw [if_pos hEnabled]
    refine fetch_bind fun w hw => ?_
    cases hFound : w.db.findTotpCredential user.userId with
    | none => exact signInFail_other (by decide)
    | some credential =>
        have hOwn : credential.userId = user.userId := by simpa using List.find?_some hFound
        have hSaw : w.Saw (credential ∈ ·.totpCredentials) :=
          AuthWorld.saw_now (mem_of_find hFound)
        show (authCourse settings).Leads r _
          (checkCredential settings ip userAgent body user credential) w
        unfold checkCredential
        cases nonempty body.totpCode with
        | none => exact signInRefuse_leads (by decide)
        | some code =>
            refine (checkCode_leads credential code).bind fun ok w₁ hw₁ hCode => ?_
            split
            · rename_i hOk
              obtain ⟨t, ht, hAccepted⟩ := hCode hOk
              refine audit_bind (by simp) fun _ w₂ hw₂ _ => ?_
              exact ⟨credential, code, t, Int.le_trans ht hw₂.now, (hw₁.trans hw₂).saw hSaw, hOwn,
                hAccepted⟩
            · exact signInRefuse_leads (by decide)
  · rw [if_neg hEnabled]
    exact fun h => absurd h hEnabled

theorem rehash_leads {password : String} {user : User}
    (hSigns : SignsIn settings s user password) :
    (authCourse settings).Leads r (fun _ _ => True) (rehash settings password user) s := by
  unfold rehash
  split
  · refine (updatePasswordHash_leads _ _ fun w now hw => ?_).andThen fun _ _ _ => trivial
    exact .rehashed (hSigns.later hw)
  · trivial

/-- The session of a user who has passed every check, with its row of the audit trail. -/
theorem issueSession_leads (user : User) (ip userAgent : Option String) {event : AuditEvent}
    {reason : Reason} (hEvent : event.event ≠ .signInFail)
    (hReason : ∀ w row, s.Later w → row.userId = user.userId →
      Justified settings r.route w (.insertSession row) reason) :
    (authCourse settings).Leads r (fun _ _ => True)
      (issueSession settings user ip userAgent event reason) s := by
  unfold issueSession
  refine fetch_bind fun w hw => Course.Leads.require_bind fun membership _ => ?_
  refine (createSession_leads _ _ _ fun w' now hw' => hReason w' _ (hw.trans hw') rfl).andThen
    fun sess w' _ => ?_
  exact audit_bind hEvent fun _ _ _ => trivial

/-- What a sign-in writes is justified by the account, the password and the second factor that
it has checked before. -/
theorem signIn_leads (hRoute : r.route = .signIn) (http : Http) (body : SignInRequest) :
    (authCourse settings).Leads r (fun _ _ => True) (signIn settings http body) s := by
  unfold signIn
  refine (enforceOrBlock_leads _ _ _).andThen fun _ w₀ _ => fetch_bind fun w₁ hw₁ => ?_
  cases hFound : w₁.db.findByEmail settings.prim body.email with
  | none => exact (signInFail_other (Q := fun _ _ => True) (by decide)).andThen fun _ _ _ => trivial
  | some user =>
      have hSeen : w₁.Saw (user ∈ ·.users) := AuthWorld.saw_now (mem_of_find hFound)
      refine (checkAccount_leads _ _ _ _).bind fun _ w₂ hw₂ hAccount => ?_
      obtain ⟨hDisabled, t, ht, hLocked⟩ := hAccount
      refine (checkPassword_leads hRoute _ _ _ _).bind fun _ w₃ hw₃ hPassword => ?_
      refine (checkTotp_leads _ _ _ _).bind fun _ w₄ hw₄ hTotp => ?_
      have hSigns : SignsIn settings w₄ user body.password := {
        seen := ((hw₂.trans hw₃).trans hw₄).saw hSeen
        notDisabled := hDisabled
        notLocked := ⟨t, Int.le_trans ht (hw₃.trans hw₄).now, hLocked⟩
        verified := hPassword
        secondFactor := hTotp }
      refine executeNow_bind (fun _ _ => trivial) (fun w now hw => .succeeded (hSigns.later hw))
        fun w now db hw => ?_
      have h₅ := hw.trans (w.later_wrote (.resetFailedLogin now user.userId)
        (.signIn user body.password) db)
      refine (rehash_leads (hSigns.later h₅)).andThen fun _ w₆ hw₆ => ?_
      exact issueSession_leads user _ _ (by simp) fun w' row hw' hUser =>
        .signedIn (hSigns.later ((h₅.trans hw₆).trans hw')) hUser

/-- A sign-out revokes the session that it has been called with. -/
theorem signOut_leads (http : Http) :
    (authCourse settings).Leads r (fun _ _ => True) (signOut settings http) s := by
  unfold signOut
  refine (principalContext_leads http).bind fun caller w hw hSeen => ?_
  have hRevoke : (authCourse settings).Leads r (fun _ _ => True) (revokeOwn settings caller) w := by
    unfold revokeOwn
    cases hOwn : caller.principal.session? with
    | none => trivial
    | some sessionId =>
        refine executeNow_bind (fun _ _ => trivial)
          (fun w' _ hw' => .signedOut (hSeen.later hw') hOwn) fun w' now db hw' => ?_
        have h := hw'.trans (w'.later_wrote (.revokeSession now sessionId) (.signOut caller) db)
        exact callerAudit_bind (by simp) (hSeen.later h) fun _ _ _ => trivial
  exact hRevoke.andThen fun _ _ _ => trivial

theorem getSession_leads (http : Http) :
    (authCourse settings).Leads r (fun _ _ => True) (getSession settings http) s := by
  unfold getSession
  refine (principalContext_leads http).andThen fun caller w hw => ?_
  cases caller.principal.session? with
  | none => trivial
  | some sessionId => exact fetch_bind fun _ _ => trivial

theorem sessionRefresh_leads (http : Http) :
    (authCourse settings).Leads r (fun _ _ => True) (sessionRefresh settings http) s := by
  unfold sessionRefresh
  refine (principalContext_leads http).bind fun caller w hw hSeen => ?_
  refine (ownSession_leads http caller).bind fun sessionId w₁ hw₁ hOwn => ?_
  refine (rotateToken_leads sessionId fun w' _ _ _ hw' =>
    .refreshed (hSeen.later (hw₁.trans hw')) hOwn).bind fun _ w₂ hw₂ _ => ?_
  exact callerAudit_bind (by simp) (hSeen.later (hw₁.trans hw₂)) fun _ _ _ => trivial

theorem passwordResetRequest_leads (http : Http) (email : String) :
    (authCourse settings).Leads r (fun _ _ => True)
      (passwordResetRequest settings http email) s := by
  unfold passwordResetRequest
  refine (enforceOrBlock_leads _ _ _).andThen fun _ w₀ _ => fetch_bind fun w₁ hw₁ => ?_
  cases w₁.db.findByEmail settings.prim email with
  | none => trivial
  | some user =>
      refine (issue_leads _ _).andThen fun raw w₂ _ => sendMail_bind fun w₃ _ => ?_
      exact audit_bind (by simp) fun _ _ _ => trivial

theorem checkNewPassword_bind {β : Type} {Q : β → AuthWorld → Prop} {password : String}
    {next : Unit → AuthHandler β} (h : (authCourse settings).Leads r Q (next ()) s) :
    (authCourse settings).Leads r Q (checkNewPassword password >>= next) s :=
  Course.Leads.raiseIf_bind fun _ => h

/-- A reset writes for the user of the token that it has consumed. -/
theorem passwordResetComplete_leads (hRoute : r.route = .passwordResetComplete)
    (body : PasswordResetComplete) :
    (authCourse settings).Leads r (fun _ _ => True) (passwordResetComplete settings body) s := by
  unfold passwordResetComplete
  refine checkNewPassword_bind ?_
  refine (consume_leads _ _).bind fun consumed w₁ hw₁ hConsumed => ?_
  refine Course.Leads.require_bind fun token hToken => ?_
  obtain ⟨hPresents, now, hMarked⟩ := hConsumed token hToken
  refine (updatePasswordHash_leads _ _ fun w _ hw =>
    .reset hRoute (hPresents.later hw) ⟨now, hw.did hMarked⟩).bind
    fun passwordHash w₂ hw₂ hSet => ?_
  refine executeNow_bind (fun _ _ => trivial)
    (fun w _ hw => .revokedAll (hPresents.later (hw₂.trans hw)) (hw.did hSet))
    fun w now db hw => ?_
  have hBoth : (w.wrote (.revokeAllForUser now token.userId)
      (.passwordReset token body.newPassword) db).DidBoth
      (Statement.setsHash passwordHash token.userId) (Statement.revokesAll token.userId)
      (.passwordReset token body.newPassword) := hSet.wrote hw rfl
  refine insertAudit_bind (fun w' auditId now hw' => ?_) fun _ _ _ => trivial
  exact .resetAudited hRoute (wrongPassword_of_event (by simp) auditId now) (hw'.didBoth hBoth)

/-- A change of password writes for the caller, whose old password it has checked, and rotates
the caller's own session afterwards. -/
theorem passwordChange_leads (hRoute : r.route = .passwordChange) (http : Http)
    (body : PasswordChangeRequest) :
    (authCourse settings).Leads r (fun _ _ => True) (passwordChange settings http body) s := by
  unfold passwordChange
  refine (principalContext_leads http).bind fun caller w hw hSeen => checkNewPassword_bind ?_
  refine (ownSession_leads http caller).bind fun sessionId w₁ hw₁ hOwn => ?_
  refine fetch_bind fun w₂ hw₂ => Course.Leads.require_bind fun user hFound => ?_
  refine Course.Leads.raiseIf_bind fun hVerified => ?_
  have hChanges : Changes settings w₂ caller user := {
    resolved := hSeen.later (hw₁.trans hw₂)
    own := by simpa using List.find?_some hFound
    seen := AuthWorld.saw_now (mem_of_find hFound)
    verified := ⟨body.currentPassword, by simpa using hVerified⟩ }
  refine (updatePasswordHash_leads _ _ fun w' _ hw' =>
    .changed hRoute (hChanges.later hw')).bind fun passwordHash w₃ hw₃ hSet => ?_
  refine (rotateToken_leads sessionId fun w' _ _ _ hw' =>
    .rotated (hChanges.later (hw₃.trans hw')) hOwn (hw'.did hSet)).bind
    fun _ w₄ hw₄ hRotated => ?_
  obtain ⟨w', hw', statement, db, hRotates, rfl⟩ := hRotated
  have hBoth : (w'.wrote statement (.passwordChange caller user body.newPassword) db).DidBoth
      (Statement.setsHash passwordHash user.userId) (Statement.rotates sessionId)
      (.passwordChange caller user body.newPassword) := hSet.wrote hw' hRotates
  refine insertAudit_bind (fun w'' auditId now hw'' => ?_) fun _ _ _ => trivial
  exact .changeAudited hRoute hOwn (wrongPassword_of_event (by simp) auditId now)
    (hw''.didBoth hBoth)

theorem emailVerifyRequest_leads (http : Http) :
    (authCourse settings).Leads r (fun _ _ => True) (emailVerifyRequest settings http) s := by
  unfold emailVerifyRequest
  refine (principalContext_leads http).bind fun caller w hw hSeen => ?_
  refine Course.Leads.raiseIf_bind fun _ => ?_
  refine (issue_leads _ _).andThen fun raw w₂ hw₂ => sendMail_bind fun w₃ hw₃ => ?_
  exact callerAudit_bind (by simp) (hSeen.later (hw₂.trans hw₃)) fun _ _ _ => trivial

/-- A verification writes for the user of the token that it has consumed. -/
theorem emailVerifyComplete_leads (hRoute : r.route = .emailVerifyComplete) (token : String) :
    (authCourse settings).Leads r (fun _ _ => True) (emailVerifyComplete settings token) s := by
  unfold emailVerifyComplete
  refine (consume_leads _ _).bind fun consumed w₁ _ hConsumed => ?_
  refine Course.Leads.require_bind fun row hRow => ?_
  refine executeNow_bind (fun _ _ => trivial)
    (fun w _ hw => .verified hRoute ((hConsumed row hRow).1.later hw)) fun w _ _ _ => ?_
  exact audit_bind (by simp) fun _ _ _ => trivial

theorem totpSetup_leads (http : Http) :
    (authCourse settings).Leads r (fun _ _ => True) (totpSetup settings http) s := by
  unfold totpSetup
  refine (principalContext_leads http).bind fun caller w hw hSeen => ?_
  refine Course.Leads.raiseIf_bind fun _ => ?_
  refine executeNow_bind (fun _ _ => rfl) (fun w' _ hw' => .totpSetUp (hSeen.later hw') rfl)
    fun w' now db hw' => ?_
  have h := hw'.trans (w'.later_wrote (.insertTotpCredential
    (setupCredential settings caller.principal.userId now w'.drawn)) (.caller caller) db)
  exact callerAudit_bind (by simp) (hSeen.later h) fun _ _ _ => trivial

/-- A confirmation writes for the caller, after a code for the stored credential. -/
theorem totpConfirm_leads (http : Http) (code : String) :
    (authCourse settings).Leads r (fun _ _ => True) (totpConfirm settings http code) s := by
  unfold totpConfirm
  refine (principalContext_leads http).bind fun caller w hw hSeen => ?_
  refine Course.Leads.raiseIf_bind fun hNoSession => fetch_bind fun w₁ hw₁ => ?_
  have hSession : caller.principal.isSession = true := by simpa using hNoSession
  refine Course.Leads.require_bind fun credential hFound => ?_
  refine (checkCode_leads credential code).bind fun ok w₂ hw₂ hCode => ?_
  refine Course.Leads.raiseIf_bind fun hOk => ?_
  obtain ⟨t, ht, hAccepted⟩ := hCode (by simpa using hOk)
  have hConfirms : Confirms settings w₂ caller credential code := {
    resolved := hSeen.later (hw₁.trans hw₂)
    seen := hw₂.saw (AuthWorld.saw_now (mem_of_find hFound))
    own := by simpa using List.find?_some hFound
    accepted := ⟨t, ht, hAccepted⟩ }
  refine executeNow_bind (fun _ _ => trivial)
    (fun w' _ hw' => .codesRenewed (hConfirms.later hw')) fun w₃ now₃ db₃ hw₃ => ?_
  have h₃ := hw₃.trans (w₃.later_wrote (.setRecoveryCodes
    (TotpService.recoveryHashes settings.prim w₃.drawn) now₃ caller.principal.userId)
    (.confirmed caller credential code) db₃)
  refine executeNow_bind (fun _ _ => trivial)
    (fun w' _ hw' => .totpEnabled (hConfirms.later (h₃.trans hw')) hSession)
    fun w₄ now₄ db₄ hw₄ => ?_
  have h₄ := (h₃.trans hw₄).trans (w₄.later_wrote
    (.setTotpEnabled true now₄ caller.principal.userId) (.confirmed caller credential code) db₄)
  exact callerAudit_bind (by simp) (hConfirms.resolved.later h₄) fun _ _ _ => trivial

/-- A disable writes for the caller, whose password and code it has checked against the rows
that it has read. -/
theorem totpDisable_leads (http : Http) (body : TotpDisableRequest) :
    (authCourse settings).Leads r (fun _ _ => True) (totpDisable settings http body) s := by
  unfold totpDisable
  refine (principalContext_leads http).bind fun caller w hw hSeen => ?_
  refine Course.Leads.raiseIf_bind fun hNoSession => fetch_bind fun w₁ hw₁ => ?_
  have hSession : caller.principal.isSession = true := by simpa using hNoSession
  refine Course.Leads.require_bind fun user _ => Course.Leads.raiseIf_bind fun _ => ?_
  refine fetch_bind fun w₂ hw₂ => ?_
  have hStored : (authCourse settings).Leads r (fun _ _ => True)
      (checkStoredCode settings body.code (w₂.db.findTotpCredential caller.principal.userId))
      w₂ := by
    unfold checkStoredCode
    split
    · trivial
    · refine (checkCode_leads _ _).andThen fun ok w₃ _ => ?_
      unfold Async.raiseIf
      split
      · trivial
      · trivial
  refine hStored.andThen fun _ w₃ hw₃ => ?_
  have h₃ := hSeen.later ((hw₁.trans hw₂).trans hw₃)
  refine execute_bind (fun _ => trivial) (fun w' hw' => .totpDeleted (h₃.later hw'))
    fun w₄ db₄ hw₄ => ?_
  have h₄ := h₃.later (hw₄.trans (w₄.later_wrote
    (.deleteTotpCredential caller.principal.userId) (.caller caller) db₄))
  refine executeNow_bind (fun _ _ => trivial)
    (fun w' _ hw' => .totpDisabled (h₄.later hw') hSession) fun w₅ now₅ db₅ hw₅ => ?_
  have h₅ := h₄.later (hw₅.trans (w₅.later_wrote
    (.setTotpEnabled false now₅ caller.principal.userId) (.caller caller) db₅))
  exact callerAudit_bind (by simp) h₅ fun _ _ _ => trivial

/-- A recovery writes for the user whose recovery code was on the list that it has read. -/
theorem totpRecovery_leads (hRoute : r.route = .totpRecovery) (http : Http)
    (body : TotpRecoveryRequest) :
    (authCourse settings).Leads r (fun _ _ => True) (totpRecovery settings http body) s := by
  unfold totpRecovery
  refine fetch_bind fun w₁ hw₁ => Course.Leads.require_bind fun user hUser => ?_
  obtain ⟨hFound, hEnabled⟩ := Option.filter_eq_some_iff.1 hUser
  refine fetch_bind fun w₂ hw₂ => Course.Leads.require_bind fun credential hCredential => ?_
  refine Course.Leads.raiseIf_bind fun hOk => ?_
  have hAccepted : (TotpService.consumeRecoveryCode settings.prim body.recoveryCode
      credential.recoveryCodesHash).1 = true := by simpa using hOk
  obtain ⟨hMember, hErase⟩ := TotpService.consumeRecoveryCode_ok settings.prim hAccepted
  have hRecovers : Recovers settings w₂ user credential.recoveryCodesHash body.recoveryCode := {
    seen := hw₂.saw (AuthWorld.saw_now (mem_of_find hFound))
    enabled := hEnabled
    listed := AuthWorld.saw_now ⟨credential, mem_of_find hCredential,
      by simpa using List.find?_some hCredential, rfl⟩
    member := hMember }
  refine executeNow_bind (fun _ _ => trivial) (fun w _ hw => ?_) fun w now db hw => ?_
  · rw [hErase]
    exact .codeConsumed (hRecovers.later hw)
  · have hDid : (w.wrote (.setRecoveryCodes (TotpService.consumeRecoveryCode settings.prim
        body.recoveryCode credential.recoveryCodesHash).2 now user.userId)
        (.recovery user credential.recoveryCodesHash body.recoveryCode) db).Did
        (Statement.setsCodes user.userId)
        (.recovery user credential.recoveryCodesHash body.recoveryCode) := did_wrote w rfl
    have h := hw.trans (w.later_wrote (.setRecoveryCodes (TotpService.consumeRecoveryCode
      settings.prim body.recoveryCode credential.recoveryCodesHash).2 now user.userId)
      (.recovery user credential.recoveryCodesHash body.recoveryCode) db)
    exact issueSession_leads user _ _ (by simp) fun w' row hw' hOwn =>
      .recovered hRoute (hRecovers.later (h.trans hw')) hOwn (hw'.did hDid)

theorem withRoles_leads (orgId : String) (users : List User) :
    (authCourse settings).Leads r (fun _ _ => True) (withRoles orgId users) s := by
  induction users generalizing s with
  | nil => trivial
  | cons u rest ih => exact fetch_bind fun w hw => ih.andThen fun _ _ _ => trivial

theorem adminListUsers_leads (hMode : settings.mode = .enterprise) (http : Http) :
    (authCourse settings).Leads r (fun _ _ => True) (adminListUsers settings http) s := by
  unfold adminListUsers
  refine (requireRole_leads _ http hMode).andThen fun caller w hw => fetch_bind fun w₁ hw₁ => ?_
  exact (withRoles_leads _ _).andThen fun _ _ _ => trivial

theorem adminListSessions_leads (hMode : settings.mode = .enterprise) (http : Http)
    (userId : String) :
    (authCourse settings).Leads r (fun _ _ => True) (adminListSessions settings http userId) s := by
  unfold adminListSessions
  exact (requireRole_leads _ http hMode).andThen fun _ _ _ => fetch_bind fun _ _ => trivial

/-- An administrator's revocation is justified by the administrator, whatever session it
names. -/
theorem adminRevokeSession_leads (hMode : settings.mode = .enterprise) (http : Http)
    (sessionId : String) :
    (authCourse settings).Leads r (fun _ _ => True)
      (adminRevokeSession settings http sessionId) s := by
  unfold adminRevokeSession
  refine (requireRole_leads _ http hMode).bind fun caller w hw hCaller => ?_
  refine executeNow_bind (fun _ _ => trivial) (fun w' _ hw' => .revoked (hCaller.1.later hw'))
    fun w' now db hw' => ?_
  have h := hw'.trans (w'.later_wrote (.revokeSession now sessionId) (.caller caller) db)
  exact callerAudit_bind (by simp) (hCaller.1.later h) fun _ _ _ => trivial

/-- A change of role is justified by an owner of the organisation it is made in. -/
theorem adminChangeRole_leads (hMode : settings.mode = .enterprise) (http : Http)
    (userId : String) (role : Role) :
    (authCourse settings).Leads r (fun _ _ => True)
      (adminChangeRole settings http userId role) s := by
  unfold adminChangeRole
  refine (requireRole_leads _ http hMode).bind fun caller w hw hCaller => ?_
  refine execute_bind (fun _ => trivial)
    (fun w' hw' => .roleChanged (hCaller.1.later hw') hCaller.2) fun w' db hw' => ?_
  have h := hw'.trans (w'.later_wrote (.setRole role userId caller.principal.orgId)
    (.caller caller) db)
  exact callerAudit_bind (by simp) (hCaller.1.later h) fun _ _ _ => trivial

/-- An invite is justified by an owner of the organisation it is for. -/
theorem adminInvite_leads (hMode : settings.mode = .enterprise) (http : Http)
    (body : AdminInviteRequest) :
    (authCourse settings).Leads r (fun _ _ => True) (adminInvite settings http body) s := by
  unfold adminInvite
  refine (requireRole_leads _ http hMode).bind fun caller w hw hCaller => ?_
  refine nowMs_bind fun w₁ hw₁ => executeNow_bind (fun _ _ => ⟨rfl, rfl, rfl⟩)
    (fun w' _ hw' => .invited (hCaller.1.later (hw₁.trans hw')) hCaller.2 rfl)
    fun w' now db hw' => sendMail_bind fun w₂ hw₂ => ?_
  have h := ((hw₁.trans hw').trans (w'.later_wrote _ (.caller caller) db)).trans hw₂
  exact callerAudit_bind (by simp) (hCaller.1.later h) fun _ _ _ => trivial

theorem inviteFail_leads {α : Type} {Q : α → AuthWorld → Prop} {ip userAgent : Option String}
    {inviteId : Option String} {reason : String} :
    (authCourse settings).Leads r Q (inviteFail settings ip userAgent inviteId reason) s :=
  audit_bind (by simp) fun _ _ _ => trivial

/-- An invitee's account is justified by the invite, which was neither used nor expired. -/
theorem admitInvitee_leads (ip userAgent : Option String) (body : AcceptInviteRequest)
    {invite : Invite} (hInvited : Invited s invite) :
    (authCourse settings).Leads r (fun _ _ => True)
      (admitInvitee settings ip userAgent body invite) s := by
  unfold admitInvitee
  refine (createUser_leads _ fun w _ hw => .invitee (hInvited.later hw) rfl rfl rfl).bind
    fun user w₁ hw₁ hCreated => ?_
  refine executeNow_bind (fun _ _ => trivial) (fun _ _ _ => .emailVerified)
    fun w₂ now₂ db₂ hw₂ => ?_
  have h₂ := hw₂.trans (w₂.later_wrote (.setEmailVerified now₂ user.userId) .plain db₂)
  refine executeNow_bind (fun _ _ => trivial)
    (fun w _ hw => .inviteConsumed (hInvited.later ((hw₁.trans h₂).trans hw)))
    fun w₃ now₃ db₃ hw₃ => ?_
  have h₃ := (h₂.trans hw₃).trans (w₃.later_wrote (.consumeInvite now₃ invite.inviteId)
    (.acceptInvite invite) db₃)
  refine audit_bind (by simp) fun _ w₄ hw₄ => ?_
  refine (createSession_leads _ _ _ fun w now hw => ?_).andThen fun _ _ _ => trivial
  have h := (h₃.trans hw₄).trans hw
  exact .welcomed (hInvited.later (hw₁.trans h)) (h.did hCreated)

theorem acceptInvite_leads (http : Http) (body : AcceptInviteRequest) :
    (authCourse settings).Leads r (fun _ _ => True) (acceptInvite settings http body) s := by
  unfold acceptInvite
  refine checkNewPassword_bind ?_
  refine (enforceOrBlock_leads _ _ _).andThen fun _ w₀ _ => fetch_bind fun w₁ hw₁ => ?_
  cases hFound : w₁.db.findInvite (settings.prim.sha256Hex body.token) with
  | none => exact inviteFail_leads
  | some invite =>
      have hUsable : (authCourse settings).Leads r
          (fun _ w => invite.consumedAt = none ∧ ∃ t ≤ w.server.now, ¬ invite.expiresAt < t)
          (checkInvite settings (clientIp http.headers http.client) http.userAgent invite) w₁ := by
        unfold checkInvite
        by_cases hConsumed : invite.consumedAt = none
        · rw [if_neg (fun h => h hConsumed)]
          refine nowMs_bind fun w hw => ?_
          by_cases hExpired : invite.expiresAt < w.server.now
          · rw [if_pos hExpired]
            exact inviteFail_leads
          · rw [if_neg hExpired]
            exact ⟨hConsumed, _, Int.le_refl _, hExpired⟩
        · rw [if_pos hConsumed]
          exact inviteFail_leads
      refine hUsable.bind fun _ w₂ hw₂ hFree => fetch_bind fun w₃ hw₃ => ?_
      obtain ⟨hConsumed, t, ht, hTime⟩ := hFree
      have hInvited : Invited w₃ invite := {
        seen := (hw₂.trans hw₃).saw (AuthWorld.saw_now (mem_of_find hFound))
        usable := ⟨hConsumed, t, Int.le_trans ht hw₃.now, hTime⟩ }
      cases w₃.db.findByEmail settings.prim invite.email with
      | some existing => exact inviteFail_leads
      | none => exact admitInvitee_leads _ _ body hInvited

theorem assertApiKeyAgentScope_leads (p : Principal) (body : IssueApiKeyRequest) :
    (authCourse settings).Leads r (fun _ _ => True) (assertApiKeyAgentScope p body) s := by
  unfold assertApiKeyAgentScope
  split
  · trivial
  · refine Course.Leads.read_bind fun w hw => ?_
    unfold Async.raiseIf
    split
    · trivial
    · trivial

/-- A key that is handed out has been stored for an administrator's organisation, between the
call and the answer. -/
theorem issueKey_leads (new : NewApiKey) {caller : Caller} (hSeen : caller.Seen settings s)
    (hRole : caller.principal.hasRole adminRoles = true)
    (hOrg : new.orgId = caller.principal.orgId) :
    (authCourse settings).Leads r
      (fun issued w => ∃ createdAt n, s.server.now ≤ createdAt ∧ createdAt ≤ w.server.now ∧
        (new.agentId = none ∨ new.agentIdAllowlist = none) ∧
        w.Did (· = .insertApiKey (new.row settings createdAt n)) (.caller caller) ∧
        issued.rawKey = new.rawKey settings n ∧
        issued.row = { new.row settings createdAt n with
          agentIdAllowlist := new.agentIdAllowlist })
      (issueKey settings new (.caller caller)) s := by
  unfold issueKey
  refine Course.Leads.raiseIf_bind fun hOne => nowMs_bind fun w hw => ?_
  refine execute_bind (fun _ => ⟨rfl, rfl, rfl⟩)
    (fun w' hw' => .keyIssued (hSeen.later (hw.trans hw')) hRole hOrg) fun w' db hw' => ?_
  refine ⟨w.server.now, w'.drawn, hw.now, hw'.now, ?_, did_wrote w' rfl, rfl, rfl⟩
  by_contra hBoth
  exact hOne (not_or.1 hBoth)

/-- What the route hands out is the key that it has stored. -/
theorem issueApiKey_leads (hMode : settings.mode = .enterprise) (http http' : Http)
    (body : IssueApiKeyRequest) :
    (authCourse settings).Leads r (Delivers settings (.issueApiKey http' body))
      (issueApiKey settings http body) s := by
  unfold issueApiKey
  refine (requireRole_leads _ http hMode).bind fun caller w hw hCaller => ?_
  refine (assertApiKeyAgentScope_leads _ body).andThen fun _ w₁ hw₁ => ?_
  refine nowMs_bind fun w₂ hw₂ => ?_
  have h₂ := hCaller.1.later (hw₁.trans hw₂)
  refine (issueKey_leads _ h₂ hCaller.2 rfl).bind fun issued w₃ hw₃ hIssued => ?_
  obtain ⟨createdAt, n, hFrom, hTo, hOne, hDid, hRaw, hRow⟩ := hIssued
  refine callerAudit_bind (by simp) (h₂.later hw₃) fun _ w₄ hw₄ => ?_
  intro rawKey view hReply
  obtain ⟨rfl, rfl⟩ := Reply.apiKey.inj hReply
  exact ⟨caller, w₂.server.now, createdAt, n, hFrom, Int.le_trans hTo hw₄.now, hOne,
    hw₄.did hDid, hRaw, by rw [hRow]⟩

theorem listApiKeys_leads (hMode : settings.mode = .enterprise) (http : Http) :
    (authCourse settings).Leads r (fun _ _ => True) (listApiKeys settings http) s := by
  unfold listApiKeys
  exact (requireRole_leads _ http hMode).andThen fun _ _ _ => fetch_bind fun _ _ => trivial

/-- A key is revoked by an administrator of its organisation. -/
theorem revokeApiKey_leads (hMode : settings.mode = .enterprise) (http : Http)
    (apiKeyId : String) :
    (authCourse settings).Leads r (fun _ _ => True) (revokeApiKey settings http apiKeyId) s := by
  unfold revokeApiKey
  refine (requireRole_leads _ http hMode).bind fun caller w hw hCaller => ?_
  refine fetch_bind fun w₁ hw₁ => Course.Leads.raiseIf_bind fun hListed => ?_
  have hSeen : w₁.Saw fun db => ∃ key ∈ db.apiKeys, key.orgId = caller.principal.orgId ∧
      key.apiKeyId = apiKeyId := by
    obtain ⟨key, hKey, hId⟩ := not_not.1 hListed
    rw [List.mem_filter] at hKey
    exact AuthWorld.saw_now ⟨key, hKey.1, by simpa using hKey.2, hId⟩
  have h₁ := hCaller.1.later hw₁
  refine executeNow_bind (fun _ _ => trivial)
    (fun w' _ hw' => .keyRevoked (h₁.later hw') hCaller.2 (hw'.saw hSeen)) fun w' now db hw' => ?_
  have h := hw'.trans (w'.later_wrote (.revokeApiKey now apiKeyId) (.caller caller) db)
  exact callerAudit_bind (by simp) (h₁.later h) fun _ _ _ => trivial

/-- The command line needs no caller: its writes are plain. -/
theorem seedAdmin_leads (args : SeedAdmin) :
    (authCourse settings).Leads r (fun _ _ => True) (seedAdmin settings args) s := by
  unfold seedAdmin
  refine Course.Leads.raiseIf_bind fun _ => ?_
  refine execute_bind (fun _ => trivial) (fun _ _ => .organization) fun w db hw => ?_
  refine fetch_bind fun w₁ hw₁ => ?_
  cases w₁.db.findByEmail settings.prim args.email with
  | some user => trivial
  | none => exact (createUser_leads _ fun _ _ _ => .user).andThen fun _ _ _ => trivial

theorem otherRouter_leads (http : Http) :
    (authCourse settings).Leads r (fun _ _ => True) (otherRouter settings http) s := by
  unfold otherRouter authContext
  rw [Async.bind_assoc']
  exact (principalContext_leads http).andThen fun _ _ _ => trivial

/-- **Every route keeps to the course**: each of its writes has a reason that its route
allows, given what its handler has seen before. -/
theorem handle_leads (r : Request) (s : AuthWorld) :
    (authCourse settings).Leads r (Delivers settings r) (handle settings r) s := by
  unfold handle
  refine Course.Leads.raiseIf_bind fun hMounted => ?_
  have hMode : r.route ≠ .seedAdmin → r.route ≠ .otherRouter → settings.mode = .enterprise := by
    intro hSeed hOther
    by_contra hMode
    exact hMounted ⟨hMode, hSeed, hOther⟩
  cases r with
  | signUp http body =>
      refine checkNewPassword_bind (Course.Leads.raiseIf_bind fun hOpen => ?_)
      exact absurd (hMode nofun nofun) hOpen
  | signIn http body => exact signIn_leads rfl _ body
  | signOut http => exact signOut_leads _
  | getSession http => exact getSession_leads _
  | sessionRefresh http => exact sessionRefresh_leads _
  | passwordResetRequest http email => exact passwordResetRequest_leads _ email
  | passwordResetComplete body => exact passwordResetComplete_leads rfl body
  | passwordChange http body => exact passwordChange_leads rfl _ body
  | emailVerifyRequest http => exact emailVerifyRequest_leads _
  | emailVerifyComplete token => exact emailVerifyComplete_leads rfl token
  | totpSetup http => exact totpSetup_leads _
  | totpConfirm http code => exact totpConfirm_leads _ code
  | totpDisable http body => exact totpDisable_leads _ body
  | totpRecovery http body => exact totpRecovery_leads rfl _ body
  | adminListUsers http => exact adminListUsers_leads (hMode nofun nofun) _
  | adminListSessions http userId =>
      exact adminListSessions_leads (hMode nofun nofun) _ userId
  | adminRevokeSession http sessionId =>
      exact adminRevokeSession_leads (hMode nofun nofun) _ sessionId
  | adminChangeRole http userId role =>
      exact adminChangeRole_leads (hMode nofun nofun) _ userId role
  | adminInvite http body => exact adminInvite_leads (hMode nofun nofun) _ body
  | acceptInvite http body => exact acceptInvite_leads _ body
  | issueApiKey http body => exact issueApiKey_leads (hMode nofun nofun) _ http body
  | listApiKeys http => exact listApiKeys_leads (hMode nofun nofun) _
  | revokeApiKey http apiKeyId =>
      exact revokeApiKey_leads (hMode nofun nofun) _ apiKeyId
  | seedAdmin args => exact seedAdmin_leads args
  | otherRouter http => exact otherRouter_leads http

end Routes

/-- **Every step of the service** is a step of the course. -/
theorem authService_follows (settings : AuthSettings) :
    (authService settings).Follows (authCourse settings) (Delivers settings) where
  external x s := by
    cases x with
    | tick ns =>
        exact AuthWorld.later_of_same rfl rfl (World.now_tick _ ns) (Nat.le_refl _)
    | cache down => exact AuthWorld.later_of_same rfl rfl (Int.le_refl _) (Nat.le_refl _)
    | database db => exact AuthWorld.later_of_same rfl rfl (Int.le_refl _) (Nat.le_refl _)
  handler := handle_leads

end AgentShield.Auth
