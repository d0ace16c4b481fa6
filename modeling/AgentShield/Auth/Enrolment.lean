import AgentShield.Auth.Callers
import AgentShield.Auth.Passwords
import AgentShield.Auth.SingleUse

/-!
# Enrolment of the second factor

A setup stores a secret, a confirmation sets the flag of the user, and a disable deletes the
secret and then clears the flag, in two statements.  The flag stands for a secret that a code
has confirmed, except where a disable was cut off between the two; and a setup stores its
secret exactly where none is stored (`enrolment`).
-/

namespace AgentShield.Auth

open AgentShield.Lib AgentShield.Sdk AgentShield.Server

/-! ## Flags and secrets -/

/-- The statements that turn the second factor on or off, or take its credential away. -/
def Statement.enrols : Statement → Bool
  | .setTotpEnabled .. | .deleteTotpCredential _ => true
  | _ => false

/-- The flags, the stored secrets, and the writes so far that set a flag or delete a
secret. -/
structure Enrolment where
  flags : List (String × Bool)
  secrets : List (String × String)
  history : List Executed

/-- The part of the world that says who has a second factor, with the statements that made it
so. -/
def AuthWorld.enrolment (w : AuthWorld) : Enrolment where
  flags := w.db.users.map fun u => (u.userId, u.totpEnabled)
  secrets := w.db.totpCredentials.map fun c => (c.userId, c.secretEncrypted)
  history := w.log.filter fun e => e.statement.enrols

/-- The entry deletes the user's secret (`true`) or writes the flag (`false`). -/
def Executed.cuts? (userId : String) (e : Executed) : Option Bool :=
  match e.statement with
  | .deleteTotpCredential user => if user = userId then some true else none
  | .setTotpEnabled _ _ user => if user = userId then some false else none
  | _ => none

namespace Enrolment

variable (E : Enrolment)

/-- A credential is stored. -/
def insert (userId cipher : String) : Enrolment :=
  let row : String × String := (userId, cipher)
  { E with secrets := E.secrets ++ [row] }

/-- The credentials of a user are deleted, by the statement `e`. -/
def delete (userId : String) (e : Executed) : Enrolment :=
  { E with
    secrets := E.secrets.filter fun p => p.1 ≠ userId
    history := E.history ++ [e] }

/-- The flag of a user is set, by the statement `e`. -/
def setFlag (userId : String) (enabled : Bool) (e : Executed) : Enrolment :=
  { E with
    flags := E.flags.map fun p => if p.1 = userId then (p.1, enabled) else p
    history := E.history ++ [e] }

end Enrolment

/-! ### Statements -/

/-- The statement concerns neither flags nor secrets. -/
def Statement.keepsEnrolment : Statement → Bool
  | .touchSession .. | .touchApiKey .. | .insertSession _ | .insertAudit _
  | .setRecoveryCodes .. => true
  | _ => false

section Statements

variable (w : AuthWorld) (reason : Reason)

/-- A statement about anything else leaves the enrolment as it is. -/
theorem enrolment_keeps {st : Statement} (h : st.keepsEnrolment = true) :
    (w.wrote st reason (w.db.apply st)).enrolment = w.enrolment := by
  have hUsers : st.addUser = [] ∧ ∀ u, st.setUser u = u := by
    cases st <;> first | exact ⟨rfl, fun u => rfl⟩ | cases h
  have hSecrets : (w.db.apply st).totpCredentials.map (fun c => (c.userId, c.secretEncrypted)) =
      w.db.totpCredentials.map fun c => (c.userId, c.secretEncrypted) := by
    cases st <;> first | cases h; done | skip
    case setRecoveryCodes hashes now userId =>
      show (w.db.totpCredentials.filterMap _ ++ []).map _ = _
      rw [List.append_nil, List.map_filterMap]
      have hRow : (fun c : TotpCredential => ((Statement.setRecoveryCodes hashes now
          userId).setTotpCredential c).map fun c => (c.userId, c.secretEncrypted)) =
          some ∘ fun c => (c.userId, c.secretEncrypted) := by
        funext c
        show some _ = some _
        by_cases hId : c.userId = userId
        · simp [hId]
        · simp [hId]
      rw [hRow, ← List.filterMap_map, List.filterMap_some]
    all_goals
      show (w.db.totpCredentials.filterMap some ++ []).map _ = _
      rw [List.append_nil, List.filterMap_some]
  have hHistory : (w.log ++ [w.entry st reason]).filter (fun e => e.statement.enrols) =
      w.log.filter fun e => e.statement.enrols := by
    have hOther : st.enrols = false := by
      cases st <;> first | rfl | cases h
    rw [List.filter_append]
    simp [AuthWorld.entry, hOther]
  unfold AuthWorld.enrolment
  congr 1
  show (w.db.users.map st.setUser ++ st.addUser).map _ = _
  rw [hUsers.1, List.append_nil, List.map_map]
  exact List.map_congr_left fun u _ => by simp [hUsers.2]

/-- What the INSERT of a credential does to the enrolment. -/
theorem enrolment_insert (row : TotpCredential) :
    (w.wrote (.insertTotpCredential row) reason
      (w.db.apply (.insertTotpCredential row))).enrolment =
        w.enrolment.insert row.userId row.secretEncrypted := by
  unfold AuthWorld.enrolment Enrolment.insert
  congr 1
  · show (w.db.users.map id ++ []).map _ = _
    rw [List.append_nil, List.map_id]
  · show (w.db.totpCredentials.filterMap some ++ [row]).map _ = _
    rw [List.filterMap_some, List.map_append]
    rfl
  · show (w.log ++ [_]).filter _ = _
    rw [List.filter_append]
    simp [AuthWorld.entry, Statement.enrols]

/-- What the DELETE of a user's credential does to the enrolment. -/
theorem enrolment_delete (userId : String) :
    (w.wrote (.deleteTotpCredential userId) reason
      (w.db.apply (.deleteTotpCredential userId))).enrolment =
        w.enrolment.delete userId (w.entry (.deleteTotpCredential userId) reason) := by
  unfold AuthWorld.enrolment Enrolment.delete
  congr 1
  · show (w.db.users.map id ++ []).map _ = _
    rw [List.append_nil, List.map_id]
  · show (w.db.totpCredentials.filterMap (fun c : TotpCredential =>
      if c.userId = userId then none else some c) ++ []).map _ = _
    rw [List.append_nil]
    induction w.db.totpCredentials with
    | nil => rfl
    | cons c cs ih =>
        by_cases hId : c.userId = userId
        · simpa [List.filterMap_cons, hId] using ih
        · simpa [List.filterMap_cons, hId] using ih
  · show (w.log ++ [_]).filter _ = _
    rw [List.filter_append]
    simp [AuthWorld.entry, Statement.enrols]

/-- What the UPDATE of the flag does to the enrolment. -/
theorem enrolment_setFlag (userId : String) (enabled : Bool) (now : Int) :
    (w.wrote (.setTotpEnabled enabled now userId) reason
      (w.db.apply (.setTotpEnabled enabled now userId))).enrolment =
        w.enrolment.setFlag userId enabled
          (w.entry (.setTotpEnabled enabled now userId) reason) := by
  unfold AuthWorld.enrolment Enrolment.setFlag
  congr 1
  · show (w.db.users.map (Statement.setTotpEnabled enabled now userId).setUser ++ []).map _ = _
    rw [List.append_nil, List.map_map, List.map_map]
    refine List.map_congr_left fun u _ => ?_
    by_cases hId : u.userId = userId
    · simp [Statement.setUser, hId]
    · simp [Statement.setUser, hId]
  · show (w.db.totpCredentials.filterMap some ++ []).map _ = _
    rw [List.append_nil, List.filterMap_some]
  · show (w.log ++ [_]).filter _ = _
    rw [List.filter_append]
    simp [AuthWorld.entry, Statement.enrols]

end Statements

/-! ## The link between flag and secret -/

section Link

variable (settings : AuthSettings) (earlier : String → String → Prop)

/-- A valid code has confirmed the secret, and the flag was set for it. -/
def Confirmed (history : List Executed) (userId cipher : String) : Prop :=
  ∃ e ∈ history, ∃ now caller credential code t,
    e.statement = .setTotpEnabled true now userId ∧
    e.reason = .confirmed caller credential code ∧ credential.secretEncrypted = cipher ∧
    CodeAccepted settings credential code t

/-- A user with the flag has a stored secret that was confirmed, or was so before the
run. -/
def Enrolment.Linked (E : Enrolment) (userId : String) : Prop :=
  (userId, true) ∈ E.flags → ∃ cipher, (userId, cipher) ∈ E.secrets ∧
    (earlier userId cipher ∨ Confirmed settings E.history userId cipher)

/-- The last write for the user is the deletion of their secret: the disable that made it
has not cleared the flag. -/
def Enrolment.CutOff (E : Enrolment) (userId : String) : Prop :=
  latest (Executed.cuts? userId) E.history = some true

/-- Every user with the flag who is not cut off has a stored secret that was confirmed, or
that was linked before. -/
def Enrolment.Sound (E : Enrolment) : Prop :=
  ∀ userId, ¬ E.CutOff userId → E.Linked settings earlier userId

variable {settings earlier} {E : Enrolment}

/-- What was confirmed stays confirmed as the history grows. -/
theorem Confirmed.mono {history : List Executed} {userId cipher : String}
    (h : Confirmed settings history userId cipher) (e : Executed) :
    Confirmed settings (history ++ [e]) userId cipher := by
  obtain ⟨e', he', hConfirmed⟩ := h
  exact ⟨e', List.mem_append_left _ he', hConfirmed⟩

/-- A new credential confirms nothing and takes nothing from what is confirmed. -/
theorem Enrolment.Sound.insert (h : E.Sound settings earlier) (userId cipher : String) :
    (E.insert userId cipher).Sound settings earlier := by
  intro user hCut hFlag
  obtain ⟨stored, hStored, hConfirmed⟩ := h user hCut hFlag
  exact ⟨stored, List.mem_append_left _ hStored, hConfirmed⟩

/-- Deleting a credential cuts its user off until the flag is gone as well. -/
theorem Enrolment.Sound.delete (h : E.Sound settings earlier) {userId : String} {e : Executed}
    (he : e.statement = .deleteTotpCredential userId) :
    (E.delete userId e).Sound settings earlier := by
  intro user hCut hFlag
  by_cases hUser : userId = user
  · have hCuts : e.cuts? user = some true := by simp [Executed.cuts?, he, hUser]
    exact absurd (latest_append_some hCuts) hCut
  · have hCuts : e.cuts? user = none := by simp [Executed.cuts?, he, hUser]
    have hSame : latest (Executed.cuts? user) (E.history ++ [e]) =
        latest (Executed.cuts? user) E.history := latest_append_none hCuts
    have hBefore : ¬ E.CutOff user := fun hOld => hCut (hSame.trans hOld)
    obtain ⟨stored, hStored, hConfirmed⟩ := h user hBefore hFlag
    refine ⟨stored, List.mem_filter.2 ⟨hStored, ?_⟩, hConfirmed.imp_right fun hOld => hOld.mono e⟩
    exact decide_eq_true (Ne.symm hUser)

theorem Enrolment.mem_setFlag {userId user : String} {enabled : Bool} {e : Executed}
    (h : (user, true) ∈ (E.setFlag userId enabled e).flags) :
    (user = userId ∧ enabled = true) ∨ (user ≠ userId ∧ (user, true) ∈ E.flags) := by
  obtain ⟨p, hp, hSame⟩ := List.mem_map.1 h
  by_cases hId : p.1 = userId
  · rw [if_pos hId] at hSame
    obtain ⟨rfl, rfl⟩ := Prod.mk.inj hSame
    exact .inl ⟨hId, rfl⟩
  · rw [if_neg hId] at hSame
    rw [hSame] at hp hId
    exact .inr ⟨hId, hp⟩

/-- Clearing a flag, or setting it for a secret that is stored and that a code confirms. -/
theorem Enrolment.Sound.setFlag (h : E.Sound settings earlier) {userId : String}
    {enabled : Bool} {e : Executed} {now : Int}
    (he : e.statement = .setTotpEnabled enabled now userId)
    (hConfirms : enabled = true → ∃ cipher, (userId, cipher) ∈ E.secrets ∧
      Confirmed settings [e] userId cipher) :
    (E.setFlag userId enabled e).Sound settings earlier := by
  intro user hCut hFlag
  rcases Enrolment.mem_setFlag hFlag with ⟨rfl, hEnabled⟩ | ⟨hUser, hOld⟩
  · obtain ⟨cipher, hStored, e', he', hConfirmed⟩ := hConfirms hEnabled
    exact ⟨cipher, hStored, .inr ⟨e', List.mem_append_right _ he', hConfirmed⟩⟩
  · have hCuts : e.cuts? user = none := by simp [Executed.cuts?, he, Ne.symm hUser]
    have hSame : latest (Executed.cuts? user) (E.history ++ [e]) =
        latest (Executed.cuts? user) E.history := latest_append_none hCuts
    have hBefore : ¬ E.CutOff user := fun hOld => hCut (hSame.trans hOld)
    obtain ⟨stored, hStored, hConfirmed⟩ := h user hBefore hOld
    exact ⟨stored, hStored, hConfirmed.imp_right fun hOld => hOld.mono e⟩

end Link

/-! ## The requests -/

section Requests

variable {settings : AuthSettings} {earlier : String → String → Prop}

/-- The steps of the handler leave flags and secrets alone. -/
abbrev KeepsEnrolment {α : Type} (prog : AuthHandler α) : Prop :=
  Async.Steps (fun _ => True) (fun w w' : AuthWorld => w'.enrolment = w.enrolment)
    (fun _ => True) prog

/-- The steps of the handler keep what holds of flags and secrets. -/
abbrev Keeps {α : Type} (I : Enrolment → Prop) (prog : AuthHandler α) : Prop :=
  Async.Steps (fun _ => True) (fun w w' : AuthWorld => I w.enrolment → I w'.enrolment)
    (fun _ => True) prog

/-- Where neither the tables nor the log have changed the enrolment has not. -/
theorem enrolment_quiet {w w' : AuthWorld} (hDb : w'.db = w.db) (hLog : w'.log = w.log) :
    w'.enrolment = w.enrolment := by
  unfold AuthWorld.enrolment
  rw [hDb, hLog]

theorem WritesOnly.keepsEnrolment {α : Type} {prog : AuthHandler α}
    (h : WritesOnly settings.prim (fun st _ => st.keepsEnrolment = true) prog) :
    KeepsEnrolment prog := by
  refine h.guarantee fun w w' hStep => ?_
  rcases hStep with ⟨hDb, hLog, -⟩ | ⟨st, reason, hKeeps, -, rfl⟩
  · exact enrolment_quiet hDb hLog
  · exact enrolment_keeps w reason hKeeps

theorem KeepsEnrolment.keeps {α : Type} {prog : AuthHandler α} (h : KeepsEnrolment prog)
    (I : Enrolment → Prop) : Keeps I prog :=
  Async.Steps.guarantee h fun w w' hSame hI => by rwa [hSame]

/-- A program that keeps the enrolment leaves it as it was. -/
theorem KeepsEnrolment.run {α : Type} {prog : AuthHandler α} (h : KeepsEnrolment prog)
    {w w' : AuthWorld} {r : Except Failure α} (hRun : Async.run prog w = (w', r)) :
    w'.enrolment = w.enrolment := by
  have hSame : (Async.run prog w).1.enrolment = w.enrolment := h.spares.run
  rwa [hRun] at hSame

/-- A property of the enrolment that a program keeps holds at each of its steps. -/
theorem Keeps.visits {α : Type} {I : Enrolment → Prop} {prog : AuthHandler α} (h : Keeps I prog)
    {w : AuthWorld} (hI : I w.enrolment) : Async.Visits (fun w' => I w'.enrolment) prog w :=
  (Async.Steps.weaken h fun _ _ => trivial).visits (fun _ _ hs hStep => hStep hs) hI

theorem insertAudit_keepsEnrolment (a : AuditEvent) (reason : Reason) :
    KeepsEnrolment (insertAudit settings a reason) := by
  have hWrites : WritesOnly settings.prim (fun st _ => st.keepsEnrolment = true)
      (insertAudit settings a reason) := insertAudit_writes (fun _ => rfl) a
  exact hWrites.keepsEnrolment

theorem principalContext_keepsEnrolment (http : Http) :
    KeepsEnrolment (principalContext settings http) := by
  have hWrites : WritesOnly settings.prim (fun st _ => st.keepsEnrolment = true)
      (principalContext settings http) :=
    principalContext_writes (fun _ _ => rfl) (fun _ _ => rfl) http
  exact hWrites.keepsEnrolment

theorem checkCode_keepsEnrolment (credential : TotpCredential) (code : String) :
    KeepsEnrolment (checkCode settings credential code) := by
  unfold checkCode
  refine Async.Steps.require_bind fun decrypted _ => ?_
  exact Async.Steps.read_bind (fun _ => rfl) fun _ _ => trivial

/-- A setup stores a credential that counts for nothing until it is confirmed. -/
theorem totpSetup_keeps (http : Http) :
    Keeps (Enrolment.Sound settings earlier) (totpSetup settings http) := by
  unfold totpSetup
  refine Async.Steps.bind ((principalContext_keepsEnrolment http).keeps _) fun caller _ => ?_
  refine Async.Steps.raiseIf_bind fun _ => ?_
  have hInsert : WritesOnly settings.prim (fun st _ => ∃ row, st = .insertTotpCredential row)
      (executeNow settings.prim (fun now n => .insertTotpCredential
        (setupCredential settings caller.principal.userId now n)) (.caller caller)) :=
    executeNow_writes fun _ _ => ⟨_, rfl⟩
  refine Async.Steps.bind (hInsert.guarantee fun w w' hStep hSound => ?_) fun n _ => ?_
  · rcases hStep with ⟨hDb, hLog, -⟩ | ⟨st, reason, ⟨row, rfl⟩, -, rfl⟩
    · rwa [enrolment_quiet hDb hLog]
    · rw [enrolment_insert]
      exact hSound.insert _ _
  · exact Async.Steps.bind ((insertAudit_keepsEnrolment _ _).keeps _) fun _ _ => trivial

/-- Disabling deletes the credential first and takes the flag after it; a failure between the
two cuts the user off. -/
theorem totpDisable_keeps (http : Http) (body : TotpDisableRequest) :
    Keeps (Enrolment.Sound settings earlier) (totpDisable settings http body) := by
  unfold totpDisable
  refine Async.Steps.bind ((principalContext_keepsEnrolment http).keeps _) fun caller _ => ?_
  refine Async.Steps.raiseIf_bind fun _ => ?_
  refine Async.Steps.read_bind (fun _ hSound => hSound) fun w₁ _ => ?_
  refine Async.Steps.require_bind fun user _ => Async.Steps.raiseIf_bind fun _ => ?_
  refine Async.Steps.read_bind (fun _ hSound => hSound) fun w₂ _ => ?_
  refine Async.Steps.bind (Q := fun _ => True) ?_ fun _ _ => ?_
  · unfold checkStoredCode
    split
    · trivial
    · refine Async.Steps.bind ((checkCode_keepsEnrolment _ _).keeps _) fun ok _ => ?_
      cases ok <;> trivial
  have hDelete : WritesOnly settings.prim
      (fun st _ => st = .deleteTotpCredential caller.principal.userId)
      (execute settings.prim (fun _ => .deleteTotpCredential caller.principal.userId)
        (.caller caller)) := execute_writes fun _ => by rfl
  have hClear : WritesOnly settings.prim
      (fun st _ => ∃ now, st = .setTotpEnabled false now caller.principal.userId)
      (setTotpEnabled settings caller.principal.userId false (.caller caller)) :=
    executeNow_writes fun now _ => ⟨now, rfl⟩
  refine Async.Steps.bind (hDelete.guarantee fun w w' hStep hSound => ?_) fun _ _ => ?_
  · rcases hStep with ⟨hDb, hLog, -⟩ | ⟨st, reason, rfl, -, rfl⟩
    · rwa [enrolment_quiet hDb hLog]
    · rw [enrolment_delete]
      exact hSound.delete rfl
  refine Async.Steps.bind (hClear.guarantee fun w w' hStep hSound => ?_) fun _ _ => ?_
  · rcases hStep with ⟨hDb, hLog, -⟩ | ⟨st, reason, ⟨now, rfl⟩, -, rfl⟩
    · rwa [enrolment_quiet hDb hLog]
    · rw [enrolment_setFlag]
      exact hSound.setFlag rfl nofun
  · exact Async.Steps.bind ((insertAudit_keepsEnrolment _ _).keeps _) fun _ _ => trivial

/-- A recovery code takes itself off the list and leaves the enrolment alone. -/
theorem totpRecovery_keeps (http : Http) (body : TotpRecoveryRequest) :
    KeepsEnrolment (totpRecovery settings http body) := by
  unfold totpRecovery
  refine Async.Steps.read_bind (fun _ => rfl) fun w₁ _ => Async.Steps.require_bind fun user _ => ?_
  refine Async.Steps.read_bind (fun _ => rfl) fun w₂ _ => Async.Steps.require_bind fun tc _ => ?_
  refine Async.Steps.raiseIf_bind fun _ => ?_
  have hCodes : WritesOnly settings.prim (fun st _ => st.keepsEnrolment = true)
      (executeNow settings.prim (fun now _ => .setRecoveryCodes (TotpService.consumeRecoveryCode
        settings.prim body.recoveryCode tc.recoveryCodesHash).2 now user.userId)
        (.recovery user tc.recoveryCodesHash body.recoveryCode)) :=
    executeNow_writes fun _ _ => by rfl
  refine Async.Steps.bind hCodes.keepsEnrolment fun _ _ => ?_
  have hSession : WritesOnly settings.prim (fun st _ => st.keepsEnrolment = true)
      (issueSession settings user (clientIp http.headers) http.userAgent
        { event := .signInRecoveryOk } (.recovery user tc.recoveryCodesHash body.recoveryCode)) :=
    issueSession_writes (fun _ => rfl) (fun _ => rfl) _ _ _ _
  exact hSession.keepsEnrolment

/-- A code that was found valid. -/
theorem run_checkCode {credential : TotpCredential} {code : String} {w w' : AuthWorld} {ok : Bool}
    (hRun : Async.run (checkCode settings credential code) w = (w', .ok ok)) (hOk : ok = true) :
    CodeAccepted settings credential code w.server.now := by
  unfold checkCode at hRun
  obtain ⟨w₁, decrypted, hDecrypt, hRest⟩ := Async.run_bind_ok hRun
  cases hFound : TotpService.decrypt settings.prim settings.fernetKeys
      credential.secretEncrypted credential.activeKid with
  | none =>
      rw [hFound] at hDecrypt
      cases (Prod.mk.inj hDecrypt).2
  | some found =>
      rw [hFound] at hDecrypt
      obtain ⟨rfl, hSame⟩ := Prod.mk.inj hDecrypt
      obtain rfl := Except.ok.inj hSame
      have hVerify : TotpService.verify settings.prim found.secret code w.server.now = ok :=
        Except.ok.inj (Prod.mk.inj hRest).2
      exact ⟨found, hFound, hVerify.trans hOk⟩

/-- The rest of a confirmation, after the code has been accepted: fresh recovery codes are
stored, the second factor is switched on, and the codes are shown once. -/
def confirmRest (settings : AuthSettings) (caller : Caller) (why : Reason) :
    AuthHandler Response := do
  let userId := caller.principal.userId
  let n ← executeNow settings.prim
    (fun now n => .setRecoveryCodes (TotpService.recoveryHashes settings.prim n) now userId) why
  let _ ← setTotpEnabled settings userId true why
  let _ ← insertAudit settings { event := .totpConfirm, userId := userId } (.caller caller)
  return { reply := .totpConfirm (TotpService.recoveryCodes settings.prim n) }

/-- The link holds, and the secret is stored. -/
def Enrolment.SoundWith (settings : AuthSettings) (earlier : String → String → Prop)
    (userId cipher : String) (E : Enrolment) : Prop :=
  E.Sound settings earlier ∧ (userId, cipher) ∈ E.secrets

/-- After an accepted code a confirmation writes the recovery codes and turns the flag on for
the credential that the code fits. -/
theorem confirmRest_keeps {caller : Caller} {credential : TotpCredential} {code : String}
    {t : Int} (hAccepted : CodeAccepted settings credential code t) :
    Keeps (Enrolment.SoundWith settings earlier caller.principal.userId
      credential.secretEncrypted)
      (confirmRest settings caller (.confirmed caller credential code)) := by
  have hCodes : WritesOnly settings.prim (fun st _ => st.keepsEnrolment = true)
      (executeNow settings.prim (fun now n => .setRecoveryCodes
        (TotpService.recoveryHashes settings.prim n) now caller.principal.userId)
        (.confirmed caller credential code)) := executeNow_writes fun _ _ => by rfl
  have hSet : WritesOnly settings.prim (fun st reason =>
      (∃ now, st = .setTotpEnabled true now caller.principal.userId) ∧
        reason = .confirmed caller credential code)
      (setTotpEnabled settings caller.principal.userId true
        (.confirmed caller credential code)) :=
    executeNow_writes fun now _ => ⟨⟨now, rfl⟩, rfl⟩
  unfold confirmRest
  refine Async.Steps.bind (hCodes.keepsEnrolment.keeps _) fun n _ => ?_
  refine Async.Steps.bind (hSet.guarantee fun w w' hStep hBoth => ?_) fun _ _ => ?_
  · rcases hStep with ⟨hDb, hLog, -⟩ | ⟨st, reason, ⟨⟨now, rfl⟩, rfl⟩, -, rfl⟩
    · rwa [enrolment_quiet hDb hLog]
    · rw [enrolment_setFlag]
      refine ⟨hBoth.1.setFlag rfl fun _ => ⟨credential.secretEncrypted, hBoth.2, ?_⟩, hBoth.2⟩
      exact ⟨_, List.mem_singleton_self _, now, caller, credential, code, t, rfl, rfl, rfl,
        hAccepted⟩
  · exact Async.Steps.bind ((insertAudit_keepsEnrolment _ _).keeps _) fun _ _ => trivial

/-- **A confirmation, alone**: the secret whose code was valid is still stored when the flag
is set. -/
theorem totpConfirm_keeps (http : Http) (code : String) {w : AuthWorld}
    (h : w.enrolment.Sound settings earlier) :
    Async.Visits (fun w' => w'.enrolment.Sound settings earlier) (totpConfirm settings http code)
      w := by
  unfold totpConfirm
  refine (((principalContext_keepsEnrolment http).keeps _).visits h).bind
    fun w₁ caller hContext => ?_
  have h₁ : w₁.enrolment.Sound settings earlier := by
    rwa [(principalContext_keepsEnrolment http).run hContext]
  refine Async.Visits.raiseIf_bind h₁ fun _ => Async.Visits.read_bind ?_
  refine Async.Visits.require_bind h₁ fun credential hFound => ?_
  refine (((checkCode_keepsEnrolment credential code).keeps _).visits h₁).bind
    fun w₂ ok hCheck => ?_
  have hSame := (checkCode_keepsEnrolment credential code).run hCheck
  have h₂ : w₂.enrolment.Sound settings earlier := by rwa [hSame]
  refine Async.Visits.raiseIf_bind h₂ fun hOk => ?_
  have hAccepted := run_checkCode hCheck (by simpa using hOk)
  -- what the confirmation has read stays so, since nothing else writes
  have hOwn : credential.userId = caller.principal.userId := by
    simpa using List.find?_some hFound
  have hStored : (caller.principal.userId, credential.secretEncrypted) ∈ w₂.enrolment.secrets := by
    rw [hSame, ← hOwn]
    exact List.mem_map_of_mem (List.mem_of_find?_eq_some hFound)
  exact ((confirmRest_keeps hAccepted).visits ⟨h₂, hStored⟩).mono fun w' hBoth => hBoth.1

end Requests

/-! ## Sequences of requests -/

/-- A request of the second factor, whose steps may fail, or what happens outside the
handlers: time passes, the cache goes down and comes back, the main router writes its tables.
-/
inductive EnrolmentTurn where
  | setup (http : Http) (faults : List Fault)
  | confirm (http : Http) (code : String) (faults : List Fault)
  | disable (http : Http) (body : TotpDisableRequest) (faults : List Fault)
  | recovery (http : Http) (body : TotpRecoveryRequest) (faults : List Fault)
  | outside (x : Outside)

section Sequences

variable (settings : AuthSettings) (earlier : String → String → Prop)

/-- One turn: the handler of the request runs from beginning to end, with a failure before
each step that the list of faults names. -/
def AuthWorld.turn (w : AuthWorld) : EnrolmentTurn → AuthWorld
  | .setup http faults => (Async.exec .backend (handle settings (.totpSetup http)) faults w).1
  | .confirm http code faults =>
      (Async.exec .backend (handle settings (.totpConfirm http code)) faults w).1
  | .disable http body faults =>
      (Async.exec .backend (handle settings (.totpDisable http body)) faults w).1
  | .recovery http body faults =>
      (Async.exec .backend (handle settings (.totpRecovery http body)) faults w).1
  | .outside x => Auth.outside x w

/-- The requests of a list, one after the other. -/
def AuthWorld.turns (w : AuthWorld) (ts : List EnrolmentTurn) : AuthWorld :=
  ts.foldl (AuthWorld.turn settings) w

/-- The flag of the user stands for a stored secret that a code has confirmed. -/
def HasConfirmed (w : AuthWorld) (user : User) : Prop :=
  user.totpEnabled = true → ∃ c ∈ w.db.totpCredentials, c.userId = user.userId ∧
    (earlier c.userId c.secretEncrypted ∨ Confirmed settings w.log c.userId c.secretEncrypted)

/-- A setup that runs now stores a secret of its own. -/
def SetsUp (w : AuthWorld) (http : Http) (userId : String) : Prop :=
  ∃ e ∈ (Async.run (totpSetup settings http) w).1.log.drop w.log.length,
    ∃ row, e.statement = .insertTotpCredential row ∧ row.userId = userId

variable {settings earlier} {w : AuthWorld}

/-- The log of a run goes on from what it was. -/
theorem WritesOnly.log {α : Type} {S : Statement → Reason → Prop} {prog : AuthHandler α}
    (h : WritesOnly settings.prim S prog) (w : AuthWorld) :
    w.log <+: (Async.run prog w).1.log := by
  have hKeeps : Async.Steps (fun w' : AuthWorld => w.log <+: w'.log)
      (AuthWorld.Writes settings.prim S) (fun _ => True) prog := h.weaken fun _ _ => trivial
  refine (hKeeps.visits (fun w₁ w₂ hPrefix hStep => ?_) (List.prefix_refl _)).run
  rcases hStep with ⟨-, hLog, -⟩ | ⟨st, reason, -, -, rfl⟩
  · rwa [hLog]
  · exact hPrefix.trans (List.prefix_append _ _)

/-- What holds at each step of a route holds at each step of its request, which fails alike. -/
theorem handle_visits {r : Request} {P : AuthWorld → Prop} (hw : P w)
    (h : Async.Visits P (dispatch settings r) w) : Async.Visits P (handle settings r) w :=
  Async.Visits.raiseIf_bind hw fun _ => h

/-- **One turn.** -/
theorem turn_sound (t : EnrolmentTurn) (h : w.enrolment.Sound settings earlier) :
    (w.turn settings t).enrolment.Sound settings earlier := by
  cases t with
  | setup http faults =>
      have hVisits := (totpSetup_keeps (http.to .totpSetup)).visits h
      exact (handle_visits (r := .totpSetup http) h hVisits).exec .backend faults
  | confirm http code faults =>
      have hVisits := totpConfirm_keeps (http.to .totpConfirm) code h
      exact (handle_visits (r := .totpConfirm http code) h hVisits).exec .backend faults
  | disable http body faults =>
      have hVisits := (totpDisable_keeps (http.to .totpDisable) body).visits h
      exact (handle_visits (r := .totpDisable http body) h hVisits).exec .backend faults
  | recovery http body faults =>
      have hKeeps : KeepsEnrolment (totpRecovery settings (http.to .totpRecovery) body) :=
        totpRecovery_keeps _ _
      have hVisits := (hKeeps.keeps _).visits h
      exact (handle_visits (r := .totpRecovery http body) h hVisits).exec .backend faults
  | outside x => cases x <;> exact h

/-- The enrolment stays sound through any list of requests, whichever of their steps fail. -/
theorem turns_sound (ts : List EnrolmentTurn) (h : w.enrolment.Sound settings earlier) :
    (w.turns settings ts).enrolment.Sound settings earlier := by
  induction ts generalizing w with
  | nil => exact h
  | cons t ts ih => exact ih (turn_sound t h)

/-- A user with the flag, linked to a credential, has confirmed that credential. -/
theorem hasConfirmed_of_linked {user : User} (hUser : user ∈ w.db.users)
    (h : w.enrolment.Linked settings earlier user.userId) :
    HasConfirmed settings earlier w user := by
  intro hEnabled
  have hFlag : (user.userId, true) ∈ w.enrolment.flags :=
    List.mem_map.2 ⟨user, hUser, by rw [hEnabled]⟩
  obtain ⟨cipher, hStored, hConfirmed⟩ := h hFlag
  obtain ⟨c, hc, hSame⟩ := List.mem_map.1 hStored
  obtain ⟨hId, rfl⟩ := Prod.mk.inj hSame
  refine ⟨c, hc, hId, ?_⟩
  rw [hId]
  refine hConfirmed.imp_right fun hHistory => ?_
  obtain ⟨e, he, hEntry⟩ := hHistory
  exact ⟨e, List.mem_of_mem_filter he, hEntry⟩

/-- **A setup stores its secret exactly where none is stored.**  The statement is an INSERT:
where there is a row it breaks the primary key, so that the request fails and the old secret
stays. -/
theorem setsUp_iff {http : Http} {row : Session} {user : User} {membership : Membership}
    (hCaller : callerOf settings w http = some (.session row user membership)) :
    SetsUp settings w http user.userId ↔
      ∀ c ∈ w.db.totpCredentials, c.userId ≠ user.userId := by
  obtain ⟨-, hSession⟩ := callerOf_session hCaller
  have hUser : w.db.hasUser user.userId :=
    ⟨user, List.mem_of_find?_eq_some (sessionOf_some hSession).owner, rfl⟩
  unfold SetsUp totpSetup
  rw [run_caller_bind hCaller]
  have hIsSession : ¬ (Caller.session row user membership).principal.isSession = false := by
    simp [Caller.principal, Principal.isSession]
  unfold requireSession
  rw [Async.run_raiseIf_bind, if_neg hIsSession]
  have hRows : (w.stamped (.session row user membership)).db.totpCredentials =
      w.db.totpCredentials := by
    show w.db.totpCredentials.filterMap some ++ [] = _
    rw [List.filterMap_some, List.append_nil]
  have hUsers : (w.stamped (.session row user membership)).db.hasUser user.userId :=
    AuthDb.hasUser_apply hUser
  have hLog : ∃ e₀, (w.stamped (.session row user membership)).log = w.log ++ [e₀] ∧
      e₀.statement = .touchSession w.server.now row.sessionId := ⟨_, rfl, rfl⟩
  generalize w.stamped (.session row user membership) = w₁ at hRows hUsers hLog ⊢
  obtain ⟨e₀, hLog, hTouch⟩ := hLog
  -- what is in the log in the end, by whether the statement is accepted
  have hCheck : ∀ st : TotpCredential, st.userId = user.userId →
      (w₁.db.constraints settings.prim (.insertTotpCredential st) = .ok () ↔
        ∀ c ∈ w.db.totpCredentials, c.userId ≠ user.userId) := by
    intro st hOwn
    show (do
      check (∀ c ∈ w₁.db.totpCredentials, c.userId ≠ st.userId) (.primaryKey "totp_credentials")
      check (w₁.db.hasUser st.userId) (.foreignKey "totp_credentials")) = .ok () ↔ _
    rw [hRows, hOwn, check_bind_ok, check_ok]
    exact and_iff_left hUsers
  generalize hCredential : setupCredential settings (Caller.session row user
    membership).principal.userId w₁.server.now w₁.drawn = credential
  have hOwn : credential.userId = user.userId := by rw [← hCredential]; rfl
  rw [Async.run_bind, run_executeNow, run_execute, hCredential]
  constructor
  · rintro ⟨e, he, st, hStatement, -⟩
    by_contra hStored
    cases hConstraint : w₁.db.constraints settings.prim (.insertTotpCredential credential) with
    | ok u => exact hStored ((hCheck credential hOwn).1 hConstraint)
    | error c =>
        rw [hConstraint] at he
        have hOnly : e ∈ (w.log ++ [e₀]).drop w.log.length := by
          rw [← hLog]
          exact he
        rw [List.drop_left, List.mem_singleton] at hOnly
        rw [hOnly, hTouch] at hStatement
        cases hStatement
  · intro hFree
    rw [(hCheck credential hOwn).2 hFree]
    refine ⟨w₁.entry (.insertTotpCredential credential)
      (.caller (.session row user membership)), ?_, credential, rfl, hOwn⟩
    simp only
    generalize hWrote : w₁.wrote (.insertTotpCredential credential)
      (.caller (.session row user membership))
      (w₁.db.apply (.insertTotpCredential credential)) = w₂
    have hLog₂ : w₂.log = w.log ++ [e₀, w₁.entry (.insertTotpCredential credential)
        (.caller (.session row user membership))] := by
      rw [← hWrote]
      show w₁.log ++ [_] = _
      rw [hLog, List.append_assoc]
      rfl
    have hLater : ∀ log, w₂.log <+: log → w₁.entry (.insertTotpCredential credential)
        (.caller (.session row user membership)) ∈ log.drop w.log.length := by
      rintro log ⟨more, rfl⟩
      rw [hLog₂, List.append_assoc, List.drop_left]
      simp
    -- the audit row comes after it
    have hAudit : WritesOnly settings.prim (fun _ _ => True) (insertAudit settings
        { event := .totpSetup, userId := (Caller.session row user membership).principal.userId }
        (.caller (.session row user membership))) := insertAudit_writes (fun _ => trivial) _
    have hLogged : ∀ next : Nat → AuthHandler Response,
        (∀ n, WritesOnly settings.prim (fun _ _ => True) (next n)) →
          w₂.log <+: (Async.run (insertAudit settings
            { event := .totpSetup
              userId := (Caller.session row user membership).principal.userId }
            (.caller (.session row user membership)) >>= next) w₂).1.log :=
      fun next hNext => WritesOnly.log (Async.Steps.bind hAudit fun n _ => hNext n) w₂
    exact hLater _ (hLogged _ fun _ => trivial)

/-- **The enrolment of the second factor.**  After any sequence of requests, whichever of
their steps fail: the flag of a user stands for a confirmed secret unless a disable has
deleted the secret and not cleared the flag, and a user can start a setup if and only if no
secret of theirs is stored. -/
theorem enrolment_holds (settings : AuthSettings) (earlier : String → String → Prop)
    {w₀ : AuthWorld} (hStart : ∀ u ∈ w₀.db.users, u.totpEnabled = true →
      ∃ c ∈ w₀.db.totpCredentials, c.userId = u.userId ∧ earlier c.userId c.secretEncrypted)
    (ts : List EnrolmentTurn) :
    (∀ u ∈ (w₀.turns settings ts).db.users,
      ¬ (w₀.turns settings ts).enrolment.CutOff u.userId →
        HasConfirmed settings earlier (w₀.turns settings ts) u) ∧
    ∀ http row user membership,
      callerOf settings (w₀.turns settings ts) http = some (.session row user membership) →
        (SetsUp settings (w₀.turns settings ts) http user.userId ↔
          ∀ c ∈ (w₀.turns settings ts).db.totpCredentials, c.userId ≠ user.userId) := by
  have hSound : w₀.enrolment.Sound settings earlier := by
    intro userId _ hFlag
    obtain ⟨u, hu, hSame⟩ := List.mem_map.1 hFlag
    obtain ⟨rfl, hEnabled⟩ := Prod.mk.inj hSame
    obtain ⟨c, hc, hId, hEarlier⟩ := hStart u hu hEnabled
    rw [hId] at hEarlier
    exact ⟨c.secretEncrypted, List.mem_map.2 ⟨c, hc, by rw [hId]⟩, .inl hEarlier⟩
  constructor
  · intro u hu hCut
    exact hasConfirmed_of_linked hu (turns_sound ts hSound u.userId hCut)
  · intro http row user membership hCaller
    exact setsUp_iff hCaller

end Sequences

instance (E : Enrolment) (userId : String) : Decidable (E.CutOff userId) :=
  inferInstanceAs (Decidable (latest (Executed.cuts? userId) E.history = some true))

namespace Sample

def homeSession : Session where
  sessionId := "a"
  userId := "u"
  tokenHash := "one"
  csrfToken := "csrf"
  createdAt := 0
  lastUsedAt := 0
  expiresAt := 100000

/-- The user is signed in, without a second factor. -/
def unenrolledDb : AuthDb :=
  { authDb with
    users := [{ user with totpEnabled := false }]
    sessions := [homeSession]
    totpCredentials := [] }

def homeHttp : Http where
  method := "POST"
  headers := [("x-csrf-token", "csrf")]
  cookies := [("shield_session", "one")]

def homeWorld : AuthWorld := .initial authServer unenrolledDb

/-- A setup and its confirmation. -/
def enrols : List EnrolmentTurn := [.setup homeHttp [], .confirm homeHttp "123456" []]

/-- A disable whose eleventh step, the clearing of the flag, fails. -/
def cutDisable : EnrolmentTurn :=
  .disable homeHttp { password := "password", code := "123456" }
    (List.replicate 10 .none ++ [.before])

def enrolled : AuthWorld := homeWorld.turns authSettings enrols

def cutOff : AuthWorld := homeWorld.turns authSettings (enrols ++ [cutDisable])

/-- The authenticator was lost before the code was entered. -/
def unconfirmed : AuthWorld := homeWorld.turns authSettings [.setup homeHttp []]

/-- The session after one request. -/
def usedSession : Session := { homeSession with lastUsedAt := 1000 }

def unenrolledUser : User := { user with totpEnabled := false }

def ownerMembership : Membership where
  userId := "u"
  orgId := demoOrgId
  role := .orgOwner
  joinedAt := 0

theorem homeWorld_start : ∀ u ∈ homeWorld.db.users, u.totpEnabled = true →
    ∃ c ∈ homeWorld.db.totpCredentials, c.userId = u.userId ∧ False := by
  intro u hu hEnabled
  obtain rfl := List.mem_singleton.1 hu
  cases hEnabled

theorem unconfirmed_caller : callerOf authSettings unconfirmed homeHttp =
    some (.session usedSession unenrolledUser ownerMembership) := by decide +kernel

end Sample

/-- The user enrols, and the flag stands for the secret that the code has confirmed. -/
theorem enrolment_sample : ∃ u ∈ Sample.enrolled.db.users, u.totpEnabled = true ∧
    HasConfirmed Sample.authSettings (fun _ _ => False) Sample.enrolled u := by
  have hEnrolled : ∃ u ∈ Sample.enrolled.db.users, u.totpEnabled = true ∧
      ¬ Sample.enrolled.enrolment.CutOff u.userId := by decide +kernel
  obtain ⟨u, hu, hEnabled, hCut⟩ := hEnrolled
  exact ⟨u, hu, hEnabled, (enrolment_holds Sample.authSettings (fun _ _ => False)
    Sample.homeWorld_start Sample.enrols).1 u hu hCut⟩

/-- **A flag without a secret, and a setup that is refused.**  The disable whose second
statement fails leaves the flag and no secret.  After a setup that was never confirmed, the
next one is refused by the key of the table. -/
theorem flag_without_secret :
    Sample.cutOff.db.users.map (·.totpEnabled) = [true] ∧
      Sample.cutOff.db.totpCredentials = [] ∧
      Sample.unconfirmed.db.users.map (·.totpEnabled) = [false] ∧
      ¬ SetsUp Sample.authSettings Sample.unconfirmed Sample.homeHttp "u" ∧
      ¬ ∀ (settings : AuthSettings) (earlier : String → String → Prop) (w₀ : AuthWorld),
        (∀ u ∈ w₀.db.users, u.totpEnabled = true →
          ∃ c ∈ w₀.db.totpCredentials, c.userId = u.userId ∧ earlier c.userId c.secretEncrypted) →
        ∀ ts : List EnrolmentTurn, ∀ u ∈ (w₀.turns settings ts).db.users,
          HasConfirmed settings earlier (w₀.turns settings ts) u := by
  have hNoRow : Sample.cutOff.db.totpCredentials = [] := by decide +kernel
  refine ⟨by decide +kernel, hNoRow, by decide +kernel, fun hSetsUp => ?_, fun hAll => ?_⟩
  · have hStored : ∃ c ∈ Sample.unconfirmed.db.totpCredentials, c.userId = "u" := by
      decide +kernel
    obtain ⟨c, hc, hId⟩ := hStored
    exact (setsUp_iff Sample.unconfirmed_caller).1 hSetsUp c hc hId
  · have hFlag : ∃ u ∈ Sample.cutOff.db.users, u.totpEnabled = true := by decide +kernel
    obtain ⟨u, hu, hEnabled⟩ := hFlag
    obtain ⟨c, hc, -⟩ := hAll Sample.authSettings (fun _ _ => False) Sample.homeWorld
      Sample.homeWorld_start (Sample.enrols ++ [Sample.cutDisable]) u hu hEnabled
    have hNone : c ∈ Sample.cutOff.db.totpCredentials := hc
    rw [hNoRow] at hNone
    cases hNone

end AgentShield.Auth
