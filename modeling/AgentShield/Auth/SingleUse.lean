import AgentShield.Auth.LogSteps
import AgentShield.Auth.Revocation

/-!
# Credentials for a single use

A credential is honoured by what it is for: a reset token by the password that is set, a
verification token by the address that is verified, an invite by the user that is made and a
recovery code by the session that is opened.  The handlers mark or strike off a credential
before they honour it, so that none is honoured more often than it was marked.  But the token
and the list of codes are read by one statement and written by a later one that does not look
again, so what keeps two requests from marking the same credential is only that no other write
of it comes in between (`Executed.upToDate`).  An invite needs no such condition: the address
of a user is taken once.
-/

namespace AgentShield.Auth

open AgentShield.Lib AgentShield.Sdk AgentShield.Server

/-! ## What honours a credential -/

namespace Executed

/-- The token sets a password or verifies an address. -/
def honoursToken (kind : TokenKind) (tokenHash : String) (e : Executed) : Bool :=
  match e.statement, e.reason with
  | .setPasswordHash _ _ _ _, .passwordReset token _ =>
      token.kind = kind ∧ token.tokenHash = tokenHash
  | .setEmailVerified _ _, .consumed token => token.kind = kind ∧ token.tokenHash = tokenHash
  | _, _ => false

/-- The invite becomes a user. -/
def honoursInvite (tokenHash : String) (e : Executed) : Bool :=
  match e.statement, e.reason with
  | .insertUser _ _, .acceptInvite invite => invite.tokenHash = tokenHash
  | _, _ => false

/-- The recovery code opens a session of its user. -/
def honoursCode (prim : AuthPrimitives) (userId codeHash : String) (e : Executed) : Bool :=
  match e.statement, e.reason with
  | .insertSession _, .recovery user _ code =>
      user.userId = userId ∧ TotpService.hashRecoveryCode prim code = codeHash
  | _, _ => false

/-- The token is marked as consumed. -/
def marksToken (kind : TokenKind) (tokenHash : String) (e : Executed) : Bool :=
  match e.statement with
  | .consumeToken k _ hash => k = kind ∧ hash = tokenHash
  | _ => false

/-- The recovery code of a user is struck off. -/
def strikesCode (prim : AuthPrimitives) (userId codeHash : String) (e : Executed) : Bool :=
  match e.statement, e.reason with
  | .setRecoveryCodes _ _ _, .recovery user _ code =>
      user.userId = userId ∧ TotpService.hashRecoveryCode prim code = codeHash
  | _, _ => false

/-- The write finds what its handler has read: the token is not consumed yet, or the list of
codes is still the one that the code was looked up in. -/
def upToDate (e : Executed) : Prop :=
  match e.statement, e.reason with
  | .consumeToken kind _ tokenHash, _ =>
      ∀ row ∈ e.before.findToken kind tokenHash, row.consumedAt = none
  | .setRecoveryCodes _ _ _, .recovery user stored _ =>
      (e.before.findTotpCredential user.userId).map (·.recoveryCodesHash) = some stored
  | _, _ => True

instance (e : Executed) : Decidable e.upToDate := by
  obtain ⟨statement, reason, before, clock, drawn⟩ := e
  unfold upToDate
  induction statement using Statement.casesOn with
  | setRecoveryCodes _ _ _ => induction reason using Reason.casesOn <;> infer_instance
  | _ => infer_instance

end Executed

/-- Every write of a log that uses a credential up finds what its handler has read. -/
abbrev UpToDate : List Executed → Prop := Along fun _ => Executed.upToDate

section

variable {settings : AuthSettings} {s w : AuthWorld}

/-! ## Tokens -/

/-- A token that was once in the tables is still there. -/
theorem Reached.token_kept (h : Reached settings s w) {kind : TokenKind} {tokenHash : String}
    (hRow : ∃ row ∈ s.db.tokens, row.kind = kind ∧ row.tokenHash = tokenHash) :
    ∃ row ∈ w.db.tokens, row.kind = kind ∧ row.tokenHash = tokenHash := by
  refine h.tables (I := fun db => ∃ row ∈ db.tokens, row.kind = kind ∧ row.tokenHash = tokenHash)
    hRow ?_
  intro w statement reason hWritten hChecked hOld
  obtain ⟨row, hMem, hKind, hHash⟩ := hOld
  refine ⟨statement.setToken row, List.mem_append_left _ (List.mem_map_of_mem hMem), ?_, ?_⟩
  · rw [statement.setToken_kind row, hKind]
  · rw [statement.setToken_tokenHash row, hHash]

theorem token_marked_once (h : Reached settings s w) (hStart : s.log = [])
    (hValid : s.db.Valid settings.prim) (hAll : UpToDate w.log) (kind : TokenKind)
    (tokenHash : String) : w.log.countP (Executed.marksToken kind tokenHash) ≤ 1 := by
  have hCount := h.atMostOnce (p := Executed.marksToken kind tokenHash)
    (U := fun w => AllMarked (·.consumedAt ≠ none)
      (fun t => (t.kind, t.tokenHash) = (kind, tokenHash)) w.db.tokens)
    hAll hStart ?_ ?_ ?_ ?_
  · omega
  · intro w w' hDb _ hUsed
    rw [hDb]
    exact hUsed
  · intro w statement reason hWritten hp
    have hRun := hWritten.written
    obtain ⟨route, hReason⟩ := hRun.justified
    cases hReason <;> simp only [Executed.marksToken, AuthWorld.entry, Bool.false_eq_true] at hp
    rename_i row now hPresents
    obtain ⟨rfl, rfl⟩ : row.kind = kind ∧ row.tokenHash = tokenHash := by simpa using hp
    obtain ⟨w₀, -, hLater, hSeen⟩ := hRun.reached.of_saw hStart hPresents.seen
    obtain ⟨old, hOld, hKind, hHash⟩ := hLater.token_kept ⟨row, hSeen, rfl, rfl⟩
    have hSet : ∀ t : TokenRow, (t.kind, t.tokenHash) = (row.kind, row.tokenHash) →
        ((Statement.consumeToken row.kind now row.tokenHash).setToken t).consumedAt ≠ none := by
      intro t ht
      simp only [Statement.setToken, if_pos (Prod.mk.inj ht)]
      exact Option.some_ne_none now
    refine ⟨⟨_, List.mem_append_left _ (List.mem_map_of_mem hOld), ?_⟩, fun t ht hKey => ?_⟩
    · simp only [Statement.setToken_kind, Statement.setToken_tokenHash, hKind, hHash]
    · have hMapped : t ∈ w.db.tokens.map
          (Statement.consumeToken row.kind now row.tokenHash).setToken := by
        simpa [AuthDb.apply, Statement.addToken, AuthWorld.wrote] using ht
      obtain ⟨t', -, rfl⟩ := List.mem_map.1 hMapped
      refine hSet t' ?_
      rw [Statement.setToken_kind, Statement.setToken_tokenHash] at hKey
      exact hKey
  · intro w statement reason hWritten _ hUsed
    obtain ⟨old, hMem, hId⟩ := hUsed.exist
    refine hUsed.add (fun x => by rw [statement.setToken_kind x, statement.setToken_tokenHash x])
      (fun _ => statement.setToken_consumed) fun new hNew hSame => ?_
    exact AuthDb.constraints_addToken hWritten.checked old hMem new hNew (hId.trans hSame.symm)
  · intro w statement reason hWritten hp hUsed
    cases statement <;> simp only [Executed.marksToken, AuthWorld.entry, Bool.false_eq_true] at hp
    rename_i kind' now hash'
    obtain ⟨rfl, rfl⟩ : kind' = kind ∧ hash' = tokenHash := by simpa using hp
    obtain ⟨row, hMem, hKey⟩ := hUsed.exist
    have hFree : ∀ row ∈ w.db.findToken kind' hash', row.consumedAt = none := hWritten.now
    have hFind : w.db.findToken kind' hash' = some row := by
      have hValid' := hWritten.written.reached.valid hValid
      have hKeyed := hValid'.tokens.find_eq hMem
      simp only [hKey, Prod.mk.injEq] at hKeyed
      exact hKeyed
    exact hUsed.mark row hMem hKey (hFree row hFind)

/-! ## Invites -/

/-- An invite that was once in the tables is still there, for the same address. -/
theorem Reached.invite_kept (h : Reached settings s w) {tokenHash email : String}
    (hRow : ∃ i ∈ s.db.invites, i.tokenHash = tokenHash ∧ i.email = email) :
    ∃ i ∈ w.db.invites, i.tokenHash = tokenHash ∧ i.email = email := by
  refine h.tables (I := fun db => ∃ i ∈ db.invites, i.tokenHash = tokenHash ∧ i.email = email)
    hRow ?_
  intro w statement reason hWritten hChecked hOld
  obtain ⟨i, hMem, hHash, hEmail⟩ := hOld
  refine ⟨statement.setInvite i, List.mem_append_left _ (List.mem_map_of_mem hMem), ?_, ?_⟩
  · rw [statement.setInvite_tokenHash i, hHash]
  · rw [statement.setInvite_email i, hEmail]

/-- The invite has become a user, who has its address. -/
def Admitted (settings : AuthSettings) (tokenHash : String) (w : AuthWorld) : Prop :=
  ∃ i ∈ w.db.invites, i.tokenHash = tokenHash ∧
    ∃ u ∈ w.db.users, settings.prim.lower u.email = settings.prim.lower i.email

theorem Admitted.apply {tokenHash : String} (h : Admitted settings tokenHash w)
    (statement : Statement) (reason : Reason) :
    Admitted settings tokenHash (w.wrote statement reason (w.db.apply statement)) := by
  obtain ⟨i, hInvite, hHash, u, hUser, hEmail⟩ := h
  refine ⟨statement.setInvite i, List.mem_append_left _ (List.mem_map_of_mem hInvite), ?_,
    statement.setUser u, List.mem_append_left _ (List.mem_map_of_mem hUser), ?_⟩
  · rw [statement.setInvite_tokenHash i, hHash]
  · rw [statement.setUser_email u, statement.setInvite_email i, hEmail]

theorem invite_once (h : Reached settings s w) (hStart : s.log = [])
    (hValid : s.db.Valid settings.prim) (tokenHash : String) :
    w.log.countP (Executed.honoursInvite tokenHash) ≤ 1 := by
  have hCount := h.atMostOnce (C := fun _ _ => True)
    (p := Executed.honoursInvite tokenHash) (U := Admitted settings tokenHash)
    (fun _ _ => trivial) hStart ?_ ?_ ?_ ?_
  · omega
  · intro w w' hDb _ hUsed
    unfold Admitted
    rw [hDb]
    exact hUsed
  · intro w statement reason hWritten hp
    have hRun := hWritten.written
    obtain ⟨route, hReason⟩ := hRun.justified
    cases hReason <;> simp only [Executed.honoursInvite, AuthWorld.entry, Bool.false_eq_true] at hp
    rename_i u m invite hInvited hEmail hOrg hRole
    obtain rfl : invite.tokenHash = tokenHash := by simpa using hp
    obtain ⟨w₀, -, hLater, hSeen⟩ := hRun.reached.of_saw hStart hInvited.seen
    obtain ⟨i, hMem, hHash, hSame⟩ := hLater.invite_kept ⟨invite, hSeen, rfl, rfl⟩
    refine ⟨i, ?_, hHash, u, List.mem_append_right _ (List.mem_singleton_self _), ?_⟩
    · show i ∈ w.db.invites.map (Statement.insertUser u m).setInvite ++ []
      rw [List.append_nil]
      exact List.mem_map.2 ⟨i, hMem, rfl⟩
    · rw [hEmail, hSame]
  · exact fun w statement reason _ _ hUsed => hUsed.apply statement reason
  · intro w statement reason hWritten hp hUsed
    have hRun := hWritten.written
    have hValid' := hRun.reached.valid hValid
    have hChecked := hWritten.checked
    obtain ⟨route, hReason⟩ := hRun.justified
    cases hReason <;> simp only [Executed.honoursInvite, AuthWorld.entry, Bool.false_eq_true] at hp
    rename_i u m invite hInvited hEmail hOrg hRole
    obtain rfl : invite.tokenHash = tokenHash := by simpa using hp
    obtain ⟨w₀, -, hLater, hSeen⟩ := hRun.reached.of_saw hStart hInvited.seen
    obtain ⟨i, hMem, hHash, hSame⟩ := hLater.invite_kept ⟨invite, hSeen, rfl, rfl⟩
    obtain ⟨j, hMem', hHash', u', hUser, hTaken⟩ := hUsed
    obtain rfl := hValid'.inviteTokens.eq hMem' hMem (hHash'.trans hHash.symm)
    have hNew := (AuthDb.constraints_addUser hChecked u' hUser u (List.mem_singleton_self _)).2
    exact hNew (hTaken.trans (by rw [hEmail, hSame]))

/-! ## Recovery codes -/

/-- The codes of a credential are different, and no code of the tables is still to be
drawn. -/
structure FreshCodes (prim : AuthPrimitives) (db : AuthDb) : Prop where
  apart : ∀ n m, prim.sha256Hex (prim.token n) = prim.sha256Hex (prim.token m) → n = m
  distinct : ∀ c ∈ db.totpCredentials, c.recoveryCodesHash.Nodup
  unseen : ∀ c ∈ db.totpCredentials, ∀ codeHash ∈ c.recoveryCodesHash, ∀ n,
    codeHash ≠ prim.sha256Hex (prim.token n)

def AuthDb.HasCode (db : AuthDb) (codeHash : String) : Prop :=
  ∃ c ∈ db.totpCredentials, codeHash ∈ c.recoveryCodesHash

theorem FreshCodes.once {prim : AuthPrimitives} {db : AuthDb} (h : FreshCodes prim db) :
    DrawnOnce db.HasCode (DrawsToken prim) where
  apart hDraw hDraw' := h.apart _ _ (hDraw.symm.trans hDraw')
  unseen := by
    rintro n codeHash ⟨c, hc, hCode⟩
    exact h.unseen c hc codeHash hCode n

/-- The codes that were in the tables at the start or have been drawn since. -/
def CodeIssued (prim : AuthPrimitives) (s w : AuthWorld) : String → Prop :=
  Issued s.db.HasCode (DrawsToken prim) w.drawn

theorem mem_recoveryHashes {prim : AuthPrimitives} {n : Nat} {codeHash : String} :
    codeHash ∈ TotpService.recoveryHashes prim n ↔
      ∃ i < 10, codeHash = prim.sha256Hex (prim.token (n + i)) := by
  simp only [TotpService.recoveryHashes, TotpService.recoveryCodes, TotpService.hashRecoveryCode,
    List.map_map, List.mem_map, List.mem_range, Function.comp_apply, eq_comm]

theorem recoveryHashes_nodup {prim : AuthPrimitives} {db : AuthDb} (h : FreshCodes prim db)
    (n : Nat) : (TotpService.recoveryHashes prim n).Nodup := by
  unfold TotpService.recoveryHashes TotpService.recoveryCodes
  rw [List.map_map]
  refine List.Nodup.map_on ?_ List.nodup_range
  intro i _ j _ hSame
  have hEq := h.apart _ _ hSame
  omega

/-- An issued code is not among fresh ones. -/
theorem CodeIssued.not_fresh {codeHash : String} (h : CodeIssued settings.prim s w codeHash)
    (hFresh : FreshCodes settings.prim s.db) :
    codeHash ∉ TotpService.recoveryHashes settings.prim w.drawn := by
  intro hMem
  obtain ⟨i, -, hDraw⟩ := mem_recoveryHashes.1 hMem
  exact h.not_drawn hFresh.once (Nat.le_add_right w.drawn i) hDraw

/-- What a write may do to the codes of a credential: nothing, draw fresh ones, or strike one
off the list that the row has. -/
inductive CodesStep (prim : AuthPrimitives) (n : Nat) (old new : List String) : Prop
  | same (h : new = old)
  | fresh (h : new = TotpService.recoveryHashes prim n)
  | struck (codeHash : String) (hMember : codeHash ∈ old) (h : new = old.erase codeHash)

/-- Every credential after a write is new, with fresh codes, or comes from one before with the
same codes or with fewer. -/
theorem codes_after (hValid : s.db.Valid settings.prim) {statement : Statement} {reason : Reason}
    (hWritten : WrittenUnder settings (fun _ => Executed.upToDate) s w statement reason) :
    ∀ c ∈ (w.db.apply statement).totpCredentials,
      c.recoveryCodesHash = TotpService.recoveryHashes settings.prim w.drawn ∨
        ∃ old ∈ w.db.totpCredentials, old.userId = c.userId ∧
          CodesStep settings.prim w.drawn old.recoveryCodesHash c.recoveryCodesHash := by
  intro c hc
  have hRun := hWritten.written
  have hFresh := hRun.fresh
  have hNow := hWritten.now
  obtain ⟨route, hReason⟩ := hRun.justified
  rcases List.mem_append.1 hc with hc | hc
  · obtain ⟨old, hOld, hSet⟩ := List.mem_filterMap.1 hc
    refine .inr ⟨old, hOld, (statement.setTotpCredential_userId hSet).symm, ?_⟩
    cases hReason with
    | @codesRenewed caller credential code now hConfirms =>
        obtain rfl := Option.some.inj hSet
        by_cases hUser : old.userId = caller.principal.userId
        · exact .fresh (by rw [if_pos hUser])
        · exact .same (by rw [if_neg hUser])
    | @codeConsumed user stored code now hRecovers =>
        obtain rfl := Option.some.inj hSet
        by_cases hUser : old.userId = user.userId
        · have hListed : (w.db.findTotpCredential user.userId).map (·.recoveryCodesHash) =
              some stored := hNow
          have hFind : w.db.findTotpCredential user.userId = some old := by
            rw [← hUser]
            exact (hRun.reached.valid hValid).totpCredentials.find_eq hOld
          rw [hFind] at hListed
          obtain rfl : old.recoveryCodesHash = stored := Option.some.inj hListed
          exact .struck _ hRecovers.member (by rw [if_pos hUser])
        · exact .same (by rw [if_neg hUser])
    | @totpDeleted caller hSeen =>
        simp only [Statement.setTotpCredential, Option.ite_none_left_eq_some,
          Option.some.injEq] at hSet
        exact .same (by rw [hSet.2])
    | _ =>
        obtain rfl := Option.some.inj hSet
        exact .same rfl
  · refine .inl ?_
    cases statement <;>
      simp only [Statement.addTotpCredential, List.mem_singleton, List.not_mem_nil] at hc
    subst hc
    exact hFresh

/-- The codes of every credential are different, and have been issued.  By induction over the
run, with the freshness of the codes for the writes that bring new ones. -/
theorem Reached.codes_issued (h : Reached settings s w) (hValid : s.db.Valid settings.prim)
    (hFresh : FreshCodes settings.prim s.db) (hAll : UpToDate w.log) :
    ∀ c ∈ w.db.totpCredentials, c.recoveryCodesHash.Nodup ∧
      ∀ codeHash ∈ c.recoveryCodesHash, CodeIssued settings.prim s w codeHash := by
  refine h.under (I := fun w => ∀ c ∈ w.db.totpCredentials, c.recoveryCodesHash.Nodup ∧
      ∀ codeHash ∈ c.recoveryCodesHash, CodeIssued settings.prim s w codeHash) hAll ?_ ?_ ?_
  · exact fun c hc => ⟨hFresh.distinct c hc, fun codeHash hCode => .inl ⟨c, hc, hCode⟩⟩
  · intro w w' hDb _ _ hDrawn hOld c hc
    rw [hDb] at hc
    exact ⟨(hOld c hc).1, fun codeHash hCode => ((hOld c hc).2 codeHash hCode).mono hDrawn⟩
  · intro w statement reason hWritten hOld c hc
    have hLater : w.drawn ≤ (w.wrote statement reason (w.db.apply statement)).drawn :=
      Nat.le_add_right _ _
    have hDrawn : (TotpService.recoveryHashes settings.prim w.drawn).Nodup ∧
        ∀ codeHash ∈ TotpService.recoveryHashes settings.prim w.drawn,
          CodeIssued settings.prim s (w.wrote statement reason (w.db.apply statement))
            codeHash := by
      refine ⟨recoveryHashes_nodup hFresh _, fun codeHash hMem => ?_⟩
      obtain ⟨i, hi, hHash⟩ := mem_recoveryHashes.1 hMem
      exact .inr ⟨w.drawn + i, by show w.drawn + i < w.drawn + 16; omega, hHash⟩
    rcases codes_after hValid hWritten c hc with hNew | ⟨old, hMem, -, hStep⟩
    · rw [hNew]
      exact hDrawn
    · have hKept := hOld old hMem
      cases hStep with
      | same hSame =>
          rw [hSame]
          exact ⟨hKept.1, fun codeHash hCode => (hKept.2 codeHash hCode).mono hLater⟩
      | fresh hNew =>
          rw [hNew]
          exact hDrawn
      | struck struckHash hMember hStruck =>
          rw [hStruck]
          exact ⟨hKept.1.erase _, fun codeHash hCode =>
            (hKept.2 codeHash (List.mem_of_mem_erase hCode)).mono hLater⟩

/-- The code was issued once, and the user has it no longer. -/
structure Struck (prim : AuthPrimitives) (s : AuthWorld) (userId codeHash : String)
    (w : AuthWorld) : Prop where
  issued : CodeIssued prim s w codeHash
  gone : ∀ c ∈ w.db.totpCredentials, c.userId = userId → codeHash ∉ c.recoveryCodesHash

theorem Struck.wrote (hValid : s.db.Valid settings.prim) (hFresh : FreshCodes settings.prim s.db)
    {userId codeHash : String} (h : Struck settings.prim s userId codeHash w)
    {statement : Statement} {reason : Reason}
    (hWritten : WrittenUnder settings (fun _ => Executed.upToDate) s w statement reason) :
    Struck settings.prim s userId codeHash
      (w.wrote statement reason (w.db.apply statement)) where
  issued := h.issued.mono (Nat.le_add_right _ _)
  gone c hc hUser := by
    have hNotNew := h.issued.not_fresh hFresh
    rcases codes_after hValid hWritten c hc with hNew | ⟨old, hMem, hSame, hStep⟩
    · rw [hNew]
      exact hNotNew
    · have hGone := h.gone old hMem (hSame.trans hUser)
      cases hStep with
      | same hKept =>
          rw [hKept]
          exact hGone
      | fresh hNew =>
          rw [hNew]
          exact hNotNew
      | struck struckHash _ hStruck =>
          rw [hStruck]
          exact fun hCode => hGone (List.mem_of_mem_erase hCode)

/-- A write that strikes a code off, as it stands in the run. -/
theorem strikesCode_cases {userId codeHash : String} {statement : Statement} {reason : Reason}
    (hWritten : WrittenUnder settings (fun _ => Executed.upToDate) s w statement reason)
    (hp : (w.entry statement reason).strikesCode settings.prim userId codeHash = true) :
    ∃ credential ∈ w.db.totpCredentials, ∃ now, credential.userId = userId ∧
      codeHash ∈ credential.recoveryCodesHash ∧
      statement = .setRecoveryCodes (credential.recoveryCodesHash.erase codeHash) now userId := by
  have hNow := hWritten.now
  obtain ⟨route, hReason⟩ := hWritten.written.justified
  cases hReason <;> simp only [Executed.strikesCode, AuthWorld.entry, Bool.false_eq_true] at hp
  rename_i user stored code now hRecovers
  obtain ⟨rfl, rfl⟩ : user.userId = userId ∧
      TotpService.hashRecoveryCode settings.prim code = codeHash := by simpa using hp
  have hListed : (w.db.findTotpCredential user.userId).map (·.recoveryCodesHash) =
      some stored := hNow
  obtain ⟨credential, hFind, rfl⟩ := Option.map_eq_some_iff.1 hListed
  have hOwn : credential.userId = user.userId := by simpa using List.find?_some hFind
  exact ⟨credential, mem_of_find hFind, now, hOwn, hRecovers.member, rfl⟩

theorem code_struck_once (h : Reached settings s w) (hStart : s.log = [])
    (hValid : s.db.Valid settings.prim) (hFresh : FreshCodes settings.prim s.db)
    (hAll : UpToDate w.log) (userId codeHash : String) :
    w.log.countP (Executed.strikesCode settings.prim userId codeHash) = 0 ∨
      (w.log.countP (Executed.strikesCode settings.prim userId codeHash) = 1 ∧
        Struck settings.prim s userId codeHash w) := by
  refine h.atMostOnce hAll hStart ?_ ?_ ?_ ?_
  · intro w w' hDb hDrawn hUsed
    refine ⟨hUsed.issued.mono hDrawn, ?_⟩
    rw [hDb]
    exact hUsed.gone
  · intro w statement reason hWritten hp
    have hIssued := hWritten.written.reached.codes_issued hValid hFresh hWritten.earlier
    have hIds := (hWritten.written.reached.valid hValid).totpCredentials
    obtain ⟨credential, hMem, now, hOwn, hCode, rfl⟩ := strikesCode_cases hWritten hp
    refine ⟨((hIssued credential hMem).2 codeHash hCode).mono (Nat.le_add_right _ _), ?_⟩
    intro c hc hUser
    have hMapped : c ∈ w.db.totpCredentials.filterMap (Statement.setRecoveryCodes
        (credential.recoveryCodesHash.erase codeHash) now userId).setTotpCredential := by
      simpa [AuthDb.apply, Statement.addTotpCredential, AuthWorld.wrote] using hc
    obtain ⟨old, hOld, hSet⟩ := List.mem_filterMap.1 hMapped
    have hSame : old = credential := hIds.eq hOld hMem
      ((Statement.setTotpCredential_userId _ hSet).symm.trans (hUser.trans hOwn.symm))
    obtain rfl := Option.some.inj hSet
    rw [hSame, if_pos hOwn]
    exact (hIssued credential hMem).1.not_mem_erase
  · exact fun w statement reason hWritten _ hUsed => hUsed.wrote hValid hFresh hWritten
  · intro w statement reason hWritten hp hUsed
    obtain ⟨credential, hMem, now, hOwn, hCode, rfl⟩ := strikesCode_cases hWritten hp
    exact hUsed.gone credential hMem hOwn hCode

end

/-! ## No credential is honoured without a mark -/

section

variable {settings : AuthSettings}

/-- A token that is consumed is marked first, and may be honoured once for it. -/
theorem consume_owes (kind : TokenKind) (tokenHash : String) (k : TokenKind) (raw : String) :
    LogOwes (Executed.marksToken kind tokenHash) (Executed.honoursToken kind tokenHash)
      (fun _ _ => True) (fun found o => ∀ row ∈ found,
        o = (decide (row.kind = kind ∧ row.tokenHash = tokenHash)).toNat)
      (consume settings k raw) 0 := by
  unfold consume
  refine Async.Settles.read_bind fun w => Async.Settles.read_bind fun w' => ?_
  split
  · rintro row hNone
    cases hNone
  · rename_i row hFound
    have hRow : row.kind = k ∧ row.tokenHash = settings.prim.sha256Hex raw := by
      obtain ⟨hFind, -⟩ := Option.filter_eq_some_iff.1 hFound
      simpa [AuthDb.findToken] using List.find?_some hFind
    refine Async.Settles.bind (Q := fun _ o =>
      o = (decide (row.kind = kind ∧ row.tokenHash = tokenHash)).toNat) ?_ ?_
    · refine executeNow_owes (fun _ _ _ _ _ => trivial) fun _ _ _ => ⟨_, ?_, rfl⟩
      simp only [Executed.marksToken, Executed.honoursToken, AuthWorld.entry, hRow,
        Bool.toNat_false, Nat.add_zero, Nat.zero_add]
    · rintro n o rfl r hr
      obtain rfl := Option.some.inj hr
      rfl

theorem passwordResetComplete_owes (kind : TokenKind) (tokenHash : String)
    (body : PasswordResetComplete) :
    LogOwes (Executed.marksToken kind tokenHash) (Executed.honoursToken kind tokenHash)
      (fun _ _ => True) (fun _ _ => True) (passwordResetComplete settings body) 0 := by
  unfold passwordResetComplete checkNewPassword updatePasswordHash revokeAllForUser insertAudit
  refine Async.Settles.raiseIf_bind trivial fun _ => ?_
  refine (consume_owes kind tokenHash _ _).bind fun found o hOwed => ?_
  refine Async.Settles.require_bind trivial fun token hToken => ?_
  obtain rfl := hOwed token hToken
  refine Async.Settles.bind (Q := fun _ o => o = 0) ?_ ?_
  · refine Async.Settles.bind (Q := fun _ o => o = 0) ?_ fun _ _ hNone => hNone
    refine executeNow_owes (fun _ _ _ _ _ => trivial) fun _ _ _ => ⟨0, ?_, rfl⟩
    exact Nat.zero_add _
  · rintro passwordHash o rfl
    refine (executeNow_idle (fun _ _ _ => ⟨rfl, rfl⟩) fun _ => trivial).bind ?_
    rintro _ o rfl
    exact (executeNow_idle (fun _ _ _ => ⟨rfl, rfl⟩) fun _ => trivial).bind fun _ _ _ => trivial

theorem emailVerifyComplete_owes (kind : TokenKind) (tokenHash token : String) :
    LogOwes (Executed.marksToken kind tokenHash) (Executed.honoursToken kind tokenHash)
      (fun _ _ => True) (fun _ _ => True) (emailVerifyComplete settings token) 0 := by
  unfold emailVerifyComplete setEmailVerified insertAudit
  refine (consume_owes kind tokenHash _ _).bind fun found o hOwed => ?_
  refine Async.Settles.require_bind trivial fun row hRow => ?_
  obtain rfl := hOwed row hRow
  refine Async.Settles.bind (Q := fun _ o => o = 0) ?_ ?_
  · refine executeNow_owes (fun _ _ _ _ _ => trivial) fun _ _ _ => ⟨0, ?_, rfl⟩
    exact Nat.zero_add _
  · rintro _ o rfl
    exact (executeNow_idle (fun _ _ _ => ⟨rfl, rfl⟩) fun _ => trivial).bind fun _ _ _ => trivial

/-- A recovery strikes its code off, and then it opens its session. -/
theorem totpRecovery_owes (userId codeHash : String) (http : Http) (body : TotpRecoveryRequest) :
    LogOwes (Executed.strikesCode settings.prim userId codeHash)
      (Executed.honoursCode settings.prim userId codeHash)
      (fun _ _ => True) (fun _ _ => True) (totpRecovery settings http body) 0 := by
  unfold totpRecovery issueSession createSession insertAudit
  refine Async.Settles.read_bind fun _ => Async.Settles.require_bind trivial fun user _ => ?_
  refine Async.Settles.read_bind fun _ => Async.Settles.require_bind trivial fun tc _ => ?_
  refine Async.Settles.raiseIf_bind trivial fun _ => ?_
  refine Async.Settles.bind (Q := fun _ o => o = (decide (user.userId = userId ∧
    TotpService.hashRecoveryCode settings.prim body.recoveryCode = codeHash)).toNat) ?_ ?_
  · refine executeNow_owes (fun _ _ _ _ _ => trivial) fun _ _ _ => ⟨_, ?_, rfl⟩
    exact (Nat.zero_add _).symm
  · rintro _ o rfl
    refine Async.Settles.read_bind fun _ => ?_
    refine Async.Settles.require_bind trivial fun membership _ => ?_
    refine Async.Settles.bind (Q := fun _ o => o = 0) ?_ ?_
    · refine Async.Settles.bind (Q := fun _ o => o = 0) ?_ fun _ _ hNone => hNone
      refine executeNow_owes (fun _ _ _ _ _ => trivial) fun _ _ _ => ⟨0, ?_, rfl⟩
      exact Nat.zero_add _
    · rintro _ o rfl
      exact (executeNow_idle (fun _ _ _ => ⟨rfl, rfl⟩) fun _ => trivial).bind fun _ _ _ => trivial

/-- A token is honoured no more often than it was marked, in any run. -/
theorem token_honoured_le (settings : AuthSettings) (kind : TokenKind) (tokenHash : String)
    (server : World) (db : AuthDb) (events : List (Event (authService settings))) :
    (authRun settings server db events).state.log.countP
        (Executed.honoursToken kind tokenHash) ≤
      (authRun settings server db events).state.log.countP
        (Executed.marksToken kind tokenHash) := by
  refine authRun_told_le (K := fun route => route = .passwordResetComplete ∨
    route = .emailVerifyComplete) ?_ ?_ server db events
  · intro r hRoute
    refine Async.Settles.raiseIf_bind trivial ?_
    cases r with
    | passwordResetComplete body => exact fun _ => passwordResetComplete_owes kind tokenHash body
    | emailVerifyComplete token => exact fun _ => emailVerifyComplete_owes kind tokenHash token
    | _ => simp only [Request.route, reduceCtorEq, or_self] at hRoute
  · intro route w st reason hReason hTold
    cases hReason with
    | reset hRoute => exact .inl hRoute
    | verified hRoute => exact .inr hRoute
    | _ => cases hTold

/-- A code is honoured no more often than it was struck off, in any run. -/
theorem code_honoured_le (settings : AuthSettings) (userId codeHash : String) (server : World)
    (db : AuthDb) (events : List (Event (authService settings))) :
    (authRun settings server db events).state.log.countP
        (Executed.honoursCode settings.prim userId codeHash) ≤
      (authRun settings server db events).state.log.countP
        (Executed.strikesCode settings.prim userId codeHash) := by
  refine authRun_told_le (K := fun route => route = .totpRecovery) ?_ ?_ server db events
  · intro r hRoute
    refine Async.Settles.raiseIf_bind trivial ?_
    cases r with
    | totpRecovery http body => exact fun _ => totpRecovery_owes userId codeHash _ body
    | _ => simp only [Request.route, reduceCtorEq] at hRoute
  · intro route w st reason hReason hTold
    cases hReason with
    | recovered hRoute => exact hRoute
    | _ => cases hTold

end

/-! ## Every credential -/

/-- No credential has been honoured twice, and a code that was honoured is gone from the
stored list.  A credential is honoured by its effect: a password set, an address verified, a
user made, a session opened. -/
structure SingleUse (prim : AuthPrimitives) (w : AuthWorld) : Prop where
  tokens : ∀ kind tokenHash, w.log.countP (Executed.honoursToken kind tokenHash) ≤ 1
  invites : ∀ tokenHash, w.log.countP (Executed.honoursInvite tokenHash) ≤ 1
  codes : ∀ userId codeHash, w.log.countP (Executed.honoursCode prim userId codeHash) ≤ 1
  struck : ∀ userId codeHash, (∃ e ∈ w.log, e.honoursCode prim userId codeHash = true) →
    ∀ c ∈ w.db.totpCredentials, c.userId = userId → codeHash ∉ c.recoveryCodesHash

/-- **Single-use credentials.**  In every run in which each write that uses a credential up
finds what its handler has read, no credential is honoured twice.  What a credential brings
about never outnumbers its marks, in any run, and under the condition the second mark is
impossible. -/
theorem single_use (settings : AuthSettings) (server : World) (db : AuthDb)
    (hValid : db.Valid settings.prim) (hFresh : FreshCodes settings.prim db)
    (events : List (Event (authService settings)))
    (hUpToDate : ∀ e ∈ (authRun settings server db events).state.log, e.upToDate) :
    SingleUse settings.prim (authRun settings server db events).state := by
  have hRun := authRun_reached settings server db events
  have hAll : UpToDate (authRun settings server db events).state.log := .of_forall hUpToDate
  have hCodes := code_struck_once hRun rfl hValid hFresh hAll
  refine ⟨fun kind tokenHash => ?_, invite_once hRun rfl hValid, ?_, ?_⟩
  · exact (token_honoured_le settings kind tokenHash server db events).trans
      (token_marked_once hRun rfl hValid hAll kind tokenHash)
  · intro userId codeHash
    have hCode := hCodes userId codeHash
    have hHonoured := code_honoured_le settings userId codeHash server db events
    omega
  · intro userId codeHash hHonoured
    have hPos := List.countP_pos_iff.2 hHonoured
    have hHonoured := code_honoured_le settings userId codeHash server db events
    rcases hCodes userId codeHash with hNone | ⟨-, hStruck⟩
    · omega
    · exact hStruck.gone

namespace Sample

/-- A user whose password is still hashed under the older pepper, with a second factor
switched on. -/
def user : User where
  userId := "u"
  email := "mail"
  passwordHash := ":oldpassword"
  passwordPepperKid := "p1"
  totpEnabled := true
  createdAt := 0
  updatedAt := 0

def resetToken : TokenRow where
  kind := .passwordReset
  tokenHash := "reset"
  userId := "u"
  expiresAt := 100000
  createdAt := 0

def credential : TotpCredential where
  userId := "u"
  secretEncrypted := "secret"
  activeKid := "k1"
  recoveryCodesHash := ["one", "two"]
  enabledAt := 0

def authDb : AuthDb where
  organizations := [demoOrgId]
  users := [user]
  memberships := [{ userId := "u", orgId := demoOrgId, role := .orgOwner, joinedAt := 0 }]
  tokens := [resetToken]
  totpCredentials := [credential]

theorem authDb_valid : authDb.Valid authPrim := by
  constructor <;> simp [KeyUnique, authDb, AuthDb.hasUser, user, resetToken]

/-- A text that is no run of one letter is drawn by nobody. -/
theorem authPrim_token_ne {text : String} (h : text.toList.all (· = 't') = false) (n : Nat) :
    text ≠ authPrim.token n := by
  rintro rfl
  have hAll : (authPrim.token n).toList.all (· = 't') = true := by
    refine List.all_eq_true.2 fun c hc => ?_
    simp only [authPrim, String.toList_ofList] at hc
    exact decide_eq_true (List.eq_of_mem_replicate hc)
  rw [hAll] at h
  cases h

theorem authDb_fresh : FreshCodes authPrim authDb where
  apart _ _ h := authPrim_token h
  distinct := by decide
  unseen c hc codeHash hCode n := by
    obtain rfl : c = credential := by simpa [authDb] using hc
    have hText : codeHash = "one" ∨ codeHash = "two" := by simpa [credential] using hCode
    rcases hText with rfl | rfl
    · exact authPrim_token_ne (by decide) n
    · exact authPrim_token_ne (by decide) n

/-- Some steps of one handler. -/
def steps (i n : Nat) : List (Event (authService authSettings)) :=
  List.replicate n (.resume i .none)

/-- Two resets with one token, both of which look it up before either marks it. -/
def twoResets : List (Event (authService authSettings)) :=
  [.request (Request.passwordResetComplete { token := "reset", newPassword := "password-1" }),
    .request (Request.passwordResetComplete { token := "reset", newPassword := "password-2" })] ++
    steps 0 2 ++ steps 1 2 ++ steps 0 8 ++ steps 1 8

/-- Two recoveries with a code each, which both read the list before either writes it. -/
def twoRecoveries : List (Event (authService authSettings)) :=
  [.request (Request.totpRecovery {} { email := "mail", recoveryCode := "one" }),
    .request (Request.totpRecovery {} { email := "mail", recoveryCode := "two" })] ++
    steps 0 2 ++ steps 1 2 ++ steps 0 7 ++ steps 1 7

/-- One reset alone. -/
def oneReset : List (Event (authService authSettings)) :=
  .request (Request.passwordResetComplete { token := "reset", newPassword := "password-1" }) ::
    steps 0 10

end Sample

theorem single_use_sample :
    SingleUse Sample.authPrim
      (authRun Sample.authSettings Sample.authServer Sample.authDb Sample.oneReset).state :=
  single_use Sample.authSettings Sample.authServer Sample.authDb Sample.authDb_valid
    Sample.authDb_fresh Sample.oneReset (by decide +kernel)

/-- **A token is honoured twice, and a code comes back.**  Two resets with one token both
succeed.  Two recoveries succeed with a code each, and the list keeps the first code, for the
second has written the list that it had read before. -/
theorem reset_token_honoured_twice :
    (authRun Sample.authSettings Sample.authServer Sample.authDb
        Sample.twoResets).threads.map (·.2.succeeded) = [true, true] ∧
      (authRun Sample.authSettings Sample.authServer Sample.authDb
        Sample.twoResets).state.log.countP (Executed.honoursToken .passwordReset "reset") = 2 ∧
      (authRun Sample.authSettings Sample.authServer Sample.authDb
        Sample.twoRecoveries).threads.map (·.2.succeeded) = [true, true] ∧
      (authRun Sample.authSettings Sample.authServer Sample.authDb
        Sample.twoRecoveries).state.db.totpCredentials.map (·.recoveryCodesHash) = [["one"]] ∧
      ¬ ∀ (settings : AuthSettings) (server : World) (db : AuthDb)
        (events : List (Event (authService settings))), db.Valid settings.prim →
        FreshCodes settings.prim db →
        SingleUse settings.prim (authRun settings server db events).state := by
  have hTwice : (authRun Sample.authSettings Sample.authServer Sample.authDb
      Sample.twoResets).state.log.countP (Executed.honoursToken .passwordReset "reset") = 2 := by
    decide +kernel
  refine ⟨by decide +kernel, hTwice, by decide +kernel, by decide +kernel, fun hAll => ?_⟩
  have hOnce := (hAll Sample.authSettings Sample.authServer Sample.authDb Sample.twoResets
    Sample.authDb_valid Sample.authDb_fresh).tokens .passwordReset "reset"
  rw [hTwice] at hOnce
  exact absurd hOnce (by decide)

end AgentShield.Auth
