import AgentShield.Server.EnvelopeRoundTrip
import AgentShield.Server.RouterGuardians

/-!
# When the auditor calls a chain broken

The auditor counts the records of a batch that verify with the key of the call, and asks a
Merkle verifier about the batch where it has one.  The handlers of Channel 2 call it with
one record and with the key that their resolver finds, or with no key.  A batch that is
audited without a key has no valid record.

The Merkle root and the epoch of a verification go to the compliance report only, and are
left out with the provenance graph.
-/

namespace AgentShield.Server

open AgentShield.Lib AgentShield.Lib.Async AgentShield.Sdk AgentShield.Governance

/-! ## The auditor with its Merkle verifier -/

structure MerkleVerification where
  verified : Bool
  detail : Option String := none

structure MerkleAuditor where
  merkleVerifier : Option (List ShieldActionRecord → MerkleVerification) := none

structure MerkleAuditResult extends AuditResult where
  selfReportMismatch : Bool := false

/-- The record counts as valid with the key.  A record without a signature does not, and
nothing does without a key. -/
def recordValid (prim : Primitives) (agentPubkey : Option String)
    (record : ShieldActionRecord) : Bool :=
  textGiven record.signature && textGiven agentPubkey &&
    verifyRecord prim record (agentPubkey.getD "")

def chainBrokenReason (failed total : Nat) : VerdictReason where
  agent := some .auditor
  label := "auditor.chain_broken"
  detail := some (toString failed ++ "/" ++ toString total ++
    " records failed Ed25519/chain verify")
  score := some (.finite 1)

def merkleFailedReason (merkle : MerkleVerification) : VerdictReason where
  agent := some .auditor
  label := "auditor.merkle_failed"
  detail := some (if textGiven merkle.detail then merkle.detail.getD ""
    else "record batch failed Merkle/EER verification")
  score := some (.finite 1)

def selfReportMismatchReason : VerdictReason where
  agent := some .auditor
  label := "auditor.self_report_mismatch"
  detail := some "self-reported confidence contradicts observed outcome"
  score := some (.finite (1 / 2))

namespace MerkleAuditor

/-- The verification of a batch that failed. -/
def merkleFailure (auditor : MerkleAuditor) (records : List ShieldActionRecord) :
    Option MerkleVerification :=
  match auditor.merkleVerifier with
  | none => none
  | some verify =>
      let merkle := verify records
      if merkle.verified then none else some merkle

def audit (auditor : MerkleAuditor) (prim : Primitives) (records : List ShieldActionRecord)
    (agentPubkey : Option String) : MerkleAuditResult :=
  if records = [] then {}
  else
    let valid := records.countP (recordValid prim agentPubkey)
    let chainBroken := valid != records.length
    let mismatch := detectSelfReportMismatch records
    let broken :=
      if chainBroken then [chainBrokenReason (records.length - valid) records.length] else []
    let mismatched := if mismatch then [selfReportMismatchReason] else []
    match auditor.merkleFailure records with
    | none =>
        { integrity := valid / records.length
          chainBroken := chainBroken
          reasons := broken ++ mismatched
          selfReportMismatch := mismatch }
    | some merkle =>
        { integrity := 0
          chainBroken := true
          reasons := broken ++ merkleFailedReason merkle :: mismatched
          selfReportMismatch := mismatch }

/-- An auditor without a Merkle verifier is the one of the router-backed guardians. -/
theorem audit_plain (prim : Primitives) (records : List ShieldActionRecord)
    (agentPubkey : Option String) :
    (audit {} prim records agentPubkey).toAuditResult =
      Auditor.audit prim records agentPubkey := by
  unfold audit Auditor.audit
  by_cases hEmpty : records = []
  · rw [if_pos hEmpty, if_pos hEmpty]
  · rw [if_neg hEmpty, if_neg hEmpty]
    rfl

/-- The auditor has a Merkle verifier, and it does not verify the batch. -/
def MerkleFails (auditor : MerkleAuditor) (records : List ShieldActionRecord) : Prop :=
  ∃ verify, auditor.merkleVerifier = some verify ∧ (verify records).verified = false

theorem merkleFailure_eq_none {auditor : MerkleAuditor} {records : List ShieldActionRecord} :
    auditor.merkleFailure records = none ↔ ¬ auditor.MerkleFails records := by
  unfold merkleFailure MerkleFails
  cases auditor.merkleVerifier with
  | none => simp
  | some verify =>
      show (if (verify records).verified then none else some (verify records)) = none ↔ _
      by_cases hVerified : (verify records).verified
      · simp [hVerified]
      · simp [hVerified]

/-- A batch is broken when it has a record that is not valid, or fails its Merkle check.  An
empty batch never is. -/
theorem audit_chainBroken {auditor : MerkleAuditor} {prim : Primitives}
    {records : List ShieldActionRecord} {agentPubkey : Option String} :
    (auditor.audit prim records agentPubkey).chainBroken = true ↔
      records ≠ [] ∧ ((∃ record ∈ records, recordValid prim agentPubkey record = false) ∨
        auditor.MerkleFails records) := by
  unfold audit
  by_cases hEmpty : records = []
  · rw [if_pos hEmpty]
    simp [hEmpty]
  · rw [if_neg hEmpty]
    cases hFailure : auditor.merkleFailure records with
    | none =>
        have hNot : ¬ auditor.MerkleFails records := merkleFailure_eq_none.1 hFailure
        have hCount : records.countP (recordValid prim agentPubkey) ≠ records.length ↔
            ∃ record ∈ records, recordValid prim agentPubkey record = false := by
          rw [ne_eq, List.countP_eq_length]
          simp
        show (_ != _) = true ↔ _
        rw [bne_iff_ne, hCount]
        simp [hEmpty, hNot]
    | some merkle =>
        have hFails : auditor.MerkleFails records := by
          by_contra hNot
          rw [merkleFailure_eq_none.2 hNot] at hFailure
          cases hFailure
        show true = true ↔ _
        simp [hEmpty, hFails]

end MerkleAuditor

/-! ## The calls of the handlers -/

/-- The public key of a key id: none without a resolver, and none where it finds none. -/
def resolvePubkey (keyResolver : Option (String → Option String)) (kid : String) :
    Option String :=
  match keyResolver with
  | none => none
  | some resolve => resolve kid

/-- A call of the auditor with records that name one key, which is resolved for them. -/
structure AuditCall where
  records : List ShieldActionRecord
  keyResolver : Option (String → Option String)
  kid : String
  ofKid : ∀ record ∈ records, record.agentPubkeyKid = kid

namespace AuditCall

/-- The call of a handler. -/
def ofRecord (keyResolver : Option (String → Option String)) (record : ShieldActionRecord) :
    AuditCall where
  records := [record]
  keyResolver := keyResolver
  kid := record.agentPubkeyKid
  ofKid other hMem := by rw [List.mem_singleton.1 hMem]

def agentPubkey (call : AuditCall) : Option String := resolvePubkey call.keyResolver call.kid

end AuditCall

/-- A chain that the auditor calls broken has a record that does not verify with its own
key, where this key is available, or a Merkle check that fails; and the other way round. -/
def MerkleAuditor.Accurate (auditor : MerkleAuditor) (prim : Primitives) (call : AuditCall) :
    Prop :=
  (auditor.audit prim call.records call.agentPubkey).chainBroken = true ↔
    (∃ record ∈ call.records, ∃ key,
      resolvePubkey call.keyResolver record.agentPubkeyKid = some key ∧
        recordValid prim (some key) record = false) ∨
      auditor.MerkleFails call.records

/-- The key of a row that is neither revoked nor retired. -/
def Database.activeKey (db : Database) (kid : String) : Option String :=
  match db.findKey kid with
  | none => none
  | some key => if key.status = .revoked ∨ key.status = .retired then none else some key.publicKey

theorem Database.activeKey_isSome {db : Database} {kid : String} :
    (db.activeKey kid).isSome ↔ ∃ key, db.findKey kid = some key ∧
      key.status ≠ .revoked ∧ key.status ≠ .retired := by
  unfold activeKey
  cases db.findKey kid with
  | none => simp
  | some key =>
      by_cases hDead : key.status = .revoked ∨ key.status = .retired
      · simp only [if_pos hDead]
        grind
      · simp only [if_neg hDead]
        grind

/-- A worker's handler audits the record with the key that is active when it looks. -/
theorem makeAsyncChannel2Handler_audits (guardians : Channel2Guardians)
    (onVerdict : AsyncVerdictHandoff → Async WorkerState Raised Unit)
    (record : ShieldActionRecord) (s : WorkerState) :
    run (makeAsyncChannel2Handler guardians AsyncVerdictWorker.resolveKey onVerdict record) s =
      run (do
        let evalResult ← call fun s => (s, guardians.evaluate record)
        let call := AuditCall.ofRecord (some s.world.db.activeKey) record
        let auditResult := guardians.audit call.records call.agentPubkey
        let verdict ← ofExcept ((guardians.supervisor.decide (guardians.verdictId record)
          (asyncSignals record evalResult auditResult) record).mapError
            fun _ => .other "supervisor")
        onVerdict (.fromRecord record verdict (guardians.evidence record))) s := by
  unfold makeAsyncChannel2Handler
  cases hEval : guardians.evaluate record with
  | error e => rfl
  | ok evalResult => rfl

/-- The audit of a router-backed attempt is the one of an auditor without a verifier. -/
theorem RouterBackedGuardians.audit_result {g : RouterBackedGuardians} {a : Attempt}
    {publicKey : Option String} {s s' : RouterState} {result : AuditResult}
    (h : run (g.audit a publicKey) s = (s', .ok result)) :
    result = (MerkleAuditor.audit {} g.prim [a.record] publicKey).toAuditResult := by
  rw [MerkleAuditor.audit_plain]
  unfold RouterBackedGuardians.audit at h
  simp only [invoke, python, recordForRecord, run_ofExcept_bind] at h
  split at h
  · split at h
    · simp only [run_write_bind, run_pure, Prod.mk.injEq, Except.ok.injEq] at h
      exact h.2.symm
    · simp at h
  · simp at h

/-! ## When the verdict is right -/

/-- A call with a key is right, and so is one whose Merkle check fails.  A call without a
key is right about an empty batch only, and the empty batch is not checked against the
Merkle tree. -/
theorem MerkleAuditor.accurate_iff (auditor : MerkleAuditor) (prim : Primitives)
    (call : AuditCall) :
    auditor.Accurate prim call ↔
      (call.records = [] ∧ ¬ auditor.MerkleFails []) ∨
        (call.records ≠ [] ∧ (call.agentPubkey.isSome ∨ auditor.MerkleFails call.records)) := by
  have hKey : ∀ record ∈ call.records,
      resolvePubkey call.keyResolver record.agentPubkeyKid = call.agentPubkey := by
    intro record hMem
    rw [call.ofKid record hMem]
    rfl
  unfold MerkleAuditor.Accurate
  rw [MerkleAuditor.audit_chainBroken]
  by_cases hEmpty : call.records = []
  · simp [hEmpty]
  · have hOwn : (∃ record ∈ call.records, ∃ key,
        resolvePubkey call.keyResolver record.agentPubkeyKid = some key ∧
          recordValid prim (some key) record = false) ↔
        ∃ record ∈ call.records, ∃ key, call.agentPubkey = some key ∧
          recordValid prim (some key) record = false := by
      constructor
      · intro ⟨record, hMem, key, hFound, hInvalid⟩
        exact ⟨record, hMem, key, by rw [← hKey record hMem, hFound], hInvalid⟩
      · intro ⟨record, hMem, key, hFound, hInvalid⟩
        exact ⟨record, hMem, key, by rw [hKey record hMem, hFound], hInvalid⟩
    rw [hOwn]
    cases hFound : call.agentPubkey with
    | some key =>
        simp [hEmpty]
    | none =>
        -- no record is valid without a key
        have hNone : ∃ record ∈ call.records, recordValid prim none record = false := by
          have hMem := List.head_mem hEmpty
          exact ⟨_, hMem, by simp [recordValid, textGiven]⟩
        simp [hEmpty, hNone]

/-- The auditor is right about a batch when it has a key for it or the Merkle check fails,
and about no records when a Merkle verifier has nothing against them.  So a worker's call
is right when the record's key is in the table and neither revoked nor retired, or the
Merkle check fails. -/
theorem audit_verdict_accurate_iff (auditor : MerkleAuditor) (prim : Primitives) :
    (∀ call : AuditCall, auditor.Accurate prim call ↔
      (call.records = [] ∧ ¬ auditor.MerkleFails []) ∨
        (call.records ≠ [] ∧
          (call.agentPubkey.isSome ∨ auditor.MerkleFails call.records))) ∧
    (∀ keyResolver record, auditor.Accurate prim (.ofRecord keyResolver record) ↔
      (∃ resolve key, keyResolver = some resolve ∧ resolve record.agentPubkeyKid = some key) ∨
        auditor.MerkleFails [record]) ∧
    ∀ (w : WorkerState) record,
      auditor.Accurate prim (.ofRecord (some w.world.db.activeKey) record) ↔
        (∃ key, w.world.db.findKey record.agentPubkeyKid = some key ∧
          key.status ≠ .revoked ∧ key.status ≠ .retired) ∨ auditor.MerkleFails [record] := by
  have hRecord : ∀ keyResolver record,
      auditor.Accurate prim (.ofRecord keyResolver record) ↔
        (resolvePubkey keyResolver record.agentPubkeyKid).isSome ∨
          auditor.MerkleFails [record] := by
    intro keyResolver record
    have hRecords : (AuditCall.ofRecord keyResolver record).records = [record] := rfl
    rw [auditor.accurate_iff, hRecords]
    simp [AuditCall.agentPubkey, AuditCall.ofRecord]
  constructor
  · exact auditor.accurate_iff prim
  constructor
  · intro keyResolver record
    rw [hRecord]
    cases keyResolver with
    | none => simp [resolvePubkey]
    | some resolve => simp [resolvePubkey, Option.isSome_iff_exists]
  · intro w record
    rw [hRecord, ← Database.activeKey_isSome]
    rfl

namespace Sample

/-- A signed record of the key `kid`. -/
def signedBy (kid : String) : ShieldActionRecord :=
  signed { action "r1" "n1" .preExec 1 genesisChainHash "" with agentPubkeyKid := kid }

/-- A database with one key, which is revoked. -/
def revokedKey : Database where
  agents := []
  agentKeys := [{ kid := "k1", agentId := "a1", publicKey := "pk", status := .revoked }]

end Sample

/-- A record that verifies with its key is reported as a broken chain once the key is
revoked. -/
theorem revoked_key_breaks_chain :
    verifyRecord Sample.textPrim (Sample.signedBy "k1") "pk" = true ∧
      (MerkleAuditor.audit {} Sample.textPrim [Sample.signedBy "k1"]
        (resolvePubkey (some Sample.revokedKey.activeKey) "k1")).chainBroken = true ∧
      ¬ MerkleAuditor.Accurate {} Sample.textPrim
        (.ofRecord (some Sample.revokedKey.activeKey) (Sample.signedBy "k1")) := by
  have hKey : Sample.revokedKey.activeKey "k1" = none := by decide
  have hNoMerkle : ¬ MerkleAuditor.MerkleFails {} [Sample.signedBy "k1"] := by
    intro ⟨verify, hVerify, _⟩
    cases hVerify
  have hBroken : (MerkleAuditor.audit {} Sample.textPrim [Sample.signedBy "k1"]
      (resolvePubkey (some Sample.revokedKey.activeKey) "k1")).chainBroken = true := by
    rw [MerkleAuditor.audit_chainBroken]
    exact ⟨List.cons_ne_nil _ _, .inl ⟨_, List.mem_singleton.2 rfl, by
      rw [resolvePubkey, hKey]
      simp [recordValid, textGiven]⟩⟩
  constructor
  · show (_ == _) = true
    exact beq_self_eq_true (recordSigningString Sample.textPrim _)
  constructor
  · exact hBroken
  · rw [MerkleAuditor.accurate_iff]
    have hNone : (AuditCall.ofRecord (some Sample.revokedKey.activeKey)
        (Sample.signedBy "k1")).agentPubkey = none := hKey
    rw [hNone]
    intro h
    rcases h with ⟨hNil, _⟩ | ⟨_, hSome | hFails⟩
    · cases hNil
    · cases hSome
    · exact hNoMerkle hFails

end AgentShield.Server
