import AgentShield.Sdk.PresentNull
import AgentShield.Server.ChainInvariant

/-!
# What a verification report certifies

`verifyOperation` makes three independent checks: the stored record's signature
under the key that the record itself names, the chain hash of the row's own
columns with the link to the row before it if there is one, and the hash of the
stored receipt's own fields.  `verified_iff` says exactly when the report is
valid, in any state of the stores.  The checks do not compare the record and the
receipt with the row, so a valid report says that each of the three is sound in
itself, not that they belong together.
-/

namespace AgentShield.Server

open AgentShield.Lib AgentShield.Lib.Async AgentShield.Sdk

section Checks

variable (py : Pydantic) (crypto : CryptoProvider)

/-- The verification ended with a valid report. -/
def reportsValid : Except Failure VerifyReport → Bool
  | .ok report => report.valid
  | .error _ => false

/-- The report on an operation is valid in state `w`. -/
def Verified (w : World) (operationId orgId : String) : Prop :=
  reportsValid ((verifyOperation py crypto operationId orgId).run w).2 = true

instance (w : World) (operationId orgId : String) :
    Decidable (Verified py crypto w operationId orgId) := by
  unfold Verified
  infer_instance

/-- The stored record of a row. -/
def StoredRecord (w : World) (row : OperationRow) (rec : OperationRecord) : Prop :=
  ∃ key doc, row.r2PayloadKey = some key ∧ key ≠ "" ∧ w.get key = some (.document doc) ∧
    OperationRecord.modelValidateJson py doc = some rec

/-- The stored receipt of an operation. -/
def StoredReceipt (w : World) (operationId : String) (ear : Json) : Prop :=
  ∃ r, w.db.findReceipt operationId = some r ∧ w.get r.r2ReceiptKey = some (.document ear)

/-- The record's signature verifies under the key and agent that the record
names. -/
def RecordSigned (db : Database) (rec : OperationRecord) : Prop :=
  ∃ k, db.findAgentKey rec.agentPubkeyKid rec.agentId = some k ∧
    crypto.verifyEd25519 k.publicKey (crypto.canonical (signable rec)) rec.signature = true

/-- The row continues the row before it, when that row exists. -/
def RowLinked (db : Database) (row : OperationRow) : Prop :=
  1 < row.seqNo → ∀ p, db.findOperationAt row.agentId (row.seqNo - 1) = some p →
    p.chainHash = row.prevChainHash

/-- The receipt carries the hash of its own nine fields. -/
def ReceiptHashed (ear : Json) : Prop :=
  ∃ fields, storedReceiptFields ear receiptFieldNames = some fields ∧
    ear.field? "receipt_hash" = some (.str (crypto.receiptHash (.obj fields)))

/-- Everything that a valid report certifies: the stored record is signed by a key of its
agent, the row's chain hash is recomputed and linked to the row before, and the receipt's hash
is right. -/
structure Checks (w : World) (operationId orgId : String) (row : OperationRow)
    (rec : OperationRecord) (ear : Json) : Prop where
  found : w.db.findOperation operationId orgId = some row
  record : StoredRecord py w row rec
  signed : RecordSigned crypto w.db rec
  hashed : crypto.chainHash row.prevChainHash row.payloadHash row.operationId row.issuedAt =
    row.chainHash
  linked : RowLinked w.db row
  stored : StoredReceipt w operationId ear
  receipt : ReceiptHashed crypto ear

variable {py crypto}

theorem signatureCheck_fst {db : Database} {rec : OperationRecord} :
    (signatureCheck crypto (db.findAgentKey rec.agentPubkeyKid rec.agentId) rec).1 = true ↔
      RecordSigned crypto db rec := by
  unfold signatureCheck RecordSigned
  cases hKey : db.findAgentKey rec.agentPubkeyKid rec.agentId with
  | none => simp
  | some k =>
      by_cases hSig :
          crypto.verifyEd25519 k.publicKey (crypto.canonical (signable rec)) rec.signature = true
      · simp [hSig]
      · simp [hSig]

/-- The row before `row`, which the verifier looks up for later rows only. -/
def predecessor (db : Database) (row : OperationRow) : Option OperationRow :=
  if 1 < row.seqNo then db.findOperationAt row.agentId (row.seqNo - 1) else none

theorem linksTo_predecessor {db : Database} {row : OperationRow} :
    linksTo row (predecessor db row) = true ↔ RowLinked db row := by
  unfold predecessor RowLinked
  by_cases hSeq : 1 < row.seqNo
  · rw [if_pos hSeq]
    cases hPrev : db.findOperationAt row.agentId (row.seqNo - 1) with
    | none => simp [linksTo]
    | some p => simp [linksTo, hSeq]
  · simp [hSeq, linksTo]

/-- The receipt check of the verifier, with its lookups: the row of the receipt, and the
document to which it points. -/
def receiptOutcome (crypto : CryptoProvider) (w : World) (operationId : String) :
    Except Failure (Bool × List String) :=
  match w.db.findReceipt operationId with
  | none => .ok (false, ["No receipt found for this operation."])
  | some row =>
      match w.get row.r2ReceiptKey with
      | none => .ok (false, ["Receipt evidence not found in the object store."])
      | some .notJson => .error .lookup
      | some (.document ear) => receiptCheck crypto ear

theorem receiptCheck_ok {ear : Json} :
    (∃ errors, receiptCheck crypto ear = .ok (true, errors)) ↔ ReceiptHashed crypto ear := by
  unfold receiptCheck ReceiptHashed
  cases hFields : storedReceiptFields ear receiptFieldNames with
  | none => simp
  | some fields =>
      cases hHash : ear.field? "receipt_hash" with
      | none => simp
      | some stored =>
          by_cases hEq : Json.str (crypto.receiptHash (.obj fields)) = stored
          · simp [hEq]
          · simp [hEq, Ne.symm hEq, eq_comm]

theorem receiptOutcome_ok {w : World} {operationId : String} :
    (∃ errors, receiptOutcome crypto w operationId = .ok (true, errors)) ↔
      ∃ ear, StoredReceipt w operationId ear ∧ ReceiptHashed crypto ear := by
  unfold receiptOutcome StoredReceipt
  cases hRow : w.db.findReceipt operationId with
  | none => simp
  | some row =>
      cases hBody : w.get row.r2ReceiptKey with
      | none => simp [hBody]
      | some body =>
          cases body with
          | notJson => simp [hBody]
          | document ear => simpa [hBody] using receiptCheck_ok

/-- The report on a row whose stored record was read.  All three checks are made and all
errors reported, whichever fails first. -/
def reportOf (crypto : CryptoProvider) (w : World) (operationId : String)
    (row : OperationRow) (rec : OperationRecord) : Except Failure VerifyReport :=
  let sig := signatureCheck crypto (w.db.findAgentKey rec.agentPubkeyKid rec.agentId) rec
  let chainOk := chainHashMatches crypto row && linksTo row (predecessor w.db row)
  match receiptOutcome crypto w operationId with
  | .error e => .error e
  | .ok (receiptOk, receiptErrors) => .ok
      { valid := sig.1 && chainOk && receiptOk
        signature := sig.1
        chain := chainOk
        receipt := receiptOk
        errors := sig.2 ++
          (chainHashErrors crypto row ++ linkErrors row (predecessor w.db row)) ++
          receiptErrors }

/-- The verifier on a row whose stored record can be read changes nothing and answers the
report on it. -/
theorem run_verifyOperation {w : World} {operationId orgId : String} {row : OperationRow}
    {rec : OperationRecord} (hFound : w.db.findOperation operationId orgId = some row)
    (hRecord : StoredRecord py w row rec) :
    (verifyOperation py crypto operationId orgId).run w =
      (w, reportOf crypto w operationId row rec) := by
  obtain ⟨key, doc, hKey, hNonempty, hBody, hParse⟩ := hRecord
  unfold verifyOperation
  rw [run_read_bind, hFound]
  simp only [require, pure_bind', hKey, if_neg hNonempty, run_read_bind, hBody, hParse]
  unfold reportOf receiptOutcome predecessor
  by_cases hSeq : 1 < row.seqNo
  · simp only [if_pos hSeq, run_read_bind]
    cases hRow : w.db.findReceipt operationId with
    | none => simp
    | some r =>
        simp only [run_read_bind]
        cases hEar : w.get r.r2ReceiptKey with
        | none => simp
        | some body =>
            cases body with
            | notJson => simp
            | document ear => cases hCheck : receiptCheck crypto ear <;> simp [hCheck]
  · simp only [if_neg hSeq, run_read_bind]
    cases hRow : w.db.findReceipt operationId with
    | none => simp
    | some r =>
        simp only [run_read_bind]
        cases hEar : w.get r.r2ReceiptKey with
        | none => simp
        | some body =>
            cases body with
            | notJson => simp
            | document ear => cases hCheck : receiptCheck crypto ear <;> simp [hCheck]

/-- A valid report needs a row with a stored record that can be read, since every other way
through the verifier ends before the report. -/
theorem verified_record {w : World} {operationId orgId : String}
    (h : Verified py crypto w operationId orgId) :
    ∃ row rec, w.db.findOperation operationId orgId = some row ∧ StoredRecord py w row rec := by
  unfold Verified verifyOperation at h
  rw [run_read_bind] at h
  cases hFound : w.db.findOperation operationId orgId with
  | none => simp [hFound, require, reportsValid] at h
  | some row =>
      refine ⟨row, ?_⟩
      simp only [hFound, require, pure_bind'] at h
      cases hKey : row.r2PayloadKey with
      | none => simp [hKey, reportsValid, VerifyReport.refused] at h
      | some key =>
          by_cases hEmpty : key = ""
          · simp [hKey, hEmpty, reportsValid, VerifyReport.refused] at h
          · simp only [hKey, if_neg hEmpty, run_read_bind] at h
            cases hBody : w.get key with
            | none => simp [hBody, reportsValid, VerifyReport.refused] at h
            | some body =>
                cases body with
                | notJson => simp [hBody, reportsValid] at h
                | document doc =>
                    cases hParse : OperationRecord.modelValidateJson py doc with
                    | none => simp [hBody, hParse, reportsValid] at h
                    | some rec => exact ⟨rec, rfl, key, doc, hKey, hEmpty, hBody, hParse⟩

theorem reportOf_valid {w : World} {operationId : String} {row : OperationRow}
    {rec : OperationRecord} :
    reportsValid (reportOf crypto w operationId row rec) = true ↔
      RecordSigned crypto w.db rec ∧
      crypto.chainHash row.prevChainHash row.payloadHash row.operationId row.issuedAt =
        row.chainHash ∧
      RowLinked w.db row ∧
      ∃ ear, StoredReceipt w operationId ear ∧ ReceiptHashed crypto ear := by
  rw [← signatureCheck_fst, ← linksTo_predecessor, ← receiptOutcome_ok]
  unfold reportOf chainHashMatches reportsValid
  cases hReceipt : receiptOutcome crypto w operationId with
  | error e => simp
  | ok outcome =>
      obtain ⟨receiptOk, errors⟩ := outcome
      simp only [Except.ok.injEq, Bool.and_eq_true, decide_eq_true_eq, Prod.mk.injEq,
        exists_eq_right', and_assoc]

/-- **Exactness of the verifier.**  In every state of the stores the report on an
operation is valid exactly when a row, a record and a receipt pass the checks. -/
theorem verified_iff {w : World} {operationId orgId : String} :
    Verified py crypto w operationId orgId ↔
      ∃ row rec ear, Checks py crypto w operationId orgId row rec ear := by
  constructor
  · intro h
    obtain ⟨row, rec, hFound, hRecord⟩ := verified_record h
    unfold Verified at h
    rw [run_verifyOperation hFound hRecord] at h
    obtain ⟨hSigned, hHashed, hLinked, ear, hStored, hReceipt⟩ := reportOf_valid.1 h
    exact ⟨row, rec, ear, hFound, hRecord, hSigned, hHashed, hLinked, hStored, hReceipt⟩
  · rintro ⟨row, rec, ear, hChecks⟩
    unfold Verified
    rw [run_verifyOperation hChecks.found hChecks.record]
    exact reportOf_valid.2
      ⟨hChecks.signed, hChecks.hashed, hChecks.linked, ear, hChecks.stored, hChecks.receipt⟩

end Checks

/-! ## Soundness under tampering -/

/-- Every signature that verifies was made by the holder of the key. -/
def Unforgeable (prim : Primitives) (Signed : String → String → Prop) : Prop :=
  ∀ publicKey message signature, prim.verifyEd25519 publicKey message signature = true →
    Signed publicKey message

/-- The holder of a registered key of the agent that the record names has signed
the record. -/
def AgentSigned (prim : Primitives) (Signed : String → String → Prop)
    (agentKeys : List AgentKey) (rec : OperationRecord) : Prop :=
  ∃ k ∈ agentKeys, k.kid = rec.agentPubkeyKid ∧ k.agentId = rec.agentId ∧
    Signed k.publicKey (prim.jcsCanonicalize (signable rec))

theorem served_agentKeys (settings : Settings) (now : Int) (agents : List Agent)
    (agentKeys : List AgentKey) (events : List (Event (ingestService settings))) :
    (served settings now agents agentKeys events).state.db.agentKeys = agentKeys :=
  served_inv (I := fun w => w.db.agentKeys = agentKeys)
    (fun _ _ hw hEffect => hEffect.agentKeys_eq.trans hw) rfl events

/-- **Soundness of the verifier.**  After any run and any tampering that leaves
the agent keys alone, the report on an operation is valid exactly when its checks
pass, and then the stored record was signed by the agent that it names. -/
theorem verifyOperation_sound (settings : Settings) (py : Pydantic) (now : Int)
    (agents : List Agent) (agentKeys : List AgentKey)
    (events : List (Event (ingestService settings))) (tampered : World)
    (hKeys : tampered.db.agentKeys =
      (served settings now agents agentKeys events).state.db.agentKeys)
    (Signed : String → String → Prop) (hIdeal : Unforgeable settings.prim Signed)
    (operationId orgId : String) :
    Verified py (shieldSdkCrypto settings.prim) tampered operationId orgId ↔
      ∃ row rec ear,
        Checks py (shieldSdkCrypto settings.prim) tampered operationId orgId row rec ear ∧
        AgentSigned settings.prim Signed agentKeys rec := by
  rw [served_agentKeys] at hKeys
  constructor
  · intro h
    obtain ⟨row, rec, ear, hChecks⟩ := verified_iff.1 h
    refine ⟨row, rec, ear, hChecks, ?_⟩
    obtain ⟨k, hFind, hVerify⟩ := hChecks.signed
    unfold Database.findAgentKey at hFind
    rw [hKeys] at hFind
    have hNames := List.find?_some hFind
    simp only [decide_eq_true_eq] at hNames
    exact ⟨k, List.mem_of_find?_eq_some hFind, hNames.1, hNames.2, hIdeal _ _ _ hVerify⟩
  · rintro ⟨row, rec, ear, hChecks, -⟩
    exact verified_iff.2 ⟨row, rec, ear, hChecks⟩

/-- What one may expect a valid report to say about the row: the record and the
receipt are its own, and the row is linked. -/
structure Genuine (prim : Primitives) (serverPublicKey : String) (w : World)
    (row : OperationRow) (rec : OperationRecord) (ear : Json) : Prop where
  operationId : rec.operationId = row.operationId
  agentId : rec.agentId = row.agentId
  payloadHash : rec.payloadHash = row.payloadHash
  prevChainHash : rec.prevChainHash = row.prevChainHash
  payload : prim.computePayloadHash rec.payload.toJson = row.payloadHash
  receiptOperation : ear.field? "operation_id" = some (.str row.operationId)
  receiptSeqNo : ear.field? "seq_no" = some (.int row.seqNo)
  receiptChain : ear.field? "chain_hash" = some (.str row.chainHash)
  receiptSigned : ∃ receiptHash signature,
    ear.field? "receipt_hash" = some (.str receiptHash) ∧
    ear.field? "elydora_signature" = some (.str signature) ∧
    prim.verifyEd25519 serverPublicKey receiptHash signature = true
  first : row.seqNo = 1 → row.prevChainHash = genesisChainHash
  later : 1 < row.seqNo → ∃ p, w.db.findOperationAt row.agentId (row.seqNo - 1) = some p ∧
    p.chainHash = row.prevChainHash

/-! ## A swapped record -/

namespace Sample

/-- Numbers are read from numbers of their type only. -/
def pydantic : Pydantic := Sdk.Sample.validator.toPydantic

def op1 : OperationRecord := operation "op1" "n1" 1000 genesisChainHash

def op2 : OperationRecord := operation "op2" "n2" 1000 (chainHash op1)

/-- Both operations, one after the other. -/
def both : List (Event (ingestService settings)) :=
  served (.submit op1 "r1") 0 9 ++ served (.submit op2 "r2") 1 9

def reached : World := (Server.served settings 1000 agents agentKeys both).state

/-- The second record stored in the place of the first. -/
def swapped : World := reached.put (recordKey "o" "a" "op1") (.ofJson op2.modelDump)

end Sample

set_option maxRecDepth 40000 in
theorem verifyOperation_sound_sample :
    Verified Sample.pydantic (shieldSdkCrypto Sample.settings.prim) Sample.swapped "op1" "o" ↔
      ∃ row rec ear,
        Checks Sample.pydantic (shieldSdkCrypto Sample.settings.prim) Sample.swapped "op1" "o"
          row rec ear ∧
        AgentSigned Sample.settings.prim (fun _ _ => True) Sample.agentKeys rec :=
  verifyOperation_sound Sample.settings Sample.pydantic 1000 Sample.agents Sample.agentKeys
    Sample.both Sample.swapped rfl (fun _ _ => True) (fun _ _ _ _ => trivial) "op1" "o"

set_option maxRecDepth 40000 in
/-- **A valid report does not say that the record is the row's.**  With the second
record stored in the place of the first, the report on the first operation is
valid. -/
theorem swapped_record_verified :
    ¬ ∀ (settings : Settings) (py : Pydantic) (now : Int) (agents : List Agent)
      (agentKeys : List AgentKey) (events : List (Event (ingestService settings)))
      (tampered : World),
      tampered.db.agentKeys = (served settings now agents agentKeys events).state.db.agentKeys →
      ∀ (serverPublicKey operationId orgId : String),
        Verified py (shieldSdkCrypto settings.prim) tampered operationId orgId →
        ∃ row rec ear,
          Checks py (shieldSdkCrypto settings.prim) tampered operationId orgId row rec ear ∧
          Genuine settings.prim serverPublicKey tampered row rec ear := by
  intro h
  obtain ⟨row, rec, ear, hChecks, hGenuine⟩ := h Sample.settings Sample.pydantic 1000
    Sample.agents Sample.agentKeys Sample.both Sample.swapped rfl "pk" "op1" "o" (by decide)
  obtain ⟨-, hId, -⟩ := Database.findOperation_mem hChecks.found
  obtain ⟨key, doc, hKey, -, hBody, hParse⟩ := hChecks.record
  have hRow : Sample.swapped.db.findOperation "op1" "o" =
      some (submittedRow Sample.settings Sample.op1 1000 1) := by
    decide
  obtain rfl : submittedRow Sample.settings Sample.op1 1000 1 = row :=
    Option.some.inj (hRow.symm.trans hChecks.found)
  obtain rfl : recordKey "o" "a" "op1" = key := Option.some.inj hKey
  have hStored : Sample.swapped.get (recordKey "o" "a" "op1") =
      some (.ofJson Sample.op2.modelDump) := World.get_put_self _ _ _
  obtain rfl : Sample.op2.modelDump.wire = doc := by
    have hEq := Option.some.inj (hStored.symm.trans hBody)
    simpa [Body.ofJson] using hEq
  rw [modelValidateJson_modelDump] at hParse
  have hOther : rec.operationId = "op2" := by
    rw [← Option.some.inj hParse]
    rfl
  rw [hGenuine.operationId, hId] at hOther
  exact absurd hOther (by decide)

end AgentShield.Server
