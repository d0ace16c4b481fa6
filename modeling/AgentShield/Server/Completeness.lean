import AgentShield.Server.Verification

/-!
# Which operations verify

The verifier wants a stored record that it can read and re-check and a receipt
of the operation.  `submitOperation` writes both, `decide` and `record` write
neither: they store an action record and insert no receipt row.  So of the
accepted operations exactly those of `submitOperation` verify, in every state of
every run that replaces no signed record and no receipt by an object of another
kind (`KindsKept`).  Object keys are built from ids that the client chooses, and
nothing else keeps the kinds apart.
-/

namespace AgentShield.Server

open AgentShield.Lib AgentShield.Lib.Async AgentShield.Sdk

/-! ## Kinds of objects -/

inductive ObjectKind where
  | envelope
  | receipt
  | other
  deriving DecidableEq, Repr

/-- The kind of an object, told by its first field. -/
def Body.kind : Body → ObjectKind
  | .document (.obj ((name, _) :: _)) =>
      if name = "op_version" then .envelope
      else if name = "receipt_version" then .receipt
      else .other
  | _ => .other

/-- No signed record and no receipt is replaced by an object of another kind. -/
def KindsKept (w w' : World) : Prop :=
  ∀ e ∈ w.objects, e.2.kind ≠ .other → (w'.get e.1).map Body.kind = some e.2.kind

instance (w w' : World) : Decidable (KindsKept w w') := by
  unfold KindsKept
  infer_instance

theorem kind_envelope (rec : OperationRecord) : (Body.ofJson rec.modelDump).kind = .envelope :=
  rfl

theorem kind_receipt (ear : EAR) : (Body.ofJson ear.modelDump).kind = .receipt := rfl

theorem kind_action (rec : ShieldActionRecord) :
    (Body.ofJson (rec.modelDump false)).kind = .other := rfl

theorem kind_verdict (v : GovernanceVerdict) : (Body.ofJson (v.modelDump false)).kind = .other :=
  rfl

section Written

variable {settings : Settings} {db : Database} {key : String} {body : Body}

theorem Written.of_envelope (h : Written settings db key body) (hKind : body.kind = .envelope) :
    ∃ rec : OperationRecord, body = .ofJson rec.modelDump ∧
      SignedBy db (rec.submission (shieldSdkCrypto settings.prim)) := by
  cases h with
  | envelope signed => exact ⟨_, rfl, signed⟩
  | receipt rec receivedAt seqNo receiptId => rw [kind_receipt] at hKind; cases hKind
  | action rec => rw [kind_action] at hKind; cases hKind
  | verdict orgId agentId v => rw [kind_verdict] at hKind; cases hKind

theorem Written.of_receipt (h : Written settings db key body) (hKind : body.kind = .receipt) :
    ∃ rec receivedAt seqNo receiptId,
      body = .ofJson (storedReceipt settings rec receivedAt seqNo receiptId).modelDump := by
  cases h with
  | envelope signed => rw [kind_envelope] at hKind; cases hKind
  | receipt rec receivedAt seqNo receiptId => exact ⟨rec, receivedAt, seqNo, receiptId, rfl⟩
  | action rec => rw [kind_action] at hKind; cases hKind
  | verdict orgId agentId v => rw [kind_verdict] at hKind; cases hKind

theorem Written.congr {db' : Database} (h : Written settings db key body)
    (hKeys : db'.agentKeys = db.agentKeys) : Written settings db' key body := by
  cases h with
  | envelope signed => exact .envelope (signed.congr hKeys)
  | receipt rec receivedAt seqNo receiptId => exact .receipt rec receivedAt seqNo receiptId
  | action rec => exact .action rec
  | verdict orgId agentId v => exact .verdict orgId agentId v

end Written

/-! ## What the stores hold for the accepted operations -/

/-- The object store holds only what the routes write, and every row has its
evidence with the receipt that the table holds for it. -/
structure Recorded (settings : Settings) (C : World → World → Prop) (w : World) : Prop where
  written : ∀ key body, w.get key = some body → Written settings w.db key body
  ids : ∀ row ∈ w.db.operations, ∀ row' ∈ w.db.operations,
    row.operationId = row'.operationId → row = row'
  owners : ∀ r ∈ w.db.receipts, ∃ row ∈ w.db.operations, row.operationId = r.operationId
  evidence : ∀ row ∈ w.db.operations,
    Evidence settings C w row (w.db.findReceipt row.operationId)

section Recorded

variable {settings : Settings} {C : World → World → Prop} {w w' : World}

theorem Evidence.receipt_id {row : OperationRow} {receipt : Option ReceiptRow}
    (h : Evidence settings C w row receipt) :
    ∀ r ∈ receipt, r.operationId = row.operationId := by
  cases h with
  | submitted signed stored receipt =>
      intro r hr
      obtain rfl := Option.mem_some_iff.1 hr
      rfl
  | governed signed stored => simp

theorem Effect.written (h : Effect settings C w w')
    (hw : ∀ key body, w.get key = some body → Written settings w.db key body) :
    ∀ key body, w'.get key = some body → Written settings w'.db key body := by
  intro key body hGet
  suffices hSame : Written settings w.db key body from hSame.congr h.agentKeys_eq
  cases h with
  | store written =>
      rename_i key' body'
      rw [World.get_put] at hGet
      split at hGet
      · rename_i hKey
        subst hKey
        obtain rfl := Option.some.inj hGet
        exact written
      · exact hw key body hGet
  | rest => exact hw key body hGet
  | tick => exact hw key body hGet
  | reserve => exact hw key body hGet
  | accept => exact hw key body hGet
  | hint => exact hw key body hGet
  | channel => exact hw key body hGet

/-- A receipt is found for the row that it came with, and for no other row. -/
theorem findReceipt_append {receipts : List ReceiptRow} {receipt : Option ReceiptRow}
    {operationId : String} (hId : ∀ r ∈ receipt, r.operationId = operationId) (id : String) :
    (receipts ++ receipt.toList).find? (fun r => r.operationId = id) =
      (receipts.find? fun r => r.operationId = id).or
        (if operationId = id then receipt else none) := by
  rw [List.find?_append]
  congr 1
  cases receipt with
  | none => simp
  | some r =>
      have hr : r.operationId = operationId := hId r rfl
      by_cases hEq : operationId = id
      · simp [hr, hEq]
      · simp [hr, hEq]

/-- **One step** of a run that satisfies `C` keeps the evidence of every row, that of the row
which is accepted by the step included. -/
theorem Effect.recorded (h : Effect settings C w w') (hC : C w w')
    (hw : Recorded settings C w) : Recorded settings C w' := by
  have hWritten := h.written hw.written
  have hKeep : ∀ {row receipt}, Evidence settings C w row receipt →
      Evidence settings C w' row receipt := fun hE => hE.mono h.agentKeys_eq hC
  cases h with
  | accept accepts verdicts log =>
      rename_i row receipt
      have hId := accepts.evidence.receipt_id
      have hNone : w.db.findReceipt row.operationId = none := by
        unfold Database.findReceipt
        rw [List.find?_eq_none]
        intro r hr hEq
        obtain ⟨row', hRow', hOwner⟩ := hw.owners r hr
        exact accepts.freshId row' hRow' (hOwner.trans (by simpa using hEq))
      refine ⟨hWritten, ?_, ?_, ?_⟩
      · intro r hr r' hr' hEq
        rcases List.mem_append.1 hr with hOld | hNew
        · rcases List.mem_append.1 hr' with hOld' | hNew'
          · exact hw.ids r hOld r' hOld' hEq
          · rw [List.mem_singleton.1 hNew'] at hEq
            exact absurd hEq (accepts.freshId r hOld)
        · rcases List.mem_append.1 hr' with hOld' | hNew'
          · rw [List.mem_singleton.1 hNew] at hEq
            exact absurd hEq.symm (accepts.freshId r' hOld')
          · rw [List.mem_singleton.1 hNew, List.mem_singleton.1 hNew']
      · intro r hr
        rcases List.mem_append.1 hr with hOld | hNew
        · obtain ⟨row', hRow', hOwner⟩ := hw.owners r hOld
          exact ⟨row', List.mem_append_left _ hRow', hOwner⟩
        · exact ⟨row, List.mem_append_right _ (List.mem_singleton.2 rfl),
            (hId r (Option.mem_toList.1 hNew)).symm⟩
      · intro r hr
        have hFind : Database.findReceipt { w.db with
            operations := w.db.operations ++ [row]
            receipts := w.db.receipts ++ receipt.toList
            governanceVerdicts := w.db.governanceVerdicts ++ verdicts
            interventionLog := w.db.interventionLog ++ log } r.operationId =
            (w.db.findReceipt r.operationId).or
              (if row.operationId = r.operationId then receipt else none) :=
          findReceipt_append hId r.operationId
        refine hKeep ?_
        simp only [hFind]
        rcases List.mem_append.1 hr with hOld | hNew
        · rw [if_neg fun hEq => accepts.freshId r hOld hEq.symm, Option.or_none]
          exact hw.evidence r hOld
        · obtain rfl := List.mem_singleton.1 hNew
          rw [hNone, if_pos rfl, Option.none_or]
          exact accepts.evidence
  | rest => exact ⟨hWritten, hw.ids, hw.owners, fun r hr => hKeep (hw.evidence r hr)⟩
  | tick => exact ⟨hWritten, hw.ids, hw.owners, fun r hr => hKeep (hw.evidence r hr)⟩
  | reserve => exact ⟨hWritten, hw.ids, hw.owners, fun r hr => hKeep (hw.evidence r hr)⟩
  | store => exact ⟨hWritten, hw.ids, hw.owners, fun r hr => hKeep (hw.evidence r hr)⟩
  | hint => exact ⟨hWritten, hw.ids, hw.owners, fun r hr => hKeep (hw.evidence r hr)⟩
  | channel => exact ⟨hWritten, hw.ids, hw.owners, fun r hr => hKeep (hw.evidence r hr)⟩

end Recorded

/-! ## The checks of a submitted operation -/

section Checks

variable {settings : Settings} {w : World}

theorem mem_of_get {key : String} {body : Body} (h : w.get key = some body) :
    (key, body) ∈ w.objects := Dict.mem_of_get? h

/-- An object of a run that keeps the kinds has the kind of the object that was
stored there. -/
theorem StoredSince.kind {key : String} {body : Body} (h : StoredSince KindsKept key body w)
    (hKind : body.kind ≠ .other) : ∃ body', w.get key = some body' ∧ body'.kind = body.kind := by
  obtain ⟨w₀, hGet, hSteps⟩ := h
  induction hSteps with
  | refl => exact ⟨body, hGet, rfl⟩
  | tail _ hStep ih =>
      obtain ⟨body', hGet', hEq⟩ := ih
      have hNext := hStep _ (mem_of_get hGet') (by rw [hEq]; exact hKind)
      obtain ⟨body'', hGet'', hEq'⟩ := Option.map_eq_some_iff.1 hNext
      exact ⟨body'', hGet'', hEq'.trans hEq⟩

theorem recordKey_ne_empty (orgId agentId operationId : String) :
    recordKey orgId agentId operationId ≠ "" := by
  intro h
  have hLength := congrArg String.length h
  simp only [recordKey, String.length_append, String.length_empty] at hLength
  have hSlash : "/".length = 1 := rfl
  omega

/-- The signature of a record verifies as it is read back. -/
theorem recordSigned_wire {db : Database} {rec : OperationRecord}
    (h : SignedBy db (rec.submission (shieldSdkCrypto settings.prim))) :
    RecordSigned (shieldSdkCrypto settings.prim) db rec.wire := by
  obtain ⟨key, hKey, hSigned⟩ := h
  refine ⟨key, hKey, ?_⟩
  rw [canonical_signable_wire]
  exact hSigned

/-- A receipt of the server carries the hash of its own fields. -/
theorem receiptHashed_stored (rec : OperationRecord) (receivedAt seqNo : Int)
    (receiptId : String) :
    ReceiptHashed (shieldSdkCrypto settings.prim)
      (storedReceipt settings rec receivedAt seqNo receiptId).modelDump :=
  ⟨(storedReceipt settings rec receivedAt seqNo receiptId).receiptFields, rfl, rfl⟩

theorem findOperation_of_mem (hIds : ∀ row ∈ w.db.operations, ∀ row' ∈ w.db.operations,
      row.operationId = row'.operationId → row = row') {row : OperationRow}
    (hRow : row ∈ w.db.operations) :
    w.db.findOperation row.operationId row.orgId = some row := by
  cases hFind : w.db.findOperation row.operationId row.orgId with
  | none =>
      have hNone := List.find?_eq_none.1 hFind row hRow
      simp at hNone
  | some row' =>
      obtain ⟨hRow', hId, -⟩ := Database.findOperation_mem hFind
      rw [hIds row' hRow' row hRow hId]

/-- A row of a linked chain continues the row before it. -/
theorem rowLinked_of_chain {db : Database} (hChain : ChainInvariant settings.prim db)
    {row : OperationRow} (hRow : row ∈ db.operations) : RowLinked db row := by
  intro _ p hFind
  have hProp := List.find?_some hFind
  simp only [decide_eq_true_eq] at hProp
  have hPrev := hChain.next p (List.mem_of_find?_eq_some hFind) row hRow hProp.1.symm (by omega)
  exact hPrev.symm

/-- What the stores hold for a submitted row passes the checks: signature, chain and receipt
one after the other. -/
theorem Recorded.checks (py : Pydantic) (hw : Recorded settings KindsKept w)
    (hChain : ChainInvariant settings.prim w.db) {rec : OperationRecord} {receivedAt seqNo : Int}
    {receiptId : String}
    (hRow : submittedRow settings rec receivedAt seqNo ∈ w.db.operations)
    (hReceiptRow : w.db.findReceipt rec.operationId = some (receiptRow rec receivedAt receiptId))
    (hStored : EnvelopeStored KindsKept rec w)
    (hReceipt : ReceiptStored settings KindsKept rec receivedAt seqNo receiptId w) :
    ∃ found ear, Checks py (shieldSdkCrypto settings.prim) w rec.operationId rec.orgId
      (submittedRow settings rec receivedAt seqNo) found ear := by
  obtain ⟨body, hBody, hKind⟩ := hStored.kind (by rw [kind_envelope]; decide)
  obtain ⟨found, rfl, hSigned⟩ :=
    (hw.written _ _ hBody).of_envelope (hKind.trans (kind_envelope rec))
  obtain ⟨ear, hEar, hEarKind⟩ := hReceipt.kind (by rw [kind_receipt]; decide)
  obtain ⟨rec', receivedAt', seqNo', receiptId', rfl⟩ :=
    (hw.written _ _ hEar).of_receipt (hEarKind.trans (kind_receipt _))
  refine ⟨found.wire, (storedReceipt settings rec' receivedAt' seqNo' receiptId').modelDump, ?_⟩
  exact {
    found := findOperation_of_mem hw.ids hRow
    record := ⟨_, found.modelDump.wire, rfl, recordKey_ne_empty _ _ _, hBody,
      modelValidateJson_modelDump py found⟩
    signed := recordSigned_wire hSigned
    hashed := (hChain.hashed _ hRow).symm
    linked := rowLinked_of_chain hChain hRow
    stored := ⟨_, hReceiptRow, hEar⟩
    receipt := receiptHashed_stored rec' receivedAt' seqNo' receiptId' }

/-- **A row verifies exactly when it was submitted.** -/
theorem Recorded.verified_iff (py : Pydantic) (hw : Recorded settings KindsKept w)
    (hChain : ChainInvariant settings.prim w.db) {row : OperationRow}
    (hRow : row ∈ w.db.operations) :
    Verified py (shieldSdkCrypto settings.prim) w row.operationId row.orgId ↔
      row.phase = none := by
  have hEvidence := hw.evidence row hRow
  generalize hReceipt : w.db.findReceipt row.operationId = receipt at hEvidence
  rw [Server.verified_iff]
  cases hEvidence with
  | submitted signed stored storedReceipt =>
      obtain ⟨found, ear, hChecks⟩ :=
        hw.checks py hChain hRow hReceipt stored storedReceipt
      exact ⟨fun _ => rfl, fun _ => ⟨_, found, ear, hChecks⟩⟩
  | governed signed stored =>
      constructor
      · rintro ⟨row', rec, ear, hChecks⟩
        -- No receipt was inserted for an action record.
        obtain ⟨r, hFind, -⟩ := hChecks.stored
        rw [hReceipt] at hFind
        cases hFind
      · intro hPhase
        cases hPhase

end Checks

/-! ## Runs -/

theorem recorded_initial (settings : Settings) (C : World → World → Prop) (now : Int)
    (agents : List Agent) (agentKeys : List AgentKey) :
    Recorded settings C (World.initial now agents agentKeys) where
  written key body h := by simp [World.get, World.initial] at h
  ids row hRow := by simp [World.initial] at hRow
  owners r hr := by simp [World.initial] at hr
  evidence row hRow := by simp [World.initial] at hRow

/-- **Run lemma.** Every state of a run whose steps satisfy `C`. -/
theorem served_recorded {settings : Settings} {C : World → World → Prop} {now : Int}
    {agents : List Agent} {agentKeys : List AgentKey}
    (events : List (Event (ingestService settings)))
    (hC : (Pool.start (World.initial now agents agentKeys)).Within C events) :
    Recorded settings C (served settings now agents agentKeys events).state :=
  Pool.run_inv (ingest_keeps settings C) (fun _ _ hw hEffect hC => hEffect.recorded hC hw)
    (Pool.allOk_start _) events hC (recorded_initial settings C now agents agentKeys)

/-- An accepted operation verifies exactly when it came through
`submitOperation`, which leaves the phase column unset. -/
def VerifiesSubmitted (settings : Settings) (py : Pydantic) (w : World) : Prop :=
  ∀ row ∈ w.db.operations,
    Verified py (shieldSdkCrypto settings.prim) w row.operationId row.orgId ↔ row.phase = none

/-- **Completeness of the verifier, with its exact scope.**  In every state of every run that
replaces no signed record and no receipt by an object of another kind, the accepted operations
that verify are those of `submitOperation`; `decide` and `record` write neither of the two
documents. -/
theorem verifyOperation_complete (settings : Settings) (py : Pydantic) (now : Int)
    (agents : List Agent) (agentKeys : List AgentKey)
    (events : List (Event (ingestService settings)))
    (hKinds : (Pool.start (World.initial now agents agentKeys)).Within KindsKept events) :
    VerifiesSubmitted settings py (served settings now agents agentKeys events).state := by
  intro row hRow
  have hChain := served_chained settings now agents agentKeys events
  exact (served_recorded events hKinds).verified_iff py hChain.invariant hRow

namespace Sample

/-- The hash of the payload of `action`. -/
def actionHash : String :=
  computeRecordPayloadHash settings.prim (action "" "" .postExec 1000 genesisChainHash "")

/-- A post-execution record as the only operation. -/
def recorded : List (Event (ingestService settings)) :=
  served (.record (action "op1" "n1" .postExec 1000 genesisChainHash actionHash)) 0 12

end Sample

set_option maxRecDepth 40000 in
theorem verifyOperation_complete_sample :
    VerifiesSubmitted Sample.settings Sample.pydantic
      (served Sample.settings 1000 Sample.agents Sample.agentKeys Sample.both).state :=
  verifyOperation_complete Sample.settings Sample.pydantic 1000 Sample.agents Sample.agentKeys
    Sample.both (by decide)

set_option maxRecDepth 40000 in
/-- **An accepted action record does not verify.** -/
theorem recorded_action_not_verified :
    ¬ ∀ (settings : Settings) (py : Pydantic) (now : Int) (agents : List Agent)
      (agentKeys : List AgentKey) (events : List (Event (ingestService settings))),
      ∀ row ∈ (served settings now agents agentKeys events).state.db.operations,
        Verified py (shieldSdkCrypto settings.prim)
          (served settings now agents agentKeys events).state row.operationId row.orgId := by
  intro h
  have hRows : ∀ row ∈ (served Sample.settings 1000 Sample.agents Sample.agentKeys
      Sample.recorded).state.db.operations, row.operationId = "op1" ∧ row.orgId = "o" := by
    decide
  have hOne : (served Sample.settings 1000 Sample.agents Sample.agentKeys
      Sample.recorded).state.db.operations ≠ [] := by
    decide
  obtain ⟨row, hRow⟩ := List.exists_mem_of_ne_nil _ hOne
  have hVerified := h Sample.settings Sample.pydantic 1000 Sample.agents Sample.agentKeys
    Sample.recorded row hRow
  obtain ⟨hId, hOrg⟩ := hRows row hRow
  rw [hId, hOrg] at hVerified
  have hRefused : ¬ Verified Sample.pydantic (shieldSdkCrypto Sample.settings.prim)
      (served Sample.settings 1000 Sample.agents Sample.agentKeys Sample.recorded).state
      "op1" "o" := by
    decide
  exact hRefused hVerified

end AgentShield.Server
