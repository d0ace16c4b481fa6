import AgentShield.Server.Governance

/-!
# What one step of the ingest can do

Every atomic step of every ingest handler is one of the effects below, with all
that is known when it is taken (`ingest_keeps`).  In particular a row is only
inserted when it extends the chain of its agent, its nonce is reserved, its
record was signed under a key of the agent, and its record and receipt were
stored before.

Whether an object is still what was stored depends on the steps in between, so
the effects carry a relation `C` that every step of the run satisfies: an object
was stored some `C`-steps ago (`StoredSince`).  With the relation that is always
true the effects are those of every run.
-/

namespace AgentShield.Server

open AgentShield.Lib AgentShield.Lib.Async AgentShield.Sdk

/-! ## What is known before an insert -/

/-- A record with these values continues the chain of its agent. -/
def Extends (db : Database) (agentId prevChainHash : String) (seqNo : Int) : Prop :=
  (seqNo = 1 ∧ prevChainHash = genesisChainHash) ∨
    ∃ p ∈ db.operations, p.agentId = agentId ∧ p.seqNo + 1 = seqNo ∧
      p.chainHash = prevChainHash

/-- The nonce under `key` cannot be reserved again while the clock is at most
`expires`. -/
def NonceHeld (w : World) (key : String) (expires : Int) : Prop :=
  expires < w.clock ∨
    ∃ value e, Dict.get? w.cache.store key = some (value, some e) ∧ expires ≤ e

/-- The reservation of a nonce for a lifetime of `ttlMs` lasts at least until then, if
the record was received in the millisecond `receivedAt`. -/
def reservedUntil (receivedAt ttlMs : Int) : Int :=
  receivedAt * 1000000 + lifetime (nonceTtl ttlMs)

/-- The signature verifies under the agent's registered key. -/
def SignedBy (db : Database) (sub : Submission) : Prop :=
  ∃ key, db.findAgentKey sub.agentPubkeyKid sub.agentId = some key ∧
    sub.signedBy key.publicKey = true

/-- What the checks of a submission leave behind: it extends its agent's chain, its nonce is
reserved for its lifetime, and its signature has been verified under a key of the agent. -/
structure Admits (sub : Submission) (receivedAt seqNo : Int) (w : World) : Prop where
  extend : Extends w.db sub.agentId sub.prevChainHash seqNo
  reserved : NonceHeld w (nonceKey sub.orgId sub.nonce)
    (reservedUntil receivedAt sub.ttlMs)
  signed : SignedBy w.db sub

/-- `body` was stored under `key`, and only `C`-steps were taken since. -/
def StoredSince (C : World → World → Prop) (key : String) (body : Body) (w : World) : Prop :=
  ∃ w₀, w₀.get key = some body ∧ Relation.ReflTransGen C w₀ w

/-- What a key holds now has been stored. -/
theorem StoredSince.now {C : World → World → Prop} {key : String} {body : Body} {w : World}
    (h : w.get key = some body) : StoredSince C key body w := ⟨w, h, .refl⟩

/-- What has been stored since stays so after any further step of the kind `C`. -/
theorem StoredSince.step {C : World → World → Prop} {key : String} {body : Body} {w w' : World}
    (h : StoredSince C key body w) (hC : C w w') : StoredSince C key body w' := by
  obtain ⟨w₀, hGet, hSteps⟩ := h
  exact ⟨w₀, hGet, hSteps.tail hC⟩

section Effects

variable (settings : Settings) (C : World → World → Prop)

/-- The receipt of an operation as the server stores it. -/
def storedReceipt (rec : OperationRecord) (receivedAt seqNo : Int) (receiptId : String) : EAR :=
  signReceipt (shieldSdkCrypto settings.prim) settings.serverSigningKey
    (unsignedReceipt (shieldSdkCrypto settings.prim) rec receivedAt seqNo receiptId)

/-- The row that a submission stores, for the time it was received and its sequence number. -/
def submittedRow (rec : OperationRecord) (receivedAt seqNo : Int) : OperationRow :=
  operationRow settings.prim.toFloatText (shieldSdkCrypto settings.prim) rec receivedAt seqNo

/-- The row that a governance record stores. -/
def governedRow (rec : ShieldActionRecord) (receivedAt seqNo : Int) : OperationRow :=
  operationsInsert settings.prim rec seqNo
    (deriveChainHash settings.prim rec.prevChainHash rec) receivedAt

/-- What the routes write to the object store, with the key under which it is found: a record,
its receipt, an action record or a verdict. -/
inductive Written (db : Database) : String → Body → Prop where
  | envelope {rec : OperationRecord}
      (signed : SignedBy db (rec.submission (shieldSdkCrypto settings.prim))) :
      Written db (recordKey rec.orgId rec.agentId rec.operationId) (.ofJson rec.modelDump)
  | receipt (rec : OperationRecord) (receivedAt seqNo : Int) (receiptId : String) :
      Written db (receiptKey rec.orgId rec.agentId rec.operationId)
        (.ofJson (storedReceipt settings rec receivedAt seqNo receiptId).modelDump)
  | action (rec : ShieldActionRecord) :
      Written db (recordKey rec.orgId rec.agentId rec.recordId) (.ofJson (rec.modelDump false))
  | verdict (orgId agentId : String) (v : GovernanceVerdict) :
      Written db (verdictObjectKey orgId agentId v.verdictId) (.ofJson (v.modelDump false))

/-- The signed operation record was stored, and only `C`-steps were taken since. -/
def EnvelopeStored (rec : OperationRecord) : World → Prop :=
  StoredSince C (recordKey rec.orgId rec.agentId rec.operationId) (.ofJson rec.modelDump)

/-- The receipt of a submission has been put under its key. -/
def ReceiptStored (rec : OperationRecord) (receivedAt seqNo : Int) (receiptId : String) :
    World → Prop :=
  StoredSince C (receiptKey rec.orgId rec.agentId rec.operationId)
    (.ofJson (storedReceipt settings rec receivedAt seqNo receiptId).modelDump)

/-- The object of a governance record has been put under its key. -/
def ActionStored (rec : ShieldActionRecord) : World → Prop :=
  StoredSince C (recordKey rec.orgId rec.agentId rec.recordId) (.ofJson (rec.modelDump false))

/-- Where a row comes from, with the receipt row that came with it, and what the
stores hold for it. -/
inductive Evidence (w : World) : OperationRow → Option ReceiptRow → Prop where
  | submitted {rec : OperationRecord} {receivedAt seqNo : Int} {receiptId : String}
      (signed : SignedBy w.db (rec.submission (shieldSdkCrypto settings.prim)))
      (stored : EnvelopeStored C rec w)
      (receipt : ReceiptStored settings C rec receivedAt seqNo receiptId w) :
      Evidence w (submittedRow settings rec receivedAt seqNo)
        (some (receiptRow rec receivedAt receiptId))
  | governed {rec : ShieldActionRecord} {receivedAt seqNo : Int}
      (signed : SignedBy w.db (recordSubmission settings.prim rec))
      (stored : ActionStored C rec w) :
      Evidence w (governedRow settings rec receivedAt seqNo) none

/-- What is known when a row is inserted: ids and the sequence number are new, the chain is
extended, the nonce is held and the evidence lies in the object store. -/
structure Accepts (w : World) (row : OperationRow) (receipt : Option ReceiptRow) : Prop where
  freshId : ∀ r ∈ w.db.operations, r.operationId ≠ row.operationId
  freshSeq : ∀ r ∈ w.db.operations, ¬ (r.agentId = row.agentId ∧ r.seqNo = row.seqNo)
  freshReceipt : ∀ r ∈ receipt, ∀ r' ∈ w.db.receipts, r'.operationId ≠ r.operationId
  extend : Extends w.db row.agentId row.prevChainHash row.seqNo
  reserved : NonceHeld w (nonceKey row.orgId row.nonce)
    (reservedUntil row.createdAt row.ttlMs)
  evidence : Evidence settings C w row receipt

/-- One atomic step of the ingest service.  Only `accept` touches the tables, and it adds the
row with its receipt, verdicts and interventions in one transaction. -/
inductive Effect : World → World → Prop where
  | rest (w : World) : Effect w w
  | tick (w : World) (ns : Nat) : Effect w (w.tick ns)
  | reserve (w : World) (sub : Submission)
      (dead : w.cache.live w.clock (nonceKey sub.orgId sub.nonce) = none) :
      Effect w (w.setIfAbsent (nonceKey sub.orgId sub.nonce) "1" (nonceTtl sub.ttlMs)).1
  | store (w : World) {key : String} {body : Body} (written : Written settings w.db key body) :
      Effect w (w.put key body)
  | accept (w : World) {row : OperationRow} {receipt : Option ReceiptRow}
      (accepts : Accepts settings C w row receipt)
      (verdicts : List GovernanceVerdictRow) (log : List InterventionRow) :
      Effect w { w with db := { w.db with
        operations := w.db.operations ++ [row]
        receipts := w.db.receipts ++ receipt.toList
        governanceVerdicts := w.db.governanceVerdicts ++ verdicts
        interventionLog := w.db.interventionLog ++ log } }
  | hint (w : World) (agentId chainHash : String) :
      Effect w (w.cacheSet (chainHintKey agentId) chainHash)
  | channel (w : World) (cache : Cache) (same : cache.store = w.cache.store) :
      Effect w { w with cache := cache }

/-- The specification of a handler of the service. -/
abbrev Runs {α : Type} (Q : Except Failure α → World → Prop) (prog : Handler α)
    (P : World → Prop) : Prop :=
  Sat (fun w w' => Effect settings C w w' ∧ C w w') C
    (Effect settings C) Q prog P

/-- An assertion that the steps of the others keep. -/
abbrev Steady (P : World → Prop) : Prop :=
  Stable (fun w w' => Effect settings C w w' ∧ C w w') P

end Effects

section Steady

variable {settings : Settings} {C : World → World → Prop}

namespace Effect

variable {w w' : World}

/-- No effect sets the clock back. -/
theorem clock_le (h : Effect settings C w w') : w.clock ≤ w'.clock := by
  cases h with
  | tick ns => exact w.clock_tick ns
  | _ => exact Int.le_refl w.clock

theorem now_le (h : Effect settings C w w') : w.now ≤ w'.now := World.now_mono h.clock_le

/-- The ingest leaves the keys of the agents alone. -/
theorem agentKeys_eq (h : Effect settings C w w') : w'.db.agentKeys = w.db.agentKeys := by
  cases h <;> rfl

/-- Rows are only ever added at the end. -/
theorem operations_append (h : Effect settings C w w') :
    ∃ rows, w'.db.operations = w.db.operations ++ rows := by
  cases h with
  | accept => exact ⟨_, rfl⟩
  | _ => exact ⟨[], (List.append_nil _).symm⟩

/-- The ingest takes no operation away. -/
theorem mem_operations (h : Effect settings C w w') {r : OperationRow}
    (hr : r ∈ w.db.operations) : r ∈ w'.db.operations := by
  obtain ⟨rows, hRows⟩ := h.operations_append
  rw [hRows]
  exact List.mem_append_left rows hr

end Effect

/-- The hint of a chain never overwrites a nonce: their keys start differently. -/
theorem nonceKey_ne_chainHintKey (orgId nonce agentId : String) :
    nonceKey orgId nonce ≠ chainHintKey agentId := by
  intro h
  have hHead := congrArg (fun s => s.toList.head?) h
  simp [nonceKey, chainHintKey] at hHead

/-- A key reads nothing exactly when it has no entry, or one that has run out. -/
theorem live_none_iff {c : Cache} {clock : Int} {key : String} :
    c.live clock key = none ↔
      ∀ value e, Dict.get? c.store key = some (value, e) → ∃ t, e = some t ∧ t < clock := by
  unfold Cache.live
  cases h : Dict.get? c.store key with
  | none => simp
  | some entry =>
      obtain ⟨value, e⟩ := entry
      cases e with
      | none => simp
      | some t => by_cases ht : t < clock <;> simp [ht]

/-- A held nonce is live, so that it is not reserved again. -/
theorem NonceHeld.live {w : World} {key : String} {expires : Int}
    (h : NonceHeld w key expires) (hNow : w.clock ≤ expires) :
    w.cache.live w.clock key ≠ none := by
  intro hLive
  rcases h with hPast | ⟨value, e, hGet, hLe⟩
  · omega
  · obtain ⟨t, ht, hlt⟩ := live_none_iff.1 hLive value (some e) hGet
    obtain rfl : e = t := by simpa using ht
    omega

/-- **A reservation lasts until it expires**, whatever the other handlers do: a reservation of
the same key is only made when the entry is dead. -/
theorem steady_nonceHeld (orgId nonce : String) (expires : Int) :
    Steady settings C fun w => NonceHeld w (nonceKey orgId nonce) expires := by
  rintro w w' ⟨hEffect, -⟩ hHeld
  rcases hHeld with hPast | ⟨value, e, hGet, hLe⟩
  · exact .inl (Int.lt_of_lt_of_le hPast hEffect.clock_le)
  · cases hEffect with
    | reserve sub dead =>
        by_cases hKey : nonceKey sub.orgId sub.nonce = nonceKey orgId nonce
        · -- The entry was dead, so the reservation had already expired.
          rw [hKey] at dead
          obtain ⟨t, ht, hlt⟩ := live_none_iff.1 dead value (some e) hGet
          obtain rfl : e = t := by simpa using ht
          refine .inl ?_
          show expires < w.clock
          omega
        · refine .inr ⟨value, e, ?_, hLe⟩
          simp only [World.setIfAbsent, Cache.setIfAbsent, dead]
          rw [Dict.get?_set_ne _ _ hKey]
          exact hGet
    | hint agentId chainHash =>
        refine .inr ⟨value, e, ?_, hLe⟩
        simp only [World.cacheSet, Cache.set]
        rw [Dict.get?_set_ne _ _ (nonceKey_ne_chainHintKey orgId nonce agentId).symm]
        exact hGet
    | channel cache same => exact .inr ⟨value, e, by rw [same]; exact hGet, hLe⟩
    | rest => exact .inr ⟨value, e, hGet, hLe⟩
    | tick => exact .inr ⟨value, e, hGet, hLe⟩
    | store => exact .inr ⟨value, e, hGet, hLe⟩
    | accept => exact .inr ⟨value, e, hGet, hLe⟩

/-- A record that extends its chain does so with more operations, too. -/
theorem Extends.mono {db db' : Database} {agentId prev : String} {seqNo : Int}
    (h : Extends db agentId prev seqNo)
    (hMem : ∀ r ∈ db.operations, r ∈ db'.operations) : Extends db' agentId prev seqNo := by
  rcases h with h | ⟨p, hp, h⟩
  · exact .inl h
  · exact .inr ⟨p, hMem p hp, h⟩

theorem SignedBy.congr {db db' : Database} {sub : Submission} (h : SignedBy db sub)
    (hKeys : db'.agentKeys = db.agentKeys) : SignedBy db' sub := by
  unfold SignedBy Database.findAgentKey at h ⊢
  rwa [hKeys]

/-- An admission stays good while others run, since what it rests on is never taken away. -/
theorem steady_admits (sub : Submission) (receivedAt seqNo : Int) :
    Steady settings C (Admits sub receivedAt seqNo) := by
  rintro w w' ⟨hEffect, hC⟩ ⟨hExtend, hReserved, hSigned⟩
  exact {
    extend := hExtend.mono fun r hr => hEffect.mem_operations hr
    reserved := steady_nonceHeld _ _ _ w w' ⟨hEffect, hC⟩ hReserved
    signed := hSigned.congr hEffect.agentKeys_eq }

theorem steady_findAgentKey (kid agentId : String) (found : Option AgentKey) :
    Steady settings C fun w => w.db.findAgentKey kid agentId = found := by
  rintro w w' ⟨hEffect, -⟩ hFound
  unfold Database.findAgentKey at hFound ⊢
  rwa [hEffect.agentKeys_eq]

theorem steady_now_le (t : Int) : Steady settings C fun w => t ≤ w.now :=
  fun _ _ h hNow => Int.le_trans hNow h.1.now_le

theorem steady_true : Steady settings C fun _ => True := stable_const _ True

/-- What has been stored stays known while others run. -/
theorem steady_stored (key : String) (body : Body) :
    Steady settings C (StoredSince C key body) :=
  fun _ _ h hStored => hStored.step h.2

theorem Evidence.mono {w w' : World} {row : OperationRow} {receipt : Option ReceiptRow}
    (h : Evidence settings C w row receipt) (hKeys : w'.db.agentKeys = w.db.agentKeys)
    (hC : C w w') : Evidence settings C w' row receipt := by
  cases h with
  | submitted signed stored receipt =>
      exact .submitted (signed.congr hKeys)
        (stored.step hC) (receipt.step hC)
  | governed signed stored => exact .governed (signed.congr hKeys) (stored.step hC)

end Steady

/-! ## Every handler keeps to the effects -/

section Handlers

variable {settings : Settings} {C : World → World → Prop}

private theorem sat_read {α β : Type} {Q : Except Failure β → World → Prop}
    {P : World → Prop} {f : World → α} {next : α → Handler β}
    (hP : Steady settings C P)
    (h : ∀ a, Runs settings C Q (next a) P) : Runs settings C Q (read f >>= next) P :=
  Sat.read_bind Effect.rest fun _ hs => ⟨P, hP, hs, h _⟩

/-- A read whose value keeps a relation `F` to every later state. -/
private theorem sat_read_keep {α β : Type} {Q : Except Failure β → World → Prop}
    {P : World → Prop} {F : α → World → Prop} {f : World → α} {next : α → Handler β}
    (hP : Steady settings C P) (hF : ∀ a, Steady settings C (F a))
    (hNow : ∀ w, P w → F (f w) w)
    (h : ∀ a, Runs settings C Q (next a) fun w => P w ∧ F a w) :
    Runs settings C Q (read f >>= next) P :=
  Sat.read_bind Effect.rest fun w hs =>
    ⟨fun w' => P w' ∧ F (f w) w', hP.and (hF (f w)), ⟨hs, hNow w hs⟩, h (f w)⟩

/-- The expected hash and the next number are those of the latest operation of the chain. -/
theorem extends_latest (db : Database) (agentId : String) :
    Extends db agentId (expectedPrev (db.latestOperation agentId))
      (nextSeq (db.latestOperation agentId)) := by
  cases h : db.latestOperation agentId with
  | none => exact .inl ⟨rfl, rfl⟩
  | some p =>
      obtain ⟨hp, hAgent⟩ := Database.latestOperation_mem h
      exact .inr ⟨p, hp, hAgent, rfl, rfl⟩

/-- Reserving a nonce is a step of the service, and a nonce that was free is held
afterwards. -/
private theorem reserve_effect (w : World) (sub : Submission) :
    Effect settings C w
      (w.setIfAbsent (nonceKey sub.orgId sub.nonce) "1" (nonceTtl sub.ttlMs)).1 := by
  cases hLive : w.cache.live w.clock (nonceKey sub.orgId sub.nonce) with
  | none => exact .reserve w sub hLive
  | some value =>
      have hSame : (w.setIfAbsent (nonceKey sub.orgId sub.nonce) "1" (nonceTtl sub.ttlMs)).1
          = w := by
        simp [World.setIfAbsent, Cache.setIfAbsent, hLive]
      rw [hSame]
      exact .rest w

private theorem reserve_held {w : World} {sub : Submission} {receivedAt : Int}
    (hNow : receivedAt ≤ w.now)
    (hFresh : (w.setIfAbsent (nonceKey sub.orgId sub.nonce) "1" (nonceTtl sub.ttlMs)).2
      = true) :
    NonceHeld (w.setIfAbsent (nonceKey sub.orgId sub.nonce) "1" (nonceTtl sub.ttlMs)).1
      (nonceKey sub.orgId sub.nonce) (reservedUntil receivedAt sub.ttlMs) := by
  cases hLive : w.cache.live w.clock (nonceKey sub.orgId sub.nonce) with
  | none =>
      have hClock : receivedAt * 1000000 ≤ w.clock := by
        have hStart := w.now_bounds.1
        omega
      refine .inr ⟨"1", w.clock + lifetime (nonceTtl sub.ttlMs), ?_,
        Int.add_le_add_right hClock _⟩
      simp [World.setIfAbsent, Cache.setIfAbsent, hLive]
  | some value => simp [World.setIfAbsent, Cache.setIfAbsent, hLive] at hFresh

/-- **The checks of a submission** take only steps of the service and leave what
`Admits` says. -/
theorem admitSubmission_runs (sub : Submission) (receivedAt : Int) :
    Runs settings C (fun r w => ∀ seqNo, r = .ok seqNo → Admits sub receivedAt seqNo w)
      (admitSubmission sub) fun w => receivedAt ≤ w.now := by
  unfold admitSubmission
  refine Sat.act_bind fun w hNow => ⟨reserve_effect w sub, fun _ => ?_⟩
  by_cases hFresh :
      (w.setIfAbsent (nonceKey sub.orgId sub.nonce) "1" (nonceTtl sub.ttlMs)).2 = true
  · refine ⟨_, steady_nonceHeld sub.orgId sub.nonce (reservedUntil receivedAt sub.ttlMs),
      reserve_held hNow hFresh, ?_⟩
    refine Sat.raiseIf_bind (fun h => by simp [hFresh] at h) fun _ => ?_
    refine sat_read (steady_nonceHeld _ _ _) fun found => ?_
    refine Sat.require_bind (fun _ _ _ _ h => by cases h) fun agent _ => ?_
    refine Sat.ofExcept_bind (fun _ _ _ _ _ h => by cases h) fun _ _ => ?_
    -- The key that is found now is the agent's key from here on.
    refine sat_read_keep (F := fun found w =>
        w.db.findAgentKey sub.agentPubkeyKid sub.agentId = found)
      (steady_nonceHeld _ _ _) (steady_findAgentKey _ _) (fun _ _ => rfl)
      fun foundKey => ?_
    refine Sat.require_bind (fun _ _ _ _ h => by cases h) fun key hKey => ?_
    refine Sat.ofExcept_bind (fun _ _ _ _ _ h => by cases h) fun _ _ => ?_
    refine Sat.raiseIf_bind (fun _ _ _ _ h => by cases h) fun hSigned => ?_
    -- The row that is the latest now stays in the table.
    refine Sat.read_bind Effect.rest fun w hw =>
      ⟨fun w' => (NonceHeld w' (nonceKey sub.orgId sub.nonce)
          (reservedUntil receivedAt sub.ttlMs) ∧ SignedBy w'.db sub) ∧
        Extends w'.db sub.agentId (expectedPrev (w.db.latestOperation sub.agentId))
          (nextSeq (w.db.latestOperation sub.agentId)), ?_, ?_, ?_⟩
    · refine ((steady_nonceHeld _ _ _).and ?_).and ?_
      · exact fun _ _ h hBy => hBy.congr h.1.agentKeys_eq
      · exact fun _ _ h hExtend => hExtend.mono fun r hr => h.1.mem_operations hr
    · refine ⟨⟨hw.1, key, ?_, by simpa using hSigned⟩, extends_latest w.db sub.agentId⟩
      rw [hw.2, hKey]
    · refine Sat.raiseIf_bind (fun _ _ _ _ h => by cases h) fun hPrev => ?_
      refine Sat.pure fun w' hw' seqNo hSeq => ?_
      obtain rfl : nextSeq (w.db.latestOperation sub.agentId) = seqNo := by
        simpa using hSeq
      have hEq : sub.prevChainHash = expectedPrev (w.db.latestOperation sub.agentId) := by
        simpa using hPrev
      exact { extend := by rw [hEq]; exact hw'.2
              reserved := hw'.1.1
              signed := hw'.1.2 }
  · refine ⟨fun _ => True, steady_true, trivial, ?_⟩
    refine Sat.raiseIf_bind (fun _ _ _ _ h => by cases h) fun h => ?_
    simp [hFresh] at h

/-- A step that only writes, and after which `P` still holds. -/
private theorem sat_write {β : Type} {Q : Except Failure β → World → Prop}
    {P P' : World → Prop} {f : World → World} {next : Unit → Handler β}
    (hP' : Steady settings C P') (hEffect : ∀ w, P w → Effect settings C w (f w))
    (hKeep : ∀ w, P w → C w (f w) → P' (f w))
    (h : Runs settings C Q (next ()) P') : Runs settings C Q (write f >>= next) P :=
  Sat.write_bind hEffect fun w hw hC => ⟨P', hP', hKeep w hw hC, h⟩

/-- Storing an object keeps every steady assertion, and the object was stored. -/
private theorem sat_put {β : Type} {Q : Except Failure β → World → Prop}
    {P : World → Prop} {key : String} {body : Body} {next : Unit → Handler β}
    (hP : Steady settings C P) (hWritten : ∀ w, P w → Written settings w.db key body)
    (h : Runs settings C Q (next ()) fun w => P w ∧ StoredSince C key body w) :
    Runs settings C Q (write (fun w => w.put key body) >>= next) P :=
  sat_write (hP.and (steady_stored key body)) (fun w hw => .store w (hWritten w hw))
    (fun w hw hC => ⟨hP w _ ⟨.store w (hWritten w hw), hC⟩ hw,
      .now (World.get_put_self w key body)⟩)
    h

private theorem sat_attempt_last {β : Type} {P : World → Prop}
    {f : World → Except Failure World} {next : Unit → Handler β}
    (hOk : ∀ w w', P w → f w = .ok w' → Effect settings C w w')
    (h : Runs settings C (fun _ _ => True) (next ()) fun _ => True) :
    Runs settings C (fun _ _ => True) (attempt f >>= next) P :=
  Sat.attempt_bind Effect.rest
    (fun w w' hw hf => ⟨hOk w w' hw hf, fun _ => ⟨_, steady_true, trivial, h⟩⟩)
    fun _ _ _ _ => ⟨_, steady_true, trivial, fun _ _ => trivial⟩

/-- The transaction of a submitted operation inserts its row and its receipt, and is the step
that accepts it. -/
private theorem submit_transaction {w w' : World} {rec : OperationRecord}
    {receivedAt seqNo : Int} {receiptId : String}
    (hAdmits : Admits (rec.submission (shieldSdkCrypto settings.prim)) receivedAt seqNo w)
    (hRecord : EnvelopeStored C rec w)
    (hReceipt : ReceiptStored settings C rec receivedAt seqNo receiptId w)
    (hTx : w.transaction [.insertOperation (submittedRow settings rec receivedAt seqNo),
      .insertReceipt (receiptRow rec receivedAt receiptId)] = .ok w') :
    Effect settings C w w' := by
  obtain ⟨db, hDb, rfl⟩ := World.transaction_ok hTx
  obtain ⟨hId, hSeq, hFresh, rfl⟩ := Database.transaction_receipt hDb
  have hAccepts : Accepts settings C w (submittedRow settings rec receivedAt seqNo)
      (some (receiptRow rec receivedAt receiptId)) :=
    { freshId := hId
      freshSeq := hSeq
      freshReceipt := by
        rintro r hr
        obtain rfl : receiptRow rec receivedAt receiptId = r := by simpa using hr
        exact hFresh
      extend := hAdmits.extend
      reserved := hAdmits.reserved
      evidence := .submitted hAdmits.signed hRecord hReceipt }
  have hEffect := Effect.accept w hAccepts [] []
  simp only [List.append_nil] at hEffect
  exact hEffect

/-- A new row of an action record comes without a receipt. -/
private theorem governed_accepts {w : World} {rec : ShieldActionRecord}
    {receivedAt seqNo : Int}
    (hAdmits : Admits (recordSubmission settings.prim rec) receivedAt seqNo w)
    (hRecord : ActionStored C rec w)
    (hId : ∀ r ∈ w.db.operations,
      r.operationId ≠ (governedRow settings rec receivedAt seqNo).operationId)
    (hSeq : ∀ r ∈ w.db.operations,
      ¬ (r.agentId = (governedRow settings rec receivedAt seqNo).agentId ∧
        r.seqNo = (governedRow settings rec receivedAt seqNo).seqNo)) :
    Accepts settings C w (governedRow settings rec receivedAt seqNo) none where
  freshId := hId
  freshSeq := hSeq
  freshReceipt := by simp
  extend := hAdmits.extend
  reserved := hAdmits.reserved
  evidence := .governed hAdmits.signed hRecord

private theorem decide_transaction {w w' : World} {rec : ShieldActionRecord}
    {receivedAt seqNo : Int} {verdictRow : GovernanceVerdictRow} {logRow : InterventionRow}
    (hAdmits : Admits (recordSubmission settings.prim rec) receivedAt seqNo w)
    (hRecord : ActionStored C rec w)
    (hTx : w.transaction [.insertOperation (governedRow settings rec receivedAt seqNo),
      .insertGovernanceVerdict verdictRow, .insertInterventionLog logRow] = .ok w') :
    Effect settings C w w' := by
  obtain ⟨db, hDb, rfl⟩ := World.transaction_ok hTx
  obtain ⟨hId, hSeq, -, rfl⟩ := Database.transaction_decision hDb
  have hAccepts := governed_accepts hAdmits hRecord hId hSeq
  have hEffect := Effect.accept w hAccepts [verdictRow] [logRow]
  simp only [Option.toList_none, List.append_nil] at hEffect
  exact hEffect

private theorem record_transaction {w w' : World} {rec : ShieldActionRecord}
    {receivedAt seqNo : Int}
    (hAdmits : Admits (recordSubmission settings.prim rec) receivedAt seqNo w)
    (hRecord : ActionStored C rec w)
    (hTx : w.transaction [.insertOperation (governedRow settings rec receivedAt seqNo)] =
      .ok w') :
    Effect settings C w w' := by
  obtain ⟨db, hDb, rfl⟩ := World.transaction_ok hTx
  obtain ⟨hId, hSeq, rfl⟩ := Database.transaction_operation hDb
  have hAccepts := governed_accepts hAdmits hRecord hId hSeq
  have hEffect := Effect.accept w hAccepts [] []
  simp only [Option.toList_none, List.append_nil] at hEffect
  exact hEffect

/-- Every step of a submission is one of the effects that the ingest may have. -/
theorem submitOperation_runs (rec : OperationRecord) (receiptId : String) :
    Runs settings C (fun _ _ => True)
      (submitOperation settings.prim.toFloatText (shieldSdkCrypto settings.prim)
        settings.serverSigningKey rec receiptId) fun _ => True := by
  unfold submitOperation
  refine Sat.read_bind Effect.rest fun w _ =>
    ⟨fun w' => w.now ≤ w'.now, steady_now_le w.now, Int.le_refl w.now, ?_⟩
  refine Sat.ofExcept_bind (fun _ _ _ _ => trivial) fun _ _ => ?_
  refine Sat.bind (S := fun seqNo w' =>
    Admits (rec.submission (shieldSdkCrypto settings.prim)) w.now seqNo w')
    ((admitSubmission_runs _ w.now).post fun r w' h => ?_) fun seqNo => ?_
  · cases r with
    | ok seqNo => exact h seqNo rfl
    | error e => trivial
  refine sat_put (steady_admits _ _ _) (fun _ hw => .envelope hw.signed) ?_
  refine sat_put ((steady_admits _ _ _).and (steady_stored _ _))
    (fun _ _ => .receipt rec _ _ receiptId) ?_
  refine sat_attempt_last (fun w₁ w₂ h hTx => ?_) ?_
  · exact submit_transaction h.1.1 h.1.2 h.2 hTx
  · refine sat_write steady_true (fun w' _ => .hint w' _ _) (fun _ _ _ => trivial) ?_
    exact Sat.pure fun _ _ => trivial

/-- So is every step of what decide and record share, and it hands on the chain hash and the
number that were admitted. -/
theorem ingestPrefix_runs (rec : ShieldActionRecord) (receivedAt : Int) (phase : Phase) :
    Runs settings C (fun r w => ∀ chainHash seqNo, r = .ok (chainHash, seqNo) →
        chainHash = deriveChainHash settings.prim rec.prevChainHash rec ∧
        Admits (recordSubmission settings.prim rec) receivedAt seqNo w ∧
        ActionStored C rec w)
      (ingestPrefix settings.prim rec receivedAt phase) fun w => receivedAt ≤ w.now := by
  unfold ingestPrefix
  refine Sat.ofExcept_bind (fun _ _ _ _ _ _ h => by cases h) fun _ _ => ?_
  refine Sat.bind (S := fun seqNo w =>
    Admits (recordSubmission settings.prim rec) receivedAt seqNo w)
    ((admitSubmission_runs _ receivedAt).post fun r w h => ?_) fun seqNo => ?_
  · cases r with
    | ok seqNo => exact h seqNo rfl
    | error e => exact fun _ _ h => by cases h
  refine sat_put (steady_admits _ _ _) (fun _ _ => .action rec) ?_
  refine Sat.pure fun w hw chainHash seqNo' h => ?_
  obtain ⟨rfl, rfl⟩ : deriveChainHash settings.prim rec.prevChainHash rec = chainHash ∧
      seqNo = seqNo' := by simpa using h
  exact ⟨rfl, hw⟩

private theorem ensureGroups_runs {β : Type} (stream : String) (groups : List String)
    {next : Unit → Handler β}
    (h : Runs settings C (fun _ _ => True) (next ()) fun _ => True) :
    Runs settings C (fun _ _ => True) (ensureGroups stream groups >>= next)
      fun _ => True := by
  induction groups with
  | nil => exact h
  | cons group groups ih =>
      simp only [ensureGroups, bind_assoc']
      exact sat_write steady_true (fun w _ => .channel w _ rfl) (fun _ _ _ => trivial) ih

theorem fanChannel2_runs (rec : ShieldActionRecord) (chainHash : String) (seqNo : Int)
    (verdictId : String) :
    Runs settings C (fun _ _ => True)
      (fanChannel2 settings.prim rec chainHash seqNo verdictId) fun _ => True := by
  unfold fanChannel2
  refine ensureGroups_runs _ _ ?_
  refine sat_write steady_true (fun w _ => .channel w _ rfl) (fun _ _ _ => trivial) ?_
  exact fun w _ => ⟨.hint w _ _, fun _ => ⟨_, steady_true, trivial, fun _ _ => trivial⟩⟩

theorem fanVerdicts_runs (rec : ShieldActionRecord) (verdict : GovernanceVerdict) :
    Runs settings C (fun _ _ => True) (fanVerdicts settings.prim rec verdict)
      fun _ => True := by
  unfold fanVerdicts
  refine ensureGroups_runs _ _ ?_
  exact fun w _ =>
    ⟨.channel w _ rfl, fun _ => ⟨_, steady_true, trivial, fun _ _ => trivial⟩⟩

private theorem sat_then {α β : Type} {prog : Handler α} {next : α → Handler β}
    (h : Runs settings C (fun _ _ => True) prog fun _ => True)
    (hNext : ∀ a, Runs settings C (fun _ _ => True) (next a) fun _ => True) :
    Runs settings C (fun _ _ => True) (prog >>= next) fun _ => True :=
  Sat.bind (S := fun _ _ => True)
    (h.post fun r _ _ => by cases r <;> trivial) hNext

/-- The shared prefix, and what the rest of either route may rely on. -/
private theorem prefix_bind {β : Type} {rec : ShieldActionRecord} {receivedAt : Int}
    {phase : Phase} {next : String × Int → Handler β}
    (h : ∀ seqNo, Runs settings C (fun _ _ => True)
      (next (deriveChainHash settings.prim rec.prevChainHash rec, seqNo)) fun w =>
        Admits (recordSubmission settings.prim rec) receivedAt seqNo w ∧
        ActionStored C rec w) :
    Runs settings C (fun _ _ => True)
      (ingestPrefix settings.prim rec receivedAt phase >>= next)
      fun w => receivedAt ≤ w.now := by
  refine Sat.bind (S := fun r w =>
    r.1 = deriveChainHash settings.prim rec.prevChainHash rec ∧
    Admits (recordSubmission settings.prim rec) receivedAt r.2 w ∧
    ActionStored C rec w)
    ((ingestPrefix_runs rec receivedAt phase).post fun r w hr => ?_) fun r => ?_
  · cases r with
    | ok r => exact hr r.1 r.2 rfl
    | error e => trivial
  · obtain ⟨chainHash, seqNo⟩ := r
    by_cases hEq : chainHash = deriveChainHash settings.prim rec.prevChainHash rec
    · subst hEq
      exact (h seqNo).weaken fun _ hw => hw.2
    · exact Sat.of_false fun _ hw => hEq hw.1

/-- Every step of a decision is one of the effects. -/
theorem decide_runs (rec : ShieldActionRecord) (govApp : GovernanceApp)
    (latencyMs : PyFloat) :
    Runs settings C (fun _ _ => True)
      (Governance.decide settings.prim settings.serverSigningKey rec govApp latencyMs)
      fun _ => True := by
  unfold Governance.decide
  refine Sat.read_bind Effect.rest fun w _ =>
    ⟨fun w' => w.now ≤ w'.now, steady_now_le w.now, Int.le_refl w.now, ?_⟩
  refine prefix_bind fun seqNo => ?_
  have hSteady : Steady settings C fun w' =>
      Admits (recordSubmission settings.prim rec) w.now seqNo w' ∧
      ActionStored C rec w' :=
    (steady_admits _ _ _).and (steady_stored _ _)
  refine sat_read hSteady fun answer => ?_
  refine Sat.ofExcept_bind (fun _ _ _ _ => trivial) fun decided _ => ?_
  refine sat_read hSteady fun servedAt => ?_
  refine sat_put hSteady (fun _ _ => .verdict _ _ _) ?_
  refine sat_attempt_last (fun w₁ w₂ h hTx => decide_transaction h.1.1 h.1.2 hTx) ?_
  refine sat_then (fanChannel2_runs _ _ _ _) fun _ => ?_
  refine sat_then (fanVerdicts_runs _ _) fun _ => ?_
  exact Sat.pure fun _ _ => trivial

/-- Every step of a record after an action is one of the effects. -/
theorem record_runs (rec : ShieldActionRecord) :
    Runs settings C (fun _ _ => True) (Governance.record settings.prim rec)
      fun _ => True := by
  unfold Governance.record
  refine Sat.read_bind Effect.rest fun w _ =>
    ⟨fun w' => w.now ≤ w'.now, steady_now_le w.now, Int.le_refl w.now, ?_⟩
  refine prefix_bind fun seqNo => ?_
  refine sat_attempt_last (fun w₁ w₂ h hTx => record_transaction h.1 h.2 hTx) ?_
  refine sat_then (fanChannel2_runs _ _ _ _) fun _ => ?_
  exact Sat.pure fun _ _ => trivial

end Handlers

/-- **Every step of the ingest service is one of the effects.** -/
theorem ingest_keeps (settings : Settings) (C : World → World → Prop) :
    (ingestService settings).Keeps C (Effect settings C) where
  rest := Effect.rest
  external ns w := .tick w ns
  handler r := by
    cases r with
    | submit rec receiptId =>
        exact sat_then (submitOperation_runs rec receiptId) fun _ => Sat.pure fun _ _ => trivial
    | decide rec govApp latencyMs =>
        exact sat_then (decide_runs rec govApp latencyMs) fun _ => Sat.pure fun _ _ => trivial
    | record rec => exact sat_then (record_runs rec) fun _ => Sat.pure fun _ _ => trivial

/-! ## Runs of the service -/

section Served

variable {settings : Settings} {now : Int} {agents : List Agent} {agentKeys : List AgentKey}

/-- An effect of any run. -/
abbrev AnyEffect (settings : Settings) : World → World → Prop :=
  Effect settings fun _ _ => True

/-- In every run of the ingest each request under way keeps to the effects. -/
theorem served_allOk (events : List (Event (ingestService settings))) :
    Pool.AllOk (fun _ _ => True) (AnyEffect settings)
      (served settings now agents agentKeys events) :=
  Pool.run_allOk (ingest_keeps settings _) (Pool.allOk_start _) events
    (Pool.within_true _ _)

/-- What holds of the empty tables and is kept by every effect holds in every
state of every run. -/
theorem served_inv {I : World → Prop}
    (hI : ∀ w w', I w → AnyEffect settings w w' → I w')
    (h0 : I (World.initial now agents agentKeys))
    (events : List (Event (ingestService settings))) :
    I (served settings now agents agentKeys events).state :=
  Pool.run_inv (ingest_keeps settings _) (fun w w' hw hE _ => hI w w' hw hE)
    (Pool.allOk_start _) events (Pool.within_true _ _) h0

/-- What holds in one state of a run and is kept by every effect holds in every
later state. -/
theorem served_later {I : World → Prop}
    (hI : ∀ w w', I w → AnyEffect settings w w' → I w')
    (events later : List (Event (ingestService settings)))
    (h0 : I (served settings now agents agentKeys events).state) :
    I (served settings now agents agentKeys (events ++ later)).state := by
  rw [served_append]
  exact Pool.run_inv (ingest_keeps settings _) (fun w w' hw hE _ => hI w w' hw hE)
    (served_allOk events) later (Pool.within_true _ _) h0

end Served

end AgentShield.Server
