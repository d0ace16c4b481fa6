import AgentShield.Server.Replay

/-!
# What a failing ingest leaves behind

The rows of a submission are inserted in one transaction, but its objects are
stored before, under keys built from ids that the client chooses.  A submission
that passes the checks and then fails, say because its operation id is taken, has
already written its objects.  So a failing submission leaves the objects and rows
of the accepted operations intact exactly when none of the objects that it writes
replaces one of theirs by another (`Clobbers`).
-/

namespace AgentShield.Server

open AgentShield.Lib AgentShield.Lib.Async AgentShield.Sdk

/-! ## The data of the accepted operations -/

/-- The keys of the objects that belong to accepted operations: their records,
their receipts and their verdicts. -/
def acceptedKeys (db : Database) : List String :=
  db.operations.filterMap OperationRow.r2PayloadKey ++ db.receipts.map ReceiptRow.r2ReceiptKey ++
    db.governanceVerdicts.map GovernanceVerdictRow.r2VerdictKey

/-- Every row of `db` is a row of `db'`. -/
structure Database.Within (db db' : Database) : Prop where
  operations : db.operations <+: db'.operations
  receipts : db.receipts <+: db'.receipts
  governanceVerdicts : db.governanceVerdicts <+: db'.governanceVerdicts

/-- The objects and rows of the operations accepted in `w` are the same in `w'`. -/
structure Intact (w w' : World) : Prop where
  objects : ∀ key ∈ acceptedKeys w.db, w'.get key = w.get key
  rows : w.db.Within w'.db

theorem Database.Within.refl (db : Database) : db.Within db :=
  ⟨List.prefix_rfl, List.prefix_rfl, List.prefix_rfl⟩

theorem Database.Within.trans {db₁ db₂ db₃ : Database} (h : db₁.Within db₂)
    (h' : db₂.Within db₃) : db₁.Within db₃ :=
  ⟨h.operations.trans h'.operations, h.receipts.trans h'.receipts,
    h.governanceVerdicts.trans h'.governanceVerdicts⟩

theorem Database.execute_within {db db' : Database} {st : Statement}
    (h : db.execute st = .ok db') : db.Within db' := by
  cases st with
  | insertOperation row =>
      obtain ⟨-, -, rfl⟩ := execute_insertOperation h
      exact ⟨List.prefix_append _ _, List.prefix_rfl, List.prefix_rfl⟩
  | insertReceipt row =>
      obtain ⟨-, rfl⟩ := execute_insertReceipt h
      exact ⟨List.prefix_rfl, List.prefix_append _ _, List.prefix_rfl⟩
  | insertGovernanceVerdict row =>
      obtain ⟨-, rfl⟩ := execute_insertGovernanceVerdict h
      exact ⟨List.prefix_rfl, List.prefix_rfl, List.prefix_append _ _⟩
  | insertInterventionLog row =>
      obtain rfl := execute_insertInterventionLog h
      exact ⟨List.prefix_rfl, List.prefix_rfl, List.prefix_rfl⟩

/-- A transaction only adds rows. -/
theorem Database.transaction_within {db db' : Database} {sts : List Statement}
    (h : db.transaction sts = .ok db') : db.Within db' := by
  induction sts generalizing db with
  | nil =>
      obtain rfl := transaction_nil h
      exact Within.refl db'
  | cons st sts ih =>
      obtain ⟨db₁, h₁, hRest⟩ := transaction_cons h
      exact (execute_within h₁).trans (ih hRest)

section Intact

variable {w s s' : World}

theorem Intact.refl (w : World) : Intact w w := ⟨fun _ _ => rfl, Database.Within.refl _⟩

/-- A step that touches neither the objects nor the tables. -/
theorem Intact.aside (h : Intact w s) (hObjects : s'.objects = s.objects) (hDb : s'.db = s.db) :
    Intact w s' := by
  constructor
  · intro key hKey
    unfold World.get
    rw [hObjects]
    exact h.objects key hKey
  · rw [hDb]
    exact h.rows

theorem Intact.transaction (h : Intact w s) {sts : List Statement}
    (hTx : s.transaction sts = .ok s') : Intact w s' := by
  obtain ⟨db, hDb, rfl⟩ := World.transaction_ok hTx
  exact ⟨h.objects, h.rows.trans (Database.transaction_within hDb)⟩

/-- Storing an object leaves the accepted data intact unless it replaces an
accepted object by another. -/
theorem Intact.put_iff (h : Intact w s) {key : String} {body : Body} :
    Intact w (s.put key body) ↔ (key ∈ acceptedKeys w.db → w.get key = some body) := by
  constructor
  · intro hPut hKey
    rw [← hPut.objects key hKey, World.get_put_self]
  · intro hSame
    refine ⟨fun key' hKey' => ?_, h.rows⟩
    rw [World.get_put]
    split
    · rename_i hEq
      subst hEq
      exact (hSame hKey').symm
    · exact h.objects key' hKey'

end Intact

/-! ## The checks of a submission, run alone -/

/-- The checks that every route makes after its field checks pass: the nonce is free, the
agent may submit, the key is its own and not revoked, the signature verifies, and the head is
the one that is named. -/
structure Admissible (sub : Submission) (w : World) : Prop where
  nonce : w.cache.live w.clock (nonceKey sub.orgId sub.nonce) = none
  agent : ∃ agent, w.db.findAgent sub.agentId sub.orgId = some agent ∧ checkAgent agent = .ok ()
  key : ∃ key, w.db.findAgentKey sub.agentPubkeyKid sub.agentId = some key ∧
    checkKey key = .ok () ∧ sub.signedBy key.publicKey = true
  head : sub.prevChainHash = expectedPrev (w.db.latestOperation sub.agentId)

section Checks

variable {w : World} {β : Type}

/-- A step that only changes the cache. -/
theorem Intact.cache {s : World} (h : Intact w s) (cache : Cache) :
    Intact w { s with cache := cache } := h.aside rfl rfl

/-- The checks write to the cache only, and the rest is reached exactly when they
pass. -/
theorem everyFailure_admitSubmission {sub : Submission} {next : Int → Handler β} :
    EveryFailure (Intact w) (admitSubmission sub >>= next) w ↔
      (Admissible sub w → EveryFailure (Intact w)
        (next (nextSeq (w.db.latestOperation sub.agentId))) (reserve sub w).1) := by
  have hRefl := Intact.refl w
  have hReserved : Intact w (reserve sub w).1 := hRefl.cache _
  have hFresh : (reserve sub w).2 = true ↔
      w.cache.live w.clock (nonceKey sub.orgId sub.nonce) = none := by
    cases hLive : w.cache.live w.clock (nonceKey sub.orgId sub.nonce) with
    | none => simp [reserve, World.setIfAbsent, Cache.setIfAbsent, hLive]
    | some value => simp [reserve, World.setIfAbsent, Cache.setIfAbsent, hLive]
  unfold admitSubmission
  simp only [bind_assoc', everyFailure_act_bind]
  change Intact w w ∧ Intact w (reserve sub w).1 ∧ EveryFailure (Intact w)
    (raiseIf ((reserve sub w).2 = false) _ >>= _) (reserve sub w).1 ↔ _
  simp only [hRefl, hReserved, true_and, everyFailure_raiseIf_bind hReserved,
    everyFailure_read_bind, everyFailure_require_bind hReserved,
    everyFailure_ofExcept_bind hReserved, pure_bind']
  have hDb : (reserve sub w).1.db = w.db := rfl
  rw [hDb]
  constructor
  · intro h hAdmissible
    obtain ⟨agent, hAgent, hAgentOk⟩ := hAdmissible.agent
    obtain ⟨key, hKey, hKeyOk, hSigned⟩ := hAdmissible.key
    exact h (by simp [hFresh.2 hAdmissible.nonce]) agent hAgent () hAgentOk key hKey () hKeyOk
      (by simp [hSigned]) (by simp [hAdmissible.head])
  · intro h hNonce agent hAgent _ hAgentOk key hKey _ hKeyOk hSigned hHead
    exact h {
      nonce := hFresh.1 (by simpa using hNonce)
      agent := ⟨agent, hAgent, hAgentOk⟩
      key := ⟨key, hKey, hKeyOk, by simpa using hSigned⟩
      head := by simpa using hHead }

/-- The checks of a route, with its field checks. -/
theorem everyFailure_checks {check : Int → Except Failure Unit} {sub : Submission}
    {body : Int → Int → Handler β} :
    EveryFailure (Intact w) (do
        let receivedAt ← read World.now
        ofExcept (check receivedAt)
        let seqNo ← admitSubmission sub
        body receivedAt seqNo) w ↔
      (check w.now = .ok () → Admissible sub w → EveryFailure (Intact w)
        (body w.now (nextSeq (w.db.latestOperation sub.agentId))) (reserve sub w).1) := by
  have hRefl := Intact.refl w
  rw [everyFailure_read_bind, everyFailure_ofExcept_bind hRefl]
  simp only [everyFailure_admitSubmission, hRefl, true_and]
  exact ⟨fun h => h (), fun h _ => h⟩

/-- None of the objects replaces another object of an accepted operation. -/
def Harmless (w : World) (writes : List (String × Body)) : Prop :=
  ∀ e ∈ writes, e.1 ∈ acceptedKeys w.db → w.get e.1 = some e.2

/-- Storing an object and going on with objects to store. -/
theorem everyFailure_put_bind {s : World} (hs : Intact w s) {key : String} {body : Body}
    {next : Unit → Handler β} {writes : List (String × Body)}
    (h : Intact w (s.put key body) →
      (EveryFailure (Intact w) (next ()) (s.put key body) ↔ Harmless w writes)) :
    EveryFailure (Intact w) (write (fun s => s.put key body) >>= next) s ↔
      Harmless w ((key, body) :: writes) := by
  unfold Harmless at h ⊢
  rw [everyFailure_write_bind, List.forall_mem_cons]
  constructor
  · rintro ⟨-, hPut, hRest⟩
    exact ⟨hs.put_iff.1 hPut, (h hPut).1 hRest⟩
  · rintro ⟨hFirst, hRest⟩
    have hPut := hs.put_iff.2 hFirst
    exact ⟨hs, hPut, (h hPut).2 hRest⟩

/-- Nothing is stored from here on. -/
def Quiet (prog : Handler β) : Prop :=
  ∀ w s, Intact w s → EveryFailure (Intact w) prog s

theorem Quiet.harmless {prog : Handler β} (h : Quiet prog) {s : World} (hs : Intact w s) :
    EveryFailure (Intact w) prog s ↔ Harmless w [] :=
  ⟨fun _ _ he => (List.not_mem_nil he).elim, fun _ => h w s hs⟩

theorem Quiet.pure (b : β) : Quiet (pure b : Handler β) :=
  fun _ _ _ => everyFailure_pure b

theorem Quiet.cache {f : World → World} {next : Unit → Handler β}
    (hObjects : ∀ s, (f s).objects = s.objects) (hDb : ∀ s, (f s).db = s.db)
    (h : Quiet (next ())) : Quiet (write f >>= next) := by
  intro w s hs
  have hs' : Intact w (f s) := hs.aside (hObjects s) (hDb s)
  exact everyFailure_write_bind.2 ⟨hs, hs', h w (f s) hs'⟩

theorem Quiet.transaction {sts : List Statement} {next : Unit → Handler β}
    (h : Quiet (next ())) : Quiet (attempt (fun s => s.transaction sts) >>= next) := by
  intro w s hs
  rw [everyFailure_attempt_bind hs]
  intro s' hTx
  have hs' : Intact w s' := hs.transaction hTx
  exact ⟨hs', h w s' hs'⟩

theorem Quiet.ensureGroups {stream : String} {groups : List String} {next : Unit → Handler β}
    (h : Quiet (next ())) : Quiet (ensureGroups stream groups >>= next) := by
  induction groups with
  | nil => exact h
  | cons group groups ih =>
      simp only [Server.ensureGroups, bind_assoc']
      exact Quiet.cache (fun _ => rfl) (fun _ => rfl) ih

theorem Quiet.fanChannel2 {prim : Primitives} {rec : ShieldActionRecord} {chainHash : String}
    {seqNo : Int} {verdictId : String} {next : Unit → Handler β} (h : Quiet (next ())) :
    Quiet (fanChannel2 prim rec chainHash seqNo verdictId >>= next) := by
  unfold Server.fanChannel2
  simp only [bind_assoc']
  refine Quiet.ensureGroups ?_
  refine Quiet.cache (fun _ => rfl) (fun _ => rfl) ?_
  exact Quiet.cache (fun _ => rfl) (fun _ => rfl) h

theorem Quiet.fanVerdicts {prim : Primitives} {rec : ShieldActionRecord}
    {verdict : GovernanceVerdict} {next : Unit → Handler β} (h : Quiet (next ())) :
    Quiet (fanVerdicts prim rec verdict >>= next) := by
  unfold Server.fanVerdicts
  simp only [bind_assoc']
  refine Quiet.ensureGroups ?_
  exact Quiet.cache (fun _ => rfl) (fun _ => rfl) h

end Checks

/-! ## The objects that a submission writes -/

/-- The objects that a submission stores, with their keys, once its checks have
passed in state `w`. -/
def IngestRequest.writes (settings : Settings) (w : World) :
    IngestRequest → List (String × Body)
  | .submit rec receiptId =>
      [(recordKey rec.orgId rec.agentId rec.operationId, .ofJson rec.modelDump),
       (receiptKey rec.orgId rec.agentId rec.operationId,
        .ofJson (storedReceipt settings rec w.now
          (nextSeq (w.db.latestOperation rec.agentId)) receiptId).modelDump)]
  | .decide rec govApp latencyMs =>
      (recordKey rec.orgId rec.agentId rec.recordId, .ofJson (rec.modelDump false)) ::
        match govApp rec with
        | .ok decided =>
            [(verdictObjectKey rec.orgId rec.agentId decided.verdictId,
              .ofJson ((serveVerdict settings.prim settings.serverSigningKey rec decided w.now
                latencyMs).modelDump false))]
        | .error _ => []
  | .record rec => [(recordKey rec.orgId rec.agentId rec.recordId, .ofJson (rec.modelDump false))]

/-- The submission passes its checks and stores an object in the place of another
object of an accepted operation. -/
structure Clobbers (settings : Settings) (w : World) (req : IngestRequest) : Prop where
  valid : req.validate settings w.now = .ok ()
  admissible : Admissible (req.submission settings) w
  replaced : ∃ e ∈ req.writes settings w, e.1 ∈ acceptedKeys w.db ∧ w.get e.1 ≠ some e.2

section Routes

variable {settings : Settings} {w : World}

theorem everyFailure_submit (rec : OperationRecord) (receiptId : String) :
    EveryFailure (Intact w) (ingest settings (.submit rec receiptId)) w ↔
      (validateRecordFields settings.prim.toFloatText rec w.now = .ok () →
        Admissible (rec.submission (shieldSdkCrypto settings.prim)) w →
        Harmless w ((IngestRequest.submit rec receiptId).writes settings w)) := by
  have hRefl := Intact.refl w
  have hReserved : Intact w (reserve (rec.submission (shieldSdkCrypto settings.prim)) w).1 :=
    hRefl.cache _
  simp only [ingest, submitOperation, bind_assoc']
  refine everyFailure_checks.trans (imp_congr_right fun _ => imp_congr_right fun _ => ?_)
  refine everyFailure_put_bind hReserved fun h₁ => everyFailure_put_bind h₁ fun h₂ => ?_
  refine Quiet.harmless (Quiet.transaction ?_) h₂
  refine Quiet.cache (fun _ => rfl) (fun _ => rfl) ?_
  exact Quiet.pure _

theorem everyFailure_decide (rec : ShieldActionRecord) (govApp : GovernanceApp)
    (latencyMs : PyFloat) :
    EveryFailure (Intact w) (ingest settings (.decide rec govApp latencyMs)) w ↔
      (validateRecord settings.prim rec w.now .preExec = .ok () →
        Admissible (recordSubmission settings.prim rec) w →
        Harmless w ((IngestRequest.decide rec govApp latencyMs).writes settings w)) := by
  have hRefl := Intact.refl w
  have hReserved : Intact w (reserve (recordSubmission settings.prim rec) w).1 := hRefl.cache _
  simp only [ingest, Governance.decide, ingestPrefix, bind_assoc', pure_bind']
  refine everyFailure_checks.trans (imp_congr_right fun _ => imp_congr_right fun _ => ?_)
  refine everyFailure_put_bind hReserved fun h₁ => ?_
  rw [everyFailure_read_bind, everyFailure_ofExcept_bind h₁]
  cases hAnswer : govApp rec with
  | error e => simp [h₁, Harmless]
  | ok decided =>
      simp only [h₁, true_and, Except.ok.injEq, forall_eq', everyFailure_read_bind]
      refine everyFailure_put_bind h₁ fun h₂ => ?_
      exact Quiet.harmless
        (.transaction (.fanChannel2 (.fanVerdicts (.pure _)))) h₂

theorem everyFailure_record (rec : ShieldActionRecord) :
    EveryFailure (Intact w) (ingest settings (.record rec)) w ↔
      (validateRecord settings.prim rec w.now .postExec = .ok () →
        Admissible (recordSubmission settings.prim rec) w →
        Harmless w ((IngestRequest.record rec).writes settings w)) := by
  have hRefl := Intact.refl w
  have hReserved : Intact w (reserve (recordSubmission settings.prim rec) w).1 := hRefl.cache _
  simp only [ingest, Governance.record, ingestPrefix, bind_assoc', pure_bind']
  refine everyFailure_checks.trans (imp_congr_right fun _ => imp_congr_right fun _ => ?_)
  refine everyFailure_put_bind hReserved fun h₁ => ?_
  exact Quiet.harmless (.transaction (.fanChannel2 (.pure _))) h₁

/-- Every failing run of a submission is intact exactly when its objects are
harmless, should its checks pass. -/
theorem everyFailure_ingest (settings : Settings) (w : World) (req : IngestRequest) :
    EveryFailure (Intact w) (ingest settings req) w ↔
      (req.validate settings w.now = .ok () → Admissible (req.submission settings) w →
        Harmless w (req.writes settings w)) := by
  cases req with
  | submit rec receiptId => exact everyFailure_submit rec receiptId
  | decide rec govApp latencyMs => exact everyFailure_decide rec govApp latencyMs
  | record rec => exact everyFailure_record rec

theorem not_clobbers_iff {req : IngestRequest} :
    ¬ Clobbers settings w req ↔
      (req.validate settings w.now = .ok () → Admissible (req.submission settings) w →
        Harmless w (req.writes settings w)) := by
  constructor
  · intro h hValid hAdmissible e he hKey
    by_contra hNe
    exact h ⟨hValid, hAdmissible, e, he, hKey, hNe⟩
  · rintro h ⟨hValid, hAdmissible, e, he, hKey, hNe⟩
    exact hNe (h hValid hAdmissible e he hKey)

end Routes

/-- Whatever step of a submission fails, the accepted data is intact. -/
def FailsSafe (settings : Settings) (w : World) (req : IngestRequest) : Prop :=
  ∀ (faults : List Fault) (e : Failure),
    ((ingest settings req).exec .backend faults w).2 = .error e →
      Intact w ((ingest settings req).exec .backend faults w).1

/-- **A failing submission leaves the accepted data intact exactly when it does not clobber
evidence**: the object of a record is put before its row is inserted, so that a submission
with an id that is taken replaces what is stored under it and then fails. -/
theorem failed_ingest_intact (settings : Settings) (now : Int) (agents : List Agent)
    (agentKeys : List AgentKey) (events : List (Event (ingestService settings)))
    (req : IngestRequest) :
    let w := (served settings now agents agentKeys events).state
    FailsSafe settings w req ↔ ¬ Clobbers settings w req := by
  intro w
  unfold FailsSafe
  rw [not_clobbers_iff, ← everyFailure_ingest settings w req]
  exact (everyFailure_iff Failure.backend).symm

/-! ## A duplicate operation id -/

instance (db db' : Database) : Decidable (db.Within db') :=
  decidable_of_iff
    (db.operations <+: db'.operations ∧ db.receipts <+: db'.receipts ∧
      db.governanceVerdicts <+: db'.governanceVerdicts)
    ⟨fun h => ⟨h.1, h.2.1, h.2.2⟩, fun h => ⟨h.operations, h.receipts, h.governanceVerdicts⟩⟩

instance (w w' : World) : Decidable (Intact w w') :=
  decidable_of_iff
    ((∀ key ∈ acceptedKeys w.db, w'.get key = w.get key) ∧ w.db.Within w'.db)
    ⟨fun h => ⟨h.1, h.2⟩, fun h => ⟨h.objects, h.rows⟩⟩

namespace Sample

/-- A further operation under the id of the first one. -/
def duplicate : OperationRecord := operation "op1" "n2" 1000 (chainHash (firstOperation 1000))

end Sample

set_option maxRecDepth 40000 in
/-- **A rejected duplicate replaces the accepted record.**  The insert refuses the
taken operation id, after the record was stored under it. -/
theorem duplicate_replaces_record :
    ¬ ∀ (settings : Settings) (now : Int) (agents : List Agent) (agentKeys : List AgentKey)
      (events : List (Event (ingestService settings))) (req : IngestRequest),
      FailsSafe settings (served settings now agents agentKeys events).state req := by
  intro h
  have hRejected : ((ingest Sample.settings (.submit Sample.duplicate "r2")).exec .backend []
      (served Sample.settings 1000 Sample.agents Sample.agentKeys (Sample.first 1000)).state).2 =
      .error (.database (.primaryKey "operations")) := by
    decide
  have hIntact := h Sample.settings 1000 Sample.agents Sample.agentKeys (Sample.first 1000)
    (.submit Sample.duplicate "r2") [] _ hRejected
  have hReplaced : ¬ Intact
      (served Sample.settings 1000 Sample.agents Sample.agentKeys (Sample.first 1000)).state
      ((ingest Sample.settings (.submit Sample.duplicate "r2")).exec .backend []
        (served Sample.settings 1000 Sample.agents Sample.agentKeys
          (Sample.first 1000)).state).1 := by
    decide
  exact hReplaced hIntact

end AgentShield.Server
