import AgentShield.Lib.Once
import AgentShield.Server.CacheTransport
import AgentShield.Server.LateVerdicts

/-!
# One late verdict

The row and the entry of a late verdict as something that is done at most once
(`lateOnce`).  A worker that finds the row leaves both alone; one that has looked before
the row was there inserts a second, as no key of the table is the record's id.  So there
is one late verdict for a record when no two workers are between the look and the insert
(`single_late_verdict`).
-/

namespace AgentShield.Server

open AgentShield.Lib AgentShield.Lib.Async AgentShield.Sdk AgentShield.Governance

/-! ## Late rows and entries -/

/-- The rows of the record that no decision has inserted: a decision logs its verdict. -/
def lateRows (recordId : String) (w : World) : Nat :=
  w.db.governanceVerdicts.countP fun r =>
    r.recordId = recordId ∧ ∀ i ∈ w.db.interventionLog, i.verdictId ≠ r.verdictId

def isLateEntry (recordId : String) (fields : List (String × String)) : Bool :=
  Dict.get? fields "record_id" = some recordId ∧
    Dict.get? fields "phase" = some Phase.postExec.value

/-- The entries of the record, as one that has been executed, on a verdict stream. -/
def lateEntries (recordId workflowId : String) (w : World) : Nat :=
  (w.cache.entries (streamName verdictsStreamPrefix workflowId)).countP (isLateEntry recordId)

/-- Every logged verdict has its row. -/
def Logged (w : World) : Prop :=
  ∀ i ∈ w.db.interventionLog, ∃ r ∈ w.db.governanceVerdicts, r.verdictId = i.verdictId

/-- The step leaves the late verdicts of the record alone. -/
structure SameLate (recordId : String) (w w' : World) : Prop where
  logged : Logged w → Logged w'
  rows : lateRows recordId w' = lateRows recordId w
  entries : ∀ workflowId, lateEntries recordId workflowId w' = lateEntries recordId workflowId w

/-- There is at most one late row of the record, and at most one late entry. -/
structure AtMostOneLate (recordId : String) (w : World) : Prop where
  row : lateRows recordId w ≤ 1
  entry : ∀ workflowId, lateEntries recordId workflowId w ≤ 1
  stream : ∀ workflowId workflowId', lateEntries recordId workflowId w ≠ 0 →
    lateEntries recordId workflowId' w ≠ 0 → workflowId = workflowId'

theorem atMostOneLate_of_rows {recordId : String} {w : World} (hRows : lateRows recordId w ≤ 1)
    (hEntries : ∀ wf, lateEntries recordId wf w = 0) : AtMostOneLate recordId w where
  row := hRows
  entry wf := by
    have hNone := hEntries wf
    omega
  stream wf _ hSome := absurd (hEntries wf) hSome

/-- The late verdict of a record, first its row and then its entry.  Without a row there is no
entry, and the worker that has inserted the row is the one that appends. -/
def lateOnce (recordId : String) : Once World where
  Free w := Logged w ∧ lateRows recordId w = 0 ∧ ∀ wf, lateEntries recordId wf w = 0
  Open w := Logged w ∧ lateRows recordId w = 1 ∧ ∀ wf, lateEntries recordId wf w = 0
  Closed w := Logged w ∧ lateRows recordId w = 1 ∧ AtMostOneLate recordId w
  Same := SameLate recordId
  rest _ := ⟨id, rfl, fun _ => rfl⟩
  free := by
    rintro w w' hSame ⟨hLogged, hRows, hEntries⟩
    exact ⟨hSame.logged hLogged, hSame.rows.trans hRows,
      fun wf => (hSame.entries wf).trans (hEntries wf)⟩
  opened := by
    rintro w w' hSame ⟨hLogged, hRows, hEntries⟩
    exact ⟨hSame.logged hLogged, hSame.rows.trans hRows,
      fun wf => (hSame.entries wf).trans (hEntries wf)⟩
  closed := by
    rintro w w' hSame ⟨hLogged, hRows, hOne⟩
    refine ⟨hSame.logged hLogged, hSame.rows.trans hRows, ?_, ?_, ?_⟩
    · rw [hSame.rows]
      exact hOne.row
    · intro wf
      rw [hSame.entries]
      exact hOne.entry wf
    · intro wf wf'
      rw [hSame.entries, hSame.entries]
      exact hOne.stream wf wf'
  apart := by
    rintro w ⟨-, hRows, -⟩ ⟨-, hNone, -⟩
    omega

section Steps

variable {settings : Settings} {w w' : World} {recordId : String}

/-- Only the rows, the log and the streams matter. -/
theorem sameLate_of_eq (hRows : w'.db.governanceVerdicts = w.db.governanceVerdicts)
    (hLog : w'.db.interventionLog = w.db.interventionLog)
    (hStreams : w.cache.SameStreams w'.cache) : SameLate recordId w w' where
  logged h := by
    unfold Logged
    rw [hRows, hLog]
    exact h
  rows := by
    unfold lateRows
    rw [hRows, hLog]
  entries workflowId := by
    unfold lateEntries
    rw [hStreams]

theorem streamName_ne (workflowId workflowId' : String) :
    streamName actionsStreamPrefix workflowId ≠ streamName verdictsStreamPrefix workflowId' := by
  intro h
  have hChars := congrArg (fun s => s.toList.take 8) h
  simp [streamName, actionsStreamPrefix, verdictsStreamPrefix] at hChars

theorem streamName_inj {streamPrefix workflowId workflowId' : String}
    (h : streamName streamPrefix workflowId = streamName streamPrefix workflowId') :
    workflowId = workflowId' :=
  (String.append_right_inj (streamPrefix ++ ":")).1 h

/-- An append that is no late entry of the record. -/
theorem sameLate_xadd {stream : String} {fields : List (String × String)}
    (h : ∀ workflowId, stream = streamName verdictsStreamPrefix workflowId →
      isLateEntry recordId fields = false) : SameLate recordId w (w.xadd stream fields) where
  logged := id
  rows := rfl
  entries workflowId := by
    unfold lateEntries World.xadd
    by_cases hStream : stream = streamName verdictsStreamPrefix workflowId
    · subst hStream
      rw [Cache.entries_xadd, List.countP_append, List.countP_singleton, h workflowId rfl]
      rfl
    · rw [Cache.entries_xadd_ne _ hStream]

@[simp] theorem isLateEntry_verdictEntry (prim : Primitives) (rec : ShieldActionRecord)
    (verdict : GovernanceVerdict) : isLateEntry recordId (verdictEntry prim rec verdict) =
      (decide (rec.recordId = recordId) && decide (rec.phase = .postExec)) := by
  unfold isLateEntry verdictEntry
  cases rec.phase <;> simp [Dict.get?, Phase.value]

/-- A decision's row is no late row, as the decision logs it under a new id. -/
theorem sameLate_decide {rec : ShieldActionRecord} {verdict : GovernanceVerdict}
    {verdictKey chainHash : String} {seqNo receivedAt : Int}
    (hTx : w.transaction (decideStatements settings.prim rec verdict verdictKey chainHash seqNo
      receivedAt) = .ok w') : SameLate recordId w w' := by
  obtain ⟨db, hDb, rfl⟩ := World.transaction_ok hTx
  obtain ⟨-, -, hFresh, rfl⟩ := Database.transaction_decision hDb
  refine ⟨fun hLogged i hi => ?_, ?_, fun _ => rfl⟩
  · rcases List.mem_append.1 hi with hOld | hNew
    · obtain ⟨r, hr, hId⟩ := hLogged i hOld
      exact ⟨r, List.mem_append_left _ hr, hId⟩
    · obtain rfl := List.mem_singleton.1 hNew
      exact ⟨_, List.mem_append_right _ List.mem_cons_self, rfl⟩
  · unfold lateRows
    simp only
    rw [List.countP_append, List.countP_singleton]
    have hNew : ¬ ∀ i ∈ w.db.interventionLog ++ [interventionLogInsert rec verdict receivedAt],
        i.verdictId ≠ (governanceVerdictInsert rec verdict verdictKey receivedAt).verdictId :=
      fun h => h _ (List.mem_append_right _ List.mem_cons_self) rfl
    have hOld : ∀ r ∈ w.db.governanceVerdicts,
        (r.recordId = recordId ∧ ∀ i ∈ w.db.interventionLog ++
          [interventionLogInsert rec verdict receivedAt], i.verdictId ≠ r.verdictId) ↔
        (r.recordId = recordId ∧ ∀ i ∈ w.db.interventionLog, i.verdictId ≠ r.verdictId) := by
      intro r hr
      have hLast : (interventionLogInsert rec verdict receivedAt).verdictId ≠ r.verdictId :=
        fun hSame => hFresh r hr hSame.symm
      simp [List.mem_append, or_imp, forall_and, hLast]
    rw [if_neg (by simpa using fun _ => hNew), Nat.add_zero]
    exact List.countP_congr fun r hr => by simpa using hOld r hr

/-- The rows keep their ids when an incident is resolved. -/
theorem sameLate_resolve (decision : String) (resolvedAt : Int) (incidentId : String) :
    SameLate recordId w (w.resolveVerdict decision resolvedAt incidentId) where
  logged h i hi := by
    obtain ⟨r, hr, hId⟩ := h i hi
    refine ⟨_, List.mem_map_of_mem hr, ?_⟩
    split <;> exact hId
  rows := by
    unfold lateRows World.resolveVerdict
    rw [List.countP_map]
    refine List.countP_congr fun r _ => ?_
    simp only [Function.comp]
    split <;> rfl
  entries _ := rfl

/-- The record that a request publishes a late verdict for. -/
def PlatformRequest.lateRecord? : PlatformRequest → Option ShieldActionRecord
  | .publish rec _ _ _ => some rec
  | _ => none

/-- No step of a request but a publication for the record touches its late verdict: neither
its row nor its entry on a stream. -/
theorem RequestStep.sameLate {req : PlatformRequest} (h : RequestStep settings req w w')
    (hOther : ∀ rec, req.lateRecord? = some rec → rec.recordId ≠ recordId) :
    SameLate recordId w w' := by
  cases h with
  | cache _ _ c hStreams => exact sameLate_of_eq rfl rfl hStreams
  | appendAction _ _ workflowId fields =>
      exact sameLate_xadd fun wf hStream => absurd hStream (streamName_ne workflowId wf)
  | appendDecision _ rec govApp latencyMs verdict hPhase =>
      exact sameLate_xadd fun _ _ => by simp [hPhase]
  | appendLate _ rec verdict guardianEvidence latencyMs signed =>
      exact sameLate_xadd fun _ _ => by simp [hOther rec rfl]
  | submit rec receiptId receivedAt seqNo hTx =>
      obtain ⟨db, hDb, rfl⟩ := World.transaction_ok hTx
      obtain ⟨-, -, -, rfl⟩ := Database.transaction_receipt hDb
      exact sameLate_of_eq rfl rfl w.cache.sameStreams_refl
  | decide rec govApp latencyMs decided chainHash seqNo receivedAt servedAt _ _ hTx =>
      exact sameLate_decide hTx
  | record rec chainHash seqNo receivedAt hPhase hTx =>
      obtain ⟨db, hDb, rfl⟩ := World.transaction_ok hTx
      obtain ⟨-, -, rfl⟩ := Database.transaction_operation hDb
      exact sameLate_of_eq rfl rfl w.cache.sameStreams_refl
  | publish rec verdict guardianEvidence latencyMs servedAt createdAt hTx =>
      obtain ⟨db, hDb, rfl⟩ := World.transaction_ok hTx
      obtain ⟨-, rfl⟩ := Database.transaction_verdict hDb
      refine ⟨fun hLogged i hi => ?_, ?_, fun _ => rfl⟩
      · obtain ⟨r, hr, hId⟩ := hLogged i hi
        exact ⟨r, List.mem_append_left _ hr, hId⟩
      · have hNe : (governanceVerdictInsert rec
            (serveVerdict settings.prim settings.serverSigningKey rec verdict servedAt latencyMs)
            (verdictObjectKey rec.orgId rec.agentId verdict.verdictId) createdAt).recordId ≠
              recordId := hOther rec rfl
        unfold lateRows
        simp only
        rw [List.countP_append, List.countP_singleton, if_neg (by simp [hNe]), Nat.add_zero]
  | resolve => exact sameLate_resolve _ _ _
  | _ => exact sameLate_of_eq rfl rfl w.cache.sameStreams_refl

/-- The row of a late verdict. -/
theorem open_of_insert {rec : ShieldActionRecord} {verdict : GovernanceVerdict}
    {verdictKey : String} {createdAt : Int} (hRecord : rec.recordId = recordId)
    (hFree : (lateOnce recordId).Free w)
    (hTx : w.transaction
      [.insertGovernanceVerdict (governanceVerdictInsert rec verdict verdictKey createdAt)] =
        .ok w') : (lateOnce recordId).Open w' := by
  obtain ⟨hLogged, hRows, hEntries⟩ := hFree
  obtain ⟨db, hDb, rfl⟩ := World.transaction_ok hTx
  obtain ⟨hFresh, rfl⟩ := Database.transaction_verdict hDb
  refine ⟨fun i hi => ?_, ?_, hEntries⟩
  · obtain ⟨r, hr, hId⟩ := hLogged i hi
    exact ⟨r, List.mem_append_left _ hr, hId⟩
  · have hLate : (governanceVerdictInsert rec verdict verdictKey createdAt).recordId = recordId ∧
        ∀ i ∈ w.db.interventionLog, i.verdictId ≠
          (governanceVerdictInsert rec verdict verdictKey createdAt).verdictId := by
      refine ⟨hRecord, fun i hi hSame => ?_⟩
      obtain ⟨r, hr, hId⟩ := hLogged i hi
      exact hFresh r hr (hId.trans hSame)
    unfold lateRows at hRows ⊢
    simp only
    rw [List.countP_append, List.countP_singleton, hRows, if_pos (by simpa using hLate)]

/-- The entry of a late verdict is the first of its record on any stream, and closes what the
row has opened. -/
theorem closed_of_append {rec : ShieldActionRecord} {verdict : GovernanceVerdict}
    (hOpen : (lateOnce recordId).Open w) :
    (lateOnce recordId).Closed (w.xadd (streamName verdictsStreamPrefix rec.workflowId)
      (verdictEntry settings.prim rec verdict)) := by
  obtain ⟨hLogged, hRows, hEntries⟩ := hOpen
  have hAdded : ∀ wf, lateEntries recordId wf
      (w.xadd (streamName verdictsStreamPrefix rec.workflowId)
        (verdictEntry settings.prim rec verdict)) ≤ if wf = rec.workflowId then 1 else 0 := by
    intro wf
    have hNone := hEntries wf
    unfold lateEntries World.xadd at *
    by_cases hSame : wf = rec.workflowId
    · subst hSame
      simp only [if_true]
      rw [Cache.entries_xadd, List.countP_append, List.countP_singleton, hNone]
      split <;> omega
    · have hStream : streamName verdictsStreamPrefix rec.workflowId ≠
          streamName verdictsStreamPrefix wf := by
        intro h
        exact hSame (streamName_inj h).symm
      simp only
      rw [if_neg hSame, Cache.entries_xadd_ne _ hStream, hNone]
  refine ⟨hLogged, hRows, hRows.le, fun wf => ?_, fun wf wf' h h' => ?_⟩
  · have hwf := hAdded wf
    split at hwf <;> omega
  · have hwf := hAdded wf
    have hwf' := hAdded wf'
    by_cases hFirst : wf = rec.workflowId
    · by_cases hSecond : wf' = rec.workflowId
      · exact hFirst.trans hSecond.symm
      · rw [if_neg hSecond] at hwf'
        omega
    · rw [if_neg hFirst] at hwf
      omega

end Steps

/-! ## The handlers -/

section Handlers

variable {settings : Settings} {recordId : String}

/-- Handlers that touch no late verdict of the record. -/
theorem platform_sameLate {req : PlatformRequest}
    (hOther : ∀ rec, req.lateRecord? = some rec → rec.recordId ≠ recordId) :
    Steps (fun _ => True) (SameLate recordId) (fun _ => True) (platform settings req) :=
  (platform_requestSteps req).guarantee fun _ _ h => h.sameLate hOther

theorem publish_sameLate {rec : ShieldActionRecord} (hOther : rec.recordId ≠ recordId)
    (verdict : GovernanceVerdict) (guardianEvidence : List GuardianEvidence)
    (latencyMs : PyFloat) :
    Steps (fun _ => True) (SameLate recordId) (fun _ => True)
      (publishAsyncVerdict settings.prim settings.serverSigningKey rec verdict guardianEvidence
        latencyMs) :=
  (publishAsyncVerdict_steps rec verdict guardianEvidence latencyMs).guarantee fun _ _ h =>
    h.sameLate fun rec' hRec => by
      obtain rfl := Option.some.inj hRec
      exact hOther

theorem opens_of_same {α : Type} {prog : Handler α}
    (h : Steps (fun _ => True) (SameLate recordId) (fun _ => True) prog) :
    (lateOnce recordId).Opens prog :=
  Once.opens_of_steps (h.weaken fun _ _ => trivial)

theorem sameLate_ambient : Ambient (SameLate recordId) :=
  ⟨(lateOnce recordId).rest, fun _ _ hStreams => sameLate_of_eq rfl rfl hStreams⟩

/-- Publishing a late verdict inserts one row and then appends one entry; if the row is
refused, nothing is appended. -/
theorem publish_opens {rec : ShieldActionRecord} (hRecord : rec.recordId = recordId)
    (verdict : GovernanceVerdict) (guardianEvidence : List GuardianEvidence)
    (latencyMs : PyFloat) :
    (lateOnce recordId).Opens
      (publishAsyncVerdict settings.prim settings.serverSigningKey rec verdict guardianEvidence
        latencyMs) := by
  have hG : Ambient (SameLate recordId) := sameLate_ambient
  have hPut : ∀ (w : World) key body, SameLate recordId w (w.put key body) := fun w key body =>
    sameLate_of_eq rfl rfl w.cache.sameStreams_refl
  have hGroups : ∀ (P : World → Prop) stream groups,
      Steps P (SameLate recordId) (fun _ => True) (ensureGroups stream groups) :=
    fun P stream groups => (ensureGroups_steps hG stream groups).weaken fun _ _ => trivial
  have hQuiet : ∀ v : GovernanceVerdict, (lateOnce recordId).Quiet (pure v : Handler _) :=
    fun _ => trivial
  unfold publishAsyncVerdict
  refine Once.Opens.read_bind fun w _ => ?_
  refine Once.Opens.write_bind (fun w _ => hPut w _ _) ?_
  refine Once.Opens.after (Q := fun _ => True)
    ((storeEvidence_steps _ fun w body => hPut w _ body).weaken fun _ _ => trivial) fun _ _ => ?_
  refine Once.Opens.read_bind fun created _ => ?_
  refine Once.Opens.attempt_bind (fun w w' hFree hTx => open_of_insert hRecord hFree hTx) ?_
  unfold fanVerdicts
  rw [bind_assoc']
  refine Once.Closes.after (Q := fun _ => True) (hGroups _ _ _) fun _ _ => ?_
  exact Once.Closes.write_bind (fun w hOpen => closed_of_append hOpen) (hQuiet _)

/-- The same on the state of a worker. -/
abbrev workerOnce (recordId : String) : Once WorkerState :=
  (lateOnce recordId).on WorkerState.world

theorem onStorage_opens {α : Type} {prog : Handler α} (h : (lateOnce recordId).Opens prog) :
    (workerOnce recordId).Opens (onStorage prog) :=
  h.mapError.within fun _ _ => rfl

theorem onStorage_sameLate {α : Type} {prog : Handler α}
    (h : Steps (fun _ => True) (SameLate recordId) (fun _ => True) prog) :
    Steps (fun _ => True) (workerOnce recordId).Same (fun _ => True) (onStorage prog) := by
  refine (Steps.onPart h.mapError).guarantee ?_
  rintro s s' ⟨w, hSame, rfl⟩
  exact hSame

/-- A check and what follows it when it finds nothing. -/
def checked (rec : ShieldActionRecord) (next : Async WorkerState Raised Unit) :
    Async WorkerState Raised Unit :=
  AsyncVerdictWorker.alreadyPublished rec >>= fun published => if published then pure () else next

variable {rec : ShieldActionRecord} {next : Async WorkerState Raised Unit}

theorem checked_steps {P : WorkerState → Prop}
    (h : Steps P (workerOnce recordId).Same (fun _ => True) next) :
    Steps P (workerOnce recordId).Same (fun _ => True) (checked rec next) := by
  refine Steps.act_bind fun s _ => ?_
  cases s.world.db.findVerdictOf rec.recordId with
  | none => exact ⟨(lateOnce recordId).rest s.world, h⟩
  | some row => exact ⟨(lateOnce recordId).rest s.world, trivial⟩

theorem checked_opens (h : (workerOnce recordId).Opens next) :
    (workerOnce recordId).Opens (checked rec next) := by
  refine Once.Opens.act_bind fun s _ => ?_
  cases s.world.db.findVerdictOf rec.recordId with
  | none => exact ⟨(lateOnce recordId).rest s.world, h⟩
  | some row => exact ⟨(lateOnce recordId).rest s.world, trivial⟩

/-- **A check finds the late row** of its record. -/
theorem checked_quiet (hRecord : rec.recordId = recordId)
    (next : Async WorkerState Raised Unit) : (workerOnce recordId).Quiet (checked rec next) := by
  refine Steps.act_bind fun s hTaken => ?_
  have hOne : lateRows recordId s.world = 1 := by
    rcases hTaken with ⟨-, hOne, -⟩ | ⟨-, hOne, -⟩
    · exact hOne
    · exact hOne
  have hPos : 0 < lateRows recordId s.world := by omega
  obtain ⟨row, hRow, hLate⟩ := List.countP_pos_iff.1 hPos
  cases hFind : s.world.db.findVerdictOf rec.recordId with
  | some _ => exact ⟨(lateOnce recordId).rest s.world, trivial⟩
  | none =>
      have hNot := List.find?_eq_none.1 hFind row hRow
      simp only [decide_eq_true_eq] at hLate hNot
      exact absurd (hLate.1.trans hRecord.symm) hNot

theorem handleRecord_eq (guardians : Channel2Guardians) (latencyMs : PyFloat)
    (rec : ShieldActionRecord) :
    AsyncVerdictWorker.handleRecord settings guardians latencyMs rec =
      checked rec (makeAsyncChannel2Handler guardians AsyncVerdictWorker.resolveKey
        (AsyncVerdictWorker.onVerdict settings latencyMs) rec) := rfl

theorem onVerdict_eq (latencyMs : PyFloat) (handoff : AsyncVerdictHandoff) :
    AsyncVerdictWorker.onVerdict settings latencyMs handoff =
      checked handoff.record (onStorage (publishAsyncVerdict settings.prim
        settings.serverSigningKey handoff.record handoff.verdict handoff.guardianEvidence
        latencyMs) >>= fun _ => pure ()) := rfl

/-- A worker that handles another record touches nothing. -/
theorem handleRecord_sameLate (hOther : rec.recordId ≠ recordId) (guardians : Channel2Guardians)
    (latencyMs : PyFloat) :
    Steps (fun _ => True) (workerOnce recordId).Same (fun _ => True)
      (AsyncVerdictWorker.handleRecord settings guardians latencyMs rec) := by
  have hRest : ∀ s, (workerOnce recordId).Same s s := (workerOnce recordId).rest
  rw [handleRecord_eq]
  refine checked_steps ?_
  unfold makeAsyncChannel2Handler
  refine Steps.call_bind (fun s _ => hRest s) fun evalResult => ?_
  refine Steps.read_bind hRest fun s _ => ?_
  refine Steps.ofExcept_bind fun verdict _ => ?_
  rw [onVerdict_eq]
  refine checked_steps (Steps.bind (onStorage_sameLate ?_) fun _ _ => Steps.pure trivial)
  exact publish_sameLate hOther _ _ _

theorem handleRecord_quiet (guardians : Channel2Guardians) (latencyMs : PyFloat)
    (rec : ShieldActionRecord) : (workerOnce recordId).Quiet
      (AsyncVerdictWorker.handleRecord settings guardians latencyMs rec) := by
  by_cases hRecord : rec.recordId = recordId
  · rw [handleRecord_eq]
    exact checked_quiet hRecord _
  · exact (handleRecord_sameLate hRecord guardians latencyMs).weaken fun _ _ => trivial

/-- A worker does the late verdict of its record at most once. -/
theorem handleRecord_opens (guardians : Channel2Guardians) (latencyMs : PyFloat)
    (rec : ShieldActionRecord) : (workerOnce recordId).Opens
      (AsyncVerdictWorker.handleRecord settings guardians latencyMs rec) := by
  by_cases hRecord : rec.recordId = recordId
  · rw [handleRecord_eq]
    refine checked_opens ?_
    unfold makeAsyncChannel2Handler
    refine Once.Opens.after (Steps.call fun s _ => (workerOnce recordId).rest s)
      fun evalResult _ => ?_
    refine Once.Opens.read_bind fun s _ => ?_
    refine Once.Opens.ofExcept_bind fun verdict _ => ?_
    rw [onVerdict_eq]
    refine checked_opens (Once.Opens.bind (onStorage_opens (publish_opens hRecord _ _ _)) ?_ ?_)
    · exact fun _ => trivial
    · exact fun _ => trivial
  · exact Once.opens_of_steps
      ((handleRecord_sameLate hRecord guardians latencyMs).weaken fun _ _ => trivial)

end Handlers

/-! ## The calls -/

section Calls

variable {σ : Type} {settings : Settings} {t : Channel2Transport σ} {model : RecordModel}
  {recordId : String}

/-- The same on the state of the calls. -/
abbrev callsOnce (σ : Type) (recordId : String) : Once (Channel σ WorkerState) :=
  (workerOnce recordId).on Channel.outside

theorem ack_same (stream group : String) (ids : List String) (w : Channel σ WorkerState) :
    (callsOnce σ recordId).Same w (w.ack t stream group ids).1 := by
  show (workerOnce recordId).Same w.outside (w.ack t stream group ids).1.outside
  rw [outside_ack]
  exact (workerOnce recordId).rest _

theorem read_same (stream group consumer : String) (count blockMs : Int)
    (w : Channel σ WorkerState) :
    (callsOnce σ recordId).Same w (w.read t stream group consumer count blockMs).1 := by
  show (workerOnce recordId).Same w.outside (w.read t stream group consumer count blockMs).1.outside
  unfold Channel.read
  split <;> exact (workerOnce recordId).rest _

section Batch

variable {stream group : String} {handler : ShieldActionRecord → Async WorkerState Raised Unit}

theorem processEntries_quiet (hQuiet : ∀ rec, (workerOnce recordId).Quiet (handler rec))
    (entries : List StreamEntry) (handled : Nat) :
    (callsOnce σ recordId).Quiet
      (processEntries t model stream group handler entries handled) := by
  induction entries generalizing handled with
  | nil => trivial
  | cons entry rest ih =>
      unfold processEntries
      split
      · exact ih handled
      · rename_i record _
        refine Once.Quiet.bind ((hQuiet record).within fun _ _ => rfl) fun _ => ?_
        exact Steps.call_bind (fun w _ => ack_same _ _ _ w) fun _ => ih (handled + 1)

theorem processEntries_opens (hQuiet : ∀ rec, (workerOnce recordId).Quiet (handler rec))
    (hOpens : ∀ rec, (workerOnce recordId).Opens (handler rec))
    (entries : List StreamEntry) (handled : Nat) :
    (callsOnce σ recordId).Opens
      (processEntries t model stream group handler entries handled) := by
  induction entries generalizing handled with
  | nil => trivial
  | cons entry rest ih =>
      unfold processEntries
      split
      · exact ih handled
      · rename_i record _
        refine Once.Opens.bind ((hOpens record).within fun _ _ => rfl) (fun _ => ?_) fun _ => ?_
        · exact Once.Opens.after (Steps.call fun w _ => ack_same _ _ _ w)
            fun _ _ => ih (handled + 1)
        · exact Steps.call_bind (fun w _ => ack_same _ _ _ w)
            fun _ => processEntries_quiet hQuiet rest (handled + 1)

end Batch

theorem runOnce_quiet (c : WorkerCall) :
    (callsOnce σ recordId).Quiet (runOnce t model (c.once settings)) := by
  unfold runOnce
  refine Steps.call_bind (fun w _ => (callsOnce σ recordId).rest w) fun _ => ?_
  refine Steps.call_bind (fun w _ => read_same _ _ _ _ _ w) fun entries => ?_
  exact processEntries_quiet (fun rec => handleRecord_quiet _ _ rec) entries 0

theorem runOnce_opens (c : WorkerCall) :
    (callsOnce σ recordId).Opens (runOnce t model (c.once settings)) := by
  unfold runOnce
  refine Once.Opens.after (Steps.call fun w _ => (callsOnce σ recordId).rest w) fun _ _ => ?_
  refine Once.Opens.after (Steps.call fun w _ => read_same _ _ _ _ _ w) fun entries _ => ?_
  exact processEntries_opens (fun rec => handleRecord_quiet _ _ rec)
    (fun rec => handleRecord_opens _ _ rec) entries 0

theorem lateRecord_none {req : PlatformRequest} (h : req.publishes = false) :
    req.lateRecord? = none := by
  cases req with
  | publish => cases h
  | _ => rfl

/-- Workers and the server do the late verdict of a record at most once each. -/
theorem workerService_respects :
    (callsOnce σ recordId).Respected (workerService settings t model) where
  opens
    | .runOnce c => Once.Opens.bind (runOnce_opens c) (fun _ => trivial) fun _ => trivial
    | .server req hServer => by
        refine Once.Opens.bind (Once.Opens.within (fun _ _ => rfl) (onStorage_opens ?_))
          (fun _ => trivial) fun _ => trivial
        exact opens_of_same (platform_sameLate fun rec hRec => by
          rw [lateRecord_none hServer] at hRec
          cases hRec)
  quiet
    | .runOnce c => Once.Quiet.bind (runOnce_quiet c) fun _ => trivial
    | .server req hServer => by
        refine Once.Quiet.bind (Once.Quiet.within (fun _ _ => rfl) ?_) fun _ => trivial
        refine (onStorage_sameLate (platform_sameLate fun rec hRec => ?_)).weaken
          fun _ _ => trivial
        rw [lateRecord_none hServer] at hRec
        cases hRec
  external
    | .tick ns, w => sameLate_of_eq rfl rfl w.outside.world.cache.sameStreams_refl
    | .xadd stream fields, w => (callsOnce σ recordId).rest w

/-- **One late verdict for a record.**  In every run of any number of workers next to the
server, with any transport and any faults: when every other handler leaves the late
verdict alone once a worker has inserted its row, there is at most one row and at most one
entry. -/
theorem single_late_verdict (settings : Settings) (t : Channel2Transport σ)
    (model : RecordModel) (start : σ) (now : Int) (agents : List Agent)
    (agentKeys : List AgentKey) (events : List (Event (workerService settings t model)))
    (recordId : String)
    (hAlone : (Pool.start (workerStart start now agents agentKeys)).Along
      (callsOnce σ recordId).Alone events) :
    AtMostOneLate recordId
      ((Pool.start (workerStart start now agents agentKeys) :
        Pool (workerService settings t model)).run events).state.outside.world := by
  have hFree : (callsOnce σ recordId).Free (workerStart start now agents agentKeys) :=
    ⟨fun i hi => (by cases hi), rfl, fun _ => rfl⟩
  have hStart : (callsOnce σ recordId).Phase
      (Pool.start (workerStart start now agents agentKeys) :
        Pool (workerService settings t model)) :=
    .free hFree fun i th hTh => by simp [Pool.start] at hTh
  cases Once.run_phase workerService_respects events hStart hAlone with
  | free h _ =>
      obtain ⟨-, hRows, hEntries⟩ := h
      exact atMostOneLate_of_rows (hRows.le.trans (Nat.zero_le 1)) hEntries
  | opened h =>
      obtain ⟨-, hRows, hEntries⟩ := h
      exact atMostOneLate_of_rows hRows.le hEntries
  | closed h _ => exact h.2.2

end Calls

/-! ## Two workers at the same time -/

namespace Sample

/-- A worker of a group reads once; its verdicts have ids of their own. -/
def readAs (group : String) : Event workers :=
  .request (.runOnce
    { group := group
      workflowId := "w"
      guardians := { guardians with verdictId := fun rec => group ++ ":" ++ rec.recordId }
      latencyMs := .finite 1 })

/-- The workers of both groups look before either of them inserts. -/
def bothLook : List (Event workers) :=
  produce :: readAs "shield-evaluator" :: readAs "shield-auditor" ::
    List.replicate 6 (.resume 0 .none) ++ List.replicate 14 (.resume 1 .none) ++
      List.replicate 8 (.resume 0 .none)

/-- The worker of the second group looks when the first has inserted. -/
def oneAfterTheOther : List (Event workers) :=
  produce :: readAs "shield-evaluator" :: List.replicate 14 (.resume 0 .none) ++
    readAs "shield-auditor" :: List.replicate 14 (.resume 1 .none)

/-- The event is no step, or every other handler has ended. -/
def othersDone (p : Pool workers) : Event workers → Bool
  | .resume i _ => (List.range p.threads.length).all fun j =>
      j = i || (p.threads[j]?).all fun t => t.2.finished
  | _ => true

theorem alone_of_othersDone {recordId : String} {p : Pool workers} {e : Event workers}
    (h : othersDone p e = true) : (callsOnce CacheChannel2 recordId).Alone p e := by
  intro _ _ i f he j t hj ht
  subst he
  have hLt : j < p.threads.length := (List.getElem?_eq_some_iff.1 ht).1
  have hDone := List.all_eq_true.1 h j (List.mem_range.2 hLt)
  rw [ht] at hDone
  simp only [hj, decide_false, Bool.false_or, Option.all_some] at hDone
  obtain ⟨r, prog⟩ := t
  cases prog with
  | done res => cases res <;> trivial
  | await upd k => cases hDone

end Sample

/-- **Two late verdicts for one record**, in the table and on the stream. -/
theorem two_late_verdicts :
    lateRows "rec1" (Sample.idleWorkers.run Sample.bothLook).state.outside.world = 2 ∧
      lateEntries "rec1" "banking"
        (Sample.idleWorkers.run Sample.bothLook).state.outside.world = 2 ∧
      ¬ AtMostOneLate "rec1" (Sample.idleWorkers.run Sample.bothLook).state.outside.world := by
  have hRows : lateRows "rec1"
      (Sample.idleWorkers.run Sample.bothLook).state.outside.world = 2 := by
    decide +kernel
  refine ⟨hRows, by decide +kernel, fun h => ?_⟩
  have hRow := h.row
  omega

theorem single_late_verdict_sample :
    AtMostOneLate "rec1" (Sample.idleWorkers.run Sample.oneAfterTheOther).state.outside.world ∧
      lateRows "rec1" (Sample.idleWorkers.run Sample.oneAfterTheOther).state.outside.world = 1 := by
  have hDone : Sample.idleWorkers.Along (fun p e => Sample.othersDone p e = true)
      Sample.oneAfterTheOther := by
    decide +kernel
  exact ⟨single_late_verdict Sample.settings Sample.redis.transport Sample.parser {} 1000
    Sample.agents Sample.agentKeys Sample.oneAfterTheOther "rec1"
    (hDone.mono fun _ _ h => Sample.alone_of_othersDone h), by decide +kernel⟩

end AgentShield.Server
