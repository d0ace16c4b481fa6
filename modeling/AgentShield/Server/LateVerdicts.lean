import AgentShield.Server.AsyncVerdictWorker
import AgentShield.Server.CacheTransport

/-!
# Acknowledged and published

An entry is acknowledged when its record has been handled, or when a check has found a
row for it.  The row is inserted before the entry of the verdict stream, so a row alone
says little: a record is published when the row and the entry are there
(`acknowledged_published`).
-/

namespace AgentShield.Server

open AgentShield.Lib AgentShield.Lib.Async AgentShield.Sdk AgentShield.Governance

/-! ## What is published stays published -/

section Published

variable {settings : Settings} {w w' : World} {rec : ShieldActionRecord}

/-- No step of the server takes an entry from a stream. -/
theorem PlatformStep.streams (h : PlatformStep settings w w') : w.cache.Extends w'.cache := by
  cases h with
  | tick ns => exact w.cache.extends_refl
  | handler h =>
      have hTransaction : ∀ {sts : List Statement}, w.transaction sts = .ok w' →
          w.cache.Extends w'.cache := by
        intro sts hTx
        obtain ⟨db, -, rfl⟩ := World.transaction_ok hTx
        exact w.cache.extends_refl
      cases h with
      | cache c hStreams => exact hStreams
      | submit _ _ _ _ hTx => exact hTransaction hTx
      | decide _ _ _ _ _ _ _ _ hTx => exact hTransaction hTx
      | record _ _ _ _ _ _ hTx => exact hTransaction hTx
      | publish _ hTx => exact hTransaction hTx
      | _ => exact w.cache.extends_refl

/-- The rows are equal but for the resolution. -/
def SameVerdict (r r' : GovernanceVerdictRow) : Prop :=
  { r' with resolution := none, resolvedAt := none } =
    { r with resolution := none, resolvedAt := none }

/-- No step of the server takes the row of a verdict, or changes more of it than its
resolution. -/
theorem PlatformStep.verdictRow (h : PlatformStep settings w w') {r : GovernanceVerdictRow}
    (hr : r ∈ w.db.governanceVerdicts) : ∃ r' ∈ w'.db.governanceVerdicts, SameVerdict r r' := by
  cases h with
  | tick ns => exact ⟨r, hr, rfl⟩
  | handler h =>
      have hTransaction : ∀ {sts : List Statement}, w.transaction sts = .ok w' →
          ∃ r' ∈ w'.db.governanceVerdicts, SameVerdict r r' := by
        intro sts hTx
        obtain ⟨db, hDb, rfl⟩ := World.transaction_ok hTx
        refine ⟨r, ?_, rfl⟩
        show r ∈ db.governanceVerdicts
        rw [(Database.transaction_governanceVerdicts hDb).1]
        exact List.mem_append_left _ hr
      cases h with
      | submit _ _ _ _ hTx => exact hTransaction hTx
      | decide _ _ _ _ _ _ _ _ hTx => exact hTransaction hTx
      | record _ _ _ _ _ _ hTx => exact hTransaction hTx
      | publish _ hTx => exact hTransaction hTx
      | resolve decision resolvedAt incidentId =>
          refine ⟨_, List.mem_map_of_mem hr, ?_⟩
          by_cases hIncident : r.verdictId = incidentId
          · rw [if_pos hIncident]
            rfl
          · rw [if_neg hIncident]
            rfl
      | _ => exact ⟨r, hr, rfl⟩

/-- The verdict carries the server's signature for the record. -/
def SignedFor (settings : Settings) (rec : ShieldActionRecord) (verdict : GovernanceVerdict) :
    Prop :=
  ∃ unsigned servedAt latencyMs, verdict =
    serveVerdict settings.prim settings.serverSigningKey rec unsigned servedAt latencyMs

/-- The row of a verdict for the record is stored. -/
def RowStored (rec : ShieldActionRecord) (verdict : GovernanceVerdict) (w : World) : Prop :=
  ∃ row ∈ w.db.governanceVerdicts, ∃ verdictKey createdAt,
    SameVerdict (governanceVerdictInsert rec verdict verdictKey createdAt) row

/-- A signed verdict for the record has its row and its entry. -/
def Published (settings : Settings) (rec : ShieldActionRecord) (w : World) : Prop :=
  ∃ verdict, SignedFor settings rec verdict ∧ RowStored rec verdict w ∧
    verdictEntry settings.prim rec verdict ∈
      w.cache.entries (streamName verdictsStreamPrefix rec.workflowId)

theorem rowStored_step {verdict : GovernanceVerdict} (h : RowStored rec verdict w)
    (hStep : PlatformStep settings w w') : RowStored rec verdict w' := by
  obtain ⟨row, hRow, verdictKey, createdAt, hSame⟩ := h
  obtain ⟨row', hRow', hSame'⟩ := hStep.verdictRow hRow
  exact ⟨row', hRow', verdictKey, createdAt, hSame'.trans hSame⟩

theorem published_step (h : Published settings rec w) (hStep : PlatformStep settings w w') :
    Published settings rec w' := by
  obtain ⟨verdict, hSigned, hRow, hEntry⟩ := h
  exact ⟨verdict, hSigned, rowStored_step hRow hStep, (hStep.streams _).subset hEntry⟩

/-- **Publishing a late verdict** ends with the row and the entry, whatever the others do
in between. -/
theorem publishAsyncVerdict_sat (verdict : GovernanceVerdict)
    (guardianEvidence : List GuardianEvidence) (latencyMs : PyFloat) :
    Sat (PlatformStep settings) (fun _ _ => True) (PlatformStep settings)
      (fun r w => ∀ v, r = .ok v → Published settings rec w)
      (publishAsyncVerdict settings.prim settings.serverSigningKey rec verdict guardianEvidence
        latencyMs) (fun _ => True) := by
  have hHandler : ∀ {w w' : World}, HandlerStep settings (fun _ => False) w w' →
      PlatformStep settings w w' := .handler
  have hG : Ambient (PlatformStep settings) :=
    ⟨platformStep_rest, fun w c hStreams => hHandler (.cache w c hStreams.extends)⟩
  have hTrue : Stable (PlatformStep settings) fun _ => True := fun _ _ _ _ => trivial
  have hFails : ∀ e (w : World) v, (.error e : Except Failure GovernanceVerdict) = .ok v →
      Published settings rec w := by
    intro e w v h
    cases h
  unfold publishAsyncVerdict
  refine Sat.read_bind hG.rest fun w _ => ⟨_, hTrue, trivial, ?_⟩
  refine Sat.write_bind (fun w _ => hHandler (.store w _ _)) fun w _ _ => ⟨_, hTrue, trivial, ?_⟩
  refine Steps.sat_bind (storeEvidence_steps _ fun w body => hHandler (.store w _ body)) hFails
    fun _ => ?_
  refine Sat.read_bind hG.rest fun created _ => ⟨_, hTrue, trivial, ?_⟩
  generalize hServed : serveVerdict settings.prim settings.serverSigningKey rec verdict _ latencyMs
    = signed
  have hSigned : SignedFor settings rec signed := ⟨verdict, _, latencyMs, hServed.symm⟩
  refine Sat.attempt_bind hG.rest (fun w w' _ hTx => ⟨hHandler (.publish _ hTx), fun _ => ?_⟩)
    fun w e _ _ => ⟨_, hTrue, trivial, fun w _ => hFails e w⟩
  have hStored : RowStored rec signed w' := by
    obtain ⟨db, hDb, rfl⟩ := World.transaction_ok hTx
    refine ⟨governanceVerdictInsert rec signed
      (verdictObjectKey rec.orgId rec.agentId signed.verdictId) created.now, ?_, _, _, rfl⟩
    show _ ∈ db.governanceVerdicts
    rw [(Database.transaction_governanceVerdicts hDb).1]
    exact List.mem_append_right _ List.mem_cons_self
  have hStable : Stable (PlatformStep settings) (RowStored rec signed) :=
    fun _ _ hStep h => rowStored_step h hStep
  refine ⟨_, hStable, hStored, ?_⟩
  unfold fanVerdicts
  rw [bind_assoc']
  refine Sat.bind (S := fun _ w => RowStored rec signed w) ?_ fun _ => ?_
  · refine ((ensureGroups_steps hG _ _).sat.keep (P := fun _ => True)
      (fun _ _ h hStep => rowStored_step h hStep) hStable).post ?_ |>.weaken fun w h => ⟨trivial, h⟩
    intro r w h
    cases r with
    | ok a => exact h.2
    | error e => exact hFails e w
  · have hAppend : ∀ w stream fields, PlatformStep settings w (w.xadd stream fields) :=
      fun w stream fields => hHandler (.cache w _ (w.cache.extends_xadd stream fields))
    refine Sat.write_bind (fun w _ => hAppend w _ _) fun w h _ => ?_
    refine ⟨Published settings rec, fun _ _ hStep h => published_step h hStep, ?_,
      fun w h v _ => h⟩
    refine ⟨signed, hSigned, rowStored_step h (hAppend w _ _), ?_⟩
    show _ ∈ (w.cache.xadd _ _).entries _
    rw [Cache.entries_xadd]
    exact List.mem_append_right _ List.mem_cons_self

end Published

/-! ## The handler of a record -/

section Worker

variable {settings : Settings} {s s' : WorkerState} {rec : ShieldActionRecord}

/-- What one step of a handler does to the worker's state. -/
inductive WorkerStep (settings : Settings) : WorkerState → WorkerState → Prop
  | storage (s : WorkerState) {w : World} (h : PlatformStep settings s.world w) :
      WorkerStep settings s { s with world := w }
  | skip (s : WorkerState) (record : ShieldActionRecord) :
      WorkerStep settings s { s with skipped := s.skipped ++ [record] }

theorem workerStep_rest (s : WorkerState) : WorkerStep settings s s :=
  .storage s (platformStep_rest s.world)

theorem WorkerStep.platformStep (h : WorkerStep settings s s') :
    PlatformStep settings s.world s'.world := by
  cases h with
  | storage h => exact h
  | skip record => exact platformStep_rest s.world

/-- When the step skips a record that has been executed, the record is published. -/
def SkipsPublished (settings : Settings) (s s' : WorkerState) : Prop :=
  ∀ rec, s'.skipped = s.skipped ++ [rec] → rec.phase = .postExec →
    Published settings rec s.world

/-- The steps of the others, between those of a handler. -/
abbrev OtherWork (settings : Settings) (s s' : WorkerState) : Prop :=
  WorkerStep settings s s' ∧ SkipsPublished settings s s'

/-- The record is published, if it has been executed. -/
def Late (settings : Settings) (rec : ShieldActionRecord) (s : WorkerState) : Prop :=
  rec.phase = .postExec → Published settings rec s.world

theorem late_step (h : Late settings rec s) (hStep : WorkerStep settings s s') :
    Late settings rec s' :=
  fun hPhase => published_step (h hPhase) hStep.platformStep

theorem late_stable : Stable (OtherWork settings) (Late settings rec) :=
  fun _ _ hStep h => late_step h hStep.1

/-- What a handler leaves when it ends without an error. -/
def HandledLate (settings : Settings) (rec : ShieldActionRecord) (r : Except Raised Unit)
    (s : WorkerState) : Prop :=
  r = .ok () → Late settings rec s

theorem handledLate_error (e : Raised) (s : WorkerState) :
    HandledLate settings rec (.error e) s := by
  intro h
  cases h

/-- A check: where it finds a row, the record is published. -/
theorem alreadyPublished_bind_sat {next : Async WorkerState Raised Unit}
    (h : Sat (OtherWork settings) (SkipsPublished settings) (WorkerStep settings)
      (HandledLate settings rec) next fun _ => True) :
    Sat (OtherWork settings) (SkipsPublished settings) (WorkerStep settings)
      (HandledLate settings rec)
      (AsyncVerdictWorker.alreadyPublished rec >>= fun published =>
        if published then pure () else next) fun _ => True := by
  refine Sat.act_bind fun s _ => ?_
  cases s.world.db.findVerdictOf rec.recordId with
  | none => exact ⟨workerStep_rest s, fun _ => ⟨_, fun _ _ _ _ => trivial, trivial, h⟩⟩
  | some row =>
      refine ⟨.skip s rec, fun hSkips => ⟨Late settings rec, late_stable, ?_, ?_⟩⟩
      · exact fun hPhase => hSkips rec rfl hPhase
      · exact fun s hLate _ => hLate

theorem onStorage_steps {α : Type} {prog : Handler α} {Q : α → Prop}
    (h : Steps (fun _ => True) (PlatformStep settings) Q prog) :
    Steps (fun _ => True) (WorkerStep settings) Q (onStorage prog) := by
  refine (Steps.onPart h.mapError).guarantee ?_
  rintro s s' ⟨w, hStep, rfl⟩
  exact .storage s hStep

/-- Publishing from a worker. -/
theorem publish_sat (verdict : GovernanceVerdict) (guardianEvidence : List GuardianEvidence)
    (latencyMs : PyFloat) :
    Sat (OtherWork settings) (SkipsPublished settings) (WorkerStep settings)
      (fun r s => ∀ v, r = .ok v → Published settings rec s.world)
      (onStorage (publishAsyncVerdict settings.prim settings.serverSigningKey rec verdict
        guardianEvidence latencyMs)) (fun _ => True) := by
  have hMapped : Sat (PlatformStep settings) (fun _ _ => True) (PlatformStep settings)
      (fun r w => ∀ v, r = .ok v → Published settings rec w)
      ((publishAsyncVerdict settings.prim settings.serverSigningKey rec verdict guardianEvidence
        latencyMs).mapError fun _ => Raised.other "storage") (fun _ => True) := by
    refine Sat.mapError ((publishAsyncVerdict_sat verdict guardianEvidence latencyMs).post ?_)
    intro r w h v hv
    cases r with
    | ok v' => exact h v' rfl
    | error e => cases hv
  have hPart : Sat (OtherWork settings) (SkipsPublished settings)
      (fun s s' => ∃ w, PlatformStep settings s.world w ∧ s' = { s with world := w })
      (fun r s => ∀ v, r = .ok v → Published settings rec s.world)
      (onStorage (publishAsyncVerdict settings.prim settings.serverSigningKey rec verdict
        guardianEvidence latencyMs)) (fun _ => True) :=
    Sat.onPart _ _ (fun _ _ => rfl) (fun _ _ hStep => hStep.1.platformStep) (fun _ _ _ => trivial)
      hMapped
  refine hPart.guarantee ?_
  rintro s s' ⟨w, hStep, rfl⟩
  exact .storage s hStep

/-- **Handling a record** that has been executed ends with its publication, or with an
error. -/
theorem handleRecord_sat (guardians : Channel2Guardians) (latencyMs : PyFloat) :
    Sat (OtherWork settings) (SkipsPublished settings) (WorkerStep settings)
      (HandledLate settings rec)
      (AsyncVerdictWorker.handleRecord settings guardians latencyMs rec) fun _ => True := by
  unfold AsyncVerdictWorker.handleRecord
  refine alreadyPublished_bind_sat ?_
  unfold makeAsyncChannel2Handler
  have hEvaluate : Steps (fun _ => True) (WorkerStep settings) (fun _ => True)
      (call fun s : WorkerState => (s, guardians.evaluate rec)) :=
    Steps.call fun s _ => workerStep_rest s
  have hKey : Steps (fun _ => True) (WorkerStep settings) (fun _ => True)
      (AsyncVerdictWorker.resolveKey rec.agentPubkeyKid) :=
    fun s _ => ⟨workerStep_rest s, trivial⟩
  refine Steps.sat_bind hEvaluate handledLate_error fun evalResult => ?_
  refine Steps.sat_bind hKey handledLate_error fun publicKey => ?_
  refine Sat.ofExcept_bind (fun e _ s _ => handledLate_error e s) fun verdict _ => ?_
  unfold AsyncVerdictWorker.onVerdict
  refine alreadyPublished_bind_sat ?_
  refine Sat.bind (S := fun _ s => Late settings rec s) ?_ fun _ s h _ => h
  refine (publish_sat _ _ latencyMs).post fun r s h => ?_
  cases r with
  | ok v => exact fun _ => h v rfl
  | error e => exact handledLate_error e s

end Worker

/-! ## The calls of the workers -/

section Calls

variable {σ : Type} {settings : Settings} {t : Channel2Transport σ} {model : RecordModel}
  {w w' : Channel σ WorkerState}

/-- The entry parses, and its record is published if it has been executed. -/
def EntryPublished (settings : Settings) (model : RecordModel) (entry : StreamEntry)
    (s : WorkerState) : Prop :=
  ∃ record, decodeRecord model entry = some record ∧ Late settings record s

/-- What one step of a handler does: only entries that are published are acknowledged. -/
inductive WorkStep (settings : Settings) (t : Channel2Transport σ) (model : RecordModel) :
    Channel σ WorkerState → Channel σ WorkerState → Prop
  | transport {w w' : Channel σ WorkerState} (h : ChannelStep t w w')
      (hOutside : w'.outside = w.outside) (hAcked : w'.acked = w.acked) :
      WorkStep settings t model w w'
  | ack (stream group : String) (entry : StreamEntry) (w : Channel σ WorkerState)
      (hReturned : (stream, group, entry) ∈ w.returned)
      (hPublished : EntryPublished settings model entry w.outside) :
      WorkStep settings t model w (w.ack t stream group [entry.id]).1
  | work (w : Channel σ WorkerState) {o : WorkerState}
      (h : WorkerStep settings w.outside o) : WorkStep settings t model w { w with outside := o }

theorem workStep_rest (w : Channel σ WorkerState) : WorkStep settings t model w w :=
  .transport (.rest w) rfl rfl

theorem outside_ack (stream group : String) (ids : List String) (w : Channel σ WorkerState) :
    (w.ack t stream group ids).1.outside = w.outside := by
  unfold Channel.ack
  split <;> rfl

theorem WorkStep.workerStep (h : WorkStep settings t model w w') :
    WorkerStep settings w.outside w'.outside := by
  cases h with
  | transport _ hOutside _ =>
      rw [hOutside]
      exact workerStep_rest _
  | ack =>
      rw [outside_ack]
      exact workerStep_rest _
  | work _ h => exact h

theorem WorkStep.returned (h : WorkStep settings t model w w') : w.returned <+: w'.returned := by
  cases h with
  | transport h => exact (history_step h).1
  | ack => exact (history_step (.ack _ _ _ w)).1
  | work => exact List.prefix_refl _

/-- Every id that has been acknowledged is that of an entry that was returned and is
published. -/
def AckedPublished (settings : Settings) (model : RecordModel) (w : Channel σ WorkerState) :
    Prop :=
  ∀ x ∈ w.acked, ∃ entry, (x.1, x.2.1, entry) ∈ w.returned ∧ entry.id = x.2.2 ∧
    EntryPublished settings model entry w.outside

theorem ackedPublished_step (h : AckedPublished settings model w)
    (hStep : WorkStep settings t model w w') : AckedPublished settings model w' := by
  have hKept : ∀ x ∈ w.acked, ∃ entry, (x.1, x.2.1, entry) ∈ w'.returned ∧
      entry.id = x.2.2 ∧ EntryPublished settings model entry w'.outside := by
    intro x hx
    obtain ⟨entry, hReturned, hId, record, hDecode, hLate⟩ := h x hx
    exact ⟨entry, hStep.returned.subset hReturned, hId, record, hDecode,
      late_step hLate hStep.workerStep⟩
  intro x hx
  cases hStep with
  | transport _ _ hAcked =>
      rw [hAcked] at hx
      exact hKept x hx
  | work => exact hKept x hx
  | ack stream group entry _ hReturned hPublished =>
      have hOutside := outside_ack (t := t) stream group [entry.id] w
      have hHistory := returned_ack (t := t) stream group [entry.id] w
      have hAcked : x ∈ w.acked ∨ x = (stream, group, entry.id) := by
        unfold Channel.ack at hx
        split at hx
        · simpa using hx
        · exact .inl hx
      rcases hAcked with hOld | rfl
      · exact hKept x hOld
      · refine ⟨entry, ?_, rfl, ?_⟩
        · rw [hHistory]
          exact hReturned
        · rw [hOutside]
          exact hPublished

/-- The steps of the others, between those of a call. -/
abbrev OtherCalls (settings : Settings) (t : Channel2Transport σ) (model : RecordModel)
    (w w' : Channel σ WorkerState) : Prop :=
  WorkStep settings t model w w' ∧ SkipsPublished settings w.outside w'.outside

abbrev CallSat {α : Type} (settings : Settings) (t : Channel2Transport σ) (model : RecordModel)
    (Q : Except Raised α → Channel σ WorkerState → Prop)
    (prog : Async (Channel σ WorkerState) Raised α) (P : Channel σ WorkerState → Prop) : Prop :=
  Sat (OtherCalls settings t model) (fun w w' => SkipsPublished settings w.outside w'.outside)
    (WorkStep settings t model) Q prog P

theorem besides_steps {α : Type} {prog : Async WorkerState Raised α} {Q : α → Prop}
    (h : Steps (fun _ => True) (WorkerStep settings) Q prog) :
    Steps (fun _ => True) (WorkStep settings t model) Q (besides prog) := by
  refine (Steps.onPart h).guarantee ?_
  rintro w w' ⟨o, hStep, rfl⟩
  exact .work w hStep

theorem besides_sat {Q : Except Raised Unit → WorkerState → Prop}
    {prog : Async WorkerState Raised Unit}
    (h : Sat (OtherWork settings) (SkipsPublished settings) (WorkerStep settings) Q prog
      fun _ => True) :
    CallSat settings t model (fun r w => Q r w.outside) (besides prog) fun _ => True := by
  have hPart : Sat (OtherCalls settings t model)
      (fun w w' => SkipsPublished settings w.outside w'.outside)
      (fun w w' => ∃ o, WorkerStep settings w.outside o ∧ w' = { w with outside := o })
      (fun r w => Q r w.outside) (besides prog) (fun _ => True) :=
    Sat.onPart Channel.outside _ (fun _ _ => rfl)
      (fun _ _ hStep => ⟨hStep.1.workerStep, hStep.2⟩) (fun _ _ hC => hC) h
  refine hPart.guarantee ?_
  rintro w w' ⟨o, hStep, rfl⟩
  exact .work w hStep

/-- What has been returned stays in the history. -/
def ReturnedAll (stream group : String) (entries : List StreamEntry)
    (w : Channel σ WorkerState) : Prop :=
  ∀ entry ∈ entries, (stream, group, entry) ∈ w.returned

theorem returnedAll_step {stream group : String} {entries : List StreamEntry}
    (h : ReturnedAll stream group entries w) (hStep : WorkStep settings t model w w') :
    ReturnedAll stream group entries w' :=
  fun entry hEntry => hStep.returned.subset (h entry hEntry)

/-- **The loop over a batch** acknowledges what it has published: an entry is acknowledged
after its handler, which has published a verdict on its record or found one. -/
theorem processEntries_sat {stream group : String}
    {handler : ShieldActionRecord → Async WorkerState Raised Unit}
    (hHandler : ∀ record, Sat (OtherWork settings) (SkipsPublished settings)
      (WorkerStep settings) (HandledLate settings record) (handler record) fun _ => True)
    (entries : List StreamEntry) (handled : Nat) :
    CallSat settings t model (fun _ _ => True)
      (processEntries t model stream group handler entries handled)
      (ReturnedAll stream group entries) := by
  induction entries generalizing handled with
  | nil => exact Sat.pure fun _ _ => trivial
  | cons entry rest ih =>
      have hRest : ∀ w : Channel σ WorkerState, ReturnedAll stream group (entry :: rest) w →
          ReturnedAll stream group rest w :=
        fun w h e he => h e (List.mem_cons_of_mem _ he)
      have hStable : Stable (OtherCalls settings t model)
          (ReturnedAll (σ := σ) stream group (entry :: rest)) :=
        fun _ _ hStep h => returnedAll_step h hStep.1
      unfold processEntries
      cases hDecode : decodeRecord model entry with
      | none => exact (ih handled).weaken hRest
      | some record =>
          refine Sat.bind (S := fun _ w => Late settings record w.outside ∧
            ReturnedAll stream group (entry :: rest) w) ?_ fun _ => ?_
          · refine (((besides_sat (hHandler record)).keep
              (fun _ _ h hStep => returnedAll_step h hStep) hStable).post ?_).weaken
              fun w h => ⟨trivial, h⟩
            intro r w h
            cases r with
            | ok a => exact ⟨h.1 rfl, h.2⟩
            | error e => trivial
          · refine Sat.call_bind (fun w h => ?_) fun w h _ => ?_
            · exact .ack stream group entry w (h.2 entry List.mem_cons_self)
                ⟨record, hDecode, h.1⟩
            · refine ⟨ReturnedAll stream group rest, ?_, ?_, fun _ _ _ _ => trivial,
                fun _ _ => ih (handled + 1)⟩
              · exact fun _ _ hStep h => returnedAll_step h hStep.1
              · have hKept := returned_ack (t := t) stream group [entry.id] w
                intro e he
                rw [hKept]
                exact hRest w h.2 e he

/-- What a read returns is in the history from then on. -/
theorem read_bind_sat {stream group consumer : String} {count blockMs : Int}
    {next : List StreamEntry → Async (Channel σ WorkerState) Raised Nat}
    (h : ∀ entries, CallSat settings t model (fun _ _ => True) (next entries)
      (ReturnedAll stream group entries)) :
    CallSat settings t model (fun _ _ => True)
      (call (Channel.read t stream group consumer count blockMs) >>= next) fun _ => True := by
  refine Sat.call_bind (fun w _ => .transport (.read _ _ _ _ _ w) ?_ ?_) fun w _ _ => ?_
  · unfold Channel.read
    split <;> rfl
  · unfold Channel.read
    split <;> rfl
  · refine ⟨fun w' => ∀ entries, (w.read t stream group consumer count blockMs).2 = .ok entries →
      ReturnedAll stream group entries w', ?_, ?_, fun _ _ _ _ => trivial, ?_⟩
    · exact fun _ _ hStep h entries hOk => returnedAll_step (h entries hOk) hStep.1
    · intro entries hOk entry hEntry
      rw [returned_read, hOk]
      exact List.mem_append_right _ (List.mem_map_of_mem hEntry)
    · exact fun entries hOk => (h entries).weaken fun w' hAll => hAll entries hOk

/-- A call acknowledges what it has published. -/
theorem runOnce_sat (c : WorkerCall) :
    CallSat settings t model (fun _ _ => True) (runOnce t model (c.once settings))
      fun _ => True := by
  unfold runOnce
  refine Sat.call_bind (fun w _ => .transport (.ensureGroup _ _ w) rfl rfl) fun w _ _ => ?_
  refine ⟨fun _ => True, fun _ _ _ _ => trivial, trivial, fun _ _ _ _ => trivial, fun _ _ => ?_⟩
  exact read_bind_sat fun entries =>
    processEntries_sat (fun record => handleRecord_sat c.guardians c.latencyMs) entries 0

theorem workerService_keeps :
    (workerService settings t model).Keeps
      (fun w w' => SkipsPublished settings w.outside w'.outside) (WorkStep settings t model) where
  rest := workStep_rest
  external
    | .tick ns, w => .work w (.storage w.outside (.tick w.outside.world ns))
    | .xadd stream fields, w => .transport (.xadd stream fields w) rfl rfl
  handler
    | .runOnce c => Sat.bind (S := fun _ _ => True) ((runOnce_sat c).post fun r _ _ => by
        cases r <;> trivial) fun n => Sat.pure fun _ _ => trivial
    | .server req _ => by
        have hServer : Steps (fun _ => True) (WorkerStep settings) (fun _ => True)
            (onStorage (platform settings req)) :=
          onStorage_steps (platform_steps req).platformSteps
        have hSteps : Steps (fun _ => True) (WorkStep settings t model) (fun _ => True)
            (besides (onStorage (platform settings req))) := besides_steps hServer
        exact Steps.sat_bind hSteps (fun _ _ => trivial) fun res => Sat.pure fun _ _ => trivial

/-- **Acknowledged implies published.**  In every run of any number of workers next to the
server, with any transport, any guardians, any faults and any redelivery: when no check of a
worker finds the row of an executed record before the record is published, every
acknowledged id is that of an entry whose record is published, if it has been executed. -/
theorem acknowledged_published (settings : Settings) (t : Channel2Transport σ)
    (model : RecordModel) (start : σ) (now : Int) (agents : List Agent)
    (agentKeys : List AgentKey) (events : List (Event (workerService settings t model)))
    (hRun : (Pool.start (workerStart start now agents agentKeys)).Within
      (fun w w' => SkipsPublished settings w.outside w'.outside) events) :
    AckedPublished settings model
      ((Pool.start (workerStart start now agents agentKeys) :
        Pool (workerService settings t model)).run events).state :=
  Pool.run_inv workerService_keeps (fun _ _ h hStep _ => ackedPublished_step h hStep)
    (Pool.allOk_start _) events hRun fun x hx => by cases hx

end Calls

/-! ## A failing append -/

namespace Sample

/-- Guardians that have nothing against a record. -/
def guardians : Channel2Guardians where
  evaluate _ := .ok { anomaly := 0 }
  audit _ _ := {}
  supervisor := { policy := {}, arbiter := conservativeArbiter }
  verdictId rec := rec.recordId ++ "-late"
  evidence _ := []

/-- The workers on one Redis server. -/
abbrev workers : Service (Channel CacheChannel2 WorkerState) Raised :=
  workerService settings redis.transport parser

def idleWorkers : Pool workers := Pool.start (workerStart {} 1000 agents agentKeys)

/-- A producer appends an executed record. -/
def produce : Event workers :=
  .external (.xadd (streamKey "w" defaultStreamPrefix) [("record", "first")])

/-- A worker of a group reads once. -/
def readOnce (group : String) : Event workers :=
  .request (.runOnce
    { group := group, workflowId := "w", guardians := guardians, latencyMs := .finite 1 })

/-- The first worker stops between the row and the entry, and the worker of the second
group handles the record again. -/
def stoppedBeforeAppend : List (Event workers) :=
  produce :: readOnce "shield-evaluator" :: List.replicate 12 (.resume 0 .none) ++
    .resume 0 .before :: readOnce "shield-auditor" :: List.replicate 4 (.resume 1 .none)

/-- A worker handles the record to the end. -/
def handledOnce : List (Event workers) :=
  produce :: readOnce "shield-evaluator" :: List.replicate 14 (.resume 0 .none)

end Sample

/-- **Acknowledged and not published.**  The row is there and the entry is not, and the
worker of the second group acknowledges the record. -/
theorem acknowledged_without_entry :
    ¬ AckedPublished Sample.settings Sample.parser
      (Sample.idleWorkers.run Sample.stoppedBeforeAppend).state := by
  intro h
  have hAcked : (Sample.idleWorkers.run Sample.stoppedBeforeAppend).state.acked =
      [("shield:actions:w", "shield-auditor", "1-0")] := by decide +kernel
  have hReturned : ∀ x ∈ (Sample.idleWorkers.run Sample.stoppedBeforeAppend).state.returned,
      decodeRecord Sample.parser x.2.2 =
        some (Sample.action "rec1" "n1" .postExec 1000 genesisChainHash "ph") := by
    decide +kernel
  have hEmpty : (Sample.idleWorkers.run
      Sample.stoppedBeforeAppend).state.outside.world.cache.entries
        "shield:verdicts:banking" = [] := by
    decide +kernel
  have hOne := h _ (hAcked ▸ List.mem_singleton_self _)
  obtain ⟨entry, hEntry, -, record, hDecode, hLate⟩ := hOne
  obtain rfl := Option.some.inj ((hReturned _ hEntry).symm.trans hDecode)
  obtain ⟨verdict, -, -, hPublished⟩ := hLate rfl
  have hStream : streamName verdictsStreamPrefix
      (Sample.action "rec1" "n1" .postExec 1000 genesisChainHash "ph").workflowId =
        "shield:verdicts:banking" := by
    decide +kernel
  rw [hStream, hEmpty] at hPublished
  cases hPublished

theorem acknowledged_published_sample :
    AckedPublished Sample.settings Sample.parser
        (Sample.idleWorkers.run Sample.handledOnce).state ∧
      (Sample.idleWorkers.run Sample.handledOnce).state.acked ≠ [] := by
  have hNoSkip : Sample.idleWorkers.Within
      (fun w w' => w'.outside.skipped.length = w.outside.skipped.length) Sample.handledOnce := by
    decide +kernel
  refine ⟨acknowledged_published Sample.settings Sample.redis.transport Sample.parser {} 1000
    Sample.agents Sample.agentKeys Sample.handledOnce (hNoSkip.mono ?_), by decide +kernel⟩
  intro w w' hLength rec hSkips
  rw [hSkips, List.length_append] at hLength
  simp at hLength

end AgentShield.Server
