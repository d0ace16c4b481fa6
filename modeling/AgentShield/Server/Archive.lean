import AgentShield.Server.Merkle
import AgentShield.Server.Platform

/-!
# Epochs and exports in the stores

The scheduler persists at most one epoch of an organisation a tick, the epoch read signs
and stores an epoch that has no evidence yet, and an export writes the operations and
verdicts of a time range.  `archiveService` is the server together with all three.
-/

namespace AgentShield.Server

open AgentShield.Lib AgentShield.Lib.Async AgentShield.Sdk

inductive ExportStatus where
  | queued
  | running
  | done
  | failed
  deriving DecidableEq

/-- A row of `exports`, which says where the file lies and what was asked for. -/
structure ExportModel where
  exportId : String
  orgId : String
  status : ExportStatus
  queryParams : String
  r2ExportKey : Option String := none
  createdAt : Int
  completedAt : Option Int := none
  deriving DecidableEq

/-- The stores with the tables of epochs and exports. -/
structure Archive where
  world : World
  epochs : List Epoch := []
  exports : List ExportModel := []

abbrev ArchiveHandler := Async Archive Failure

/-- A handler of the server next to the two tables. -/
def onWorld {α : Type} (prog : Handler α) : ArchiveHandler α :=
  within Archive.world (fun s w => { s with world := w }) prog

namespace Archive

def put (s : Archive) (key : String) (body : Body) : Archive :=
  { s with world := s.world.put key body }

/-- The INSERT of an epoch, whose id is the primary key. -/
def insertEpoch (epoch : Epoch) (s : Archive) : Except Failure Archive :=
  if ∃ e ∈ s.epochs, e.epochId = epoch.epochId then .error (.database (.primaryKey "epochs"))
  else .ok { s with epochs := s.epochs ++ [epoch] }

/-- The INSERT of an export, whose id is the primary key. -/
def insertExport (row : ExportModel) (s : Archive) : Except Failure Archive :=
  if ∃ r ∈ s.exports, r.exportId = row.exportId then .error (.database (.primaryKey "exports"))
  else .ok { s with exports := s.exports ++ [row] }

end Archive

/-- The parameters of a server with an archive. -/
structure ArchiveSettings extends Settings where
  sha256 : Sha256 prim
  py : Pydantic
  renderCompliancePdf : Json → Except Failure Body

section Handlers

variable (settings : ArchiveSettings)

/-! ## Epochs -/

/-- The epochs of an organisation, the latest first. -/
def persistedEpochs (orgId : String) : ArchiveHandler (List Epoch) :=
  read fun s => (s.epochs.filter fun e => e.orgId = orgId).insertionSort fun e e' =>
    e'.createdAt ≤ e.createdAt

/-- `_computed_epochs`: the stored epochs, or where there is none the one over all operations
so far. -/
def computedEpochs (orgId : String) : ArchiveHandler (List Epoch) := do
  let persisted ← persistedEpochs orgId
  if persisted ≠ [] then return persisted
  else do
    let ops ← read fun s => s.world.db.operations
    return (epochFromOperationRows settings.sha256 orgId ops).toList

/-- The object of a stored document.  A key that is empty or unknown, and a document that is
no object, give none. -/
def loadJson (key : Option String) : ArchiveHandler (Option Json) :=
  match key with
  | none => pure none
  | some key =>
      if key = "" then pure none
      else read fun s =>
        match s.world.get key with
        | some (.document (.obj fields)) => some (.obj fields)
        | _ => none

/-- The evidence in an artifact, when it is of the epoch.  Evidence that does not validate
raises, and that of another epoch is passed over. -/
def storedEer (epoch : Epoch) (artifact : Option Json) : Except Failure (Option EER) :=
  match artifact.bind fun doc => doc.field? "eer" with
  | some (.obj fields) =>
      match EER.modelValidate settings.py (.obj fields) with
      | none => .error .validation
      | some eer =>
          .ok (if eer.epochId = epoch.epochId ∧ eer.orgId = epoch.orgId then some eer else none)
  | _ => .ok none

structure GetEpochResponse where
  epoch : Epoch
  eer : EER
  deriving DecidableEq

/-- Signs an epoch and stores it with its evidence. -/
def storeArtifact (epoch : Epoch) : ArchiveHandler EER := do
  let eer := signEer settings.prim epoch settings.serverSigningKey
  write fun s => s.put epoch.r2EpochKey (.ofJson (epochArtifact epoch eer))
  return eer

/-- The persisted epochs, or else the one that the operations give. -/
def epochCandidates (orgId : String) (persisted : List Epoch) : ArchiveHandler (List Epoch) :=
  if persisted ≠ [] then pure persisted else computedEpochs settings orgId

/-- `epoch_detail`: the epoch with the id among those shown, with its stored or freshly signed
receipt. -/
def epochDetail (orgId epochId : String) : ArchiveHandler GetEpochResponse := do
  let persisted ← persistedEpochs orgId
  let candidates ← epochCandidates settings orgId persisted
  let epoch ← require (candidates.find? fun e => e.epochId = epochId)
    (.app (.withMessage 404 .notFound "Epoch not found."))
  let artifact ← loadJson (some epoch.r2EpochKey)
  let stored ← ofExcept (if persisted ≠ [] then storedEer settings epoch artifact else .ok none)
  match stored with
  | some eer => return { epoch := epoch, eer := eer }
  | none => do
      let eer ← storeArtifact settings epoch
      return { epoch := epoch, eer := eer }

inductive EpochSchedulerStatus where
  | created
  | alreadyPersisted
  | skippedEmpty
  deriving DecidableEq

/-- What a tick answers: whether it has made an epoch, found it there already, or had nothing
to commit to. -/
structure EpochSchedulerResult where
  status : EpochSchedulerStatus
  orgId : String
  epoch : Option Epoch := none
  eer : Option EER := none
  reason : Option String := none
  deriving DecidableEq

def persistedEpoch (orgId epochId : String) : ArchiveHandler (Option Epoch) :=
  read fun s => s.epochs.find? fun e => e.orgId = orgId ∧ e.epochId = epochId

/-- One tick of the scheduler.  The operations are read once, the epoch is computed from them,
and its artifact is stored before its row is inserted. -/
def runEpochOnce (orgId : String) : ArchiveHandler EpochSchedulerResult := do
  let rows ← read fun s => s.world.db.operations
  match epochFromOperationRows settings.sha256 orgId rows with
  | none =>
      return { status := .skippedEmpty, orgId := orgId, reason := some "no_operations" }
  | some epoch => do
      let persisted ← persistedEpoch orgId epoch.epochId
      match persisted with
      | some persisted => do
          let artifact ← loadJson (some persisted.r2EpochKey)
          let eer ← ofExcept (storedEer settings persisted artifact)
          return { status := .alreadyPersisted, orgId := orgId, epoch := some persisted,
                   eer := eer, reason := some "epoch_id_exists" }
      | none => do
          let eer ← storeArtifact settings epoch
          attempt (Archive.insertEpoch epoch)
          return { status := .created, orgId := orgId, epoch := some epoch, eer := some eer }

/-! ## Exports -/

inductive ExportFormat where
  | json
  | pdf
  deriving DecidableEq

def ExportFormat.value : ExportFormat → String
  | json => "json"
  | pdf => "pdf"

/-- The body of `POST /v1/exports`: a range of times, an agent and an operation type if only
these are wanted, and the format. -/
structure CreateExportRequest where
  startTime : Int
  endTime : Int
  agentId : Option String := none
  operationType : Option String := none
  format : ExportFormat := .json

structure GetExportResponse where
  exported : ExportModel
  downloadUrl : Option String := none
  deriving DecidableEq

/-- A row with the names of its columns, in the order of the table; the documents in it stay
texts. -/
def OperationRow.toJson (r : OperationRow) : Json :=
  .obj
    [("operation_id", .str r.operationId),
     ("org_id", .str r.orgId),
     ("agent_id", .str r.agentId),
     ("seq_no", .int r.seqNo),
     ("operation_type", .str r.operationType),
     ("issued_at", .int r.issuedAt),
     ("ttl_ms", .int r.ttlMs),
     ("nonce", .str r.nonce),
     ("subject", .str r.subject),
     ("action", .str r.action),
     ("payload_hash", .str r.payloadHash),
     ("prev_chain_hash", .str r.prevChainHash),
     ("chain_hash", .str r.chainHash),
     ("agent_pubkey_kid", .str r.agentPubkeyKid),
     ("signature", .str r.signature),
     ("r2_payload_key", Json.ofOption .str r.r2PayloadKey),
     ("created_at", .int r.createdAt),
     ("correlation_id", Json.ofOption .str r.correlationId),
     ("run_id", Json.ofOption .str r.runId),
     ("phase", Json.ofOption .str r.phase)]

/-- A verdict in an export: all its columns under their names, the two floats among them,
which may be infinite. -/
def GovernanceVerdictRow.toJson (r : GovernanceVerdictRow) : Json :=
  .obj
    [("verdict_id", .str r.verdictId),
     ("record_id", .str r.recordId),
     ("correlation_id", .str r.correlationId),
     ("run_id", Json.ofOption .str r.runId),
     ("org_id", .str r.orgId),
     ("agent_id", .str r.agentId),
     ("decision", .str r.decision),
     ("risk_score", .float r.riskScore),
     ("latency_ms", Json.ofOption .float r.latencyMs),
     ("prevented_loss", .float r.preventedLoss),
     ("r2_verdict_key", .str r.r2VerdictKey),
     ("created_at", .int r.createdAt),
     ("resolution", Json.ofOption .str r.resolution),
     ("resolved_at", Json.ofOption .int r.resolvedAt)]

/-- An intervention in an export: all its columns under their names, in the order of the
table. -/
def InterventionRow.toJson (r : InterventionRow) : Json :=
  .obj
    [("verdict_id", .str r.verdictId),
     ("record_id", .str r.recordId),
     ("correlation_id", .str r.correlationId),
     ("run_id", Json.ofOption .str r.runId),
     ("decision", .str r.decision),
     ("step_index", .int r.stepIndex),
     ("triggered_rule_id", Json.ofOption .str r.triggeredRuleId),
     ("tokens_in", .int r.tokensIn),
     ("tokens_out", .int r.tokensOut),
     ("model_id", Json.ofOption .str r.modelId),
     ("served_via", Json.ofOption .str r.servedVia),
     ("latency_ms", Json.ofOption .float r.latencyMs),
     ("created_at", .int r.createdAt)]

/-- The parameters of an export as they are stored with it. -/
def exportQuery (params : CreateExportRequest) : List (String × Json) :=
  [("start_time", .int params.startTime),
   ("end_time", .int params.endTime),
   ("agent_id", Json.ofOption .str params.agentId),
   ("operation_type", Json.ofOption .str params.operationType),
   ("format", .str params.format.value)]

/-- The row is one that an export asks for. -/
def CreateExportRequest.Selects (params : CreateExportRequest) (orgId : String)
    (row : OperationRow) : Prop :=
  row.orgId = orgId ∧ params.startTime ≤ row.createdAt ∧ row.createdAt ≤ params.endTime ∧
    (params.agentId = none ∨ params.agentId = some row.agentId) ∧
    (params.operationType = none ∨ params.operationType = some row.operationType)

instance (params : CreateExportRequest) (orgId : String) (row : OperationRow) :
    Decidable (params.Selects orgId row) :=
  inferInstanceAs (Decidable (_ ∧ _ ∧ _ ∧ _ ∧ _))

/-- The documents under the keys that have one. -/
def loadBodies : List String → ArchiveHandler (List Json)
  | [] => pure []
  | key :: keys => do
      let body ← loadJson (some key)
      let bodies ← loadBodies keys
      return body.toList ++ bodies

/-- The object of an export in its format.  `json.dumps` writes a float without a JSON number
as `Infinity` or `NaN`, and `json.loads` reads it back: the document is kept as it is. -/
def exportBody (format : ExportFormat) (payload : List (String × Json))
    (verdicts : List GovernanceVerdictRow) : ArchiveHandler Body :=
  match format with
  | .json => pure (.document (Json.obj payload).ordered)
  | .pdf => do
      let bodies ← loadBodies (verdicts.map (·.r2VerdictKey))
      let interventions ← read fun s => s.world.db.interventionLog
      let logged := interventions.filter fun r => r.verdictId ∈ verdicts.map (·.verdictId)
      ofExcept (settings.renderCompliancePdf (.obj (payload ++
        [("verdict_bodies", .arr bodies),
         ("intervention_log", .arr (logged.map InterventionRow.toJson))])))

/-- `create_export`, with the id that is drawn for it.  Operations are read first and verdicts
afterwards, in two statements, so that the verdicts may be of a later moment than the
operations. -/
def createExport (orgId : String) (params : CreateExportRequest) (exportId : String) :
    ArchiveHandler GetExportResponse := do
  raiseIf (params.startTime < 0 ∨ params.endTime < 0 ∨ params.endTime < params.startTime)
    (.app (.withMessage 400 .validationError "Invalid export time range."))
  let ops ← read fun s => s.world.db.operations
  let scopedOps := ops.filter fun row => params.Selects orgId row
  let verdicts ← read fun s => s.world.db.governanceVerdicts
  let scopedVerdicts := verdicts.filter fun v =>
    v.orgId = orgId ∧ v.recordId ∈ scopedOps.map (·.operationId)
  let now ← read fun s => s.world.now
  let key := exportKey orgId exportId params.format.value
  let query := exportQuery params
  let epochs ← computedEpochs settings orgId
  let payload :=
    [("export_id", Json.str exportId),
     ("org_id", .str orgId),
     ("query", (Json.obj query).ordered),
     ("generated_at", .int now),
     ("operations", .arr (scopedOps.map OperationRow.toJson)),
     ("governance_verdicts", .arr (scopedVerdicts.map GovernanceVerdictRow.toJson)),
     ("epochs", .arr (epochs.map Epoch.modelDump))]
  let body ← exportBody settings params.format payload scopedVerdicts
  write fun s => s.put key body
  let row : ExportModel :=
    { exportId := exportId
      orgId := orgId
      status := .done
      queryParams := dumpsFlat query
      r2ExportKey := some key
      createdAt := now
      completedAt := some now }
  attempt (Archive.insertExport row)
  return { exported := row, downloadUrl := some ("/v1/exports/" ++ exportId ++ "/download") }

end Handlers

/-! ## The server with its archive -/

/-- A request to the server, a tick of the scheduler for an organisation, or a request to
the archive, with what it draws. -/
inductive ArchiveRequest where
  | server (req : PlatformRequest)
  | runEpochOnce (orgId : String)
  | epochDetail (orgId epochId : String)
  | createExport (orgId : String) (params : CreateExportRequest) (exportId : String)

inductive ArchiveResponse where
  | served (res : PlatformResponse)
  | ticked (res : EpochSchedulerResult)
  | epoch (res : GetEpochResponse)
  | exported (res : GetExportResponse)
  deriving DecidableEq

section Service

variable (settings : ArchiveSettings)

def archive : ArchiveRequest → ArchiveHandler ArchiveResponse
  | .server req => do
      let res ← onWorld (platform settings.toSettings req)
      return .served res
  | .runEpochOnce orgId => do
      let res ← runEpochOnce settings orgId
      return .ticked res
  | .epochDetail orgId epochId => do
      let res ← epochDetail settings orgId epochId
      return .epoch res
  | .createExport orgId params exportId => do
      let res ← createExport settings orgId params exportId
      return .exported res

/-- The server with its archive, as a service whose clock ticks outside the requests. -/
def archiveService : Service Archive Failure where
  Req := ArchiveRequest
  Res := ArchiveResponse
  handle := archive settings
  Ext := Nat
  external ns s := { s with world := s.world.tick ns }
  fault := .backend

/-- The server after a run of events from empty tables. -/
def archiveRun (now : Int) (agents : List Agent) (agentKeys : List AgentKey)
    (events : List (Event (archiveService settings))) : Pool (archiveService settings) :=
  (Pool.start { world := .initial now agents agentKeys }).run events

end Service

/-! ## What one step can do -/

/-- The entities whose objects the handler of a request stores. -/
def ArchiveRequest.Writes : ArchiveRequest → StoredObject → Prop
  | .server req, o => o ∈ req.objects
  | .runEpochOnce orgId, o => ∃ epochId, o = .epoch orgId epochId
  | .epochDetail orgId epochId, o => o = .epoch orgId epochId
  | .createExport orgId params exportId, o => o = .exportFile orgId exportId params.format.value

/-- An epoch of the organisation, stored under its own key. -/
structure Epoch.Of (orgId : String) (e : Epoch) : Prop where
  org : e.orgId = orgId
  key : e.r2EpochKey = (StoredObject.epoch orgId e.epochId).key

/-- Every row of the epochs names the key of its epoch. -/
def Archive.Keyed (s : Archive) : Prop := ∀ e ∈ s.epochs, e.Of e.orgId

/-- What one step of the handler of a request does: nothing, a step of the main router, an
object that the request may write, or a row of the archive's own tables. -/
inductive ArchiveStep (settings : ArchiveSettings) : ArchiveRequest → Archive → Archive → Prop
  | rest (req : ArchiveRequest) (s : Archive) : ArchiveStep settings req s s
  | server (req : PlatformRequest) (s : Archive) (w : World)
      (h : RequestStep settings.toSettings req s.world w) :
      ArchiveStep settings (.server req) s { s with world := w }
  | store (req : ArchiveRequest) (s : Archive) (object : StoredObject) (body : Body)
      (hOwn : req.Writes object) : ArchiveStep settings req s (s.put object.key body)
  | insertEpoch {s s' : Archive} (orgId : String) (epoch : Epoch) (hOf : epoch.Of orgId)
      (h : s.insertEpoch epoch = .ok s') : ArchiveStep settings (.runEpochOnce orgId) s s'
  | insertExport {s s' : Archive} (req : ArchiveRequest) (row : ExportModel)
      (h : s.insertExport row = .ok s') : ArchiveStep settings req s s'

section Steps

variable {settings : ArchiveSettings} {orgId : String}

/-- In states with keyed epochs the steps of the program are steps of the request's
handler. -/
abbrev Archived {α : Type} (settings : ArchiveSettings) (req : ArchiveRequest) (Q : α → Prop)
    (prog : ArchiveHandler α) : Prop :=
  Steps Archive.Keyed (ArchiveStep settings req) Q prog

/-- An epoch that was stored was added to the others. -/
theorem insertEpoch_ok {s s' : Archive} {epoch : Epoch} (h : s.insertEpoch epoch = .ok s') :
    s' = { s with epochs := s.epochs ++ [epoch] } := by
  unfold Archive.insertEpoch at h
  split at h
  · cases h
  · cases h
    rfl

theorem insertExport_ok {s s' : Archive} {row : ExportModel} (h : s.insertExport row = .ok s') :
    s' = { s with exports := s.exports ++ [row] } := by
  unfold Archive.insertExport at h
  split at h
  · cases h
  · cases h
    rfl

/-- No step of a handler gives an epoch another key. -/
theorem ArchiveStep.keyed {req : ArchiveRequest} {s s' : Archive}
    (h : ArchiveStep settings req s s') (hKeyed : s.Keyed) : s'.Keyed := by
  cases h with
  | insertEpoch orgId epoch hOf h =>
      rw [insertEpoch_ok h]
      intro e he
      rcases List.mem_append.1 he with he | he
      · exact hKeyed e he
      · rw [List.mem_singleton.1 he, hOf.org]
        exact hOf
  | insertExport _ row h =>
      rw [insertExport_ok h]
      exact hKeyed
  | _ => exact hKeyed

/-- A step of a handler leaves the objects alone or stores one of its request. -/
theorem ArchiveStep.objects {req : ArchiveRequest} {s s' : Archive}
    (h : ArchiveStep settings req s s') :
    s'.world.objects = s.world.objects ∨ ∃ o body, req.Writes o ∧
      s'.world.objects = (s.world.put o.key body).objects := by
  cases h with
  | rest => exact .inl rfl
  | server req _ w h =>
      rcases h.objects with hSame | ⟨o, hOwn, body, rfl⟩
      · exact .inl hSame
      · exact .inr ⟨o, body, hOwn, rfl⟩
  | store _ _ o body hOwn => exact .inr ⟨o, body, hOwn, rfl⟩
  | insertEpoch _ _ _ h =>
      rw [insertEpoch_ok h]
      exact .inl rfl
  | insertExport _ _ h =>
      rw [insertExport_ok h]
      exact .inl rfl

/-- A computed epoch is the organisation's. -/
theorem epochFromOperationRows_of {prim : Primitives} {sha256 : Sha256 prim}
    {rows : List OperationRow} {epoch : Epoch}
    (h : epochFromOperationRows sha256 orgId rows = some epoch) : epoch.Of orgId := by
  unfold epochFromOperationRows at h
  split at h
  · cases h
  · cases h
    exact ⟨rfl, rfl⟩

section Request

variable {req : ArchiveRequest}

theorem persistedEpochs_steps :
    Archived settings req (fun es => ∀ e ∈ es, e.Of orgId) (persistedEpochs orgId) := by
  intro s hKeyed
  refine ⟨.rest req s, fun e he => ?_⟩
  have hRow := List.mem_filter.1 ((List.mem_insertionSort _).1 he)
  have hOrg : e.orgId = orgId := of_decide_eq_true hRow.2
  have hOf := hKeyed e hRow.1
  rwa [hOrg] at hOf

theorem computedEpochs_steps :
    Archived settings req (fun es => ∀ e ∈ es, e.Of orgId) (computedEpochs settings orgId) := by
  unfold computedEpochs
  refine Steps.bind persistedEpochs_steps fun persisted hPersisted => ?_
  split
  · exact hPersisted
  · refine Steps.read_bind (fun s => .rest req s) fun s _ => ?_
    intro e he
    exact epochFromOperationRows_of (Option.mem_toList.1 he)

theorem epochCandidates_steps {persisted : List Epoch} (h : ∀ e ∈ persisted, e.Of orgId) :
    Archived settings req (fun es => ∀ e ∈ es, e.Of orgId)
      (epochCandidates settings orgId persisted) := by
  unfold epochCandidates
  split
  · exact h
  · exact computedEpochs_steps

theorem loadJson_steps (key : Option String) :
    Archived settings req (fun _ => True) (loadJson key) := by
  unfold loadJson
  split
  · trivial
  · split
    · trivial
    · exact fun s _ => ⟨.rest req s, trivial⟩

theorem storeArtifact_steps {epoch : Epoch} (hOf : epoch.Of orgId)
    (hOwn : req.Writes (.epoch orgId epoch.epochId)) :
    Archived settings req (fun _ => True) (storeArtifact settings epoch) := by
  unfold storeArtifact
  refine Steps.write_bind (fun s _ => ?_) trivial
  rw [hOf.key]
  exact .store req s _ _ hOwn

theorem loadBodies_steps (keys : List String) :
    Archived settings req (fun _ => True) (loadBodies keys) := by
  induction keys with
  | nil => trivial
  | cons key keys ih =>
      exact Steps.bind (loadJson_steps _) fun _ _ => Steps.bind ih fun _ _ => trivial

theorem exportBody_steps (format : ExportFormat) (payload : List (String × Json))
    (verdicts : List GovernanceVerdictRow) :
    Archived settings req (fun _ => True) (exportBody settings format payload verdicts) := by
  cases format with
  | json => trivial
  | pdf =>
      refine Steps.bind (loadBodies_steps _) fun bodies _ => ?_
      refine Steps.read_bind (fun s => .rest req s) fun s _ => ?_
      exact Steps.ofExcept fun _ _ => trivial

end Request

theorem epochDetail_steps (epochId : String) :
    Archived settings (.epochDetail orgId epochId) (fun _ => True)
      (epochDetail settings orgId epochId) := by
  unfold epochDetail
  refine Steps.bind persistedEpochs_steps fun persisted hPersisted => ?_
  refine Steps.bind (epochCandidates_steps hPersisted) fun candidates hCandidates => ?_
  refine Steps.require_bind fun epoch hFound => ?_
  have hOf := hCandidates epoch (List.mem_of_find?_eq_some hFound)
  have hId : epoch.epochId = epochId := by simpa using List.find?_some hFound
  refine Steps.bind (loadJson_steps _) fun artifact _ => ?_
  refine Steps.ofExcept_bind fun stored _ => ?_
  cases stored with
  | some eer => trivial
  | none =>
      have hOwn : ArchiveRequest.Writes (.epochDetail orgId epochId)
          (.epoch orgId epoch.epochId) := by
        rw [hId]
        rfl
      exact Steps.bind (storeArtifact_steps hOf hOwn) fun _ _ => trivial

/-- A tick writes the artifact and the row of its own organisation's epoch. -/
theorem runEpochOnce_steps :
    Archived settings (.runEpochOnce orgId) (fun _ => True) (runEpochOnce settings orgId) := by
  unfold runEpochOnce
  refine Steps.read_bind (fun s => .rest _ s) fun s _ => ?_
  split
  · trivial
  · rename_i epoch hEpoch
    have hOf := epochFromOperationRows_of hEpoch
    refine Steps.read_bind (fun s => .rest _ s) fun s _ => ?_
    split
    · refine Steps.bind (loadJson_steps _) fun artifact _ => ?_
      exact Steps.ofExcept_bind fun _ _ => trivial
    · refine Steps.bind (storeArtifact_steps hOf ⟨_, rfl⟩) fun eer _ => ?_
      exact Steps.attempt_bind (fun s => .rest _ s)
        (fun s s' _ h => .insertEpoch orgId epoch hOf h) trivial

/-- An export writes its own file and its own row. -/
theorem createExport_steps (params : CreateExportRequest) (exportId : String) :
    Archived settings (.createExport orgId params exportId) (fun _ => True)
      (createExport settings orgId params exportId) := by
  have hRest : ∀ s, ArchiveStep settings (.createExport orgId params exportId) s s :=
    fun s => .rest _ s
  unfold createExport
  refine Steps.raiseIf_bind fun _ => ?_
  refine Steps.read_bind hRest fun s _ => ?_
  refine Steps.read_bind hRest fun s _ => ?_
  refine Steps.read_bind hRest fun s _ => ?_
  refine Steps.bind computedEpochs_steps fun epochs _ => ?_
  refine Steps.bind (exportBody_steps _ _ _) fun body _ => ?_
  refine Steps.write_bind (fun s _ => .store _ s (.exportFile _ _ _) body rfl) ?_
  exact Steps.attempt_bind hRest (fun s s' _ h => .insertExport _ _ h) trivial

/-- **Every step of a handler is one of the steps of its request.** -/
theorem archive_steps (req : ArchiveRequest) :
    Archived settings req (fun _ => True) (archive settings req) := by
  cases req with
  | server req =>
      have hServer : Requested settings.toSettings req (platform settings.toSettings req) :=
        platform_requestSteps req
      refine Steps.bind ((hServer.onPart.weaken fun _ _ => trivial).guarantee ?_)
        fun _ _ => trivial
      rintro s s' ⟨w, h, rfl⟩
      exact .server req s w h
  | runEpochOnce orgId => exact Steps.bind runEpochOnce_steps fun _ _ => trivial
  | epochDetail orgId epochId => exact Steps.bind (epochDetail_steps epochId) fun _ _ => trivial
  | createExport orgId params exportId =>
      exact Steps.bind (createExport_steps params exportId) fun _ _ => trivial

/-- **In every run** the epochs are keyed, and what is left of a handler takes steps of its
request only. -/
theorem archiveRun_steps (now : Int) (agents : List Agent) (agentKeys : List AgentKey)
    (events : List (Event (archiveService settings))) :
    (archiveRun settings now agents agentKeys events).state.Keyed ∧
      ∀ t ∈ (archiveRun settings now agents agentKeys events).threads,
        Archived settings t.1 (fun _ => True) t.2 :=
  Pool.run_requests (fun _ _ _ hKeyed h => h.keyed hKeyed) (fun _ _ hKeyed => hKeyed)
    archive_steps (by simp [Pool.start]) (by simp [Pool.start, Archive.Keyed]) events

end Steps

end AgentShield.Server
