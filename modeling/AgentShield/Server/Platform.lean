import AgentShield.Server.Agents
import AgentShield.Server.Objects

/-!
# The whole server

The ingest routes, the late and resumed verdicts and the agent routes as one
service.  What a step of a request's handler can do is said once, without a history
(`RequestStep`, `platform_requestSteps`); `HandlerStep` is what is left of it without
the request.
-/

namespace AgentShield.Server

open AgentShield.Lib AgentShield.Lib.Async AgentShield.Sdk

/-- A request to the server, with what its handler draws from its environment: the answers of
the governance app, ids and measured times. -/
inductive PlatformRequest where
  | ingest (req : IngestRequest)
  | publish (rec : ShieldActionRecord) (verdict : GovernanceVerdict)
      (guardianEvidence : List GuardianEvidence) (latencyMs : PyFloat)
  | resume (govApp : ResumeApp) (incidentId decision : String)
      (payload : Option (List (String × Json))) (orgId : String) (latencyMs : PyFloat)
  | freeze (agentId reason orgId : String)
  | unfreeze (agentId reason orgId : String)
  | revoke (agentId kid reason orgId : String)

inductive PlatformResponse where
  | ingested (res : IngestResponse)
  | verdict (v : GovernanceVerdict)
  | agent (a : Agent)
  | revoked
  deriving DecidableEq

/-- The server's requests: the ingest, publishing and resuming of verdicts, and the
administration of agents. -/
def platform (settings : Settings) : PlatformRequest → Handler PlatformResponse
  | .ingest req => do
      let res ← ingest settings req
      return .ingested res
  | .publish rec verdict guardianEvidence latencyMs => do
      let v ← publishAsyncVerdict settings.prim settings.serverSigningKey rec verdict
        guardianEvidence latencyMs
      return .verdict v
  | .resume govApp incidentId decision payload orgId latencyMs => do
      let v ← resume settings.prim settings.serverSigningKey govApp incidentId decision payload
        orgId latencyMs
      return .verdict v
  | .freeze agentId reason orgId => do
      let a ← Routes.freezeAgent agentId reason orgId
      return .agent a
  | .unfreeze agentId reason orgId => do
      let a ← Routes.unfreezeAgent agentId reason orgId
      return .agent a
  | .revoke agentId kid reason orgId => do
      Routes.revokeKey agentId kid reason orgId
      return .revoked

/-- The server as a pool of handlers.  Outside them only time passes. -/
def platformService (settings : Settings) : Service World Failure where
  Req := PlatformRequest
  Res := PlatformResponse
  handle := platform settings
  Ext := Nat
  external ns w := w.tick ns
  fault := .backend

/-- The server after a run of events from empty tables. -/
def platformRun (settings : Settings) (now : Int) (agents : List Agent)
    (agentKeys : List AgentKey) (events : List (Event (platformService settings))) :
    Pool (platformService settings) :=
  (Pool.start (World.initial now agents agentKeys)).run events

/-! ## What one step can do -/

/-- The statements of a decision. -/
def decideStatements (prim : Primitives) (rec : ShieldActionRecord)
    (verdict : GovernanceVerdict) (verdictKey chainHash : String) (seqNo receivedAt : Int) :
    List Statement :=
  [.insertOperation (operationsInsert prim rec seqNo chainHash receivedAt),
   .insertGovernanceVerdict (governanceVerdictInsert rec verdict verdictKey receivedAt),
   .insertInterventionLog (interventionLogInsert rec verdict receivedAt)]

/-- The action record that a request ingests. -/
def PlatformRequest.actionRecord? : PlatformRequest → Option ShieldActionRecord
  | .ingest (.decide rec _ _) => some rec
  | .ingest (.record rec) => some rec
  | _ => none

/-- What one step of a handler does that ingests action records with `acts` only.  The tables
change in transactions, one for each way in which a row is made or changed. -/
inductive HandlerStep (settings : Settings) (acts : ShieldActionRecord → Prop) :
    World → World → Prop
  | rest (w : World) : HandlerStep settings acts w w
  | cache (w : World) (c : Cache) (hStreams : w.cache.Extends c) :
      HandlerStep settings acts w { w with cache := c }
  | store (w : World) (key : String) (body : Body) : HandlerStep settings acts w (w.put key body)
  | submit {w w' : World} (rec : OperationRecord) (receivedAt seqNo : Int) (receiptId : String)
      (hTx : w.transaction
        [.insertOperation (operationRow settings.prim.toFloatText (shieldSdkCrypto settings.prim)
            rec receivedAt seqNo),
         .insertReceipt (receiptRow rec receivedAt receiptId)] = .ok w') :
      HandlerStep settings acts w w'
  | decide {w w' : World} (rec : ShieldActionRecord) (verdict : GovernanceVerdict)
      (verdictKey chainHash : String) (seqNo receivedAt : Int) (hActs : acts rec)
      (hPhase : rec.phase = .preExec)
      (hTx : w.transaction
        (decideStatements settings.prim rec verdict verdictKey chainHash seqNo receivedAt) =
          .ok w') :
      HandlerStep settings acts w w'
  | record {w w' : World} (rec : ShieldActionRecord) (chainHash : String)
      (seqNo receivedAt : Int) (hActs : acts rec) (hPhase : rec.phase = .postExec)
      (hTx : w.transaction
        [.insertOperation (operationsInsert settings.prim rec seqNo chainHash receivedAt)] =
          .ok w') :
      HandlerStep settings acts w w'
  | publish {w w' : World} (row : GovernanceVerdictRow)
      (hTx : w.transaction [.insertGovernanceVerdict row] = .ok w') :
      HandlerStep settings acts w w'
  | resolve (w : World) (decision : String) (resolvedAt : Int) (incidentId : String) :
      HandlerStep settings acts w (w.resolveVerdict decision resolvedAt incidentId)
  | setStatus (w : World) (agentId : String) (status : AgentStatus) :
      HandlerStep settings acts w (w.setAgentStatus agentId status)
  | revokeKey (w : World) (kid : String) : HandlerStep settings acts w (w.revokeAgentKey kid)

section Handlers

variable {settings : Settings} {acts : ShieldActionRecord → Prop}

/-- No handler moves the clock. -/
theorem HandlerStep.clock_eq {w w' : World} (h : HandlerStep settings acts w w') :
    w'.clock = w.clock := by
  have hTransaction : ∀ {sts : List Statement},
      w.transaction sts = .ok w' → w'.clock = w.clock := by
    intro sts hTx
    obtain ⟨db, -, rfl⟩ := World.transaction_ok hTx
    rfl
  cases h with
  | submit _ _ _ _ hTx => exact hTransaction hTx
  | decide _ _ _ _ _ _ _ _ hTx => exact hTransaction hTx
  | record _ _ _ _ _ _ hTx => exact hTransaction hTx
  | publish _ hTx => exact hTransaction hTx
  | _ => rfl

/-- In every state the steps of the handler are the steps above. -/
abbrev Stepwise {α : Type} (settings : Settings) (acts : ShieldActionRecord → Prop)
    (Q : α → Prop) (prog : Handler α) : Prop :=
  Steps (fun _ => True) (HandlerStep settings acts) Q prog

/-- A record that passes validation has the phase of its route. -/
theorem validateRecord_phase {prim : Primitives} {rec : ShieldActionRecord} {receivedAt : Int}
    {phase : Phase} (h : validateRecord prim rec receivedAt phase = .ok ()) :
    rec.phase = phase := by
  unfold validateRecord at h
  rw [refuseIf_bind_ok] at h
  exact Decidable.not_not.1 h.1

end Handlers

/-! ## The objects of a request -/

/-- The object is one that a verdict of the governance app is stored in. -/
def verdictObjects (rec : ShieldActionRecord) : Except Failure GovernanceVerdict →
    List StoredObject
  | .ok v => [.verdict rec.orgId rec.agentId v.verdictId]
  | .error _ => []

/-- The objects that the handler of a request may write.  Their keys are made of the ids of
the request, as the client has given them. -/
def PlatformRequest.objects : PlatformRequest → List StoredObject
  | .ingest (.submit rec _) =>
      [.envelope rec.orgId rec.agentId rec.operationId,
       .receipt rec.orgId rec.agentId rec.operationId]
  | .ingest (.decide rec govApp _) =>
      .record rec.orgId rec.agentId rec.recordId :: verdictObjects rec (govApp rec)
  | .ingest (.record rec) => [.record rec.orgId rec.agentId rec.recordId]
  | .publish rec verdict _ _ =>
      [.verdict rec.orgId rec.agentId verdict.verdictId,
       .evidence rec.orgId rec.agentId verdict.verdictId]
  | _ => []

/-- The fields of a verdict's entry on the stream of its workflow, all of them texts, the
verdict as a whole among them. -/
def verdictEntry (prim : Primitives) (rec : ShieldActionRecord) (verdict : GovernanceVerdict) :
    List (String × String) :=
  [("verdict_id", verdict.verdictId),
   ("record_id", rec.recordId),
   ("correlation_id", rec.correlationId),
   ("run_id", rec.runId),
   ("decision", verdict.decision.value),
   ("risk_score", prim.toFloatText.str verdict.riskScore),
   ("phase", rec.phase.value),
   ("verdict", prim.toFloatText.modelDumpJson (verdict.modelDump false))]

/-- What one step of the handler of a request does.  The step lemmas of the runs go over these
cases and over nothing else. -/
inductive RequestStep (settings : Settings) : PlatformRequest → World → World → Prop
  | rest (req : PlatformRequest) (w : World) : RequestStep settings req w w
  | cache (req : PlatformRequest) (w : World) (c : Cache) (hStreams : w.cache.SameStreams c) :
      RequestStep settings req w { w with cache := c }
  | appendAction (req : PlatformRequest) (w : World) (workflowId : String)
      (fields : List (String × String)) :
      RequestStep settings req w (w.xadd (streamName actionsStreamPrefix workflowId) fields)
  | appendDecision (w : World) (rec : ShieldActionRecord) (govApp : GovernanceApp)
      (latencyMs : PyFloat) (verdict : GovernanceVerdict) (hPhase : rec.phase = .preExec) :
      RequestStep settings (.ingest (.decide rec govApp latencyMs)) w
        (w.xadd (streamName verdictsStreamPrefix rec.workflowId)
          (verdictEntry settings.prim rec verdict))
  | appendLate (w : World) (rec : ShieldActionRecord) (verdict : GovernanceVerdict)
      (guardianEvidence : List GuardianEvidence) (latencyMs : PyFloat)
      (signed : GovernanceVerdict) :
      RequestStep settings (.publish rec verdict guardianEvidence latencyMs) w
        (w.xadd (streamName verdictsStreamPrefix rec.workflowId)
          (verdictEntry settings.prim rec signed))
  | store (req : PlatformRequest) (w : World) (object : StoredObject) (body : Body)
      (hOwn : object ∈ req.objects) : RequestStep settings req w (w.put object.key body)
  | submit {w w' : World} (rec : OperationRecord) (receiptId : String) (receivedAt seqNo : Int)
      (hTx : w.transaction
        [.insertOperation (operationRow settings.prim.toFloatText (shieldSdkCrypto settings.prim)
            rec receivedAt seqNo),
         .insertReceipt (receiptRow rec receivedAt receiptId)] = .ok w') :
      RequestStep settings (.ingest (.submit rec receiptId)) w w'
  | decide {w w' : World} (rec : ShieldActionRecord) (govApp : GovernanceApp)
      (latencyMs : PyFloat) (decided : GovernanceVerdict) (chainHash : String)
      (seqNo receivedAt servedAt : Int) (hAnswer : govApp rec = .ok decided)
      (hPhase : rec.phase = .preExec)
      (hTx : w.transaction
        (decideStatements settings.prim rec
          (serveVerdict settings.prim settings.serverSigningKey rec decided servedAt latencyMs)
          (verdictObjectKey rec.orgId rec.agentId decided.verdictId) chainHash seqNo
          receivedAt) = .ok w') :
      RequestStep settings (.ingest (.decide rec govApp latencyMs)) w w'
  | record {w w' : World} (rec : ShieldActionRecord) (chainHash : String)
      (seqNo receivedAt : Int) (hPhase : rec.phase = .postExec)
      (hTx : w.transaction
        [.insertOperation (operationsInsert settings.prim rec seqNo chainHash receivedAt)] =
          .ok w') :
      RequestStep settings (.ingest (.record rec)) w w'
  | publish {w w' : World} (rec : ShieldActionRecord) (verdict : GovernanceVerdict)
      (guardianEvidence : List GuardianEvidence) (latencyMs : PyFloat) (servedAt createdAt : Int)
      (hTx : w.transaction [.insertGovernanceVerdict (governanceVerdictInsert rec
        (serveVerdict settings.prim settings.serverSigningKey rec verdict servedAt latencyMs)
        (verdictObjectKey rec.orgId rec.agentId verdict.verdictId) createdAt)] = .ok w') :
      RequestStep settings (.publish rec verdict guardianEvidence latencyMs) w w'
  | resolve (w : World) (govApp : ResumeApp) (incidentId decision : String)
      (payload : Option (List (String × Json))) (orgId : String) (latencyMs : PyFloat)
      (resolvedAt : Int) :
      RequestStep settings (.resume govApp incidentId decision payload orgId latencyMs) w
        (w.resolveVerdict decision resolvedAt incidentId)
  | setStatus (req : PlatformRequest) (w : World) (agentId : String) (status : AgentStatus) :
      RequestStep settings req w (w.setAgentStatus agentId status)
  | revokeKey (req : PlatformRequest) (w : World) (kid : String) :
      RequestStep settings req w (w.revokeAgentKey kid)

/-- A step of a handler leaves the objects alone or stores one of its request. -/
theorem RequestStep.objects {settings : Settings} {req : PlatformRequest} {w w' : World}
    (h : RequestStep settings req w w') :
    w'.objects = w.objects ∨ ∃ o ∈ req.objects, ∃ body, w' = w.put o.key body := by
  have hTransaction : ∀ {sts : List Statement}, w.transaction sts = .ok w' →
      w'.objects = w.objects := by
    intro sts hTx
    obtain ⟨db, -, rfl⟩ := World.transaction_ok hTx
    rfl
  cases h with
  | store _ _ object body hOwn => exact .inr ⟨object, hOwn, body, rfl⟩
  | submit _ _ _ _ hTx => exact .inl (hTransaction hTx)
  | decide _ _ _ _ _ _ _ _ _ _ hTx => exact .inl (hTransaction hTx)
  | record _ _ _ _ _ hTx => exact .inl (hTransaction hTx)
  | publish _ _ _ _ _ _ hTx => exact .inl (hTransaction hTx)
  | _ => exact .inl rfl

/-- Without the request, the steps of its handler are the steps above. -/
theorem RequestStep.handlerStep {settings : Settings} {req : PlatformRequest} {w w' : World}
    (h : RequestStep settings req w w') :
    HandlerStep settings (fun rec => req.actionRecord? = some rec) w w' := by
  cases h with
  | rest => exact .rest w
  | cache _ _ c hStreams => exact .cache w c hStreams.extends
  | appendAction => exact .cache w _ (w.cache.extends_xadd _ _)
  | appendDecision => exact .cache w _ (w.cache.extends_xadd _ _)
  | appendLate => exact .cache w _ (w.cache.extends_xadd _ _)
  | store _ _ object body _ => exact .store w object.key body
  | submit rec receiptId receivedAt seqNo hTx => exact .submit rec receivedAt seqNo receiptId hTx
  | decide rec govApp latencyMs decided chainHash seqNo receivedAt servedAt _ hPhase hTx =>
      exact .decide rec _ _ chainHash seqNo receivedAt rfl hPhase hTx
  | record rec chainHash seqNo receivedAt hPhase hTx =>
      exact .record rec chainHash seqNo receivedAt rfl hPhase hTx
  | publish rec verdict guardianEvidence latencyMs servedAt createdAt hTx => exact .publish _ hTx
  | resolve _ govApp incidentId decision payload orgId latencyMs resolvedAt =>
      exact .resolve w decision resolvedAt incidentId
  | setStatus _ _ agentId status => exact .setStatus w agentId status
  | revokeKey _ _ kid => exact .revokeKey w kid

section Guarantees

variable {settings : Settings} {G : World → World → Prop}

/-- The steps that every handler takes: it rests, or works on the cache besides its
streams. -/
structure Ambient (G : World → World → Prop) : Prop where
  rest : ∀ w, G w w
  cache : ∀ (w : World) (c : Cache), w.cache.SameStreams c → G w { w with cache := c }

theorem Ambient.handler {acts : ShieldActionRecord → Prop} :
    Ambient (HandlerStep settings acts) :=
  ⟨.rest, fun w c hStreams => .cache w c hStreams.extends⟩

theorem HandlerStep.xadd {acts : ShieldActionRecord → Prop} (w : World) (stream : String)
    (fields : List (String × String)) : HandlerStep settings acts w (w.xadd stream fields) :=
  .cache w _ (w.cache.extends_xadd stream fields)

theorem Ambient.request {req : PlatformRequest} : Ambient (RequestStep settings req) :=
  ⟨.rest req, .cache req⟩

/-- Admission reserves a nonce and reads; whatever else counts is left alone. -/
theorem admitSubmission_steps (hG : Ambient G) (sub : Submission) :
    Steps (fun _ => True) G (fun _ => True) (admitSubmission sub) := by
  unfold admitSubmission
  refine Steps.act_bind fun w _ => ⟨hG.cache w _ (w.cache.sameStreams_setIfAbsent _ _ _ _), ?_⟩
  refine Steps.raiseIf_bind fun _ => ?_
  refine Steps.read_bind hG.rest fun w _ => ?_
  refine Steps.require_bind fun agent _ => ?_
  refine Steps.ofExcept_bind fun _ _ => ?_
  refine Steps.read_bind hG.rest fun w _ => ?_
  refine Steps.require_bind fun key _ => ?_
  refine Steps.ofExcept_bind fun _ _ => ?_
  refine Steps.raiseIf_bind fun _ => ?_
  refine Steps.read_bind hG.rest fun w _ => ?_
  refine Steps.raiseIf_bind fun _ => ?_
  exact Steps.pure trivial

/-- What decide and record share writes the record's own object beside the reservation. -/
theorem ingestPrefix_steps (hG : Ambient G) (rec : ShieldActionRecord) (receivedAt : Int)
    (phase : Phase)
    (hStore : ∀ w body, G w (w.put (recordKey rec.orgId rec.agentId rec.recordId) body)) :
    Steps (fun _ => True) G (fun _ => rec.phase = phase)
      (ingestPrefix settings.prim rec receivedAt phase) := by
  unfold ingestPrefix
  refine Steps.ofExcept_bind fun _ hValid => ?_
  refine Steps.bind (admitSubmission_steps hG _) fun seqNo _ => ?_
  refine Steps.write_bind (fun w _ => hStore w _) ?_
  exact Steps.pure (validateRecord_phase hValid)

theorem ensureGroups_steps (hG : Ambient G) (stream : String) (groups : List String) :
    Steps (fun _ => True) G (fun _ => True) (ensureGroups stream groups) := by
  induction groups with
  | nil => exact Steps.pure trivial
  | cons group groups ih =>
      unfold ensureGroups
      exact Steps.write_bind (fun w _ => hG.cache w _ (w.cache.sameStreams_ensureGroup _ _)) ih

/-- Fanning a record out appends to the actions of its workflow. -/
theorem fanChannel2_steps (hG : Ambient G) (rec : ShieldActionRecord) (chainHash : String)
    (seqNo : Int) (verdictId : String)
    (hAppend : ∀ w fields, G w (w.xadd (streamName actionsStreamPrefix rec.workflowId) fields)) :
    Steps (fun _ => True) G (fun _ => True)
      (fanChannel2 settings.prim rec chainHash seqNo verdictId) := by
  unfold fanChannel2
  refine Steps.bind (ensureGroups_steps hG _ _) fun _ _ => ?_
  refine Steps.write_bind (fun w _ => hAppend w _) ?_
  exact Steps.write (fun w _ => hG.cache w _ (w.cache.sameStreams_set _ _)) trivial

/-- Fanning a verdict out appends to the verdicts of its workflow. -/
theorem fanVerdicts_steps (hG : Ambient G) (rec : ShieldActionRecord)
    (verdict : GovernanceVerdict)
    (hAppend : ∀ w, G w (w.xadd (streamName verdictsStreamPrefix rec.workflowId)
      (verdictEntry settings.prim rec verdict))) :
    Steps (fun _ => True) G (fun _ => True) (fanVerdicts settings.prim rec verdict) := by
  unfold fanVerdicts
  refine Steps.bind (ensureGroups_steps hG _ _) fun _ _ => ?_
  exact Steps.write (fun w _ => hAppend w) trivial

theorem storeEvidence_steps {verdictKey : String} (evidence : List Json)
    (hStore : ∀ w body, G w (w.put (guardianEvidenceKey verdictKey) body)) :
    Steps (fun _ => True) G (fun _ => True) (storeEvidence verdictKey evidence) := by
  unfold storeEvidence
  split
  · exact Steps.pure trivial
  · exact Steps.write (fun w _ => hStore w _) trivial

theorem requireAgent_steps (hG : Ambient G) (agentId orgId : String) :
    Steps (fun _ => True) G (fun _ => True) (Agents.requireAgent agentId orgId) := by
  unfold Agents.requireAgent
  refine Steps.read_bind hG.rest fun w _ => ?_
  cases w.db.findAgent agentId orgId with
  | none => exact Steps.raise _
  | some a => exact Steps.pure trivial

end Guarantees

section Requests

variable {settings : Settings}

/-- In every state the steps of the program are steps of the request's handler. -/
abbrev Requested {α : Type} (settings : Settings) (req : PlatformRequest) (prog : Handler α) :
    Prop :=
  Steps (fun _ => True) (RequestStep settings req) (fun _ => True) prog

/-- The steps of a submission: its objects, its transaction and the hint of its chain. -/
theorem submitOperation_steps (rec : OperationRecord) (receiptId : String) :
    Requested settings (.ingest (.submit rec receiptId))
      (submitOperation settings.prim.toFloatText (shieldSdkCrypto settings.prim)
        settings.serverSigningKey rec receiptId) := by
  have hG : Ambient (RequestStep settings (.ingest (.submit rec receiptId))) := .request
  unfold submitOperation
  refine Steps.read_bind hG.rest fun w _ => ?_
  refine Steps.ofExcept_bind fun _ _ => ?_
  refine Steps.bind (admitSubmission_steps hG _) fun seqNo _ => ?_
  refine Steps.write_bind (fun w _ => .store _ w (.envelope _ _ _) _ List.mem_cons_self) ?_
  refine Steps.write_bind (fun w _ =>
    .store _ w (.receipt _ _ _) _ (List.mem_cons_of_mem _ List.mem_cons_self)) ?_
  refine Steps.attempt_bind hG.rest
    (fun w₁ w₂ _ hTx => .submit rec receiptId _ seqNo hTx) ?_
  refine Steps.write_bind (fun w _ => hG.cache w _ (w.cache.sameStreams_set _ _)) ?_
  exact Steps.pure trivial

theorem admitDecision_steps (rec : ShieldActionRecord) (govApp : GovernanceApp)
    (latencyMs : PyFloat) :
    Steps (fun _ => True) (RequestStep settings (.ingest (.decide rec govApp latencyMs)))
      (fun _ => rec.phase = .preExec) (admitDecision settings.prim rec) := by
  have hG : Ambient (RequestStep settings (.ingest (.decide rec govApp latencyMs))) := .request
  unfold admitDecision
  refine Steps.read_bind hG.rest fun w _ => ?_
  refine Steps.bind (ingestPrefix_steps hG rec _ _ fun w body =>
    .store _ w (.record _ _ _) body List.mem_cons_self) fun r hPhase => ?_
  exact Steps.pure hPhase

/-- A decision is stored after its record, in one transaction with it. -/
theorem serveDecision_steps {rec : ShieldActionRecord} {govApp : GovernanceApp}
    {decided : GovernanceVerdict} (latencyMs : PyFloat) (admitted : Int × String × Int)
    (hPhase : rec.phase = .preExec) (hAnswer : govApp rec = .ok decided) :
    Requested settings (.ingest (.decide rec govApp latencyMs))
      (serveDecision settings.prim settings.serverSigningKey rec latencyMs admitted decided) := by
  have hG : Ambient (RequestStep settings (.ingest (.decide rec govApp latencyMs))) := .request
  have hObject : StoredObject.verdict rec.orgId rec.agentId decided.verdictId ∈
      (PlatformRequest.ingest (.decide rec govApp latencyMs)).objects := by
    simp [PlatformRequest.objects, verdictObjects, hAnswer]
  obtain ⟨receivedAt, chainHash, seqNo⟩ := admitted
  unfold serveDecision
  refine Steps.read_bind hG.rest fun servedAt _ => ?_
  refine Steps.write_bind (fun w _ => .store _ w (.verdict _ _ _) _ hObject) ?_
  refine Steps.attempt_bind hG.rest (fun w₁ w₂ _ hTx =>
    .decide rec govApp latencyMs decided chainHash seqNo _ _ hAnswer hPhase hTx) ?_
  refine Steps.bind (fanChannel2_steps hG _ _ _ _ fun w fields => .appendAction _ w _ fields)
    fun _ _ => ?_
  refine Steps.bind (fanVerdicts_steps hG _ _ fun w => .appendDecision w _ _ _ _ hPhase)
    fun _ _ => ?_
  exact Steps.pure trivial

/-- The steps of a decision, from admission to the fan-out. -/
theorem decide_steps (rec : ShieldActionRecord) (govApp : GovernanceApp) (latencyMs : PyFloat) :
    Requested settings (.ingest (.decide rec govApp latencyMs))
      (Governance.decide settings.prim settings.serverSigningKey rec govApp latencyMs) := by
  have hG : Ambient (RequestStep settings (.ingest (.decide rec govApp latencyMs))) := .request
  rw [Governance.decide_eq]
  refine Steps.bind (admitDecision_steps rec govApp latencyMs) fun admitted hPhase => ?_
  refine Steps.read_bind hG.rest fun w _ => ?_
  refine Steps.ofExcept_bind fun decided hAnswer => ?_
  exact serveDecision_steps latencyMs admitted hPhase hAnswer

/-- The steps of a record after an action. -/
theorem record_steps (rec : ShieldActionRecord) :
    Requested settings (.ingest (.record rec)) (Governance.record settings.prim rec) := by
  have hG : Ambient (RequestStep settings (.ingest (.record rec))) := .request
  unfold Governance.record
  refine Steps.read_bind hG.rest fun w _ => ?_
  refine Steps.bind (ingestPrefix_steps hG rec _ _ fun w body =>
    .store _ w (.record _ _ _) body List.mem_cons_self) fun r hPhase => ?_
  obtain ⟨chainHash, seqNo⟩ := r
  refine Steps.attempt_bind hG.rest
    (fun w₁ w₂ _ hTx => .record rec chainHash seqNo _ hPhase hTx) ?_
  refine Steps.bind (fanChannel2_steps hG _ _ _ _ fun w fields => .appendAction _ w _ fields)
    fun _ _ => ?_
  exact Steps.pure trivial

/-- The steps of an asynchronous verdict: its object, its row and its entries in the streams. -/
theorem publishAsyncVerdict_steps (rec : ShieldActionRecord) (verdict : GovernanceVerdict)
    (guardianEvidence : List GuardianEvidence) (latencyMs : PyFloat) :
    Requested settings (.publish rec verdict guardianEvidence latencyMs)
      (publishAsyncVerdict settings.prim settings.serverSigningKey rec verdict guardianEvidence
        latencyMs) := by
  have hG : Ambient (RequestStep settings (.publish rec verdict guardianEvidence latencyMs)) :=
    .request
  have hEvidence : ∀ w body, RequestStep settings
      (.publish rec verdict guardianEvidence latencyMs) w
        (w.put (guardianEvidenceKey (verdictObjectKey rec.orgId rec.agentId verdict.verdictId))
          body) :=
    fun w body => .store _ w (.evidence _ _ _) body (List.mem_cons_of_mem _ List.mem_cons_self)
  unfold publishAsyncVerdict
  refine Steps.read_bind hG.rest fun w _ => ?_
  refine Steps.write_bind (fun w _ => .store _ w (.verdict _ _ _) _ List.mem_cons_self) ?_
  refine Steps.bind (storeEvidence_steps _ hEvidence) fun _ _ => ?_
  refine Steps.read_bind hG.rest fun w _ => ?_
  refine Steps.attempt_bind hG.rest
    (fun w₁ w₂ _ hTx => .publish rec verdict guardianEvidence latencyMs _ _ hTx) ?_
  refine Steps.bind (fanVerdicts_steps hG _ _ fun w => .appendLate w _ _ _ _ _) fun _ _ => ?_
  exact Steps.pure trivial

theorem lookUpThread_steps {G : World → World → Prop} (hRest : ∀ w, G w w)
    (incidentId decision orgId : String) :
    Steps (fun _ => True) G (fun _ => True) (lookUpThread incidentId decision orgId) := by
  unfold lookUpThread
  refine Steps.raiseIf_bind fun _ => ?_
  refine Steps.read_bind hRest fun w _ => ?_
  exact Steps.pure trivial

theorem serveResume_steps (govApp : ResumeApp) (incidentId decision : String)
    (payload : Option (List (String × Json))) (orgId : String) (latencyMs : PyFloat)
    (decided : GovernanceVerdict) :
    Requested settings (.resume govApp incidentId decision payload orgId latencyMs)
      (serveResume settings.prim settings.serverSigningKey incidentId decision latencyMs
        decided) := by
  have hG : Ambient (RequestStep settings
      (.resume govApp incidentId decision payload orgId latencyMs)) := .request
  unfold serveResume
  refine Steps.read_bind hG.rest fun w _ => ?_
  refine Steps.read_bind hG.rest fun w _ => ?_
  refine Steps.write_bind (fun w _ => .resolve w _ _ _ _ _ _ _) ?_
  exact Steps.pure trivial

/-- The steps of a resumption: one UPDATE of the verdict, after the governance app has
answered. -/
theorem resume_steps (govApp : ResumeApp) (incidentId decision : String)
    (payload : Option (List (String × Json))) (orgId : String) (latencyMs : PyFloat) :
    Requested settings (.resume govApp incidentId decision payload orgId latencyMs)
      (resume settings.prim settings.serverSigningKey govApp incidentId decision payload orgId
        latencyMs) := by
  have hG : Ambient (RequestStep settings
      (.resume govApp incidentId decision payload orgId latencyMs)) := .request
  rw [resume_eq]
  refine Steps.bind (lookUpThread_steps hG.rest _ _ _) fun threadId _ => ?_
  refine Steps.read_bind hG.rest fun w _ => ?_
  refine Steps.ofExcept_bind fun decided _ => ?_
  exact serveResume_steps govApp incidentId decision payload orgId latencyMs decided

/-- The status of an agent is written by its id. -/
theorem setAgentStatus_steps (req : PlatformRequest) (agentId : String) (status : AgentStatus)
    (orgId : String) : Requested settings req (Agents.setAgentStatus agentId status orgId) := by
  have hG : Ambient (RequestStep settings req) := .request
  unfold Agents.setAgentStatus
  refine Steps.bind (requireAgent_steps hG _ _) fun _ _ => ?_
  refine Steps.write_bind (fun w _ => .setStatus _ w _ _) ?_
  exact requireAgent_steps hG _ _

/-- A key is revoked by its id. -/
theorem revokeKey_steps (req : PlatformRequest) (agentId kid orgId : String) :
    Requested settings req (Agents.revokeKey agentId kid orgId) := by
  have hG : Ambient (RequestStep settings req) := .request
  unfold Agents.revokeKey
  refine Steps.bind (requireAgent_steps hG _ _) fun _ _ => ?_
  refine Steps.read_bind hG.rest fun w _ => ?_
  refine Steps.require_bind fun _ _ => ?_
  exact Steps.write (fun w _ => .revokeKey _ w _) trivial

private theorem steps_map {α β : Type} {req : PlatformRequest} {prog : Handler α} (f : α → β)
    (h : Requested settings req prog) :
    Requested settings req (do let a ← prog; return f a) :=
  Steps.bind h fun _ _ => Steps.pure trivial

/-- Each ingest route keeps to its steps. -/
theorem ingest_steps (req : IngestRequest) :
    Requested settings (.ingest req) (ingest settings req) := by
  cases req with
  | submit rec receiptId => exact steps_map _ (submitOperation_steps rec receiptId)
  | decide rec govApp latencyMs => exact steps_map _ (decide_steps rec govApp latencyMs)
  | record rec => exact steps_map _ (record_steps rec)

/-- **Every step of a handler is one of the steps of its request.** -/
theorem platform_requestSteps (r : PlatformRequest) :
    Requested settings r (platform settings r) := by
  cases r with
  | ingest req => exact steps_map _ (ingest_steps req)
  | publish rec verdict guardianEvidence latencyMs =>
      exact steps_map _ (publishAsyncVerdict_steps rec verdict guardianEvidence latencyMs)
  | resume govApp incidentId decision payload orgId latencyMs =>
      exact steps_map _ (resume_steps govApp incidentId decision payload orgId latencyMs)
  | freeze agentId reason orgId =>
      refine steps_map _ (Steps.raiseIf_bind fun _ => ?_)
      exact setAgentStatus_steps _ _ _ _
  | unfreeze agentId reason orgId =>
      refine steps_map _ (Steps.raiseIf_bind fun _ => ?_)
      exact setAgentStatus_steps _ _ _ _
  | revoke agentId kid reason orgId =>
      refine steps_map _ (Steps.raiseIf_bind fun _ => ?_)
      exact revokeKey_steps _ _ _ _

/-- No handler ingests an action record but that of its request. -/
theorem platform_steps (r : PlatformRequest) :
    Stepwise settings (fun rec => r.actionRecord? = some rec) (fun _ => True)
      (platform settings r) :=
  (platform_requestSteps r).guarantee fun _ _ => RequestStep.handlerStep

end Requests

/-! ## Runs of the server -/

section Runs

variable {settings : Settings}

/-- What one step of the server does: a step of a handler, or time passes. -/
inductive PlatformStep (settings : Settings) : World → World → Prop
  | handler {w w' : World} {acts : ShieldActionRecord → Prop}
      (h : HandlerStep settings acts w w') : PlatformStep settings w w'
  | tick (w : World) (ns : Nat) : PlatformStep settings w (w.tick ns)

theorem platformStep_rest (w : World) : PlatformStep settings w w :=
  .handler (.rest w : HandlerStep settings (fun _ => False) w w)

/-- Every step of the handler is a step of the server. -/
theorem Stepwise.platformSteps {α : Type} {acts : ShieldActionRecord → Prop}
    {prog : Handler α} (h : Stepwise settings acts (fun _ => True) prog) :
    Steps (fun _ => True) (PlatformStep settings) (fun _ => True) prog :=
  h.guarantee fun _ _ => .handler

/-- A run from empty tables takes steps of the server only. -/
theorem platformRun_steps (now : Int) (agents : List Agent) (agentKeys : List AgentKey)
    (events : List (Event (platformService settings))) :
    Relation.ReflTransGen (PlatformStep settings) (World.initial now agents agentKeys)
      (platformRun settings now agents agentKeys events).state := by
  have hStart : ∀ t ∈ (platformRun settings now agents agentKeys []).threads,
      Steps (fun _ => True) (PlatformStep settings) (fun _ => True) t.2 := by
    simp [platformRun, Pool.start]
  exact (Pool.run_steps (P := fun _ => True) platformStep_rest (fun ms w _ => .tick w ms)
    (fun _ _ _ _ => trivial) events (fun r _ => (platform_steps r).platformSteps)
    hStart trivial).1

/-- What one step of the platform keeps, any number of steps keeps. -/
theorem steps_inv {I : World → Prop}
    (hI : ∀ w w', I w → PlatformStep settings w w' → I w') {w w' : World}
    (hSteps : Relation.ReflTransGen (PlatformStep settings) w w') (h0 : I w) : I w' := by
  induction hSteps with
  | refl => exact h0
  | tail _ hStep ih => exact hI _ _ ih hStep

/-- What holds of the empty tables and is kept by every step holds in every state of
every run. -/
theorem platformRun_inv {I : World → Prop}
    (hI : ∀ w w', I w → PlatformStep settings w w' → I w') {now : Int} {agents : List Agent}
    {agentKeys : List AgentKey} (h0 : I (World.initial now agents agentKeys))
    (events : List (Event (platformService settings))) :
    I (platformRun settings now agents agentKeys events).state := by
  exact steps_inv hI (platformRun_steps now agents agentKeys events) h0

/-- What is kept by every handler of a run from empty tables. -/
theorem platformRun_threads {now : Int} {agents : List Agent} {agentKeys : List AgentKey}
    {events : List (Event (platformService settings))}
    {T : PlatformRequest → Handler PlatformResponse → Prop}
    (hNext : ∀ r upd k w, T r (.await upd k) → T r (k w)) (hDone : ∀ r res, T r (.done res))
    (hStart : ∀ r, T r (platform settings r)) :
    ∀ t ∈ (platformRun settings now agents agentKeys events).threads, T t.1 t.2 :=
  Pool.run_threads hNext hDone events (fun r _ => hStart r) (by simp [Pool.start])

end Runs

end AgentShield.Server
