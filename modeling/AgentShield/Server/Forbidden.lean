import AgentShield.Lib.Alone
import AgentShield.Server.Interference
import AgentShield.Server.Registry

/-!
# When the main router answers with 403

No route of the main router answers with 403 except to a submission whose agent or key is
blocked, and by then the submission has reserved its nonce (`mainRoute_forbidden`).  The
governance app and the rendering of an export are taken not to answer with an error of the
API; the package of the governance app has none.
-/

namespace AgentShield.Server

open AgentShield.Lib AgentShield.Lib.Async AgentShield.Sdk

/-- The answer with this error has the status 403.  Only errors of the API have a status
of their own. -/
def Failure.forbidden : Failure → Prop
  | app e => e.statusCode = 403
  | _ => False

/-- The errors with another status. -/
def Failure.Other (e : Failure) : Prop := ¬ e.forbidden

theorem other_plain {status : Nat} {code : ErrorCode} (h : status ≠ 403) :
    (Failure.app (.plain status code)).Other := h

theorem other_withMessage {status : Nat} {code : ErrorCode} {message : String}
    (h : status ≠ 403) : (Failure.app (.withMessage status code message)).Other := h

theorem other_invalid (message : String) : (invalid message).Other :=
  other_withMessage (by decide)

/-- Every error of a computation without awaits has another status. -/
def ErrsOther {α : Type} (r : Except Failure α) : Prop := ∀ e, r = .error e → e.Other

section Checks

variable {α : Type}

theorem errsOther_ok (a : α) : ErrsOther (.ok a : Except Failure α) := fun _ h => nomatch h

theorem errsOther_error {e : Failure} (h : e.Other) : ErrsOther (.error e : Except Failure α) := by
  intro e' he
  obtain rfl := Except.error.inj he
  exact h

theorem errsOther_refuseIf {c : Prop} [Decidable c] {e : Failure} (h : e.Other) :
    ErrsOther (refuseIf c e) := by
  unfold refuseIf
  split
  · exact errsOther_error h
  · exact errsOther_ok ()

/-- A check that refuses with another error, before a rest that does. -/
theorem errsOther_refuseIf_bind {c : Prop} [Decidable c] {e : Failure}
    {next : Unit → Except Failure α} (h : e.Other) (hNext : ErrsOther (next ())) :
    ErrsOther (refuseIf c e >>= next) := by
  unfold refuseIf
  split
  · exact errsOther_error h
  · exact hNext

/-- A missing field is a 400. -/
theorem errsOther_requireFields (fields : List (String × String)) :
    ErrsOther (requireFields fields) := by
  intro e he
  obtain ⟨f, -, -, rfl⟩ := requireFields_error he
  exact other_withMessage (by decide)

/-- A sequence errs otherwise where both its halves do. -/
theorem errsOther_bind {β : Type} {r : Except Failure α} {next : α → Except Failure β}
    (h : ErrsOther r) (hNext : ∀ a, ErrsOther (next a)) : ErrsOther (r >>= next) := by
  cases r with
  | ok a => exact hNext a
  | error e => exact errsOther_error (h e rfl)

/-- The checks of a record's fields answer 400 and never a 403. -/
theorem errsOther_validateRecordFields (text : FloatText) (rec : OperationRecord)
    (receivedAt : Int) : ErrsOther (validateRecordFields text rec receivedAt) := by
  unfold validateRecordFields
  refine errsOther_refuseIf_bind (other_invalid _) ?_
  refine errsOther_bind (errsOther_requireFields _) fun _ => ?_
  refine errsOther_refuseIf_bind (other_invalid _) ?_
  refine errsOther_refuseIf_bind (other_invalid _) ?_
  refine errsOther_refuseIf_bind (other_invalid _) ?_
  refine errsOther_refuseIf_bind (other_invalid _) ?_
  refine errsOther_refuseIf_bind (other_plain (by decide)) ?_
  exact errsOther_refuseIf (other_plain (by decide))

/-- Nor do those of a governance record. -/
theorem errsOther_validateRecord (prim : Primitives) (rec : ShieldActionRecord)
    (receivedAt : Int) (phase : Phase) : ErrsOther (validateRecord prim rec receivedAt phase) := by
  unfold validateRecord
  refine errsOther_refuseIf_bind (other_invalid _) ?_
  refine errsOther_refuseIf_bind (other_invalid _) ?_
  refine errsOther_bind (errsOther_requireFields _) fun _ => ?_
  refine errsOther_refuseIf_bind (other_invalid _) ?_
  refine errsOther_refuseIf_bind (other_invalid _) ?_
  refine errsOther_refuseIf_bind (other_invalid _) ?_
  refine errsOther_refuseIf_bind (other_invalid _) ?_
  refine errsOther_refuseIf_bind (other_invalid _) ?_
  refine errsOther_refuseIf_bind (other_plain (by decide)) ?_
  exact errsOther_refuseIf (other_plain (by decide))

/-- The field checks of an ingest answer with 400. -/
theorem errsOther_validate (settings : Settings) (receivedAt : Int) (req : IngestRequest) :
    ErrsOther (req.validate settings receivedAt) := by
  cases req with
  | submit rec receiptId => exact errsOther_validateRecordFields _ rec receivedAt
  | decide rec govApp latencyMs => exact errsOther_validateRecord _ rec receivedAt _
  | record rec => exact errsOther_validateRecord _ rec receivedAt _

/-- A lifetime that passes the checks is positive. -/
theorem ttlMs_of_validate {settings : Settings} {receivedAt : Int} {req : IngestRequest}
    (h : req.validate settings receivedAt = .ok ()) : 0 ≤ (req.submission settings).ttlMs := by
  have hLow : ¬ (req.submission settings).ttlMs < minTtlMs := by
    cases req with
    | submit rec receiptId =>
        simp only [IngestRequest.validate, validateRecordFields, refuseIf_bind_ok,
          requireFields_bind_ok] at h
        exact h.2.2.2.2.1
    | decide rec govApp latencyMs =>
        simp only [IngestRequest.validate, validateRecord, refuseIf_bind_ok,
          requireFields_bind_ok] at h
        exact h.2.2.2.2.2.2.1
    | record rec =>
        simp only [IngestRequest.validate, validateRecord, refuseIf_bind_ok,
          requireFields_bind_ok] at h
        exact h.2.2.2.2.2.2.1
  have hMin : (0 : Int) ≤ minTtlMs := by decide
  omega

end Checks

/-! ## Handlers that answer with another status -/

/-- The handler answers with 403 to nothing. -/
abbrev RaisesOther {σ α : Type} (prog : Async σ Failure α) : Prop := Raises Failure.Other prog

section Statements

/-- A constraint that fails is no 403. -/
theorem errsOther_execute (db : Database) (st : Statement) : ErrsOther (db.execute st) := by
  cases st <;> simp only [Database.execute] <;> repeat' split
  all_goals first | exact errsOther_ok _ | exact errsOther_error id

/-- A transaction fails as its first failing statement does. -/
theorem errsOther_transaction (db : Database) (sts : List Statement) :
    ErrsOther (db.transaction sts) := by
  induction sts generalizing db with
  | nil => exact errsOther_ok db
  | cons st sts ih =>
      unfold Database.transaction
      cases hStatement : db.execute st with
      | ok db' => exact ih db'
      | error e => exact errsOther_error (errsOther_execute db st e hStatement)

/-- A part of the state that a step rewrites or refuses to. -/
theorem errsOther_map {α β : Type} {r : Except Failure α} (h : ErrsOther r) (f : α → β) :
    ErrsOther (r.map f) := by
  cases r with
  | ok a => exact errsOther_ok (f a)
  | error e => exact errsOther_error (h e rfl)

theorem raises_transaction (sts : List Statement) :
    RaisesOther (attempt fun w : World => w.transaction sts) :=
  Raises.attempt fun w => errsOther_map (errsOther_transaction w.db sts) _

/-- A change of the tables raises what the tables refuse it with. -/
theorem raises_onDatabase {f : Database → Except Failure Database}
    (h : ∀ db, ErrsOther (f db)) : RaisesOther (onDatabase f) :=
  Raises.attempt fun w => errsOther_map (h w.db) _

theorem errsOther_insertAgent (db : Database) (agent : Agent) :
    ErrsOther (db.insertAgent agent) := by
  unfold Database.insertAgent
  split
  · exact errsOther_error id
  · exact errsOther_ok _

theorem errsOther_insertAgentKeys (db : Database) (keys : List AgentKey) :
    ErrsOther (db.insertAgentKeys keys) := by
  induction keys generalizing db with
  | nil => exact errsOther_ok db
  | cons key keys ih =>
      have hKey : ErrsOther (db.insertAgentKey key) := by
        unfold Database.insertAgentKey
        repeat' split
        all_goals first | exact errsOther_ok _ | exact errsOther_error id
      unfold Database.insertAgentKeys
      cases hInsert : db.insertAgentKey key with
      | ok db' => exact ih db'
      | error e => exact errsOther_error (hKey e hInsert)

/-- An id or a key that is taken is no 403. -/
theorem errsOther_registerAgent (db : Database) (agent : Agent) (keys : List AgentKey) :
    ErrsOther (db.registerAgent agent keys) := by
  unfold Database.registerAgent
  cases hInsert : db.insertAgent agent with
  | ok db' => exact errsOther_insertAgentKeys db' keys
  | error e => exact errsOther_error (errsOther_insertAgent db agent e hInsert)

theorem errsOther_deleteAgent (db : Database) (agentId : String) :
    ErrsOther (db.deleteAgent agentId) := by
  unfold Database.deleteAgent
  split
  · exact errsOther_error id
  · exact errsOther_ok _

theorem errsOther_receiptCheck (crypto : CryptoProvider) (doc : Json) :
    ErrsOther (receiptCheck crypto doc) := by
  unfold receiptCheck
  repeat' split
  all_goals first | exact errsOther_ok _ | exact errsOther_error id

end Statements

section Routes

/-- An agent of another organisation is a 404. -/
theorem raises_requireAgent (agentId orgId : String) :
    RaisesOther (Agents.requireAgent agentId orgId) :=
  Raises.bind (Raises.read _) fun _ => Raises.require fun _ => other_plain (by decide)

theorem raises_setAgentStatus (agentId orgId : String) (status : AgentStatus) :
    RaisesOther (Agents.setAgentStatus agentId status orgId) :=
  Raises.bind (raises_requireAgent agentId orgId) fun _ =>
    Raises.bind (Raises.write _) fun _ => raises_requireAgent agentId orgId

theorem raises_freezeAgent (agentId reason orgId : String) :
    RaisesOther (Routes.freezeAgent agentId reason orgId) :=
  Raises.bind (Raises.raiseIf fun _ => other_invalid _) fun _ => raises_setAgentStatus _ _ _

theorem raises_unfreezeAgent (agentId reason orgId : String) :
    RaisesOther (Routes.unfreezeAgent agentId reason orgId) :=
  Raises.bind (Raises.raiseIf fun _ => other_invalid _) fun _ => raises_setAgentStatus _ _ _

theorem raises_revokeKey (agentId kid reason orgId : String) :
    RaisesOther (Routes.revokeKey agentId kid reason orgId) := by
  refine Raises.bind (Raises.raiseIf fun _ => other_invalid _) fun _ => ?_
  refine Raises.bind (raises_requireAgent agentId orgId) fun _ => ?_
  refine Raises.bind (Raises.read _) fun _ => ?_
  refine Raises.bind (Raises.require fun _ => other_withMessage (by decide)) fun _ => ?_
  exact Raises.write _

/-- A registration is refused by 400s and by the tables. -/
theorem raises_registerAgent (req : RegisterAgentRequest) (orgId : String) :
    RaisesOther (Agents.registerAgent req orgId) := by
  refine Raises.bind (Raises.raiseIf fun _ => other_invalid _) fun _ => ?_
  refine Raises.bind (Raises.read _) fun _ => ?_
  refine Raises.bind (Raises.raiseIf fun _ => other_invalid _) fun _ => ?_
  refine Raises.bind (raises_onDatabase fun db => errsOther_registerAgent db _ _) fun _ => ?_
  exact Raises.pure _

theorem raises_updateIntegrationType (agentId orgId : String) :
    RaisesOther (Agents.updateIntegrationType agentId orgId) :=
  Raises.bind (raises_requireAgent agentId orgId) fun _ =>
    Raises.bind (Raises.write _) fun _ => raises_requireAgent agentId orgId

theorem raises_deleteAgent (agentId orgId : String) :
    RaisesOther (Agents.deleteAgent agentId orgId) :=
  Raises.bind (raises_requireAgent agentId orgId) fun _ =>
    raises_onDatabase fun db => errsOther_deleteAgent db agentId

theorem raises_queryAudit (readFloat : List Char → PyFloat) (params : AuditQueryRequest)
    (orgId : String) : RaisesOther (queryAudit readFloat params orgId) := by
  have hCheck : ErrsOther params.check := by
    unfold AuditQueryRequest.check
    refine errsOther_refuseIf_bind (other_withMessage (by decide)) ?_
    exact errsOther_refuseIf (other_withMessage (by decide))
  have hCursor : ErrsOther (requestedCursor readFloat params.cursor) := by
    unfold requestedCursor
    repeat' split
    all_goals first | exact errsOther_ok _ | exact errsOther_error (other_withMessage (by decide))
  refine Raises.bind (Raises.ofExcept hCheck) fun _ => ?_
  refine Raises.bind (Raises.ofExcept hCursor) fun _ => ?_
  exact Raises.bind (Raises.read _) fun _ => Raises.pure _

/-- The verification of an operation answers a report or a 404, and never a 401 or a 403. -/
theorem raises_verifyOperation (py : Pydantic) (crypto : CryptoProvider)
    (operationId orgId : String) : RaisesOther (verifyOperation py crypto operationId orgId) := by
  refine Raises.bind (Raises.read _) fun _ => ?_
  refine Raises.bind (Raises.require fun _ => other_withMessage (by decide)) fun operation => ?_
  cases operation.r2PayloadKey with
  | none => exact Raises.pure _
  | some key =>
  by_cases hKey : key = ""
  · simp only [if_pos hKey]
    exact Raises.pure _
  simp only [if_neg hKey]
  refine Raises.bind (Raises.read _) fun raw => ?_
  cases raw with
  | none => exact Raises.pure _
  | some body =>
  cases body with
  | notJson => exact Raises.raise id
  | document doc =>
  refine Raises.bind (Raises.require fun _ => id) fun rec => ?_
  refine Raises.bind (Raises.read _) fun agentKey => ?_
  -- the row before it is looked up, or there is none
  split
  all_goals
    refine Raises.bind (by first | exact Raises.read _ | exact Raises.pure _) fun prev => ?_
    refine Raises.bind (Raises.read _) fun receiptRow => ?_
    cases receiptRow with
    | none => exact Raises.pure _
    | some row =>
        refine Raises.bind (Raises.read _) fun ear => ?_
        cases ear with
        | none => exact Raises.pure _
        | some body =>
            cases body with
            | notJson => exact Raises.raise id
            | document ear =>
                refine Raises.bind ?_ fun _ => Raises.pure _
                exact Raises.ofExcept (errsOther_receiptCheck crypto ear)

/-- A resumption is refused for its decision with a 400, and otherwise as its governance app
refuses it. -/
theorem raises_resume (prim : Primitives) (serverSigningKey : String) {govApp : ResumeApp}
    (hApp : ∀ threadId decision payload, ErrsOther (govApp threadId decision payload))
    (incidentId decision : String) (payload : Option (List (String × Json))) (orgId : String)
    (latencyMs : PyFloat) :
    RaisesOther (resume prim serverSigningKey govApp incidentId decision payload orgId
      latencyMs) := by
  have hAnswer : ∀ threadId, RaisesOther
      (do
        let answer ← read fun _ => govApp threadId decision payload
        let decided ← ofExcept answer
        serveResume prim serverSigningKey incidentId decision latencyMs decided) := by
    intro threadId
    refine Raises.read_bind fun _ => ?_
    refine Raises.bind (Raises.ofExcept (hApp threadId decision payload)) fun _ => ?_
    refine Raises.bind (Raises.read _) fun _ => Raises.bind (Raises.read _) fun _ => ?_
    exact Raises.bind (Raises.write _) fun _ => Raises.pure _
  rw [resume_eq]
  refine Raises.bind ?_ hAnswer
  refine Raises.bind (Raises.raiseIf fun _ => other_invalid _) fun _ => ?_
  exact Raises.bind (Raises.read _) fun _ => Raises.pure _

theorem raises_loadJson (key : Option String) : RaisesOther (loadJson key) := by
  unfold loadJson
  cases key with
  | none => exact Raises.pure _
  | some key =>
      by_cases hKey : key = ""
      · simp only [if_pos hKey]
        exact Raises.pure _
      · simp only [if_neg hKey]
        exact Raises.read _

theorem raises_loadBodies (keys : List String) : RaisesOther (loadBodies keys) := by
  induction keys with
  | nil => exact Raises.pure _
  | cons key keys ih =>
      unfold loadBodies
      refine Raises.bind (raises_loadJson (some key)) fun _ => ?_
      exact Raises.bind ih fun _ => Raises.pure _

/-- An export is refused for its time range with a 400, and otherwise as its renderer or the
tables refuse it. -/
theorem raises_createExport {settings : ArchiveSettings}
    (hRender : ∀ doc, ErrsOther (settings.renderCompliancePdf doc)) (orgId : String)
    (params : CreateExportRequest) (exportId : String) :
    RaisesOther (createExport settings orgId params exportId) := by
  have hEpochs : RaisesOther (computedEpochs settings orgId) := by
    unfold computedEpochs
    refine Raises.bind (Raises.read _) fun persisted => ?_
    by_cases hPersisted : persisted ≠ []
    · simp only [if_pos hPersisted]
      exact Raises.pure _
    · simp only [if_neg hPersisted]
      exact Raises.bind (Raises.read _) fun _ => Raises.pure _
  have hBody : ∀ payload verdicts,
      RaisesOther (exportBody settings params.format payload verdicts) := by
    intro payload verdicts
    unfold exportBody
    cases params.format with
    | json => exact Raises.pure _
    | pdf =>
        refine Raises.bind (raises_loadBodies _) fun _ => ?_
        refine Raises.bind (Raises.read _) fun _ => ?_
        exact Raises.ofExcept (hRender _)
  have hInsert : ∀ row (s : Archive), ErrsOther (Archive.insertExport row s) := by
    intro row s
    unfold Archive.insertExport
    split
    · exact errsOther_error id
    · exact errsOther_ok _
  unfold createExport
  refine Raises.bind (Raises.raiseIf fun _ => other_withMessage (by decide)) fun _ => ?_
  refine Raises.bind (Raises.read _) fun _ => ?_
  refine Raises.bind (Raises.read _) fun _ => ?_
  refine Raises.bind (Raises.read _) fun _ => ?_
  refine Raises.bind hEpochs fun _ => ?_
  refine Raises.bind (hBody _ _) fun _ => ?_
  refine Raises.bind (Raises.write _) fun _ => ?_
  exact Raises.bind (Raises.attempt (hInsert _)) fun _ => Raises.pure _

end Routes

/-! ## Submissions that are answered with 403 -/

section Submissions

variable {settings : Settings} {w : World}

theorem raises_ensureGroups (stream : String) (groups : List String) :
    RaisesOther (ensureGroups stream groups) := by
  induction groups with
  | nil => exact Raises.pure _
  | cons group groups ih => exact Raises.bind (Raises.write _) fun _ => ih

/-- What is fanned out raises only the cache's errors. -/
theorem raises_fanChannel2 (prim : Primitives) (rec : ShieldActionRecord) (chainHash : String)
    (seqNo : Int) (verdictId : String) :
    RaisesOther (fanChannel2 prim rec chainHash seqNo verdictId) :=
  Raises.bind (raises_ensureGroups _ _) fun _ =>
    Raises.bind (Raises.write _) fun _ => Raises.write _

theorem raises_fanVerdicts (prim : Primitives) (rec : ShieldActionRecord)
    (verdict : GovernanceVerdict) : RaisesOther (fanVerdicts prim rec verdict) :=
  Raises.bind (raises_ensureGroups _ _) fun _ => Raises.write _

/-- The governance app that the submission asks does not answer with 403. -/
def IngestRequest.AppOther : IngestRequest → Prop
  | decide _ govApp _ => ∀ rec, ErrsOther (govApp rec)
  | _ => True

/-- What comes after the checks does not answer with 403, so that such an answer is one of the
checks. -/
theorem ingest_raises {req : IngestRequest} (hApp : req.AppOther) :
    ∃ body : Int → Int → Handler IngestResponse,
      (∀ receivedAt seqNo, RaisesOther (body receivedAt seqNo)) ∧
      ingest settings req = (do
        let receivedAt ← read World.now
        ofExcept (req.validate settings receivedAt)
        let seqNo ← admitSubmission (req.submission settings)
        body receivedAt seqNo) := by
  cases req with
  | submit rec receiptId =>
      simp only [ingest, submitOperation, bind_assoc']
      refine ⟨_, fun receivedAt seqNo => ?_, rfl⟩
      refine Raises.bind (Raises.write _) fun _ => Raises.bind (Raises.write _) fun _ => ?_
      refine Raises.bind (raises_transaction _) fun _ => ?_
      exact Raises.bind (Raises.write _) fun _ => Raises.pure _
  | decide rec govApp latencyMs =>
      simp only [ingest, Governance.decide, ingestPrefix, bind_assoc']
      refine ⟨_, fun receivedAt seqNo => ?_, rfl⟩
      refine Raises.bind (Raises.write _) fun _ => Raises.bind (Raises.pure _) fun _ => ?_
      refine Raises.read_bind fun _ => ?_
      refine Raises.bind (Raises.ofExcept (hApp rec)) fun _ => ?_
      refine Raises.bind (Raises.read _) fun _ => Raises.bind (Raises.write _) fun _ => ?_
      refine Raises.bind (raises_transaction _) fun _ => ?_
      refine Raises.bind (raises_fanChannel2 _ _ _ _ _) fun _ => ?_
      exact Raises.bind (raises_fanVerdicts _ _ _) fun _ => Raises.pure _
  | record rec =>
      simp only [ingest, Governance.record, ingestPrefix, bind_assoc']
      refine ⟨_, fun receivedAt seqNo => ?_, rfl⟩
      refine Raises.bind (Raises.write _) fun _ => Raises.bind (Raises.pure _) fun _ => ?_
      refine Raises.bind (raises_transaction _) fun _ => ?_
      exact Raises.bind (raises_fanChannel2 _ _ _ _ _) fun _ => Raises.pure _

/-- A nonce that is taken is a replay. -/
theorem run_admitSubmission_taken {β : Type} {sub : Submission} {next : Int → Handler β}
    {taken : String} (h : w.cache.live w.clock (nonceKey sub.orgId sub.nonce) = some taken) :
    (Async.run (admitSubmission sub >>= next) w).2 = .error replayDetected := by
  have hFresh : (reserve sub w).2 = false := by
    unfold reserve
    rw [World.setIfAbsent_taken "1" _ h]
  unfold admitSubmission
  simp only [bind_assoc', run_act_bind]
  change (Async.run (raiseIf ((reserve sub w).2 = false) _ >>= _) (reserve sub w).1).2 = _
  rw [run_raiseIf_bind, if_pos hFresh]
  rfl

/-- A submission that is admissible in the state passes admission, which reserves its nonce
and hands on the next sequence number. -/
theorem run_admitSubmission_admissible {β : Type} {sub : Submission} {next : Int → Handler β}
    (h : Admissible sub w) :
    Async.run (admitSubmission sub >>= next) w =
      Async.run (next (nextSeq (w.db.latestOperation sub.agentId))) (reserve sub w).1 := by
  obtain ⟨agent, hAgent, hAgentOk⟩ := h.agent
  obtain ⟨key, hKey, hKeyOk, hSigned⟩ := h.key
  have hFresh : ¬ (reserve sub w).2 = false := by
    unfold reserve
    rw [World.setIfAbsent_free "1" _ h.nonce]
    exact Bool.noConfusion
  have hDb : (reserve sub w).1.db = w.db := rfl
  unfold admitSubmission
  simp only [bind_assoc', run_act_bind]
  change Async.run (raiseIf ((reserve sub w).2 = false) _ >>= _) (reserve sub w).1 = _
  simp only [run_raiseIf_bind, run_read_bind, run_require_bind, run_ofExcept_bind, hDb, hAgent,
    hAgentOk, hKey, hKeyOk, hSigned, h.head, if_neg hFresh]
  simp

/-- The reservation of a nonce that was free is in the cache. -/
theorem reserve_store_ne {sub : Submission} (hTtl : 0 ≤ sub.ttlMs)
    (h : w.cache.live w.clock (nonceKey sub.orgId sub.nonce) = none) :
    (reserve sub w).1.cache.store ≠ w.cache.store := by
  intro hSame
  have hGet : Dict.get? w.cache.store (nonceKey sub.orgId sub.nonce) =
      some ("1", some (w.clock + lifetime (nonceTtl sub.ttlMs))) := by
    rw [← hSame]
    unfold reserve
    rw [World.setIfAbsent_free "1" _ h]
    exact Dict.get?_set_self _ _ _
  obtain ⟨t, hExpiry, hPast⟩ := live_none_iff.1 h _ _ hGet
  obtain rfl := Option.some.inj hExpiry
  have hLater : 0 ≤ lifetime (nonceTtl sub.ttlMs) := by
    unfold lifetime nonceTtl
    omega
  omega

/-- **A submission that is answered with 403** has reserved its nonce, which comes before
every check that can answer so. -/
theorem ingest_forbidden {req : IngestRequest} (hApp : req.AppOther) {e : Failure}
    (hRun : (Async.run (ingest settings req) w).2 = .error e) (hForbidden : e.forbidden) :
    (Async.run (ingest settings req) w).1.cache.store ≠ w.cache.store := by
  obtain ⟨body, hBody, hEq⟩ := @ingest_raises settings req hApp
  rw [hEq, run_read_bind, run_ofExcept_bind] at hRun ⊢
  cases hValid : req.validate settings w.now with
  | error e' =>
      rw [hValid] at hRun
      obtain rfl := Except.error.inj hRun
      exact absurd hForbidden (errsOther_validate settings w.now req _ hValid)
  | ok u =>
      rw [hValid] at hRun
      simp only at hRun ⊢
      by_cases hChecks : Admissible (req.submission settings) w
      · rw [run_admitSubmission_admissible hChecks] at hRun
        exact absurd hForbidden ((hBody w.now _).run (Prod.ext rfl hRun))
      · cases hLive : w.cache.live w.clock
            (nonceKey (req.submission settings).orgId (req.submission settings).nonce) with
        | some taken =>
            rw [run_admitSubmission_taken hLive] at hRun
            obtain rfl := Except.error.inj hRun
            exact absurd hForbidden (other_plain (by decide))
        | none =>
            obtain ⟨e', hRefused⟩ := run_admitSubmission_refused (body w.now) hChecks
            rw [hRefused]
            exact reserve_store_ne (ttlMs_of_validate hValid) hLive

end Submissions

/-! ## The whole router -/

section Router

variable {settings : MainSettings} {orgId : String}

/-- A body that is no action record is a 400. -/
theorem errsOther_actionRecord (v : Validator) (fresh : RecordDefaults) (body : Json) :
    ErrsOther (Routes.actionRecord v fresh orgId body) := by
  unfold Routes.actionRecord
  repeat' split
  all_goals first | exact errsOther_ok _ | exact errsOther_error (other_invalid _)

/-- A body that is no operation record is a 400, or an exception of pydantic. -/
theorem errsOther_operationBody (py : Pydantic) (body : Json) :
    ErrsOther (Routes.operationBody py orgId body) := by
  unfold Routes.operationBody
  repeat' split
  all_goals first
    | exact errsOther_ok _
    | exact errsOther_error (other_invalid _)
    | exact errsOther_error id

theorem errsOther_resumeBody (body : Json) : ErrsOther (Routes.resumeBody body) := by
  unfold Routes.resumeBody
  repeat' split
  all_goals first | exact errsOther_ok _ | exact errsOther_error (other_invalid _)

/-- The governance app of the request does not answer with 403, nor does the rendering of an
export. -/
def MainRequest.AppsOther (settings : MainSettings) : MainRequest → Prop
  | governanceDecide _ _ govApp _ => ∀ rec, ErrsOther (govApp rec)
  | governanceResume _ _ govApp _ =>
      ∀ threadId decision payload, ErrsOther (govApp threadId decision payload)
  | createExport _ _ => ∀ doc, ErrsOther (settings.renderCompliancePdf doc)
  | _ => True

/-- With an answer of 403 the run leaves another cache behind. -/
private abbrev Marks {α : Type} (a : Archive) (prog : ArchiveHandler α) : Prop :=
  Ensures (fun a' r => ∀ e, r = .error e → e.forbidden →
    a'.world.cache.store ≠ a.world.cache.store) prog a

private theorem Marks.of_raises {α : Type} {a : Archive} {prog : ArchiveHandler α}
    (h : RaisesOther prog) : Marks a prog := fun _ hRun hForbidden =>
  absurd hForbidden (h.run (Prod.ext rfl hRun))

private theorem marks_onWorld {α : Type} {a : Archive} {prog : Handler α}
    (respond : α → MainResponse) (h : RaisesOther prog) :
    Marks a (onWorld prog >>= fun res => pure (respond res)) :=
  Marks.of_raises (Raises.bind (Raises.within h) fun _ => Raises.pure _)

private theorem marks_ofExcept {α β : Type} {a : Archive} {r : Except Failure α}
    {next : α → ArchiveHandler β} (h : ErrsOther r) (hNext : ∀ x, Marks a (next x)) :
    Marks a (ofExcept r >>= next) := by
  cases r with
  | ok x => exact hNext x
  | error e =>
      have hRaise : RaisesOther (Async.done (.error e) : ArchiveHandler β) := h e rfl
      exact Marks.of_raises hRaise

private theorem marks_ingest {a : Archive} {req : IngestRequest} (hApp : req.AppOther) :
    Marks a (onWorld (ingest settings.toSettings req) >>= fun res =>
      pure (MainResponse.ingested res)) := by
  refine ensures_bind.2 ?_
  unfold Ensures
  rw [run_onWorld]
  dsimp only
  cases hRun : (Async.run (ingest settings.toSettings req) a.world).2 with
  | ok res => exact fun e he => nomatch he
  | error e =>
      intro e' he hForbidden
      obtain rfl := Except.error.inj he
      exact ingest_forbidden hApp hRun hForbidden

/-- **With an answer of 403 a route of the main router has changed the cache.** -/
theorem mainRoute_forbidden {req : MainRequest} (hApps : req.AppsOther settings) {a : Archive}
    {e : Failure} (hRun : (Async.run (mainRoute settings orgId req) a).2 = .error e)
    (hForbidden : e.forbidden) :
    (Async.run (mainRoute settings orgId req) a).1.world.cache.store ≠ a.world.cache.store := by
  suffices h : Marks a (mainRoute settings orgId req) from h e hRun hForbidden
  cases req with
  | submitOperation body receiptId =>
      exact marks_ofExcept (errsOther_operationBody _ body) fun rec => marks_ingest trivial
  | verifyOperation operationId => exact marks_onWorld _ (raises_verifyOperation _ _ _ _)
  | registerAgent req => exact marks_onWorld _ (raises_registerAgent req orgId)
  | updateAgent agentId => exact marks_onWorld _ (raises_updateIntegrationType agentId orgId)
  | deleteAgent agentId =>
      exact marks_onWorld (fun _ => .deleted) (raises_deleteAgent agentId orgId)
  | freezeAgent agentId reason => exact marks_onWorld _ (raises_freezeAgent agentId reason orgId)
  | unfreezeAgent agentId reason =>
      exact marks_onWorld _ (raises_unfreezeAgent agentId reason orgId)
  | revokeKey agentId kid reason =>
      exact marks_onWorld (fun _ => .revoked) (raises_revokeKey agentId kid reason orgId)
  | auditQuery params => exact marks_onWorld _ (raises_queryAudit _ params orgId)
  | governanceDecide body fresh govApp latencyMs =>
      exact marks_ofExcept (errsOther_actionRecord _ fresh body) fun rec => marks_ingest hApps
  | governanceRecord body fresh =>
      exact marks_ofExcept (errsOther_actionRecord _ fresh body) fun rec => marks_ingest trivial
  | governanceResume incidentId body govApp latencyMs =>
      exact marks_ofExcept (errsOther_resumeBody body) fun read =>
        marks_onWorld _ (raises_resume _ _ hApps _ _ _ _ _)
  | createExport params exportId =>
      refine Marks.of_raises (Raises.bind (Raises.require fun _ => other_invalid _) fun _ => ?_)
      exact Raises.bind (raises_createExport hApps _ _ _) fun _ => Raises.pure _
  | issueToken ttlSeconds =>
      refine Marks.of_raises ?_
      cases ttlSeconds with
      | none => exact Raises.pure _
      | some ttl =>
          refine Raises.bind (Raises.read _) fun _ => ?_
          exact Raises.bind (Raises.require fun _ => id) fun _ => Raises.pure _

end Router

end AgentShield.Server
