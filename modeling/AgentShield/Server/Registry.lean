import AgentShield.Lib.Alone
import AgentShield.Server.Archive
import AgentShield.Server.Reads
import AgentShield.Server.SignableParity

/-!
# The main router

The routes of the main router that answer `POST`, `PATCH` and `DELETE`, given the
organisation of the caller.  Registering and deleting an agent are a transaction each;
an update sets columns of an agent that nothing else reads, and they are left out.
-/

namespace AgentShield.Server

open AgentShield.Lib AgentShield.Lib.Async AgentShield.Sdk

/-! ## Agents that come and go -/

structure RegisterAgentKey where
  kid : String
  publicKey : String
  deriving DecidableEq

structure RegisterAgentRequest where
  agentId : String
  keys : List RegisterAgentKey := []
  deriving DecidableEq

structure RegisterAgentResponse where
  agent : Agent
  keys : List AgentKey
  deriving DecidableEq

namespace Database

/-- The INSERT of an agent: its id is the primary key. -/
def insertAgent (db : Database) (agent : Agent) : Except Failure Database :=
  if ∃ a ∈ db.agents, a.agentId = agent.agentId then .error (.database (.primaryKey "agents"))
  else .ok { db with agents := db.agents ++ [agent] }

/-- The INSERT of a key: its id is the primary key and its agent must be there. -/
def insertAgentKey (db : Database) (key : AgentKey) : Except Failure Database :=
  if ∃ k ∈ db.agentKeys, k.kid = key.kid then .error (.database (.primaryKey "agent_keys"))
  else if ∃ a ∈ db.agents, a.agentId = key.agentId then
    .ok { db with agentKeys := db.agentKeys ++ [key] }
  else .error (.database (.foreignKey "agent_keys"))

/-- The keys one after the other; the first that is refused refuses them all. -/
def insertAgentKeys (db : Database) : List AgentKey → Except Failure Database
  | [] => .ok db
  | key :: keys =>
      match db.insertAgentKey key with
      | .ok db' => db'.insertAgentKeys keys
      | .error e => .error e

/-- The agent and its keys, or neither. -/
def registerAgent (db : Database) (agent : Agent) (keys : List AgentKey) :
    Except Failure Database :=
  match db.insertAgent agent with
  | .ok db' => db'.insertAgentKeys keys
  | .error e => .error e

/-- Its keys go with the agent; an agent with operations stays. -/
def deleteAgent (db : Database) (agentId : String) : Except Failure Database :=
  if ∃ r ∈ db.operations, r.agentId = agentId then .error (.database (.foreignKey "operations"))
  else .ok { db with
    agentKeys := db.agentKeys.filter fun k => k.agentId ≠ agentId
    agents := db.agents.filter fun a => a.agentId ≠ agentId }

end Database

/-- One transaction, all or nothing. -/
def onDatabase (f : Database → Except Failure Database) : Handler Unit :=
  attempt fun w => (f w.db).map fun db => { w with db := db }

namespace Agents

/-- `register_agent`: an agent and its keys in one transaction.  An agent of another
organisation under the same id is found only by the primary key. -/
def registerAgent (req : RegisterAgentRequest) (orgId : String) :
    Handler RegisterAgentResponse := do
  raiseIf (req.agentId = "") (invalid "Missing agent_id.")
  let existing ← read fun w => w.db.findAgent req.agentId orgId
  raiseIf (existing.isSome = true) (invalid "Agent already registered.")
  let agent : Agent := { agentId := req.agentId, orgId := orgId, status := .active }
  let keys := req.keys.map fun k =>
    { kid := k.kid, agentId := req.agentId, publicKey := k.publicKey, status := .active }
  onDatabase fun db => db.registerAgent agent keys
  return { agent := agent, keys := keys }

/-- The columns that it sets are left out. -/
def updateIntegrationType (agentId orgId : String) : Handler Agent := do
  let _ ← requireAgent agentId orgId
  write id
  requireAgent agentId orgId

/-- `delete_agent`: refused by the foreign key where the agent has operations. -/
def deleteAgent (agentId orgId : String) : Handler Unit := do
  let _ ← requireAgent agentId orgId
  onDatabase fun db => db.deleteAgent agentId

end Agents

/-! ## Bodies -/

/-- The body of a governance route as a record of the caller's organisation, whatever
organisation it names itself.  A record that does not validate is refused as malformed. -/
def Routes.actionRecord (v : Validator) (fresh : RecordDefaults) (orgId : String) :
    Json → Except Failure ShieldActionRecord
  | .obj body =>
      match ShieldActionRecord.modelValidate v fresh (.obj (Dict.set body "org_id" (.str orgId)))
      with
      | some rec => .ok rec
      | none => .error (invalid "Malformed ShieldActionRecord.")
  | _ => .error (invalid "Invalid record body.")

/-- The body of a submission, as a record of the caller's organisation.  A malformed record is
an exception of pydantic, which the route does not catch. -/
def Routes.operationBody (py : Pydantic) (orgId : String) : Json → Except Failure OperationRecord
  | .obj body =>
      if (Dict.get? body "operation_id").any truthy then
        match OperationRecord.modelValidateJson py (.obj (Dict.set body "org_id" (.str orgId)))
        with
        | some rec => .ok rec
        | none => .error .validation
      else .error (invalid "Invalid operation body.")
  | _ => .error (invalid "Invalid operation body.")

/-- The decision of a resume body, and its payload, which may be missing or null but nothing
else than an object. -/
def Routes.resumeBody : Json → Except Failure (String × Option (List (String × Json)))
  | .obj body =>
      match Dict.get? body "decision" with
      | some (.str decision) =>
          match Dict.get? body "payload" with
          | none => .ok (decision, none)
          | some .null => .ok (decision, none)
          | some (.obj payload) => .ok (decision, some payload)
          | some _ => .error (invalid "resume payload must be an object.")
      | _ => .error (invalid "Missing resume decision.")
  | _ => .error (invalid "Invalid resume body.")

/-! ## The routes -/

/-- A request to a route with another method than `GET`, with what its handler draws from
its environment.  The lifetime of a token is what `int` makes of it, if anything. -/
inductive MainRequest where
  | submitOperation (body : Json) (receiptId : String)
  | verifyOperation (operationId : String)
  | registerAgent (req : RegisterAgentRequest)
  | updateAgent (agentId : String)
  | deleteAgent (agentId : String)
  | freezeAgent (agentId reason : String)
  | unfreezeAgent (agentId reason : String)
  | revokeKey (agentId kid reason : String)
  | auditQuery (params : AuditQueryRequest)
  | governanceDecide (body : Json) (fresh : RecordDefaults) (govApp : GovernanceApp)
      (latencyMs : PyFloat)
  | governanceRecord (body : Json) (fresh : RecordDefaults)
  | governanceResume (incidentId : String) (body : Json) (govApp : ResumeApp)
      (latencyMs : PyFloat)
  | createExport (params : Option CreateExportRequest) (exportId : String)
  | issueToken (ttlSeconds : Option (Option Int))

def MainRequest.method : MainRequest → String
  | updateAgent _ => "PATCH"
  | deleteAgent _ => "DELETE"
  | _ => "POST"

/-- The answers of the main router, one for each shape that its routes return. -/
inductive MainResponse where
  | ingested (res : IngestResponse)
  | verified (report : VerifyReport)
  | registered (res : RegisterAgentResponse)
  | agent (a : Agent)
  | deleted
  | revoked
  | audit (res : AuditQueryResponse)
  | verdict (v : GovernanceVerdict)
  | exported (res : GetExportResponse)
  | token (expiresAt : Option Int)
  deriving DecidableEq

structure MainSettings extends ArchiveSettings where
  validator : Validator
  readFloat : List Char → PyFloat

section Routes

variable (settings : MainSettings) (orgId : String)

def ingestRecord (rec : ShieldActionRecord) (req : ShieldActionRecord → IngestRequest) :
    ArchiveHandler MainResponse := do
  let res ← onWorld (ingest settings.toSettings (req rec))
  return .ingested res

/-- The routes of the main router, from the body of a request to its answer. -/
def mainRoute : MainRequest → ArchiveHandler MainResponse
  | .submitOperation body receiptId => do
      let rec ← ofExcept (Routes.operationBody settings.py orgId body)
      let res ← onWorld (ingest settings.toSettings (.submit rec receiptId))
      return .ingested res
  | .verifyOperation operationId => do
      let report ← onWorld (verifyOperation settings.py (shieldSdkCrypto settings.prim)
        operationId orgId)
      return .verified report
  | .registerAgent req => do
      let res ← onWorld (Agents.registerAgent req orgId)
      return .registered res
  | .updateAgent agentId => do
      let a ← onWorld (Agents.updateIntegrationType agentId orgId)
      return .agent a
  | .deleteAgent agentId => do
      onWorld (Agents.deleteAgent agentId orgId)
      return .deleted
  | .freezeAgent agentId reason => do
      let a ← onWorld (Routes.freezeAgent agentId reason orgId)
      return .agent a
  | .unfreezeAgent agentId reason => do
      let a ← onWorld (Routes.unfreezeAgent agentId reason orgId)
      return .agent a
  | .revokeKey agentId kid reason => do
      onWorld (Routes.revokeKey agentId kid reason orgId)
      return .revoked
  | .auditQuery params => do
      let res ← onWorld (queryAudit settings.readFloat params orgId)
      return .audit res
  | .governanceDecide body fresh govApp latencyMs => do
      let rec ← ofExcept (Routes.actionRecord settings.validator fresh orgId body)
      ingestRecord settings rec (.decide · govApp latencyMs)
  | .governanceRecord body fresh => do
      let rec ← ofExcept (Routes.actionRecord settings.validator fresh orgId body)
      ingestRecord settings rec .record
  | .governanceResume incidentId body govApp latencyMs => do
      let (decision, payload) ← ofExcept (Routes.resumeBody body)
      let v ← onWorld (resume settings.prim settings.serverSigningKey govApp incidentId decision
        payload orgId latencyMs)
      return .verdict v
  | .createExport params exportId => do
      let params ← require params (invalid "Malformed export request.")
      let res ← createExport settings.toArchiveSettings orgId params exportId
      return .exported res
  | .issueToken ttlSeconds => do
      match ttlSeconds with
      | none => return .token none
      | some ttl => do
          let now ← read fun s => s.world.now
          let seconds ← require ttl .validation
          return .token (some (now + seconds * 1000))

end Routes

/-- A handler of the server runs on the world of the archive. -/
theorem run_onWorld {α : Type} (prog : Handler α) (a : Archive) :
    run (onWorld prog) a =
      ({ a with world := (run prog a.world).1 }, (run prog a.world).2) := by
  refine run_within ?_ ?_ ?_ prog a
  · exact fun _ _ => rfl
  · exact fun _ _ _ => rfl
  · exact fun _ => rfl

end AgentShield.Server
