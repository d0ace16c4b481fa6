import Mathlib.Algebra.Order.Ring.Rat
import AgentShield.Sdk.JsonValues
import AgentShield.Server.Registry

/-!
# The server with its console

The requests of the archive next to those of the console: agents that are registered, read
and deleted, the lists of epochs and exports, the download of an export, and the scheduler's
loop, as one service (`consoleService`).
-/

namespace AgentShield.Server

open AgentShield.Lib AgentShield.Lib.Async AgentShield.Sdk

/-! ## Agents -/

/-- `SELECT * FROM agent_keys WHERE agent_id = ...`. -/
def Database.keysOf (db : Database) (agentId : String) : List AgentKey :=
  db.agentKeys.filter fun k => k.agentId = agentId

def Agents.getAgent (agentId orgId : String) : Handler (Agent × List AgentKey) := do
  let agent ← requireAgent agentId orgId
  let keys ← read fun w => w.db.keysOf agentId
  return (agent, keys)

/-! ## Exports -/

/-- The exports of an organisation, the latest first. -/
def exportRows (orgId : String) : ArchiveHandler (List ExportModel) :=
  read fun s => (s.exports.filter fun r => r.orgId = orgId).insertionSort fun r r' =>
    r'.createdAt ≤ r.createdAt

def Archive.findExport (s : Archive) (exportId orgId : String) : Option ExportModel :=
  s.exports.find? fun r => r.exportId = exportId ∧ r.orgId = orgId

def getExport (orgId exportId : String) : ArchiveHandler GetExportResponse := do
  let row ← read fun s => s.findExport exportId orgId
  let row ← require row (.app (.withMessage 404 .notFound "Export not found."))
  return { exported := row, downloadUrl := some ("/v1/exports/" ++ exportId ++ "/download") }

/-- A downloaded export: its document, or a report whose bytes are left out. -/
inductive Download where
  | document (doc : Json)
  | report (exportId contentType filename : String)
  deriving DecidableEq

/-- What `json.loads` makes of an artifact, in an object. -/
def Download.ofBody : Body → Except Failure Download
  | .document (.obj fields) => .ok (.document (.obj fields))
  | .document doc => .ok (.document (.obj [("export", doc)]))
  | .notJson => .error .validation

def isReport (key : String) : Bool := ".pdf".toList.isSuffixOf key.toList

def downloadExport (orgId exportId : String) : ArchiveHandler Download := do
  let found ← getExport orgId exportId
  let exported := found.exported
  raiseIf (exported.status ≠ .done ∨ exported.r2ExportKey.getD "" = "")
    (.app (.withMessage 400 .validationError "Export not yet complete."))
  let key := exported.r2ExportKey.getD ""
  let raw ← read fun s => s.world.get key
  let raw ← require raw (.app (.withMessage 404 .notFound "Export artifact not found."))
  if isReport key = true then
    return .report exported.exportId "application/pdf" (exported.exportId ++ ".pdf")
  else ofExcept (Download.ofBody raw)

/-- The floats that have a JSON number. -/
def hasJsonNumber : PyFloat → Bool
  | .finite _ => true
  | _ => false

/-- What `JSONResponse` makes of a download: it writes JSON with `allow_nan=False`, so it
raises on a float that JSON has no number for. -/
def Download.jsonResponse : Download → Except Failure Download
  | .document doc =>
      if ∀ x ∈ doc.floats, hasJsonNumber x then .ok (.document doc) else .error .validation
  | .report exportId contentType filename => .ok (.report exportId contentType filename)

theorem Download.jsonResponse_document (doc : Json) :
    (Download.document doc).jsonResponse =
      if ∀ x ∈ doc.floats, hasJsonNumber x then .ok (.document doc) else .error .validation := rfl

/-- The route of a download. -/
def Routes.downloadExport (orgId exportId : String) : ArchiveHandler Download := do
  let payload ← Server.downloadExport orgId exportId
  ofExcept payload.jsonResponse

/-! ## The loop of the scheduler -/

section Scheduler

variable (settings : ArchiveSettings)

/-- As many ticks as are left, with a sleep between two of them.  Other requests run during
the sleep, and between the steps of a tick. -/
def epochTicks (orgId : String) : Nat → ArchiveHandler (List EpochSchedulerResult)
  | 0 => pure []
  | runs + 1 => do
      let res ← runEpochOnce settings orgId
      if runs = 0 then return [res]
      else do
        read fun _ => ()
        let results ← epochTicks orgId runs
        return res :: results

/-- The loop with a bound on its runs.  Without one it does not return. -/
def runEpochInterval (orgId : String) (intervalSeconds : Rat) (maxRuns : Int) :
    ArchiveHandler (List EpochSchedulerResult) := do
  raiseIf (intervalSeconds ≤ 0) .validation
  raiseIf (maxRuns ≤ 0) .validation
  epochTicks settings orgId maxRuns.toNat

end Scheduler

/-! ## The service -/

inductive ConsoleRequest where
  | archive (req : ArchiveRequest)
  | registerAgent (req : RegisterAgentRequest) (orgId : String)
  | deleteAgent (agentId orgId : String)
  | getAgent (agentId orgId : String)
  | epochs (orgId : String)
  | runEpochInterval (orgId : String) (intervalSeconds : Rat) (maxRuns : Int)
  | listExports (orgId : String)
  | getExport (orgId exportId : String)
  | downloadExport (orgId exportId : String)

inductive ConsoleResponse where
  | archived (res : ArchiveResponse)
  | registered (res : RegisterAgentResponse)
  | deleted
  | agent (agent : Agent) (keys : List AgentKey)
  | epochs (epochs : List Epoch)
  | ticked (results : List EpochSchedulerResult)
  | exports (rows : List ExportModel)
  | exported (res : GetExportResponse)
  | downloaded (res : Download)
  deriving DecidableEq

section Service

variable (settings : ArchiveSettings)

def console : ConsoleRequest → ArchiveHandler ConsoleResponse
  | .archive req => do
      let res ← archive settings req
      return .archived res
  | .registerAgent req orgId => do
      let res ← onWorld (Agents.registerAgent req orgId)
      return .registered res
  | .deleteAgent agentId orgId => do
      onWorld (Agents.deleteAgent agentId orgId)
      return .deleted
  | .getAgent agentId orgId => do
      let found ← onWorld (Agents.getAgent agentId orgId)
      return .agent found.1 found.2
  | .epochs orgId => do
      let epochs ← computedEpochs settings orgId
      return .epochs epochs
  | .runEpochInterval orgId intervalSeconds maxRuns => do
      let results ← runEpochInterval settings orgId intervalSeconds maxRuns
      return .ticked results
  | .listExports orgId => do
      let rows ← exportRows orgId
      return .exports rows
  | .getExport orgId exportId => do
      let res ← getExport orgId exportId
      return .exported res
  | .downloadExport orgId exportId => do
      let res ← Routes.downloadExport orgId exportId
      return .downloaded res

/-- The server with its console as a pool of handlers.  Outside them only time passes. -/
def consoleService : Service Archive Failure where
  Req := ConsoleRequest
  Res := ConsoleResponse
  handle := console settings
  Ext := Nat
  external ns s := { s with world := s.world.tick ns }
  fault := .backend

instance consoleResDecidableEq : DecidableEq (consoleService settings).Res :=
  inferInstanceAs (DecidableEq ConsoleResponse)

/-- The server after a run of events from empty tables. -/
def consoleRun (now : Int) (events : List (Event (consoleService settings))) :
    Pool (consoleService settings) :=
  (Pool.start { world := .initial now [] [] }).run events

end Service

end AgentShield.Server
