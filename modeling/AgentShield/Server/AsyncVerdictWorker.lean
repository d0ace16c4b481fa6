import AgentShield.Governance.Delivery
import AgentShield.Governance.Supervisor
import AgentShield.Server.Platform

/-!
# The asynchronous verdict worker

A worker hands the records of the action streams to the guardians and publishes their
late verdicts: an object, then a row, then an entry of the verdict stream.  A record that
has a row counts as published.

`skipped` is an observation of the checks that found a row.  No handler reads it.
-/

namespace AgentShield.Server

open AgentShield.Lib AgentShield.Lib.Async AgentShield.Sdk AgentShield.Governance

/-! ## The guardians -/

/-- What the evaluator found about a record. -/
structure EvaluatorResult where
  anomaly : Rat
  reasons : List VerdictReason := []
  structuringOrExfil : Bool := false

/-- What the auditor found about a record. -/
structure AuditResult where
  integrity : Rat := 1
  chainBroken : Bool := false
  reasons : List VerdictReason := []

/-- The guardians of a worker, with what they draw: the id of the verdict and the
evidence of the record. -/
structure Channel2Guardians where
  evaluate : ShieldActionRecord → Except Raised EvaluatorResult
  audit : List ShieldActionRecord → Option String → AuditResult
  supervisor : Supervisor
  verdictId : ShieldActionRecord → String
  evidence : ShieldActionRecord → List GuardianEvidence

/-- An unsigned late verdict with its record, and the findings of the guardians that it rests
on. -/
structure AsyncVerdictHandoff where
  workflowId : String
  phase : String
  record : ShieldActionRecord
  verdict : GovernanceVerdict
  guardianEvidence : List GuardianEvidence := []

/-- The hand-off of a verdict on a record, with the guardians' findings.  The ids are those of
the record, and a signature that came with the verdict is dropped. -/
def AsyncVerdictHandoff.fromRecord (record : ShieldActionRecord) (verdict : GovernanceVerdict)
    (guardianEvidence : List GuardianEvidence) : AsyncVerdictHandoff where
  workflowId := record.workflowId
  phase := record.phase.value
  record := record
  verdict :=
    { verdict with
      recordId := some record.recordId
      correlationId := record.correlationId
      runId := some record.runId
      signatureByShield := none
      shieldKid := none }
  guardianEvidence := guardianEvidence

/-- The signals of an asynchronous verdict: those of evaluator and auditor, with the
Defender's part taken for a pass. -/
def asyncSignals (record : ShieldActionRecord) (evalResult : EvaluatorResult)
    (auditResult : AuditResult) : GuardianSignals where
  defenderDecision := .pass
  evaluatorAnomaly := evalResult.anomaly
  evaluatorReasons := evalResult.reasons
  evaluatorRan := true
  auditorIntegrity := auditResult.integrity
  auditorReasons := auditResult.reasons
  structuringOrExfil := evalResult.structuringOrExfil
  chainBroken := auditResult.chainBroken
  postExec := record.phase == .postExec

/-- The handler of a Channel-2 record: the guardians' verdict, handed to `onVerdict`.  Where
the evaluator, the look-up of the key or the supervisor raises, nothing is handed over. -/
def makeAsyncChannel2Handler {τ : Type} (guardians : Channel2Guardians)
    (keyResolver : String → Async τ Raised (Option String))
    (onVerdict : AsyncVerdictHandoff → Async τ Raised Unit) (record : ShieldActionRecord) :
    Async τ Raised Unit := do
  let evalResult ← call fun s => (s, guardians.evaluate record)
  let publicKey ← keyResolver record.agentPubkeyKid
  let auditResult := guardians.audit [record] publicKey
  let verdict ← ofExcept ((guardians.supervisor.decide (guardians.verdictId record)
    (asyncSignals record evalResult auditResult) record).mapError fun _ => .other "supervisor")
  onVerdict (.fromRecord record verdict (guardians.evidence record))

/-! ## The worker -/

/-- The server's world as the worker sees it, with the records that it has skipped. -/
structure WorkerState where
  world : World
  skipped : List ShieldActionRecord := []

/-- A part of a handler that works on the server's storage. -/
def onStorage {α : Type} (prog : Handler α) : Async WorkerState Raised α :=
  within WorkerState.world (fun s w => { s with world := w })
    (prog.mapError fun _ => .other "storage")

def Database.findVerdictOf (db : Database) (recordId : String) : Option GovernanceVerdictRow :=
  db.governanceVerdicts.find? fun r => r.recordId = recordId

def Database.findKey (db : Database) (kid : String) : Option AgentKey :=
  db.agentKeys.find? fun k => k.kid = kid

namespace AsyncVerdictWorker

def defaultGroup : String := "shield-evaluator"

def defaultConsumer : String := "shield-server-async-verdict-worker"

/-- A record with a stored verdict is skipped; the look-up is made before the guardians run
and again before the verdict is stored. -/
def alreadyPublished (record : ShieldActionRecord) : Async WorkerState Raised Bool :=
  act fun s =>
    match s.world.db.findVerdictOf record.recordId with
    | some _ => ({ s with skipped := s.skipped ++ [record] }, true)
    | none => (s, false)

/-- The public key of a key that is neither revoked nor retired. -/
def resolveKey (kid : String) : Async WorkerState Raised (Option String) :=
  read fun s =>
    match s.world.db.findKey kid with
    | none => none
    | some key => if key.status = .revoked ∨ key.status = .retired then none else some key.publicKey

section Worker

variable (settings : Settings)

/-- The verdict is stored and fanned out, unless one is there by now.  Between the look and
the store another worker may do both. -/
def onVerdict (latencyMs : PyFloat) (handoff : AsyncVerdictHandoff) :
    Async WorkerState Raised Unit := do
  let published ← alreadyPublished handoff.record
  if published then return ()
  else do
    let _ ← onStorage (publishAsyncVerdict settings.prim settings.serverSigningKey
      handoff.record handoff.verdict handoff.guardianEvidence latencyMs)
    return ()

/-- The worker's handling of one record: it is skipped where it has a verdict, and judged
where it has none. -/
def handleRecord (guardians : Channel2Guardians) (latencyMs : PyFloat)
    (record : ShieldActionRecord) : Async WorkerState Raised Unit := do
  let published ← alreadyPublished record
  if published then return ()
  else makeAsyncChannel2Handler guardians resolveKey (onVerdict settings latencyMs) record

end Worker

end AsyncVerdictWorker

/-- One call of a worker's `runOnce`, with what it draws: its group and name, the stream it
reads, and the guardians it asks. -/
structure WorkerCall where
  group : String := AsyncVerdictWorker.defaultGroup
  consumer : String := AsyncVerdictWorker.defaultConsumer
  workflowId : String
  guardians : Channel2Guardians
  latencyMs : PyFloat
  count : Int := 16
  blockMs : Int := 1000

/-- The `run_once` of a call, over its guardians. -/
def WorkerCall.once (settings : Settings) (c : WorkerCall) : RunOnce WorkerState where
  consumer := { group := c.group, consumer := c.consumer }
  workflowId := c.workflowId
  handler := AsyncVerdictWorker.handleRecord settings c.guardians c.latencyMs
  count := c.count
  blockMs := c.blockMs

/-! ## Workers next to the server -/

/-- The request publishes a late verdict, which only a worker does. -/
def PlatformRequest.publishes : PlatformRequest → Bool
  | .publish .. => true
  | _ => false

/-- What goes on around the worker: its own calls, and the server's requests that publish no
verdict. -/
inductive WorkerRequest where
  | runOnce (c : WorkerCall)
  | server (req : PlatformRequest) (hServer : req.publishes = false)

inductive WorkerResponse where
  | handled (n : Nat)
  | served (res : PlatformResponse)

/-- What happens outside the handlers: time passes, or a producer appends an entry. -/
inductive WorkerEvent where
  | tick (ns : Nat)
  | xadd (stream : String) (fields : List (String × String))

section Service

variable {σ : Type} (settings : Settings) (t : Channel2Transport σ) (model : RecordModel)

/-- A part of a handler that does not touch the transport. -/
def besides {α : Type} (prog : Async WorkerState Raised α) :
    Async (Channel σ WorkerState) Raised α :=
  within Channel.outside (fun w o => { w with outside := o }) prog

def working : WorkerRequest → Async (Channel σ WorkerState) Raised WorkerResponse
  | .runOnce c => do
      let n ← runOnce t model (c.once settings)
      return .handled n
  | .server req _ => do
      let res ← besides (onStorage (platform settings req))
      return .served res

/-- The server and any number of workers on one transport.  Their calls run in any
interleaving, and what is on the transport outlives a worker that stops. -/
def workerService : Service (Channel σ WorkerState) Raised where
  Req := WorkerRequest
  Res := WorkerResponse
  handle := working settings t model
  Ext := WorkerEvent
  external
    | .tick ns, w =>
        let world := w.outside.world.tick ns
        { w with outside := { w.outside with world := world } }
    | .xadd stream fields, w => { w with transport := t.xadd stream fields w.transport }
  fault := .other "stopped"

/-- The server and its workers before their first request. -/
def workerStart (start : σ) (now : Int) (agents : List Agent) (agentKeys : List AgentKey) :
    Channel σ WorkerState where
  transport := start
  outside := { world := .initial now agents agentKeys }

end Service

end AgentShield.Server
