import AgentShield.Server.Governance

/-!
# Late and resumed verdicts

The two other places where the server signs a verdict: `publishAsyncVerdict`, the
boundary of the asynchronous guardians, and `resume`, which re-enters a paused
incident with the decision of a human.  The governance app computes the verdict;
the server sets its identity and timing, signs it, and stores what it has to.
-/

namespace AgentShield.Server

open AgentShield.Lib AgentShield.Lib.Async AgentShield.Sdk

/-! ## The evidence of the guardians -/

/-- One guardian's evidence for a record: what it has decided and why, and what the call of
its model has cost. -/
structure GuardianEvidence where
  guardian : Guardian
  decision : Decision
  reasons : List String
  modelId : Option String
  servedVia : Option ServedVia
  promptTokens : Nat := 0
  completionTokens : Nat := 0
  latencyMs : PyFloat := .finite 0
  costUsd : PyFloat := .finite 0
  memory : Option (List (String × Json)) := none
  toolCalls : List String := []

def memoryColumns : List String :=
  ["memory_backend", "collection", "query_id", "hit_count", "missing_reason"]

/-- `hit.get(key)`. -/
def getOrNull (fields : List (String × Json)) (key : String) : Json :=
  (Dict.get? fields key).getD .null

/-- The columns that are copied out of a guardian's memory, with its latency and its nearest
hit under names of their own. -/
def memoryItems (memory : List (String × Json)) : List (String × Json) :=
  ("memory", .obj memory) ::
    (memoryColumns.filterMap fun key => (Dict.get? memory key).map fun value => (key, value)) ++
    (if getOrNull memory "latency_ms" = .null then []
      else [("memory_latency_ms", getOrNull memory "latency_ms")]) ++
    match Dict.get? memory "top_hits" with
    | some (.arr (.obj hit :: _)) =>
        [("top_hit_id", getOrNull hit "id"), ("score", getOrNull hit "score"),
          ("distance", getOrNull hit "distance")]
    | _ => []

def guardianEvidenceItem (rec : ShieldActionRecord) (row : GuardianEvidence) : Json :=
  .obj (
    [("record_id", .str rec.recordId),
     ("correlation_id", .str rec.correlationId),
     ("guardian", .str row.guardian.value),
     ("decision", .str row.decision.value),
     ("reasons", .arr (row.reasons.map .str)),
     ("model_id", .ofOption .str row.modelId),
     ("served_via", .ofOption (fun v => .str v.value) row.servedVia),
     ("prompt_tokens", .int row.promptTokens),
     ("completion_tokens", .int row.completionTokens),
     ("latency_ms", .float row.latencyMs),
     ("cost_usd", .float row.costUsd)] ++
    (match row.memory with
      | some memory => memoryItems memory
      | none => []) ++
    (if row.toolCalls = [] then [] else [("tool_calls", .arr (row.toolCalls.map .str))]))

def guardianEvidencePayload (rec : ShieldActionRecord) (rows : List GuardianEvidence) :
    List Json :=
  rows.map (guardianEvidenceItem rec)

def guardianEvidenceKey (verdictKey : String) : String := verdictKey ++ ".guardian_evidence"

section Verdicts

variable (prim : Primitives) (serverSigningKey : String)

/-- The evidence of the guardians is stored next to the verdict, when there is any. -/
def storeEvidence (verdictKey : String) (evidence : List Json) : Handler Unit :=
  if evidence = [] then pure ()
  else write fun w => w.put (guardianEvidenceKey verdictKey) (.document (.arr evidence))

/-- A late verdict for a record: signed, stored with the evidence of the
guardians, and published on the verdict stream. -/
def publishAsyncVerdict (rec : ShieldActionRecord) (verdict : GovernanceVerdict)
    (guardianEvidence : List GuardianEvidence) (latencyMs : PyFloat) :
    Handler GovernanceVerdict := do
  let servedAt ← read World.now
  let signed := serveVerdict prim serverSigningKey rec verdict servedAt latencyMs
  let verdictKey := verdictObjectKey rec.orgId rec.agentId signed.verdictId
  write fun w => w.put verdictKey (.ofJson (signed.modelDump false))
  storeEvidence verdictKey (guardianEvidencePayload rec guardianEvidence)
  let createdAt ← read World.now
  attempt fun w => w.transaction
    [.insertGovernanceVerdict (governanceVerdictInsert rec signed verdictKey createdAt)]
  fanVerdicts prim rec signed
  return signed

/-! ## Resuming an incident -/

/-- What the governance app answers to a resumed thread. -/
abbrev ResumeApp :=
  String → String → Option (List (String × Json)) → Except Failure GovernanceVerdict

def resumeDecisions : List String := ["accept", "edit", "response", "ignore"]

def Database.findVerdict (db : Database) (verdictId orgId : String) :
    Option GovernanceVerdictRow :=
  db.governanceVerdicts.find? fun r => r.verdictId = verdictId ∧ r.orgId = orgId

/-- The thread of an incident: the run of its verdict, when that is known. -/
def resumeThreadId (row : Option GovernanceVerdictRow) (incidentId : String) : String :=
  match row with
  | none => incidentId
  | some r => r.runId.getD incidentId

/-- The resumed verdict with the server's timing, signed with its key.  Its ids are left as
the app has given them. -/
def serveResumed (verdict : GovernanceVerdict) (servedAt : Int) (latencyMs : PyFloat) :
    GovernanceVerdict :=
  finalizeVerdict prim
    { verdict with
      servedAt := some servedAt
      latencyMs := some latencyMs
      shieldKid := some shieldKid }
    serverSigningKey

/-- Marks an incident as resolved.  An unknown incident is no error. -/
def World.resolveVerdict (w : World) (decision : String) (resolvedAt : Int)
    (incidentId : String) : World :=
  { w with db := { w.db with governanceVerdicts := w.db.governanceVerdicts.map fun r =>
      if r.verdictId = incidentId then
        { r with resolution := some decision, resolvedAt := some resolvedAt }
      else r } }

def resume (govApp : ResumeApp) (incidentId decision : String)
    (payload : Option (List (String × Json))) (orgId : String) (latencyMs : PyFloat) :
    Handler GovernanceVerdict := do
  raiseIf (decision ∉ resumeDecisions)
    (invalid ("decision must be one of " ++ ", ".intercalate resumeDecisions ++ "."))
  let row ← read fun w => w.db.findVerdict incidentId orgId
  let answer ← read fun _ => govApp (resumeThreadId row incidentId) decision payload
  let decided ← ofExcept answer
  let servedAt ← read World.now
  let verdict := serveResumed prim serverSigningKey decided servedAt latencyMs
  let resolvedAt ← read World.now
  write fun w => w.resolveVerdict decision resolvedAt incidentId
  return verdict

/-- The part of `resume` before the governance app is asked: the thread of the
incident. -/
def lookUpThread (incidentId decision orgId : String) : Handler String := do
  raiseIf (decision ∉ resumeDecisions)
    (invalid ("decision must be one of " ++ ", ".intercalate resumeDecisions ++ "."))
  let row ← read fun w => w.db.findVerdict incidentId orgId
  return resumeThreadId row incidentId

/-- The part of `resume` after its answer. -/
def serveResume (incidentId decision : String) (latencyMs : PyFloat)
    (decided : GovernanceVerdict) : Handler GovernanceVerdict := do
  let servedAt ← read World.now
  let verdict := serveResumed prim serverSigningKey decided servedAt latencyMs
  let resolvedAt ← read World.now
  write fun w => w.resolveVerdict decision resolvedAt incidentId
  return verdict

theorem resume_eq (govApp : ResumeApp) (incidentId decision : String)
    (payload : Option (List (String × Json))) (orgId : String) (latencyMs : PyFloat) :
    resume prim serverSigningKey govApp incidentId decision payload orgId latencyMs =
      (do
        let threadId ← lookUpThread incidentId decision orgId
        let answer ← read fun _ => govApp threadId decision payload
        let decided ← ofExcept answer
        serveResume prim serverSigningKey incidentId decision latencyMs decided) := by
  unfold resume lookUpThread
  rw [bind_assoc']
  rfl

end Verdicts

end AgentShield.Server
