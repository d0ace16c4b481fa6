import Mathlib.Data.Prod.Lex
import Mathlib.Data.String.Basic
import AgentShield.Governance.Python
import AgentShield.Lib.Keyset
import AgentShield.Server.Cursor
import AgentShield.Server.Platform

/-!
# The reads of the console

The audit query, and the governance reads: the timeline of a run, the verdict of a
correlation id, the provenance graph and the cost of a run, the figures of an organisation,
its incidents, and the live stream of a workflow.  They read whole tables and select in
process.  What the arithmetic of floats computes is left to `FloatArithmetic`.
-/

namespace AgentShield.Server

open AgentShield.Lib AgentShield.Lib.Async AgentShield.Sdk

/-! ## Pages -/

def maxQueryLimit : Int := 1000
def defaultQueryLimit : Int := 100

/-- `min(max(limit or DEFAULT_QUERY_LIMIT, 1), MAX_QUERY_LIMIT)`. -/
def clampLimit (limit : Option Int) : Nat :=
  let wanted := match limit with
    | some n => if n = 0 then defaultQueryLimit else n
    | none => defaultQueryLimit
  (min (max wanted 1) maxQueryLimit).toNat

/-- Rows sort by their time, and at the same time by their id. -/
abbrev RowKey := Int ×ₗ String

/-- A row's place in a listing: its time, and its id where times are equal. -/
def rowKey (createdAt : Int) (id : String) : RowKey := toLex (createdAt, id)

/-- `r` is older than the row of the cursor, or as old with a smaller id. -/
def afterCursor (cursor : Int × String) (r : RowKey) : Bool :=
  (ofLex r).1 < cursor.1 || ((ofLex r).1 = cursor.1 && (ofLex r).2 < cursor.2)

/-- A page of the rows, newest first, and the cursor to the next one.  One row more than asked
for is taken, to see whether there is a next page. -/
def keysetPage {ρ : Type} (key : ρ → RowKey) (limit : Option Int) (cursor : Option (Int × String))
    (rows : List ρ) : List ρ × Option String :=
  let clamped := clampLimit limit
  let rows := rows.insertionSort fun r r' => key r' ≤ key r
  let rows := match cursor with
    | some c => rows.filter fun r => afterCursor c (key r)
    | none => rows
  let page := rows.take (clamped + 1)
  let hasMore := clamped < page.length
  let out := if hasMore then page.take clamped else page
  let nextCursor := if hasMore then
      out.getLast?.map fun last => encodeCursor (ofLex (key last)).1 (ofLex (key last)).2
    else none
  (out, nextCursor)

/-- The cursor of a request: none when it is empty, and an error when it is not one of those
that the server gives out. -/
def requestedCursor (readFloat : List Char → PyFloat) (cursor : Option String) :
    Except Failure (Option (Int × String)) :=
  match cursor with
  | none => .ok none
  | some c =>
      if c = "" then .ok none
      else
        match decodeCursor readFloat c with
        | none => .error (.app (.withMessage 400 .validationError "Invalid cursor."))
        | some k => .ok (some k)

/-- An optional text filter: an empty text filters nothing. -/
def selects (filter : Option String) (value : String) : Bool :=
  match filter with
  | none => true
  | some wanted => wanted = "" || value = wanted

/-! ## The audit log -/

/-- An operation as it is answered: the columns of the governance routes are left out. -/
structure Operation where
  operationId : String
  orgId : String
  agentId : String
  seqNo : Int
  operationType : String
  issuedAt : Int
  ttlMs : Int
  nonce : String
  subject : String
  action : String
  payloadHash : String
  prevChainHash : String
  chainHash : String
  agentPubkeyKid : String
  signature : String
  r2PayloadKey : Option String
  createdAt : Int
  deriving DecidableEq

/-- An operation as the API shows it: the row without what only the server needs. -/
def Operation.modelValidate (r : OperationRow) : Operation where
  operationId := r.operationId
  orgId := r.orgId
  agentId := r.agentId
  seqNo := r.seqNo
  operationType := r.operationType
  issuedAt := r.issuedAt
  ttlMs := r.ttlMs
  nonce := r.nonce
  subject := r.subject
  action := r.action
  payloadHash := r.payloadHash
  prevChainHash := r.prevChainHash
  chainHash := r.chainHash
  agentPubkeyKid := r.agentPubkeyKid
  signature := r.signature
  r2PayloadKey := r.r2PayloadKey
  createdAt := r.createdAt

/-- The place of an operation in the listing. -/
def Operation.key (o : Operation) : RowKey := rowKey o.createdAt o.operationId

/-- The body of `POST /v1/audit/query`: every field that is given restricts what matches. -/
structure AuditQueryRequest where
  agentId : Option String := none
  operationType : Option String := none
  startTime : Option Int := none
  endTime : Option Int := none
  cursor : Option String := none
  limit : Option Int := none
  deriving DecidableEq

/-- A page of operations, the cursor to go on from and the number of all matches. -/
structure AuditQueryResponse where
  operations : List Operation
  cursor : Option String
  totalCount : Nat
  deriving DecidableEq

/-- The operations that a query is about. -/
def AuditQueryRequest.matching (params : AuditQueryRequest) (orgId : String)
    (rows : List OperationRow) : List Operation :=
  (rows.map Operation.modelValidate).filter fun o =>
    o.orgId = orgId && selects params.agentId o.agentId &&
      selects params.operationType o.operationType &&
      params.startTime.all (fun start => decide (start ≤ o.createdAt)) &&
      params.endTime.all (fun stop => decide (o.createdAt ≤ stop))

/-- The checks of the times and of the limit, in the order of the source. -/
def AuditQueryRequest.check (params : AuditQueryRequest) : Except Failure Unit := do
  refuseIf (∃ start ∈ params.startTime, start < 0)
    (.app (.withMessage 400 .validationError "Invalid start_time."))
  refuseIf (∃ stop ∈ params.endTime, stop < 0)
    (.app (.withMessage 400 .validationError "Invalid end_time."))

/-- `query_audit`: the organisation's operations that match, newest first, one page of them,
with the number of all that match. -/
def queryAudit (readFloat : List Char → PyFloat) (params : AuditQueryRequest) (orgId : String) :
    Handler AuditQueryResponse := do
  ofExcept params.check
  let cursor ← ofExcept (requestedCursor readFloat params.cursor)
  let rows ← read fun w => w.db.operations
  let ops := params.matching orgId rows
  let (operations, nextCursor) := keysetPage Operation.key params.limit cursor ops
  return { operations := operations, cursor := nextCursor, totalCount := ops.length }

namespace Reads

/-! ## The timeline of a run -/

/-- A verdict as the timeline shows it, without its reasons and obligations. -/
structure TimelineRow where
  verdictId : String
  recordId : String
  correlationId : String
  runId : Option String
  decision : String
  riskScore : PyFloat
  latencyMs : Option PyFloat
  createdAt : Int
  deriving DecidableEq

structure TimelineResponse where
  rows : List TimelineRow
  cursor : Option String
  totalCount : Nat
  deriving DecidableEq

def timelineRow (r : GovernanceVerdictRow) : TimelineRow where
  verdictId := r.verdictId
  recordId := r.recordId
  correlationId := r.correlationId
  runId := r.runId
  decision := r.decision
  riskScore := r.riskScore
  latencyMs := r.latencyMs
  createdAt := r.createdAt

def verdictKey (r : GovernanceVerdictRow) : RowKey := rowKey r.createdAt r.verdictId

/-- The verdicts of a run of the organisation. -/
def scopedVerdicts (orgId runId : String) (gv : List GovernanceVerdictRow) :
    List GovernanceVerdictRow :=
  gv.filter fun r => r.orgId = orgId ∧ r.runId = some runId

/-- `timeline`: the verdicts of one run of the organisation, newest first, one page of them. -/
def timeline (readFloat : List Char → PyFloat) (orgId runId : String) (cursor : Option String)
    (limit : Option Int) : Handler TimelineResponse := do
  let rows ← read fun w => w.db.governanceVerdicts
  let rows := scopedVerdicts orgId runId rows
  let cur ← ofExcept (requestedCursor readFloat cursor)
  let (out, nextCursor) := keysetPage verdictKey limit cur rows
  return { rows := out.map timelineRow, cursor := nextCursor, totalCount := rows.length }

/-! ## The verdict of a correlation id -/

/-- What is shown of one correlation id: its verdict, the records before and after, and what
the guardians found. -/
structure VerdictView where
  correlationId : String
  verdict : Option Json
  preExec : Option Json
  postExec : Option Json
  guardianEvidence : List Json
  deriving DecidableEq

/-- The object of a stored document.  A key that is empty or unknown, and a document that is
no object, give none. -/
def loadJson (key : Option String) : Handler (Option Json) :=
  match key with
  | none => pure none
  | some key =>
      if key = "" then pure none
      else read fun w =>
        match w.get key with
        | some (.document (.obj fields)) => some (.obj fields)
        | _ => none

def isDict : Json → Bool
  | .obj _ => true
  | _ => false

/-- The guardians' findings beside a verdict's object; what is no object in the list is left
out. -/
def loadGuardianEvidence (row : GovernanceVerdictRow) : Handler (List Json) :=
  if row.r2VerdictKey = "" then pure []
  else read fun w =>
    match w.get (guardianEvidenceKey row.r2VerdictKey) with
    | some (.document (.arr items)) => items.filter isDict
    | _ => []

/-- `str` of a text that may be missing. -/
def strOf (value : Option String) : String := value.getD "None"

/-- The newest of the verdicts that share a correlation id. -/
def newestVerdict (rows : List GovernanceVerdictRow) : Option GovernanceVerdictRow :=
  (rows.insertionSort fun r r' => r'.createdAt ≤ r.createdAt).head?

/-- `verdict_by_correlation`: rows and objects of the organisation; a 404 where no verdict of
it is there. -/
def verdictByCorrelation (orgId correlationId : String) : Handler VerdictView := do
  let gvRows ← read fun w => w.db.governanceVerdicts
  let found := gvRows.filter fun r => r.correlationId = correlationId ∧ r.orgId = orgId
  let latest ← require (newestVerdict found)
    (.app (.withMessage 404 .notFound "No verdict for that correlation_id."))
  let verdict ← loadJson (some latest.r2VerdictKey)
  let ops ← read fun w => w.db.operations
  let paired := ops.filter fun o => o.correlationId = some correlationId ∧ o.orgId = orgId
  let pre := paired.find? fun o => o.phase = some Phase.preExec.value
  let post := paired.find? fun o => o.phase = some Phase.postExec.value
  let preExec ← loadJson (pre.map fun o => strOf o.r2PayloadKey)
  let postExec ← loadJson (post.map fun o => strOf o.r2PayloadKey)
  let guardianEvidence ← loadGuardianEvidence latest
  return { correlationId := correlationId, verdict := verdict, preExec := preExec,
           postExec := postExec, guardianEvidence := guardianEvidence }

/-! ## The provenance graph of a run -/

/-- A record in the graph of its run, with the decision on it where it has one. -/
structure ProvenanceNode where
  recordId : String
  phase : Option String
  correlationId : Option String
  decision : Option String
  seqNo : Int
  chainHash : String
  deriving DecidableEq

inductive EdgeKind where
  | chain
  | correlation
  deriving DecidableEq

/-- An edge of the graph: to the next record of a chain, or from a decision to what followed
it. -/
structure ProvenanceEdge where
  src : String
  dst : String
  kind : EdgeKind
  deriving DecidableEq

structure ProvenanceGraph where
  runId : String
  nodes : List ProvenanceNode
  edges : List ProvenanceEdge
  deriving DecidableEq

def scopedOperations (orgId runId : String) (ops : List OperationRow) : List OperationRow :=
  ops.filter fun o => o.orgId = orgId ∧ o.runId = some runId

/-- The decision that is shown for a correlation id: the last row's. -/
def decisionByCorr (gv : List GovernanceVerdictRow) : Dict String String :=
  gv.foldl (fun d r => Dict.set d r.correlationId r.decision) []

/-- The node of an operation; only a record before an action carries the decision on it. -/
def provenanceNode (decisions : Dict String String) (o : OperationRow) : ProvenanceNode where
  recordId := o.operationId
  phase := o.phase
  correlationId := o.correlationId
  decision :=
    if o.phase = some Phase.preExec.value then Dict.get? decisions (strOf o.correlationId) else none
  seqNo := o.seqNo
  chainHash := o.chainHash

/-- The records under their chain hashes. Of records with one chain hash the last one counts. -/
def byChain (ops : List OperationRow) : Dict String String :=
  ops.foldl (fun d o => Dict.set d o.chainHash o.operationId) []

/-- An edge to every record from the one that its previous chain hash names, where the run has
it. -/
def chainEdges (ops : List OperationRow) : List ProvenanceEdge :=
  ops.filterMap fun o =>
    (Dict.get? (byChain ops) o.prevChainHash).map fun parent =>
      { src := parent, dst := o.operationId, kind := .chain }

/-- The records of every correlation id by their phase.  Of two records of one id and phase
the later one is kept. -/
def byCorr (ops : List OperationRow) : Dict String (Dict String String) :=
  ops.foldl
    (fun d o =>
      match o.correlationId with
      | none => d
      | some cid =>
          if cid = "" then d
          else
            let pair := (Dict.get? d cid).getD []
            Dict.set d cid (Dict.set pair (strOf o.phase) o.operationId))
    []

/-- An edge from the record before an action to the one after it, under a shared correlation
id. -/
def correlationEdges (ops : List OperationRow) : List ProvenanceEdge :=
  (byCorr ops).filterMap fun entry => do
    let pre ← Dict.get? entry.2 Phase.preExec.value
    let post ← Dict.get? entry.2 Phase.postExec.value
    return { src := pre, dst := post, kind := .correlation }

/-- The graph of a run: all its records, with the chain edges before the correlation edges. -/
def provenanceGraph (runId : String) (ops : List OperationRow)
    (scopedGv : List GovernanceVerdictRow) : ProvenanceGraph where
  runId := runId
  nodes := ops.map (provenanceNode (decisionByCorr scopedGv))
  edges := chainEdges ops ++ correlationEdges ops

/-- `provenance`: the graph of one run of the organisation, read by two statements. -/
def provenance (orgId runId : String) : Handler ProvenanceGraph := do
  let ops ← read fun w => w.db.operations
  let gv ← read fun w => w.db.governanceVerdicts
  return provenanceGraph runId (scopedOperations orgId runId ops) (scopedVerdicts orgId runId gv)

/-! ## Figures -/

/-- What the reads compute with floats: sums, from the left, and the nearest rank
`int(round(q * n))`. -/
structure FloatArithmetic where
  sum : List PyFloat → PyFloat
  nearestRank : PyFloat → Nat → Int

variable (floats : FloatArithmetic)

def half : PyFloat := .finite (1 / 2)
def ninetyFifth : PyFloat := .finite (19 / 20)

/-- The nearest-rank percentile. -/
def pct (values : List PyFloat) (q : PyFloat) : PyFloat :=
  let s := values.insertionSort fun x y => ¬ y < x
  let idx := (max 0 (min ((s.length : Int) - 1) (floats.nearestRank q (s.length - 1)))).toNat
  s.getD idx (.finite 0)

structure CostTokens where
  prompt : Nat
  completion : Nat
  total : Nat
  deriving DecidableEq

/-- The costs of a run: its tokens, its decisions, the loss that was prevented and the
latencies. -/
structure CostRollup where
  tokens : CostTokens
  decisionMix : List (String × Nat)
  preventedLossTotal : PyFloat
  latencyP50Ms : PyFloat
  latencyP95Ms : PyFloat
  deriving DecidableEq

def allDecisions : List Decision := [.pass, .alert, .block, .escalate, .rollback, .rewrite]

/-- How often each decision occurs.  Other texts are not counted. -/
def decisionMix (decisions : List String) : List (String × Nat) :=
  allDecisions.map fun d => (d.value, decisions.count d.value)

/-- The sums over a run's verdicts and their interventions.  Tokens, decisions and latencies
are those of the interventions, and the prevented loss is that of the verdicts. -/
def costRollup (scopedGv : List GovernanceVerdictRow) (rows : List InterventionRow) : CostRollup :=
  let prompt := (rows.map InterventionRow.tokensIn).sum
  let completion := (rows.map InterventionRow.tokensOut).sum
  let latencies := rows.filterMap InterventionRow.latencyMs
  { tokens := { prompt := prompt, completion := completion, total := prompt + completion }
    decisionMix := decisionMix (rows.map InterventionRow.decision)
    preventedLossTotal := floats.sum (scopedGv.map GovernanceVerdictRow.preventedLoss)
    latencyP50Ms := pct floats latencies half
    latencyP95Ms := pct floats latencies ninetyFifth }

/-- The log rows of the verdicts. -/
def scopedInterventions (scopedGv : List GovernanceVerdictRow) (il : List InterventionRow) :
    List InterventionRow :=
  il.filter fun r => r.verdictId ∈ scopedGv.map GovernanceVerdictRow.verdictId

/-- `cost`: the sums for one run of the organisation. -/
def cost (orgId runId : String) : Handler CostRollup := do
  let gv ← read fun w => w.db.governanceVerdicts
  let scopedGv := scopedVerdicts orgId runId gv
  let il ← read fun w => w.db.interventionLog
  return costRollup floats scopedGv (scopedInterventions scopedGv il)

/-- The figures of the dashboard, over all verdicts of the organisation. -/
structure DashboardKpi where
  preventedLossTotal : PyFloat
  decisionMix : List (String × Nat)
  totalVerdicts : Nat
  deriving DecidableEq

/-- `dashboard_kpi`: the figures over all verdicts of the organisation. -/
def dashboardKpi (orgId : String) : Handler DashboardKpi := do
  let gv ← read fun w => w.db.governanceVerdicts
  let scopedGv := gv.filter fun r => r.orgId = orgId
  return {
      preventedLossTotal := floats.sum (scopedGv.map GovernanceVerdictRow.preventedLoss)
      decisionMix := decisionMix (scopedGv.map GovernanceVerdictRow.decision)
      totalVerdicts := scopedGv.length }

/-! ## Incidents -/

/-- An escalated verdict as it is listed, open until it has a resolution. -/
structure IncidentRow where
  incidentId : String
  correlationId : String
  runId : Option String
  decision : String
  riskScore : PyFloat
  status : String
  resolution : Option String
  createdAt : Int
  deriving DecidableEq

structure IncidentsResponse where
  incidents : List IncidentRow
  cursor : Option String
  totalCount : Nat
  deriving DecidableEq

def resolutions : List String := ["accept", "edit", "response", "ignore"]

/-- A verdict is resolved once its resolution is a text that is not empty. -/
def resolvedRow (r : GovernanceVerdictRow) : Bool := r.resolution.any fun text => text ≠ ""

def incidentStatus (r : GovernanceVerdictRow) : String :=
  if resolvedRow r then "resolved" else "pending"

def incidentRow (r : GovernanceVerdictRow) : IncidentRow where
  incidentId := r.verdictId
  correlationId := r.correlationId
  runId := r.runId
  decision := r.decision
  riskScore := r.riskScore
  status := incidentStatus r
  resolution := r.resolution.filter fun text => text ∈ resolutions
  createdAt := r.createdAt

/-- The incidents that a request is about. -/
def matchingIncidents (orgId : String) (runId status : Option String)
    (gv : List GovernanceVerdictRow) : List GovernanceVerdictRow :=
  (gv.filter fun r => r.orgId = orgId && r.decision = Decision.escalate.value &&
      runId.all (fun run => r.runId = some run)).filter fun r =>
    status.all fun wanted => incidentStatus r = wanted

/-- `incidents`: the escalated verdicts of the organisation, by run and by status, one page of
them. -/
def incidents (readFloat : List Char → PyFloat) (orgId : String)
    (runId status cursor : Option String)
    (limit : Option Int) : Handler IncidentsResponse := do
  raiseIf (∃ wanted ∈ status, wanted ≠ "pending" ∧ wanted ≠ "resolved")
    (.app (.withMessage 400 .validationError "status must be pending|resolved."))
  let gv ← read fun w => w.db.governanceVerdicts
  let rows := matchingIncidents orgId runId status gv
  let cur ← ofExcept (requestedCursor readFloat cursor)
  let (out, nextCursor) := keysetPage verdictKey limit cur rows
  return { incidents := out.map incidentRow, cursor := nextCursor, totalCount := rows.length }

end Reads

/-! ## The live stream -/

/-- `json.dumps` of a dictionary of texts. -/
def dumpsStrings (fields : List (String × String)) : String :=
  "\x7b" ++ ", ".intercalate (fields.map fun f => asciiString f.1 ++ ": " ++ asciiString f.2) ++
    "\x7d"

namespace Routes

/-- An event of the stream as it goes over the wire. -/
def sse (event data : String) : String := "event: " ++ event ++ "\ndata: " ++ data ++ "\n\n"

/-- What the stream of a workflow holds now. -/
def governanceStream (workflowId : String) : Handler (List String) := do
  let actions ← read fun w => w.cache.entries (streamName actionsStreamPrefix workflowId)
  let verdicts ← read fun w => w.cache.entries (streamName verdictsStreamPrefix workflowId)
  return actions.map (fun fields => sse "action" (dumpsStrings fields)) ++
    verdicts.map fun fields => sse "verdict" (dumpsStrings fields)

end Routes

end AgentShield.Server
