import Mathlib.Data.List.Sort
import AgentShield.Lib.Sha2
import AgentShield.Lib.Window
import AgentShield.Sdk.Base64url
import AgentShield.Governance.Engine

/-!
# Incident memory of the guardians

The guardians recall incidents through one of two memories: a collection of a vector store,
and a short window that lives as long as the process.  Which stored documents are near a
query is up to the vector store.  Neither memory asks for the organisation of an incident:
a recall finds the incidents that were recorded, whoever recorded them
(`recall_finds_recorded`).
-/

namespace AgentShield.Governance

open AgentShield.Lib AgentShield.Sdk

/-! ## The text of a record -/

def hexdigest (bytes : List UInt8) : String :=
  String.ofList (bytes.flatMap fun b => [hexDigit (b.toNat / 16), hexDigit (b.toNat % 16)])

/-- The first sixteen hex digits of a text's SHA-256. -/
def shortHash (value : String) : String :=
  String.ofList ((hexdigest (Sha2.digest (utf8 value))).toList.take 16)

/-- `float(value)`: a number, none where it is a `TypeError` or a `ValueError`.  An integer
that is too large for a float raises an `OverflowError`, which nobody catches. -/
def toFloat (text : PyText) : Json → Except PyError (Option PyFloat)
  | .null | .arr _ | .obj _ => .ok none
  | .bool b => .ok (some (.finite (if b then 1 else 0)))
  | .int i =>
      if 2 ^ 1024 - 2 ^ 970 ≤ i.natAbs then .error .overflowError
      else .ok (some (.finite i))
  | .float x => .ok (some x)
  | .str s => .ok (text.float s)

def pyAbs : PyFloat → PyFloat
  | .finite p => .finite |p|
  | .negInf => .inf
  | x => x

/-- The size of an amount by powers of ten, so that the exact amount is not kept. -/
def amountBucket (text : PyText) (value : Json) : Except PyError String :=
  (toFloat text value).map fun
    | none => "unknown"
    | some x =>
        let amount := pyAbs x
        if amount < .finite 100 then "lt_100"
        else if amount < .finite 1000 then "lt_1000"
        else if amount < .finite 10000 then "lt_10000"
        else "gte_10000"

/-- `a or b` of texts. -/
def orText (a : Option String) (b : String) : String :=
  match a with
  | some s => if s = "" then b else s
  | none => b

section Record

variable (text : PyText) (record : ShieldActionRecord)

/-- The bucket of the call's amount, where it has one. -/
def statedBucket : Except PyError (Option String) :=
  match Dict.get? record.payload.toolArgs "amount" with
  | some value => (amountBucket text value).map some
  | none => .ok none

/-- The recipient that a text states: the one asked for, else the one of the call. -/
def effectiveRecipient (recipient : Option String) : Option String :=
  match recipient with
  | some s => if s = "" then none else some s
  | none =>
      match Dict.get? record.payload.toolArgs "recipient" with
      | none | some .null | some (.str "") => none
      | some value => some (text.strOf value)

/-- The text of a record that is stored and searched for: who acts with which tool, with the
recipient as a hash and the amount as its bucket. -/
def traceSafeRecordText (toolName recipient : Option String) : Except PyError String := do
  let bucket ← statedBucket text record
  let tool := orText toolName (orText record.payload.toolName "<unknown>")
  let parts :=
    ["tool:" ++ tool, "phase:" ++ record.phase.value, "org:" ++ record.orgId,
      "agent:" ++ record.agentId, "workflow:" ++ record.workflowId] ++
    ((effectiveRecipient text record recipient).map fun r =>
      "recipient_hash:" ++ shortHash r).toList ++
    (bucket.map ("amount_bucket:" ++ ·)).toList ++
    ((record.payload.toolArgs.map Prod.fst).insertionSort (· ≤ ·)).map ("arg_key:" ++ ·)
  return String.intercalate " " parts

/-- `_metadata`: what the vector store keeps beside the text of an incident, the run and the
recipient as short hashes and the amount as a bucket. -/
def incidentMetadata (decision : Decision) (reasons : List String) :
    Except PyError (Dict String String) := do
  let bucket ← statedBucket text record
  return [("record_id", record.recordId), ("correlation_id", record.correlationId),
      ("org_id", record.orgId), ("agent_id", record.agentId),
      ("workflow_id", record.workflowId), ("run_id_hash", shortHash record.runId),
      ("phase", record.phase.value), ("tool_name", record.payload.toolName.getD ""),
      ("decision", decision.value), ("reasons", String.intercalate "," reasons)] ++
    ((Dict.get? record.payload.toolArgs "recipient").map fun value =>
      ("recipient_hash", shortHash (text.strOf value))).toList ++
    (bucket.map fun b => ("amount_bucket", b)).toList

end Record

/-! ## Results -/

/-- An incident that was found, with its distance, the score that is made of it, and the
metadata it was stored with. -/
structure MemoryHit where
  id : String
  score : Rat
  distance : Rat
  metadata : Dict String String
  deriving DecidableEq

/-- The answer of a memory: its hits and where they come from, or the reason why a fallback
has answered. -/
structure MemoryQueryResult where
  memoryBackend : String
  collection : String
  queryId : String
  hits : List MemoryHit
  latencyMs : PyFloat
  missingReason : Option String
  deriving DecidableEq

def MemoryQueryResult.hitCount (r : MemoryQueryResult) : Nat := r.hits.length

def queryIdOf (document : String) : String := shortHash document

/-- A distance as a score between zero and one. -/
def distanceToScore (distance : Rat) : Rat := max 0 (min 1 (1 / (1 + max 0 distance)))

/-! ## The vector store -/

/-- What the vector store finds: of the stored ids with their documents, those whose
embeddings are nearest to that of a document, with their distances. -/
structure VectorIndex where
  nearest : Dict String String → String → Nat → List (String × Rat)
  stored : ∀ rows document n, ∀ hit ∈ nearest rows document n, hit.1 ∈ rows.map Prod.fst

structure IncidentRow where
  document : String
  metadata : Dict String String
  deriving DecidableEq

/-- The incidents in a vector store, under the ids of their records. -/
structure ChromaIncidentMemory where
  collectionName : String
  rows : Dict String IncidentRow := []
  deriving DecidableEq

namespace ChromaIncidentMemory

variable (text : PyText) (m : ChromaIncidentMemory)

/-- The row of an incident: its text and its metadata. -/
def incidentRow (record : ShieldActionRecord) (decision : Decision) (reasons : List String) :
    Except PyError IncidentRow := do
  let document ← traceSafeRecordText text record none none
  let metadata ← incidentMetadata text record decision reasons
  return { document, metadata }

/-- The row of the record's id is replaced. -/
def rememberRecord (record : ShieldActionRecord) (decision : Decision)
    (reasons : List String) : Except PyError ChromaIncidentMemory :=
  (incidentRow text record decision reasons).map fun row =>
    { m with rows := Dict.set m.rows record.recordId row }

/-- A hit of the index with the metadata that is stored for it. -/
def hitOf (hit : String × Rat) : MemoryHit where
  id := hit.1
  score := distanceToScore hit.2
  distance := max 0 hit.2
  metadata := ((Dict.get? m.rows hit.1).map (·.metadata)).getD []

/-- The nearest incidents to a record, by its text.  The organisation of the record is neither
a filter nor a part of the text. -/
def queryRecord (index : VectorIndex) (latencyMs : PyFloat) (record : ShieldActionRecord)
    (topK : Nat) (toolName recipient : Option String) : Except PyError MemoryQueryResult :=
  (traceSafeRecordText text record toolName recipient).map fun document =>
    { memoryBackend := "chroma"
      collection := m.collectionName
      queryId := queryIdOf document
      hits := (index.nearest (m.rows.map fun (id, row) => (id, row.document)) document
        (max 1 topK)).map m.hitOf
      latencyMs := latencyMs
      missingReason := none }

end ChromaIncidentMemory

/-! ## The window of the process -/

structure IncidentSummary where
  recordId : String
  toolName : Option String
  recipient : Option String
  amount : Option PyFloat
  deriving DecidableEq

/-- The memory of a process: its last incidents, up to its capacity. -/
structure EvaluatorAgentMemory where
  capacity : Nat := 128
  records : List IncidentSummary := []
  deriving DecidableEq

namespace EvaluatorAgentMemory

variable (m : EvaluatorAgentMemory)

/-- A new incident goes to the end, and the oldest goes where the memory is full. -/
def remember (summary : IncidentSummary) : EvaluatorAgentMemory :=
  { m with records := Window.push m.capacity m.records summary }

/-- A filter that is set lets pass what equals it. -/
def passes (filter : Option String) (value : Option String) : Bool :=
  match filter with
  | none | some "" => true
  | some wanted => value == some wanted

/-- The most recent matches, at most `limit` of them but for a first one. -/
def recallMatches (toolName recipient : Option String) (limit : Nat) : List IncidentSummary :=
  (m.records.reverse.filter fun row =>
    passes toolName row.toolName && passes recipient row.recipient).take (max 1 limit)

end EvaluatorAgentMemory

/-- What is kept of an incident: its tool, its recipient and its amount, and none for what the
arguments do not state. -/
def summarize (text : PyText) (record : ShieldActionRecord) :
    Except PyError IncidentSummary :=
  let recipientRaw := Dict.get? record.payload.toolArgs "recipient"
  let amountRaw := (Dict.get? record.payload.toolArgs "amount").getD .null
  (toFloat text amountRaw).map fun amount =>
    { recordId := record.recordId
      toolName := record.payload.toolName
      recipient :=
        match recipientRaw with
        | none | some .null => none
        | some value => some (text.strOf value)
      amount := amount }

def localFallbackResult (collection queryText : String) (found : List IncidentSummary)
    (latencyMs : PyFloat) (missingReason : Option String) : MemoryQueryResult where
  memoryBackend := "local_fallback"
  collection := collection
  queryId := queryIdOf queryText
  hits := found.map fun row => { id := row.recordId, score := 1, distance := 0, metadata := [] }
  latencyMs := latencyMs
  missingReason := missingReason

/-! ## The memory behind the tools -/

/-- The two memories: the vector store, or that of the process where there is none. -/
inductive GuardianMemory where
  | chroma (m : ChromaIncidentMemory)
  | processLocal (m : EvaluatorAgentMemory)
  deriving DecidableEq

/-- An incident as it is recorded after an evaluation: the record, the decision on it and the
labels of its reasons. -/
structure Incident where
  record : ShieldActionRecord
  decision : Decision
  reasons : List String
  deriving DecidableEq

namespace GuardianMemory

variable (text : PyText)

/-- The memory holds no incident. -/
def IsEmpty : GuardianMemory → Prop
  | chroma m => m.rows = []
  | processLocal m => m.records = []

/-- What the Evaluator's checker does at the end of an evaluation. -/
def remember (incident : Incident) : GuardianMemory → Except PyError GuardianMemory
  | chroma m => (m.rememberRecord text incident.record incident.decision
      incident.reasons).map chroma
  | processLocal m => (summarize text incident.record).map fun s => processLocal (m.remember s)

/-- The memory after a history of recorded incidents. -/
def rememberAll (m : GuardianMemory) : List Incident → Except PyError GuardianMemory
  | [] => .ok m
  | incident :: history => (m.remember text incident).bind (rememberAll · history)

/-- The tool name that is asked of the window. -/
def wantedTool (record : ShieldActionRecord) (toolName : Option String) : String :=
  orText toolName (record.payload.toolName.getD "")

/-- The recipient that is asked of the window. -/
def wantedRecipient (record : ShieldActionRecord) (recipient : Option String) : String :=
  orText recipient
    (if record.payload.toolArgs = [] then ""
    else text.strOf ((Dict.get? record.payload.toolArgs "recipient").getD (.str "")))

/-- The incidents that a memory finds for a record.  Without a vector store the recent
incidents of the process are matched by tool and recipient, and the answer says that it is a
fallback. -/
def queryMemory (index : VectorIndex) (latencyMs : PyFloat) (record : ShieldActionRecord)
    (toolName recipient : Option String) : GuardianMemory → Except PyError MemoryQueryResult
  | chroma m => m.queryRecord text index latencyMs record 5 toolName recipient
  | processLocal m =>
      let found := m.recallMatches (some (wantedTool record toolName))
        (some (wantedRecipient text record recipient)) 5
      (traceSafeRecordText text record toolName recipient).map fun queryText =>
        localFallbackResult "process_local_short_window" queryText found latencyMs
          (some "chroma memory not configured; using explicit local fallback")

/-- The tool of the guardians.  What the model leaves out is an empty text. -/
def recallSimilarIncidents (index : VectorIndex) (latencyMs : PyFloat)
    (record : ShieldActionRecord) (toolName recipient : String) (m : GuardianMemory) :
    Except PyError MemoryQueryResult :=
  m.queryMemory text index latencyMs record
    (if toolName = "" then none else some toolName)
    (if recipient = "" then none else some recipient)

end GuardianMemory

/-! ## What a memory holds -/

namespace GuardianMemory

variable {text : PyText} {m m' : GuardianMemory} {history : List Incident}

/-- A memory holds of its history the last incident of every record id, or the incidents of
its window. -/
def Holds (text : PyText) (history : List Incident) : GuardianMemory → Prop
  | chroma m => ∀ id row, Dict.get? m.rows id = some row →
      ∃ before incident after, history = before ++ incident :: after ∧
        incident.record.recordId = id ∧
        ChromaIncidentMemory.incidentRow text incident.record incident.decision
          incident.reasons = .ok row ∧
        ∀ later ∈ after, later.record.recordId ≠ id
  | processLocal m => ∃ rows : List (Incident × IncidentSummary),
      rows.map Prod.fst = history ∧ (∀ p ∈ rows, summarize text p.1.record = .ok p.2) ∧
        m.records = (window m.capacity rows).map Prod.snd

/-- An empty memory holds what no incident has left. -/
theorem holds_nil (h : m.IsEmpty) : m.Holds text [] := by
  cases m with
  | chroma m =>
      have hRows : m.rows = [] := h
      intro id row hRow
      rw [hRows] at hRow
      cases hRow
  | processLocal m =>
      have hRecords : m.records = [] := h
      exact ⟨[], rfl, by simp, by simp [hRecords]⟩

/-- Remembering an incident in the vector store adds it to what the memory holds. -/
theorem holds_chroma {c c' : ChromaIncidentMemory} {incident : Incident}
    (h : (chroma c).Holds text history)
    (hRemember : c.rememberRecord text incident.record incident.decision incident.reasons =
      .ok c') : (chroma c').Holds text (history ++ [incident]) := by
  unfold ChromaIncidentMemory.rememberRecord at hRemember
  cases hRow : ChromaIncidentMemory.incidentRow text incident.record incident.decision
      incident.reasons with
  | error exc =>
      rw [hRow] at hRemember
      cases hRemember
  | ok row =>
      rw [hRow] at hRemember
      obtain rfl := Except.ok.inj hRemember
      intro id row' hGet
      rw [Dict.get?_set] at hGet
      by_cases hId : incident.record.recordId = id
      · rw [if_pos hId] at hGet
        obtain rfl := Option.some.inj hGet
        exact ⟨history, incident, [], rfl, hId, hRow, by simp⟩
      · rw [if_neg hId] at hGet
        obtain ⟨before, earlier, after, hSplit, hEarlier, hRow', hAfter⟩ := h id row' hGet
        refine ⟨before, earlier, after ++ [incident], by simp [hSplit], hEarlier, hRow', ?_⟩
        intro later hLater
        rcases List.mem_append.1 hLater with hLater | hLater
        · exact hAfter later hLater
        · rw [List.mem_singleton.1 hLater]
          exact hId

/-- Remembering an incident in the process adds it, and may drop the oldest. -/
theorem holds_processLocal {w : EvaluatorAgentMemory} {incident : Incident}
    {s : IncidentSummary} (h : (processLocal w).Holds text history)
    (hSummary : summarize text incident.record = .ok s) :
    (processLocal (w.remember s)).Holds text (history ++ [incident]) := by
  obtain ⟨rows, hHistory, hRows, hRecords⟩ := h
  refine ⟨rows ++ [(incident, s)], by simp [hHistory], ?_, ?_⟩
  · intro p hp
    rcases List.mem_append.1 hp with hp | hp
    · exact hRows p hp
    · rw [List.mem_singleton.1 hp]
      exact hSummary
  · show Window.push w.capacity w.records s = _
    have hPush := Window.push_map Prod.snd w.capacity (window w.capacity rows) (incident, s)
    rw [hRecords, hPush, Window.push_window]
    rfl

/-- **One more incident**, in either memory: the vector store keeps it under its id, and the
window drops its oldest one when it is full. -/
theorem holds_remember {incident : Incident} (h : m.Holds text history)
    (hRemember : m.remember text incident = .ok m') :
    m'.Holds text (history ++ [incident]) := by
  cases m with
  | chroma c =>
      have hMap : (c.rememberRecord text incident.record incident.decision
          incident.reasons).map chroma = .ok m' := hRemember
      cases hStored : c.rememberRecord text incident.record incident.decision
          incident.reasons with
      | error exc =>
          rw [hStored] at hMap
          cases hMap
      | ok c' =>
          rw [hStored] at hMap
          obtain rfl := Except.ok.inj hMap
          exact holds_chroma h hStored
  | processLocal w =>
      have hMap : (summarize text incident.record).map (fun s => processLocal (w.remember s)) =
          .ok m' := hRemember
      cases hSummary : summarize text incident.record with
      | error exc =>
          rw [hSummary] at hMap
          cases hMap
      | ok s =>
          rw [hSummary] at hMap
          obtain rfl := Except.ok.inj hMap
          exact holds_processLocal h hSummary

/-- **A whole history.** -/
theorem holds_rememberAll {later : List Incident} (h : m.Holds text history)
    (hAll : m.rememberAll text later = .ok m') : m'.Holds text (history ++ later) := by
  induction later generalizing m history with
  | nil =>
      obtain rfl := Except.ok.inj hAll
      rw [List.append_nil]
      exact h
  | cons incident later ih =>
      unfold rememberAll at hAll
      cases hFirst : m.remember text incident with
      | error exc =>
          rw [hFirst] at hAll
          cases hAll
      | ok next =>
          rw [hFirst] at hAll
          have hNext := ih (holds_remember h hFirst) hAll
          rwa [List.append_assoc] at hNext

/-- How a memory found an incident that `after` were recorded after: by its record id, as
the last of that id, or in the window, by the tool and the recipient that were asked for. -/
def Found (text : PyText) (record : ShieldActionRecord) (toolName recipient : Option String)
    (incident : Incident) (after : List Incident) (hit : MemoryHit) : GuardianMemory → Prop
  | chroma _ => Dict.get? hit.metadata "org_id" = some incident.record.orgId ∧
      ∀ later ∈ after, later.record.recordId ≠ hit.id
  | processLocal w => after.length < w.capacity ∧
      ∃ s, summarize text incident.record = .ok s ∧
        EvaluatorAgentMemory.passes (some (wantedTool record toolName)) s.toolName = true ∧
        EvaluatorAgentMemory.passes (some (wantedRecipient text record recipient))
          s.recipient = true

/-- The metadata of an incident name the organisation of its record. -/
theorem orgId_incidentMetadata {record : ShieldActionRecord} {decision : Decision}
    {reasons : List String} {metadata : Dict String String}
    (h : incidentMetadata text record decision reasons = .ok metadata) :
    Dict.get? metadata "org_id" = some record.orgId := by
  unfold incidentMetadata at h
  cases hBucket : statedBucket text record with
  | error exc =>
      rw [hBucket] at h
      cases h
  | ok bucket =>
      rw [hBucket] at h
      obtain rfl := Except.ok.inj h
      rfl

theorem orgId_incidentRow {record : ShieldActionRecord} {decision : Decision}
    {reasons : List String} {row : IncidentRow}
    (h : ChromaIncidentMemory.incidentRow text record decision reasons = .ok row) :
    Dict.get? row.metadata "org_id" = some record.orgId := by
  unfold ChromaIncidentMemory.incidentRow at h
  cases hDocument : traceSafeRecordText text record none none with
  | error exc =>
      rw [hDocument] at h
      cases h
  | ok document =>
      cases hMetadata : incidentMetadata text record decision reasons with
      | error exc =>
          rw [hDocument, hMetadata] at h
          cases h
      | ok metadata =>
          rw [hDocument, hMetadata] at h
          obtain rfl := Except.ok.inj h
          exact orgId_incidentMetadata hMetadata

/-! ## What a recall finds -/

variable {index : VectorIndex} {latencyMs : PyFloat} {record : ShieldActionRecord}
  {toolName recipient : Option String} {result : MemoryQueryResult} {hit : MemoryHit}

/-- A hit of the vector store is the last incident of its record id. -/
theorem found_chroma {c : ChromaIncidentMemory} (h : (chroma c).Holds text history)
    (hQuery : c.queryRecord text index latencyMs record 5 toolName recipient = .ok result)
    (hHit : hit ∈ result.hits) :
    ∃ before incident after, history = before ++ incident :: after ∧
      incident.record.recordId = hit.id ∧
      (chroma c).Found text record toolName recipient incident after hit := by
  unfold ChromaIncidentMemory.queryRecord at hQuery
  cases hDocument : traceSafeRecordText text record toolName recipient with
  | error exc =>
      rw [hDocument] at hQuery
      cases hQuery
  | ok document =>
      rw [hDocument] at hQuery
      obtain rfl := Except.ok.inj hQuery
      obtain ⟨near, hNear, rfl⟩ := List.mem_map.1 hHit
      have hKey := index.stored _ _ _ near hNear
      have hStored : near.1 ∈ c.rows.map Prod.fst := by simpa using hKey
      obtain ⟨row, hRow⟩ := Dict.exists_get?_of_mem_keys hStored
      obtain ⟨before, incident, after, hSplit, hId, hIncident, hAfter⟩ := h near.1 row hRow
      refine ⟨before, incident, after, hSplit, hId, ?_, hAfter⟩
      show Dict.get? (((Dict.get? c.rows near.1).map (·.metadata)).getD []) "org_id" = _
      rw [hRow]
      exact orgId_incidentRow hIncident

/-- A hit of the window is one of its incidents that matches, and the window holds the last
ones of the history. -/
theorem found_processLocal {w : EvaluatorAgentMemory}
    (h : (processLocal w).Holds text history)
    (hQuery : (processLocal w).queryMemory text index latencyMs record toolName recipient =
      .ok result)
    (hHit : hit ∈ result.hits) :
    ∃ before incident after, history = before ++ incident :: after ∧
      incident.record.recordId = hit.id ∧
      (processLocal w).Found text record toolName recipient incident after hit := by
  unfold queryMemory at hQuery
  cases hDocument : traceSafeRecordText text record toolName recipient with
  | error exc =>
      simp only [hDocument] at hQuery
      cases hQuery
  | ok document =>
      simp only [hDocument] at hQuery
      obtain rfl := Except.ok.inj hQuery
      obtain ⟨s, hFound, rfl⟩ := List.mem_map.1 hHit
      have hFiltered := List.mem_of_mem_take hFound
      obtain ⟨hMem, hMatch⟩ := List.mem_filter.1 hFiltered
      obtain ⟨rows, hHistory, hRows, hRecords⟩ := h
      rw [List.mem_reverse, hRecords] at hMem
      obtain ⟨p, hp, rfl⟩ := List.mem_map.1 hMem
      obtain ⟨before, after, hSplit, hRecent⟩ := Window.split_of_mem hp
      have hSummary := hRows p (by rw [hSplit]; simp)
      rw [Bool.and_eq_true] at hMatch
      refine ⟨before.map Prod.fst, p.1, after.map Prod.fst, ?_, ?_, ?_, p.2, hSummary,
        hMatch.1, hMatch.2⟩
      · rw [← hHistory, hSplit, List.map_append, List.map_cons]
      · unfold summarize at hSummary
        cases hFloat : toFloat text
            ((Dict.get? p.1.record.payload.toolArgs "amount").getD .null) with
        | error exc =>
            simp only [hFloat] at hSummary
            cases hSummary
        | ok amount =>
            simp only [hFloat] at hSummary
            rw [← Except.ok.inj hSummary]
      · rw [List.length_map]
        exact hRecent

end GuardianMemory

/-- **A recall finds what was recorded**, for whichever organisation.  Every hit is an
incident of the history that the memory still keeps; that it is of the same organisation is
only so where all the incidents are. -/
theorem recall_finds_recorded (text : PyText) (index : VectorIndex) (latencyMs : PyFloat)
    {m₀ m : GuardianMemory} (hEmpty : m₀.IsEmpty) {history : List Incident}
    (hHistory : m₀.rememberAll text history = .ok m) (record : ShieldActionRecord)
    (toolName recipient : String) {result : MemoryQueryResult}
    (hRecall : m.recallSimilarIncidents text index latencyMs record toolName recipient =
      .ok result) :
    ∀ hit ∈ result.hits, ∃ before incident after, history = before ++ incident :: after ∧
      incident.record.recordId = hit.id ∧
      m.Found text record (if toolName = "" then none else some toolName)
        (if recipient = "" then none else some recipient) incident after hit ∧
      ((∀ other ∈ history, other.record.orgId = record.orgId) →
        incident.record.orgId = record.orgId) := by
  have hHolds : m.Holds text history :=
    GuardianMemory.holds_rememberAll (GuardianMemory.holds_nil hEmpty) hHistory
  intro hit hHit
  have hFound : ∃ before incident after, history = before ++ incident :: after ∧
      incident.record.recordId = hit.id ∧
      m.Found text record (if toolName = "" then none else some toolName)
        (if recipient = "" then none else some recipient) incident after hit := by
    cases m with
    | chroma c => exact GuardianMemory.found_chroma hHolds hRecall hHit
    | processLocal w => exact GuardianMemory.found_processLocal hHolds hRecall hHit
  obtain ⟨before, incident, after, hSplit, hId, hHow⟩ := hFound
  refine ⟨before, incident, after, hSplit, hId, hHow, fun hOrg => ?_⟩
  exact hOrg incident (by rw [hSplit]; simp)

namespace Sample

/-- A transfer of an organisation to the same recipient, so that only the organisation tells
two of them apart. -/
def orgTransfer (recordId orgId : String) : ShieldActionRecord where
  recordId := recordId
  correlationId := recordId
  orgId := orgId
  runId := "run-" ++ recordId
  issuedAt := 0
  nonce := recordId
  phase := .postExec
  payload :=
    { toolName := some "send_money"
      toolArgs := [("recipient", .str "attacker-iban"), ("amount", .float (.finite 10000))] }

/-- One incident of the organisation `org-a`. -/
def incidents : List Incident :=
  [{ record := orgTransfer "rec-a" "org-a", decision := .block,
     reasons := ["evaluator.hallucination"] }]

/-- An index that finds the first stored ids. -/
def firstStored : VectorIndex where
  nearest rows _ n := (rows.take n).map fun p => (p.1, 0)
  stored rows _ n hit hHit := by
    obtain ⟨p, hp, rfl⟩ := List.mem_map.1 hHit
    exact List.mem_map_of_mem (List.mem_of_mem_take hp)

/-- The ids that a recall of `org-b` finds. -/
def foundBy (m₀ : GuardianMemory) : Except PyError (List String) := do
  let m ← m₀.rememberAll text incidents
  let result ← m.recallSimilarIncidents text firstStored 0 (orgTransfer "rec-b" "org-b") "" ""
  return result.hits.map (·.id)

end Sample

/-- Both memories show an organisation the incident of another. -/
theorem recall_crosses_tenants :
    (∀ m₀ ∈ [GuardianMemory.chroma { collectionName := "incidents" }, .processLocal {}],
      Sample.foundBy m₀ = .ok ["rec-a"]) ∧
    ∀ incident ∈ Sample.incidents, incident.record.orgId ≠
      (Sample.orgTransfer "rec-b" "org-b").orgId := by
  decide +kernel

/-- A recall of `org-b` in the window that holds the incident of `org-a`. -/
theorem recall_finds_recorded_sample :
    ∃ m result, GuardianMemory.rememberAll Sample.text (.processLocal {}) Sample.incidents =
        .ok m ∧
      m.recallSimilarIncidents Sample.text Sample.firstStored 0
        (Sample.orgTransfer "rec-b" "org-b") "" "" = .ok result ∧
      result.hits.map (·.id) = ["rec-a"] ∧ ∀ hit ∈ result.hits, ∃ before incident after,
        Sample.incidents = before ++ incident :: after ∧ incident.record.recordId = hit.id := by
  have hEmpty : (GuardianMemory.processLocal {}).IsEmpty := rfl
  have hIds : Sample.foundBy (.processLocal {}) = .ok ["rec-a"] := by decide +kernel
  unfold Sample.foundBy at hIds
  cases hHistory : GuardianMemory.rememberAll Sample.text (.processLocal {})
      Sample.incidents with
  | error exc =>
      rw [hHistory] at hIds
      cases hIds
  | ok m =>
      rw [hHistory] at hIds
      cases hRecall : m.recallSimilarIncidents Sample.text Sample.firstStored 0
          (Sample.orgTransfer "rec-b" "org-b") "" "" with
      | error exc =>
          simp only [bind, Except.bind, hRecall] at hIds
          cases hIds
      | ok result =>
          simp only [bind, Except.bind, hRecall] at hIds
          refine ⟨m, result, rfl, hRecall, Except.ok.inj hIds, fun hit hHit => ?_⟩
          obtain ⟨before, incident, after, hSplit, hId, -⟩ :=
            recall_finds_recorded Sample.text Sample.firstStored 0 hEmpty hHistory
              (Sample.orgTransfer "rec-b" "org-b") "" "" hRecall hit hHit
          exact ⟨before, incident, after, hSplit, hId⟩

end AgentShield.Governance
