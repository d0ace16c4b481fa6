import AgentShield.Governance.Supervisor

/-!
# The governance graph

`decide` runs the Defender and then the supervisor on a record.  With a
checkpointer the graph pauses on an `ESCALATE` verdict: the thread of the record's
`run_id` waits, and `resume` folds a human decision into the verdict that waits.

Of the checkpointer a thread keeps what the code relies on: whether it waits, and
for which record and verdict.  A new record on a thread drops what waited there.
A run that raised leaves its thread failed, and such a thread is not resumed here.
-/

namespace AgentShield.Governance

open AgentShield.Lib AgentShield.Sdk

/-- The last state of a thread: it waits for a human, or it has finished, or it has failed. -/
inductive Thread where
  | waiting (record : ShieldActionRecord) (verdict : GovernanceVerdict)
  | finished (verdict : GovernanceVerdict)
  | failed

/-- The thread after a run over a record. -/
def Thread.after (record : ShieldActionRecord) :
    Except PyError GovernanceVerdict → Thread
  | .error _ => .failed
  | .ok v => if v.decision = .escalate then .waiting record v else .finished v

/-- The governance app: its guardians, and its threads where it has a checkpointer.  Without
one nothing is remembered between a decision and its resumption. -/
structure GovApp where
  defender : DefenderEngine
  supervisor : Supervisor
  hasCheckpointer : Bool
  threads : Dict String Thread := []

/-- A decision as `resume` takes it. -/
inductive HumanDecision where
  | decision (d : Decision)
  | text (s : String)
  deriving DecidableEq

/-- The decisions, in the order of the enumeration. -/
def Decision.all : List Decision := [.pass, .alert, .block, .escalate, .rollback, .rewrite]

/-- `Decision(value)`. -/
def Decision.ofValue? (value : String) : Option Decision :=
  Decision.all.find? fun d => d.value = value

/-- `_coerce_decision` of a text. -/
def coerceText (value : String) (default : Decision) : Decision :=
  (Decision.ofValue? value).getD default

mutual

/-- `_coerce_decision` of a parsed value: a dict stands for its `decision`. -/
def coerceDecision (default : Decision) : Json → Decision
  | .str value => coerceText value default
  | .obj fields => coerceEntry default fields
  | _ => default

/-- The decision under the name `decision`, wherever it stands in the answer of a human. -/
def coerceEntry (default : Decision) : List (String × Json) → Decision
  | [] => coerceText "" default
  | (key, value) :: fields =>
      if key = "decision" then coerceDecision default value else coerceEntry default fields

end

/-- What a human's answer makes of an escalated action. -/
def resumeDecisionToVerdict : HumanDecision → Decision
  | .decision d => d
  | .text value =>
      if value = "accept" ∨ value = "response" then .pass
      else if value = "ignore" then .block
      else if value = "edit" then .rewrite
      else coerceText value .escalate

namespace GovApp

variable (text : PyText)

/-- The two nodes of the graph: the Defender's verdict, ruled by the supervisor. -/
def judge (app : GovApp) (stamp : Stamp) (verdictId : String) (record : ShieldActionRecord) :
    Except PyError GovernanceVerdict × DefenderEngine :=
  match app.defender.assess text stamp record with
  | (.error exc, defender) => (.error exc, defender)
  | (.ok v, defender) =>
      (app.supervisor.decide verdictId (signalsFromDefender v record.phase) record, defender)

/-- A thread's state is kept only with a checkpointer. -/
def setThread (app : GovApp) (threadId : String) (t : Thread) : GovApp :=
  if app.hasCheckpointer then { app with threads := Dict.set app.threads threadId t } else app

/-- `decide`: the record is judged, and an escalation pauses its thread. -/
def decide (app : GovApp) (stamp : Stamp) (verdictId : String) (record : ShieldActionRecord) :
    Except PyError GovernanceVerdict × GovApp :=
  let (answer, defender) := app.judge text stamp verdictId record
  (answer, { app with defender := defender }.setThread record.runId (.after record answer))

/-- `resume`: the paused thread goes on with the human's answer. Without a checkpointer it is
an error. -/
def resume (app : GovApp) (incidentId : String) (decision : HumanDecision) (payload : Json) :
    Except PyError GovernanceVerdict × GovApp :=
  if app.hasCheckpointer = false then
    (.error (.runtimeError ("resume() requires a checkpointer-backed app " ++
      "(build_decide_app(checkpointer=InMemorySaver()|PostgresSaver()))")), app)
  else
    match Dict.get? app.threads incidentId with
    | some (.waiting _ verdict) =>
        let human : Json := .obj
          [("decision", .str (resumeDecisionToVerdict decision).value), ("payload", payload)]
        let v := { verdict with decision := coerceDecision verdict.decision human }
        (.ok v, app.setThread incidentId (.finished v))
    | some (.finished verdict) => (.ok verdict, app)
    | some .failed | none => (.error (.thirdParty "langgraph"), app)

end GovApp

/-- `build_decide_app`: an app without threads. -/
def buildDecideApp (defender : DefenderEngine) (supervisor : Supervisor)
    (checkpointer : Bool) : GovApp where
  defender := defender
  supervisor := supervisor
  hasCheckpointer := checkpointer

/-! ## What a request does -/

@[simp] theorem coerceText_value (d default : Decision) : coerceText d.value default = d := by
  cases d <;> rfl

/-- The decision in a human's answer is read as it is. -/
theorem coerceDecision_human (d default : Decision) (payload : Json) :
    coerceDecision default (.obj [("decision", .str d.value), ("payload", payload)]) = d := by
  simp [coerceDecision, coerceEntry]

namespace GovApp

variable {text : PyText} {app : GovApp}

@[simp] theorem defender_setThread (app : GovApp) (threadId : String) (t : Thread) :
    (app.setThread threadId t).defender = app.defender := by
  unfold setThread
  split <;> rfl

@[simp] theorem supervisor_setThread (app : GovApp) (threadId : String) (t : Thread) :
    (app.setThread threadId t).supervisor = app.supervisor := by
  unfold setThread
  split <;> rfl

@[simp] theorem hasCheckpointer_setThread (app : GovApp) (threadId : String) (t : Thread) :
    (app.setThread threadId t).hasCheckpointer = app.hasCheckpointer := by
  unfold setThread
  split <;> rfl

/-- Judging a record changes the Defender as its own assessment does. -/
theorem judge_defender (text : PyText) (app : GovApp) (stamp : Stamp) (verdictId : String)
    (record : ShieldActionRecord) :
    (app.judge text stamp verdictId record).2 = (app.defender.assess text stamp record).2 := by
  unfold judge
  generalize app.defender.assess text stamp record = assessed
  obtain ⟨answer, defender⟩ := assessed
  cases answer <;> rfl

/-- The answer is the Supervisor's on the Defender's verdict, unless the Defender fails. -/
theorem judge_answer (text : PyText) (app : GovApp) (stamp : Stamp) (verdictId : String)
    (record : ShieldActionRecord) :
    (app.judge text stamp verdictId record).1 =
      (app.defender.assess text stamp record).1.bind fun v =>
        app.supervisor.decide verdictId (signalsFromDefender v record.phase) record := by
  unfold judge
  generalize app.defender.assess text stamp record = assessed
  obtain ⟨answer, defender⟩ := assessed
  cases answer <;> rfl

theorem decide_answer (text : PyText) (app : GovApp) (stamp : Stamp) (verdictId : String)
    (record : ShieldActionRecord) :
    (app.decide text stamp verdictId record).1 = (app.judge text stamp verdictId record).1 := rfl

/-- A decision changes the Defender as the assessment of the record does. -/
theorem decide_defender (text : PyText) (app : GovApp) (stamp : Stamp) (verdictId : String)
    (record : ShieldActionRecord) :
    (app.decide text stamp verdictId record).2.defender =
      (app.defender.assess text stamp record).2 := by
  rw [← judge_defender text app stamp verdictId record]
  simp [decide]

/-- A resumption leaves the Defender alone, with what it has counted. -/
theorem resume_defender (app : GovApp) (incidentId : String) (decision : HumanDecision)
    (payload : Json) : (app.resume incidentId decision payload).2.defender = app.defender := by
  unfold resume
  split
  · rfl
  · split <;> simp

/-- A decision sets the thread of its run. -/
theorem decide_threads (hCheckpointer : app.hasCheckpointer = true) (stamp : Stamp)
    (verdictId : String) (record : ShieldActionRecord) :
    (app.decide text stamp verdictId record).2.threads =
      Dict.set app.threads record.runId
        (.after record (app.decide text stamp verdictId record).1) := by
  unfold decide setThread
  simp [hCheckpointer]

theorem decide_hasCheckpointer (text : PyText) (app : GovApp) (stamp : Stamp)
    (verdictId : String) (record : ShieldActionRecord) :
    (app.decide text stamp verdictId record).2.hasCheckpointer = app.hasCheckpointer := by
  simp [decide]

theorem resume_hasCheckpointer (app : GovApp) (incidentId : String) (decision : HumanDecision)
    (payload : Json) :
    (app.resume incidentId decision payload).2.hasCheckpointer = app.hasCheckpointer := by
  unfold resume
  split
  · rfl
  · split <;> simp

/-- A resume changes its own thread only. -/
theorem resume_otherThread {incidentId threadId : String} (hNe : incidentId ≠ threadId)
    (app : GovApp) (decision : HumanDecision) (payload : Json) :
    Dict.get? (app.resume incidentId decision payload).2.threads threadId =
      Dict.get? app.threads threadId := by
  unfold resume
  split
  · rfl
  · split
    · unfold setThread
      split
      · exact Dict.get?_set_ne _ _ hNe
      · rfl
    · rfl
    · rfl
    · rfl

/-- A resume of a waiting thread answers with its verdict under the human's decision. -/
theorem resume_waiting (hCheckpointer : app.hasCheckpointer = true) {incidentId : String}
    {record : ShieldActionRecord} {v : GovernanceVerdict}
    (hThread : Dict.get? app.threads incidentId = some (.waiting record v))
    (decision : HumanDecision) (payload : Json) :
    (app.resume incidentId decision payload).1 =
      .ok { v with decision := resumeDecisionToVerdict decision } := by
  unfold resume
  simp only [hCheckpointer, hThread, coerceDecision_human]
  rfl

/-- The verdict of a decision is about its record. -/
theorem decide_identity {stamp : Stamp} {verdictId : String} {record : ShieldActionRecord}
    {v : GovernanceVerdict} (h : (app.decide text stamp verdictId record).1 = .ok v) :
    v.recordId = some record.recordId ∧ v.correlationId = record.correlationId := by
  rw [decide_answer, judge_answer] at h
  cases hAssessed : (app.defender.assess text stamp record).1 with
  | error exc =>
      rw [hAssessed] at h
      cases h
  | ok assessed =>
      rw [hAssessed] at h
      obtain ⟨risk, ruling, -, -, rfl⟩ := decide_ok_iff.1 h
      exact ⟨rfl, rfl⟩

end GovApp

end AgentShield.Governance
