import AgentShield.Governance.TrackerExactness
import AgentShield.Server.Platform

/-!
# Resuming an incident

The server with its governance app.  A decision pauses the thread of its run; a resume
looks up the run of the incident, and the app folds the human's decision into the
verdict that waits in this thread.  The thread keeps the latest invocation only, so the
verdict is that of the incident when the app has not been invoked on the run since the
incident was issued (`resume_addresses_incident`).

`calls` is an observation of the invocations of the app.  No handler reads it.
-/

namespace AgentShield.Server

open AgentShield.Lib AgentShield.Lib.Async AgentShield.Sdk AgentShield.Governance

/-- One invocation of the governance app, and its answer. -/
inductive AppCall where
  | decided (record : ShieldActionRecord) (answer : Except PyError GovernanceVerdict)
  | resumed (incidentId orgId threadId decision : String)
      (answer : Except PyError GovernanceVerdict)

def AppCall.thread : AppCall → String
  | decided record _ => record.runId
  | resumed _ _ threadId _ _ => threadId

/-- The latest invocation on a thread. -/
def lastCall (threadId : String) (calls : List AppCall) : Option AppCall :=
  (calls.filter fun c => c.thread = threadId).getLast?

theorem lastCall_append_same {threadId : String} {c : AppCall} (h : c.thread = threadId)
    (calls : List AppCall) : lastCall threadId (calls ++ [c]) = some c := by
  unfold lastCall
  simp [h]

theorem lastCall_append_other {threadId : String} {c : AppCall} (h : c.thread ≠ threadId)
    (calls : List AppCall) : lastCall threadId (calls ++ [c]) = lastCall threadId calls := by
  unfold lastCall
  simp [h]

structure GovernedServer where
  world : World
  app : GovApp
  calls : List AppCall := []

abbrev GovernedHandler := Async GovernedServer Failure

/-- A part of a handler that does not touch the governance app. -/
def onServer {α : Type} (prog : Handler α) : GovernedHandler α :=
  within GovernedServer.world (fun s w => { s with world := w }) prog

section Handlers

variable (settings : Settings) (text : PyText)

/-- Asks the governance app for a decision. -/
def askDecide (stamp : Stamp) (verdictId : String) (rec : ShieldActionRecord) :
    GovernedHandler GovernanceVerdict :=
  call fun s =>
    let (answer, app) := s.app.decide text stamp verdictId rec
    ({ s with app := app, calls := s.calls ++ [.decided rec answer] },
      answer.mapError fun _ => .governance)

/-- Resumes a thread of the governance app for an incident, and notes the call with its
answer, errors included. -/
def askResume (incidentId orgId threadId decision : String)
    (payload : Option (List (String × Json))) : GovernedHandler GovernanceVerdict :=
  call fun s =>
    let (answer, app) := s.app.resume threadId (.text decision) (Json.ofOption .obj payload)
    ({ s with
        app := app
        calls := s.calls ++ [.resumed incidentId orgId threadId decision answer] },
      answer.mapError fun _ => .governance)

def GovernedServer.decide (rec : ShieldActionRecord) (stamp : Stamp) (verdictId : String)
    (latencyMs : PyFloat) : GovernedHandler GovernanceVerdict := do
  let admitted ← onServer (admitDecision settings.prim rec)
  let decided ← askDecide text stamp verdictId rec
  onServer (serveDecision settings.prim settings.serverSigningKey rec latencyMs admitted decided)

def GovernedServer.resume (incidentId decision : String)
    (payload : Option (List (String × Json))) (orgId : String) (latencyMs : PyFloat) :
    GovernedHandler GovernanceVerdict := do
  let threadId ← onServer (lookUpThread incidentId decision orgId)
  let decided ← askResume incidentId orgId threadId decision payload
  onServer (serveResume settings.prim settings.serverSigningKey incidentId decision latencyMs
    decided)

/-- The request asks the governance app. -/
def PlatformRequest.asksGovernance : PlatformRequest → Bool
  | .ingest (.decide ..) => true
  | .resume .. => true
  | _ => false

/-- A request to the server.  What the app draws is part of it, and requests that ask no
governance are taken together. -/
inductive GovernedRequest where
  | decide (rec : ShieldActionRecord) (stamp : Stamp) (verdictId : String) (latencyMs : PyFloat)
  | resume (incidentId decision : String) (payload : Option (List (String × Json)))
      (orgId : String) (latencyMs : PyFloat)
  | other (req : PlatformRequest) (hOther : req.asksGovernance = false)

def governed : GovernedRequest → GovernedHandler PlatformResponse
  | .decide rec stamp verdictId latencyMs => do
      let v ← GovernedServer.decide settings text rec stamp verdictId latencyMs
      return .ingested (.verdict v)
  | .resume incidentId decision payload orgId latencyMs => do
      let v ← GovernedServer.resume settings incidentId decision payload orgId latencyMs
      return .verdict v
  | .other req _ => onServer (platform settings req)

/-- The server and its governance app as a pool of handlers. -/
def governedService : Service GovernedServer Failure where
  Req := GovernedRequest
  Res := PlatformResponse
  handle := governed settings text
  Ext := Nat
  external ns s := { s with world := s.world.tick ns }
  fault := .backend

end Handlers

/-- The server before its first request. -/
def GovernedServer.initial (now : Int) (agents : List Agent) (agentKeys : List AgentKey)
    (defender : DefenderEngine) (supervisor : Supervisor) : GovernedServer where
  world := .initial now agents agentKeys
  app := buildDecideApp defender supervisor true

/-! ## What one step can do -/

/-- What one step of a handler, or the time, does to the server and its app. -/
inductive GovernedStep (settings : Settings) (text : PyText) :
    GovernedServer → GovernedServer → Prop
  | server (s : GovernedServer) {w : World} (h : PlatformStep settings s.world w) :
      GovernedStep settings text s { s with world := w }
  | decided (s : GovernedServer) (stamp : Stamp) (verdictId : String) (rec : ShieldActionRecord) :
      GovernedStep settings text s
        { s with
          app := (s.app.decide text stamp verdictId rec).2
          calls := s.calls ++ [.decided rec (s.app.decide text stamp verdictId rec).1] }
  | resumed (s : GovernedServer) (incidentId orgId threadId decision : String) (payload : Json) :
      GovernedStep settings text s
        { s with
          app := (s.app.resume threadId (.text decision) payload).2
          calls := s.calls ++ [.resumed incidentId orgId threadId decision
            (s.app.resume threadId (.text decision) payload).1] }

section Steps

variable {settings : Settings} {text : PyText}

theorem governedStep_rest (s : GovernedServer) : GovernedStep settings text s s :=
  .server s (platformStep_rest s.world)

theorem onServer_steps {α : Type} {prog : Handler α} {Q : α → Prop}
    (h : Steps (fun _ => True) (PlatformStep settings) Q prog) :
    Steps (fun _ => True) (GovernedStep settings text) Q (onServer prog) := by
  refine (Steps.onPart h).guarantee ?_
  rintro s s' ⟨w, hStep, rfl⟩
  exact .server s hStep

theorem requested_platformSteps {α : Type} {req : PlatformRequest} {prog : Handler α}
    {Q : α → Prop} (h : Steps (fun _ => True) (RequestStep settings req) Q prog) :
    Steps (fun _ => True) (PlatformStep settings) Q prog :=
  h.guarantee fun _ _ hStep => .handler hStep.handlerStep

theorem askDecide_bind_steps {α : Type} {Q : α → Prop} {stamp : Stamp} {verdictId : String}
    {rec : ShieldActionRecord} {next : GovernanceVerdict → GovernedHandler α}
    (h : ∀ v, Steps (fun _ => True) (GovernedStep settings text) Q (next v)) :
    Steps (fun _ => True) (GovernedStep settings text) Q
      (askDecide text stamp verdictId rec >>= next) :=
  Steps.call_bind (fun s _ => .decided s stamp verdictId rec) h

theorem askResume_bind_steps {α : Type} {Q : α → Prop}
    {incidentId orgId threadId decision : String} {payload : Option (List (String × Json))}
    {next : GovernanceVerdict → GovernedHandler α}
    (h : ∀ v, Steps (fun _ => True) (GovernedStep settings text) Q (next v)) :
    Steps (fun _ => True) (GovernedStep settings text) Q
      (askResume incidentId orgId threadId decision payload >>= next) :=
  Steps.call_bind (fun s _ => .resumed s incidentId orgId threadId decision _) h

/-- **Every handler takes the steps above**, with the calls of the app among them, in any
order that the interleaving gives. -/
theorem governed_steps (req : GovernedRequest) :
    Steps (fun _ => True) (GovernedStep settings text) (fun _ => True)
      (governed settings text req) := by
  cases req with
  | decide rec stamp verdictId latencyMs =>
      refine Steps.bind (Q := fun _ => True) ?_ fun _ _ => Steps.pure trivial
      unfold GovernedServer.decide
      -- the answer of the app is not known here, so the request is any that has it
      refine Steps.bind (onServer_steps (requested_platformSteps
        (admitDecision_steps rec (fun _ => .error .governance) latencyMs)))
        fun admitted hPhase => ?_
      refine askDecide_bind_steps fun decided => ?_
      have hApp : ∃ govApp : GovernanceApp, govApp rec = .ok decided := ⟨fun _ => .ok decided, rfl⟩
      obtain ⟨govApp, hAnswer⟩ := hApp
      exact onServer_steps (requested_platformSteps
        (serveDecision_steps latencyMs admitted hPhase hAnswer))
  | resume incidentId decision payload orgId latencyMs =>
      refine Steps.bind (Q := fun _ => True) ?_ fun _ _ => Steps.pure trivial
      unfold GovernedServer.resume
      refine Steps.bind (onServer_steps (lookUpThread_steps platformStep_rest _ _ _))
        fun threadId _ => ?_
      refine askResume_bind_steps fun decided => ?_
      exact onServer_steps (requested_platformSteps
        (serveResume_steps (fun _ _ _ => .ok decided) incidentId decision payload orgId latencyMs
          decided))
  | other req _ => exact onServer_steps (requested_platformSteps (platform_requestSteps req))

end Steps

/-! ## What the threads hold -/

section Threads

variable {settings : Settings} {text : PyText} {s s' : GovernedServer}

/-- The thread of a run waits on the latest decision that escalated, and every decision is
about the record it was asked for. -/
structure Paused (s : GovernedServer) : Prop where
  checkpointer : s.app.hasCheckpointer = true
  waits : ∀ rec v, lastCall rec.runId s.calls = some (.decided rec (.ok v)) →
    v.decision = .escalate → Dict.get? s.app.threads rec.runId = some (.waiting rec v)
  identity : ∀ rec v, .decided rec (.ok v) ∈ s.calls →
    v.recordId = some rec.recordId ∧ v.correlationId = rec.correlationId

theorem paused_step (h : Paused s) (hStep : GovernedStep settings text s s') : Paused s' := by
  cases hStep with
  | server => exact ⟨h.checkpointer, h.waits, h.identity⟩
  | decided stamp verdictId rec₀ =>
      refine ⟨(GovApp.decide_hasCheckpointer _ _ _ _ _).trans h.checkpointer, ?_, ?_⟩
      · intro rec v hLast hEscalate
        simp only [GovApp.decide_threads h.checkpointer]
        have hThread : (AppCall.decided rec₀ (s.app.decide text stamp verdictId rec₀).1).thread =
            rec₀.runId := rfl
        by_cases hRun : rec₀.runId = rec.runId
        · rw [lastCall_append_same (hThread.trans hRun)] at hLast
          obtain ⟨hRec, hAnswer⟩ := AppCall.decided.inj (Option.some.inj hLast)
          rw [hAnswer, hRec, Dict.get?_set_self]
          exact congrArg some (if_pos hEscalate)
        · rw [lastCall_append_other fun hSame => hRun (hThread.symm.trans hSame)] at hLast
          rw [Dict.get?_set_ne _ _ hRun]
          exact h.waits rec v hLast hEscalate
      · intro rec v hMem
        rcases List.mem_append.1 hMem with hOld | hNew
        · exact h.identity rec v hOld
        · obtain ⟨rfl, hAnswer⟩ := AppCall.decided.inj (List.mem_singleton.1 hNew)
          exact GovApp.decide_identity hAnswer.symm
  | resumed incidentId orgId threadId decision payload =>
      refine ⟨(GovApp.resume_hasCheckpointer _ _ _ _).trans h.checkpointer, ?_, ?_⟩
      · intro rec v hLast hEscalate
        have hThread : (AppCall.resumed incidentId orgId threadId decision
            (s.app.resume threadId (.text decision) payload).1).thread = threadId := rfl
        by_cases hRun : threadId = rec.runId
        · rw [lastCall_append_same (hThread.trans hRun)] at hLast
          cases hLast
        · rw [lastCall_append_other fun hSame => hRun (hThread.symm.trans hSame)] at hLast
          simp only [GovApp.resume_otherThread hRun]
          exact h.waits rec v hLast hEscalate
      · intro rec v hMem
        rcases List.mem_append.1 hMem with hOld | hNew
        · exact h.identity rec v hOld
        · cases List.mem_singleton.1 hNew

/-- Invocations are not forgotten. -/
theorem call_mem_step {c : AppCall} (h : c ∈ s.calls) (hStep : GovernedStep settings text s s') :
    c ∈ s'.calls := by
  cases hStep with
  | server => exact h
  | decided => exact List.mem_append_left _ h
  | resumed => exact List.mem_append_left _ h

/-- The verdict of an incident is stored, under the given run. -/
def Found (incidentId orgId : String) (runId : Option String) (s : GovernedServer) : Prop :=
  ∃ row, s.world.db.findVerdict incidentId orgId = some row ∧ row.runId = runId

theorem findVerdict_append {db db' : Database} {rows : List GovernanceVerdictRow}
    {incidentId orgId : String} {row : GovernanceVerdictRow}
    (hRows : db'.governanceVerdicts = db.governanceVerdicts ++ rows)
    (h : db.findVerdict incidentId orgId = some row) :
    db'.findVerdict incidentId orgId = some row := by
  unfold Database.findVerdict at h ⊢
  rw [hRows, List.find?_append, h]
  rfl

/-- An update keeps what a verdict is found by. -/
theorem findVerdict_resolve (w : World) (decision : String) (resolvedAt : Int)
    (incident incidentId orgId : String) :
    (w.resolveVerdict decision resolvedAt incident).db.findVerdict incidentId orgId =
      (w.db.findVerdict incidentId orgId).map fun r =>
        if r.verdictId = incident then
          { r with resolution := some decision, resolvedAt := some resolvedAt }
        else r := by
  unfold Database.findVerdict World.resolveVerdict
  simp only [List.find?_map]
  congr 2
  funext r
  simp only [Function.comp]
  split <;> rfl

/-- A stored verdict is found in every later state, resolved or not. -/
theorem found_step {incidentId orgId : String} {runId : Option String}
    (h : Found incidentId orgId runId s) (hStep : GovernedStep settings text s s') :
    Found incidentId orgId runId s' := by
  obtain ⟨row, hRow, hRun⟩ := h
  cases hStep with
  | decided => exact ⟨row, hRow, hRun⟩
  | resumed => exact ⟨row, hRow, hRun⟩
  | server hWorld =>
      cases hWorld with
      | tick ns => exact ⟨row, hRow, hRun⟩
      | handler hWorld =>
          have hTransaction : ∀ {w : World} {sts : List Statement},
              s.world.transaction sts = .ok w →
                Found incidentId orgId runId { s with world := w } := by
            intro w sts hTx
            obtain ⟨db, hDb, rfl⟩ := World.transaction_ok hTx
            exact ⟨row, findVerdict_append (Database.transaction_governanceVerdicts hDb).1 hRow,
              hRun⟩
          cases hWorld with
          | submit _ _ _ _ hTx => exact hTransaction hTx
          | decide _ _ _ _ _ _ _ _ hTx => exact hTransaction hTx
          | record _ _ _ _ _ _ hTx => exact hTransaction hTx
          | publish _ hTx => exact hTransaction hTx
          | resolve decision resolvedAt incident =>
              have hLater := findVerdict_resolve s.world decision resolvedAt incident incidentId
                orgId
              rw [hRow] at hLater
              refine ⟨_, hLater, ?_⟩
              by_cases hIncident : row.verdictId = incident
              · simpa [hIncident] using hRun
              · simpa [hIncident] using hRun
          | _ => exact ⟨row, hRow, hRun⟩

end Threads

/-! ## The handler of a resume -/

section Resume

variable {settings : Settings} {text : PyText} {incidentId orgId decision : String}

/-- The incident is stored for the organisation, and the latest invocation of the app on
its run is the decision that issued it. -/
def LatestOnRun (incidentId orgId : String) (s : GovernedServer) : Prop :=
  ∃ row rec v, s.world.db.findVerdict incidentId orgId = some row ∧
    row.runId = some rec.runId ∧
    lastCall rec.runId s.calls = some (.decided rec (.ok v)) ∧
    v.verdictId = incidentId ∧ v.decision = .escalate

/-- When the step resumes the app for the incident, nothing has come between. -/
def ResumesLatest (incidentId orgId : String) (s s' : GovernedServer) : Prop :=
  ∀ threadId decision answer,
    s'.calls = s.calls ++ [.resumed incidentId orgId threadId decision answer] →
      LatestOnRun incidentId orgId s

/-- The verdict is that of the record for which the incident was issued, with the
decision of the human. -/
def Addresses (incidentId decision : String) (v : GovernanceVerdict) (s : GovernedServer) :
    Prop :=
  ∃ rec issued, .decided rec (.ok issued) ∈ s.calls ∧ issued.verdictId = incidentId ∧
    issued.decision = .escalate ∧ v.recordId = some rec.recordId ∧
    v.correlationId = rec.correlationId ∧
    v.decision = resumeDecisionToVerdict (.text decision)

/-- What a resume answers: the verdict of its incident, or that the decision is none of
the four, or that a backend failed. -/
def ResumeAnswer (incidentId decision : String) :
    Except Failure PlatformResponse → GovernedServer → Prop
  | .ok (.verdict v), s => Addresses incidentId decision v s
  | .ok _, _ => False
  | .error e, _ => e = .backend ∨ decision ∉ resumeDecisions

theorem onServer_read_bind {α β : Type} (f : World → α) (next : α → Handler β) :
    onServer (read f >>= next) = read (fun s => f s.world) >>= fun a => onServer (next a) := rfl

theorem onServer_write_bind {β : Type} (f : World → World) (next : Unit → Handler β) :
    onServer (write f >>= next) =
      write (fun s => { s with world := f s.world }) >>= fun _ => onServer (next ()) := rfl

theorem onServer_raiseIf_bind {β : Type} (c : Prop) [Decidable c] (e : Failure)
    (next : Unit → Handler β) :
    onServer (raiseIf c e >>= next) = raiseIf c e >>= fun _ => onServer (next ()) := by
  unfold raiseIf
  split <;> rfl

/-- The steps of the others, between those of a resume. -/
abbrev Others (settings : Settings) (text : PyText) (incidentId orgId : String)
    (s s' : GovernedServer) : Prop :=
  GovernedStep settings text s s' ∧ ResumesLatest incidentId orgId s s'

theorem stable_of_step {I : GovernedServer → Prop}
    (hI : ∀ s s', I s → GovernedStep settings text s s' → I s') :
    Stable (Others settings text incidentId orgId) I :=
  fun s s' hStep hs => hI s s' hs hStep.1

theorem addresses_step {v : GovernanceVerdict} {s s' : GovernedServer}
    (h : Addresses incidentId decision v s) (hStep : GovernedStep settings text s s') :
    Addresses incidentId decision v s' := by
  obtain ⟨rec, issued, hMem, hRest⟩ := h
  exact ⟨rec, issued, call_mem_step hMem hStep, hRest⟩

/-- What the server does with the answer of the app keeps whom it addresses. -/
theorem serveResume_sat (latencyMs : PyFloat) (decided : GovernanceVerdict) :
    Sat (Others settings text incidentId orgId) (ResumesLatest incidentId orgId)
      (GovernedStep settings text)
      (fun r s => ResumeAnswer incidentId decision (r.map .verdict) s)
      (onServer (serveResume settings.prim settings.serverSigningKey incidentId decision latencyMs
        decided))
      (Addresses incidentId decision decided) := by
  have hStable : Stable (Others settings text incidentId orgId)
      (Addresses incidentId decision decided) :=
    stable_of_step fun _ _ => addresses_step
  unfold serveResume
  rw [onServer_read_bind]
  refine Sat.read_bind governedStep_rest fun s hs => ⟨_, hStable, hs, ?_⟩
  rw [onServer_read_bind]
  refine Sat.read_bind governedStep_rest fun s' hs' => ⟨_, hStable, hs', ?_⟩
  rw [onServer_write_bind]
  have hResolve : ∀ s : GovernedServer, GovernedStep settings text s
      { s with world := s.world.resolveVerdict decision s'.world.now incidentId } := fun s =>
    .server s (.handler (.resolve s.world _ _ _ : HandlerStep settings (fun _ => False) _ _))
  refine Sat.write_bind (fun s _ => hResolve s) fun s₁ hs₁ _ => ?_
  exact ⟨_, hStable, addresses_step hs₁ (hResolve s₁), fun s hs => hs⟩

/-- The look-up finds the run of a stored incident. -/
theorem lookUpThread_sat :
    Sat (Others settings text incidentId orgId) (ResumesLatest incidentId orgId)
      (GovernedStep settings text)
      (fun r s =>
        match r with
        | .ok threadId => ∃ runId, threadId = runId.getD incidentId ∧
            Found incidentId orgId runId s ∧ Paused s
        | .error e => e = .backend ∨ decision ∉ resumeDecisions)
      (onServer (lookUpThread incidentId decision orgId))
      (fun s => (∃ runId, Found incidentId orgId runId s) ∧ Paused s) := by
  unfold lookUpThread
  rw [onServer_raiseIf_bind]
  refine Sat.raiseIf_bind (fun hDecision s _ => .inr hDecision) fun _ => ?_
  rw [onServer_read_bind]
  refine Sat.read_bind governedStep_rest fun s hs => ?_
  obtain ⟨⟨runId, hFound⟩, hPaused⟩ := hs
  refine ⟨fun s => Found incidentId orgId runId s ∧ Paused s, ?_, ⟨hFound, hPaused⟩, ?_⟩
  · exact (stable_of_step fun _ _ => found_step).and (stable_of_step fun _ _ => paused_step)
  · intro s' hs'
    obtain ⟨row, hRow, hRun⟩ := hFound
    refine ⟨runId, ?_, hs'⟩
    rw [hRow, ← hRun]
    rfl

/-- **A resume of an incident that is latest on its run addresses it**: the thread that is
resumed waits on the verdict which the incident is. -/
theorem resume_sat (payload : Option (List (String × Json))) (latencyMs : PyFloat) :
    Sat (Others settings text incidentId orgId) (ResumesLatest incidentId orgId)
      (GovernedStep settings text) (ResumeAnswer incidentId decision)
      (governed settings text (.resume incidentId decision payload orgId latencyMs))
      (fun s => (∃ runId, Found incidentId orgId runId s) ∧ Paused s) := by
  refine Sat.bind (S := fun v s => Addresses incidentId decision v s) ?_ fun v s hs => hs
  refine Sat.bind (S := fun threadId s => ∃ runId, threadId = runId.getD incidentId ∧
    Found incidentId orgId runId s ∧ Paused s) (lookUpThread_sat.post ?_) fun threadId => ?_
  · intro r s h
    cases r with
    | ok threadId => exact h
    | error e => exact h
  · refine Sat.call_bind (fun s _ => .resumed s _ _ _ _ _) fun s hs hC => ?_
    obtain ⟨runId, rfl, ⟨row, hRow, hRun⟩, hPaused⟩ := hs
    obtain ⟨row', rec, issued, hRow', hRun', hLast, hId, hEscalate⟩ := hC _ _ _ rfl
    obtain rfl := Option.some.inj (hRow.symm.trans hRow')
    obtain rfl : runId = some rec.runId := hRun.symm.trans hRun'
    have hThread := hPaused.waits rec issued hLast hEscalate
    have hAnswer := GovApp.resume_waiting hPaused.checkpointer hThread (.text decision)
      (Json.ofOption .obj payload)
    have hMem : AppCall.decided rec (.ok issued) ∈ s.calls :=
      (List.mem_filter.1 (List.mem_of_getLast? hLast)).1
    have hIdentity := hPaused.identity rec issued hMem
    let resumed := { issued with decision := resumeDecisionToVerdict (.text decision) }
    have hOk := congrArg (Except.mapError fun _ => Failure.governance) hAnswer
    refine ⟨Addresses incidentId decision resumed, stable_of_step fun _ _ => addresses_step,
      ?_, ?_, ?_⟩
    · exact ⟨rec, issued, List.mem_append_left _ hMem, hId, hEscalate, hIdentity.1, hIdentity.2,
        rfl⟩
    · intro e hErr
      cases hOk.symm.trans hErr
    · intro decided hDecided
      obtain rfl : resumed = decided := Except.ok.inj (hOk.symm.trans hDecided)
      refine (serveResume_sat latencyMs resumed).post fun r s h => ?_
      cases r with
      | ok v => exact h
      | error e => exact h

end Resume

/-! ## Runs -/

section Runs

/-- The server after a run of events. -/
def governedRun (settings : Settings) (text : PyText) (start : GovernedServer)
    (events : List (Event (governedService settings text))) :
    Pool (governedService settings text) :=
  (Pool.start start).run events

variable {settings : Settings} {text : PyText}

theorem reflTransGen_paused {s s' : GovernedServer} (h : Paused s)
    (hSteps : Relation.ReflTransGen (GovernedStep settings text) s s') : Paused s' := by
  induction hSteps with
  | refl => exact h
  | tail _ hStep ih => exact paused_step ih hStep

/-- In a run every thread waits on the latest decision, and every handler keeps to its
steps. -/
theorem governedRun_inv {start : GovernedServer} (hStart : Paused start)
    (events : List (Event (governedService settings text))) :
    Paused (governedRun settings text start events).state ∧
      ∀ t ∈ (governedRun settings text start events).threads,
        Steps (fun _ => True) (GovernedStep settings text) (fun _ => True) t.2 := by
  have hTick : ∀ (ns : Nat) (s : GovernedServer), GovernedStep settings text s
      { s with world := s.world.tick ns } := fun ns s =>
    .server s (.tick s.world ns)
  have hNone : ∀ t ∈ (Pool.start start : Pool (governedService settings text)).threads,
      Steps (fun _ => True) (GovernedStep settings text) (fun _ => True) t.2 := by
    simp [Pool.start]
  obtain ⟨hSteps, -, hThreads⟩ := Pool.run_steps (P := fun _ => True) governedStep_rest
    (fun ms s _ => hTick ms s) (fun _ _ _ _ => trivial) events (fun r _ => governed_steps r) hNone
    trivial
  exact ⟨reflTransGen_paused hStart hSteps, hThreads⟩

theorem paused_initial (now : Int) (agents : List Agent) (agentKeys : List AgentKey)
    (defender : DefenderEngine) (supervisor : Supervisor) :
    Paused (.initial now agents agentKeys defender supervisor) where
  checkpointer := rfl
  waits _ _ h := by cases h
  identity _ _ h := by cases h

theorem governedService_keeps (C : GovernedServer → GovernedServer → Prop) :
    (governedService settings text).Keeps C (GovernedStep settings text) where
  rest := governedStep_rest
  external ns s := .server s (.tick s.world ns)
  handler r := (governed_steps r).sat.post fun _ _ _ => trivial

/-- A resume takes five steps: the look-up, the app, the clock twice, the update. -/
theorem resume_endsWithin (incidentId decision : String)
    (payload : Option (List (String × Json))) (orgId : String) (latencyMs : PyFloat) :
    EndsWithin 5
      (governed settings text (.resume incidentId decision payload orgId latencyMs)) := by
  have hLookUp : EndsWithin 1 (onServer (lookUpThread incidentId decision orgId)) := by
    unfold lookUpThread
    rw [onServer_raiseIf_bind]
    exact EndsWithin.raiseIf.bind fun _ _ => trivial
  have hServe : ∀ decided, EndsWithin 3 (onServer (serveResume settings.prim
      settings.serverSigningKey incidentId decision latencyMs decided)) :=
    fun decided _ _ _ => trivial
  have hResume : EndsWithin 5
      (GovernedServer.resume settings incidentId decision payload orgId latencyMs) := by
    unfold GovernedServer.resume
    refine hLookUp.bind (m := 4) fun threadId => ?_
    exact EndsWithin.bind (n := 1) (fun _ => trivial) hServe
  exact hResume.bind (m := 0) fun _ => trivial

/-- **Resuming the right incident.**  In any run of the server and its app, a resume of
an incident that is stored for the caller's organisation when the request arrives
ends with the verdict of the record for which the incident was issued, under the
decision of the human, unless its decision is invalid or a backend fails: when in
each of the later steps that resumes the app for the incident the decision that
issued it is still the latest invocation on its run. -/
theorem resume_addresses_incident (settings : Settings) (text : PyText) (now : Int)
    (agents : List Agent) (agentKeys : List AgentKey) (defender : DefenderEngine)
    (supervisor : Supervisor) (before later : List (Event (governedService settings text)))
    (incidentId decision : String) (payload : Option (List (String × Json))) (orgId : String)
    (latencyMs : PyFloat) {p q : Pool (governedService settings text)}
    (hBefore : p = governedRun settings text
      (.initial now agents agentKeys defender supervisor) before)
    (hStored : p.state.world.db.findVerdict incidentId orgId ≠ none)
    (hArrives : q = p.step (.request (.resume incidentId decision payload orgId latencyMs)))
    (hLatest : q.Within (ResumesLatest incidentId orgId) later) :
    (∀ req res, (q.run later).threads[p.threads.length]? = some (req, .done res) →
      ResumeAnswer incidentId decision res (q.run later).state) ∧
    (5 ≤ later.countP (Pool.isStepOf p.threads.length) →
      ∃ req res, (q.run later).threads[p.threads.length]? = some (req, .done res)) := by
  obtain ⟨hPaused, hThreads⟩ := governedRun_inv
    (paused_initial now agents agentKeys defender supervisor) before
  rw [← hBefore] at hPaused hThreads
  have hRequest := Pool.step_request p
    (.resume incidentId decision payload orgId latencyMs : GovernedRequest)
  have hState : q.state = p.state := by rw [hArrives]; rfl
  have hAll : Pool.AllOk (ResumesLatest incidentId orgId) (GovernedStep settings text) q := by
    intro t ht
    have hSteps : Steps (fun _ => True) (GovernedStep settings text) (fun _ => True) t.2 := by
      rw [hArrives] at ht
      rcases List.mem_append.1 ht with hOld | hNew
      · exact hThreads t hOld
      · rw [List.mem_singleton.1 hNew]
        exact (governed_steps _ : Steps _ (GovernedStep settings text) _
          (governed settings text (.resume incidentId decision payload orgId latencyMs)))
    exact ⟨fun _ => True, fun _ _ _ _ => trivial, trivial, hSteps.sat.post fun _ _ _ => trivial⟩
  rw [← hArrives] at hRequest
  constructor
  · intro req res hDone
    have hFound : ∃ runId, Found incidentId orgId runId q.state := by
      rw [hState]
      cases hRow : p.state.world.db.findVerdict incidentId orgId with
      | none => exact absurd hRow hStored
      | some row => exact ⟨row.runId, row, hRow, rfl⟩
    have hOwn : Pool.ThreadOk (ResumesLatest incidentId orgId) (GovernedStep settings text)
        (ResumeAnswer incidentId decision) q.state
        (governed settings text (.resume incidentId decision payload orgId latencyMs)) := by
      refine ⟨fun s => (∃ runId, Found incidentId orgId runId s) ∧ Paused s, ?_,
        ⟨hFound, hState ▸ hPaused⟩, resume_sat payload latencyMs⟩
      refine (stable_of_step fun s s' hs hStep => ?_).and
        (stable_of_step fun _ _ => paused_step)
      obtain ⟨runId, hRow⟩ := hs
      exact ⟨runId, found_step hRow hStep⟩
    obtain ⟨prog, hThread, P, -, hP, hSat⟩ := Pool.run_thread (governedService_keeps _) hAll
      hRequest hOwn (fun _ => .inl rfl) later hLatest
    obtain ⟨-, rfl⟩ := Prod.mk.inj (Option.some.inj (hThread.symm.trans hDone))
    exact hSat _ hP
  · intro hSteps
    have hEnds : EndsWithin 5
        (governed settings text (.resume incidentId decision payload orgId latencyMs)) :=
      resume_endsWithin incidentId decision payload orgId latencyMs
    obtain ⟨res, hDone⟩ := Pool.run_ends hRequest hEnds later hSteps
    exact ⟨_, res, hDone⟩

end Runs

/-! ## Two escalations of one run -/

namespace Sample

/-- A transfer above the review floor, as a signed record of the agent. -/
def largeTransfer (recordId nonce prevChainHash : String) : ShieldActionRecord :=
  let unhashed := { action recordId nonce .preExec 1 prevChainHash "" with
    payload := (Governance.Sample.transfer "" "" "US13" "rent" 6000).2.payload }
  { unhashed with payloadHash := computeRecordPayloadHash settings.prim unhashed }

def firstTransfer : ShieldActionRecord := largeTransfer "r1" "n1" genesisChainHash

/-- The next transfer of the same run. -/
def nextTransfer : ShieldActionRecord :=
  largeTransfer "r2" "n2" (deriveChainHash settings.prim genesisChainHash firstTransfer)

/-- A decision as the `i`th handler, to its end. -/
def decideAs (rec : ShieldActionRecord) (verdictId : String) (i : Nat) :
    List (Event (governedService settings Governance.Sample.text)) :=
  .request (.decide rec ⟨verdictId ++ "-defender", .finite 1⟩ verdictId (.finite 1)) ::
    List.replicate 30 (.resume i .none)

/-- A human accepts an incident. -/
def acceptRequest (incidentId : String) : GovernedRequest :=
  .resume incidentId "accept" none "o" (.finite 1)

def governedStart : GovernedServer :=
  .initial 1 agents agentKeys Governance.Sample.governed.app.defender
    Governance.Sample.governed.app.supervisor

/-- Both transfers are escalated, and a human accepts the first. -/
def acceptsFirst : Pool (governedService settings Governance.Sample.text) :=
  governedRun settings Governance.Sample.text governedStart
    (decideAs firstTransfer "v1" 0 ++ decideAs nextTransfer "v2" 1 ++
      .request (acceptRequest "v1") :: List.replicate 5 (.resume 2 .none))

/-- The verdict that the `i`th handler has answered. -/
def answeredVerdict (p : Pool (governedService settings Governance.Sample.text)) (i : Nat) :
    Option GovernanceVerdict :=
  match p.threads[i]? with
  | some (_, .done (.ok (.verdict v))) => some v
  | _ => none

theorem answeredVerdict_eq {p : Pool (governedService settings Governance.Sample.text)} {i : Nat}
    {v : GovernanceVerdict} (h : answeredVerdict p i = some v) :
    ∃ req, p.threads[i]? = some (req, .done (.ok (.verdict v))) := by
  unfold answeredVerdict at h
  split at h
  · obtain rfl := Option.some.inj h
    exact ⟨_, by assumption⟩
  · cases h

/-- The verdicts that the app has issued under an id, with their records. -/
def issuedAs (incidentId : String) (s : GovernedServer) :
    List (ShieldActionRecord × GovernanceVerdict) :=
  s.calls.filterMap fun c =>
    match c with
    | .decided rec (.ok v) => if v.verdictId = incidentId then some (rec, v) else none
    | _ => none

theorem mem_issuedAs {incidentId : String} {s : GovernedServer} {rec : ShieldActionRecord}
    {v : GovernanceVerdict} :
    (rec, v) ∈ issuedAs incidentId s ↔
      .decided rec (.ok v) ∈ s.calls ∧ v.verdictId = incidentId := by
  unfold issuedAs
  rw [List.mem_filterMap]
  constructor
  · rintro ⟨c, hMem, hc⟩
    split at hc
    · split at hc
      · cases hc
        exact ⟨hMem, by assumption⟩
      · cases hc
    · cases hc
  · rintro ⟨hMem, hId⟩
    exact ⟨_, hMem, by simp [hId]⟩

/-- The app has been asked about nothing but a decision that escalated. -/
def latestIs (incidentId orgId : String) (s : GovernedServer) : Bool :=
  match s.calls, s.world.db.findVerdict incidentId orgId with
  | [.decided rec (.ok v)], some row =>
      row.runId = some rec.runId ∧ v.verdictId = incidentId ∧ v.decision = .escalate
  | _, _ => false

theorem latestOnRun_of_latestIs {incidentId orgId : String} {s : GovernedServer}
    (h : latestIs incidentId orgId s = true) : LatestOnRun incidentId orgId s := by
  unfold latestIs at h
  split at h
  · rename_i rec v row hCalls hRow
    obtain ⟨hRun, hId, hEscalate⟩ := of_decide_eq_true h
    refine ⟨row, rec, v, hRow, hRun, ?_, hId, hEscalate⟩
    rw [hCalls]
    exact lastCall_append_same rfl []
  · cases h

end Sample

set_option maxRecDepth 40000 in
/-- **The human's decision goes to the wrong record.**  Both transfers were escalated; the
human accepts the first, and the verdict is that of the second. -/
theorem later_escalation_resumed_instead :
    (∃ issued, .decided Sample.firstTransfer (.ok issued) ∈ Sample.acceptsFirst.state.calls ∧
      issued.verdictId = "v1" ∧ issued.decision = .escalate) ∧
    ∃ req v, Sample.acceptsFirst.threads[2]? = some (req, .done (.ok (.verdict v))) ∧
      v.recordId = some "r2" ∧
      ¬ ResumeAnswer "v1" "accept" (.ok (.verdict v)) Sample.acceptsFirst.state := by
  have hIssued : (Sample.issuedAs "v1" Sample.acceptsFirst.state).map
      (fun i => (i.1, i.2.decision)) = [(Sample.firstTransfer, .escalate)] := by decide +kernel
  have hAnswer : (Sample.answeredVerdict Sample.acceptsFirst 2).map
      GovernanceVerdict.recordId = some (some "r2") := by decide +kernel
  constructor
  · obtain ⟨⟨rec, issued⟩, hMem, hEq⟩ : ∃ i ∈ Sample.issuedAs "v1" Sample.acceptsFirst.state,
        (i.1, i.2.decision) = (Sample.firstTransfer, Decision.escalate) :=
      List.mem_map.1 (hIssued ▸ List.mem_singleton_self _)
    obtain ⟨rfl, hEscalate⟩ := Prod.mk.inj hEq
    obtain ⟨hCall, hId⟩ := Sample.mem_issuedAs.1 hMem
    exact ⟨issued, hCall, hId, hEscalate⟩
  · obtain ⟨v, hv, hRecord⟩ := Option.map_eq_some_iff.1 hAnswer
    obtain ⟨req, hThread⟩ := Sample.answeredVerdict_eq hv
    refine ⟨req, v, hThread, hRecord, ?_⟩
    rintro ⟨rec, issued, hCall, hId, -, hSame, -⟩
    have hMem : (rec, issued.decision) ∈ (Sample.issuedAs "v1" Sample.acceptsFirst.state).map
        (fun i => (i.1, i.2.decision)) :=
      List.mem_map.2 ⟨(rec, issued), Sample.mem_issuedAs.2 ⟨hCall, hId⟩, rfl⟩
    rw [hIssued] at hMem
    obtain ⟨rfl, -⟩ := Prod.mk.inj (List.mem_singleton.1 hMem)
    rw [hRecord] at hSame
    exact absurd hSame (by decide +kernel)

namespace Sample

/-- The first transfer is escalated. -/
def firstEscalated : Pool (governedService settings Governance.Sample.text) :=
  governedRun settings Governance.Sample.text governedStart (decideAs firstTransfer "v1" 0)

/-- A human accepts it. -/
def accepting : Pool (governedService settings Governance.Sample.text) :=
  firstEscalated.step (.request (acceptRequest "v1"))

def acceptSteps : List (Event (governedService settings Governance.Sample.text)) :=
  List.replicate 5 (.resume 1 .none)

set_option maxRecDepth 40000 in
theorem accepting_latest : accepting.Within (ResumesLatest "v1" "o") acceptSteps := by
  have hChecked : accepting.Within (fun s s' => s'.calls.length = s.calls.length ∨
      latestIs "v1" "o" s = true) acceptSteps := by
    decide +kernel
  refine hChecked.mono fun s s' hStep threadId decision answer hCalls => ?_
  rcases hStep with hLength | hIs
  · rw [hCalls] at hLength
    simp at hLength
  · exact latestOnRun_of_latestIs hIs

end Sample

set_option maxRecDepth 40000 in
theorem resume_addresses_incident_sample :
    ∃ req res, (Sample.accepting.run Sample.acceptSteps).threads[
        Sample.firstEscalated.threads.length]? = some (req, .done res) ∧
      ResumeAnswer "v1" "accept" res (Sample.accepting.run Sample.acceptSteps).state := by
  have hStored : Sample.firstEscalated.state.world.db.findVerdict "v1" "o" ≠ none := by
    decide +kernel
  have hResume := resume_addresses_incident Sample.settings Governance.Sample.text 1
    Sample.agents Sample.agentKeys Governance.Sample.governed.app.defender
    Governance.Sample.governed.app.supervisor (Sample.decideAs Sample.firstTransfer "v1" 0)
    Sample.acceptSteps "v1" "accept" none "o" (.finite 1) (p := Sample.firstEscalated)
    (q := Sample.accepting) rfl hStored rfl Sample.accepting_latest
  have hSteps : 5 ≤ Sample.acceptSteps.countP
      (Pool.isStepOf Sample.firstEscalated.threads.length) := by
    decide +kernel
  obtain ⟨req, res, hDone⟩ := hResume.2 hSteps
  exact ⟨req, res, hDone, hResume.1 req res hDone⟩

end AgentShield.Server
