import AgentShield.Lib.Machine
import AgentShield.Governance.Graph

/-!
# Tenants of one governance app

All that the app keeps from one request to the next is kept under a `run_id`, which
the clients choose.  A request depends on what is kept for its own run and changes
nothing else.  So the answers to an organisation's requests do not depend on the
requests of other organisations, as long as these use other run ids
(`tenant_noninterference`).  With a shared run id they do.
-/

namespace AgentShield.Governance

open AgentShield.Lib AgentShield.Sdk

/-! ## Engines that agree on some runs -/

namespace DefenderEngine

variable {text : PyText} {e e' : DefenderEngine} {record : ShieldActionRecord}
  {K : String → Prop}

/-- Two engines that are set up alike and keep the same for the runs of `K`. -/
structure AgreeOn (K : String → Prop) (e e' : DefenderEngine) : Prop where
  cfg : e'.cfg = e.cfg
  scanner : e'.scanner = e.scanner
  codeScanner : e'.codeScanner = e.codeScanner
  structuring : e'.structuring = e.structuring
  tracker : ∀ runId, K runId → e'.tracker runId = e.tracker runId
  trace : ∀ runId, K runId → e'.trace runId = e.trace runId

theorem AgreeOn.refl (K : String → Prop) (e : DefenderEngine) : AgreeOn K e e :=
  ⟨rfl, rfl, rfl, rfl, fun _ _ => rfl, fun _ _ => rfl⟩

/-- A call of a run outside of `K` changes nothing in the runs of `K`. -/
theorem AgreeOn.assess_left (text : PyText) (h : AgreeOn K e e') (stamp : Stamp)
    (hRun : ¬ K record.runId) : AgreeOn K (e.assess text stamp record).2 e' := by
  have hKeeps := keeps_assess text e stamp record
  have hOther : ∀ runId, K runId → runId ≠ record.runId := by
    rintro runId hK rfl
    exact hRun hK
  exact
    { cfg := h.cfg.trans hKeeps.cfg.symm
      scanner := h.scanner.trans hKeeps.scanner.symm
      codeScanner := h.codeScanner.trans hKeeps.codeScanner.symm
      structuring := h.structuring.trans hKeeps.structuring.symm
      tracker := fun runId hK =>
        (h.tracker runId hK).trans (hKeeps.tracker runId (hOther runId hK)).symm
      trace := fun runId hK =>
        (h.trace runId hK).trans (hKeeps.trace runId (hOther runId hK)).symm }

theorem applyRules_congr (text : PyText) (hCfg : e'.cfg = e.cfg)
    (hTracker : e'.tracker record.runId = e.tracker record.runId) :
    (e'.applyRules text record).1 = (e.applyRules text record).1 ∧
      (e'.applyRules text record).2.tracker record.runId =
        (e.applyRules text record).2.tracker record.runId := by
  unfold applyRules outcome
  rw [hCfg, hTracker]
  split
  · dsimp only
    split
    · exact ⟨rfl, by simp⟩
    · split <;> exact ⟨rfl, by simp⟩
  · exact ⟨rfl, hTracker⟩

theorem crossCheck_congr (hCfg : e'.cfg = e.cfg) (hStructuring : e'.structuring = e.structuring)
    (hTrace : e'.trace record.runId = e.trace record.runId) :
    (e'.crossCheck record).1 = (e.crossCheck record).1 ∧
      (e'.crossCheck record).2.trace record.runId =
        (e.crossCheck record).2.trace record.runId := by
  have hWith : e'.traceWith record = e.traceWith record := by
    unfold traceWith
    exact congrArg (· ++ [traceEvent record]) hTrace
  unfold crossCheck
  rw [hCfg, hStructuring, hWith]
  split
  · split
    · exact ⟨rfl, by simp [DefenderEngine.trace]⟩
    · exact ⟨rfl, hTrace⟩
  · exact ⟨rfl, hTrace⟩

/-- What the engine keeps for the run of a call, and its answer, are determined by the
set-up and by what it kept for that run. -/
theorem assess_congr (text : PyText) (h : AgreeOn K e e') (hRun : K record.runId) (stamp : Stamp) :
    (e'.assess text stamp record).1 = (e.assess text stamp record).1 ∧
      (e'.assess text stamp record).2.tracker record.runId =
        (e.assess text stamp record).2.tracker record.runId ∧
      (e'.assess text stamp record).2.trace record.runId =
        (e.assess text stamp record).2.trace record.runId := by
  have hTracker := h.tracker _ hRun
  have hTrace := h.trace _ hRun
  obtain ⟨hRules, hSum⟩ := applyRules_congr text h.cfg hTracker
  have hSnd := applyRules_snd text e record
  have hSnd' := applyRules_snd text e' record
  unfold assess
  rw [h.cfg]
  split
  · exact ⟨rfl, hTracker, hTrace⟩
  · generalize e.applyRules text record = applied at hRules hSum hSnd ⊢
    generalize e'.applyRules text record = applied' at hRules hSum hSnd' ⊢
    obtain ⟨ruled, e₁⟩ := applied
    obtain ⟨ruled', e₁'⟩ := applied'
    obtain rfl : ruled' = ruled := hRules
    have hTrace₁ : e₁'.trace record.runId = e₁.trace record.runId := by
      rw [show e₁' = _ from hSnd', show e₁ = _ from hSnd]
      exact hTrace
    have hCfg₁ : e₁'.cfg = e₁.cfg := by
      rw [show e₁' = _ from hSnd', show e₁ = _ from hSnd]
      exact h.cfg
    have hScanner₁ : e₁'.scanner = e₁.scanner := by
      rw [show e₁' = _ from hSnd', show e₁ = _ from hSnd]
      exact h.scanner
    have hCode₁ : e₁'.codeScanner = e₁.codeScanner := by
      rw [show e₁' = _ from hSnd', show e₁ = _ from hSnd]
      exact h.codeScanner
    have hStructuring₁ : e₁'.structuring = e₁.structuring := by
      rw [show e₁' = _ from hSnd', show e₁ = _ from hSnd]
      exact h.structuring
    cases ruled' with
    | error exc => exact ⟨rfl, hSum, hTrace₁⟩
    | ok ruled =>
        dsimp only
        rw [hCfg₁, hScanner₁, hCode₁]
        split
        · exact ⟨rfl, hSum, hTrace₁⟩
        · split
          · exact ⟨rfl, hSum, hTrace₁⟩
          · obtain ⟨hChecked, hAfter⟩ := crossCheck_congr hCfg₁ hStructuring₁ hTrace₁
            have hKeep : ∀ e : DefenderEngine,
                (e.crossCheck record).2.tracker record.runId = e.tracker record.runId := by
              intro e
              unfold tracker
              rw [trackers_crossCheck]
            have hKept := (hKeep e₁').trans (hSum.trans (hKeep e₁).symm)
            generalize e₁.crossCheck record = checked at hChecked hAfter hKept ⊢
            generalize e₁'.crossCheck record = checked' at hChecked hAfter hKept ⊢
            obtain ⟨violations, e₂⟩ := checked
            obtain ⟨violations', e₂'⟩ := checked'
            obtain rfl : violations' = violations := hChecked
            cases violations' <;> exact ⟨rfl, hKept, hAfter⟩

/-- **A call does not see the other runs**: two engines that agree on the runs of `K`
answer a call of such a run alike, and agree afterwards. -/
theorem AgreeOn.assess (text : PyText) (h : AgreeOn K e e') (hRun : K record.runId)
    (stamp : Stamp) :
    (e.assess text stamp record).1 = (e'.assess text stamp record).1 ∧
      AgreeOn K (e.assess text stamp record).2 (e'.assess text stamp record).2 := by
  obtain ⟨hAnswer, hTracker, hTrace⟩ := assess_congr text h hRun stamp
  have hKeeps := keeps_assess text e stamp record
  have hKeeps' := keeps_assess text e' stamp record
  refine ⟨hAnswer.symm, ?_⟩
  exact
    { cfg := hKeeps'.cfg.trans (h.cfg.trans hKeeps.cfg.symm)
      scanner := hKeeps'.scanner.trans (h.scanner.trans hKeeps.scanner.symm)
      codeScanner := hKeeps'.codeScanner.trans (h.codeScanner.trans hKeeps.codeScanner.symm)
      structuring := hKeeps'.structuring.trans (h.structuring.trans hKeeps.structuring.symm)
      tracker := by
        intro runId hK
        by_cases hSame : runId = record.runId
        · rw [hSame]
          exact hTracker
        · rw [hKeeps'.tracker runId hSame, hKeeps.tracker runId hSame]
          exact h.tracker runId hK
      trace := by
        intro runId hK
        by_cases hSame : runId = record.runId
        · rw [hSame]
          exact hTrace
        · rw [hKeeps'.trace runId hSame, hKeeps.trace runId hSame]
          exact h.trace runId hK }

end DefenderEngine

/-! ## Apps that agree on some runs -/

/-- Two apps that are set up alike and keep the same for the runs of `K`. -/
structure GovApp.AgreeOn (K : String → Prop) (app app' : GovApp) : Prop where
  defender : DefenderEngine.AgreeOn K app.defender app'.defender
  supervisor : app'.supervisor = app.supervisor
  hasCheckpointer : app'.hasCheckpointer = app.hasCheckpointer
  thread : ∀ runId, K runId → Dict.get? app'.threads runId = Dict.get? app.threads runId

namespace GovApp

variable {text : PyText} {app app' : GovApp} {K : String → Prop}

theorem AgreeOn.refl (K : String → Prop) (app : GovApp) : AgreeOn K app app :=
  ⟨.refl K _, rfl, rfl, fun _ _ => rfl⟩

theorem AgreeOn.setThread (h : AgreeOn K app app') (threadId : String) (t : Thread) :
    AgreeOn K (app.setThread threadId t) (app'.setThread threadId t) where
  defender := by simpa using h.defender
  supervisor := by simpa using h.supervisor
  hasCheckpointer := by simpa using h.hasCheckpointer
  thread runId hK := by
    unfold GovApp.setThread
    rw [h.hasCheckpointer]
    split
    · simp only [Dict.get?_set, h.thread runId hK]
    · exact h.thread runId hK

theorem AgreeOn.setThread_left (h : AgreeOn K app app') {threadId : String} (t : Thread)
    (hThread : ¬ K threadId) : AgreeOn K (app.setThread threadId t) app' where
  defender := by simpa using h.defender
  supervisor := by simpa using h.supervisor
  hasCheckpointer := by simpa using h.hasCheckpointer
  thread runId hK := by
    unfold GovApp.setThread
    split
    · have hNe : threadId ≠ runId := by
        rintro rfl
        exact hThread hK
      rw [Dict.get?_set_ne _ _ hNe]
      exact h.thread runId hK
    · exact h.thread runId hK

theorem AgreeOn.setDefender (h : AgreeOn K app app') {e e' : DefenderEngine}
    (hDefender : DefenderEngine.AgreeOn K e e') :
    AgreeOn K { app with defender := e } { app' with defender := e' } :=
  ⟨hDefender, h.supervisor, h.hasCheckpointer, h.thread⟩

theorem AgreeOn.setDefender_left (h : AgreeOn K app app') {e : DefenderEngine}
    (hDefender : DefenderEngine.AgreeOn K e app'.defender) :
    AgreeOn K { app with defender := e } app' :=
  ⟨hDefender, h.supervisor, h.hasCheckpointer, h.thread⟩

/-- A decision on a record of a run in `K` sees nothing outside of `K`. -/
theorem AgreeOn.decide (text : PyText) (h : AgreeOn K app app') {record : ShieldActionRecord}
    (hRun : K record.runId) (stamp : Stamp) (verdictId : String) :
    (app.decide text stamp verdictId record).1 = (app'.decide text stamp verdictId record).1 ∧
      AgreeOn K (app.decide text stamp verdictId record).2
        (app'.decide text stamp verdictId record).2 := by
  obtain ⟨hAnswer, hDefender⟩ := h.defender.assess text hRun stamp
  have hJudge : (app.judge text stamp verdictId record).1 =
      (app'.judge text stamp verdictId record).1 := by
    rw [judge_answer, judge_answer, hAnswer, h.supervisor]
  rw [← judge_defender text app stamp verdictId record,
    ← judge_defender text app' stamp verdictId record] at hDefender
  refine ⟨hJudge, ?_⟩
  unfold GovApp.decide
  dsimp only
  rw [← hJudge]
  exact (h.setDefender hDefender).setThread _ _

theorem AgreeOn.decide_left (text : PyText) (h : AgreeOn K app app')
    {record : ShieldActionRecord} (hRun : ¬ K record.runId) (stamp : Stamp)
    (verdictId : String) : AgreeOn K (app.decide text stamp verdictId record).2 app' := by
  have hDefender := h.defender.assess_left text stamp hRun
  rw [← judge_defender text app stamp verdictId record] at hDefender
  unfold GovApp.decide
  exact (h.setDefender_left hDefender).setThread_left _ hRun

theorem AgreeOn.resume (h : AgreeOn K app app') {incidentId : String} (hRun : K incidentId)
    (decision : HumanDecision) (payload : Json) :
    (app.resume incidentId decision payload).1 = (app'.resume incidentId decision payload).1 ∧
      AgreeOn K (app.resume incidentId decision payload).2
        (app'.resume incidentId decision payload).2 := by
  unfold GovApp.resume
  rw [h.hasCheckpointer, h.thread incidentId hRun]
  split
  · exact ⟨rfl, h⟩
  · split
    · exact ⟨rfl, h.setThread _ _⟩
    · exact ⟨rfl, h⟩
    · exact ⟨rfl, h⟩
    · exact ⟨rfl, h⟩

theorem AgreeOn.resume_left (h : AgreeOn K app app') {incidentId : String}
    (hRun : ¬ K incidentId) (decision : HumanDecision) (payload : Json) :
    AgreeOn K (app.resume incidentId decision payload).2 app' := by
  unfold GovApp.resume
  split
  · exact h
  · split
    · exact h.setThread_left _ hRun
    · exact h
    · exact h
    · exact h

end GovApp

/-! ## Requests of several organisations -/

/-- A request on behalf of an organisation.  A record names its organisation; a
human decision comes from one. -/
inductive TenantRequest where
  | assess (stamp : Stamp) (record : ShieldActionRecord)
  | decide (stamp : Stamp) (verdictId : String) (record : ShieldActionRecord)
  | resume (orgId : String) (incidentId : String) (decision : HumanDecision) (payload : Json)
  deriving DecidableEq

namespace TenantRequest

def orgId : TenantRequest → String
  | assess _ record | decide _ _ record => record.orgId
  | resume orgId _ _ _ => orgId

/-- The run whose state the request is about. -/
def runId : TenantRequest → String
  | assess _ record | decide _ _ record => record.runId
  | resume _ incidentId _ _ => incidentId

end TenantRequest

/-- The app over the requests of all organisations.  Its state, the trackers, traces and
threads, is kept by run id and not by organisation. -/
def serving (text : PyText) :
    Machine GovApp TenantRequest (Except PyError GovernanceVerdict) := fun app request =>
  match request with
  | .assess stamp record =>
      let (answer, defender) := app.defender.assess text stamp record
      (answer, { app with defender := defender })
  | .decide stamp verdictId record => app.decide text stamp verdictId record
  | .resume _ incidentId decision payload => app.resume incidentId decision payload

/-- The requests of an organisation. -/
def requestsOf (orgId : String) (requests : List TenantRequest) : List TenantRequest :=
  requests.filter fun request => request.orgId = orgId

/-- The requests of an organisation with the answers they get among all requests. -/
def answersOf (text : PyText) (app : GovApp) (orgId : String)
    (requests : List TenantRequest) :
    List (TenantRequest × Except PyError GovernanceVerdict) :=
  ((serving text).run app requests).1.filter fun entry => entry.1.orgId = orgId

/-- The decisions among them. -/
def decisionsOf (text : PyText) (app : GovApp) (orgId : String)
    (requests : List TenantRequest) : List (Option Decision) :=
  (answersOf text app orgId requests).map fun entry =>
    match entry.2 with
    | .ok v => some v.decision
    | .error _ => none

/-- No other organisation uses a run id of this one. -/
def OwnRuns (orgId : String) (requests : List TenantRequest) : Prop :=
  ∀ request ∈ requests, ∀ request' ∈ requests,
    request.orgId = orgId → request'.orgId ≠ orgId → request'.runId ≠ request.runId

/-- An organisation with runs of its own gets the answers it would get alone, since the
requests of the others touch no tracker, trace or thread of its runs. -/
theorem answersOf_alone (text : PyText) (app : GovApp) {orgId : String}
    {requests : List TenantRequest} (hOwn : OwnRuns orgId requests) :
    answersOf text app orgId requests =
      ((serving text).run app (requestsOf orgId requests)).1 := by
  let K : String → Prop := fun runId =>
    ∃ request ∈ requests, request.orgId = orgId ∧ request.runId = runId
  refine Machine.unwinding (serving text) (fun request => request.orgId = orgId)
    (GovApp.AgreeOn K) ?_ ?_ (.refl K app)
  · intro request hMem hOrg s t hAgree
    have hRun : K request.runId := ⟨request, hMem, of_decide_eq_true hOrg, rfl⟩
    cases request with
    | assess stamp record =>
        obtain ⟨hAnswer, hDefender⟩ := hAgree.defender.assess text hRun stamp
        exact ⟨hAnswer, hAgree.setDefender hDefender⟩
    | decide stamp verdictId record => exact hAgree.decide text hRun stamp verdictId
    | resume _ incidentId decision payload => exact hAgree.resume hRun decision payload
  · intro request hMem hOrg s t hAgree
    have hRun : ¬ K request.runId := by
      rintro ⟨request', hMem', hOrg', hSame⟩
      exact hOwn request' hMem' request hMem hOrg' (of_decide_eq_false hOrg) hSame.symm
    cases request with
    | assess stamp record =>
        exact hAgree.setDefender_left (hAgree.defender.assess_left text stamp hRun)
    | decide stamp verdictId record => exact hAgree.decide_left text hRun stamp verdictId
    | resume _ incidentId decision payload => exact hAgree.resume_left hRun decision payload

/-- **Tenant non-interference**: two histories with the same requests of an organisation,
whose run ids no other organisation uses, give it the same answers.  The run id is what keeps
two organisations apart. -/
theorem tenant_noninterference (text : PyText) (app : GovApp) (orgId : String)
    (requests requests' : List TenantRequest)
    (hSame : requestsOf orgId requests = requestsOf orgId requests')
    (hOwn : OwnRuns orgId requests) (hOwn' : OwnRuns orgId requests') :
    answersOf text app orgId requests = answersOf text app orgId requests' := by
  rw [answersOf_alone text app hOwn, answersOf_alone text app hOwn', hSame]

/-! ## Two histories -/

instance (orgId : String) (requests : List TenantRequest) :
    Decidable (OwnRuns orgId requests) :=
  inferInstanceAs (Decidable (∀ request ∈ requests, ∀ request' ∈ requests, _ → _ → _))

namespace Sample

/-- A request of an organisation to judge a transfer to the one recipient. -/
def tenantRequest (orgId recordId runId : String) (amount : Int) : TenantRequest :=
  let (stamp, record) := transfer recordId runId "US13" "rent" amount
  .decide stamp (recordId ++ "-final") { record with orgId := orgId }

def tenantApp : GovApp := buildDecideApp engine ⟨{}, conservativeArbiter⟩ true

def alone : List TenantRequest := [tenantRequest "a" "1" "run-1" 10000]

/-- The other organisation uses a run id of its own. -/
def separate : List TenantRequest :=
  [tenantRequest "b" "2" "run-2" 10000, tenantRequest "b" "3" "run-2" 10000,
   tenantRequest "a" "1" "run-1" 10000]

/-- The other organisation uses the same run id. -/
def shared : List TenantRequest :=
  [tenantRequest "b" "2" "run-1" 10000, tenantRequest "b" "3" "run-1" 10000,
   tenantRequest "a" "1" "run-1" 10000]

end Sample

theorem tenant_noninterference_sample :
    answersOf Sample.text Sample.tenantApp "a" Sample.alone =
      answersOf Sample.text Sample.tenantApp "a" Sample.separate :=
  tenant_noninterference Sample.text Sample.tenantApp "a" Sample.alone Sample.separate
    (by decide +kernel) (by decide +kernel) (by decide +kernel)

/-- Two transfers of one organisation make the other organisation's transfer in a run
of the same id exceed the cap. -/
theorem shared_run_interferes :
    requestsOf "a" Sample.alone = requestsOf "a" Sample.shared ∧
      decisionsOf Sample.text Sample.tenantApp "a" Sample.alone = [some .pass] ∧
      decisionsOf Sample.text Sample.tenantApp "a" Sample.shared = [some .block] := by
  decide +kernel

end AgentShield.Governance
