import AgentShield.Lib.Machine
import AgentShield.Governance.Graph

/-!
# The running sum and the executed transfers

A run of the governance app is a sequence of `decide` and `resume` requests.  Next
to the app stands the list of the calls that were allowed to be executed: by their
verdict, or later by a human.  The running sums equal the sums of the executed
amounts as long as no step is one that adds an amount to the sum and then stops
the call, or that allows a call without adding its amount (`ExactStep`).
-/

namespace AgentShield.Governance

open AgentShield.Lib AgentShield.Sdk

inductive GovRequest where
  | decide (stamp : Stamp) (verdictId : String) (record : ShieldActionRecord)
  | resume (incidentId : String) (decision : HumanDecision) (payload : Json)

/-- The app, and the calls that were allowed to be executed so far. -/
structure Governed where
  app : GovApp
  executed : List ShieldActionRecord := []

/-- The call that an answer allows. -/
def allowedCall (answer : Except PyError GovernanceVerdict) (record : ShieldActionRecord) :
    List ShieldActionRecord :=
  match answer with
  | .ok v => if Allows v.decision then [record] else []
  | .error _ => []

def governing (text : PyText) :
    Machine Governed GovRequest (Except PyError GovernanceVerdict) := fun g request =>
  match request with
  | .decide stamp verdictId record =>
      let (answer, app) := g.app.decide text stamp verdictId record
      (answer, { app := app, executed := g.executed ++ allowedCall answer record })
  | .resume incidentId decision payload =>
      let (answer, app) := g.app.resume incidentId decision payload
      match Dict.get? g.app.threads incidentId with
      | some (.waiting record _) =>
          (answer, { app := app, executed := g.executed ++ allowedCall answer record })
      | _ => (answer, { g with app := app })

/-- The amount of a call, if it is one to the recipient in the run. -/
def sentAmount (text : PyText) (runId recipient : String) (record : ShieldActionRecord) :
    Option PyFloat :=
  if toolName record = "send_money" ∧ record.runId = runId ∧
      recipientOf text record = recipient then
    some (amountOf text record)
  else none

def executedAmounts (text : PyText) (executed : List ShieldActionRecord)
    (runId recipient : String) : List PyFloat :=
  executed.filterMap (sentAmount text runId recipient)

/-- The running sum of every run and recipient is the sum of what was executed. -/
def TrackerExact (text : PyText) (g : Governed) : Prop :=
  ∀ runId recipient, g.app.defender.total runId recipient =
    PyFloat.sum (executedAmounts text g.executed runId recipient)

/-- A `send_money` call of an amount other than 0. -/
def MovesMoney (text : PyText) (record : ShieldActionRecord) : Prop :=
  toolName record = "send_money" ∧ amountOf text record ≠ 0

/-- The steps that leave the sums exact.  A call that moves money is judged by an
enabled Defender, and where the rules admit it neither the scanners and the
analyzer nor the supervisor stop it; no human allows a call that moves money. -/
def ExactStep (text : PyText) (g : Governed) : GovRequest → Prop
  | .decide _ _ record =>
      MovesMoney text record → g.app.defender.cfg.enabled = true ∧
        (g.app.defender.admits text record = true →
          Unopposed text g.app.defender record ∧ PassesClean g.app.supervisor.policy)
  | .resume incidentId decision _ =>
      ∀ record v, Dict.get? g.app.threads incidentId = some (.waiting record v) →
        Allows (resumeDecisionToVerdict decision) → ¬ MovesMoney text record

instance (text : PyText) (record : ShieldActionRecord) : Decidable (MovesMoney text record) :=
  inferInstanceAs (Decidable (_ ∧ _))

instance (text : PyText) (g : Governed) : (request : GovRequest) →
    Decidable (ExactStep text g request)
  | .decide _ _ _ => inferInstanceAs (Decidable (_ → _ ∧ (_ → _ ∧ _)))
  | .resume incidentId decision _ =>
      match h : Dict.get? g.app.threads incidentId with
      | some (.waiting record v) =>
          decidable_of_iff
            (Allows (resumeDecisionToVerdict decision) → ¬ MovesMoney text record)
            ⟨fun hRefused _ _ hThread => by
              obtain ⟨rfl, rfl⟩ := Thread.waiting.inj (Option.some.inj (h.symm.trans hThread))
              exact hRefused,
             fun hStep => hStep record v h⟩
      | some (.finished _) => .isTrue fun _ _ hThread => by cases h.symm.trans hThread
      | some .failed => .isTrue fun _ _ hThread => by cases h.symm.trans hThread
      | none => .isTrue fun _ _ hThread => by cases h.symm.trans hThread

/-! ## One step -/

section Step

variable {text : PyText}

theorem executedAmounts_append (executed : List ShieldActionRecord)
    (record : ShieldActionRecord) (runId recipient : String) :
    executedAmounts text (executed ++ [record]) runId recipient =
      executedAmounts text executed runId recipient ++
        (sentAmount text runId recipient record).toList := by
  unfold executedAmounts
  rw [List.filterMap_append]
  cases h : sentAmount text runId recipient record <;> simp [h]

/-- A call that moves no money changes no sum, executed or not. -/
theorem sum_executed_of_not_moves {record : ShieldActionRecord}
    (h : ¬ MovesMoney text record) (answer : Except PyError GovernanceVerdict)
    (executed : List ShieldActionRecord) (runId recipient : String) :
    PyFloat.sum (executedAmounts text (executed ++ allowedCall answer record) runId recipient) =
      PyFloat.sum (executedAmounts text executed runId recipient) := by
  have hCall : allowedCall answer record = [] ∨ allowedCall answer record = [record] := by
    unfold allowedCall
    split
    · split
      · exact .inr rfl
      · exact .inl rfl
    · exact .inl rfl
  rcases hCall with hCall | hCall
  · rw [hCall, List.append_nil]
  · rw [hCall, executedAmounts_append]
    unfold sentAmount
    split
    · rename_i hSent
      have hZero : amountOf text record = 0 := by
        by_contra hNe
        exact h ⟨hSent.1, hNe⟩
      rw [hZero, Option.toList_some, PyFloat.sum_concat, PyFloat.zero_eq,
        PyFloat.add_finite_zero]
    · simp

/-- The final verdict allows a call that moves money exactly when the rules admit it, provided
that nothing else objects to a call that they admit. -/
theorem allows_judge {app : GovApp} (stamp : Stamp) (verdictId : String)
    {record : ShieldActionRecord} (hTool : toolName record = "send_money")
    (hEnabled : app.defender.cfg.enabled = true)
    (hPasses : app.defender.admits text record = true →
      Unopposed text app.defender record ∧ PassesClean app.supervisor.policy) :
    (∃ final, (app.judge text stamp verdictId record).1 = .ok final ∧ Allows final.decision) ↔
      app.defender.admits text record = true := by
  constructor
  · rintro ⟨final, hFinal, hAllows⟩
    unfold GovApp.judge at hFinal
    generalize hAssessed : app.defender.assess text stamp record = assessed at hFinal
    obtain ⟨answer, defender⟩ := assessed
    have hAnswer : (app.defender.assess text stamp record).1 = answer := by rw [hAssessed]
    cases answer with
    | error exc => cases hFinal
    | ok v =>
        have hDefender : Allows v.decision :=
          allows_of_decide (DefenderEngine.decision_assess_ne_rewrite hAnswer) hFinal hAllows
        exact ((DefenderEngine.allows_assess hEnabled hTool stamp).1
          ⟨v, hAnswer, hDefender⟩).1
  · intro hAdmits
    obtain ⟨hUnopposed, hClean⟩ := hPasses hAdmits
    obtain ⟨v, hAnswer, hPass, hReasons⟩ :=
      DefenderEngine.assess_of_unopposed hEnabled hAdmits hUnopposed stamp
    obtain ⟨final, hFinal, hAllows⟩ :=
      decide_of_pass hClean verdictId record record.phase hPass hReasons
    refine ⟨final, ?_, hAllows⟩
    unfold GovApp.judge
    generalize app.defender.assess text stamp record = assessed at hAnswer ⊢
    obtain ⟨answer, defender⟩ := assessed
    obtain rfl : answer = .ok v := hAnswer
    exact hFinal

/-- A judged call adds the same to the running sum and to the executed amounts: the rules
count it when they admit it, and it is executed exactly then. -/
theorem trackerExact_decide {g : Governed} {stamp : Stamp} {verdictId : String}
    {record : ShieldActionRecord} (hStep : ExactStep text g (.decide stamp verdictId record))
    (h : TrackerExact text g) :
    TrackerExact text (governing text g (.decide stamp verdictId record)).2 := by
  intro runId recipient
  have hTotal : (governing text g (.decide stamp verdictId record)).2.app.defender.total
      runId recipient = (g.app.defender.assess text stamp record).2.total runId recipient := by
    rw [← GovApp.decide_defender text g.app stamp verdictId record]
    rfl
  have hExecuted : (governing text g (.decide stamp verdictId record)).2.executed =
      g.executed ++ allowedCall (g.app.judge text stamp verdictId record).1 record := rfl
  rw [hTotal, hExecuted, DefenderEngine.total_assess, h runId recipient]
  by_cases hMoves : MovesMoney text record
  · obtain ⟨hEnabled, hPasses⟩ := hStep hMoves
    have hJudge := allows_judge stamp verdictId hMoves.1 hEnabled hPasses
    cases hAdmits : g.app.defender.admits text record with
    | true =>
        obtain ⟨final, hFinal, hAllows⟩ := hJudge.2 hAdmits
        rw [hFinal]
        simp only [allowedCall, if_pos hAllows, executedAmounts_append, sentAmount, hMoves.1]
        by_cases hHere : record.runId = runId ∧ recipientOf text record = recipient
        · simp [hHere, PyFloat.sum_concat]
        · simp [hHere]
    | false =>
        have hNone : allowedCall (g.app.judge text stamp verdictId record).1 record = [] := by
          unfold allowedCall
          split
          · rename_i v hAnswer
            rw [if_neg fun hAllows => ?_]
            exact Bool.false_ne_true (hAdmits.symm.trans (hJudge.1 ⟨v, hAnswer, hAllows⟩))
          · rfl
        simp [hNone]
  · rw [sum_executed_of_not_moves hMoves]
    split
    · rename_i hHere
      have hTool : toolName record = "send_money" := by
        have hAdmits := hHere.1
        simp only [DefenderEngine.admits, Bool.and_eq_true, beq_iff_eq] at hAdmits
        exact hAdmits.1.2
      have hZero : amountOf text record = 0 := by
        by_contra hNe
        exact hMoves ⟨hTool, hNe⟩
      rw [hZero, PyFloat.zero_eq, PyFloat.add_finite_zero]
    · rfl

/-- What a human allows moves no money, and the running sums are left alone: a resumption runs
neither rules nor tools. -/
theorem trackerExact_resume {g : Governed} {incidentId : String} {decision : HumanDecision}
    {payload : Json} (hStep : ExactStep text g (.resume incidentId decision payload))
    (h : TrackerExact text g) :
    TrackerExact text (governing text g (.resume incidentId decision payload)).2 := by
  intro runId recipient
  have hDefender := GovApp.resume_defender g.app incidentId decision payload
  cases hThread : Dict.get? g.app.threads incidentId with
  | none =>
      simp only [governing, hThread, hDefender]
      exact h runId recipient
  | some thread =>
      cases thread with
      | finished v =>
          simp only [governing, hThread, hDefender]
          exact h runId recipient
      | failed =>
          simp only [governing, hThread, hDefender]
          exact h runId recipient
      | waiting record v =>
          simp only [governing, hThread, hDefender]
          rw [h runId recipient]
          by_cases hMoves : MovesMoney text record
          · have hRefused : ¬ Allows (resumeDecisionToVerdict decision) := fun hAllows =>
              hStep record v hThread hAllows hMoves
            have hNone :
                allowedCall (g.app.resume incidentId decision payload).1 record = [] := by
              unfold GovApp.resume
              split
              · rfl
              · simp only [hThread, coerceDecision_human, allowedCall, if_neg hRefused]
            rw [hNone, List.append_nil]
          · exact (sum_executed_of_not_moves hMoves _ _ _ _).symm

end Step

/-- **Tracker exactness**: in a run of the governance app whose steps are all exact
ones, the running sum of every run and recipient is the sum of the amounts of the
`send_money` calls that were allowed to be executed. -/
theorem tracker_exact (text : PyText) (cfg : DefenderConfig)
    (scanner codeScanner : InjectionScanner) (structuring : Option StructuringAnalyzer)
    (supervisor : Supervisor) (checkpointer : Bool) (requests : List GovRequest)
    (hSteps : (governing text).Throughout (ExactStep text)
      { app := buildDecideApp (.fresh cfg scanner codeScanner structuring) supervisor
          checkpointer } requests) :
    TrackerExact text ((governing text).run
      { app := buildDecideApp (.fresh cfg scanner codeScanner structuring) supervisor
          checkpointer } requests).2 := by
  refine Machine.run_invariant (governing text) (fun _ g => TrackerExact text g) ?_ hSteps ?_
  · rintro - g request hStep h
    cases request with
    | decide stamp verdictId record => exact trackerExact_decide hStep h
    | resume incidentId decision payload => exact trackerExact_resume hStep h
  · exact fun _ _ => rfl

/-! ## Two runs -/

namespace Sample

/-- A request to judge a sample transfer. -/
def request (recordId recipient subject : String) (amount : Int) : GovRequest :=
  let (stamp, record) := transfer recordId "run-1" recipient subject amount
  .decide stamp (recordId ++ "-final") record

def supervisor : Supervisor where
  policy := {}
  arbiter := conservativeArbiter

/-- The app with a review of amounts above 5000. -/
def governed : Governed where
  app := buildDecideApp
    (.fresh
      { enabled := true
        policy := { cumulativeCap := some (.int 20000), reviewFloor := some (.int 5000) } }
      nullInjectionScanner (codeShieldScanner text) none)
    supervisor true

/-- An executed transfer, and one that a human refuses. -/
def exactRequests : List GovRequest :=
  [request "1" "US13" "rent" 4000, request "2" "US13" "rent" 6000,
   .resume "run-1" (.text "ignore") .null]

/-- A transfer that a human accepts, and one that the code scanner stops. -/
def inexactRequests : List GovRequest :=
  [request "1" "US13" "rent" 6000, .resume "run-1" (.text "accept") .null,
   request "2" "US14" "rm -rf" 100]

def inexact : Governed := ((governing text).run governed inexactRequests).2

end Sample

theorem tracker_exact_sample :
    TrackerExact Sample.text
      ((governing Sample.text).run Sample.governed Sample.exactRequests).2 :=
  tracker_exact Sample.text
    { enabled := true
      policy := { cumulativeCap := some (.int 20000), reviewFloor := some (.int 5000) } }
    nullInjectionScanner (codeShieldScanner Sample.text) none Sample.supervisor true
    Sample.exactRequests (by decide +kernel)

/-- The amount that a human accepted is missing in the sum, and the amount that the
scanner stopped is in it. -/
theorem tracker_inexact :
    (Sample.inexact.app.defender.total "run-1" "US13" = 0 ∧
      PyFloat.sum (executedAmounts Sample.text Sample.inexact.executed "run-1" "US13") =
        .finite 6000) ∧
    (Sample.inexact.app.defender.total "run-1" "US14" = .finite 100 ∧
      PyFloat.sum (executedAmounts Sample.text Sample.inexact.executed "run-1" "US14") = 0) ∧
    ¬ TrackerExact Sample.text Sample.inexact := by
  have hAccepted : Sample.inexact.app.defender.total "run-1" "US13" = 0 ∧
      PyFloat.sum (executedAmounts Sample.text Sample.inexact.executed "run-1" "US13") =
        .finite 6000 := by
    decide +kernel
  refine ⟨hAccepted, by decide +kernel, fun hExact => ?_⟩
  have hEq := hExact "run-1" "US13"
  rw [hAccepted.1, hAccepted.2] at hEq
  exact absurd hEq (by decide +kernel)

end AgentShield.Governance
