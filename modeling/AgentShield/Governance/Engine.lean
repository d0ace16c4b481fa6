import AgentShield.Governance.Scanners

/-!
# The Defender engine

`assess` composes the deterministic rules, two scanners of the free-text subject
and the cross-call analyzer into one verdict.  The engine keeps the running sums
and the traces of each `run_id`.  The amount of a call is added to the running sum
as soon as the rules let the call pass (`admits`), before the scanners and the
analyzer are asked (`findings`).

The two facts about a call that the later modules use are `total_assess`, what a
call does to the running sums, and `assess_decision`, which calls are allowed.
-/

namespace AgentShield.Governance

open AgentShield.Lib AgentShield.Sdk

/-- The configuration of the Defender.  It is off by default, and its policy has caps on one
amount and on the sum to a recipient. -/
structure DefenderConfig where
  enabled : Bool := false
  policy : DefenderPolicy := { amountCap := some (.int 10000), cumulativeCap := some (.int 20000) }
  runScanner : Bool := true
  runInvariant : Bool := true
  runCodeScanner : Bool := true
  deriving DecidableEq

/-- The Defender: its configuration and scanners, with the trackers of sums and the traces of
calls, one of each for a run. -/
structure DefenderEngine where
  cfg : DefenderConfig
  scanner : InjectionScanner
  codeScanner : InjectionScanner
  structuring : Option StructuringAnalyzer
  trackers : Dict String CumulativeRecipientTracker := []
  traces : Dict String (List Json) := []

/-- An engine that has not seen a call. -/
def DefenderEngine.fresh (cfg : DefenderConfig) (scanner codeScanner : InjectionScanner)
    (structuring : Option StructuringAnalyzer) : DefenderEngine where
  cfg := cfg
  scanner := scanner
  codeScanner := codeScanner
  structuring := structuring

/-- What the environment adds to a verdict: the generated id and the time spent. -/
structure Stamp where
  verdictId : String
  latencyMs : PyFloat
  deriving DecidableEq

/-- A reason of the Defender's. -/
def defenderReason (label detail : String) (score : PyFloat) : VerdictReason where
  agent := some .defender
  label := label
  detail := if detail = "" then none else some detail
  score := some score
  modelId := none
  servedVia := some .local

/-- The labels of the reasons that let an action pass. -/
def passLabels : List String :=
  ["amount.ok", "amount.review_ok", "iban.format_ok", "iban.allowlist_ok", "subject.clean",
   "cumulative.ok", "cumulative.disabled", "scanner.clean", "scanner.disabled",
   "defender.disabled"]

/-- The decision that a reason's label stands for. -/
def decisionFor (label : String) : Decision :=
  if label ∈ passLabels then .pass
  else if "scanner.review".toList.isPrefixOf label.toList then .escalate
  else if label = "amount.review_required" then .escalate
  else .block

/-! ## The call that a record states -/

section Record

variable (text : PyText) (record : ShieldActionRecord)

def toolName : String := record.payload.toolName.getD ""

def recipientOf : String := argText text record.payload.toolArgs "recipient"

def subjectOf : String := argText text record.payload.toolArgs "subject"

/-- The amount of a call; 0 where it is no number. -/
def amountOf : PyFloat := (parsedAmount text record.payload.toolArgs).getD 0

/-- The call of a record as an assistant's message, which the analysers read: one tool call
with the record's id, the tool's name and its arguments. -/
def traceEvent : Json :=
  .obj [("role", .str "assistant"),
        ("content", .null),
        ("tool_calls", .arr
          [.obj [("id", .str record.recordId),
                 ("type", .str "function"),
                 ("function", .obj
                   [("name", .str (toolName record)),
                    ("arguments", .obj record.payload.toolArgs)])]])]

end Record

/-! ## Composing a verdict -/

/-- The first of the most severe decisions of the reasons. -/
def composeDecision (reasons : List VerdictReason) : Decision :=
  reasons.foldl
    (fun d r => if severity d < severity (decisionFor r.label) then decisionFor r.label else d)
    .pass

/-- `max(...)` of the scores; 0 without reasons. -/
def composeRisk : List VerdictReason → PyFloat
  | [] => 0
  | r :: rs => rs.foldl (fun risk r' => risk.pyMax (r'.score.getD 0)) (r.score.getD 0)

/-- The Defender's verdict on a record, before the server signs it.  The score is clamped to
the unit interval, and a prevented loss is stated only with a block or a rollback. -/
def defenderVerdict (stamp : Stamp) (record : ShieldActionRecord) (decision : Decision)
    (reasons : List VerdictReason) (risk : PyFloat) (preventedLoss : Option PyFloat) :
    GovernanceVerdict where
  verdictId := stamp.verdictId
  recordId := some record.recordId
  correlationId := record.correlationId
  runId := some record.runId
  decision := decision
  riskScore := (PyFloat.finite 0).pyMax ((PyFloat.finite 1).pyMin risk)
  reasons := reasons
  obligations :=
    { preventedLoss :=
        if decision = .block ∨ decision = .rollback then preventedLoss else none }
  latencyMs := some stamp.latencyMs

namespace DefenderEngine

variable (text : PyText)

/-- The tracker of a run; a run that has none starts with an empty one. -/
def tracker (e : DefenderEngine) (runId : String) : CumulativeRecipientTracker :=
  (Dict.get? e.trackers runId).getD {}

def setTracker (e : DefenderEngine) (runId : String) (t : CumulativeRecipientTracker) :
    DefenderEngine :=
  { e with trackers := Dict.set e.trackers runId t }

/-- The trace of a run with the record's call at its end. -/
def traceWith (e : DefenderEngine) (record : ShieldActionRecord) : List Json :=
  (Dict.get? e.traces record.runId).getD [] ++ [traceEvent record]

/-- The rules' outcome for a record that states a `send_money` call. -/
def outcome (e : DefenderEngine) (record : ShieldActionRecord) : Except PyError RuleOutcome :=
  evaluateSendMoney text record.payload.toolArgs e.cfg.policy (e.tracker record.runId)

/-- The deterministic rules, and the running sum.  Only `send_money` is judged, and an amount
that the rules let pass is added to the sum here, before any scanner has been asked. -/
def applyRules (e : DefenderEngine) (record : ShieldActionRecord) :
    Except PyError (List VerdictReason × Option PyFloat) × DefenderEngine :=
  if toolName record = "send_money" then
    let tracker := e.tracker record.runId
    match e.outcome text record with
    | .error exc => (.error exc, e.setTracker record.runId tracker)
    | .ok outcome =>
        if outcome.decision = .pass ∨ outcome.decision = .alert then
          (.ok ([outcome.toVerdictReason], none),
            e.setTracker record.runId
              (tracker.commit (recipientOf text record) (amountOf text record)))
        else
          (.ok ([outcome.toVerdictReason],
              if outcome.decision = .block ∨ outcome.decision = .rollback then
                outcome.preventedLoss
              else none),
            e.setTracker record.runId tracker)
  else (.ok ([], none), e)

/-- One scanner over the subject. -/
def scanReasons (run : Bool) (scanner : InjectionScanner) (subject : String) :
    Except PyError (List VerdictReason) :=
  if run ∧ subject ≠ "" then
    (scanner subject "subject").map fun f =>
      if f.blocked ∨ f.escalate then [defenderReason f.label f.detail f.score] else []
  else .ok []

/-- The analyzer over the trace of the run, to which the call is appended even where the
analyzer raises.  Every violation is a reason to block. -/
def crossCheck (e : DefenderEngine) (record : ShieldActionRecord) :
    Except PyError (List VerdictReason) × DefenderEngine :=
  match e.structuring with
  | some analyze =>
      if e.cfg.runInvariant ∧ toolName record ≠ "" then
        let trace := e.traceWith record
        ((analyze trace).map fun violations =>
            violations.map fun v => defenderReason v.label v.detail (.finite 1),
          { e with traces := Dict.set e.traces record.runId trace })
      else (.ok [], e)
  | none => (.ok [], e)

/-- `assess`: the rules, the scanners and the cross-check of a record, composed to one
verdict. -/
def assess (e : DefenderEngine) (stamp : Stamp) (record : ShieldActionRecord) :
    Except PyError GovernanceVerdict × DefenderEngine :=
  if e.cfg.enabled = false then
    (.ok (defenderVerdict stamp record .pass
      [defenderReason "defender.disabled" "Defender flag is off (W2)" 0] 0 none), e)
  else
    match e.applyRules text record with
    | (.error exc, e) => (.error exc, e)
    | (.ok (ruled, preventedLoss), e) =>
        match scanReasons e.cfg.runScanner e.scanner (subjectOf text record) with
        | .error exc => (.error exc, e)
        | .ok scanned =>
            match scanReasons e.cfg.runCodeScanner e.codeScanner (subjectOf text record) with
            | .error exc => (.error exc, e)
            | .ok codeScanned =>
                match e.crossCheck record with
                | (.error exc, e) => (.error exc, e)
                | (.ok violations, e) =>
                    let reasons := ruled ++ scanned ++ codeScanned ++ violations
                    (.ok (defenderVerdict stamp record (composeDecision reasons) reasons
                      (composeRisk reasons) preventedLoss), e)

/-! ## What a call does to the running sums -/

/-- The sum for a recipient in a run. -/
def total (e : DefenderEngine) (runId recipient : String) : PyFloat :=
  (e.tracker runId).total recipient

/-- The rules let the record's `send_money` call pass. -/
def admits (e : DefenderEngine) (record : ShieldActionRecord) : Bool :=
  e.cfg.enabled && toolName record == "send_money" &&
    match e.outcome text record with
    | .ok outcome => outcome.decision == .pass || outcome.decision == .alert
    | .error _ => false

/-- What the scanners and the analyzer have against a call, beyond the rules. -/
def findings (e : DefenderEngine) (record : ShieldActionRecord) :
    Except PyError (List VerdictReason) := do
  let scanned ← scanReasons e.cfg.runScanner e.scanner (subjectOf text record)
  let codeScanned ← scanReasons e.cfg.runCodeScanner e.codeScanner (subjectOf text record)
  let violations ← (e.crossCheck record).1
  return scanned ++ codeScanned ++ violations

end DefenderEngine

/-! ## Which decisions the labels give -/

/-- A verdict that lets the call be executed. -/
def Allows (d : Decision) : Prop := d = .pass ∨ d = .alert

instance (d : Decision) : Decidable (Allows d) := inferInstanceAs (Decidable (_ ∨ _))

theorem decisionFor_cases (label : String) :
    decisionFor label = .pass ∨ decisionFor label = .escalate ∨ decisionFor label = .block := by
  unfold decisionFor
  split
  · exact .inl rfl
  · split
    · exact .inr (.inl rfl)
    · split
      · exact .inr (.inl rfl)
      · exact .inr (.inr rfl)

/-- A label that does not pass is at least as severe as an escalation. -/
theorem severity_decisionFor {label : String} (h : decisionFor label ≠ .pass) :
    2 ≤ severity (decisionFor label) := by
  rcases decisionFor_cases label with hPass | hEsc | hBlock
  · exact absurd hPass h
  · rw [hEsc]; decide
  · rw [hBlock]; decide

private theorem allows_fold (reasons : List VerdictReason) (d : Decision) :
    Allows (reasons.foldl
      (fun d r => if severity d < severity (decisionFor r.label) then decisionFor r.label else d)
      d) ↔ Allows d ∧ ∀ r ∈ reasons, decisionFor r.label = .pass := by
  induction reasons generalizing d with
  | nil => simp
  | cons r rs ih =>
      rw [List.foldl_cons, ih, List.forall_mem_cons, ← and_assoc]
      refine and_congr_left fun _ => ?_
      by_cases hPass : decisionFor r.label = .pass
      · simp [hPass, severity]
      · have hSevere := severity_decisionFor hPass
        have hNot : ¬ Allows (decisionFor r.label) := by
          rcases decisionFor_cases r.label with h | h | h
          · exact absurd h hPass
          · rw [h]; decide
          · rw [h]; decide
        constructor
        · intro h
          split at h
          · exact absurd h hNot
          · rename_i hMild
            rcases h with rfl | rfl <;> exact absurd hSevere (by simp [severity] at hMild ⊢; omega)
        · exact fun h => absurd h.2 hPass

/-- **A composed verdict allows the call exactly when every reason is a pass.** -/
theorem allows_composeDecision (reasons : List VerdictReason) :
    Allows (composeDecision reasons) ↔ ∀ r ∈ reasons, decisionFor r.label = .pass := by
  unfold composeDecision
  rw [allows_fold]
  exact and_iff_right (.inl rfl)

/-- Where every reason passes, so does the decision. -/
theorem composeDecision_of_pass {reasons : List VerdictReason}
    (h : ∀ r ∈ reasons, decisionFor r.label = .pass) : composeDecision reasons = .pass := by
  unfold composeDecision
  induction reasons with
  | nil => rfl
  | cons r rs ih =>
      rw [List.foldl_cons, h r List.mem_cons_self]
      exact ih fun r' hMem => h r' (List.mem_cons_of_mem _ hMem)

private theorem fold_ne_rewrite (reasons : List VerdictReason) {d : Decision}
    (h : d ≠ .rewrite) :
    reasons.foldl
      (fun d r => if severity d < severity (decisionFor r.label) then decisionFor r.label else d)
      d ≠ .rewrite := by
  induction reasons generalizing d with
  | nil => exact h
  | cons r rs ih =>
      rw [List.foldl_cons]
      refine ih ?_
      split
      · rcases decisionFor_cases r.label with hd | hd | hd <;> rw [hd] <;> decide
      · exact h

/-- The Defender never asks for a rewrite. -/
theorem composeDecision_ne_rewrite (reasons : List VerdictReason) :
    composeDecision reasons ≠ .rewrite :=
  fold_ne_rewrite reasons (by decide)

/-- The label of the outcome stands for its decision. -/
def LabelAgrees (o : RuleOutcome) : Prop := decisionFor o.label = o.decision

/-- The label of the IBAN check says what its outcome decides. -/
theorem labelAgrees_checkIbanFormat {text : PyText} {iban : String} {o : RuleOutcome}
    (h : checkIbanFormat text iban = .ok o) : LabelAgrees o := by
  unfold checkIbanFormat at h
  cases hValid : isValidIban text iban with
  | error exc => rw [hValid] at h; cases h
  | ok valid =>
      rw [hValid] at h
      cases valid with
      | true => cases h; rfl
      | false => cases h; exact (by decide : decisionFor "iban.invalid" = .block)

theorem labelAgrees_checkIbanAllowlist (text : PyText) (iban : String)
    (allowlist : Option (List String)) : LabelAgrees (checkIbanAllowlist text iban allowlist) := by
  unfold checkIbanAllowlist
  split
  · rfl
  · exact (by decide : decisionFor "iban.not_allowlisted" = .block)

theorem labelAgrees_checkAmountCap (text : PyText) (amount : PyFloat) (cap : Option PyNumber) :
    LabelAgrees (checkAmountCap text amount cap) := by
  cases cap with
  | none => rfl
  | some cap =>
      simp only [checkAmountCap]
      split
      · rfl
      · exact (by decide : decisionFor "amount.over_cap" = .block)

theorem labelAgrees_checkReviewFloor (text : PyText) (amount : PyFloat)
    (floor : Option PyNumber) : LabelAgrees (checkReviewFloor text amount floor) := by
  cases floor with
  | none => rfl
  | some floor =>
      simp only [checkReviewFloor]
      split
      · rfl
      · exact (by decide : decisionFor "amount.review_required" = .escalate)

theorem decisionFor_secret (text : PyText) {p : String × Regex}
    (h : p ∈ subjectSecretPatterns text) :
    decisionFor ("subject.secret." ++ p.1) = .block := by
  have hLabel : p.1 ∈ (subjectSecretPatterns text).map Prod.fst := List.mem_map_of_mem h
  have hAll : ∀ label ∈ ["password", "iban_in_subject", "api_key", "bearer_token", "ssn",
      "hidden_ascii"], decisionFor ("subject.secret." ++ label) = .block := by decide +kernel
  refine hAll p.1 ?_
  simpa only [subjectSecretPatterns, List.map_cons, List.map_nil] using hLabel

/-- The label of a secret found blocks, as its outcome does. -/
theorem labelAgrees_scanSubjectSecrets (text : PyText) (subject : String) :
    LabelAgrees (scanSubjectSecrets text subject) := by
  unfold scanSubjectSecrets
  split
  · rename_i label pattern hFound
    have hSecret : decisionFor ("subject.secret." ++ (label, pattern).1) = .block :=
      decisionFor_secret text (List.mem_of_find?_eq_some hFound)
    unfold LabelAgrees
    exact hSecret
  · rfl

/-- The label of the cumulative check says what its outcome decides. -/
theorem labelAgrees_evaluate (text : PyText) (t : CumulativeRecipientTracker)
    (recipient : String) (amount : PyFloat) (cap : Option PyNumber) :
    LabelAgrees (t.evaluate text recipient amount cap) := by
  cases cap with
  | none => rfl
  | some cap =>
      simp only [CumulativeRecipientTracker.evaluate]
      split
      · exact (by decide : decisionFor "cumulative.structuring" = .block)
      · rfl

/-- The worst outcome is one of the outcomes, and none is more severe.  The induction keeps
the worst of those that have been seen. -/
theorem worst_spec {os : List RuleOutcome} {w : RuleOutcome} (h : worst os = .ok w) :
    w ∈ os ∧ ∀ o ∈ os, severity o.decision ≤ severity w.decision := by
  cases os with
  | nil => cases h
  | cons o os =>
      obtain rfl := Except.ok.inj h
      clear h
      induction os generalizing o with
      | nil => simp
      | cons o' os ih =>
          rw [List.foldl_cons]
          obtain ⟨hMem, hAll⟩ := ih (if o.milder o' then o' else o)
          have hFirst := hAll _ List.mem_cons_self
          have hRest := fun p hp => hAll p (List.mem_cons_of_mem _ hp)
          cases hMilder : o.milder o' with
          | true =>
              simp only [hMilder, if_true] at hMem hFirst hRest ⊢
              have hLe : severity o.decision ≤ severity o'.decision := by
                simp only [RuleOutcome.milder, Bool.or_eq_true, Bool.and_eq_true,
                  decide_eq_true_eq, beq_iff_eq] at hMilder
                omega
              refine ⟨List.mem_cons_of_mem _ hMem, fun p hp => ?_⟩
              rcases List.mem_cons.1 hp with rfl | hp
              · exact hLe.trans hFirst
              rcases List.mem_cons.1 hp with rfl | hp
              · exact hFirst
              · exact hRest p hp
          | false =>
              simp only [hMilder, Bool.false_eq_true, if_false] at hMem hFirst hRest ⊢
              have hLe : severity o'.decision ≤ severity o.decision := by
                simp only [RuleOutcome.milder, Bool.or_eq_false_iff,
                  decide_eq_false_iff_not] at hMilder
                omega
              refine ⟨?_, fun p hp => ?_⟩
              · rcases List.mem_cons.1 hMem with h | h
                · rw [h]; exact List.mem_cons_self
                · exact List.mem_cons_of_mem _ (List.mem_cons_of_mem _ h)
              rcases List.mem_cons.1 hp with rfl | hp
              · exact hFirst
              rcases List.mem_cons.1 hp with rfl | hp
              · exact hLe.trans hFirst
              · exact hRest p hp

theorem labelAgrees_ibanFormatOutcomes {text : PyText} {policy : DefenderPolicy}
    {recipient : String} {os : List RuleOutcome}
    (h : ibanFormatOutcomes text policy recipient = .ok os) : ∀ o ∈ os, LabelAgrees o := by
  unfold ibanFormatOutcomes at h
  split at h
  · cases hCheck : checkIbanFormat text recipient with
    | error exc => rw [hCheck] at h; cases h
    | ok o =>
        rw [hCheck] at h
        obtain rfl := Except.ok.inj h
        simpa using labelAgrees_checkIbanFormat hCheck
  · cases h
    simp

/-- **The label of every rule's outcome stands for its decision.** -/
theorem labelAgrees_ruleOutcomes (text : PyText) (args : List (String × Json))
    (policy : DefenderPolicy) (t : CumulativeRecipientTracker) :
    ∀ o ∈ ruleOutcomes text args policy t, LabelAgrees o := by
  intro o hMem
  unfold ruleOutcomes at hMem
  cases hAmount : parsedAmount text args with
  | none =>
      rw [hAmount] at hMem
      rw [List.mem_singleton.1 hMem]
      exact (by decide : decisionFor "amount.unparseable" = .block)
  | some amount =>
      rw [hAmount] at hMem
      simp only [List.mem_append, List.mem_cons, List.not_mem_nil, or_false] at hMem
      rcases hMem with ((hMem | hMem) | hMem) | rfl | rfl | rfl
      · split at hMem
        · rw [List.mem_singleton.1 hMem]
          exact labelAgrees_scanSubjectSecrets text _
        · cases hMem
      · cases hFormat : ibanFormatOutcomes text policy (argText text args "recipient") with
        | error exc =>
            rw [hFormat] at hMem
            cases hMem
        | ok format =>
            rw [hFormat] at hMem
            exact labelAgrees_ibanFormatOutcomes hFormat o hMem
      · split at hMem
        · rw [List.mem_singleton.1 hMem]
          exact labelAgrees_checkIbanAllowlist text _ _
        · cases hMem
      · exact labelAgrees_checkAmountCap text amount _
      · exact labelAgrees_checkReviewFloor text amount _
      · exact labelAgrees_evaluate text t _ amount _

/-- The answer of the rules is the worst of their outcomes. -/
theorem worst_ruleOutcomes {text : PyText} {args : List (String × Json)}
    {policy : DefenderPolicy} {t : CumulativeRecipientTracker} {o : RuleOutcome}
    (h : evaluateSendMoney text args policy t = .ok o) :
    worst (ruleOutcomes text args policy t) = .ok o := by
  unfold evaluateSendMoney at h
  unfold ruleOutcomes
  dsimp only at h ⊢
  by_cases hOverflow : amountOverflows args = true
  · rw [if_pos hOverflow] at h
    cases h
  rw [if_neg hOverflow] at h
  cases hAmount : parsedAmount text args with
  | none =>
      rw [hAmount] at h
      exact h
  | some amount =>
      rw [hAmount] at h
      cases hFormat : ibanFormatOutcomes text policy (argText text args "recipient") with
      | error exc =>
          simp only [hFormat] at h
          cases h
      | ok format =>
          simp only [hFormat] at h
          exact h

/-- What the rules made of a call: the amount is no number, or the outcome is the worst of
a list that the two limits are in. -/
theorem evaluateSendMoney_cases {text : PyText} {args : List (String × Json)}
    {policy : DefenderPolicy} {t : CumulativeRecipientTracker} {o : RuleOutcome}
    (h : evaluateSendMoney text args policy t = .ok o) :
    (parsedAmount text args = none ∧ o.decision = .block) ∨
    ∃ amount os, parsedAmount text args = some amount ∧ worst os = .ok o ∧
      checkAmountCap text amount policy.amountCap ∈ os ∧
      t.evaluate text (argText text args "recipient") amount policy.cumulativeCap ∈ os := by
  have hWorst := worst_ruleOutcomes h
  cases hAmount : parsedAmount text args with
  | none =>
      unfold ruleOutcomes at hWorst
      rw [hAmount] at hWorst
      cases hWorst
      exact .inl ⟨rfl, rfl⟩
  | some amount =>
      refine .inr ⟨amount, _, rfl, hWorst, ?_, ?_⟩ <;> simp [ruleOutcomes, hAmount]

/-- Whatever rule decides a transfer, its label says what it decides. -/
theorem labelAgrees_evaluateSendMoney {text : PyText} {args : List (String × Json)}
    {policy : DefenderPolicy} {t : CumulativeRecipientTracker} {o : RuleOutcome}
    (h : evaluateSendMoney text args policy t = .ok o) : LabelAgrees o :=
  labelAgrees_ruleOutcomes text args policy t o (worst_spec (worst_ruleOutcomes h)).1

/-- The scanners and the analyzer have nothing against the call. -/
def Unopposed (text : PyText) (e : DefenderEngine) (record : ShieldActionRecord) : Prop :=
  ∃ found, e.findings text record = .ok found ∧ ∀ r ∈ found, decisionFor r.label = .pass

instance (text : PyText) (e : DefenderEngine) (record : ShieldActionRecord) :
    Decidable (Unopposed text e record) :=
  match h : e.findings text record with
  | .ok found =>
      decidable_of_iff (∀ r ∈ found, decisionFor r.label = .pass)
        ⟨fun hAll => ⟨found, h, hAll⟩, fun ⟨_, hFound, hAll⟩ => by
          rw [h] at hFound
          exact Except.ok.inj hFound ▸ hAll⟩
  | .error _ => .isFalse fun ⟨_, hFound, _⟩ => by rw [h] at hFound; cases hFound

/-! ## What a call does -/

namespace DefenderEngine

variable {text : PyText} {e : DefenderEngine} {record : ShieldActionRecord}

/-- Setting the tracker of one run leaves those of the others. -/
@[simp] theorem tracker_setTracker (e : DefenderEngine) (runId runId' : String)
    (t : CumulativeRecipientTracker) :
    (e.setTracker runId t).tracker runId' = if runId = runId' then t else e.tracker runId' := by
  unfold setTracker tracker
  rw [Dict.get?_set]
  split <;> rfl

/-- The rules only touch the trackers. -/
theorem applyRules_snd (text : PyText) (e : DefenderEngine) (record : ShieldActionRecord) :
    (e.applyRules text record).2 =
      { e with trackers := (e.applyRules text record).2.trackers } := by
  unfold applyRules
  split
  · dsimp only
    split
    · rfl
    · split <;> rfl
  · rfl

/-- The analyzer's answer does not depend on the trackers. -/
theorem crossCheck_trackers (e : DefenderEngine) (record : ShieldActionRecord)
    (trackers : Dict String CumulativeRecipientTracker) :
    ({ e with trackers := trackers }).crossCheck record =
      ((e.crossCheck record).1, { (e.crossCheck record).2 with trackers := trackers }) := by
  obtain ⟨cfg, scanner, codeScanner, structuring, _, traces⟩ := e
  unfold crossCheck
  cases structuring with
  | none => rfl
  | some analyze =>
      dsimp only
      split <;> rfl

/-- The cross-check leaves the trackers alone. -/
theorem trackers_crossCheck (e : DefenderEngine) (record : ShieldActionRecord) :
    (e.crossCheck record).2.trackers = e.trackers := by
  unfold crossCheck
  split
  · split <;> rfl
  · rfl

/-- The answer of an enabled engine: the rules, then what was found beyond them, composed into
one verdict; whatever raises first ends the assessment. -/
theorem assess_answer (hEnabled : e.cfg.enabled = true) (stamp : Stamp) :
    (e.assess text stamp record).1 =
      (e.applyRules text record).1.bind fun ruled =>
        (e.findings text record).map fun found =>
          defenderVerdict stamp record (composeDecision (ruled.1 ++ found)) (ruled.1 ++ found)
            (composeRisk (ruled.1 ++ found)) ruled.2 := by
  have hSnd := applyRules_snd text e record
  unfold assess findings
  rw [if_neg (by simp [hEnabled])]
  generalize e.applyRules text record = applied at hSnd ⊢
  obtain ⟨ruled, e'⟩ := applied
  obtain ⟨trackers, rfl⟩ : ∃ trackers, e' = { e with trackers := trackers } := ⟨_, hSnd⟩
  clear hSnd
  cases ruled with
  | error exc => rfl
  | ok ruled =>
      dsimp only
      rw [crossCheck_trackers]
      cases scanReasons e.cfg.runScanner e.scanner (subjectOf text record) with
      | error exc => rfl
      | ok scanned =>
          cases scanReasons e.cfg.runCodeScanner e.codeScanner (subjectOf text record) with
          | error exc => rfl
          | ok codeScanned =>
              obtain ⟨violations, e''⟩ := e.crossCheck record
              cases violations with
              | error exc => rfl
              | ok violations =>
                  simp [Except.bind, Except.map, bind, pure, Except.pure, List.append_assoc]

/-- The running sums after a call are those after the rules. -/
theorem trackers_assess (hEnabled : e.cfg.enabled = true) (stamp : Stamp) :
    (e.assess text stamp record).2.trackers = (e.applyRules text record).2.trackers := by
  unfold assess
  rw [if_neg (by simp [hEnabled])]
  generalize e.applyRules text record = applied
  obtain ⟨ruled, e'⟩ := applied
  cases ruled with
  | error exc => rfl
  | ok ruled =>
      dsimp only
      split
      · rfl
      · split
        · rfl
        · have hKept := trackers_crossCheck e' record
          generalize e'.crossCheck record = checked at hKept ⊢
          obtain ⟨violations, e''⟩ := checked
          cases violations <;> exact hKept

/-- What the rules do with a call that they let pass: one reason, no prevented loss, and the
amount added to the sum of its recipient. -/
theorem applyRules_of_admits (h : e.admits text record = true) :
    ∃ outcome, e.outcome text record = .ok outcome ∧ decisionFor outcome.label = .pass ∧
      e.applyRules text record =
        (.ok ([outcome.toVerdictReason], none),
          e.setTracker record.runId
            ((e.tracker record.runId).commit (recipientOf text record)
              (amountOf text record))) := by
  unfold admits at h
  simp only [Bool.and_eq_true, beq_iff_eq] at h
  obtain ⟨⟨-, hTool⟩, hOutcome⟩ := h
  cases hRules : e.outcome text record with
  | error exc => simp [hRules] at hOutcome
  | ok outcome =>
      simp only [hRules, Bool.or_eq_true, beq_iff_eq] at hOutcome
      have hLabel : decisionFor outcome.label = outcome.decision :=
        labelAgrees_evaluateSendMoney hRules
      refine ⟨outcome, rfl, ?_, ?_⟩
      · rcases decisionFor_cases outcome.label with hPass | hEsc | hBlock
        · exact hPass
        · rw [hLabel] at hEsc
          simp [hEsc] at hOutcome
        · rw [hLabel] at hBlock
          simp [hBlock] at hOutcome
      · unfold applyRules
        simp only [hTool, if_true, hRules, if_pos hOutcome]

/-- The rules leave the sums alone when they do not let a call pass, and a reason
of theirs then stands against a `send_money` call. -/
theorem applyRules_of_not_admits (hEnabled : e.cfg.enabled = true)
    (h : e.admits text record = false) :
    (∀ runId, (e.applyRules text record).2.tracker runId = e.tracker runId) ∧
      (toolName record = "send_money" → ∀ ruled, (e.applyRules text record).1 = .ok ruled →
        ∃ r ∈ ruled.1, decisionFor r.label ≠ .pass) := by
  have hKeep : ∀ runId, (e.setTracker record.runId (e.tracker record.runId)).tracker runId =
      e.tracker runId := by
    intro runId
    rw [tracker_setTracker]
    split
    · rename_i hRun
      rw [hRun]
    · rfl
  by_cases hTool : toolName record = "send_money"
  · unfold admits at h
    simp only [hEnabled, hTool, beq_self_eq_true, Bool.true_and] at h
    unfold applyRules
    simp only [hTool, if_true]
    cases hRules : e.outcome text record with
    | error exc => exact ⟨hKeep, fun _ ruled hOk => by cases hOk⟩
    | ok outcome =>
        simp only [hRules, Bool.or_eq_false_iff, beq_eq_false_iff_ne] at h
        simp only [if_neg (not_or.2 h)]
        refine ⟨hKeep, fun _ ruled hOk => ?_⟩
        obtain rfl := Except.ok.inj hOk
        refine ⟨_, List.mem_cons_self, ?_⟩
        have hLabel : decisionFor outcome.label = outcome.decision :=
          labelAgrees_evaluateSendMoney hRules
        exact fun hPass => h.1 (hLabel.symm.trans hPass)
  · unfold applyRules
    rw [if_neg hTool]
    exact ⟨fun _ => rfl, fun h => absurd h hTool⟩

/-- **What a call does to the running sums**: the amount of an admitted call is
added to the sum of its run and recipient, whatever the verdict will be. -/
theorem total_assess (text : PyText) (e : DefenderEngine) (stamp : Stamp)
    (record : ShieldActionRecord) (runId recipient : String) :
    (e.assess text stamp record).2.total runId recipient =
      if e.admits text record = true ∧ record.runId = runId ∧
          recipientOf text record = recipient then
        e.total runId recipient + amountOf text record
      else e.total runId recipient := by
  cases hEnabled : e.cfg.enabled with
  | false =>
      have hNot : e.admits text record = false := by simp [admits, hEnabled]
      simp [assess, hEnabled, hNot]
  | true =>
      have hTracker : (e.assess text stamp record).2.tracker runId =
          (e.applyRules text record).2.tracker runId := by
        unfold tracker
        rw [trackers_assess hEnabled]
      unfold total
      rw [hTracker]
      cases hAdmits : e.admits text record with
      | false =>
          rw [(applyRules_of_not_admits hEnabled hAdmits).1]
          simp
      | true =>
          obtain ⟨outcome, -, -, hApply⟩ := applyRules_of_admits hAdmits
          rw [hApply, tracker_setTracker]
          by_cases hRun : record.runId = runId
          · subst hRun
            simp only [if_true, CumulativeRecipientTracker.total_commit]
            by_cases hRecipient : recipientOf text record = recipient
            · subst hRecipient
              simp
            · simp [hRecipient]
          · simp [hRun]

/-- **Which calls are allowed**: a `send_money` call is allowed exactly when the
rules let it pass and nothing is found beyond them. -/
theorem allows_assess (hEnabled : e.cfg.enabled = true)
    (hTool : toolName record = "send_money") (stamp : Stamp) :
    (∃ v, (e.assess text stamp record).1 = .ok v ∧ Allows v.decision) ↔
      e.admits text record = true ∧
        Unopposed text e record := by
  unfold Unopposed
  rw [assess_answer hEnabled]
  cases hAdmits : e.admits text record with
  | true =>
      obtain ⟨outcome, -, hLabel, hApply⟩ := applyRules_of_admits hAdmits
      rw [hApply]
      cases e.findings text record with
      | error exc => simp [Except.bind, Except.map]
      | ok found =>
          have hReason : decisionFor outcome.toVerdictReason.label = .pass := hLabel
          simp [Except.bind, Except.map, defenderVerdict, allows_composeDecision, hReason]
  | false =>
      obtain ⟨-, hAgainst⟩ := applyRules_of_not_admits hEnabled hAdmits
      simp only [Bool.false_eq_true, false_and, iff_false, not_exists, not_and]
      intro v hAnswer
      cases hRuled : (e.applyRules text record).1 with
      | error exc => rw [hRuled] at hAnswer; cases hAnswer
      | ok ruled =>
          obtain ⟨r, hMem, hNotPass⟩ := hAgainst hTool ruled hRuled
          rw [hRuled] at hAnswer
          cases hFound : e.findings text record with
          | error exc => rw [hFound] at hAnswer; cases hAnswer
          | ok found =>
              rw [hFound] at hAnswer
              obtain rfl := Except.ok.inj hAnswer
              intro hAllows
              exact hNotPass ((allows_composeDecision _).1 hAllows r
                (List.mem_append_left _ hMem))

/-- A call that the rules admit and nothing opposes passes, for reasons that are all
passes. -/
theorem assess_of_unopposed (hEnabled : e.cfg.enabled = true)
    (hAdmits : e.admits text record = true) (hUnopposed : Unopposed text e record)
    (stamp : Stamp) :
    ∃ v, (e.assess text stamp record).1 = .ok v ∧ v.decision = .pass ∧
      ∀ r ∈ v.reasons, decisionFor r.label = .pass := by
  obtain ⟨outcome, -, hLabel, hApply⟩ := applyRules_of_admits hAdmits
  obtain ⟨found, hFound, hAll⟩ := hUnopposed
  rw [assess_answer hEnabled, hApply, hFound]
  have hReasons : ∀ r ∈ [outcome.toVerdictReason] ++ found, decisionFor r.label = .pass := by
    intro r hMem
    rcases List.mem_append.1 hMem with hMem | hMem
    · rw [List.mem_singleton.1 hMem]
      exact hLabel
    · exact hAll r hMem
  refine ⟨_, rfl, ?_, hReasons⟩
  exact composeDecision_of_pass hReasons

/-- No assessment asks for a rewrite. -/
theorem decision_assess_ne_rewrite {stamp : Stamp} {v : GovernanceVerdict}
    (h : (e.assess text stamp record).1 = .ok v) : v.decision ≠ .rewrite := by
  cases hEnabled : e.cfg.enabled with
  | false =>
      simp only [assess, hEnabled, if_true] at h
      obtain rfl := Except.ok.inj h
      exact (by decide : Decision.pass ≠ .rewrite)
  | true =>
      rw [assess_answer hEnabled] at h
      cases hRuled : (e.applyRules text record).1 with
      | error exc => rw [hRuled] at h; cases h
      | ok ruled =>
          cases hFound : e.findings text record with
          | error exc => rw [hRuled, hFound] at h; cases h
          | ok found =>
              rw [hRuled, hFound] at h
              obtain rfl := Except.ok.inj h
              exact composeDecision_ne_rewrite _

/-- The two limits that an admitted call respects: the cap on its own amount, and the cap on
the running sum to its recipient with the amount included. -/
theorem limits_of_admits (h : e.admits text record = true) :
    (∀ cap, e.cfg.policy.amountCap = some cap → amountOf text record ≤ cap.value) ∧
      ∀ cap, e.cfg.policy.cumulativeCap = some cap →
        ¬ cap.value <
          e.total record.runId (recipientOf text record) + amountOf text record := by
  unfold admits at h
  simp only [Bool.and_eq_true] at h
  obtain ⟨-, hOutcome⟩ := h
  cases hRules : e.outcome text record with
  | error exc => simp [hRules] at hOutcome
  | ok outcome =>
      simp only [hRules, Bool.or_eq_true, beq_iff_eq] at hOutcome
      rcases evaluateSendMoney_cases hRules with ⟨-, hBlock⟩ | ⟨amount, os, hAmount, hWorst,
        hCapMem, hSumMem⟩
      · simp [hBlock] at hOutcome
      have hMild : severity outcome.decision ≤ 1 := by
        rcases hOutcome with h | h <;> simp [h, severity]
      have hAmountOf : amountOf text record = amount := by simp [amountOf, hAmount]
      constructor
      · intro cap hCap
        have hLe := ((worst_spec hWorst).2 _ hCapMem).trans hMild
        rw [hCap] at hLe
        by_contra hOver
        rw [hAmountOf] at hOver
        simp [checkAmountCap, hOver, severity] at hLe
      · intro cap hCap hOver
        have hLe := ((worst_spec hWorst).2 _ hSumMem).trans hMild
        rw [hCap] at hLe
        rw [hAmountOf] at hOver
        have hProjected : cap.value <
            (e.tracker record.runId).total (argText text record.payload.toolArgs "recipient") +
              amount := hOver
        simp [CumulativeRecipientTracker.evaluate, hProjected, severity] at hLe

/-! ## What a call leaves alone -/

/-- The trace of a run so far. -/
def trace (e : DefenderEngine) (runId : String) : List Json :=
  (Dict.get? e.traces runId).getD []

/-- The engine as it was, apart from what it keeps for one run: trackers and traces of other
runs are the same. -/
structure Keeps (runId : String) (e e' : DefenderEngine) : Prop where
  cfg : e'.cfg = e.cfg
  scanner : e'.scanner = e.scanner
  codeScanner : e'.codeScanner = e.codeScanner
  structuring : e'.structuring = e.structuring
  tracker : ∀ runId', runId' ≠ runId → e'.tracker runId' = e.tracker runId'
  trace : ∀ runId', runId' ≠ runId → e'.trace runId' = e.trace runId'

theorem Keeps.refl (runId : String) (e : DefenderEngine) : Keeps runId e e :=
  ⟨rfl, rfl, rfl, rfl, fun _ _ => rfl, fun _ _ => rfl⟩

/-- What is kept twice is kept. -/
theorem Keeps.trans {runId : String} {e₁ e₂ e₃ : DefenderEngine} (h : Keeps runId e₁ e₂)
    (h' : Keeps runId e₂ e₃) : Keeps runId e₁ e₃ where
  cfg := h'.cfg.trans h.cfg
  scanner := h'.scanner.trans h.scanner
  codeScanner := h'.codeScanner.trans h.codeScanner
  structuring := h'.structuring.trans h.structuring
  tracker runId' hNe := (h'.tracker runId' hNe).trans (h.tracker runId' hNe)
  trace runId' hNe := (h'.trace runId' hNe).trans (h.trace runId' hNe)

theorem keeps_setTracker (e : DefenderEngine) (runId : String)
    (t : CumulativeRecipientTracker) : Keeps runId e (e.setTracker runId t) where
  cfg := rfl
  scanner := rfl
  codeScanner := rfl
  structuring := rfl
  tracker runId' hNe := by rw [tracker_setTracker, if_neg (Ne.symm hNe)]
  trace _ _ := rfl

/-- The rules count in the tracker of the record's run and in no other. -/
theorem keeps_applyRules (text : PyText) (e : DefenderEngine) (record : ShieldActionRecord) :
    Keeps record.runId e (e.applyRules text record).2 := by
  unfold applyRules
  split
  · dsimp only
    split
    · exact keeps_setTracker e _ _
    · split <;> exact keeps_setTracker e _ _
  · exact Keeps.refl _ e

/-- The cross-check traces in the record's run and in no other. -/
theorem keeps_crossCheck (e : DefenderEngine) (record : ShieldActionRecord) :
    Keeps record.runId e (e.crossCheck record).2 := by
  unfold crossCheck
  split
  · split
    · refine ⟨rfl, rfl, rfl, rfl, fun _ _ => rfl, fun runId' hNe => ?_⟩
      unfold DefenderEngine.trace
      rw [Dict.get?_set_ne _ _ (Ne.symm hNe)]
    · exact Keeps.refl _ e
  · exact Keeps.refl _ e

/-- **A call touches nothing but its own run.** -/
theorem keeps_assess (text : PyText) (e : DefenderEngine) (stamp : Stamp)
    (record : ShieldActionRecord) :
    Keeps record.runId e (e.assess text stamp record).2 := by
  have hRules := keeps_applyRules text e record
  unfold assess
  split
  · exact Keeps.refl _ e
  · generalize e.applyRules text record = applied at hRules ⊢
    obtain ⟨ruled, e'⟩ := applied
    cases ruled with
    | error exc => exact hRules
    | ok ruled =>
        dsimp only
        split
        · exact hRules
        · split
          · exact hRules
          · have hChecked := keeps_crossCheck e' record
            generalize e'.crossCheck record = checked at hChecked ⊢
            obtain ⟨violations, e''⟩ := checked
            cases violations <;> exact hRules.trans hChecked

end DefenderEngine

namespace Sample

/-- Text functions for ASCII, in which no text is a number and every character is its own
capital. -/
def text : PyText where
  repr _ := "0.0"
  ryu _ := "0.0"
  float _ := none
  reprValue _ := "..."
  upper s := s
  isAlnum := alphanumeric
  isDecimal := Regex.inRange '0' '9'
  isSpace c := c == ' '

/-- A transfer before its execution, with the verdict's id and its latency. -/
def transfer (recordId runId recipient subject : String) (amount : Int) :
    Stamp × ShieldActionRecord :=
  (⟨recordId ++ "-verdict", .finite 1⟩,
   { recordId := recordId
     correlationId := recordId
     runId := runId
     issuedAt := 0
     nonce := recordId
     phase := .preExec
     payload :=
       { toolName := some "send_money"
         toolArgs := [("recipient", .str recipient), ("amount", .int amount),
           ("subject", .str subject)] } })

/-- The engine as it is built by default, with the flag on. -/
def engine : DefenderEngine :=
  .fresh { enabled := true } nullInjectionScanner (codeShieldScanner text) none

end Sample

end AgentShield.Governance
