import AgentShield.Governance.Engine

/-!
# The engine agrees with its rules

`assess` reduces every outcome to a reason and computes the decision from the labels of
the reasons again.  With the scanners and the analyzers of the package nothing is lost on
that way: the decision is the most severe of those of the rules, the findings and the
violations.  What the engine does not always do is answer.  A rule may raise, on an
IBAN that a line end follows and on an amount that no float is near.
-/

namespace AgentShield.Governance

open AgentShield.Lib AgentShield.Sdk

/-! ## When the IBAN check raises -/

section Iban

variable {text : PyText} {iban : String}

/-- A recipient as the IBAN check reads it. -/
def normalIban (text : PyText) (iban : String) : String :=
  text.upper (String.ofList (iban.toList.filter (· ≠ ' ')))

/-- An IBAN by its length and its pattern that ends with a line end: the pattern's `$`
matches before it. -/
structure LineEndIban (text : PyText) (iban : String) : Prop where
  length : 15 ≤ (normalIban text iban).toList.length ∧ (normalIban text iban).toList.length ≤ 34
  shape : ibanRe.matchStart (normalIban text iban) = true
  lineEnd : '\n' ∈ (normalIban text iban).toList

/-- The letters and digits of an IBAN. -/
def IbanChar (c : Char) : Prop :=
  (Regex.inRange 'A' 'Z' c || Regex.inRange '0' '9' c) = true

/-- The digits that a character of an IBAN stands for. -/
def ibanDigits (ch : Char) : List Char :=
  if Regex.inRange 'A' 'Z' ch then (toString (ch.toNat - 55)).toList else [ch]

private theorem digits_of_upper {ch : Char} (h : Regex.inRange 'A' 'Z' ch = true) :
    (toString (ch.toNat - 55)).toList.all (Regex.inRange '0' '9') = true := by
  have hSmall : ∀ n, n < 36 → (toString n).toList.all (Regex.inRange '0' '9') = true := by
    decide +kernel
  apply hSmall
  unfold Regex.inRange at h
  rw [Bool.and_eq_true, decide_eq_true_eq, decide_eq_true_eq] at h
  have hHigh : ch.toNat ≤ 90 := h.2
  omega

theorem ibanDigits_digits {ch : Char} (h : IbanChar ch) :
    (ibanDigits ch).all (Regex.inRange '0' '9') = true := by
  unfold IbanChar at h
  unfold ibanDigits
  by_cases hUpper : Regex.inRange 'A' 'Z' ch = true
  · rw [if_pos hUpper]
    exact digits_of_upper hUpper
  · rw [if_neg hUpper]
    rw [Bool.not_eq_true] at hUpper
    simpa [hUpper] using h

private theorem ibanRe_only : ∃ rs, ibanRe = Regex.concat (rs ++ [.atEnd]) ∧
    ∀ r ∈ rs, Regex.Only IbanChar r := by
  have hUpper : Regex.Only IbanChar upperLetter := fun x hx => by simp [IbanChar, hx]
  have hDigit : Regex.Only IbanChar asciiDigit := fun x hx => by simp [IbanChar, hx]
  have hBoth : Regex.Only IbanChar upperOrDigit := fun x hx => hx
  refine ⟨[Regex.times 2 upperLetter, Regex.times 2 asciiDigit,
    Regex.between 11 30 upperOrDigit], rfl, ?_⟩
  intro r hMem
  simp only [List.mem_cons, List.not_mem_nil, or_false] at hMem
  rcases hMem with rfl | rfl | rfl
  · exact Regex.only_times hUpper 2
  · exact Regex.only_times hDigit 2
  · exact Regex.only_between hBoth 11 30

/-- A text of the IBAN pattern without a line end has letters and digits only. -/
theorem ibanChar_of_matchStart {s : String} (hShape : ibanRe.matchStart s = true)
    (hLine : '\n' ∉ s.toList) : ∀ c ∈ s.toList, IbanChar c := by
  obtain ⟨rs, hRe, hOnly⟩ := ibanRe_only
  rw [hRe] at hShape
  obtain ⟨consumed, hText, hAll⟩ := Regex.consumed_of_matchStart hOnly hShape
  intro c hc
  rcases hText with hText | hText
  · exact hAll c (hText ▸ hc)
  · exact absurd (hText ▸ by simp) hLine

/-- The digits of a text of the IBAN pattern are a number unless a line end is among them. -/
theorem intOfDigits_rearranged {s : String} (hShape : ibanRe.matchStart s = true) :
    intOfDigits ((s.toList.drop 4 ++ s.toList.take 4).flatMap ibanDigits) = none ↔
      '\n' ∈ s.toList := by
  -- the characters are the same after the rearrangement
  have hMem : ∀ c, c ∈ s.toList.drop 4 ++ s.toList.take 4 ↔ c ∈ s.toList := by
    intro c
    rw [List.mem_append, or_comm, ← List.mem_append, List.take_append_drop]
  unfold intOfDigits
  constructor
  · intro hNone
    by_contra hLine
    have hDigits : ((s.toList.drop 4 ++ s.toList.take 4).flatMap ibanDigits).all
        (Regex.inRange '0' '9') = true := by
      rw [List.all_flatMap, List.all_eq_true]
      intro c hc
      exact ibanDigits_digits (ibanChar_of_matchStart hShape hLine c ((hMem c).1 hc))
    rw [if_pos hDigits] at hNone
    cases hNone
  · intro hLine
    apply if_neg
    rw [List.all_eq_true]
    intro hAll
    have hDigit := hAll '\n' (List.mem_flatMap.2 ⟨'\n', (hMem _).2 hLine, by decide⟩)
    exact absurd hDigit (by decide)

/-- **The IBAN check answers unless a line end follows the IBAN**: only there does the pattern
match a text that is no number. -/
theorem isValidIban_answers :
    (∃ valid, isValidIban text iban = .ok valid) ↔ ¬ LineEndIban text iban := by
  by_cases hBad : ¬ (15 ≤ (normalIban text iban).toList.length ∧
      (normalIban text iban).toList.length ≤ 34) ∨
      ibanRe.matchStart (normalIban text iban) = false
  · have hFalse : isValidIban text iban = .ok false := if_pos hBad
    refine ⟨fun _ hLine => ?_, fun _ => ⟨false, hFalse⟩⟩
    rcases hBad with hLength | hShape
    · exact hLength hLine.length
    · rw [hLine.shape] at hShape
      cases hShape
  · have hRead : isValidIban text iban = _ := if_neg hBad
    obtain ⟨hLength, hShape⟩ := not_or.1 hBad
    rw [not_not] at hLength
    rw [Bool.not_eq_false] at hShape
    have hNone := intOfDigits_rearranged hShape
    rw [hRead]
    split
    · rename_i n hNumber
      refine ⟨fun _ hLine => ?_, fun _ => ⟨_, rfl⟩⟩
      cases hNumber.symm.trans (hNone.2 hLine.lineEnd)
    · rename_i hNumber
      have hLine : LineEndIban text iban := ⟨hLength, hShape, hNone.1 hNumber⟩
      constructor
      · rintro ⟨valid, hValid⟩
        cases hValid
      · exact fun hNot => absurd hLine hNot

end Iban

/-! ## When the rules raise -/

section SendMoney

variable {text : PyText} {args : List (String × Json)} {policy : DefenderPolicy}
  {t : CumulativeRecipientTracker}

/-- The conversion of the amount or the IBAN check raises. -/
def RulesRaise (text : PyText) (args : List (String × Json)) (policy : DefenderPolicy) : Prop :=
  amountOverflows args = true ∨
    (parsedAmount text args).isSome = true ∧ policy.requireValidIban = true ∧
      LineEndIban text (argText text args "recipient")

theorem worst_answers {os : List RuleOutcome} (h : os ≠ []) : ∃ o, worst os = .ok o := by
  cases os with
  | nil => exact absurd rfl h
  | cons o os => exact ⟨_, rfl⟩

theorem ibanFormatOutcomes_answers (recipient : String) :
    (∃ os, ibanFormatOutcomes text policy recipient = .ok os) ↔
      ¬ (policy.requireValidIban = true ∧ LineEndIban text recipient) := by
  unfold ibanFormatOutcomes
  by_cases hAsked : policy.requireValidIban = true
  · rw [if_pos hAsked]
    have hIff : (∃ valid, isValidIban text recipient = .ok valid) ↔
        ¬ LineEndIban text recipient := isValidIban_answers
    unfold checkIbanFormat
    cases hValid : isValidIban text recipient with
    | error exc =>
        rw [hValid] at hIff
        have hLine : LineEndIban text recipient := by
          by_contra hNot
          obtain ⟨valid, hOk⟩ := hIff.2 hNot
          cases hOk
        constructor
        · intro ⟨os, hOk⟩
          cases hOk
        · exact fun hNot => absurd ⟨hAsked, hLine⟩ hNot
    | ok valid =>
        have hNot := hIff.1 ⟨valid, hValid⟩
        refine ⟨fun _ hBoth => hNot hBoth.2, fun _ => ?_⟩
        cases valid <;> exact ⟨_, rfl⟩
  · rw [if_neg hAsked]
    exact ⟨fun _ hBoth => hAsked hBoth.1, fun _ => ⟨[], rfl⟩⟩

/-- **The rules answer unless one of them raises**: an amount that is too large for a float,
or an IBAN with a line end where its format is checked. -/
theorem evaluateSendMoney_answers :
    (∃ o, evaluateSendMoney text args policy t = .ok o) ↔ ¬ RulesRaise text args policy := by
  unfold evaluateSendMoney RulesRaise
  dsimp only
  by_cases hOverflow : amountOverflows args = true
  · rw [if_pos hOverflow]
    constructor
    · rintro ⟨o, hOk⟩
      cases hOk
    · exact fun hNot => absurd (.inl hOverflow) hNot
  · rw [if_neg hOverflow]
    cases hAmount : parsedAmount text args with
    | none => simp [hOverflow, pure, Except.pure]
    | some amount =>
        have hIff :
            (∃ os, ibanFormatOutcomes text policy (argText text args "recipient") = .ok os) ↔
            ¬ (policy.requireValidIban = true ∧ LineEndIban text (argText text args "recipient")) :=
          ibanFormatOutcomes_answers (argText text args "recipient")
        simp only [hOverflow, Option.isSome_some, true_and, Bool.false_eq_true, false_or]
        rw [← hIff]
        cases hFormat : ibanFormatOutcomes text policy (argText text args "recipient") with
        | error exc =>
            constructor
            · rintro ⟨o, hOk⟩
              cases hOk
            · rintro ⟨os, hOk⟩
              cases hOk
        | ok format => exact ⟨fun _ => ⟨format, rfl⟩, fun _ => worst_answers (by simp)⟩

end SendMoney

/-! ## The decisions that a verdict is made of -/

/-- What a finding asks for. -/
def ScanFinding.decision (f : ScanFinding) : Decision :=
  if f.blocked then .block else if f.escalate then .escalate else .pass

/-- The decision of a scanner, where it is asked and answers. -/
def scanDecisions (run : Bool) (scanner : InjectionScanner) (subject : String) :
    List Decision :=
  if run ∧ subject ≠ "" then
    match scanner subject "subject" with
    | .ok f => [f.decision]
    | .error _ => []
  else []

namespace DefenderEngine

variable (text : PyText) (e : DefenderEngine) (record : ShieldActionRecord)

/-- The decisions of the rules. -/
def ruleDecisions : List Decision :=
  if toolName record = "send_money" then
    (ruleOutcomes text record.payload.toolArgs e.cfg.policy
      (e.tracker record.runId)).map (·.decision)
  else []

/-- A violation over the trace of the run asks for a block.  Without an analyzer, a tool name
or the invariant switched on there is none, and an analyzer that raises counts as none. -/
def violationDecisions : List Decision :=
  match e.structuring with
  | some analyze =>
      if e.cfg.runInvariant ∧ toolName record ≠ "" then
        match analyze (e.traceWith record) with
        | .ok violations => violations.map fun _ => .block
        | .error _ => []
      else []
  | none => []

/-- The decisions of all that is asked.  A disabled engine asks nothing. -/
def decisions : List Decision :=
  if e.cfg.enabled then
    e.ruleDecisions text record ++
      (scanDecisions e.cfg.runScanner e.scanner (subjectOf text record) ++
        scanDecisions e.cfg.runCodeScanner e.codeScanner (subjectOf text record) ++
        e.violationDecisions record)
  else []

/-- All that is asked answers: no rule raises, and neither does a scanner or the
analyzer. -/
structure Answers : Prop where
  rules : toolName record = "send_money" →
    ¬ RulesRaise text record.payload.toolArgs e.cfg.policy
  scanner : e.cfg.runScanner = true → subjectOf text record ≠ "" →
    ∃ f, e.scanner (subjectOf text record) "subject" = .ok f
  codeScanner : e.cfg.runCodeScanner = true → subjectOf text record ≠ "" →
    ∃ f, e.codeScanner (subjectOf text record) "subject" = .ok f
  structuring : ∀ analyze, e.structuring = some analyze → e.cfg.runInvariant = true →
    toolName record ≠ "" → ∃ violations, analyze (e.traceWith record) = .ok violations

end DefenderEngine

/-- The verdict is the most severe of the decisions: a block wins, an escalation is not
lost, and a pass has no objection against it.  A loss is prevented by a block only. -/
structure WorstWins (ds : List Decision) (v : GovernanceVerdict) : Prop where
  bound : ∀ d ∈ ds, severity d ≤ severity v.decision
  given : v.decision = .pass ∨ v.decision ∈ ds
  block : .block ∈ ds → v.decision = .block
  escalate : .escalate ∈ ds → v.decision = .escalate ∨ v.decision = .block
  pass : v.decision = .pass → ∀ d ∈ ds, d = .pass
  preventedLoss : v.obligations.preventedLoss ≠ none → v.decision = .block

/-! ## Reasons that stand for decisions -/

/-- The reasons hold all that the decisions object to, and nothing else. -/
structure Represents (reasons : List VerdictReason) (ds : List Decision) : Prop where
  covers : ∀ d ∈ ds, d = .pass ∨ ∃ r ∈ reasons,
    severity d ≤ severity (decisionFor r.label) ∧ decisionFor r.label ≠ .pass
  given : ∀ r ∈ reasons, decisionFor r.label = .pass ∨ decisionFor r.label ∈ ds

theorem Represents.nil : Represents [] [] where
  covers d hd := by cases hd
  given r hr := by cases hr

theorem Represents.append {rs rs' : List VerdictReason} {ds ds' : List Decision}
    (h : Represents rs ds) (h' : Represents rs' ds') : Represents (rs ++ rs') (ds ++ ds') where
  covers := by
    intro d hd
    rcases List.mem_append.1 hd with hd | hd
    · rcases h.covers d hd with hPass | ⟨r, hr, hSevere⟩
      · exact .inl hPass
      · exact .inr ⟨r, List.mem_append_left _ hr, hSevere⟩
    · rcases h'.covers d hd with hPass | ⟨r, hr, hSevere⟩
      · exact .inl hPass
      · exact .inr ⟨r, List.mem_append_right _ hr, hSevere⟩
  given := by
    intro r hr
    rcases List.mem_append.1 hr with hr | hr
    · exact (h.given r hr).imp_right (List.mem_append_left _)
    · exact (h'.given r hr).imp_right (List.mem_append_right _)

/-- One reason whose label stands for one decision. -/
theorem Represents.single {r : VerdictReason} {d : Decision} (h : decisionFor r.label = d) :
    Represents [r] [d] where
  covers := by
    intro d' hd
    rw [List.mem_singleton.1 hd]
    by_cases hPass : d = .pass
    · exact .inl hPass
    · exact .inr ⟨r, List.mem_cons_self, by rw [h], by rw [h]; exact hPass⟩
  given := by
    intro r' hr
    rw [List.mem_singleton.1 hr, h]
    exact .inr List.mem_cons_self

/-- The composed decision is the worst that the reasons stand for: one of them stands for it,
or there is nothing worse than a pass, and none stands for anything more severe. -/
theorem composeDecision_spec (reasons : List VerdictReason) :
    (composeDecision reasons = .pass ∨
        ∃ r ∈ reasons, decisionFor r.label = composeDecision reasons) ∧
      ∀ r ∈ reasons, severity (decisionFor r.label) ≤ severity (composeDecision reasons) := by
  unfold composeDecision
  induction reasons using List.reverseRecOn with
  | nil => simp
  | append_singleton rs r ih =>
      rw [List.foldl_append, List.foldl_cons, List.foldl_nil]
      generalize rs.foldl
        (fun d r => if severity d < severity (decisionFor r.label) then decisionFor r.label
          else d) .pass = d at ih ⊢
      obtain ⟨hGiven, hBound⟩ := ih
      by_cases hWorse : severity d < severity (decisionFor r.label)
      · rw [if_pos hWorse]
        refine ⟨.inr ⟨r, by simp, rfl⟩, fun r' hr' => ?_⟩
        rcases List.mem_append.1 hr' with hr' | hr'
        · exact (hBound r' hr').trans hWorse.le
        · rw [List.mem_singleton.1 hr']
      · rw [if_neg hWorse]
        refine ⟨hGiven.imp_right fun ⟨r', hr', hd⟩ => ⟨r', List.mem_append_left _ hr', hd⟩, ?_⟩
        intro r' hr'
        rcases List.mem_append.1 hr' with hr' | hr'
        · exact hBound r' hr'
        · rw [List.mem_singleton.1 hr']
          omega

/-- **The verdict of reasons that stand for decisions is the worst of these.**  Labels and
scores are made so that the composition of the reasons is the maximum of the decisions. -/
theorem Represents.worstWins {reasons : List VerdictReason} {ds : List Decision}
    (h : Represents reasons ds) (stamp : Stamp) (record : ShieldActionRecord)
    (loss : Option PyFloat) :
    WorstWins ds (defenderVerdict stamp record (composeDecision reasons) reasons
      (composeRisk reasons) loss) := by
  obtain ⟨hGiven, hBound⟩ := composeDecision_spec reasons
  have hThree : composeDecision reasons = .pass ∨ composeDecision reasons = .escalate ∨
      composeDecision reasons = .block := by
    rcases hGiven with hPass | ⟨r, -, hLabel⟩
    · exact .inl hPass
    · rw [← hLabel]
      exact decisionFor_cases r.label
  have hSevere : ∀ d ∈ ds, severity d ≤ severity (composeDecision reasons) := by
    intro d hd
    rcases h.covers d hd with rfl | ⟨r, hr, hLe, -⟩
    · exact Nat.zero_le _
    · exact hLe.trans (hBound r hr)
  have hBlock : severity .block = 3 := rfl
  have hEscalate : severity .escalate = 2 := rfl
  have hPass : severity .pass = 0 := rfl
  refine ⟨hSevere, ?_, ?_, ?_, ?_, ?_⟩
  · show composeDecision reasons = .pass ∨ composeDecision reasons ∈ ds
    rcases hGiven with hPass | ⟨r, hr, hLabel⟩
    · exact .inl hPass
    · rw [← hLabel]
      exact h.given r hr
  · intro hd
    have hLe := hSevere _ hd
    show composeDecision reasons = .block
    rcases hThree with hc | hc | hc <;> rw [hc] at hLe ⊢ <;> omega
  · intro hd
    have hLe := hSevere _ hd
    show composeDecision reasons = .escalate ∨ composeDecision reasons = .block
    rcases hThree with hc | hc | hc
    · rw [hc] at hLe
      omega
    · exact .inl hc
    · exact .inr hc
  · intro hc d hd
    rcases h.covers d hd with hd | ⟨r, hr, -, hNot⟩
    · exact hd
    · have hLow := hBound r hr
      have hHigh := severity_decisionFor hNot
      have hc' : composeDecision reasons = .pass := hc
      rw [hc'] at hLow
      omega
  · intro hLoss
    show composeDecision reasons = .block
    by_contra hNot
    apply hLoss
    show (if composeDecision reasons = .block ∨ composeDecision reasons = .rollback then loss
      else none) = none
    apply if_neg
    rintro (hc | hc)
    · exact hNot hc
    · rw [hc] at hThree
      rcases hThree with h | h | h <;> cases h

/-! ## The scanners of the package -/

section Shipped

variable {text : PyText} {subject : String} {f : ScanFinding}

/-- A finding says nothing against the subject, or its label stands for what it asks. -/
def ScanFinding.Agrees (f : ScanFinding) : Prop :=
  f.decision ≠ .pass → decisionFor f.label = f.decision

private theorem agrees_fake {triggers : List String}
    (h : fakeInjectionScanner text triggers subject "subject" = .ok f) : f.Agrees := by
  unfold fakeInjectionScanner at h
  split at h
  · obtain rfl := Except.ok.inj h
    exact fun _ => (by decide : decisionFor ("scanner.injection." ++ "subject") = .block)
  · obtain rfl := Except.ok.inj h
    exact fun hNot => absurd rfl hNot

private theorem agrees_finding (result : ScanResult) : (result.finding "subject").Agrees := by
  unfold ScanResult.finding
  cases result.decision with
  | allow => exact fun hNot => absurd rfl hNot
  | humanInTheLoopRequired =>
      exact fun _ => (by decide : decisionFor ("scanner.review." ++ "subject") = .escalate)
  | block =>
      exact fun _ => (by decide : decisionFor ("scanner.injection." ++ "subject") = .block)

private theorem agrees_scanCode : (scanCode text subject "subject").Agrees := by
  unfold scanCode
  split
  · exact fun _ => (by decide : decisionFor ("scanner.code." ++ "subject") = .block)
  · exact fun hNot => absurd rfl hNot

/-- **The label of a shipped scanner's finding stands for what the finding asks.** -/
theorem ShippedScanner.agrees (scanner : ShippedScanner)
    (h : scanner.scanText text subject "subject" = .ok f) : f.Agrees := by
  cases scanner with
  | null =>
      obtain rfl := Except.ok.inj h
      exact fun hNot => absurd rfl hNot
  | fake triggers => exact agrees_fake h
  | llamaFirewall scanAsync =>
      have hMap : (scanAsync subject).map (fun result => result.finding "subject") = .ok f := h
      cases hScan : scanAsync subject with
      | error exc =>
          rw [hScan] at hMap
          cases hMap
      | ok result =>
          rw [hScan] at hMap
          obtain rfl := Except.ok.inj hMap
          exact agrees_finding result
  | codeShield =>
      obtain rfl := Except.ok.inj h
      exact agrees_scanCode

/-- The label of a shipped analyzer's violation stands for a block. -/
theorem ShippedAnalyzer.agrees (analyzer : ShippedAnalyzer) {trace : List Json}
    {violations : List PolicyViolation} (h : analyzer.analyze trace = .ok violations) :
    ∀ v ∈ violations, decisionFor v.label = .block := by
  cases analyzer with
  | fake threshold =>
      have hFake : fakeStructuringAnalyzer threshold trace = .ok violations := h
      unfold fakeStructuringAnalyzer at hFake
      dsimp only at hFake
      split at hFake
      · obtain rfl := Except.ok.inj hFake
        intro v hv
        rw [List.mem_singleton.1 hv]
        exact (by decide : decisionFor "invariant.structuring" = .block)
      · obtain rfl := Except.ok.inj hFake
        intro v hv
        cases hv
  | localPolicy errors =>
      have hMap : (errors trace).map
          (fun es => es.map fun e => ({ label := "invariant.policy", detail := e } :
            PolicyViolation)) = .ok violations := h
      cases hErrors : errors trace with
      | error exc =>
          rw [hErrors] at hMap
          cases hMap
      | ok es =>
          rw [hErrors] at hMap
          obtain rfl := Except.ok.inj hMap
          intro v hv
          obtain ⟨e, -, rfl⟩ := List.mem_map.1 hv
          exact (by decide : decisionFor "invariant.policy" = .block)

/-- The reasons of a scanner stand for its decision: a block or an escalation has a reason
whose label says so, and a clean text has none that counts. -/
theorem represents_scanReasons (scanner : ShippedScanner) {run : Bool}
    {reasons : List VerdictReason}
    (h : DefenderEngine.scanReasons run (scanner.scanText text) subject = .ok reasons) :
    Represents reasons (scanDecisions run (scanner.scanText text) subject) := by
  unfold DefenderEngine.scanReasons at h
  unfold scanDecisions
  by_cases hAsked : run = true ∧ subject ≠ ""
  · rw [if_pos hAsked] at h ⊢
    cases hScan : scanner.scanText text subject "subject" with
    | error exc =>
        rw [hScan] at h
        cases h
    | ok f =>
        rw [hScan] at h
        obtain rfl := Except.ok.inj h
        have hAgrees := scanner.agrees hScan
        dsimp only
        by_cases hObjects : f.blocked = true ∨ f.escalate = true
        · rw [if_pos hObjects]
          apply Represents.single
          show decisionFor f.label = f.decision
          apply hAgrees
          unfold ScanFinding.decision
          rcases hObjects with hb | he
          · simp [hb]
          · cases hb : f.blocked <;> simp [he]
        · rw [if_neg hObjects]
          obtain ⟨hb, he⟩ := not_or.1 hObjects
          have hPass : f.decision = .pass := by simp [ScanFinding.decision, hb, he]
          refine ⟨fun d hd => .inl ?_, fun r hr => by cases hr⟩
          rw [List.mem_singleton.1 hd]
          exact hPass
  · rw [if_neg hAsked] at h ⊢
    obtain rfl := Except.ok.inj h
    exact Represents.nil

theorem scanReasons_answers {run : Bool} {scanner : InjectionScanner} :
    (∃ reasons, DefenderEngine.scanReasons run scanner subject = .ok reasons) ↔
      (run = true → subject ≠ "" → ∃ f, scanner subject "subject" = .ok f) := by
  unfold DefenderEngine.scanReasons
  by_cases hAsked : run = true ∧ subject ≠ ""
  · rw [if_pos hAsked]
    cases hScan : scanner subject "subject" with
    | error exc => simp [hAsked.1, hAsked.2, Except.map]
    | ok f => simp [Except.map]
  · rw [if_neg hAsked]
    exact ⟨fun _ hRun hSubject => absurd ⟨hRun, hSubject⟩ hAsked, fun _ => ⟨[], rfl⟩⟩

end Shipped

/-! ## The engine of the package -/

namespace DefenderEngine

variable {text : PyText} {record : ShieldActionRecord}

/-- The reasons of the rules stand for their decisions: of several objections one reason is
given, that of the worst, and it is as severe as every other. -/
theorem represents_applyRules {e : DefenderEngine} {ruled : List VerdictReason × Option PyFloat}
    (h : (e.applyRules text record).1 = .ok ruled) :
    Represents ruled.1 (e.ruleDecisions text record) := by
  unfold applyRules at h
  unfold ruleDecisions
  by_cases hTool : toolName record = "send_money"
  · rw [if_pos hTool] at h ⊢
    cases hOutcome : e.outcome text record with
    | error exc =>
        simp only [hOutcome] at h
        cases h
    | ok o =>
        have hWorst := worst_spec (worst_ruleOutcomes hOutcome)
        have hAll := labelAgrees_ruleOutcomes text record.payload.toolArgs e.cfg.policy
          (e.tracker record.runId)
        have hRuled : ruled.1 = [o.toVerdictReason] := by
          simp only [hOutcome] at h
          split at h <;> exact congrArg Prod.fst (Except.ok.inj h).symm
        have hLabel : decisionFor o.toVerdictReason.label = o.decision := hAll o hWorst.1
        rw [hRuled]
        constructor
        · intro d hd
          obtain ⟨o', hMem, rfl⟩ := List.mem_map.1 hd
          have hLe := hWorst.2 o' hMem
          have hAgrees : decisionFor o'.label = o'.decision := hAll o' hMem
          by_cases hPass : o'.decision = .pass
          · exact .inl hPass
          · refine .inr ⟨_, List.mem_cons_self, ?_, ?_⟩
            · rw [hLabel]
              exact hLe
            · rw [hLabel]
              intro hMild
              -- the worst outcome is at least as severe as this objection
              have hHigh := severity_decisionFor (hAgrees ▸ hPass)
              rw [hAgrees] at hHigh
              have hLow : severity o.decision = 0 := by rw [hMild]; rfl
              omega
        · intro r hr
          rw [List.mem_singleton.1 hr, hLabel]
          exact .inr (List.mem_map_of_mem hWorst.1)
  · rw [if_neg hTool] at h ⊢
    obtain rfl := Except.ok.inj h
    exact Represents.nil

theorem applyRules_answers {e : DefenderEngine} :
    (∃ ruled, (e.applyRules text record).1 = .ok ruled) ↔
      (toolName record = "send_money" →
        ¬ RulesRaise text record.payload.toolArgs e.cfg.policy) := by
  unfold applyRules
  by_cases hTool : toolName record = "send_money"
  · have hIff : (∃ o, evaluateSendMoney text record.payload.toolArgs e.cfg.policy
          (e.tracker record.runId) = .ok o) ↔
        ¬ RulesRaise text record.payload.toolArgs e.cfg.policy := evaluateSendMoney_answers
    rw [if_pos hTool, ← hIff]
    show _ ↔ (_ → ∃ o, e.outcome text record = .ok o)
    cases e.outcome text record with
    | error exc => simp [hTool]
    | ok o =>
        refine ⟨fun _ _ => ⟨o, rfl⟩, fun _ => ?_⟩
        dsimp only
        split <;> exact ⟨_, rfl⟩
  · rw [if_neg hTool]
    exact ⟨fun _ h => absurd h hTool, fun _ => ⟨_, rfl⟩⟩

/-- The reasons of a shipped analyzer stand for the violations. -/
theorem represents_crossCheck {e : DefenderEngine} {structuring : Option ShippedAnalyzer}
    (hShipped : e.structuring = structuring.map ShippedAnalyzer.analyze)
    {reasons : List VerdictReason} (h : (e.crossCheck record).1 = .ok reasons) :
    Represents reasons (e.violationDecisions record) := by
  unfold crossCheck at h
  unfold violationDecisions
  cases structuring with
  | none =>
      rw [hShipped] at h ⊢
      obtain rfl := Except.ok.inj h
      exact Represents.nil
  | some analyzer =>
      rw [hShipped] at h ⊢
      simp only [Option.map_some] at h ⊢
      by_cases hAsked : e.cfg.runInvariant = true ∧ toolName record ≠ ""
      · rw [if_pos hAsked] at h ⊢
        cases hTrace : analyzer.analyze (e.traceWith record) with
        | error exc =>
            rw [hTrace] at h
            cases h
        | ok violations =>
            rw [hTrace] at h
            obtain rfl := Except.ok.inj h
            have hBlock := analyzer.agrees hTrace
            clear h hTrace
            dsimp only
            induction violations with
            | nil => exact Represents.nil
            | cons v vs ih =>
                have hHead : decisionFor (defenderReason v.label v.detail (.finite 1)).label =
                    .block := hBlock v List.mem_cons_self
                have hTail := ih fun w hw => hBlock w (List.mem_cons_of_mem _ hw)
                exact (Represents.single hHead).append hTail
      · rw [if_neg hAsked] at h ⊢
        obtain rfl := Except.ok.inj h
        exact Represents.nil

theorem crossCheck_answers {e : DefenderEngine} :
    (∃ reasons, (e.crossCheck record).1 = .ok reasons) ↔
      ∀ analyze, e.structuring = some analyze → e.cfg.runInvariant = true →
        toolName record ≠ "" →
        ∃ violations, analyze (e.traceWith record) = .ok violations := by
  unfold crossCheck
  cases e.structuring with
  | none => simp
  | some analyze =>
      dsimp only
      by_cases hAsked : e.cfg.runInvariant = true ∧ toolName record ≠ ""
      · rw [if_pos hAsked]
        cases hTrace : analyze (e.traceWith record) with
        | error exc =>
            constructor
            · intro ⟨reasons, hOk⟩
              cases hOk
            · intro hAll
              obtain ⟨violations, hOk⟩ := hAll analyze rfl hAsked.1 hAsked.2
              rw [hTrace] at hOk
              cases hOk
        | ok violations =>
            refine ⟨fun _ analyze' h _ _ => ⟨violations, ?_⟩, fun _ => ⟨_, rfl⟩⟩
            rw [← Option.some.inj h]
            exact hTrace
      · rw [if_neg hAsked]
        exact ⟨fun _ _ _ hRun hName => absurd ⟨hRun, hName⟩ hAsked, fun _ => ⟨[], rfl⟩⟩

/-- What is found beyond the rules stands for the decisions of the scanners and the
analyzer. -/
theorem represents_findings {e : DefenderEngine} {scanner codeScanner : ShippedScanner}
    {structuring : Option ShippedAnalyzer} (hScanner : e.scanner = scanner.scanText text)
    (hCode : e.codeScanner = codeScanner.scanText text)
    (hStructuring : e.structuring = structuring.map ShippedAnalyzer.analyze)
    {found : List VerdictReason} (h : e.findings text record = .ok found) :
    Represents found
      (scanDecisions e.cfg.runScanner e.scanner (subjectOf text record) ++
        scanDecisions e.cfg.runCodeScanner e.codeScanner (subjectOf text record) ++
        e.violationDecisions record) := by
  unfold findings at h
  rw [hScanner, hCode] at h ⊢
  cases hScan : scanReasons e.cfg.runScanner (scanner.scanText text) (subjectOf text record) with
  | error exc =>
      rw [hScan] at h
      cases h
  | ok scanned =>
      cases hCodeScan : scanReasons e.cfg.runCodeScanner (codeScanner.scanText text)
          (subjectOf text record) with
      | error exc =>
          rw [hScan, hCodeScan] at h
          cases h
      | ok codeScanned =>
          cases hCross : (e.crossCheck record).1 with
          | error exc =>
              rw [hScan, hCodeScan, hCross] at h
              cases h
          | ok violations =>
              rw [hScan, hCodeScan, hCross] at h
              obtain rfl := Except.ok.inj h
              have hFirst := represents_scanReasons scanner hScan
              have hSecond := represents_scanReasons codeScanner hCodeScan
              have hThird := represents_crossCheck hStructuring hCross
              exact (hFirst.append hSecond).append hThird

theorem answers_iff {e : DefenderEngine} :
    e.Answers text record ↔ (∃ ruled, (e.applyRules text record).1 = .ok ruled) ∧
      ∃ found, e.findings text record = .ok found := by
  have hFound : (∃ found, e.findings text record = .ok found) ↔
      (∃ rs, scanReasons e.cfg.runScanner e.scanner (subjectOf text record) = .ok rs) ∧
      (∃ rs, scanReasons e.cfg.runCodeScanner e.codeScanner (subjectOf text record) = .ok rs) ∧
      ∃ rs, (e.crossCheck record).1 = .ok rs := by
    unfold findings
    cases scanReasons e.cfg.runScanner e.scanner (subjectOf text record) with
    | error exc => simp [bind, Except.bind]
    | ok scanned =>
        cases scanReasons e.cfg.runCodeScanner e.codeScanner (subjectOf text record) with
        | error exc => simp [bind, Except.bind]
        | ok codeScanned =>
            cases (e.crossCheck record).1 <;> simp [bind, Except.bind, pure, Except.pure]
  rw [hFound, applyRules_answers, scanReasons_answers, scanReasons_answers, crossCheck_answers]
  exact ⟨fun h => ⟨h.rules, h.scanner, h.codeScanner, h.structuring⟩,
    fun h => ⟨h.1, h.2.1, h.2.2.1, h.2.2.2⟩⟩

/-- An engine with scanners and an analyzer of the package, in any state, whatever the
trackers and the traces have seen before. -/
def shipped (text : PyText) (cfg : DefenderConfig) (scanner codeScanner : ShippedScanner)
    (structuring : Option ShippedAnalyzer)
    (trackers : Dict String CumulativeRecipientTracker) (traces : Dict String (List Json)) :
    DefenderEngine where
  cfg := cfg
  scanner := scanner.scanText text
  codeScanner := codeScanner.scanText text
  structuring := structuring.map ShippedAnalyzer.analyze
  trackers := trackers
  traces := traces

end DefenderEngine

/-- **The engine agrees with its rules**: it answers with the most severe of all decisions,
exactly when all that is asked answers.  One rule, scanner or analyzer that raises takes every
verdict with it, whatever the others have found. -/
theorem worst_wins_iff (text : PyText) (cfg : DefenderConfig)
    (scanner codeScanner : ShippedScanner) (structuring : Option ShippedAnalyzer)
    (trackers : Dict String CumulativeRecipientTracker) (traces : Dict String (List Json))
    (stamp : Stamp) (record : ShieldActionRecord) :
    (∃ v, ((DefenderEngine.shipped text cfg scanner codeScanner structuring trackers
          traces).assess text stamp record).1 = .ok v ∧
        WorstWins ((DefenderEngine.shipped text cfg scanner codeScanner structuring trackers
          traces).decisions text record) v) ↔
      (cfg.enabled = true → (DefenderEngine.shipped text cfg scanner codeScanner structuring
        trackers traces).Answers text record) := by
  generalize hEngine : DefenderEngine.shipped text cfg scanner codeScanner structuring trackers
    traces = e
  have hCfg : e.cfg = cfg := hEngine ▸ rfl
  have hScanner : e.scanner = scanner.scanText text := hEngine ▸ rfl
  have hCode : e.codeScanner = codeScanner.scanText text := hEngine ▸ rfl
  have hStructuring : e.structuring = structuring.map ShippedAnalyzer.analyze := hEngine ▸ rfl
  rw [← hCfg]
  unfold DefenderEngine.decisions
  cases hEnabled : e.cfg.enabled with
  | false =>
      simp only [Bool.false_eq_true, if_false, false_implies, iff_true]
      refine ⟨_, by unfold DefenderEngine.assess; rw [if_pos hEnabled], ?_⟩
      exact ⟨by simp, .inl rfl, by simp, by simp, by simp, fun h => absurd rfl h⟩
  | true =>
      simp only [if_true, true_implies]
      rw [DefenderEngine.assess_answer hEnabled, DefenderEngine.answers_iff]
      constructor
      · intro ⟨v, hAnswer, _⟩
        cases hRuled : (e.applyRules text record).1 with
        | error exc =>
            rw [hRuled] at hAnswer
            cases hAnswer
        | ok ruled =>
            cases hFound : e.findings text record with
            | error exc =>
                rw [hRuled, hFound] at hAnswer
                cases hAnswer
            | ok found => exact ⟨⟨ruled, rfl⟩, found, rfl⟩
      · intro ⟨⟨ruled, hRuled⟩, found, hFound⟩
        rw [hRuled, hFound]
        have hRules := DefenderEngine.represents_applyRules hRuled
        have hRest := DefenderEngine.represents_findings hScanner hCode hStructuring hFound
        exact ⟨_, rfl, (hRules.append hRest).worstWins stamp record ruled.2⟩

namespace Sample

/-- The IBANs are checked. -/
def ibanPolicy : DefenderConfig where
  enabled := true
  policy := { requireValidIban := true }

/-- A transfer with a secret in its subject, to an IBAN that a line end follows. -/
def leakyTransfer : Stamp × ShieldActionRecord :=
  transfer "rec-1" "run-1" "GB82WEST12345698765432\n" "password: hunter2" 10

end Sample

/-- The secret is to be blocked, and the IBAN check raises. -/
theorem line_end_leaves_no_verdict :
    Decision.block ∈ (DefenderEngine.shipped Sample.text Sample.ibanPolicy .null .codeShield none
        [] []).decisions Sample.text Sample.leakyTransfer.2 ∧
      ¬ ∃ v, ((DefenderEngine.shipped Sample.text Sample.ibanPolicy .null .codeShield none
        [] []).assess Sample.text Sample.leakyTransfer.1 Sample.leakyTransfer.2).1 = .ok v := by
  have hRaises : (DefenderEngine.shipped Sample.text Sample.ibanPolicy .null .codeShield none
      [] []).outcome Sample.text Sample.leakyTransfer.2 = .error .valueError := by
    decide +kernel
  refine ⟨by decide +kernel, ?_⟩
  intro ⟨v, hAnswer⟩
  rw [DefenderEngine.assess_answer rfl] at hAnswer
  have hRules : ((DefenderEngine.shipped Sample.text Sample.ibanPolicy .null .codeShield none
      [] []).applyRules Sample.text Sample.leakyTransfer.2).1 = .error .valueError := by
    have hTool : toolName Sample.leakyTransfer.2 = "send_money" := rfl
    unfold DefenderEngine.applyRules
    rw [if_pos hTool]
    simp only [hRaises]
  rw [hRules] at hAnswer
  cases hAnswer

end AgentShield.Governance
