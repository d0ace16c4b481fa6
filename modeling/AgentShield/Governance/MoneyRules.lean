import AgentShield.Governance.Agreement

/-!
# The money rules on every amount

What the rules over a transfer do with any JSON arguments.  The conversions catch a type and
a value error, so an integer beyond the range of floats raises out of each of them, and a
line end behind an IBAN raises out of its check.  `valueSanity` refuses every amount that is
not finite and non-negative; `evaluateSendMoney` compares it with the limits only.  So it
passes negative amounts and those that fail every comparison, and reports as prevented what
is not finite (`sendMoneySound_iff`).
-/

namespace AgentShield.Governance

open AgentShield.Lib AgentShield.Sdk

/-! ## Conversions -/

/-- An integer that no float is near. -/
def FloatOverflows : Json → Prop
  | .int i => 2 ^ 1024 - 2 ^ 970 ≤ i.natAbs
  | _ => False

instance : (value : Json) → Decidable (FloatOverflows value)
  | .int i => inferInstanceAs (Decidable (2 ^ 1024 - 2 ^ 970 ≤ i.natAbs))
  | .null | .bool _ | .float _ | .str _ | .arr _ | .obj _ => isFalse not_false

section Conversions

variable (text : PyText)

/-- `float(value)` where type and value errors are caught: these are `none`.  An overflow is
neither of them and is raised. -/
def floatCaught (value : Json) : Except PyError (Option PyFloat) :=
  if FloatOverflows value then .error .overflowError
  else
    .ok <| match value with
      | .bool b => some (.finite (if b then 1 else 0))
      | .int i => some (.finite i)
      | .float x => some x
      | .str s => text.float s
      | .null | .arr _ | .obj _ => none

/-- The engine's `_amount`. -/
def amountRead (args : List (String × Json)) : Except PyError PyFloat :=
  if amountOverflows args then .error .overflowError
  else .ok ((parsedAmount text args).getD 0)

def defaultValueSanityCeiling : PyFloat := .finite (10 ^ 12)

def valueBlocked (label detail : String) : RuleOutcome :=
  { decision := .block, label := label, detail := detail, score := .finite 1 }

def valueSanity (value : Json) (ceiling : PyFloat := defaultValueSanityCeiling) :
    Except PyError RuleOutcome := do
  match ← floatCaught text value with
  | none => return valueBlocked "value.unparseable" ("non-numeric value " ++ text.reprValue value)
  | some amount =>
      if amount = .nan ∨ amount = .inf ∨ amount = .negInf then
        return valueBlocked "value.non_finite" ("non-finite value " ++ text.str amount)
      if amount < 0 then
        return valueBlocked "value.negative" ("negative value " ++ text.str amount)
      if ceiling < amount then
        return valueBlocked "value.implausible_magnitude"
          ("value " ++ text.str amount ++ " exceeds plausibility ceiling " ++ text.str ceiling)
      return { decision := .pass, label := "value.sane" }

end Conversions

/-! ## What the rules should give -/

/-- A finite non-negative number. -/
def SaneAmount (amount : Option PyFloat) : Prop := ∃ q : Rat, amount = some (.finite q) ∧ 0 ≤ q

def IsFinite (x : PyFloat) : Prop := ∃ q : Rat, x = .finite q

def FiniteLoss (o : RuleOutcome) : Prop := ∀ x, o.preventedLoss = some x → IsFinite x

/-- The outcome of a transfer: no other amount than a sane one passes, and what it reports
as prevented is finite. -/
def SendMoneySound (text : PyText) (args : List (String × Json)) (policy : DefenderPolicy)
    (tracker : CumulativeRecipientTracker) : Prop :=
  ∃ o, evaluateSendMoney text args policy tracker = .ok o ∧
    (o.decision = .pass → SaneAmount (parsedAmount text args)) ∧ FiniteLoss o

section Conversions

variable {text : PyText}

theorem floatCaught_answers {value : Json} :
    (∃ x, floatCaught text value = .ok x) ↔ ¬ FloatOverflows value := by
  unfold floatCaught
  by_cases hOver : FloatOverflows value
  · rw [if_pos hOver]
    constructor
    · intro ⟨x, hx⟩
      cases hx
    · exact fun hNot => absurd hOver hNot
  · rw [if_neg hOver]
    exact ⟨fun _ => hOver, fun _ => ⟨_, rfl⟩⟩

/-- **`valueSanity` answers, and passes sane values only, unless the conversion overflows.** -/
theorem valueSanity_sound_iff {value : Json} {ceiling : PyFloat} :
    (∃ o, valueSanity text value ceiling = .ok o ∧ FiniteLoss o ∧
      (o.decision = .pass → ∃ x, floatCaught text value = .ok x ∧ SaneAmount x)) ↔
      ¬ FloatOverflows value := by
  rw [← @floatCaught_answers text value]
  unfold valueSanity
  cases hValue : floatCaught text value with
  | error exc =>
      constructor
      · intro ⟨o, hOk, _⟩
        cases hOk
      · intro ⟨x, hOk⟩
        cases hOk
  | ok x =>
      refine ⟨fun _ => ⟨x, rfl⟩, fun _ => ?_⟩
      have hNoLoss : ∀ o : RuleOutcome, o.preventedLoss = none → FiniteLoss o := by
        intro o hNone y hy
        rw [hNone] at hy
        cases hy
      cases x with
      | none => exact ⟨_, rfl, hNoLoss _ rfl, fun h => by cases h⟩
      | some amount =>
          show ∃ o, (if amount = .nan ∨ amount = .inf ∨ amount = .negInf then _ else _) = _ ∧ _
          by_cases hFinite : amount = .nan ∨ amount = .inf ∨ amount = .negInf
          · rw [if_pos hFinite]
            exact ⟨_, rfl, hNoLoss _ rfl, fun h => by cases h⟩
          rw [if_neg hFinite]
          by_cases hNegative : amount < 0
          · rw [if_pos hNegative]
            exact ⟨_, rfl, hNoLoss _ rfl, fun h => by cases h⟩
          rw [if_neg hNegative]
          by_cases hCeiling : ceiling < amount
          · rw [if_pos hCeiling]
            exact ⟨_, rfl, hNoLoss _ rfl, fun h => by cases h⟩
          rw [if_neg hCeiling]
          refine ⟨_, rfl, hNoLoss _ rfl, fun _ => ⟨_, rfl, ?_⟩⟩
          cases amount with
          | finite q => exact ⟨q, rfl, by simpa using hNegative⟩
          | nan => simp at hFinite
          | inf => simp at hFinite
          | negInf => simp at hFinite

theorem amountRead_answers {args : List (String × Json)} :
    (∃ x, amountRead text args = .ok x) ↔ amountOverflows args = false := by
  unfold amountRead
  cases hOver : amountOverflows args with
  | true =>
      constructor
      · intro ⟨x, hx⟩
        cases hx
      · exact fun h => by cases h
  | false => exact ⟨fun _ => rfl, fun _ => ⟨_, rfl⟩⟩

end Conversions

/-! ## The first of the refusals -/

/-- Nothing is worse than a refusal with the full score, whatever comes after it; of two such
refusals the first is kept. -/
theorem worst_block {A B : List RuleOutcome} {b : RuleOutcome}
    (hA : ∀ o ∈ A, severity o.decision < 3) (hb : b.decision = .block)
    (hScore : b.score = .finite 1) (hB : ∀ o ∈ B, o.decision = .block → o.score = .finite 1) :
    worst (A ++ b :: B) = .ok b := by
  have hKeep : B.foldl (fun w o => if w.milder o then o else w) b = b := by
    induction B with
    | nil => rfl
    | cons o B ih =>
        have hNot : b.milder o = false := by
          have hSeverity : severity o.decision ≤ 3 := by cases o.decision <;> decide
          unfold RuleOutcome.milder
          rw [hb, hScore]
          by_cases hBlock : o.decision = .block
          · rw [hBlock, hB o List.mem_cons_self hBlock]
            decide
          · have hLess : severity o.decision ≠ 3 := by
              intro hThree
              cases hDecision : o.decision <;> rw [hDecision] at hThree hBlock <;>
                simp [severity] at hThree hBlock
            have hGe : ¬ severity .block < severity o.decision := by
              show ¬ 3 < severity o.decision
              omega
            have hNe : (severity .block == severity o.decision) = false := by
              rw [beq_eq_false_iff_ne]
              exact fun hEq => hLess hEq.symm
            rw [decide_eq_false hGe, hNe]
            rfl
        rw [List.foldl_cons, hNot]
        exact ih fun o' ho' => hB o' (List.mem_cons_of_mem _ ho')
  cases A with
  | nil => exact congrArg Except.ok hKeep
  | cons a A =>
      obtain ⟨w, hw⟩ : ∃ w, worst (a :: A) = .ok w := ⟨_, rfl⟩
      have hLess := hA w (worst_spec hw).1
      have hFold : (A.foldl (fun w o => if w.milder o then o else w) a) = w := Except.ok.inj hw
      have hMilder : w.milder b = true := by
        unfold RuleOutcome.milder
        rw [hb, decide_eq_true (show severity w.decision < severity .block from hLess)]
        rfl
      show Except.ok ((A ++ b :: B).foldl (fun w o => if w.milder o then o else w) a) = _
      rw [List.foldl_append, hFold, List.foldl_cons, hMilder]
      exact congrArg Except.ok hKeep

/-! ## The outcomes before the limits -/

section SendMoney

variable (text : PyText) (args : List (String × Json)) (policy : DefenderPolicy)
  (tracker : CumulativeRecipientTracker)

/-- The subject, the IBAN or the allowlist refuses the transfer. -/
def EarlierRefusal : Prop :=
  policy.blockOnSubjectSecret = true ∧
      (scanSubjectSecrets text (argText text args "subject")).decision = .block ∨
    policy.requireValidIban = true ∧
      isValidIban text (argText text args "recipient") = .ok false ∨
    ∃ allowed, policy.ibanAllowlist = some allowed ∧ argText text args "recipient" ∉ allowed

/-- The amount is not at most the limit. -/
def Beyond (amount : PyFloat) (limit : Option PyNumber) : Prop :=
  ∃ l, limit = some l ∧ ¬ amount ≤ l.value

/-- The sum with this transfer is above the cumulative cap. -/
def Exceeds (amount : PyFloat) : Prop :=
  ∃ cap, policy.cumulativeCap = some cap ∧
    cap.value < tracker.total (argText text args "recipient") + amount

/-- An amount that the limits let pass, or report, as it should not be. -/
def UnsoundAmount (amount : PyFloat) : Prop :=
  Beyond amount policy.amountCap ∧ ¬ IsFinite amount ∨
    ¬ Beyond amount policy.amountCap ∧
      (Exceeds text args policy tracker amount ∧
          ¬ IsFinite (tracker.total (argText text args "recipient") + amount) ∨
        ¬ Exceeds text args policy tracker amount ∧ ¬ Beyond amount policy.reviewFloor ∧
          ¬ SaneAmount (some amount))

/-- What the rules before the limits give. -/
def earlierOutcomes : List RuleOutcome :=
  (if policy.blockOnSubjectSecret then
      [scanSubjectSecrets text (argText text args "subject")] else []) ++
    (ibanFormatOutcomes text policy (argText text args "recipient")).toOption.getD [] ++
    (if policy.ibanAllowlist.isSome then
      [checkIbanAllowlist text (argText text args "recipient") policy.ibanAllowlist]
    else [])

/-- A pass, or a refusal with the full score, that prevents nothing. -/
def Plain (o : RuleOutcome) : Prop :=
  o.preventedLoss = none ∧ (o.decision = .pass ∨ o.decision = .block ∧ o.score = .finite 1)

variable {text args policy tracker}

theorem ruleOutcomes_eq {amount : PyFloat} (h : parsedAmount text args = some amount) :
    ruleOutcomes text args policy tracker = earlierOutcomes text args policy ++
      [checkAmountCap text amount policy.amountCap,
        checkReviewFloor text amount policy.reviewFloor,
        tracker.evaluate text (argText text args "recipient") amount policy.cumulativeCap] := by
  unfold ruleOutcomes earlierOutcomes
  rw [h]

theorem plain_scanSubjectSecrets (subject : String) : Plain (scanSubjectSecrets text subject) := by
  unfold scanSubjectSecrets
  cases (subjectSecretPatterns text).find? fun p => p.2.search subject with
  | none => exact ⟨rfl, .inl rfl⟩
  | some p => exact ⟨rfl, .inr ⟨rfl, rfl⟩⟩

theorem checkIbanFormat_cases {iban : String} {o : RuleOutcome}
    (h : checkIbanFormat text iban = .ok o) :
    Plain o ∧ (o.decision = .block ↔ isValidIban text iban = .ok false) := by
  unfold checkIbanFormat at h
  cases hValid : isValidIban text iban with
  | error exc =>
      rw [hValid] at h
      cases h
  | ok valid =>
      rw [hValid] at h
      cases valid with
      | true =>
          obtain rfl := Except.ok.inj h
          exact ⟨⟨rfl, .inl rfl⟩, by simp⟩
      | false =>
          obtain rfl := Except.ok.inj h
          exact ⟨⟨rfl, .inr ⟨rfl, rfl⟩⟩, by simp⟩

theorem checkIbanAllowlist_cases (iban : String) (allowed : List String) :
    Plain (checkIbanAllowlist text iban (some allowed)) ∧
      ((checkIbanAllowlist text iban (some allowed)).decision = .block ↔ iban ∉ allowed) := by
  unfold checkIbanAllowlist
  by_cases hMem : iban ∈ allowed
  · rw [if_pos (by simpa using hMem)]
    exact ⟨⟨rfl, .inl rfl⟩, by simp [hMem]⟩
  · rw [if_neg (by simpa using hMem)]
    exact ⟨⟨rfl, .inr ⟨rfl, rfl⟩⟩, by simp [hMem]⟩

/-- The IBAN check, where it is asked for and answers. -/
theorem mem_ibanFormatOutcomes {recipient : String} {os : List RuleOutcome}
    (h : ibanFormatOutcomes text policy recipient = .ok os) :
    (∀ o ∈ os, Plain o) ∧ ((∃ o ∈ os, o.decision = .block) ↔
      policy.requireValidIban = true ∧ isValidIban text recipient = .ok false) := by
  unfold ibanFormatOutcomes at h
  by_cases hAsked : policy.requireValidIban = true
  · rw [if_pos hAsked] at h
    cases hCheck : checkIbanFormat text recipient with
    | error exc =>
        rw [hCheck] at h
        cases h
    | ok o =>
        rw [hCheck] at h
        obtain rfl := Except.ok.inj h
        obtain ⟨hPlain, hBlock⟩ := checkIbanFormat_cases hCheck
        simp [hPlain, hBlock, hAsked]
  · rw [if_neg hAsked] at h
    obtain rfl := Except.ok.inj h
    simp [hAsked]

theorem plain_earlierOutcomes {os : List RuleOutcome}
    (h : ibanFormatOutcomes text policy (argText text args "recipient") = .ok os) :
    (∀ o ∈ earlierOutcomes text args policy, Plain o) ∧
      ((∃ o ∈ earlierOutcomes text args policy, o.decision = .block) ↔
        EarlierRefusal text args policy) := by
  obtain ⟨hFormat, hFormatBlock⟩ := mem_ibanFormatOutcomes h
  unfold earlierOutcomes EarlierRefusal
  have hGet : (Except.ok os : Except PyError (List RuleOutcome)).toOption.getD [] = os := rfl
  rw [h, hGet]
  have hSecret := @plain_scanSubjectSecrets text (argText text args "subject")
  constructor
  · intro o ho
    simp only [List.mem_append] at ho
    rcases ho with (ho | ho) | ho
    · split at ho
      · rw [List.mem_singleton.1 ho]
        exact hSecret
      · cases ho
    · exact hFormat o ho
    · cases hList : policy.ibanAllowlist with
      | none =>
          rw [hList] at ho
          cases ho
      | some allowed =>
          rw [hList] at ho
          rw [List.mem_singleton.1 ho]
          exact (checkIbanAllowlist_cases _ allowed).1
  · rw [← hFormatBlock]
    cases hList : policy.ibanAllowlist with
    | none => cases hAsked : policy.blockOnSubjectSecret <;> simp [or_and_right, exists_or]
    | some allowed =>
        have hBlock := (@checkIbanAllowlist_cases text (argText text args "recipient") allowed).2
        cases hAsked : policy.blockOnSubjectSecret <;>
          simp [or_and_right, exists_or, hBlock]

/-! ## The limits -/

theorem checkAmountCap_beyond {amount : PyFloat} (h : Beyond amount policy.amountCap) :
    (checkAmountCap text amount policy.amountCap).decision = .block ∧
      (checkAmountCap text amount policy.amountCap).score = .finite 1 ∧
      (checkAmountCap text amount policy.amountCap).preventedLoss = some amount := by
  obtain ⟨cap, hCap, hOver⟩ := h
  rw [hCap, checkAmountCap, if_neg hOver]
  exact ⟨rfl, rfl, rfl⟩

theorem checkAmountCap_within {amount : PyFloat} (h : ¬ Beyond amount policy.amountCap) :
    checkAmountCap text amount policy.amountCap = { decision := .pass, label := "amount.ok" } := by
  cases hCap : policy.amountCap with
  | none => rfl
  | some cap =>
      have hLe : amount ≤ cap.value := by
        by_contra hOver
        exact h ⟨cap, hCap, hOver⟩
      rw [checkAmountCap, if_pos hLe]

/-- The review floor never blocks. -/
theorem checkReviewFloor_cases (amount : PyFloat) :
    (checkReviewFloor text amount policy.reviewFloor).preventedLoss = none ∧
      (Beyond amount policy.reviewFloor ∧
          (checkReviewFloor text amount policy.reviewFloor).decision = .escalate ∨
        ¬ Beyond amount policy.reviewFloor ∧
          (checkReviewFloor text amount policy.reviewFloor).decision = .pass) := by
  cases hFloor : policy.reviewFloor with
  | none =>
      refine ⟨rfl, .inr ⟨?_, rfl⟩⟩
      rintro ⟨l, hl, -⟩
      cases hl
  | some floor =>
      by_cases hLe : amount ≤ floor.value
      · rw [checkReviewFloor, if_pos hLe]
        refine ⟨rfl, .inr ⟨?_, rfl⟩⟩
        rintro ⟨l, hl, hNot⟩
        obtain rfl := Option.some.inj hl
        exact hNot hLe
      · rw [checkReviewFloor, if_neg hLe]
        exact ⟨rfl, .inl ⟨⟨floor, rfl, hLe⟩, rfl⟩⟩

theorem evaluate_exceeds {amount : PyFloat} (h : Exceeds text args policy tracker amount) :
    let o := tracker.evaluate text (argText text args "recipient") amount policy.cumulativeCap
    o.decision = .block ∧ o.score = .finite 1 ∧
      o.preventedLoss = some (tracker.total (argText text args "recipient") + amount) := by
  obtain ⟨cap, hCap, hOver⟩ := h
  rw [hCap, CumulativeRecipientTracker.evaluate]
  dsimp only
  rw [if_pos hOver]
  exact ⟨rfl, rfl, rfl⟩

theorem evaluate_within {amount : PyFloat} (h : ¬ Exceeds text args policy tracker amount) :
    (tracker.evaluate text (argText text args "recipient") amount
        policy.cumulativeCap).decision = .pass ∧
      (tracker.evaluate text (argText text args "recipient") amount
        policy.cumulativeCap).preventedLoss = none := by
  cases hCap : policy.cumulativeCap with
  | none => exact ⟨rfl, rfl⟩
  | some cap =>
      have hLe : ¬ cap.value < tracker.total (argText text args "recipient") + amount :=
        fun hOver => h ⟨cap, hCap, hOver⟩
      rw [CumulativeRecipientTracker.evaluate]
      rw [if_neg hLe]
      exact ⟨rfl, rfl⟩

/-! ## The outcome -/

/-- The IBAN check has answered where the rules have. -/
theorem ibanFormatOutcomes_of_ok {o : RuleOutcome} {amount : PyFloat}
    (h : evaluateSendMoney text args policy tracker = .ok o)
    (hAmount : parsedAmount text args = some amount) :
    ∃ os, ibanFormatOutcomes text policy (argText text args "recipient") = .ok os := by
  have hNot : ¬ RulesRaise text args policy := evaluateSendMoney_answers.1 ⟨o, h⟩
  apply (ibanFormatOutcomes_answers _).2
  intro hLine
  exact hNot (.inr ⟨by rw [hAmount]; rfl, hLine⟩)

/-- A refusal of the limits has the full score, whichever it is. -/
theorem limits_score {amount : PyFloat} {o : RuleOutcome}
    (ho : o ∈ [checkAmountCap text amount policy.amountCap,
      checkReviewFloor text amount policy.reviewFloor,
      tracker.evaluate text (argText text args "recipient") amount policy.cumulativeCap])
    (hBlock : o.decision = .block) : o.score = .finite 1 := by
  simp only [List.mem_cons, List.not_mem_nil, or_false] at ho
  rcases ho with rfl | rfl | rfl
  · by_cases hCap : Beyond amount policy.amountCap
    · exact (checkAmountCap_beyond hCap).2.1
    · rw [checkAmountCap_within hCap] at hBlock
      cases hBlock
  · have hReview := @checkReviewFloor_cases text policy amount
    rcases hReview.2 with ⟨-, hDecision⟩ | ⟨-, hDecision⟩ <;>
      · rw [hDecision] at hBlock
        cases hBlock
  · by_cases hSum : Exceeds text args policy tracker amount
    · exact (evaluate_exceeds hSum).2.1
    · rw [(evaluate_within hSum).1] at hBlock
      cases hBlock

theorem plain_score {o : RuleOutcome} (h : Plain o) (hBlock : o.decision = .block) :
    o.score = .finite 1 := by
  rcases h.2 with hPass | ⟨-, hScore⟩
  · rw [hPass] at hBlock
    cases hBlock
  · exact hScore

theorem floor_severity {amount : PyFloat} :
    severity (checkReviewFloor text amount policy.reviewFloor).decision < 3 := by
  have hReview := @checkReviewFloor_cases text policy amount
  rcases hReview.2 with ⟨-, hDecision⟩ | ⟨-, hDecision⟩ <;> rw [hDecision] <;> decide

/-- Without an earlier refusal the earlier outcomes pass. -/
theorem earlier_pass {os : List RuleOutcome}
    (hFormat : ibanFormatOutcomes text policy (argText text args "recipient") = .ok os)
    (hNone : ¬ EarlierRefusal text args policy) :
    ∀ o ∈ earlierOutcomes text args policy, o.decision = .pass := by
  obtain ⟨hPlain, hRefusal⟩ := plain_earlierOutcomes hFormat
  intro o ho
  rcases (hPlain o ho).2 with hPass | ⟨hBlock, -⟩
  · exact hPass
  · exact absurd (hRefusal.1 ⟨o, ho, hBlock⟩) hNone

theorem earlier_severity {os : List RuleOutcome}
    (hFormat : ibanFormatOutcomes text policy (argText text args "recipient") = .ok os)
    (hNone : ¬ EarlierRefusal text args policy) :
    ∀ o ∈ earlierOutcomes text args policy, severity o.decision < 3 := by
  intro o ho
  rw [earlier_pass hFormat hNone o ho]
  decide

/-- The outcome is the worst of the earlier ones and the three of the limits. -/
theorem worst_of_ok {o : RuleOutcome} {amount : PyFloat}
    (h : evaluateSendMoney text args policy tracker = .ok o)
    (hAmount : parsedAmount text args = some amount) :
    worst (earlierOutcomes text args policy ++ [checkAmountCap text amount policy.amountCap,
      checkReviewFloor text amount policy.reviewFloor,
      tracker.evaluate text (argText text args "recipient") amount policy.cumulativeCap]) =
        .ok o := by
  rw [← ruleOutcomes_eq hAmount]
  exact worst_ruleOutcomes h

/-- The first refusal among the earlier outcomes answers, whatever the limits say, and states
no prevented loss. -/
theorem outcome_refused {o : RuleOutcome} {amount : PyFloat}
    (h : evaluateSendMoney text args policy tracker = .ok o)
    (hAmount : parsedAmount text args = some amount)
    (hEarlier : EarlierRefusal text args policy) :
    o.decision = .block ∧ o.preventedLoss = none := by
  obtain ⟨os, hFormat⟩ := ibanFormatOutcomes_of_ok h hAmount
  obtain ⟨hPlain, hRefusal⟩ := plain_earlierOutcomes hFormat
  have hWorst := worst_of_ok h hAmount
  obtain ⟨b, hb, hBlock⟩ := hRefusal.2 hEarlier
  obtain ⟨b', hFirst⟩ : ∃ b', (earlierOutcomes text args policy).find?
      (fun o' => decide (o'.decision = .block)) = some b' := by
    rw [← Option.isSome_iff_exists, List.find?_isSome]
    exact ⟨b, hb, decide_eq_true hBlock⟩
  obtain ⟨hBlock', A, B, hSplit, hA⟩ := List.find?_eq_some_iff_append.1 hFirst
  have hMem : ∀ o' ∈ A ++ b' :: B, Plain o' := fun o' ho' => hPlain o' (hSplit ▸ ho')
  have hb' := of_decide_eq_true hBlock'
  rw [hSplit, List.append_assoc, List.cons_append, worst_block] at hWorst
  · rw [← Except.ok.inj hWorst]
    exact ⟨hb', (hMem b' (by simp)).1⟩
  · intro o' ho'
    rcases (hMem o' (List.mem_append_left _ ho')).2 with hPass | ⟨hBlocked, -⟩
    · rw [hPass]
      decide
    · have hNot := hA o' ho'
      simp [hBlocked] at hNot
  · exact hb'
  · exact plain_score (hMem b' (by simp)) hb'
  · intro o' ho' hBlocked
    rcases List.mem_append.1 ho' with ho' | ho'
    · exact plain_score (hMem o' (by simp [ho'])) hBlocked
    · exact limits_score ho' hBlocked

/-- An amount over the cap is refused. -/
theorem outcome_capped {o : RuleOutcome} {amount : PyFloat}
    (h : evaluateSendMoney text args policy tracker = .ok o)
    (hAmount : parsedAmount text args = some amount)
    (hNone : ¬ EarlierRefusal text args policy) (hCap : Beyond amount policy.amountCap) :
    o.decision = .block ∧ o.preventedLoss = some amount := by
  obtain ⟨os, hFormat⟩ := ibanFormatOutcomes_of_ok h hAmount
  have hWorst := worst_of_ok h hAmount
  obtain ⟨hDecision, hScore, hLoss⟩ := @checkAmountCap_beyond text policy amount hCap
  rw [worst_block (earlier_severity hFormat hNone) hDecision hScore
    fun o' ho' => limits_score (List.mem_cons_of_mem _ ho')] at hWorst
  rw [← Except.ok.inj hWorst]
  exact ⟨hDecision, hLoss⟩

/-- An amount within the cap is refused where the sum exceeds its own, and the loss that is
prevented is the projected sum. -/
theorem outcome_summed {o : RuleOutcome} {amount : PyFloat}
    (h : evaluateSendMoney text args policy tracker = .ok o)
    (hAmount : parsedAmount text args = some amount)
    (hNone : ¬ EarlierRefusal text args policy) (hCap : ¬ Beyond amount policy.amountCap)
    (hSum : Exceeds text args policy tracker amount) : o.decision = .block ∧
      o.preventedLoss = some (tracker.total (argText text args "recipient") + amount) := by
  obtain ⟨os, hFormat⟩ := ibanFormatOutcomes_of_ok h hAmount
  have hWorst := worst_of_ok h hAmount
  obtain ⟨hDecision, hScore, hLoss⟩ := evaluate_exceeds hSum
  have hSplit : earlierOutcomes text args policy ++
      [checkAmountCap text amount policy.amountCap,
        checkReviewFloor text amount policy.reviewFloor,
        tracker.evaluate text (argText text args "recipient") amount policy.cumulativeCap] =
      (earlierOutcomes text args policy ++ [checkAmountCap text amount policy.amountCap,
        checkReviewFloor text amount policy.reviewFloor]) ++
        [tracker.evaluate text (argText text args "recipient") amount
          policy.cumulativeCap] := by
    simp
  rw [hSplit, worst_block _ hDecision hScore (by simp)] at hWorst
  · rw [← Except.ok.inj hWorst]
    exact ⟨hDecision, hLoss⟩
  · intro o' ho'
    simp only [List.mem_append, List.mem_cons, List.not_mem_nil, or_false] at ho'
    rcases ho' with ho' | rfl | rfl
    · exact earlier_severity hFormat hNone o' ho'
    · rw [checkAmountCap_within hCap]
      decide
    · exact floor_severity

/-- An amount within both limits is held up by the floor only, and no loss is prevented by
that. -/
theorem outcome_within {o : RuleOutcome} {amount : PyFloat}
    (h : evaluateSendMoney text args policy tracker = .ok o)
    (hAmount : parsedAmount text args = some amount)
    (hNone : ¬ EarlierRefusal text args policy) (hCap : ¬ Beyond amount policy.amountCap)
    (hSum : ¬ Exceeds text args policy tracker amount) : o.preventedLoss = none ∧
      (o.decision = .pass ↔ ¬ Beyond amount policy.reviewFloor) := by
  obtain ⟨os, hFormat⟩ := ibanFormatOutcomes_of_ok h hAmount
  obtain ⟨hPlain, -⟩ := plain_earlierOutcomes hFormat
  have hReview := @checkReviewFloor_cases text policy amount
  obtain ⟨hMem, hLe⟩ := worst_spec (worst_of_ok h hAmount)
  obtain ⟨hPass, hNoLoss⟩ := evaluate_within hSum
  simp only [List.mem_append, List.mem_cons, List.not_mem_nil, or_false] at hMem
  refine ⟨?_, fun hPassed hBeyond => ?_, fun hNot => ?_⟩
  · rcases hMem with hMem | rfl | rfl | rfl
    · exact (hPlain o hMem).1
    · rw [checkAmountCap_within hCap]
    · exact hReview.1
    · exact hNoLoss
  · have hReviewLe := hLe (checkReviewFloor text amount policy.reviewFloor) (by simp)
    rcases hReview.2 with ⟨-, hDecision⟩ | ⟨hNot, -⟩
    · rw [hDecision, hPassed] at hReviewLe
      simp [severity] at hReviewLe
    · exact hNot hBeyond
  · rcases hMem with hMem | rfl | rfl | rfl
    · exact earlier_pass hFormat hNone o hMem
    · rw [checkAmountCap_within hCap]
    · rcases hReview.2 with ⟨hBeyond, -⟩ | ⟨-, hDecision⟩
      · exact absurd hBeyond hNot
      · exact hDecision
    · exact hPass

/-- **When the outcome of a transfer is what it should be**: the rules answer, a pass is of a
sane amount, and a prevented loss is finite.  The earlier refusals are looked at first, and
then the limits in their order. -/
theorem sendMoneySound_iff :
    SendMoneySound text args policy tracker ↔ ¬ RulesRaise text args policy ∧
      ∀ amount, parsedAmount text args = some amount →
        EarlierRefusal text args policy ∨ ¬ UnsoundAmount text args policy tracker amount := by
  have hAnswers := @evaluateSendMoney_answers text args policy tracker
  have hNoLoss : ∀ o : RuleOutcome, o.preventedLoss = none → FiniteLoss o := by
    intro o hNone x hx
    rw [hNone] at hx
    cases hx
  constructor
  · intro ⟨o, hOk, hPass, hLoss⟩
    refine ⟨hAnswers.1 ⟨o, hOk⟩, fun amount hAmount => ?_⟩
    by_cases hEarlier : EarlierRefusal text args policy
    · exact .inl hEarlier
    right
    rintro (⟨hCap, hInfinite⟩ | ⟨hCap, ⟨hSum, hInfinite⟩ | ⟨hSum, hFloor, hInsane⟩⟩)
    · exact hInfinite (hLoss _ (outcome_capped hOk hAmount hEarlier hCap).2)
    · exact hInfinite (hLoss _ (outcome_summed hOk hAmount hEarlier hCap hSum).2)
    · have hPassed := (outcome_within hOk hAmount hEarlier hCap hSum).2.2 hFloor
      exact hInsane (hAmount ▸ hPass hPassed)
  · intro ⟨hNoRaise, hCondition⟩
    obtain ⟨o, hOk⟩ := hAnswers.2 hNoRaise
    refine ⟨o, hOk, ?_⟩
    cases hAmount : parsedAmount text args with
    | none =>
        have hWorst := worst_ruleOutcomes hOk
        unfold ruleOutcomes at hWorst
        rw [hAmount] at hWorst
        have hOutcome := Except.ok.inj hWorst
        rw [← hOutcome]
        exact ⟨fun h => (by cases h), hNoLoss _ rfl⟩
    | some amount =>
        have hBlocked : o.decision = .block → o.decision = .pass → SaneAmount (some amount) := by
          intro hBlock hPass
          rw [hBlock] at hPass
          cases hPass
        have hReports : ∀ x, o.preventedLoss = some x → IsFinite x → FiniteLoss o := by
          intro x hx hFinite y hy
          rw [hx] at hy
          obtain rfl := Option.some.inj hy
          exact hFinite
        by_cases hEarlier : EarlierRefusal text args policy
        · obtain ⟨hBlock, hNone⟩ := outcome_refused hOk hAmount hEarlier
          exact ⟨hBlocked hBlock, hNoLoss o hNone⟩
        have hSound := (hCondition amount hAmount).resolve_left hEarlier
        by_cases hCap : Beyond amount policy.amountCap
        · obtain ⟨hBlock, hLoss⟩ := outcome_capped hOk hAmount hEarlier hCap
          have hFinite : IsFinite amount := by
            by_contra hInfinite
            exact hSound (.inl ⟨hCap, hInfinite⟩)
          exact ⟨hBlocked hBlock, hReports _ hLoss hFinite⟩
        by_cases hSum : Exceeds text args policy tracker amount
        · obtain ⟨hBlock, hLoss⟩ := outcome_summed hOk hAmount hEarlier hCap hSum
          have hFinite : IsFinite (tracker.total (argText text args "recipient") + amount) := by
            by_contra hInfinite
            exact hSound (.inr ⟨hCap, .inl ⟨hSum, hInfinite⟩⟩)
          exact ⟨hBlocked hBlock, hReports _ hLoss hFinite⟩
        · obtain ⟨hNone, hPass⟩ := outcome_within hOk hAmount hEarlier hCap hSum
          refine ⟨fun hPassed => ?_, hNoLoss o hNone⟩
          by_contra hInsane
          exact hSound (.inr ⟨hCap, .inr ⟨hSum, hPass.1 hPassed, hInsane⟩⟩)

end SendMoney

/-- **When the money rules are total and sound**, for any arguments, any value that is checked
for sanity and any IBAN.  What they miss are amounts that the limits let pass or report as
they should not, numbers too large for a float, and a line end after an IBAN. -/
theorem money_rules_sound_iff (text : PyText) (args : List (String × Json))
    (policy : DefenderPolicy) (tracker : CumulativeRecipientTracker) (value : Json)
    (ceiling : PyFloat) (iban : String) :
    SendMoneySound text args policy tracker ∧
      (∃ o, valueSanity text value ceiling = .ok o ∧ FiniteLoss o) ∧
      (∃ valid, isValidIban text iban = .ok valid) ∧ (∃ x, amountRead text args = .ok x) ↔
    (¬ RulesRaise text args policy ∧ ∀ amount, parsedAmount text args = some amount →
        EarlierRefusal text args policy ∨ ¬ UnsoundAmount text args policy tracker amount) ∧
      ¬ FloatOverflows value ∧ ¬ LineEndIban text iban ∧ amountOverflows args = false := by
  have hSanity : (∃ o, valueSanity text value ceiling = .ok o ∧ FiniteLoss o) ↔
      ¬ FloatOverflows value := by
    rw [← @valueSanity_sound_iff text value ceiling]
    constructor
    · intro ⟨o, hOk, hLoss⟩
      have hAnswers : ¬ FloatOverflows value := by
        intro hOver
        unfold valueSanity floatCaught at hOk
        rw [if_pos hOver] at hOk
        cases hOk
      exact valueSanity_sound_iff.2 hAnswers
    · exact fun ⟨o, hOk, hLoss, _⟩ => ⟨o, hOk, hLoss⟩
  rw [sendMoneySound_iff, hSanity, isValidIban_answers, amountRead_answers]

/-- A negative amount passes without limits, an infinite one is reported as prevented, and an
integer of four hundred digits raises. -/
theorem negative_amount_passes :
    (∃ o, evaluateSendMoney Sample.text [("recipient", .str "acct"), ("amount", .int (-5))] {} {} =
        .ok o ∧ o.decision = .pass) ∧
      (∃ o, evaluateSendMoney Sample.text [("recipient", .str "acct"), ("amount", .float .inf)]
          { amountCap := some (.int 10000) } {} = .ok o ∧ o.preventedLoss = some .inf) ∧
      valueSanity Sample.text (.int (10 ^ 400)) = .error .overflowError ∧
      amountRead Sample.text [("amount", .int (10 ^ 400))] = .error .overflowError ∧
      isValidIban Sample.text "DE89370400440532013000\n" = .error .valueError ∧
      ¬ SendMoneySound Sample.text [("recipient", .str "acct"), ("amount", .int (-5))] {} {} := by
  have hPass : evaluateSendMoney Sample.text [("recipient", .str "acct"), ("amount", .int (-5))]
      {} {} = .ok { decision := .pass, label := "subject.clean" } := by
    decide +kernel
  have hLoss : (evaluateSendMoney Sample.text
      [("recipient", .str "acct"), ("amount", .float .inf)]
      { amountCap := some (.int 10000) } {}).toOption.map (·.preventedLoss) = some (some .inf) := by
    decide +kernel
  refine ⟨⟨_, hPass, rfl⟩, ?_, by decide +kernel, by decide +kernel, by decide +kernel, ?_⟩
  · cases hOutcome : evaluateSendMoney Sample.text
        [("recipient", .str "acct"), ("amount", .float .inf)]
        { amountCap := some (.int 10000) } {} with
    | error exc =>
        rw [hOutcome] at hLoss
        cases hLoss
    | ok o =>
        rw [hOutcome] at hLoss
        exact ⟨o, rfl, Option.some.inj hLoss⟩
  · intro ⟨o, hOk, hSane, _⟩
    rw [hPass] at hOk
    obtain rfl := Except.ok.inj hOk
    obtain ⟨q, hq, hPos⟩ := hSane rfl
    have hValue : parsedAmount Sample.text [("recipient", .str "acct"), ("amount", .int (-5))] =
        some (.finite (-5)) := by
      decide +kernel
    rw [hValue] at hq
    cases hq
    exact absurd hPos (by decide)

end AgentShield.Governance
