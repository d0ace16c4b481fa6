import AgentShield.Sdk.Envelope
import AgentShield.Sdk.SigningString
import AgentShield.Sdk.TextLength

/-!
# The signing string of what is read back

An envelope whose typed floats all have a JSON number has the signing string it
was signed with when it is read back.  A lost float leaves its field out, so that
the signing string is shorter than the one that was signed.
-/

namespace AgentShield.Sdk

open AgentShield.Lib

theorem modelObject_ne_null (excludeNone : Bool) (fields : List (String × Json)) :
    modelObject excludeNone fields ≠ .null := by
  intro h
  cases h

section Length

variable (text : FloatText)

/-- A float field that is read back. -/
private theorem fieldLength_storedFloat (x : Option PyFloat) (k : String) :
    text.fieldLength k (.ofOption .float (x.bind storedFloat)) ≤
        text.fieldLength k (.ofOption .float x) ∧
      (x.bind storedFloat ≠ x →
        text.fieldLength k (.ofOption .float (x.bind storedFloat)) <
          text.fieldLength k (.ofOption .float x)) := by
  have hLost : ∀ y : PyFloat, text.fieldLength k (.ofOption .float none) <
      text.fieldLength k (.float y) := by
    intro y
    have hPos := text.fieldLength_pos (x := .float y) (by simp) k
    have hNone : text.fieldLength k (.ofOption .float none) = 0 := rfl
    omega
  cases x with
  | none => exact ⟨Nat.le_refl _, fun h => absurd rfl h⟩
  | some x =>
      cases x with
      | finite q => exact ⟨Nat.le_refl _, fun h => absurd rfl h⟩
      | nan => exact ⟨Nat.le_of_lt (hLost _), fun _ => hLost _⟩
      | inf => exact ⟨Nat.le_of_lt (hLost _), fun _ => hLost _⟩
      | negInf => exact ⟨Nat.le_of_lt (hLost _), fun _ => hLost _⟩

/-! ## Payloads and records -/

theorem ActionPayload.fieldsLength_wire (p : ActionPayload) :
    text.length (p.wire.modelDump true) ≤ text.length (p.modelDump true) ∧
      (¬ Portable p → text.length (p.wire.modelDump true) < text.length (p.modelDump true)) := by
  have hArgs : text.fieldLength "tool_args" (.obj (Json.wireFields p.toolArgs)) =
      text.fieldLength "tool_args" (.obj p.toolArgs) :=
    text.fieldLength_wire (x := .obj p.toolArgs) (fun h => by cases h) _
  have hFloat := fieldLength_storedFloat text p.confidence "confidence"
  unfold ActionPayload.modelDump
  rw [text.length_modelObject, text.length_modelObject]
  simp only [FloatText.fieldsLength, ActionPayload.wire, hArgs]
  by_cases hResult : p.toolResult.wire = .null → p.toolResult = .null
  · rw [text.fieldLength_wire hResult]
    refine ⟨by omega, fun hLost => ?_⟩
    have hLt := hFloat.2 fun hSame => hLost ⟨hSame, hResult⟩
    have hArgsPos := text.fieldLength_pos (x := .obj p.toolArgs) (by simp) "tool_args"
    omega
  · simp only [Classical.not_imp] at hResult
    have hPos := text.fieldLength_pos hResult.2 "tool_result"
    have hZero : text.fieldLength "tool_result" p.toolResult.wire = 0 := by
      simp [FloatText.fieldLength, hResult.1]
    refine ⟨by omega, fun _ => ?_⟩
    omega

theorem recordSignableDict_wire {r : ShieldActionRecord} (h : Portable r.payload) :
    recordSignableDict r.wire = (recordSignableDict r).wire := by
  have hRef : (Json.ofOption .str r.verdictRef).wire = Json.ofOption .str r.verdictRef := by
    cases r.verdictRef <;> rfl
  have hAction : (r.action.modelDump true).wire = r.action.modelDump true := by
    obtain ⟨tool, argsDigest⟩ := r.action
    cases tool <;> cases argsDigest <;> rfl
  have hContext : (r.context.modelDump true).wire = r.context.modelDump true := by
    obtain ⟨checkpointId, langgraphThreadId, envSnapshotRef⟩ := r.context
    cases checkpointId <;> cases langgraphThreadId <;> cases envSnapshotRef <;> rfl
  rw [recordSignableDict_eq, recordSignableDict_eq]
  simp only [modelObject, if_true, Json.wire]
  rw [wireFields_filter]
  · simp only [ShieldActionRecord.signedFields, ShieldActionRecord.wire, Json.wireFields, Json.wire,
      hRef, hAction, hContext, h.modelDump_wire]
  · simp only [ShieldActionRecord.signedFields, List.mem_cons, List.not_mem_nil, or_false,
      forall_eq_or_imp, forall_eq, hRef, hAction, hContext, imp_self, true_and, and_true]
    and_intros <;>
      · intro hNull
        cases hNull

/-- A lost float shortens the signing string. -/
theorem length_recordSignableDict_wire {r : ShieldActionRecord} (h : ¬ Portable r.payload) :
    text.length (recordSignableDict r.wire) < text.length (recordSignableDict r) := by
  have hSubject : text.fieldLength "subject" (.obj (Json.wireFields r.subject)) =
      text.fieldLength "subject" (.obj r.subject) :=
    text.fieldLength_wire (x := .obj r.subject) (fun h => by cases h) _
  have hPayload : text.fieldLength "payload" (r.payload.wire.modelDump true) <
      text.fieldLength "payload" (r.payload.modelDump true) := by
    have hLt := (ActionPayload.fieldsLength_wire text r.payload).2 h
    exact text.fieldLength_lt (modelObject_ne_null _ _) hLt _
  rw [recordSignableDict_eq, recordSignableDict_eq]
  refine text.length_modelObject_lt ?_ ?_
  · simp only [ShieldActionRecord.signedFields, ShieldActionRecord.wire, FloatText.fieldsLength,
      hSubject, Nat.add_lt_add_iff_left]
    exact Nat.add_lt_add_right hPayload _
  · exact text.one_lt_fieldsLength (k := "shield_version") (x := .str r.shieldVersion)
      List.mem_cons_self (fun h => by cases h)

/-! ## Verdicts -/

/-- The signed fields of a verdict in the order of the dump: all of them but the signature
itself. -/
def GovernanceVerdict.signedFields (g : GovernanceVerdict) : List (String × Json) :=
  [("shield_version", .str g.shieldVersion),
   ("verdict_id", .str g.verdictId),
   ("record_id", .ofOption .str g.recordId),
   ("correlation_id", .str g.correlationId),
   ("run_id", .ofOption .str g.runId),
   ("decision", .str g.decision.value),
   ("risk_score", .float g.riskScore),
   ("reasons", .arr (g.reasons.map (VerdictReason.modelDump true))),
   ("obligations", g.obligations.modelDump true),
   ("latency_ms", .ofOption .float g.latencyMs),
   ("served_at", .ofOption .int g.servedAt),
   ("shield_kid", .ofOption .str g.shieldKid)]

theorem verdictSignableDict_eq (g : GovernanceVerdict) :
    verdictSignableDict g = modelObject true g.signedFields := by
  unfold verdictSignableDict GovernanceVerdict.modelDump signableDict modelObject
  simp only [if_true]
  rw [List.filter_comm]
  rfl

/-- Every float of the verdict has a JSON number, so that none of them is lost when the
verdict is written and read. -/
structure GovernanceVerdict.Portable (g : GovernanceVerdict) : Prop where
  riskScore : ∃ q, g.riskScore = .finite q
  scores : ∀ r ∈ g.reasons, r.score.bind storedFloat = r.score
  preventedLoss : g.obligations.preventedLoss.bind storedFloat = g.obligations.preventedLoss
  latencyMs : g.latencyMs.bind storedFloat = g.latencyMs

private theorem ofOption_str_wire (s : Option String) :
    (Json.ofOption .str s).wire = Json.ofOption .str s := by
  cases s <;> rfl

private theorem ofOption_float_wire {x : Option PyFloat} (h : x.bind storedFloat = x) :
    (Json.ofOption .float x).wire = Json.ofOption .float x := by
  cases x with
  | none => rfl
  | some x =>
      cases x with
      | finite q => rfl
      | nan => cases h
      | inf => cases h
      | negInf => cases h

theorem VerdictReason.modelDump_wire {r : VerdictReason} (h : r.score.bind storedFloat = r.score) :
    r.wire.modelDump true = (r.modelDump true).wire := by
  have hAgent : (Json.ofOption (fun a => .str a.value) r.agent).wire =
      Json.ofOption (fun a => .str a.value) r.agent := by
    cases r.agent <;> rfl
  have hVia : (Json.ofOption (fun v => .str v.value) r.servedVia).wire =
      Json.ofOption (fun v => .str v.value) r.servedVia := by
    cases r.servedVia <;> rfl
  unfold VerdictReason.modelDump modelObject
  simp only [if_true, Json.wire]
  rw [wireFields_filter]
  · simp only [Json.wireFields, VerdictReason.wire, h, hAgent, hVia, ofOption_str_wire,
      ofOption_float_wire h, Json.wire]
  · simp only [List.mem_cons, List.not_mem_nil, or_false, forall_eq_or_imp, forall_eq, hAgent,
      hVia, ofOption_str_wire, ofOption_float_wire h, imp_self, true_and, and_true]
    intro hNull
    cases hNull

theorem Obligations.modelDump_wire {o : Obligations}
    (h : o.preventedLoss.bind storedFloat = o.preventedLoss) :
    o.wire.modelDump true = (o.modelDump true).wire := by
  have hItems : ∀ args : List String, Json.wireItems (args.map .str) = args.map .str := by
    intro args
    induction args with
    | nil => rfl
    | cons arg args ih => simp [Json.wireItems, Json.wire, ih]
  have hMask : (Json.ofOption (fun args => .arr (args.map .str)) o.maskArgs).wire =
      Json.ofOption (fun args => .arr (args.map .str)) o.maskArgs := by
    cases o.maskArgs with
    | none => rfl
    | some args => exact congrArg Json.arr (hItems args)
  have hArgs : (Json.ofOption .obj o.rewriteArgs).wire =
      Json.ofOption .obj (o.rewriteArgs.map Json.wireFields) := by
    cases o.rewriteArgs <;> rfl
  have hArgsNull : Json.ofOption .obj (o.rewriteArgs.map Json.wireFields) = .null →
      Json.ofOption .obj o.rewriteArgs = .null := by
    intro hNull
    cases hRewrite : o.rewriteArgs with
    | none => rfl
    | some args =>
        rw [hRewrite] at hNull
        cases hNull
  have hHuman : (Json.ofOption .bool o.requireHuman).wire =
      Json.ofOption .bool o.requireHuman := by
    cases o.requireHuman <;> rfl
  have hRollback : (Json.ofOption (RollbackObligation.modelDump true) o.rollback).wire =
      Json.ofOption (RollbackObligation.modelDump true) o.rollback := by
    cases o.rollback with
    | none => rfl
    | some b =>
        obtain ⟨checkpoint, snapshot⟩ := b
        cases checkpoint <;> cases snapshot <;> rfl
  unfold Obligations.modelDump modelObject
  simp only [if_true, Json.wire]
  rw [wireFields_filter]
  · simp only [Json.wireFields, Obligations.wire, h, hMask, hArgs, hHuman, hRollback,
      ofOption_float_wire h]
  · simp only [List.mem_cons, List.not_mem_nil, or_false, forall_eq_or_imp, forall_eq, hMask,
      hArgs, hHuman, hRollback, ofOption_float_wire h, imp_self, true_and, and_true]
    exact hArgsNull

/-- A verdict whose floats have JSON numbers is read back with its signing string, field by
field in the order of the dump. -/
theorem verdictSignableDict_wire {g : GovernanceVerdict} (h : g.Portable) :
    verdictSignableDict g.wire = (verdictSignableDict g).wire := by
  obtain ⟨q, hRisk⟩ := h.riskScore
  have hRiskWire : (Json.float g.riskScore).wire = Json.float g.riskScore := by
    rw [hRisk]
    rfl
  have hServed : (Json.ofOption .int g.servedAt).wire = Json.ofOption .int g.servedAt := by
    cases g.servedAt <;> rfl
  have hReasons : ∀ rs : List VerdictReason,
      (∀ r ∈ rs, r.score.bind storedFloat = r.score) →
      (rs.map VerdictReason.wire).map (VerdictReason.modelDump true) =
        Json.wireItems (rs.map (VerdictReason.modelDump true)) := by
    intro rs
    induction rs with
    | nil => exact fun _ => rfl
    | cons r rs ih =>
        intro hScores
        have hRest := ih fun r hr => hScores r (List.mem_cons_of_mem _ hr)
        simp only [List.map_cons, Json.wireItems, hRest,
          VerdictReason.modelDump_wire (hScores r List.mem_cons_self)]
  rw [verdictSignableDict_eq, verdictSignableDict_eq]
  simp only [modelObject, if_true, Json.wire]
  rw [wireFields_filter]
  · simp only [GovernanceVerdict.signedFields, GovernanceVerdict.wire, Json.wireFields,
      hReasons _ h.scores, Obligations.modelDump_wire h.preventedLoss, h.latencyMs, hRisk,
      hServed, ofOption_str_wire, ofOption_float_wire h.latencyMs, Json.wire]
  · simp only [GovernanceVerdict.signedFields, List.mem_cons, List.not_mem_nil, or_false,
      forall_eq_or_imp, forall_eq, hRiskWire, hServed, ofOption_str_wire,
      ofOption_float_wire h.latencyMs, imp_self, true_and, and_true]
    and_intros <;>
      · intro hNull
        cases hNull

/-- A lost float shortens a reason. -/
theorem VerdictReason.length_wire (r : VerdictReason) :
    text.length (r.wire.modelDump true) ≤ text.length (r.modelDump true) ∧
      (r.score.bind storedFloat ≠ r.score →
        text.length (r.wire.modelDump true) < text.length (r.modelDump true)) := by
  have hFloat := fieldLength_storedFloat text r.score "score"
  have hPos := text.fieldLength_pos (x := .str r.label) (by simp) "label"
  unfold VerdictReason.modelDump
  rw [text.length_modelObject, text.length_modelObject]
  simp only [FloatText.fieldsLength, VerdictReason.wire]
  refine ⟨by omega, fun hLost => ?_⟩
  have hLt := hFloat.2 hLost
  omega

/-- A lost float shortens the obligations, and without one they are as long as before. -/
theorem Obligations.length_wire (o : Obligations) :
    text.length (o.wire.modelDump true) ≤ text.length (o.modelDump true) ∧
      (o.preventedLoss.bind storedFloat ≠ o.preventedLoss →
        text.length (o.wire.modelDump true) < text.length (o.modelDump true)) := by
  have hFloat := fieldLength_storedFloat text o.preventedLoss "prevented_loss"
  have hArgs : text.fieldLength "rewrite_args"
        (.ofOption .obj (o.rewriteArgs.map Json.wireFields)) =
      text.fieldLength "rewrite_args" (.ofOption .obj o.rewriteArgs) := by
    cases o.rewriteArgs with
    | none => rfl
    | some args => exact text.fieldLength_wire (x := .obj args) (fun h => by cases h) _
  unfold Obligations.modelDump
  rw [text.length_modelObject, text.length_modelObject]
  simp only [FloatText.fieldsLength, Obligations.wire, hArgs]
  refine ⟨by omega, fun hLost => ?_⟩
  have hLt := hFloat.2 hLost
  have hPos : 1 < text.fieldLength "prevented_loss" (.ofOption .float o.preventedLoss) := by
    refine text.fieldLength_pos (fun hNull => ?_) _
    cases hLoss : o.preventedLoss with
    | none => exact hLost (by rw [hLoss]; rfl)
    | some x =>
        rw [hLoss] at hNull
        cases hNull
  omega

private theorem itemsLength_reasons (rs : List VerdictReason) :
    text.itemsLength ((rs.map VerdictReason.wire).map (VerdictReason.modelDump true)) ≤
        text.itemsLength (rs.map (VerdictReason.modelDump true)) ∧
      ((∃ r ∈ rs, r.score.bind storedFloat ≠ r.score) →
        text.itemsLength ((rs.map VerdictReason.wire).map (VerdictReason.modelDump true)) <
            text.itemsLength (rs.map (VerdictReason.modelDump true)) ∧
          1 < text.itemsLength (rs.map (VerdictReason.modelDump true))) := by
  induction rs with
  | nil => simp [FloatText.itemsLength]
  | cons r rs ih =>
      have hHead := VerdictReason.length_wire text r
      simp only [List.map_cons, FloatText.itemsLength]
      refine ⟨by omega, ?_⟩
      rintro ⟨r', hMem, hLost⟩
      rcases List.mem_cons.1 hMem with rfl | hTail
      · have hLt := hHead.2 hLost
        omega
      · have hRest := ih.2 ⟨r', hTail, hLost⟩
        omega

/-- A lost float shortens the signing string of a verdict, so that it is another text and the
signature does not fit it. -/
theorem length_verdictSignableDict_wire {g : GovernanceVerdict}
    (hRisk : ∃ q, g.riskScore = .finite q) (h : ¬ g.Portable) :
    text.length (verdictSignableDict g.wire) < text.length (verdictSignableDict g) := by
  have hReasons := itemsLength_reasons text g.reasons
  have hObligations := Obligations.length_wire text g.obligations
  have hLatency := fieldLength_storedFloat text g.latencyMs "latency_ms"
  -- no field grows
  have hReasonsLe : text.fieldLength "reasons" (.arr ((g.reasons.map VerdictReason.wire).map
        (VerdictReason.modelDump true))) ≤
      text.fieldLength "reasons" (.arr (g.reasons.map (VerdictReason.modelDump true))) := by
    refine text.fieldLength_le (fun h => by cases h) ?_ _
    simp only [FloatText.length]
    omega
  have hObligationsLe : text.fieldLength "obligations" (g.obligations.wire.modelDump true) ≤
      text.fieldLength "obligations" (g.obligations.modelDump true) :=
    text.fieldLength_le (modelObject_ne_null _ _) hObligations.1 _
  -- and one shrinks
  have hLost : text.fieldLength "reasons" (.arr ((g.reasons.map VerdictReason.wire).map
          (VerdictReason.modelDump true))) <
        text.fieldLength "reasons" (.arr (g.reasons.map (VerdictReason.modelDump true))) ∨
      text.fieldLength "obligations" (g.obligations.wire.modelDump true) <
        text.fieldLength "obligations" (g.obligations.modelDump true) ∨
      text.fieldLength "latency_ms" (.ofOption .float (g.latencyMs.bind storedFloat)) <
        text.fieldLength "latency_ms" (.ofOption .float g.latencyMs) := by
    by_cases hScores : ∀ r ∈ g.reasons, r.score.bind storedFloat = r.score
    · by_cases hLoss : g.obligations.preventedLoss.bind storedFloat = g.obligations.preventedLoss
      · refine .inr (.inr (hLatency.2 fun hSame => ?_))
        exact h ⟨hRisk, hScores, hLoss, hSame⟩
      · refine .inr (.inl ?_)
        exact text.fieldLength_lt (modelObject_ne_null _ _) (hObligations.2 hLoss) _
    · refine .inl (text.fieldLength_lt (fun h => by cases h) ?_ _)
      have hLt := hReasons.2 (by simpa using hScores)
      simp only [FloatText.length]
      omega
  rw [verdictSignableDict_eq, verdictSignableDict_eq]
  refine text.length_modelObject_lt ?_ ?_
  · simp only [GovernanceVerdict.signedFields, GovernanceVerdict.wire, FloatText.fieldsLength,
      Nat.add_lt_add_iff_left]
    omega
  · exact text.one_lt_fieldsLength (k := "shield_version") (x := .str g.shieldVersion)
      List.mem_cons_self (fun h => by cases h)

end Length

end AgentShield.Sdk
