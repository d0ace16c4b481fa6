import AgentShield.Sdk.Canonical
import AgentShield.Sdk.JsonText

/-!
# What a signing string says

The signing string of a record without floats determines every signed field of
the record, and is determined by them: a model's object has one entry for each
field that is set, and entries under different names cannot be exchanged.
-/

namespace AgentShield.Sdk

open AgentShield.Lib

/-! ## Objects with the same keys -/

namespace Json

theorem map_fst_orderedFields (xs : List (String × Json)) :
    (orderedFields xs).map Prod.fst = xs.map Prod.fst := by
  induction xs with
  | nil => rfl
  | cons x xs ih =>
      obtain ⟨k, v⟩ := x
      simp [orderedFields, ih]

theorem get?_orderedFields (xs : List (String × Json)) (key : String) :
    Dict.get? (orderedFields xs) key = (Dict.get? xs key).map ordered := by
  induction xs with
  | nil => rfl
  | cons x xs ih =>
      obtain ⟨k, v⟩ := x
      by_cases hk : k = key
      · simp [orderedFields, Dict.get?, hk]
      · simp [orderedFields, Dict.get?, hk, ih]

/-- A field is found in whatever order the entries are. -/
theorem field?_ordered {xs : List (String × Json)} (hNames : (xs.map Prod.fst).Nodup)
    (key : String) : (Json.obj xs).ordered.field? key = ((Json.obj xs).field? key).map ordered := by
  have hSort := List.perm_insertionSort (fun p q : String × Json => p.1 ≤ q.1) (orderedFields xs)
  have hNames' : ((orderedFields xs).map Prod.fst).Nodup := by
    rwa [map_fst_orderedFields]
  show Dict.get? ((orderedFields xs).insertionSort fun p q => p.1 ≤ q.1) key =
    (Dict.get? xs key).map ordered
  rw [← Dict.get?_perm hNames' hSort.symm, get?_orderedFields]

theorem ordered_eq_null {x : Json} : x.ordered = .null ↔ x = .null := by
  cases x <;> simp [ordered]

/-- Two objects are the same when their entries are, in whatever order, as names are distinct.
-/
theorem same_obj_iff_perm {xs ys : List (String × Json)} (hx : (xs.map Prod.fst).Nodup) :
    Same (.obj xs) (.obj ys) ↔ (orderedFields xs).Perm (orderedFields ys) := by
  have hSorted : ∀ l : List (String × Json),
      (l.insertionSort fun p q => p.1 ≤ q.1).Pairwise fun p q => p.1 ≤ q.1 := by
    intro l
    have hTotal : Std.Total fun p q : String × Json => p.1 ≤ q.1 :=
      ⟨fun p q => String.le_total p.1 q.1⟩
    have hTrans : IsTrans (String × Json) fun p q => p.1 ≤ q.1 :=
      ⟨fun _ _ _ => String.le_trans⟩
    exact List.pairwise_insertionSort _ l
  have hPerm := List.perm_insertionSort fun p q : String × Json => p.1 ≤ q.1
  simp only [Same, ordered, obj.injEq]
  constructor
  · intro h
    exact (hPerm _).symm.trans (h ▸ hPerm _)
  · intro h
    refine List.Perm.eq_of_pairwise ?_ (hSorted _) (hSorted _)
      ((hPerm _).trans (h.trans (hPerm _).symm))
    -- entries with one key are one entry
    rintro p q hp hq hle hge
    have hKeys : ((orderedFields xs).map Prod.fst).Nodup := by
      rwa [map_fst_orderedFields]
    refine List.inj_on_of_nodup_map hKeys ((List.mem_insertionSort _).1 hp) ?_
      (String.le_antisymm hle hge)
    exact h.mem_iff.2 ((List.mem_insertionSort _).1 hq)

/-- Two objects with unique keys are the same when the keys have the same values. -/
theorem same_obj_iff {xs ys : List (String × Json)} (hx : (xs.map Prod.fst).Nodup)
    (hy : (ys.map Prod.fst).Nodup) :
    Same (.obj xs) (.obj ys) ↔
      ∀ key, (Dict.get? xs key).map ordered = (Dict.get? ys key).map ordered := by
  rw [same_obj_iff_perm hx]
  simp only [← get?_orderedFields]
  rw [← map_fst_orderedFields] at hx hy
  rw [List.perm_ext_iff_of_nodup hx.of_map hy.of_map]
  constructor
  · intro h key
    apply Option.ext
    intro v
    rw [Dict.get?_eq_some_iff hx, Dict.get?_eq_some_iff hy, h]
  · rintro h ⟨key, v⟩
    rw [← Dict.get?_eq_some_iff hx, ← Dict.get?_eq_some_iff hy, h]

/-- Two lists of fields under the same names that agree on the fields that are set. -/
private theorem eq_of_mem_iff {xs ys : List (String × Json)}
    (hKeys : xs.map Prod.fst = ys.map Prod.fst) (hNodup : (xs.map Prod.fst).Nodup)
    (h : ∀ f : String × Json, f.2 ≠ .null → (f ∈ xs ↔ f ∈ ys)) : xs = ys := by
  induction xs generalizing ys with
  | nil =>
      cases ys with
      | nil => rfl
      | cons y ys => simp at hKeys
  | cons x xs ih =>
      cases ys with
      | nil => simp at hKeys
      | cons y ys =>
          obtain ⟨k, v⟩ := x
          obtain ⟨k', w⟩ := y
          simp only [List.map_cons, List.cons.injEq] at hKeys hNodup
          obtain ⟨rfl, hKeys⟩ := hKeys
          simp only [List.nodup_cons] at hNodup
          have hNotX : ∀ u, (k, u) ∉ xs := fun u hu => hNodup.1 (List.mem_map_of_mem hu)
          have hNotY : ∀ u, (k, u) ∉ ys := fun u hu =>
            hNodup.1 (hKeys ▸ List.mem_map_of_mem (f := Prod.fst) hu)
          have hHead : v = w := by
            by_cases hv : v = .null
            · by_contra hNe
              have hw : w ≠ .null := fun hw => hNe (hv.trans hw.symm)
              have hIn := (h (k, w) hw).2 List.mem_cons_self
              rcases List.mem_cons.1 hIn with hEq | hIn
              · exact hNe (Prod.mk.inj hEq).2.symm
              · exact hNotX w hIn
            · have hIn := (h (k, v) hv).1 List.mem_cons_self
              rcases List.mem_cons.1 hIn with hEq | hIn
              · exact (Prod.mk.inj hEq).2
              · exact absurd hIn (hNotY v)
          subst hHead
          refine congrArg _ (ih hKeys hNodup.2 fun f hf => ?_)
          have hBoth := h f hf
          simp only [List.mem_cons] at hBoth
          constructor
          · intro hIn
            rcases hBoth.1 (.inr hIn) with rfl | hIn'
            · exact absurd hIn (hNotX v)
            · exact hIn'
          · intro hIn
            rcases hBoth.2 (.inr hIn) with rfl | hIn'
            · exact absurd hIn (hNotY v)
            · exact hIn'

/-- Two models of one kind are the same without their `None` fields when each
field is the same. -/
theorem same_modelObject_iff {xs ys : List (String × Json)}
    (hKeys : xs.map Prod.fst = ys.map Prod.fst) (hNodup : (xs.map Prod.fst).Nodup) :
    Same (modelObject true xs) (modelObject true ys) ↔ orderedFields xs = orderedFields ys := by
  have hFilter : ∀ l : List (String × Json), orderedFields (l.filter fun f => f.2 ≠ .null) =
      (orderedFields l).filter fun f => f.2 ≠ .null := by
    intro l
    induction l with
    | nil => rfl
    | cons x l ih =>
        obtain ⟨k, v⟩ := x
        by_cases hv : v = .null
        · subst hv
          simpa [orderedFields, ordered] using ih
        · simpa [orderedFields, hv, ordered_eq_null] using ih
  have hSub : ((xs.filter fun f => f.2 ≠ .null).map Prod.fst).Nodup :=
    hNodup.sublist (List.filter_sublist.map _)
  simp only [modelObject, if_true]
  rw [same_obj_iff_perm hSub, hFilter, hFilter]
  constructor
  · intro h
    have hMem : ∀ f : String × Json, f.2 ≠ .null →
        (f ∈ orderedFields xs ↔ f ∈ orderedFields ys) := by
      intro f hf
      simpa [hf] using h.mem_iff (a := f)
    rw [← map_fst_orderedFields, ← map_fst_orderedFields ys] at hKeys
    rw [← map_fst_orderedFields] at hNodup
    exact eq_of_mem_iff hKeys hNodup hMem
  · intro h
    rw [h]

end Json

/-! ## Fields of models -/

section Fields

open Json

private theorem ordered_ofOption_str_inj {s t : Option String} :
    (ofOption .str s).ordered = (ofOption .str t).ordered ↔ s = t := by
  cases s <;> cases t <;> simp [ofOption, ordered]

theorem Phase.value_inj {p q : Phase} : p.value = q.value ↔ p = q := by
  cases p <;> cases q <;> decide

theorem ActionType.value_inj {a b : ActionType} : a.value = b.value ↔ a = b := by
  cases a <;> cases b <;> decide

theorem LLMUsage.same_modelDump_iff {u v : LLMUsage} :
    Same (u.modelDump true) (v.modelDump true) ↔ u = v := by
  obtain ⟨model, promptTokens, completionTokens⟩ := u
  obtain ⟨model', promptTokens', completionTokens'⟩ := v
  unfold LLMUsage.modelDump
  refine (same_modelObject_iff ?_ ?_).trans ?_
  · rfl
  · simp
  · simp [orderedFields, ordered_ofOption_str_inj, ordered]

theorem ActionContext.same_modelDump_iff {c d : ActionContext} :
    Same (c.modelDump true) (d.modelDump true) ↔ c = d := by
  obtain ⟨checkpointId, langgraphThreadId, envSnapshotRef⟩ := c
  obtain ⟨checkpointId', langgraphThreadId', envSnapshotRef'⟩ := d
  unfold ActionContext.modelDump
  refine (same_modelObject_iff ?_ ?_).trans ?_
  · rfl
  · simp
  · simp [orderedFields, ordered_ofOption_str_inj]

theorem ActionRef.same_modelDump_iff {a b : ActionRef} :
    Same (a.modelDump true) (b.modelDump true) ↔ a = b := by
  obtain ⟨tool, argsDigest⟩ := a
  obtain ⟨tool', argsDigest'⟩ := b
  unfold ActionRef.modelDump
  refine (same_modelObject_iff ?_ ?_).trans ?_
  · rfl
  · simp
  · simp [orderedFields, ordered_ofOption_str_inj]

private theorem same_llm_iff {u v : Option LLMUsage} :
    (ofOption (LLMUsage.modelDump true) u).ordered =
      (ofOption (LLMUsage.modelDump true) v).ordered ↔ u = v := by
  cases u with
  | none => cases v <;> simp [ofOption, LLMUsage.modelDump, modelObject, ordered]
  | some u =>
      cases v with
      | none => simp [ofOption, LLMUsage.modelDump, modelObject, ordered]
      | some v =>
          rw [Option.some.injEq]
          exact LLMUsage.same_modelDump_iff

/-- Payloads without a confidence are the same when their fields are. -/
theorem ActionPayload.same_modelDump_iff {p q : ActionPayload} (hp : p.confidence = none)
    (hq : q.confidence = none) :
    Same (p.modelDump true) (q.modelDump true) ↔
      p.toolName = q.toolName ∧ Same (.obj p.toolArgs) (.obj q.toolArgs) ∧
        Same p.toolResult q.toolResult ∧ p.toolError = q.toolError ∧ p.llm = q.llm := by
  unfold ActionPayload.modelDump
  refine (same_modelObject_iff ?_ ?_).trans ?_
  · rfl
  · simp
  · simp [orderedFields, ordered_ofOption_str_inj, same_llm_iff, hp, hq, Same]

end Fields

/-! ## The signing string of a record -/

namespace ShieldActionRecord

/-- No field of the record holds a float, at any depth of the open fields. -/
structure FloatFree (r : ShieldActionRecord) : Prop where
  subject : Json.FloatFree (.obj r.subject)
  toolArgs : Json.FloatFree (.obj r.payload.toolArgs)
  toolResult : Json.FloatFree r.payload.toolResult
  confidence : r.payload.confidence = none

/-- The record without its open maps and without its unsigned fields. -/
def closedPart (r : ShieldActionRecord) : ShieldActionRecord :=
  { r with
    subject := []
    payload := { r.payload with toolArgs := [], toolResult := .null }
    chainHash := none
    signature := none }

/-- The records agree on every signed field.  The open fields agree as objects, whatever the
order of their members. -/
structure Agrees (r s : ShieldActionRecord) : Prop where
  closed : r.closedPart = s.closedPart
  subject : Json.Same (.obj r.subject) (.obj s.subject)
  toolArgs : Json.Same (.obj r.payload.toolArgs) (.obj s.payload.toolArgs)
  toolResult : Json.Same r.payload.toolResult s.payload.toolResult

/-- The signed fields in the order of the dump, the payload hash and the previous chain hash
among them, the signature left out. -/
def signedFields (r : ShieldActionRecord) : List (String × Json) :=
  [("shield_version", .str r.shieldVersion),
   ("record_id", .str r.recordId),
   ("correlation_id", .str r.correlationId),
   ("org_id", .str r.orgId),
   ("agent_id", .str r.agentId),
   ("workflow_id", .str r.workflowId),
   ("run_id", .str r.runId),
   ("step_index", .int r.stepIndex),
   ("issued_at", .int r.issuedAt),
   ("ttl_ms", .int r.ttlMs),
   ("nonce", .str r.nonce),
   ("phase", .str r.phase.value),
   ("action_type", .str r.actionType.value),
   ("operation_type", .str r.operationType),
   ("subject", .obj r.subject),
   ("action", r.action.modelDump true),
   ("payload", r.payload.modelDump true),
   ("context", r.context.modelDump true),
   ("payload_hash", .str r.payloadHash),
   ("prev_chain_hash", .str r.prevChainHash),
   ("agent_pubkey_kid", .str r.agentPubkeyKid),
   ("verdict_ref", .ofOption .str r.verdictRef)]

end ShieldActionRecord

/-- What is signed is the model of the signed fields. -/
theorem recordSignableDict_eq (r : ShieldActionRecord) :
    recordSignableDict r = modelObject true r.signedFields := by
  unfold recordSignableDict ShieldActionRecord.modelDump signableDict modelObject
  simp only [if_true]
  rw [List.filter_comm]
  rfl

theorem floatFree_modelObject {fields : List (String × Json)}
    (h : ∀ f ∈ fields, Json.FloatFree f.2) : Json.FloatFree (modelObject true fields) := by
  simp only [modelObject, if_true, Json.FloatFree, Json.floatFreeFields_iff]
  exact fun f hf => h f (List.mem_of_mem_filter hf)

private theorem floatFree_ofOption_str (s : Option String) :
    Json.FloatFree (.ofOption .str s) := by
  cases s <;> trivial

theorem ActionPayload.floatFree_modelDump {p : ActionPayload}
    (hArgs : Json.FloatFree (.obj p.toolArgs)) (hResult : Json.FloatFree p.toolResult)
    (hConfidence : p.confidence = none) : Json.FloatFree (p.modelDump true) := by
  have hUsage : Json.FloatFree (.ofOption (LLMUsage.modelDump true) p.llm) := by
    cases p.llm with
    | none => trivial
    | some u =>
        refine floatFree_modelObject ?_
        simp [floatFree_ofOption_str, Json.FloatFree]
  refine floatFree_modelObject ?_
  simp only [List.mem_cons, List.not_mem_nil, or_false, forall_eq_or_imp, forall_eq,
    floatFree_ofOption_str, hConfidence, true_and]
  exact ⟨hArgs, hResult, hUsage, trivial⟩

theorem ShieldActionRecord.FloatFree.recordSignableDict {r : ShieldActionRecord}
    (h : r.FloatFree) : Json.FloatFree (recordSignableDict r) := by
  have hAction : Json.FloatFree (r.action.modelDump true) := by
    refine floatFree_modelObject ?_
    simp [floatFree_ofOption_str]
  have hContext : Json.FloatFree (r.context.modelDump true) := by
    refine floatFree_modelObject ?_
    simp [floatFree_ofOption_str]
  have hPayload := ActionPayload.floatFree_modelDump h.toolArgs h.toolResult h.confidence
  have hSubject : Json.FloatFreeFields r.subject := h.subject
  rw [recordSignableDict_eq]
  refine floatFree_modelObject ?_
  simp only [signedFields, List.mem_cons, List.not_mem_nil, or_false, forall_eq_or_imp, forall_eq,
    floatFree_ofOption_str, hSubject, hAction, hContext, hPayload, Json.FloatFree, and_self]

/-- The projections are the same exactly when the records agree: the closed fields are
compared as they are and the open ones as objects. -/
theorem same_recordSignableDict_iff {r s : ShieldActionRecord} (hr : r.FloatFree)
    (hs : s.FloatFree) :
    Json.Same (recordSignableDict r) (recordSignableDict s) ↔ r.Agrees s := by
  rw [recordSignableDict_eq, recordSignableDict_eq]
  refine (Json.same_modelObject_iff ?_ ?_).trans ?_
  · rfl
  · simp [ShieldActionRecord.signedFields]
  · have hPayload := ActionPayload.same_modelDump_iff hr.confidence hs.confidence
    have hAction := ActionRef.same_modelDump_iff (a := r.action) (b := s.action)
    have hContext := ActionContext.same_modelDump_iff (c := r.context) (d := s.context)
    simp only [Json.Same] at hPayload hAction hContext
    simp only [ShieldActionRecord.signedFields, Json.orderedFields, ordered_ofOption_str_inj,
      hPayload, hAction, hContext, List.cons.injEq, Prod.mk.injEq, true_and, and_true,
      Json.ordered, Json.str.injEq, Json.int.injEq, Nat.cast_inj, Phase.value_inj,
      ActionType.value_inj]
    constructor
    · rintro ⟨hVersion, hRecord, hCorrelation, hOrg, hAgent, hWorkflow, hRun, hStep, hIssued, hTtl,
        hNonce, hPhase, hType, hOperation, hSubject, hAction, ⟨hTool, hArgs, hResult, hError, hLlm⟩,
        hContext, hHash, hPrev, hKid, hRef⟩
      refine ⟨?_, hSubject, hArgs, hResult⟩
      simp [ShieldActionRecord.closedPart, hr.confidence, hs.confidence, *]
    · rintro ⟨hClosed, hSubject, hArgs, hResult⟩
      simp only [ShieldActionRecord.closedPart, ShieldActionRecord.mk.injEq,
        ActionPayload.mk.injEq, true_and, and_true] at hClosed
      obtain ⟨hVersion, hRecord, hCorrelation, hOrg, hAgent, hWorkflow, hRun, hStep, hIssued, hTtl,
        hNonce, hPhase, hType, hOperation, hAction, ⟨hTool, hError, hLlm, -⟩, hContext, hHash,
        hPrev, hKid, hRef⟩ := hClosed
      exact ⟨hVersion, hRecord, hCorrelation, hOrg, hAgent, hWorkflow, hRun, hStep, hIssued, hTtl,
        hNonce, hPhase, hType, hOperation, hSubject, hAction, ⟨hTool, hArgs, hResult, hError, hLlm⟩,
        hContext, hHash, hPrev, hKid, hRef⟩

/-- **A signing string says what was signed**: records without floats have one signing
string exactly when they agree on every signed field, and values without floats have
one canonical text exactly when they are the same. -/
theorem signing_string_faithful (prim : Primitives) :
    (∀ r s : ShieldActionRecord, r.FloatFree → s.FloatFree →
      (recordSigningString prim r = recordSigningString prim s ↔ r.Agrees s)) ∧
    ∀ x y : Json, x.FloatFree → y.FloatFree →
      (prim.jcsCanonicalize x = prim.jcsCanonicalize y ↔ x.Same y) := by
  refine ⟨fun r s hr hs => ?_, fun x y hx hy => ?_⟩
  · rw [← same_recordSignableDict_iff hr hs]
    exact Json.jcsCanonicalize_eq_iff _ hr.recordSignableDict hs.recordSignableDict
  · exact Json.jcsCanonicalize_eq_iff _ hx hy

namespace Sample

/-- A transfer whose arguments are the given ones, and which differs from another in nothing
else. -/
def signedTransfer (toolArgs : List (String × Json)) : ShieldActionRecord where
  recordId := "r1"
  correlationId := "c1"
  runId := "run1"
  issuedAt := 1
  nonce := "n1"
  phase := .preExec
  payload := { toolArgs }

end Sample

/-- The order of the arguments is not signed, their values are. -/
theorem signing_string_faithful_sample :
    recordSigningString Sample.prim (Sample.signedTransfer [("a", .int 1), ("b", .int 2)]) =
        recordSigningString Sample.prim (Sample.signedTransfer [("b", .int 2), ("a", .int 1)]) ∧
      recordSigningString Sample.prim (Sample.signedTransfer [("a", .int 1)]) ≠
        recordSigningString Sample.prim (Sample.signedTransfer [("a", .str "1")]) ∧
      Sample.prim.jcsCanonicalize (.arr [.int 1, .int 2]) ≠
        Sample.prim.jcsCanonicalize (.arr [.int 12]) := by
  have hFree : ∀ toolArgs, Json.FloatFree (.obj toolArgs) →
      (Sample.signedTransfer toolArgs).FloatFree :=
    fun toolArgs h => ⟨trivial, h, trivial, rfl⟩
  have hBoth := signing_string_faithful Sample.prim
  refine ⟨?_, ?_, ?_⟩
  · rw [hBoth.1 _ _ (hFree _ (by simp [Json.FloatFree, Json.FloatFreeFields]))
      (hFree _ (by simp [Json.FloatFree, Json.FloatFreeFields]))]
    exact ⟨rfl, rfl, by decide, rfl⟩
  · rw [ne_eq, hBoth.1 _ _ (hFree _ (by simp [Json.FloatFree, Json.FloatFreeFields]))
      (hFree _ (by simp [Json.FloatFree, Json.FloatFreeFields]))]
    rintro ⟨-, -, hArgs, -⟩
    exact absurd hArgs (by decide)
  · rw [ne_eq, hBoth.2 _ _ (by simp [Json.FloatFree, Json.FloatFreeItems])
      (by simp [Json.FloatFree, Json.FloatFreeItems])]
    decide

end AgentShield.Sdk
