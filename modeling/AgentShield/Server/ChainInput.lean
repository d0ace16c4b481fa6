import AgentShield.Lib.Delimited
import AgentShield.Sdk.JsonText
import AgentShield.Server.Governance

/-!
# What a chain hash is computed from

The preimage of a chain hash is `prev|payload_hash|operation_id|issued_at`, without an
escape for a bar in a field.  The time is always read back.  The three texts are read
back where `prev|payload_hash|operation_id` can be cut into three texts that the
validators accept in one way only, and so whenever neither hash has a bar.
-/

namespace AgentShield.Server

open AgentShield.Lib AgentShield.Sdk

structure ChainInput where
  prevChainHash : String
  payloadHash : String
  operationId : String
  issuedAt : Int
  deriving DecidableEq

namespace ChainInput

def hash (prim : Primitives) (i : ChainInput) : String :=
  prim.computeChainHash i.prevChainHash i.payloadHash i.operationId i.issuedAt

/-- What is hashed for a signed operation, and for an action record. -/
def ofOperation (rec : OperationRecord) : ChainInput :=
  ⟨rec.prevChainHash, rec.payloadHash, rec.operationId, rec.issuedAt⟩

def ofAction (rec : ShieldActionRecord) : ChainInput :=
  ⟨rec.prevChainHash, rec.payloadHash, rec.recordId, rec.issuedAt⟩

/-- The validators of one of the ingest paths accept a record with these fields. -/
def Accepted (prim : Primitives) (i : ChainInput) : Prop :=
  (∃ rec receivedAt, validateRecordFields prim.toFloatText rec receivedAt = .ok () ∧
      i = ofOperation rec) ∨
    ∃ rec receivedAt phase, validateRecord prim rec receivedAt phase = .ok () ∧ i = ofAction rec

/-- The text before the time. -/
def fields (i : ChainInput) : List Char :=
  i.prevChainHash.toList ++ '|' :: (i.payloadHash.toList ++ '|' :: i.operationId.toList)

/-- Every way to cut a text at two bars into three texts that are not blank. -/
def fieldCuts (text : List Char) : List (List Char × List Char × List Char) :=
  ((Delimited.cuts '|' text).flatMap fun first =>
      (Delimited.cuts '|' first.2).map fun second => (first.1, second.1, second.2)).filter
    fun cut => !cut.1.all isSpace && !cut.2.1.all isSpace && !cut.2.2.all isSpace

/-- The fields can be cut in one way only. -/
def OneCut (i : ChainInput) : Prop :=
  ∀ cut ∈ fieldCuts i.fields,
    cut = (i.prevChainHash.toList, i.payloadHash.toList, i.operationId.toList)

instance (i : ChainInput) : Decidable i.OneCut :=
  inferInstanceAs (Decidable (∀ cut ∈ fieldCuts i.fields, _))

/-- Neither hash contains a bar. -/
def NoBar (i : ChainInput) : Prop :=
  '|' ∉ i.prevChainHash.toList ∧ '|' ∉ i.payloadHash.toList

variable {prim : Primitives} {i j : ChainInput}

/-- A signed operation with these fields that the validator accepts, for any ids and hashes
without restriction. -/
private def operationOf (i : ChainInput) : OperationRecord where
  opVersion := "1.0"
  operationId := i.operationId
  orgId := "o"
  agentId := "a"
  issuedAt := i.issuedAt
  ttlMs := maxTtlMs
  nonce := "n"
  operationType := "t"
  payloadHash := i.payloadHash
  prevChainHash := i.prevChainHash
  agentPubkeyKid := "k"
  signature := "s"

/-- What the validators ask of the four fields: three texts that are not blank, and a time
above zero. -/
theorem accepted_iff : i.Accepted prim ↔ blank i.prevChainHash = false ∧
    blank i.payloadHash = false ∧ blank i.operationId = false ∧ 0 < i.issuedAt := by
  constructor
  · rintro (⟨rec, receivedAt, hValid, rfl⟩ | ⟨rec, receivedAt, phase, hValid, rfl⟩)
    · unfold validateRecordFields at hValid
      rw [refuseIf_bind_ok, requireFields_bind_ok, refuseIf_bind_ok, refuseIf_bind_ok] at hValid
      obtain ⟨-, hStrings, -, hTime, -⟩ := hValid
      have hNotBlank : ∀ f ∈ requiredStrings rec, blank f.2 = false := hStrings
      exact ⟨hNotBlank ("prev_chain_hash", rec.prevChainHash) (by simp [requiredStrings]),
        hNotBlank ("payload_hash", rec.payloadHash) (by simp [requiredStrings]),
        hNotBlank ("operation_id", rec.operationId) (by simp [requiredStrings]), not_le.1 hTime⟩
    · unfold validateRecord at hValid
      rw [refuseIf_bind_ok, refuseIf_bind_ok, requireFields_bind_ok, refuseIf_bind_ok,
        refuseIf_bind_ok, refuseIf_bind_ok] at hValid
      obtain ⟨-, -, hStrings, -, -, hTime, -⟩ := hValid
      have hNotBlank : ∀ f ∈ requiredRecordFields rec, blank f.2 = false := hStrings
      exact ⟨hNotBlank ("prev_chain_hash", rec.prevChainHash) (by simp [requiredRecordFields]),
        hNotBlank ("payload_hash", rec.payloadHash) (by simp [requiredRecordFields]),
        hNotBlank ("record_id", rec.recordId) (by simp [requiredRecordFields]), not_le.1 hTime⟩
  · rintro ⟨hPrev, hPayload, hId, hTime⟩
    refine .inl ⟨operationOf i, i.issuedAt, ?_, rfl⟩
    unfold validateRecordFields
    rw [refuseIf_bind_ok, requireFields_bind_ok, refuseIf_bind_ok, refuseIf_bind_ok,
      refuseIf_bind_ok, refuseIf_bind_ok, refuseIf_bind_ok, refuseIf_ok]
    have hStrings : ∀ f ∈ requiredStrings (operationOf i), blank f.2 = false := by
      simp only [requiredStrings, operationOf, List.mem_cons, List.not_mem_nil, or_false]
      rintro f (rfl | rfl | rfl | rfl | rfl | rfl | rfl | rfl | rfl) <;>
        first | assumption | decide
    have hTtl : ¬ i.issuedAt + maxTtlMs < i.issuedAt := by
      have hPositive : (0 : Int) ≤ maxTtlMs := by decide
      omega
    have hVersion : ¬ (operationOf i).opVersion ≠ "1.0" := fun h => h rfl
    have hNonce : ¬ maxNonceLength < "n".length := by decide
    have hLow : ¬ maxTtlMs < minTtlMs := by decide
    exact ⟨hVersion, hStrings, hNonce, not_le.2 hTime, hLow, lt_irrefl _, hTtl,
      fun ⟨_, hMem, _⟩ => by cases hMem⟩

theorem mem_fieldCuts {text prev payload id : List Char} :
    (prev, payload, id) ∈ fieldCuts text ↔
      text = prev ++ '|' :: (payload ++ '|' :: id) ∧
        prev.all isSpace = false ∧ payload.all isSpace = false ∧ id.all isSpace = false := by
  simp only [fieldCuts, List.mem_filter, List.mem_flatMap, List.mem_map, Prod.exists,
    Prod.mk.injEq, Bool.and_eq_true, Bool.not_eq_true', and_assoc]
  constructor
  · rintro ⟨⟨prev', rest, hFirst, payload', id', hSecond, rfl, rfl, rfl⟩, hBlank⟩
    rw [Delimited.mem_cuts] at hFirst hSecond
    exact ⟨by rw [hFirst, hSecond], hBlank⟩
  · rintro ⟨rfl, hBlank⟩
    have hFirst := Delimited.mem_cuts.2 (rfl : prev ++ '|' :: (payload ++ '|' :: id) = _)
    have hSecond := Delimited.mem_cuts.2 (rfl : payload ++ '|' :: id = _)
    exact ⟨⟨prev, _, hFirst, payload, id, hSecond, rfl, rfl, rfl⟩, hBlank⟩

/-- A number has digits and perhaps a sign. -/
theorem notMem_toString {d : Char} (hDigit : d.isDigit = false) (hSign : d ≠ '-') (n : Int) :
    d ∉ (toString n).toList := by
  have hDigits : ∀ m : Nat, d ∉ Nat.toDigits 10 m := by
    intro m hMem
    have hIs := Nat.isDigit_of_mem_toDigits (b := 10) (by decide) (by decide) hMem
    rw [hDigit] at hIs
    cases hIs
  cases n with
  | ofNat m =>
      simpa [Int.toString_eq_repr, Int.repr, Nat.repr_eq_ofList_toDigits] using hDigits m
  | negSucc m =>
      simpa [Int.toString_eq_repr, Int.repr, Nat.repr_eq_ofList_toDigits, hSign] using
        hDigits (m + 1)

/-- A number has no bar. -/
theorem bar_notMem_toString (n : Int) : '|' ∉ (toString n).toList :=
  notMem_toString (by decide) (by decide) n

theorem toString_injective {m n : Int} (h : (toString m).toList = (toString n).toList) :
    m = n := by
  have hEnd : Json.NoDigit [] := fun c hc => by cases hc
  have hAppend : (toString m).toList ++ [] = (toString n).toList ++ [] := by rw [h]
  exact (Json.int_append_inj hEnd hEnd hAppend).1

/-- Equal hashes mean equal times, and equal texts before them. -/
theorem hash_eq_iff (hInjective : Function.Injective prim.sha256Base64url) :
    i.hash prim = j.hash prim ↔ i.fields = j.fields ∧ i.issuedAt = j.issuedAt := by
  have hPreimage : ∀ k : ChainInput, (k.prevChainHash ++ "|" ++ k.payloadHash ++ "|" ++
      k.operationId ++ "|" ++ toString k.issuedAt).toList =
        k.fields ++ '|' :: (toString k.issuedAt).toList := by
    intro k
    simp [fields]
  unfold hash Primitives.computeChainHash
  rw [hInjective.eq_iff, ← String.toList_inj, hPreimage i, hPreimage j]
  constructor
  · intro h
    obtain ⟨hFields, hTime⟩ :=
      Delimited.cut_last (bar_notMem_toString _) (bar_notMem_toString _) h
    exact ⟨hFields, toString_injective hTime⟩
  · rintro ⟨hFields, hTime⟩
    rw [hFields, hTime]

theorem eq_of_fields (hTime : i.issuedAt = j.issuedAt)
    (hPrev : i.prevChainHash.toList = j.prevChainHash.toList)
    (hPayload : i.payloadHash.toList = j.payloadHash.toList)
    (hId : i.operationId.toList = j.operationId.toList) : i = j := by
  obtain ⟨prev, payload, id, time⟩ := i
  obtain ⟨prev', payload', id', time'⟩ := j
  simp only [String.toList_inj] at hTime hPrev hPayload hId
  rw [hTime, hPrev, hPayload, hId]

/-- Texts without a bar in the hashes are cut in one way. -/
theorem eq_of_noBar (hi : i.NoBar) (hj : j.NoBar) (hTime : i.issuedAt = j.issuedAt)
    (h : i.fields = j.fields) : i = j := by
  obtain ⟨hPrev, hRest⟩ := Delimited.cut_first hi.1 hj.1 h
  obtain ⟨hPayload, hId⟩ := Delimited.cut_first hi.2 hj.2 hRest
  exact eq_of_fields hTime hPrev hPayload hId

end ChainInput

/-- **Chain-hash input.**  Of the inputs that the validators accept, one is determined by
its hash exactly when its fields can be cut in one way only.  Inputs whose hashes have
no bar are determined by theirs among each other. -/
theorem chainHash_determines_input {prim : Primitives}
    (hInjective : Function.Injective prim.sha256Base64url) {i : ChainInput}
    (hi : i.Accepted prim) :
    ((∀ j : ChainInput, j.Accepted prim → i.hash prim = j.hash prim → i = j) ↔ i.OneCut) ∧
      ∀ j : ChainInput, i.NoBar → j.NoBar → i.hash prim = j.hash prim → i = j := by
  refine ⟨⟨fun h cut hCut => ?_, fun h j hj hHash => ?_⟩, fun j hBar hBar' hHash => ?_⟩
  · obtain ⟨prev, payload, id⟩ := cut
    obtain ⟨hText, hPrev, hPayload, hId⟩ := ChainInput.mem_fieldCuts.1 hCut
    have hTime := (ChainInput.accepted_iff.1 hi).2.2.2
    let j : ChainInput :=
      ⟨String.ofList prev, String.ofList payload, String.ofList id, i.issuedAt⟩
    have hj : j.Accepted prim := by
      rw [ChainInput.accepted_iff]
      simp only [j, blank, String.toList_ofList]
      exact ⟨hPrev, hPayload, hId, hTime⟩
    have hFields : i.fields = j.fields := by
      rw [hText]
      simp only [j, ChainInput.fields, String.toList_ofList]
    have hSame := h j hj ((ChainInput.hash_eq_iff hInjective).2 ⟨hFields, rfl⟩)
    rw [hSame]
    simp only [j, String.toList_ofList]
  · obtain ⟨hFields, hTime⟩ := (ChainInput.hash_eq_iff hInjective).1 hHash
    obtain ⟨hPrev, hPayload, hId, -⟩ := ChainInput.accepted_iff.1 hj
    have hCut := h (j.prevChainHash.toList, j.payloadHash.toList, j.operationId.toList)
      (ChainInput.mem_fieldCuts.2 ⟨hFields, hPrev, hPayload, hId⟩)
    simp only [Prod.mk.injEq] at hCut
    exact ChainInput.eq_of_fields hTime hCut.1.symm hCut.2.1.symm hCut.2.2.symm
  · obtain ⟨hFields, hTime⟩ := (ChainInput.hash_eq_iff hInjective).1 hHash
    exact ChainInput.eq_of_noBar hBar hBar' hTime hFields

namespace Sample

/-- Two inputs that differ in where a bar stands. -/
def barLeft : ChainInput := ⟨genesisChainHash, "h|x", "op", 1000⟩

def barRight : ChainInput := ⟨genesisChainHash, "h", "x|op", 1000⟩

/-- An input without any bar. -/
def barFree : ChainInput := ⟨genesisChainHash, "h", "op", 1000⟩

end Sample

/-- A hash without collisions does not tell the two inputs apart. -/
theorem moved_bar_same_chain_hash :
    Function.Injective Sample.settings.prim.sha256Base64url ∧
    Sample.barLeft.Accepted Sample.settings.prim ∧ Sample.barRight.Accepted Sample.settings.prim ∧
      Sample.barLeft.hash Sample.settings.prim = Sample.barRight.hash Sample.settings.prim ∧
      Sample.barLeft ≠ Sample.barRight :=
  ⟨fun _ _ h => h, ChainInput.accepted_iff.2 (by decide), ChainInput.accepted_iff.2 (by decide),
    by decide, by decide⟩

theorem chainHash_determines_input_sample :
    Sample.barFree.OneCut ∧ Sample.barFree.hash Sample.settings.prim ≠
      Sample.barRight.hash Sample.settings.prim := by
  have hOneCut : Sample.barFree.OneCut := by decide
  have hAccepted : Sample.barFree.Accepted Sample.settings.prim :=
    ChainInput.accepted_iff.2 (by decide)
  have hDetermines := chainHash_determines_input (fun _ _ h => h) hAccepted
  refine ⟨hOneCut, fun hHash => ?_⟩
  have hSame := hDetermines.1.2 hOneCut Sample.barRight
    (ChainInput.accepted_iff.2 (by decide)) hHash
  exact absurd hSame (by decide)

end AgentShield.Server
