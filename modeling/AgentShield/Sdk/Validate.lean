import AgentShield.Sdk.Schema

/-!
# Reading a stored model

How pydantic reads the fields of a document, and with them the payload of an
action record.  A stored payload is read as the payload that was stored
(`ActionPayload.modelValidate_modelDump`), and what is read has the canonical form of
what was stored unless a float without a JSON number was lost
(`Portable.modelDump_wire`).
-/

namespace AgentShield.Sdk

open AgentShield.Lib

/-- How pydantic reads an `int` and a `float` field: a number of the type as
itself, other values as its lax mode does. -/
structure Pydantic where
  intOf : Json → Option Int
  floatOf : Json → Option PyFloat
  intOf_int : ∀ i, intOf (.int i) = some i
  floatOf_finite : ∀ q, floatOf (.float (.finite q)) = some (.finite q)

/-- The value of a field with a default, or a validation error. -/
def readField {α : Type} (doc : Json) (key : String) (fallback : α)
    (parse : Json → Option α) : Option α :=
  match doc.field? key with
  | none => some fallback
  | some value => parse value

def parseStr : Json → Option String
  | .str s => some s
  | _ => none

def parseDict : Json → Option (List (String × Json))
  | .obj fields => some fields
  | _ => none

/-! ## The payload of an action record -/

section Reading

variable (py : Pydantic)

/-- An optional field: `null` is `None`. -/
def parseOption {α : Type} (parse : Json → Option α) : Json → Option (Option α)
  | .null => some none
  | value => (parse value).map some

/-- The fields of a document that has no other fields than `names`. -/
def closedFields (names : List String) : Json → Option (List (String × Json))
  | .obj fields => if fields.all (fun f => f.1 ∈ names) then some fields else none
  | _ => none

def llmUsageFields : List String := ["model", "prompt_tokens", "completion_tokens"]

def actionPayloadFields : List String :=
  ["tool_name", "tool_args", "tool_result", "tool_error", "llm", "confidence"]

/-- A usage read from a value. -/
def LLMUsage.modelValidate (doc : Json) : Option LLMUsage := do
  let _ ← closedFields llmUsageFields doc
  return {
    model := ← readField doc "model" none (parseOption parseStr)
    promptTokens := ← readField doc "prompt_tokens" 0 py.intOf
    completionTokens := ← readField doc "completion_tokens" 0 py.intOf }

/-- A payload read from a value: its fields are known, and each has its type. -/
def ActionPayload.modelValidate (doc : Json) : Option ActionPayload := do
  let _ ← closedFields actionPayloadFields doc
  return {
    toolName := ← readField doc "tool_name" none (parseOption parseStr)
    toolArgs := ← readField doc "tool_args" [] parseDict
    toolResult := ← readField doc "tool_result" .null some
    toolError := ← readField doc "tool_error" none (parseOption parseStr)
    llm := ← readField doc "llm" none (parseOption (LLMUsage.modelValidate py))
    confidence := ← readField doc "confidence" none (parseOption py.floatOf) }

end Reading

/-- A float as it is read back: one without a JSON number is gone. -/
def storedFloat : PyFloat → Option PyFloat
  | .finite q => some (.finite q)
  | _ => none

/-- A payload as it is read back from the store. -/
def ActionPayload.wire (p : ActionPayload) : ActionPayload :=
  { p with
    toolArgs := Json.wireFields p.toolArgs
    toolResult := p.toolResult.wire
    confidence := p.confidence.bind storedFloat }

theorem LLMUsage.modelDump_wire (u : LLMUsage) (excludeNone : Bool) :
    (u.modelDump excludeNone).wire = u.modelDump excludeNone := by
  obtain ⟨model, promptTokens, completionTokens⟩ := u
  cases model <;> cases excludeNone <;> rfl

/-- A usage that was dumped is validated as itself. -/
theorem LLMUsage.modelValidate_modelDump (py : Pydantic) (u : LLMUsage) :
    LLMUsage.modelValidate py (u.modelDump false) = some u := by
  obtain ⟨model, promptTokens, completionTokens⟩ := u
  cases model with
  | none =>
      simp [LLMUsage.modelValidate, LLMUsage.modelDump, modelObject, closedFields,
        llmUsageFields, readField, Json.field?, Dict.get?, Json.ofOption, parseOption, py.intOf_int]
  | some model =>
      simp [LLMUsage.modelValidate, LLMUsage.modelDump, modelObject, closedFields,
        llmUsageFields, readField, Json.field?, Dict.get?, Json.ofOption, parseOption, parseStr,
        py.intOf_int]

theorem parseOption_str (s : Option String) :
    parseOption parseStr (Json.ofOption .str s).wire = some s := by
  cases s <;> rfl

private theorem parseOption_llm (py : Pydantic) (u : Option LLMUsage) :
    parseOption (LLMUsage.modelValidate py)
      (Json.ofOption (LLMUsage.modelDump false) u).wire = some u := by
  cases u with
  | none => rfl
  | some u =>
      have hRead := LLMUsage.modelValidate_modelDump py u
      rw [← LLMUsage.modelDump_wire] at hRead
      simp only [Json.ofOption]
      exact congrArg (Option.map some) hRead

/-- A float that was stored is read as what the wire left of it. -/
theorem parseOption_float (py : Pydantic) (x : Option PyFloat) :
    parseOption py.floatOf (Json.ofOption .float x).wire = some (x.bind storedFloat) := by
  cases x with
  | none => rfl
  | some x =>
      cases x with
      | finite q => exact congrArg (Option.map some) (py.floatOf_finite q)
      | nan => rfl
      | inf => rfl
      | negInf => rfl

/-- **Reading back**: a stored payload is read as the payload that was stored, up
to the floats without a JSON number. -/
theorem ActionPayload.modelValidate_modelDump (py : Pydantic) (p : ActionPayload) :
    ActionPayload.modelValidate py (p.modelDump false).wire = some p.wire := by
  have hDump : (p.modelDump false).wire = .obj
      [("tool_name", (Json.ofOption .str p.toolName).wire),
       ("tool_args", .obj (Json.wireFields p.toolArgs)),
       ("tool_result", p.toolResult.wire),
       ("tool_error", (Json.ofOption .str p.toolError).wire),
       ("llm", (Json.ofOption (LLMUsage.modelDump false) p.llm).wire),
       ("confidence", (Json.ofOption .float p.confidence).wire)] := rfl
  rw [hDump]
  simp [ActionPayload.modelValidate, closedFields, actionPayloadFields, readField, Json.field?,
    Dict.get?, parseOption_str, parseOption_llm, parseOption_float, parseDict, ActionPayload.wire]

/-! ## The canonical hash of what is read back -/

/-- The payload has no bare NaN or infinity, which the store would turn into an
absent field. -/
def Portable (p : ActionPayload) : Prop :=
  (p.confidence.bind storedFloat = p.confidence) ∧
    (p.toolResult.wire = .null → p.toolResult = .null)

instance (p : ActionPayload) : Decidable (Portable p) := by
  unfold Portable
  infer_instance

/-- The fields that are left out stay the same when no other field becomes
`null` in the store. -/
theorem wireFields_filter {fields : List (String × Json)}
    (h : ∀ f ∈ fields, f.2.wire = .null → f.2 = .null) :
    Json.wireFields (fields.filter fun f => f.2 ≠ .null) =
      (Json.wireFields fields).filter fun f => f.2 ≠ .null := by
  induction fields with
  | nil => rfl
  | cons f fields ih =>
      obtain ⟨name, value⟩ := f
      have hRest := ih fun f hf => h f (List.mem_cons_of_mem _ hf)
      by_cases hNull : value = .null
      · subst hNull
        simpa [Json.wireFields, Json.wire] using hRest
      · have hWire : value.wire ≠ .null := fun hw => hNull (h _ List.mem_cons_self hw)
        simpa [Json.wireFields, hNull, hWire] using hRest

/-- A payload without present nulls is dumped alike before and after the wire: no entry is
left out on the way that was there before. -/
theorem Portable.modelDump_wire {p : ActionPayload} (h : Portable p) :
    p.wire.modelDump true = (p.modelDump true).wire := by
  have hText : ∀ s : Option String, (Json.ofOption .str s).wire = Json.ofOption .str s := by
    intro s
    cases s <;> rfl
  have hUsage : (Json.ofOption (LLMUsage.modelDump true) p.llm).wire =
      Json.ofOption (LLMUsage.modelDump true) p.llm := by
    cases p.llm with
    | none => rfl
    | some u => exact u.modelDump_wire true
  have hFloat : (Json.ofOption .float p.confidence).wire = Json.ofOption .float p.confidence := by
    have hSame := h.1
    cases hConfidence : p.confidence with
    | none => rfl
    | some x =>
        rw [hConfidence] at hSame
        cases x with
        | finite q => rfl
        | nan => cases hSame
        | inf => cases hSame
        | negInf => cases hSame
  unfold ActionPayload.modelDump modelObject
  simp only [if_true, Json.wire]
  rw [wireFields_filter]
  · simp only [Json.wireFields, ActionPayload.wire, hText, hUsage, hFloat, h.1, Json.wire]
  · simp only [List.mem_cons, List.not_mem_nil, or_false, forall_eq_or_imp, forall_eq, hText,
      hUsage, hFloat, imp_self, true_and, and_true]
    exact ⟨fun hNull => Json.noConfusion hNull, h.2⟩

end AgentShield.Sdk
