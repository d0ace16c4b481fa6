import AgentShield.Sdk.RoundTrip

/-!
# Present null and absent

The frozen rule of the projection says that an entry that is `None` is left out,
so that setting an entry to `None` and omitting it sign the same bytes.  That is
so for the fields of the models.  The entries of the open maps, `subject`,
`payload.tool_args` and the objects of `payload.tool_result`, are plain values:
their `None` entries are written as `null`, and the signing string of a record
with such an entry is longer than that of the record without it.
-/

namespace AgentShield.Sdk

open AgentShield.Lib

/-! ## The entries of a document -/

/-- One step into a document: an entry of an object or an item of a list. -/
inductive Step where
  | key (k : String)
  | index (i : Nat)
  deriving DecidableEq

namespace Json

/-- The document with `f` applied to the fields of the object at the path, or none where the
path leads to no object. -/
def modifyAt (f : List (String × Json) → List (String × Json)) : List Step → Json → Option Json
  | [], .obj xs => some (.obj (f xs))
  | .key k :: path, .obj xs => do
      let x ← Dict.get? xs k
      let y ← modifyAt f path x
      return .obj (Dict.set xs k y)
  | .index i :: path, .arr xs => do
      let x ← xs[i]?
      let y ← modifyAt f path x
      return .arr (xs.set i y)
  | _, _ => none

/-- The entry `key` of the object at `path` set to `None`. -/
def setNone (path : List Step) (key : String) : Json → Option Json :=
  modifyAt (fun xs => Dict.set xs key .null) path

/-- The entry `key` of the object at `path` left out. -/
def leaveOut (path : List Step) (key : String) : Json → Option Json :=
  modifyAt (fun xs => xs.filter fun f => f.1 ≠ key) path

/-- What is modified is an object or a list that stays one, so that no field changes its kind.
-/
theorem not_isScalar_of_modifyAt {f : List (String × Json) → List (String × Json)}
    {path : List Step} {x y : Json} (h : modifyAt f path x = some y) :
    ¬ y.IsScalar ∧ y ≠ .null := by
  cases path with
  | nil =>
      cases x with
      | obj xs =>
          obtain rfl := Option.some.inj h
          exact ⟨fun hScalar => hScalar, fun hNull => by cases hNull⟩
      | _ => cases h
  | cons step path =>
      cases step with
      | key k =>
          cases x with
          | obj xs =>
              simp only [modifyAt, Option.bind_eq_bind, Option.bind_eq_some_iff,
                Option.pure_def, Option.some.injEq] at h
              obtain ⟨_, _, _, _, rfl⟩ := h
              exact ⟨fun hScalar => hScalar, fun hNull => by cases hNull⟩
          | _ => cases h
      | index i =>
          cases x with
          | arr xs =>
              simp only [modifyAt, Option.bind_eq_bind, Option.bind_eq_some_iff,
                Option.pure_def, Option.some.injEq] at h
              obtain ⟨_, _, _, _, rfl⟩ := h
              exact ⟨fun hScalar => hScalar, fun hNull => by cases hNull⟩
          | _ => cases h

end Json

/-! ## A null entry is written -/

section Length

variable (text : FloatText)

theorem entriesLength_setNone (key : String) (xs : List (String × Json)) :
    text.entriesLength (xs.filter fun f => f.1 ≠ key) + 1 <
      text.entriesLength (Dict.set xs key .null) := by
  have hOmit : ∀ ys : List (String × Json),
      text.entriesLength (ys.filter fun f => f.1 ≠ key) ≤ text.entriesLength ys := by
    intro ys
    induction ys with
    | nil => exact Nat.le_refl _
    | cons y ys ih =>
        obtain ⟨k, y⟩ := y
        by_cases hk : k = key
        · simp [FloatText.entriesLength, hk] at ih ⊢
          omega
        · simp [FloatText.entriesLength, hk] at ih ⊢
          omega
  have hNull : text.length .null = 4 := by simp only [FloatText.length]
  induction xs with
  | nil => simp [Dict.set, FloatText.entriesLength, hNull]
  | cons x xs ih =>
      obtain ⟨k, x⟩ := x
      by_cases hk : k = key
      · have hRest := hOmit xs
        simp [Dict.set, FloatText.entriesLength, hk, hNull] at hRest ⊢
        omega
      · simp [Dict.set, FloatText.entriesLength, hk] at ih ⊢
        omega

theorem entriesLength_set {x y : Json} (h : text.length y < text.length x) (key : String)
    (xs : List (String × Json)) :
    text.entriesLength (Dict.set xs key y) < text.entriesLength (Dict.set xs key x) ∧
      1 < text.entriesLength (Dict.set xs key x) := by
  have hKey := FloatText.two_le_length_jsonString key
  induction xs with
  | nil =>
      simp only [Dict.set, FloatText.entriesLength]
      omega
  | cons f xs ih =>
      obtain ⟨k, z⟩ := f
      by_cases hk : k = key
      · simp only [Dict.set, if_pos hk, FloatText.entriesLength]
        omega
      · simp only [Dict.set, if_neg hk, FloatText.entriesLength]
        omega

theorem itemsLength_set {x y : Json} (h : text.length y < text.length x) {xs : List Json}
    {i : Nat} (hi : i < xs.length) :
    text.itemsLength (xs.set i y) < text.itemsLength (xs.set i x) := by
  induction xs generalizing i with
  | nil => cases hi
  | cons z xs ih =>
      cases i with
      | zero =>
          simp only [List.set_cons_zero, FloatText.itemsLength]
          omega
      | succ i =>
          have hRest := ih (Nat.lt_of_succ_lt_succ hi)
          simp only [List.set_cons_succ, FloatText.itemsLength]
          omega

/-- **A null entry makes the text longer**, at whatever depth it stands: the paths through the
two documents are followed together. -/
theorem length_leaveOut_lt {path : List Step} {key : String} {x a b : Json}
    (ha : x.setNone path key = some a) (hb : x.leaveOut path key = some b) :
    text.length b < text.length a := by
  induction path generalizing x a b with
  | nil =>
      cases x with
      | obj xs =>
          obtain rfl := Option.some.inj ha
          obtain rfl := Option.some.inj hb
          have hLt := entriesLength_setNone text key xs
          simp only [FloatText.length]
          omega
      | _ => cases ha
  | cons step path ih =>
      cases step with
      | key k =>
          cases x with
          | obj xs =>
              simp only [Json.setNone, Json.leaveOut, Json.modifyAt, Option.bind_eq_bind,
                Option.bind_eq_some_iff, Option.pure_def, Option.some.injEq] at ha hb
              obtain ⟨x, hx, y, hy, rfl⟩ := ha
              obtain ⟨x', hx', z, hz, rfl⟩ := hb
              obtain rfl : x = x' := Option.some.inj (hx.symm.trans hx')
              have hSet := entriesLength_set text (ih hy hz) k xs
              simp only [FloatText.length]
              omega
          | _ => cases ha
      | index i =>
          cases x with
          | arr xs =>
              simp only [Json.setNone, Json.leaveOut, Json.modifyAt, Option.bind_eq_bind,
                Option.bind_eq_some_iff, Option.pure_def, Option.some.injEq] at ha hb
              obtain ⟨x, hx, y, hy, rfl⟩ := ha
              obtain ⟨x', hx', z, hz, rfl⟩ := hb
              obtain rfl : x = x' := Option.some.inj (hx.symm.trans hx')
              have hi : i < xs.length := (List.getElem?_eq_some_iff.1 hx).1
              have hSet := itemsLength_set text (ih hy hz) hi
              have hPos : 1 ≤ text.itemsLength (xs.set i z) := by
                cases hItems : xs.set i z with
                | nil =>
                    have hLength := congrArg List.length hItems
                    simp only [List.length_set, List.length_nil] at hLength
                    omega
                | cons u us =>
                    simp only [FloatText.itemsLength]
                    omega
              simp only [FloatText.length]
              omega
          | _ => cases ha

end Length

/-! ## A null model field is not read -/

/-- The reader reads what it reads from a document with a `None` entry from the
document without the entry too, unless the entry is in an open map. -/
structure ReadsThrough {α : Type} (inOpenMap : List Step → Prop) (read : Json → Option α) :
    Prop where
  reads : ∀ {path key} {doc a b : Json} {r}, ¬ inOpenMap path → doc.setNone path key = some a →
    doc.leaveOut path key = some b → read a = some r → read b = some r

section ReadsThrough

variable {α β : Type} {inOpenMap : List Step → Prop}

/-- A reader that refuses objects and lists. -/
theorem ReadsThrough.scalar {parse : Json → Option α}
    (h : ∀ {j x}, parse j = some x → j.IsScalar) : ReadsThrough inOpenMap parse := by
  refine ⟨fun _ ha _ hr => ?_⟩
  exact absurd (h hr) (Json.not_isScalar_of_modifyAt ha).1

/-- Nothing is asked of the entries of an open map. -/
theorem ReadsThrough.openMap {parse : Json → Option α} (h : ∀ path, inOpenMap path) :
    ReadsThrough inOpenMap parse :=
  ⟨fun hPath _ _ _ => absurd (h _) hPath⟩

theorem ReadsThrough.option {parse : Json → Option α} (h : ReadsThrough inOpenMap parse) :
    ReadsThrough inOpenMap (parseOption parse) := by
  refine ⟨fun {path key doc a b r} hPath ha hb hr => ?_⟩
  have haNull := (Json.not_isScalar_of_modifyAt ha).2
  have hbNull := (Json.not_isScalar_of_modifyAt hb).2
  have hParse : ∀ {j : Json}, j ≠ .null → parseOption parse j = (parse j).map some := by
    intro j hj
    cases j with
    | null => exact absurd rfl hj
    | _ => rfl
  rw [hParse haNull, Option.map_eq_some_iff] at hr
  obtain ⟨x, hx, rfl⟩ := hr
  rw [hParse hbNull, h.reads hPath ha hb hx]
  rfl

/-- The fields of a document in which one entry was set to `None`, and in which it
was left out. -/
private theorem field?_setNone {path : List Step} {key : String} {doc a b : Json}
    (ha : doc.setNone path key = some a) (hb : doc.leaveOut path key = some b) (name : String) :
    a.field? name = b.field? name ∨ (a.field? name = some .null ∧ b.field? name = none) ∨
      ∃ rest, ∃ x y z : Json, path = .key name :: rest ∧ x.setNone rest key = some y ∧
        x.leaveOut rest key = some z ∧ a.field? name = some y ∧ b.field? name = some z := by
  cases path with
  | nil =>
      cases doc with
      | obj xs =>
          obtain rfl := Option.some.inj ha
          obtain rfl := Option.some.inj hb
          by_cases hName : key = name
          · subst hName
            refine .inr (.inl ⟨Dict.get?_set_self _ _ _, ?_⟩)
            exact Dict.get?_filter_self xs key
          · refine .inl ?_
            simp only [Json.field?]
            rw [Dict.get?_set_ne _ _ hName, Dict.get?_filter_ne xs hName]
      | _ => cases ha
  | cons step rest =>
      cases step with
      | key k =>
          cases doc with
          | obj xs =>
              simp only [Json.setNone, Json.leaveOut, Json.modifyAt, Option.bind_eq_bind,
                Option.bind_eq_some_iff, Option.pure_def, Option.some.injEq] at ha hb
              obtain ⟨x, hx, y, hy, rfl⟩ := ha
              obtain ⟨x', hx', z, hz, rfl⟩ := hb
              obtain rfl : x = x' := Option.some.inj (hx.symm.trans hx')
              by_cases hName : k = name
              · subst hName
                refine .inr (.inr ⟨rest, x, y, z, rfl, hy, hz, ?_, ?_⟩)
                · exact Dict.get?_set_self _ _ _
                · exact Dict.get?_set_self _ _ _
              · refine .inl ?_
                simp only [Json.field?]
                rw [Dict.get?_set_ne _ _ hName, Dict.get?_set_ne _ _ hName]
          | _ => cases ha
      | index i =>
          cases doc with
          | arr xs =>
              simp only [Json.setNone, Json.leaveOut, Json.modifyAt, Option.bind_eq_bind,
                Option.bind_eq_some_iff, Option.pure_def, Option.some.injEq] at ha hb
              obtain ⟨_, _, _, _, rfl⟩ := ha
              obtain ⟨_, _, _, _, rfl⟩ := hb
              exact .inl rfl
          | _ => cases ha

/-- A field for which `None` is its default or is refused. -/
theorem ReadsThrough.field {parse : Json → Option α} {name : String} {fallback : α}
    (hNull : ∀ {x}, parse .null = some x → x = fallback)
    (h : ReadsThrough (fun rest => inOpenMap (.key name :: rest)) parse) :
    ReadsThrough inOpenMap fun doc => readField doc name fallback parse := by
  refine ⟨fun {path key doc a b r} hPath ha hb hr => ?_⟩
  simp only [readField] at hr ⊢
  rcases field?_setNone ha hb name with hSame | ⟨hNone, hOut⟩ |
    ⟨rest, x, y, z, rfl, hy, hz, haField, hbField⟩
  · rwa [← hSame]
  · rw [hNone] at hr
    rw [hOut, hNull hr]
  · rw [haField] at hr
    rw [hbField]
    exact h.reads hPath hy hz hr

theorem ReadsThrough.required {parse : Json → Option α} {name : String}
    (hNull : parse .null = none)
    (h : ReadsThrough (fun rest => inOpenMap (.key name :: rest)) parse) :
    ReadsThrough inOpenMap fun doc => requiredField doc name parse := by
  refine ⟨fun {path key doc a b r} hPath ha hb hr => ?_⟩
  simp only [requiredField] at hr ⊢
  rcases field?_setNone ha hb name with hSame | ⟨hNone, hOut⟩ |
    ⟨rest, x, y, z, rfl, hy, hz, haField, hbField⟩
  · rwa [← hSame]
  · rw [hNone, Option.bind_some, hNull] at hr
    cases hr
  · rw [haField] at hr
    rw [hbField]
    exact h.reads hPath hy hz hr

theorem ReadsThrough.bind {first : Json → Option α} {next : α → Json → Option β}
    (h : ReadsThrough inOpenMap first) (hNext : ∀ x, ReadsThrough inOpenMap (next x)) :
    ReadsThrough inOpenMap fun doc => first doc >>= fun x => next x doc := by
  refine ⟨fun {path key doc a b r} hPath ha hb hr => ?_⟩
  simp only [Option.bind_eq_bind, Option.bind_eq_some_iff] at hr ⊢
  obtain ⟨x, hx, hr⟩ := hr
  exact ⟨x, h.reads hPath ha hb hx, (hNext x).reads hPath ha hb hr⟩

theorem ReadsThrough.pure (x : α) : ReadsThrough inOpenMap fun _ => some x :=
  ⟨fun _ _ _ hr => hr⟩

/-- Leaving an entry out keeps a model closed, as it adds no name that the model does not
have. -/
theorem ReadsThrough.closed {names : List String} {next : Json → Option β}
    (hNext : ReadsThrough inOpenMap next) :
    ReadsThrough inOpenMap fun doc => closedFields names doc >>= fun _ => next doc := by
  refine ⟨fun {path key doc a b r} hPath ha hb hr => ?_⟩
  simp only [Option.bind_eq_bind, Option.bind_eq_some_iff] at hr ⊢
  obtain ⟨fields, hFields, hr⟩ := hr
  have hRead := hNext.reads hPath ha hb hr
  cases path with
  | nil =>
      cases doc with
      | obj xs =>
          obtain rfl := Option.some.inj ha
          obtain rfl := Option.some.inj hb
          refine ⟨_, if_pos ?_, hRead⟩
          simp only [closedFields] at hFields
          split at hFields
          · rename_i hAll
            exact Dict.all_mem_filter hAll
          · cases hFields
      | _ => cases ha
  | cons step rest =>
      cases step with
      | key k =>
          cases doc with
          | obj xs =>
              simp only [Json.setNone, Json.leaveOut, Json.modifyAt, Option.bind_eq_bind,
                Option.bind_eq_some_iff, Option.pure_def, Option.some.injEq] at ha hb
              obtain ⟨x, hx, y, hy, rfl⟩ := ha
              obtain ⟨x', hx', z, hz, rfl⟩ := hb
              refine ⟨_, if_pos ?_, hRead⟩
              simp only [closedFields] at hFields
              split at hFields
              · rename_i hAll
                rwa [Dict.all_mem_set _ _ _ z y]
              · cases hFields
          | _ => cases ha
      | index i =>
          cases doc with
          | arr xs =>
              simp only [Json.setNone, Json.modifyAt, Option.bind_eq_bind,
                Option.bind_eq_some_iff, Option.pure_def, Option.some.injEq] at ha
              obtain ⟨_, _, _, _, rfl⟩ := ha
              cases hFields
          | _ => cases ha

end ReadsThrough

section Models

variable (v : Validator)

private theorem parseStr_scalar {j : Json} {s : String} (h : parseStr j = some s) :
    j.IsScalar := by
  cases j with
  | str _ => trivial
  | _ => cases h

private theorem parseEnum_scalar {α : Type} {members : List α} {value : α → String} {j : Json}
    {a : α} (h : parseEnum members value j = some a) : j.IsScalar := by
  cases j with
  | str _ => trivial
  | _ => cases h

private theorem parseNat_scalar {j : Json} {n : Nat} (h : parseNat v.toPydantic j = some n) :
    j.IsScalar := by
  simp only [parseNat, Option.bind_eq_bind, Option.bind_eq_some_iff] at h
  obtain ⟨i, hi, _⟩ := h
  exact v.intOf_scalar hi

/-- A reader of scalars refuses `None`. -/
private theorem null_of_scalar {α : Type} {parse : Json → Option α} {fallback : α}
    (h : ∀ {j x}, parse j = some x → j.IsScalar) {x : α} (hx : parse .null = some x) :
    x = fallback :=
  (h hx).elim

private theorem null_option {α : Type} {parse : Json → Option α} {x : Option α}
    (h : parseOption parse .null = some x) : x = none :=
  (Option.some.inj h).symm

theorem ActionRef.readsThrough {inOpenMap : List Step → Prop} :
    ReadsThrough inOpenMap ActionRef.modelValidate := by
  have hText : ∀ {open' : List Step → Prop}, ReadsThrough open' (parseOption parseStr) :=
    .option (.scalar parseStr_scalar)
  refine .closed ?_
  refine .bind (.field null_option hText) fun tool => ?_
  refine .bind (.field null_option hText) fun argsDigest => ?_
  exact .pure _

theorem ActionContext.readsThrough {inOpenMap : List Step → Prop} :
    ReadsThrough inOpenMap ActionContext.modelValidate := by
  have hText : ∀ {open' : List Step → Prop}, ReadsThrough open' (parseOption parseStr) :=
    .option (.scalar parseStr_scalar)
  refine .closed ?_
  refine .bind (.field null_option hText) fun checkpointId => ?_
  refine .bind (.field null_option hText) fun langgraphThreadId => ?_
  refine .bind (.field null_option hText) fun envSnapshotRef => ?_
  exact .pure _

theorem LLMUsage.readsThrough {inOpenMap : List Step → Prop} :
    ReadsThrough inOpenMap (LLMUsage.modelValidate v.toPydantic) := by
  have hText : ∀ {open' : List Step → Prop}, ReadsThrough open' (parseOption parseStr) :=
    .option (.scalar parseStr_scalar)
  have hInt : ∀ {open' : List Step → Prop}, ReadsThrough open' v.intOf := .scalar v.intOf_scalar
  refine .closed ?_
  refine .bind (.field null_option hText) fun model => ?_
  refine .bind (.field (null_of_scalar v.intOf_scalar) hInt) fun promptTokens => ?_
  refine .bind (.field (null_of_scalar v.intOf_scalar) hInt) fun completionTokens => ?_
  exact .pure _

theorem ActionPayload.readsThrough {inOpenMap : List Step → Prop}
    (hArgs : ∀ path, inOpenMap (.key "tool_args" :: path))
    (hResult : ∀ path, inOpenMap (.key "tool_result" :: path)) :
    ReadsThrough inOpenMap (ActionPayload.modelValidate v.toPydantic) := by
  have hText : ∀ {open' : List Step → Prop}, ReadsThrough open' (parseOption parseStr) :=
    .option (.scalar parseStr_scalar)
  refine .closed ?_
  refine .bind (.field null_option hText) fun toolName => ?_
  refine .bind (.field (fun h => by cases h) (.openMap hArgs)) fun toolArgs => ?_
  refine .bind (.field (fun h => (Option.some.inj h).symm) (.openMap hResult)) fun toolResult => ?_
  refine .bind (.field null_option hText) fun toolError => ?_
  refine .bind (.field null_option (.option (LLMUsage.readsThrough v))) fun llm => ?_
  refine .bind (.field null_option (.option (.scalar v.floatOf_scalar))) fun confidence => ?_
  exact .pure _

/-- The entries of the open maps of a record. -/
def InOpenMap (path : List Step) : Prop :=
  [.key "subject"] <+: path ∨ [.key "payload", .key "tool_args"] <+: path ∨
    [.key "payload", .key "tool_result"] <+: path

instance (path : List Step) : Decidable (InOpenMap path) := by
  unfold InOpenMap
  infer_instance

/-- **A `None` field of a model reads as an absent one**, in every model of a record, and the
open objects are the only places where the two differ. -/
theorem ShieldActionRecord.readsThrough (fresh : RecordDefaults) :
    ReadsThrough InOpenMap (ShieldActionRecord.modelValidate v fresh) := by
  have hStr : ∀ {open' : List Step → Prop}, ReadsThrough open' parseStr := .scalar parseStr_scalar
  have hText : ∀ {open' : List Step → Prop}, ReadsThrough open' (parseOption parseStr) :=
    .option hStr
  have hInt : ∀ {open' : List Step → Prop}, ReadsThrough open' v.intOf := .scalar v.intOf_scalar
  refine .closed ?_
  refine .bind (.field (null_of_scalar parseStr_scalar) hStr) fun shieldVersion => ?_
  refine .bind (.field (null_of_scalar parseStr_scalar) hStr) fun recordId => ?_
  refine .bind (.field (null_of_scalar parseStr_scalar) hStr) fun correlationId => ?_
  refine .bind (.field (null_of_scalar parseStr_scalar) hStr) fun orgId => ?_
  refine .bind (.field (null_of_scalar parseStr_scalar) hStr) fun agentId => ?_
  refine .bind (.field (null_of_scalar parseStr_scalar) hStr) fun workflowId => ?_
  refine .bind (.required rfl hStr) fun runId => ?_
  refine .bind (.field (null_of_scalar (parseNat_scalar v)) (.scalar (parseNat_scalar v)))
    fun stepIndex => ?_
  refine .bind (.field (null_of_scalar v.intOf_scalar) hInt) fun issuedAt => ?_
  refine .bind (.field (null_of_scalar v.intOf_scalar) hInt) fun ttlMs => ?_
  refine .bind (.field (null_of_scalar parseStr_scalar) hStr) fun nonce => ?_
  refine .bind (.required rfl (.scalar parseEnum_scalar)) fun phase => ?_
  refine .bind (.field (null_of_scalar parseEnum_scalar) (.scalar parseEnum_scalar))
    fun actionType => ?_
  refine .bind (.field (null_of_scalar parseStr_scalar) hStr) fun operationType => ?_
  refine .bind (.field (fun h => by cases h) (.openMap fun path => ?_)) fun subject => ?_
  · exact .inl (by simp)
  refine .bind (.field (fun h => by cases h) ActionRef.readsThrough) fun action => ?_
  refine .bind (.field (fun h => by cases h)
    (ActionPayload.readsThrough v (fun path => ?_) fun path => ?_)) fun payload => ?_
  · exact .inr (.inl (by simp))
  · exact .inr (.inr (by simp))
  refine .bind (.field (fun h => by cases h) ActionContext.readsThrough) fun context => ?_
  refine .bind (.field (null_of_scalar parseStr_scalar) hStr) fun payloadHash => ?_
  refine .bind (.field (null_of_scalar parseStr_scalar) hStr) fun prevChainHash => ?_
  refine .bind (.field null_option hText) fun chainHash => ?_
  refine .bind (.field (null_of_scalar parseStr_scalar) hStr) fun agentPubkeyKid => ?_
  refine .bind (.field null_option hText) fun verdictRef => ?_
  refine .bind (.field null_option hText) fun signature => ?_
  exact .pure _

end Models

/-! ## A null entry of an open map is signed -/

/-- What two readings give, when both succeed. -/
private def Pair {α β : Type} (x : Option α) (y : Option β) (ρ : α → β → Prop) : Prop :=
  ∀ r s, x = some r → y = some s → ρ r s

private theorem Pair.bind {α β γ δ : Type} {x : Option α} {y : Option β} {f : α → Option γ}
    {g : β → Option δ} {σ : α → β → Prop} {ρ : γ → δ → Prop} (h : Pair x y σ)
    (hNext : ∀ r s, σ r s → Pair (f r) (g s) ρ) : Pair (x >>= f) (y >>= g) ρ := by
  intro r s hr hs
  simp only [Option.bind_eq_bind, Option.bind_eq_some_iff] at hr hs
  obtain ⟨r₀, hr₀, hr⟩ := hr
  obtain ⟨s₀, hs₀, hs⟩ := hs
  exact hNext r₀ s₀ (h r₀ s₀ hr₀ hs₀) r s hr hs

private theorem Pair.same {α γ δ : Type} {x y : Option α} {f : α → Option γ} {g : α → Option δ}
    {ρ : γ → δ → Prop} (h : x = y) (hNext : ∀ r, Pair (f r) (g r) ρ) :
    Pair (x >>= f) (y >>= g) ρ := by
  refine Pair.bind (σ := Eq) (fun r s hr hs => ?_) fun r s hrs => ?_
  · exact Option.some.inj (hr.symm.trans (h.trans hs))
  · subst hrs
    exact hNext r

private theorem Pair.any {α β γ δ : Type} {x : Option α} {y : Option β} {f : α → Option γ}
    {g : β → Option δ} {ρ : γ → δ → Prop} (hNext : ∀ r s, Pair (f r) (g s) ρ) :
    Pair (x >>= f) (y >>= g) ρ :=
  Pair.bind (σ := fun _ _ => True) (fun _ _ _ _ => trivial) fun r s _ => hNext r s

section Signed

variable (text : FloatText) (v : Validator)

/-- The documents have the same fields but for `name`. -/
def SameBut (name : String) (a b : Json) : Prop :=
  ∀ field, field ≠ name → a.field? field = b.field? field

private theorem readField_congr {α : Type} {name field : String} {a b : Json} {fallback : α}
    {parse : Json → Option α} (h : SameBut name a b) (hField : field ≠ name) :
    readField a field fallback parse = readField b field fallback parse := by
  simp only [readField, h field hField]

private theorem requiredField_congr {α : Type} {name field : String} {a b : Json}
    {parse : Json → Option α} (h : SameBut name a b) (hField : field ≠ name) :
    requiredField a field parse = requiredField b field parse := by
  simp only [requiredField, h field hField]

/-- A field that both documents have. -/
private theorem pair_field {α : Type} {name : String} {a b y z : Json} {fallback : α}
    {parse : Json → Option α} {σ : α → α → Prop} (ha : a.field? name = some y)
    (hb : b.field? name = some z) (h : ∀ r s, parse y = some r → parse z = some s → σ r s) :
    Pair (readField a name fallback parse) (readField b name fallback parse) σ := by
  intro r s hr hs
  simp only [readField, ha] at hr
  simp only [readField, hb] at hs
  exact h r s hr hs

private theorem parseDict_eq_some {j : Json} {fields : List (String × Json)}
    (h : parseDict j = some fields) : j = .obj fields := by
  cases j with
  | obj xs => exact congrArg Json.obj (Option.some.inj h)
  | _ => cases h

/-- Two readings of payloads that differ in their arguments. -/
private theorem pair_toolArgs {a b y z : Json} (hSame : SameBut "tool_args" a b)
    (ha : a.field? "tool_args" = some y) (hb : b.field? "tool_args" = some z)
    (hLt : text.length z < text.length y) :
    Pair (ActionPayload.modelValidate v.toPydantic a) (ActionPayload.modelValidate v.toPydantic b)
      fun p q => text.length (q.modelDump true) < text.length (p.modelDump true) := by
  refine .any fun _ _ => ?_
  refine .same (readField_congr hSame (by decide)) fun toolName => ?_
  refine .bind (pair_field (σ := fun xs ys => text.length (.obj ys) < text.length (.obj xs)) ha hb
    fun xs ys hxs hys => ?_) fun xs ys hArgs => ?_
  · rwa [parseDict_eq_some hxs, parseDict_eq_some hys] at hLt
  refine .same (readField_congr hSame (by decide)) fun toolResult => ?_
  refine .same (readField_congr hSame (by decide)) fun toolError => ?_
  refine .same (readField_congr hSame (by decide)) fun llm => ?_
  refine .same (readField_congr hSame (by decide)) fun confidence => ?_
  intro p q hp hq
  obtain rfl := Option.some.inj hp
  obtain rfl := Option.some.inj hq
  have hField := text.fieldLength_lt (x := .obj xs) (by simp) hArgs "tool_args"
  refine text.length_modelObject_lt ?_ (text.one_lt_fieldsLength (k := "tool_args") (x := .obj xs)
    (by simp) (by simp))
  simp only [FloatText.fieldsLength, Nat.add_lt_add_iff_left]
  omega

private theorem pair_toolResult {a b y z : Json} (hSame : SameBut "tool_result" a b)
    (ha : a.field? "tool_result" = some y) (hb : b.field? "tool_result" = some z)
    (hy : y ≠ .null) (hLt : text.length z < text.length y) :
    Pair (ActionPayload.modelValidate v.toPydantic a) (ActionPayload.modelValidate v.toPydantic b)
      fun p q => text.length (q.modelDump true) < text.length (p.modelDump true) := by
  refine .any fun _ _ => ?_
  refine .same (readField_congr hSame (by decide)) fun toolName => ?_
  refine .same (readField_congr hSame (by decide)) fun toolArgs => ?_
  refine .bind (pair_field (σ := fun r s => r ≠ .null ∧ text.length s < text.length r) ha hb
    fun r s hr hs => ?_) fun r s hResult => ?_
  · obtain rfl := Option.some.inj hr
    obtain rfl := Option.some.inj hs
    exact ⟨hy, hLt⟩
  refine .same (readField_congr hSame (by decide)) fun toolError => ?_
  refine .same (readField_congr hSame (by decide)) fun llm => ?_
  refine .same (readField_congr hSame (by decide)) fun confidence => ?_
  intro p q hp hq
  obtain rfl := Option.some.inj hp
  obtain rfl := Option.some.inj hq
  have hField := text.fieldLength_lt hResult.1 hResult.2 "tool_result"
  refine text.length_modelObject_lt ?_ (text.one_lt_fieldsLength (k := "tool_args")
    (x := .obj toolArgs) (by simp) (by simp))
  simp only [FloatText.fieldsLength, Nat.add_lt_add_iff_left]
  omega

/-- The signed fields of records of which one has the longer subject. -/
private theorem pair_subject (fresh : RecordDefaults) {a b y z : Json}
    (hSame : SameBut "subject" a b) (ha : a.field? "subject" = some y)
    (hb : b.field? "subject" = some z) (hLt : text.length z < text.length y) :
    Pair (ShieldActionRecord.modelValidate v fresh a) (ShieldActionRecord.modelValidate v fresh b)
      fun r s => text.length (recordSignableDict s) < text.length (recordSignableDict r) := by
  refine .any fun _ _ => ?_
  iterate 6 refine .same (readField_congr hSame (by decide)) fun _ => ?_
  refine .same (requiredField_congr hSame (by decide)) fun runId => ?_
  iterate 4 refine .same (readField_congr hSame (by decide)) fun _ => ?_
  refine .same (requiredField_congr hSame (by decide)) fun phase => ?_
  iterate 2 refine .same (readField_congr hSame (by decide)) fun _ => ?_
  refine .bind (pair_field (σ := fun xs ys => text.length (.obj ys) < text.length (.obj xs)) ha hb
    fun xs ys hxs hys => ?_) fun xs ys hSubject => ?_
  · rwa [parseDict_eq_some hxs, parseDict_eq_some hys] at hLt
  iterate 9 refine .same (readField_congr hSame (by decide)) fun _ => ?_
  intro r s hr hs
  obtain rfl := Option.some.inj hr
  obtain rfl := Option.some.inj hs
  have hField := text.fieldLength_lt (x := .obj xs) (by simp) hSubject "subject"
  rw [recordSignableDict_eq, recordSignableDict_eq]
  refine text.length_modelObject_lt ?_ (text.one_lt_fieldsLength (k := "subject") (x := .obj xs)
    (by simp [ShieldActionRecord.signedFields]) (by simp))
  simp only [ShieldActionRecord.signedFields, FloatText.fieldsLength, Nat.add_lt_add_iff_left]
  exact Nat.add_lt_add_right hField _

private theorem pair_payload (fresh : RecordDefaults) {a b y z : Json}
    (hSame : SameBut "payload" a b) (ha : a.field? "payload" = some y)
    (hb : b.field? "payload" = some z)
    (hLt : Pair (ActionPayload.modelValidate v.toPydantic y)
      (ActionPayload.modelValidate v.toPydantic z)
      fun p q => text.length (q.modelDump true) < text.length (p.modelDump true)) :
    Pair (ShieldActionRecord.modelValidate v fresh a) (ShieldActionRecord.modelValidate v fresh b)
      fun r s => text.length (recordSignableDict s) < text.length (recordSignableDict r) := by
  refine .any fun _ _ => ?_
  iterate 6 refine .same (readField_congr hSame (by decide)) fun _ => ?_
  refine .same (requiredField_congr hSame (by decide)) fun runId => ?_
  iterate 4 refine .same (readField_congr hSame (by decide)) fun _ => ?_
  refine .same (requiredField_congr hSame (by decide)) fun phase => ?_
  iterate 4 refine .same (readField_congr hSame (by decide)) fun _ => ?_
  refine .bind (pair_field ha hb hLt) fun p q hPayload => ?_
  iterate 7 refine .same (readField_congr hSame (by decide)) fun _ => ?_
  intro r s hr hs
  obtain rfl := Option.some.inj hr
  obtain rfl := Option.some.inj hs
  have hField := text.fieldLength_lt (modelObject_ne_null _ _) hPayload "payload"
  rw [recordSignableDict_eq, recordSignableDict_eq]
  refine text.length_modelObject_lt ?_ (text.one_lt_fieldsLength (k := "payload")
    (x := p.modelDump true) (by simp [ShieldActionRecord.signedFields]) (modelObject_ne_null _ _))
  simp only [ShieldActionRecord.signedFields, FloatText.fieldsLength, Nat.add_lt_add_iff_left]
  exact Nat.add_lt_add_right hField _

end Signed

private theorem field?_modifyAt {f : List (String × Json) → List (String × Json)} {k : String}
    {path : List Step} {doc a : Json} (h : Json.modifyAt f (.key k :: path) doc = some a) :
    ∃ x y, doc.field? k = some x ∧ Json.modifyAt f path x = some y ∧ a.field? k = some y ∧
      ∀ field, field ≠ k → a.field? field = doc.field? field := by
  cases doc with
  | obj xs =>
      simp only [Json.modifyAt, Option.bind_eq_bind, Option.bind_eq_some_iff, Option.pure_def,
        Option.some.injEq] at h
      obtain ⟨x, hx, y, hy, rfl⟩ := h
      refine ⟨x, y, hx, hy, Dict.get?_set_self _ _ _, fun field hField => ?_⟩
      exact Dict.get?_set_ne xs y fun hEq => hField hEq.symm
  | _ => cases h

/-- The documents with the entry set to `None` and left out, one level down. -/
private theorem setNone_cons {k key : String} {path : List Step} {doc a b : Json}
    (ha : doc.setNone (.key k :: path) key = some a)
    (hb : doc.leaveOut (.key k :: path) key = some b) :
    ∃ x y z, Json.setNone path key x = some y ∧ Json.leaveOut path key x = some z ∧
      a.field? k = some y ∧ b.field? k = some z ∧ SameBut k a b := by
  obtain ⟨x, y, hx, hy, haField, haRest⟩ := field?_modifyAt ha
  obtain ⟨x', z, hx', hz, hbField, hbRest⟩ := field?_modifyAt hb
  obtain rfl : x = x' := Option.some.inj (hx.symm.trans hx')
  exact ⟨x, y, z, hy, hz, haField, hbField, fun field hField =>
    (haRest field hField).trans (hbRest field hField).symm⟩

/-- **A null entry of an open map is signed**: the record without the entry has the
shorter signing string. -/
theorem length_signable_of_inOpenMap (text : FloatText) (v : Validator) (fresh : RecordDefaults)
    {path : List Step} {key : String} {doc a b : Json} {r s : ShieldActionRecord}
    (hPath : InOpenMap path) (ha : doc.setNone path key = some a)
    (hb : doc.leaveOut path key = some b)
    (hr : ShieldActionRecord.modelValidate v fresh a = some r)
    (hs : ShieldActionRecord.modelValidate v fresh b = some s) :
    text.length (recordSignableDict s) < text.length (recordSignableDict r) := by
  rcases hPath with hSubject | hArgs | hResult
  · obtain ⟨rest, rfl⟩ := hSubject
    obtain ⟨x, y, z, hy, hz, haField, hbField, hSame⟩ := setNone_cons ha hb
    exact pair_subject text v fresh hSame haField hbField (length_leaveOut_lt text hy hz) r s hr hs
  · obtain ⟨rest, rfl⟩ := hArgs
    obtain ⟨x, y, z, hy, hz, haField, hbField, hSame⟩ := setNone_cons ha hb
    obtain ⟨x', y', z', hy', hz', haField', hbField', hSame'⟩ := setNone_cons hy hz
    have hPayload := pair_toolArgs text v hSame' haField' hbField' (length_leaveOut_lt text hy' hz')
    exact pair_payload text v fresh hSame haField hbField hPayload r s hr hs
  · obtain ⟨rest, rfl⟩ := hResult
    obtain ⟨x, y, z, hy, hz, haField, hbField, hSame⟩ := setNone_cons ha hb
    obtain ⟨x', y', z', hy', hz', haField', hbField', hSame'⟩ := setNone_cons hy hz
    have hNull := (Json.not_isScalar_of_modifyAt hy').2
    have hPayload := pair_toolResult text v hSame' haField' hbField' hNull
      (length_leaveOut_lt text hy' hz')
    exact pair_payload text v fresh hSame haField hbField hPayload r s hr hs

/-! ## Nulls in the canonical text -/

namespace Json

mutual

/-- No object in the value has a `null` member. -/
def NoNullMember : Json → Prop
  | .arr xs => NoNullItems xs
  | .obj xs => NoNullFields xs
  | _ => True

def NoNullItems : List Json → Prop
  | [] => True
  | x :: xs => NoNullMember x ∧ NoNullItems xs

def NoNullFields : List (String × Json) → Prop
  | [] => True
  | (_, x) :: xs => x ≠ .null ∧ NoNullMember x ∧ NoNullFields xs

end

theorem noNullFields_iff (xs : List (String × Json)) :
    NoNullFields xs ↔ ∀ f ∈ xs, f.2 ≠ .null ∧ NoNullMember f.2 := by
  induction xs with
  | nil => simp [NoNullFields]
  | cons x xs ih =>
      obtain ⟨k, v⟩ := x
      simp [NoNullFields, ih, and_assoc]

theorem mem_wireFields {xs : List (String × Json)} {f : String × Json} :
    f ∈ wireFields xs ↔ ∃ g ∈ xs, f = (g.1, g.2.wire) := by
  induction xs with
  | nil => simp [wireFields]
  | cons x xs ih =>
      obtain ⟨k, v⟩ := x
      simp [wireFields, ih]

end Json

/-- A field with this value adds no null member to the text of a model. -/
def Json.Clean (x : Json) : Prop := (x.wire = .null → x = .null) ∧ x.wire.NoNullMember

/-- The text of a model has no null member when no field adds one. -/
theorem noNullMember_modelObject_wire (fields : List (String × Json)) :
    (modelObject true fields).wire.NoNullMember ↔ ∀ f ∈ fields, f.2.Clean := by
  simp only [modelObject, if_true, Json.wire, Json.NoNullMember, Json.noNullFields_iff,
    Json.mem_wireFields, List.mem_filter]
  constructor
  · intro h f hf
    by_cases hNull : f.2 = .null
    · refine ⟨fun _ => hNull, ?_⟩
      rw [hNull]
      trivial
    · have hBoth := h (f.1, f.2.wire) ⟨f, ⟨hf, by simpa using hNull⟩, rfl⟩
      exact ⟨fun hWire => absurd hWire hBoth.1, hBoth.2⟩
  · rintro h _ ⟨f, ⟨hf, hSet⟩, rfl⟩
    have hBoth := h f hf
    exact ⟨fun hWire => by simp [hBoth.1 hWire] at hSet, hBoth.2⟩

/-- The payload is written without a null member: no float that is lost, and no
`None` entry in its open maps. -/
structure ActionPayload.NullFree (p : ActionPayload) : Prop where
  portable : Portable p
  toolArgs : (Json.obj p.toolArgs).wire.NoNullMember
  toolResult : p.toolResult.wire.NoNullMember

namespace Json

theorem clean_str (s : String) : Json.Clean (.str s) := ⟨fun h => (by cases h), trivial⟩

theorem clean_int (i : Int) : Json.Clean (.int i) := ⟨fun h => (by cases h), trivial⟩

theorem clean_ofOption_str (s : Option String) : Json.Clean (.ofOption .str s) := by
  cases s with
  | none => exact ⟨fun _ => rfl, trivial⟩
  | some s => exact clean_str s

theorem clean_ofOption_float (x : Option PyFloat) :
    Json.Clean (.ofOption .float x) ↔ x.bind storedFloat = x := by
  have hLost : ∀ y : PyFloat, (Json.float y).wire = .null → ¬ Json.Clean (.float y) := by
    intro y hWire hClean
    cases hClean.1 hWire
  cases x with
  | none => exact ⟨fun _ => rfl, fun _ => ⟨fun _ => rfl, trivial⟩⟩
  | some x =>
      cases x with
      | finite q => exact ⟨fun _ => rfl, fun _ => ⟨fun h => (by cases h), trivial⟩⟩
      | nan => exact ⟨fun h => absurd h (hLost _ rfl), fun h => by cases h⟩
      | inf => exact ⟨fun h => absurd h (hLost _ rfl), fun h => by cases h⟩
      | negInf => exact ⟨fun h => absurd h (hLost _ rfl), fun h => by cases h⟩

/-- An object adds no null member when it has none. -/
theorem clean_obj (xs : List (String × Json)) :
    Json.Clean (.obj xs) ↔ (Json.obj xs).wire.NoNullMember :=
  ⟨fun h => h.2, fun h => ⟨fun hNull => (by cases hNull), h⟩⟩

theorem clean_modelObject (fields : List (String × Json)) :
    Json.Clean (modelObject true fields) ↔ ∀ f ∈ fields, f.2.Clean := by
  rw [← noNullMember_modelObject_wire]
  exact clean_obj _

end Json

open Json

private theorem clean_llm (u : Option LLMUsage) :
    Json.Clean (.ofOption (LLMUsage.modelDump true) u) := by
  cases u with
  | none => exact ⟨fun _ => rfl, trivial⟩
  | some u =>
      refine (clean_modelObject _).2 ?_
      simp [clean_ofOption_str, clean_int]

theorem ActionPayload.clean_iff (p : ActionPayload) :
    Json.Clean (p.modelDump true) ↔ p.NullFree := by
  unfold ActionPayload.modelDump
  rw [clean_modelObject]
  simp only [List.mem_cons, List.not_mem_nil, or_false, forall_eq_or_imp, forall_eq,
    clean_ofOption_str, clean_ofOption_float, clean_llm, clean_obj, true_and]
  constructor
  · rintro ⟨hArgs, ⟨hKept, hResult⟩, hConfidence⟩
    exact ⟨⟨hConfidence, hKept⟩, hArgs, hResult⟩
  · rintro ⟨⟨hConfidence, hKept⟩, hArgs, hResult⟩
    exact ⟨hArgs, ⟨hKept, hResult⟩, hConfidence⟩

/-- **Which signing strings have a null member.** -/
theorem clean_recordSignableDict_iff (r : ShieldActionRecord) :
    Json.Clean (recordSignableDict r) ↔
      (Json.obj r.subject).wire.NoNullMember ∧ r.payload.NullFree := by
  have hAction : Json.Clean (r.action.modelDump true) := by
    refine (clean_modelObject _).2 ?_
    simp [clean_ofOption_str]
  have hContext : Json.Clean (r.context.modelDump true) := by
    refine (clean_modelObject _).2 ?_
    simp [clean_ofOption_str]
  rw [recordSignableDict_eq, clean_modelObject]
  simp only [ShieldActionRecord.signedFields, List.mem_cons, List.not_mem_nil, or_false,
    forall_eq_or_imp, forall_eq, clean_str, clean_int, clean_ofOption_str, clean_obj, hAction,
    hContext, r.payload.clean_iff, true_and, and_true]

/-! ## When present null is absent -/

/-- **Present null equals absent exactly for the fields of the models.**  Setting an
entry to `None` and leaving it out sign and hash the same bytes exactly when the
entry is in no open map, and the canonical texts of a record have no null member
exactly when its open maps have none and no float is lost. -/
theorem present_null_iff (prim : Primitives) (v : Validator) (fresh : RecordDefaults) :
    (∀ path key doc a b r s, Json.setNone path key doc = some a →
      Json.leaveOut path key doc = some b →
      ShieldActionRecord.modelValidate v fresh a = some r →
      ShieldActionRecord.modelValidate v fresh b = some s →
      ((recordSigningString prim r = recordSigningString prim s ∧
          computeRecordPayloadHash prim r = computeRecordPayloadHash prim s) ↔
        ¬ InOpenMap path)) ∧
    ∀ r : ShieldActionRecord,
      ((recordSignableDict r).wire.NoNullMember ∧ (r.payload.modelDump true).wire.NoNullMember ↔
        (Json.obj r.subject).wire.NoNullMember ∧ r.payload.NullFree) := by
  constructor
  · intro path key doc a b r s ha hb hr hs
    constructor
    · rintro ⟨hSame, -⟩ hOpen
      have hLt := length_signable_of_inOpenMap prim.toFloatText v fresh hOpen ha hb hr hs
      exact prim.toFloatText.jcsCanonicalize_ne (Nat.ne_of_gt hLt) hSame
    · intro hPath
      have hRead := (ShieldActionRecord.readsThrough v fresh).reads hPath ha hb hr
      obtain rfl : r = s := Option.some.inj (hRead.symm.trans hs)
      exact ⟨rfl, rfl⟩
  · intro r
    have hRecord := clean_recordSignableDict_iff r
    have hPayload := r.payload.clean_iff
    rw [recordSignableDict_eq] at hRecord ⊢
    unfold ActionPayload.modelDump at hPayload ⊢
    rw [modelObject, clean_obj] at hRecord hPayload
    rw [modelObject, modelObject, hRecord, hPayload]
    exact ⟨fun h => h.1, fun h => ⟨h, h.2⟩⟩

namespace Sample

def validator : Validator where
  intOf j := match j with
    | .int i => some i
    | _ => none
  floatOf j := match j with
    | .float x => some x
    | _ => none
  boolOf j := match j with
    | .bool b => some b
    | _ => none
  intOf_int _ := rfl
  floatOf_finite _ := rfl
  boolOf_bool _ := rfl
  intOf_scalar {j i} h := by cases j <;> trivial
  floatOf_scalar {j x} h := by cases j <;> trivial

def fresh : RecordDefaults where
  recordId := "r1"
  correlationId := "c1"
  issuedAt := 1
  nonce := "n1"

/-- The document of a transfer whose arguments are the given ones. -/
def transferDocument (toolArgs verdictRef : List (String × Json)) : Json :=
  .obj ([("run_id", .str "run1"), ("phase", .str "pre_exec"),
    ("payload", .obj [("tool_args", .obj toolArgs)])] ++ verdictRef)

end Sample

/-- A `None` argument of a tool is signed. -/
theorem null_argument_signed :
    recordSigningString Sample.prim (Sample.signedTransfer [("memo", .null)]) ≠
        recordSigningString Sample.prim (Sample.signedTransfer []) ∧
      ¬ (recordSignableDict (Sample.signedTransfer [("memo", .null)])).wire.NoNullMember := by
  refine ⟨by decide +kernel, fun h => ?_⟩
  simp [recordSignableDict_eq, noNullMember_modelObject_wire, ShieldActionRecord.signedFields,
    Sample.signedTransfer, ActionPayload.modelDump, clean_modelObject, clean_obj, Json.wire,
    Json.wireFields, Json.NoNullMember, Json.NoNullFields] at h

/-- A null `verdict_ref` is absent, a null argument is not. -/
theorem present_null_iff_sample :
    (recordSigningString Sample.prim (Sample.signedTransfer []) =
          recordSigningString Sample.prim (Sample.signedTransfer []) ∧
        computeRecordPayloadHash Sample.prim (Sample.signedTransfer []) =
          computeRecordPayloadHash Sample.prim (Sample.signedTransfer [])) ∧
      ¬ (recordSigningString Sample.prim (Sample.signedTransfer [("memo", .null)]) =
          recordSigningString Sample.prim (Sample.signedTransfer []) ∧
        computeRecordPayloadHash Sample.prim (Sample.signedTransfer [("memo", .null)]) =
          computeRecordPayloadHash Sample.prim (Sample.signedTransfer [])) := by
  have hBoth := (present_null_iff Sample.prim Sample.validator Sample.fresh).1
  have hField := hBoth [] "verdict_ref"
    (Sample.transferDocument [] [("verdict_ref", .str "v")])
    (Sample.transferDocument [] [("verdict_ref", .null)]) (Sample.transferDocument [] [])
    (Sample.signedTransfer []) (Sample.signedTransfer []) (by decide) (by decide) (by decide)
    (by decide)
  have hEntry := hBoth [.key "payload", .key "tool_args"] "memo"
    (Sample.transferDocument [("memo", .str "m")] [])
    (Sample.transferDocument [("memo", .null)] []) (Sample.transferDocument [] [])
    (Sample.signedTransfer [("memo", .null)]) (Sample.signedTransfer []) (by decide) (by decide)
    (by decide) (by decide)
  refine ⟨hField.2 (by decide), fun hSame => hEntry.1 hSame (by decide)⟩

end AgentShield.Sdk
