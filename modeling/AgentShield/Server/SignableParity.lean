import AgentShield.Sdk.SigningString
import AgentShield.Server.EnvelopeRoundTrip
import AgentShield.Server.Ingest

/-!
# The signed text of an operation, at the SDK and at the server

An agent signs the body that it sends, without its signature member (`signEor`).  The
server reads the body into its model and verifies the dump of the model
(`signable`).  Reading fills in members that are missing, drops those it does not
know, and turns other values into integers, so the two texts are equal exactly
when the body has the members of the model, each once, and its two integers are
integers (`Verbatim`).
-/

namespace AgentShield.Server

open AgentShield.Lib AgentShield.Sdk

/-- The body without its signature member. -/
def unsigned (body : List (String × Json)) : List (String × Json) :=
  body.filter fun f => f.1 ≠ "signature"

/-- The text that is signed for a body. -/
def eorText (prim : Primitives) (body : List (String × Json)) : String :=
  prim.jcsCanonicalize (.obj (unsigned body))

def signEor (prim : Primitives) (eor : List (String × Json)) (privateKey : String) : String :=
  prim.signEd25519 privateKey (eorText prim eor)

namespace OperationRecord

/-- The members of the model without the signature. -/
def unsignedNames : List String :=
  ["op_version", "operation_id", "org_id", "agent_id", "issued_at", "ttl_ms", "nonce",
    "operation_type", "subject", "action", "payload", "payload_hash", "prev_chain_hash",
    "agent_pubkey_kid"]

/-- The members that are integers. -/
def intNames : List String := ["issued_at", "ttl_ms"]

def isInt : Json → Bool
  | .int _ => true
  | _ => false

/-- The body has the members of the model, each once and no others, and its integers
are written as integers. -/
def Verbatim (body : List (String × Json)) : Prop :=
  ((unsigned body).map Prod.fst).Perm unsignedNames ∧
    ∀ f ∈ unsigned body, f.1 ∈ intNames → isInt f.2

instance (body : List (String × Json)) : Decidable (Verbatim body) :=
  inferInstanceAs (Decidable (_ ∧ _))

variable {py : Pydantic} {body : List (String × Json)} {rec : OperationRecord}

theorem map_fst_unsignedFields (rec : OperationRecord) :
    rec.unsignedFields.map Prod.fst = unsignedNames := rfl

theorem nodup_unsignedNames : unsignedNames.Nodup := by decide

/-- A field of a body is read from its member, or has its default. -/
theorem readField_cases {α : Type} {key : String} {fallback value : α}
    {parse : Json → Option α} (h : readField (.obj body) key fallback parse = some value) :
    (Dict.get? body key = none ∧ value = fallback) ∨
      ∃ w, Dict.get? body key = some w ∧ parse w = some value := by
  unfold readField at h
  simp only [Json.field?] at h
  cases hMember : Dict.get? body key with
  | none =>
      rw [hMember] at h
      exact .inl ⟨rfl, (Option.some.inj h).symm⟩
  | some w =>
      rw [hMember] at h
      exact .inr ⟨w, rfl, h⟩

theorem parseStr_eq_some (w : Json) (s : String) (h : parseStr w = some s) : .str s = w := by
  cases w with
  | str s' => exact congrArg Json.str (Option.some.inj h).symm
  | _ => cases h

theorem parseDict_eq_some (w : Json) (fields : List (String × Json))
    (h : parseDict w = some fields) : .obj fields = w := by
  cases w with
  | obj fields' => exact congrArg Json.obj (Option.some.inj h).symm
  | _ => cases h

theorem parsePayload_eq_some (w : Json) (p : RecordPayload) (h : parsePayload w = some p) :
    p.toJson = w := by
  cases w with
  | null => exact congrArg RecordPayload.toJson (Option.some.inj h).symm
  | str s => exact congrArg RecordPayload.toJson (Option.some.inj h).symm
  | obj fields => exact congrArg RecordPayload.toJson (Option.some.inj h).symm
  | _ => cases h

/-- How the dumped value of a member comes from a body: as its default, as it stands, or as
the integer that another value was read as. -/
inductive ReadFrom (body : List (String × Json)) (name : String) (v : Json) : Prop where
  | absent (hMember : Dict.get? body name = none)
      (hDefault : (name, v) ∈ ({} : OperationRecord).unsignedFields)
  | copied (hMember : Dict.get? body name = some v)
  | coerced (w : Json) (hMember : Dict.get? body name = some w) (hName : name ∈ intNames)
      (hInt : isInt v = true) (hOther : isInt w = false)

theorem ReadFrom.of_parse {α : Type} {name : String} {fallback x : α} {parse : Json → Option α}
    (toJson : α → Json) (hParse : ∀ w x, parse w = some x → toJson x = w)
    (hDefault : (name, toJson fallback) ∈ ({} : OperationRecord).unsignedFields)
    (h : readField (.obj body) name fallback parse = some x) : ReadFrom body name (toJson x) := by
  rcases readField_cases h with ⟨hMember, rfl⟩ | ⟨w, hMember, hRead⟩
  · exact .absent hMember hDefault
  · rw [hParse w x hRead]
    exact .copied hMember

theorem ReadFrom.of_int {name : String} {fallback n : Int} (hName : name ∈ intNames)
    (hDefault : (name, Json.int fallback) ∈ ({} : OperationRecord).unsignedFields)
    (h : readField (.obj body) name fallback py.intOf = some n) :
    ReadFrom body name (.int n) := by
  rcases readField_cases h with ⟨hMember, rfl⟩ | ⟨w, hMember, hRead⟩
  · exact .absent hMember hDefault
  · cases w with
    | int m =>
        rw [py.intOf_int] at hRead
        rw [Option.some.inj hRead] at hMember
        exact .copied hMember
    | _ => exact .coerced _ hMember hName rfl rfl

/-- **What is read**, member by member: a member that the body has is read from it, and a
member that it lacks has its default. -/
theorem readFrom_body (hAccepted : modelValidateJson py (.obj body) = some rec) {name : String}
    {v : Json} (hField : (name, v) ∈ rec.unsignedFields) : ReadFrom body name v := by
  -- the members are read one after the other
  obtain ⟨opVersion, hOpVersion, hRest⟩ := Option.bind_eq_some_iff.1 hAccepted
  obtain ⟨operationId, hOperationId, hRest⟩ := Option.bind_eq_some_iff.1 hRest
  obtain ⟨orgId, hOrgId, hRest⟩ := Option.bind_eq_some_iff.1 hRest
  obtain ⟨agentId, hAgentId, hRest⟩ := Option.bind_eq_some_iff.1 hRest
  obtain ⟨issuedAt, hIssuedAt, hRest⟩ := Option.bind_eq_some_iff.1 hRest
  obtain ⟨ttlMs, hTtlMs, hRest⟩ := Option.bind_eq_some_iff.1 hRest
  obtain ⟨nonce, hNonce, hRest⟩ := Option.bind_eq_some_iff.1 hRest
  obtain ⟨operationType, hOperationType, hRest⟩ := Option.bind_eq_some_iff.1 hRest
  obtain ⟨subject, hSubject, hRest⟩ := Option.bind_eq_some_iff.1 hRest
  obtain ⟨action, hAction, hRest⟩ := Option.bind_eq_some_iff.1 hRest
  obtain ⟨payload, hPayload, hRest⟩ := Option.bind_eq_some_iff.1 hRest
  obtain ⟨payloadHash, hPayloadHash, hRest⟩ := Option.bind_eq_some_iff.1 hRest
  obtain ⟨prevChainHash, hPrevChainHash, hRest⟩ := Option.bind_eq_some_iff.1 hRest
  obtain ⟨agentPubkeyKid, hAgentPubkeyKid, hRest⟩ := Option.bind_eq_some_iff.1 hRest
  obtain ⟨signature, -, hRest⟩ := Option.bind_eq_some_iff.1 hRest
  obtain rfl := Option.some.inj hRest
  simp only [unsignedFields, List.mem_cons, List.not_mem_nil, or_false, Prod.mk.injEq] at hField
  rcases hField with ⟨rfl, rfl⟩ | ⟨rfl, rfl⟩ | ⟨rfl, rfl⟩ | ⟨rfl, rfl⟩ | ⟨rfl, rfl⟩ | ⟨rfl, rfl⟩ |
    ⟨rfl, rfl⟩ | ⟨rfl, rfl⟩ | ⟨rfl, rfl⟩ | ⟨rfl, rfl⟩ | ⟨rfl, rfl⟩ | ⟨rfl, rfl⟩ | ⟨rfl, rfl⟩ |
    ⟨rfl, rfl⟩
  · exact .of_parse _ parseStr_eq_some (by decide) hOpVersion
  · exact .of_parse _ parseStr_eq_some (by decide) hOperationId
  · exact .of_parse _ parseStr_eq_some (by decide) hOrgId
  · exact .of_parse _ parseStr_eq_some (by decide) hAgentId
  · exact .of_int (by decide) (by decide) hIssuedAt
  · exact .of_int (by decide) (by decide) hTtlMs
  · exact .of_parse _ parseStr_eq_some (by decide) hNonce
  · exact .of_parse _ parseStr_eq_some (by decide) hOperationType
  · exact .of_parse _ parseDict_eq_some (by decide) hSubject
  · exact .of_parse _ parseDict_eq_some (by decide) hAction
  · exact .of_parse _ parsePayload_eq_some (by decide) hPayload
  · exact .of_parse _ parseStr_eq_some (by decide) hPayloadHash
  · exact .of_parse _ parseStr_eq_some (by decide) hPrevChainHash
  · exact .of_parse _ parseStr_eq_some (by decide) hAgentPubkeyKid

theorem nodup_unsignedFields (rec : OperationRecord) :
    (rec.unsignedFields.map Prod.fst).Nodup := by
  rw [map_fst_unsignedFields]
  exact nodup_unsignedNames

/-- A body that is written out in full has the members of the record that is read. -/
theorem Verbatim.perm (hBody : Verbatim body)
    (hAccepted : modelValidateJson py (.obj body) = some rec) :
    (unsigned body).Perm rec.unsignedFields := by
  have hNodup : ((unsigned body).map Prod.fst).Nodup := hBody.1.nodup_iff.2 nodup_unsignedNames
  have hSubset : unsigned body ⊆ rec.unsignedFields := by
    intro f hf
    have hName : f.1 ∈ rec.unsignedFields.map Prod.fst :=
      hBody.1.mem_iff.1 (List.mem_map_of_mem hf)
    obtain ⟨⟨name, v⟩, hField, hSame⟩ := List.mem_map.1 hName
    have hNotSignature : f.1 ≠ "signature" := by simpa using (List.mem_filter.1 hf).2
    have hGet : Dict.get? body f.1 = some f.2 := by
      rw [← Dict.get?_filter_ne body hNotSignature.symm]
      exact (Dict.get?_eq_some_iff hNodup).2 hf
    obtain rfl : name = f.1 := hSame
    have hValue : v = f.2 := by
      cases readFrom_body hAccepted hField with
      | absent hMember _ => rw [hMember] at hGet; cases hGet
      | copied hMember => exact Option.some.inj (hMember.symm.trans hGet)
      | coerced w hMember hName hInt hOther =>
          -- an integer of the body is not read as another one
          obtain rfl : w = f.2 := Option.some.inj (hMember.symm.trans hGet)
          rw [hBody.2 f hf hName] at hOther
          cases hOther
    rw [hValue] at hField
    exact hField
  have hLength : rec.unsignedFields.length ≤ (unsigned body).length := by
    have hNames := hBody.1.length_eq
    rw [List.length_map] at hNames
    rw [hNames]
    exact le_refl _
  exact (List.subperm_of_subset hNodup.of_map hSubset).perm_of_length_le hLength

/-- An object with the canonical form of a dumped record has its members. -/
theorem names_of_same (h : Json.Same (signable rec) (.obj (unsigned body))) :
    ((unsigned body).map Prod.fst).Perm unsignedNames := by
  rw [signable_eq] at h
  have hPerm := (Json.same_obj_iff_perm (nodup_unsignedFields rec)).1 h
  have hMapped := (hPerm.map Prod.fst).symm
  rwa [Json.map_fst_orderedFields, Json.map_fst_orderedFields, map_fst_unsignedFields] at hMapped

/-- An object has the canonical form of a dumped record when its members have. -/
theorem same_iff_of_names (hNames : ((unsigned body).map Prod.fst).Perm unsignedNames) :
    Json.Same (signable rec) (.obj (unsigned body)) ↔ ∀ key,
      (Dict.get? rec.unsignedFields key).map Json.ordered =
        (Dict.get? (unsigned body) key).map Json.ordered := by
  rw [signable_eq]
  exact Json.same_obj_iff (nodup_unsignedFields rec) (hNames.nodup_iff.2 nodup_unsignedNames)

/-- **What is dumped is what was sent**, for an accepted body, exactly when the body is
written out in full. -/
theorem same_signable_iff (hAccepted : modelValidateJson py (.obj body) = some rec) :
    Json.Same (signable rec) (.obj (unsigned body)) ↔ Verbatim body := by
  constructor
  · intro h
    have hNames := names_of_same h
    have hNodup := hNames.nodup_iff.2 nodup_unsignedNames
    refine ⟨hNames, fun f hf hInt => ?_⟩
    have hValue := (same_iff_of_names hNames).1 h f.1
    rw [(Dict.get?_eq_some_iff hNodup).2 hf] at hValue
    have hDumpedInt : ∃ n, Dict.get? rec.unsignedFields f.1 = some (.int n) := by
      rcases List.mem_pair.1 hInt with hName | hName
      · exact ⟨rec.issuedAt, by rw [hName]; rfl⟩
      · exact ⟨rec.ttlMs, by rw [hName]; rfl⟩
    obtain ⟨n, hInteger⟩ := hDumpedInt
    rw [hInteger] at hValue
    have hOrdered : Json.int n = f.2.ordered := Option.some.inj hValue
    cases hShape : f.2 with
    | int m => rfl
    | _ => rw [hShape] at hOrdered; cases hOrdered
  · intro hBody
    have hPerm := hBody.perm hAccepted
    have hNodup := hBody.1.nodup_iff.2 nodup_unsignedNames
    rw [same_iff_of_names hBody.1]
    intro key
    have hGet : Dict.get? rec.unsignedFields key = Dict.get? (unsigned body) key := by
      apply Option.ext
      intro v
      rw [Dict.get?_eq_some_iff (nodup_unsignedFields rec), Dict.get?_eq_some_iff hNodup,
        hPerm.mem_iff]
    rw [hGet]

/-- A record that is read from values without floats has none. -/
theorem floatFree_signable (hFloat : ∀ name v, Dict.get? body name = some v → Json.FloatFree v)
    (hAccepted : modelValidateJson py (.obj body) = some rec) :
    Json.FloatFree (signable rec) := by
  rw [signable_eq]
  apply (Json.floatFreeFields_iff _).2
  rintro ⟨name, v⟩ hField
  cases readFrom_body hAccepted hField with
  | absent _ hDefault =>
      simp only [unsignedFields, List.mem_cons, List.not_mem_nil, or_false, Prod.mk.injEq]
        at hDefault
      rcases hDefault with ⟨-, rfl⟩ | ⟨-, rfl⟩ | ⟨-, rfl⟩ | ⟨-, rfl⟩ | ⟨-, rfl⟩ | ⟨-, rfl⟩ |
        ⟨-, rfl⟩ | ⟨-, rfl⟩ | ⟨-, rfl⟩ | ⟨-, rfl⟩ | ⟨-, rfl⟩ | ⟨-, rfl⟩ | ⟨-, rfl⟩ | ⟨-, rfl⟩ <;>
        trivial
  | copied hMember => exact hFloat name v hMember
  | coerced w _ _ hInt _ =>
      cases v with
      | int n => trivial
      | _ => cases hInt

end OperationRecord

/-- Python's truth value of a JSON value: zero and what is empty are false. -/
def truthy : Json → Bool
  | .null => false
  | .bool b => b
  | .int i => i ≠ 0
  | .float x => x ≠ .finite 0
  | .str s => s ≠ ""
  | .arr items => !items.isEmpty
  | .obj fields => !fields.isEmpty

/-- The record of a request to `/v1/operations`, whose organisation is that of the
caller. -/
def Routes.operationRecord (py : Pydantic) (body : List (String × Json)) (orgId : String) :
    Option OperationRecord :=
  if (Dict.get? body "operation_id").any truthy then
    OperationRecord.modelValidateJson py (.obj (Dict.set body "org_id" (.str orgId)))
  else none

section Parity

open OperationRecord

variable {py : Pydantic} {body : List (String × Json)} {rec : OperationRecord}

/-- The body has the caller's organisation. -/
def InOrganisation (orgId : String) (body : List (String × Json)) : Prop :=
  Dict.get? body "org_id" = some (.str orgId)

instance (orgId : String) (body : List (String × Json)) : Decidable (InOrganisation orgId body) :=
  inferInstanceAs (Decidable (_ = _))

theorem operationRecord_accepted {orgId : String}
    (h : Routes.operationRecord py body orgId = some rec) :
    modelValidateJson py (.obj (Dict.set body "org_id" (.str orgId))) = some rec := by
  unfold Routes.operationRecord at h
  split at h
  · exact h
  · cases h

/-- What the route dumps is what was sent exactly when the body is written out in full
and names the caller's organisation. -/
theorem same_operationRecord_iff {orgId : String}
    (hRequest : Routes.operationRecord py body orgId = some rec) :
    Json.Same (signable rec) (.obj (unsigned body)) ↔
      Verbatim body ∧ InOrganisation orgId body := by
  have hAccepted := operationRecord_accepted hRequest
  have hOverride : InOrganisation orgId body → modelValidateJson py (.obj body) = some rec := by
    intro hOrg
    rwa [Dict.set_of_get? hOrg] at hAccepted
  constructor
  · intro h
    have hNames := names_of_same h
    have hValue := (same_iff_of_names hNames).1 h "org_id"
    have hRead : rec.orgId = orgId := by
      have hFrom : ReadFrom _ "org_id" (.str rec.orgId) :=
        readFrom_body hAccepted (by simp [unsignedFields])
      cases hFrom with
      | absent hMember _ => rw [Dict.get?_set_self] at hMember; cases hMember
      | copied hMember =>
          rw [Dict.get?_set_self] at hMember
          exact (Json.str.inj (Option.some.inj hMember)).symm
      | coerced w _ hName _ _ => exact absurd hName (by decide)
    have hOrg : InOrganisation orgId body := by
      have hDumped : Dict.get? rec.unsignedFields "org_id" = some (.str rec.orgId) := rfl
      rw [hDumped, unsigned, Dict.get?_filter_ne body (by decide), hRead] at hValue
      unfold InOrganisation
      cases hMember : Dict.get? body "org_id" with
      | none => rw [hMember] at hValue; cases hValue
      | some w =>
          rw [hMember] at hValue
          have hOrdered : Json.str orgId = w.ordered := Option.some.inj hValue
          cases w with
          | str s => rw [hOrdered]; rfl
          | _ => cases hOrdered
    exact ⟨(same_signable_iff (hOverride hOrg)).1 h, hOrg⟩
  · rintro ⟨hBody, hOrg⟩
    exact (same_signable_iff (hOverride hOrg)).2 hBody

/-- **Parity of the signed texts.**  The text that the server verifies for an accepted
body without floats is the text that the SDK signs exactly when the body is written
out in full; the signature over the body that is sent passes the check exactly when
the body names, besides, the organisation of the caller. -/
theorem eor_signable_parity {prim : Primitives} (py : Pydantic) {body : List (String × Json)}
    (hFloat : Json.FloatFree (.obj body)) :
    (∀ rec, modelValidateJson py (.obj body) = some rec →
      (prim.jcsCanonicalize (signable rec) = eorText prim body ↔ Verbatim body)) ∧
    ∀ privateKey publicKey, KeyPair prim privateKey publicKey → SignsOneText prim publicKey →
      ∀ orgId rec, Routes.operationRecord py body orgId = some rec →
        rec.signature = signEor prim body privateKey →
          ((rec.submission (shieldSdkCrypto prim)).signedBy publicKey = true ↔
            Verbatim body ∧ InOrganisation orgId body) := by
  have hMembers : ∀ f ∈ body, Json.FloatFree f.2 := (Json.floatFreeFields_iff body).1 hFloat
  have hUnsigned : Json.FloatFree (.obj (unsigned body)) :=
    (Json.floatFreeFields_iff _).2 fun f hf => hMembers f (List.mem_of_mem_filter hf)
  have hGet : ∀ name v, Dict.get? body name = some v → Json.FloatFree v :=
    fun name v h => hMembers (name, v) (Dict.mem_of_get? h)
  constructor
  · intro rec hAccepted
    rw [← same_signable_iff hAccepted]
    exact Json.jcsCanonicalize_eq_iff _ (floatFree_signable hGet hAccepted) hUnsigned
  · intro privateKey publicKey hKeys hBinds orgId rec hRequest hSignature
    have hGetSet : ∀ name v, Dict.get? (Dict.set body "org_id" (.str orgId)) name = some v →
        Json.FloatFree v := by
      intro name v h
      rw [Dict.get?_set] at h
      by_cases hName : "org_id" = name
      · rw [if_pos hName] at h
        obtain rfl := Option.some.inj h
        trivial
      · rw [if_neg hName] at h
        exact hGet name v h
    have hText : prim.jcsCanonicalize (signable rec) = eorText prim body ↔
        Verbatim body ∧ InOrganisation orgId body := by
      rw [← same_operationRecord_iff hRequest]
      exact Json.jcsCanonicalize_eq_iff _
        (floatFree_signable hGetSet (operationRecord_accepted hRequest)) hUnsigned
    have hChecked : (rec.submission (shieldSdkCrypto prim)).signedBy publicKey =
        prim.verifyEd25519 publicKey (prim.jcsCanonicalize (signable rec)) rec.signature := rfl
    rw [← hText, hChecked, hSignature]
    constructor
    · exact fun h => hBinds _ _ _ h (hKeys (eorText prim body))
    · intro h
      rw [h]
      exact hKeys (eorText prim body)

end Parity

namespace Sample

/-- The body of an operation with the given payload member. -/
def eor (payload : List (String × Json)) : List (String × Json) :=
  [("op_version", .str "1.0"), ("operation_id", .str "op1"), ("org_id", .str "o"),
    ("agent_id", .str "a"), ("issued_at", .int 1000), ("ttl_ms", .int 30000),
    ("nonce", .str "n1"), ("operation_type", .str "tool_call"), ("subject", .obj []),
    ("action", .obj [("tool", .str "send_money")])] ++ payload ++
  [("payload_hash", .str "h"), ("prev_chain_hash", .str genesisChainHash),
    ("agent_pubkey_kid", .str "k1")]

/-- The body as it is sent, with the signature over it. -/
def sentEor (payload : List (String × Json)) : List (String × Json) :=
  eor payload ++ [("signature", .str (signEor textPrim (eor payload) "seed"))]

/-- What the server reads from the body, the defaults filled in where the agent has left
fields out. -/
def readEor (payload : List (String × Json)) : OperationRecord where
  opVersion := "1.0"
  operationId := "op1"
  orgId := "o"
  agentId := "a"
  issuedAt := 1000
  ttlMs := 30000
  nonce := "n1"
  operationType := "tool_call"
  action := [("tool", .str "send_money")]
  payloadHash := "h"
  prevChainHash := genesisChainHash
  agentPubkeyKid := "k1"
  signature := signEor textPrim (eor payload) "seed"

end Sample

/-- A body without a payload is read, and its fields are valid, but the server verifies
another text than was signed. -/
theorem eor_without_payload_not_verified :
    OperationRecord.modelValidateJson Sdk.Sample.validator.toPydantic
        (.obj (Sample.sentEor [])) = some (Sample.readEor []) ∧
      validateRecordFields Sample.textPrim.toFloatText (Sample.readEor []) 1000 = .ok () ∧
      Sample.textPrim.jcsCanonicalize (signable (Sample.readEor [])) ≠
        eorText Sample.textPrim (Sample.sentEor []) ∧
      ((Sample.readEor []).submission (shieldSdkCrypto Sample.textPrim)).signedBy "pk" = false := by
  decide +kernel

/-- The body with a null payload passes the check. -/
theorem eor_signable_parity_sample :
    Sample.textPrim.jcsCanonicalize (signable (Sample.readEor [("payload", .null)])) =
        eorText Sample.textPrim (Sample.sentEor [("payload", .null)]) ∧
      ((Sample.readEor [("payload", .null)]).submission
        (shieldSdkCrypto Sample.textPrim)).signedBy "pk" = true := by
  have hFloat : Json.FloatFree (.obj (Sample.sentEor [("payload", .null)])) := by
    simp [Sample.sentEor, Sample.eor, Json.FloatFree, Json.FloatFreeFields]
  obtain ⟨hParity, hChecked⟩ := eor_signable_parity Sdk.Sample.validator.toPydantic hFloat
  constructor
  · exact (hParity _ (by decide +kernel)).2 (by decide +kernel)
  · exact (hChecked "seed" "pk" Sample.textPrim_keyPair (Sample.textPrim_signsOneText "pk") "o" _
      (by decide +kernel) (by decide +kernel)).2 (by decide +kernel)

end AgentShield.Server
