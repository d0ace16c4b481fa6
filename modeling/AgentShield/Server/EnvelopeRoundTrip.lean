import AgentShield.Governance.TrackerExactness
import AgentShield.Sdk.PresentNull
import AgentShield.Sdk.RoundTrip
import AgentShield.Server.Verdicts

/-!
# Envelopes that are read back

What the server signs and stores, and what it accepts and stores, is read back and
verified again.  The signing string is a projection of the model, the store keeps
another text of it, and the verifier projects what it parsed: all three agree
exactly when every typed float of the envelope has a JSON number.

Of Ed25519 two things are used: the server's own signatures verify under its
public key, and a signature that verifies is a signature of one text.
-/

namespace AgentShield.Server

open AgentShield.Lib AgentShield.Sdk

/-- The halves of one key pair. -/
def KeyPair (prim : Primitives) (privateKey publicKey : String) : Prop :=
  ∀ message, prim.verifyEd25519 publicKey message (prim.signEd25519 privateKey message) = true

/-- No signature verifies for two texts. -/
def SignsOneText (prim : Primitives) (publicKey : String) : Prop :=
  ∀ message message' signature, prim.verifyEd25519 publicKey message signature = true →
    prim.verifyEd25519 publicKey message' signature = true → message = message'

section ReadBack

variable (prim : Primitives) (v : Validator)

/-- The stored verdict is read, and what is read verifies. -/
def VerdictReadsBack (publicKey : String) (verdict : GovernanceVerdict) : Prop :=
  ∀ freshId, ∃ verdict',
    GovernanceVerdict.modelValidate v freshId (verdict.modelDump false).wire = some verdict' ∧
      verifyVerdict prim verdict' publicKey = true

/-- The stored record is read, and what is read verifies. -/
def RecordReadsBack (publicKey : String) (rec : ShieldActionRecord) : Prop :=
  ∀ fresh, ∃ rec',
    ShieldActionRecord.modelValidate v fresh (rec.modelDump false).wire = some rec' ∧
      verifyRecord prim rec' publicKey = true

end ReadBack

section RoundTrip

variable {prim : Primitives} (v : Validator) {publicKey : String}

/-- The signing string does not look at the signature. -/
private theorem verdictSigningString_signature (g : GovernanceVerdict)
    (signature : Option String) :
    verdictSigningString prim { g with signatureByShield := signature } =
      verdictSigningString prim g := by
  unfold verdictSigningString
  rw [verdictSignableDict_eq, verdictSignableDict_eq]
  rfl

theorem verifyVerdict_finalizeVerdict_wire (g : GovernanceVerdict) (privateKey : String) :
    verifyVerdict prim (finalizeVerdict prim g privateKey).wire publicKey =
      prim.verifyEd25519 publicKey (verdictSigningString prim g.wire)
        (prim.signEd25519 privateKey (verdictSigningString prim g)) := by
  show prim.verifyEd25519 publicKey
      (verdictSigningString prim { g.wire with
        signatureByShield := (finalizeVerdict prim g privateKey).signatureByShield })
      (prim.signEd25519 privateKey (verdictSigningString prim g)) = _
  rw [verdictSigningString_signature]

/-- **A signed verdict** verifies after it is read back exactly when each of its
floats has a JSON number. -/
theorem finalizeVerdict_readsBack {privateKey : String}
    (hKeys : KeyPair prim privateKey publicKey) (hBinds : SignsOneText prim publicKey)
    (g : GovernanceVerdict) (hWithin : withinUnit g.riskScore) :
    VerdictReadsBack prim v publicKey (finalizeVerdict prim g privateKey) ↔ g.Portable := by
  constructor
  · intro h
    obtain ⟨g', hRead, hVerify⟩ := h ""
    by_cases hRisk : ∃ q, g.riskScore = .finite q
    · obtain ⟨q, hq⟩ := hRisk
      have hWire := GovernanceVerdict.modelValidate_modelDump v ""
        (finalizeVerdict prim g privateKey) (q := q) hq hWithin
      obtain rfl : (finalizeVerdict prim g privateKey).wire = g' := by
        rw [hWire] at hRead
        exact Option.some.inj hRead
      rw [verifyVerdict_finalizeVerdict_wire] at hVerify
      -- the signature is of one text, so both signing strings are as long
      have hSame := hBinds _ _ _ hVerify (hKeys (verdictSigningString prim g))
      by_contra hLost
      have hLt := length_verdictSignableDict_wire prim.toFloatText ⟨q, hq⟩ hLost
      exact prim.toFloatText.jcsCanonicalize_ne (Nat.ne_of_lt hLt) hSame
    · have hNone := GovernanceVerdict.modelValidate_risk v ""
        (finalizeVerdict prim g privateKey) fun q hq => hRisk ⟨q, hq⟩
      rw [hNone] at hRead
      cases hRead
  · intro h freshId
    obtain ⟨q, hq⟩ := h.riskScore
    refine ⟨_, GovernanceVerdict.modelValidate_modelDump v freshId
      (finalizeVerdict prim g privateKey) (q := q) hq hWithin, ?_⟩
    have hString : verdictSigningString prim g.wire = verdictSigningString prim g := by
      unfold verdictSigningString
      rw [verdictSignableDict_wire h, prim.jcsCanonicalize_wire]
    rw [verifyVerdict_finalizeVerdict_wire, hString]
    exact hKeys _

private theorem portable_congr {g decided : GovernanceVerdict}
    (hRisk : g.riskScore = decided.riskScore) (hReasons : g.reasons = decided.reasons)
    (hObligations : g.obligations = decided.obligations)
    (hLatency : g.latencyMs = decided.latencyMs) (h : g.Portable) : decided.Portable where
  riskScore := hRisk ▸ h.riskScore
  scores := hReasons ▸ h.scores
  preventedLoss := hObligations ▸ h.preventedLoss
  latencyMs := hLatency ▸ h.latencyMs

/-- The verdicts of `decide` and `publishAsyncVerdict`. -/
theorem serveVerdict_readsBack {privateKey : String}
    (hKeys : KeyPair prim privateKey publicKey) (hBinds : SignsOneText prim publicKey)
    (rec : ShieldActionRecord) (decided : GovernanceVerdict) (servedAt : Int)
    (latencyMs : PyFloat) (hWithin : withinUnit decided.riskScore) :
    VerdictReadsBack prim v publicKey
        (serveVerdict prim privateKey rec decided servedAt latencyMs) ↔
      { decided with latencyMs := some latencyMs }.Portable := by
  have hServed := finalizeVerdict_readsBack v hKeys hBinds
    { decided with
      recordId := some rec.recordId
      correlationId := rec.correlationId
      runId := some rec.runId
      servedAt := some servedAt
      latencyMs := some latencyMs
      shieldKid := some shieldKid } hWithin
  exact hServed.trans ⟨portable_congr rfl rfl rfl rfl, portable_congr rfl rfl rfl rfl⟩

/-- The verdicts of `resume`. -/
theorem serveResumed_readsBack {privateKey : String}
    (hKeys : KeyPair prim privateKey publicKey) (hBinds : SignsOneText prim publicKey)
    (decided : GovernanceVerdict) (servedAt : Int) (latencyMs : PyFloat)
    (hWithin : withinUnit decided.riskScore) :
    VerdictReadsBack prim v publicKey
        (serveResumed prim privateKey decided servedAt latencyMs) ↔
      { decided with latencyMs := some latencyMs }.Portable := by
  have hResumed := finalizeVerdict_readsBack v hKeys hBinds
    { decided with
      servedAt := some servedAt
      latencyMs := some latencyMs
      shieldKid := some shieldKid } hWithin
  exact hResumed.trans ⟨portable_congr rfl rfl rfl rfl, portable_congr rfl rfl rfl rfl⟩

/-- **An accepted record** verifies after it is read back exactly when its payload
has no bare NaN or infinity. -/
theorem record_readsBack (hBinds : SignsOneText prim publicKey) (rec : ShieldActionRecord)
    (hSigned : verifyRecord prim rec publicKey = true) :
    RecordReadsBack prim v publicKey rec ↔ Portable rec.payload := by
  obtain ⟨signature, hSig⟩ : ∃ signature, rec.signature = some signature := by
    cases hNone : rec.signature with
    | none => simp [verifyRecord, hNone] at hSigned
    | some signature => exact ⟨signature, rfl⟩
  have hWireSig : rec.wire.signature = some signature := hSig
  have hVerified : prim.verifyEd25519 publicKey (recordSigningString prim rec) signature =
      true := by
    simpa [verifyRecord, hSig] using hSigned
  constructor
  · intro h
    obtain ⟨rec', hRead, hVerify⟩ := h ⟨"", "", 0, ""⟩
    rw [ShieldActionRecord.modelValidate_modelDump] at hRead
    obtain rfl : rec.wire = rec' := Option.some.inj hRead
    have hAgain : prim.verifyEd25519 publicKey (recordSigningString prim rec.wire) signature =
        true := by
      simpa [verifyRecord, hWireSig] using hVerify
    have hSame := hBinds _ _ _ hAgain hVerified
    by_contra hLost
    have hLt := length_recordSignableDict_wire prim.toFloatText hLost
    exact prim.toFloatText.jcsCanonicalize_ne (Nat.ne_of_lt hLt) hSame
  · intro h fresh
    refine ⟨rec.wire, ShieldActionRecord.modelValidate_modelDump v fresh rec, ?_⟩
    have hString : recordSigningString prim rec.wire = recordSigningString prim rec := by
      unfold recordSigningString
      rw [recordSignableDict_wire h, prim.jcsCanonicalize_wire]
    simp only [verifyRecord, hWireSig, hString]
    exact hVerified

end RoundTrip

/-- **Envelope round trip.**  The verdicts that `decide` and `publishAsyncVerdict` sign
(`serveVerdict`), those of a resumed incident (`serveResumed`) and the records of an agent are
read back from the wire as they were and still verify, exactly when every float in them has a
JSON number. -/
theorem envelope_roundTrip (settings : Settings) (v : Validator) (publicKey : String)
    (hKeys : KeyPair settings.prim settings.serverSigningKey publicKey)
    (hBinds : SignsOneText settings.prim publicKey) :
    (∀ rec decided servedAt latencyMs, withinUnit decided.riskScore →
      (VerdictReadsBack settings.prim v publicKey
          (serveVerdict settings.prim settings.serverSigningKey rec decided servedAt latencyMs) ↔
        { decided with latencyMs := some latencyMs }.Portable)) ∧
    (∀ decided servedAt latencyMs, withinUnit decided.riskScore →
      (VerdictReadsBack settings.prim v publicKey
          (serveResumed settings.prim settings.serverSigningKey decided servedAt latencyMs) ↔
        { decided with latencyMs := some latencyMs }.Portable)) ∧
    ∀ rec agentKey, SignsOneText settings.prim agentKey →
      verifyRecord settings.prim rec agentKey = true →
      (RecordReadsBack settings.prim v agentKey rec ↔ Portable rec.payload) := by
  constructor
  · intro rec decided servedAt latencyMs hWithin
    exact serveVerdict_readsBack v hKeys hBinds rec decided servedAt latencyMs hWithin
  constructor
  · intro decided servedAt latencyMs hWithin
    exact serveResumed_readsBack v hKeys hBinds decided servedAt latencyMs hWithin
  · intro rec agentKey hAgent hSigned
    exact record_readsBack v hAgent rec hSigned

namespace Sample

/-- Primitives whose signature is the signed text. -/
def textPrim : Primitives where
  repr _ := "0.0"
  ryu _ := "0.0"
  sha256Base64url data := data
  signEd25519 _ data := data
  verifyEd25519 _ data signature := data == signature

/-- A transfer of the given amount. -/
def transferOf (amount : Json) : ShieldActionRecord :=
  { action "r1" "n1" .preExec 1 genesisChainHash "" with
    payload :=
      { toolName := some "send_money"
        toolArgs := [("recipient", .str "US13"), ("amount", amount), ("subject", .str "rent")] } }

/-- The verdict of the default gate on a record. -/
def judged (rec : ShieldActionRecord) : Option GovernanceVerdict :=
  (Governance.GovApp.decide Governance.Sample.text
    (Governance.buildDecideApp Governance.Sample.engine Governance.Sample.supervisor true)
    ⟨"v1", .finite 1⟩ "v2" rec).1.toOption

/-- A verdict of risk one half. -/
def halfRisk : GovernanceVerdict where
  verdictId := "v1"
  correlationId := "c"
  decision := .pass
  riskScore := .finite (1 / 2)

/-- A record with its signature. -/
def signed (rec : ShieldActionRecord) : ShieldActionRecord :=
  { rec with signature := some (signRecord textPrim rec "seed") }

theorem textPrim_keyPair : KeyPair textPrim "seed" "pk" := fun message => by
  simp [textPrim]

theorem textPrim_signsOneText (publicKey : String) : SignsOneText textPrim publicKey := by
  intro message message' signature h h'
  have hEq : message = signature := by simpa [textPrim] using h
  have hEq' : message' = signature := by simpa [textPrim] using h'
  rw [hEq, hEq']

end Sample

/-- The verdict on a transfer of an infinite amount prevents an infinite loss, and
does not verify when it is read back. -/
theorem infinite_loss_not_verified :
    ∃ decided, Sample.judged (Sample.transferOf (.float .inf)) = some decided ∧
      ¬ VerdictReadsBack Sample.textPrim Sdk.Sample.validator "pk"
        (serveVerdict Sample.textPrim "seed" (Sample.transferOf (.float .inf)) decided 2
          (.finite 1)) := by
  have hLoss : (Sample.judged (Sample.transferOf (.float .inf))).any (fun decided =>
      decide (decided.obligations.preventedLoss = some PyFloat.inf) &&
        decide (withinUnit decided.riskScore)) = true := by
    decide +kernel
  cases hJudged : Sample.judged (Sample.transferOf (.float .inf)) with
  | none => simp [hJudged] at hLoss
  | some decided =>
      rw [hJudged] at hLoss
      simp only [Option.any_some, Bool.and_eq_true, decide_eq_true_eq] at hLoss
      refine ⟨decided, rfl, fun h => ?_⟩
      have hPortable := (serveVerdict_readsBack Sdk.Sample.validator
        Sample.textPrim_keyPair (Sample.textPrim_signsOneText "pk") _ _ _ _ hLoss.2).1 h
      have hLost : decided.obligations.preventedLoss.bind storedFloat =
          decided.obligations.preventedLoss := hPortable.preventedLoss
      rw [hLoss.1] at hLost
      cases hLost

/-- A verdict with finite floats and the signed record of a transfer of 1 are read
back. -/
theorem envelope_roundTrip_sample :
    VerdictReadsBack Sample.textPrim Sdk.Sample.validator "pk"
        (serveVerdict Sample.textPrim "seed" (Sample.transferOf (.int 1)) Sample.halfRisk 2
          (.finite 1)) ∧
      RecordReadsBack Sample.textPrim Sdk.Sample.validator "pk"
        (Sample.signed (Sample.transferOf (.int 1))) := by
  obtain ⟨hServed, -, hAccepted⟩ := envelope_roundTrip ⟨Sample.textPrim, "seed"⟩
    Sdk.Sample.validator "pk" Sample.textPrim_keyPair (Sample.textPrim_signsOneText "pk")
  constructor
  · refine (hServed (Sample.transferOf (.int 1)) Sample.halfRisk 2 (.finite 1)
      (by decide +kernel)).2 ?_
    exact { riskScore := ⟨1 / 2, rfl⟩
            scores := fun _ h => absurd h List.not_mem_nil
            preventedLoss := rfl
            latencyMs := rfl }
  · exact (hAccepted (Sample.signed (Sample.transferOf (.int 1))) "pk"
      (Sample.textPrim_signsOneText "pk") (by decide +kernel)).2 (by decide +kernel)

end AgentShield.Server
