import AgentShield.Sdk.Json

/-!
# Hashing and signing

The primitives are taken as parameters: SHA-256 and Ed25519 in their base64url
text forms, and the printing of floats.  Everything the code derives from them,
the payload hash, the chain hash and the canonical texts, is defined here.  A
text stands for its UTF-8 bytes.
-/

namespace AgentShield.Sdk

/-- The primitives behind the SDK's crypto module. -/
structure Primitives extends FloatText where
  sha256Base64url : String → String
  signEd25519 (privateKeyBase64url data : String) : String
  verifyEd25519 (publicKeyBase64url data signatureBase64url : String) : Bool

/-- The head of a chain without operations: 43 characters, no padding. -/
def genesisChainHash : String := "AAAAAAAAAAAAAAAAAAAAAAAAAAAAAAAAAAAAAAAAAAA"

namespace Primitives

variable (prim : Primitives)

def jcsCanonicalize (value : Json) : String :=
  prim.toFloatText.jcsCanonicalize value

def computePayloadHash (payload : Json) : String :=
  prim.sha256Base64url (prim.jcsCanonicalize payload)

/-- SHA-256 of `prev|payload_hash|operation_id|issued_at`. -/
def computeChainHash (prevChainHash payloadHash operationId : String) (issuedAt : Int) :
    String :=
  prim.sha256Base64url
    (prevChainHash ++ "|" ++ payloadHash ++ "|" ++ operationId ++ "|" ++ toString issuedAt)

theorem jcsCanonicalize_wire (value : Json) :
    prim.jcsCanonicalize value.wire = prim.jcsCanonicalize value :=
  prim.toFloatText.jcsCanonicalize_wire value

theorem computePayloadHash_wire (payload : Json) :
    prim.computePayloadHash payload.wire = prim.computePayloadHash payload := by
  unfold computePayloadHash
  rw [jcsCanonicalize_wire]

end Primitives

namespace Sample

/-- Primitives with short texts, for runs that are computed: hashing keeps the
text, and the one valid signature is `sig`. -/
def prim : Primitives where
  repr _ := "0.0"
  ryu _ := "0.0"
  sha256Base64url data := data
  signEd25519 _ _ := "sig"
  verifyEd25519 _ _ signature := signature == "sig"

end Sample

end AgentShield.Sdk
