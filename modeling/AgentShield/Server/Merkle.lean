import AgentShield.Lib.Utf16
import AgentShield.Sdk.Base64url
import AgentShield.Sdk.JsonText
import AgentShield.Server.Objects

/-!
# Epochs

An epoch commits to the operations of an organisation: the Merkle root of their chain
hashes, with their times and their number.  Its id is a hash of these, and its `EER` is
signed by the server.
-/

namespace AgentShield.Server

open AgentShield.Lib AgentShield.Sdk

/-! ## The tree -/

section Tree

variable (digest : Bytes → Bytes)

/-- The level above: neighbours are hashed together, and an odd last node with itself. -/
def parents : List Bytes → List Bytes
  | [] => []
  | [last] => [digest (last ++ last)]
  | left :: right :: rest => digest (left ++ right) :: parents rest

/-- The node that is left when the levels have been built, at most `fuel` of them. -/
def topOf (fuel : Nat) (level : List Bytes) : Bytes :=
  match fuel with
  | 0 => level.headD []
  | fuel + 1 => if 1 < level.length then topOf fuel (parents digest level) else level.headD []

/-- Every level halves, so there are fewer levels than leaves. -/
def merkleRoot (leaves : List Bytes) : Bytes :=
  if leaves = [] then digest []
  else topOf digest leaves.length (leaves.insertionSort (· ≤ ·))

theorem length_parents : ∀ level : List Bytes, (parents digest level).length =
    (level.length + 1) / 2
  | [] => rfl
  | [_] => by simp [parents]
  | _ :: _ :: rest => by
      have ih := length_parents rest
      simp only [parents, List.length_cons, ih]
      omega

end Tree

/-- The bytes that a chain hash encodes, or its own bytes when it encodes none. -/
def leafBytes (chainHash : String) : Bytes :=
  match base64urlDecode chainHash with
  | some bytes => bytes
  | none => utf8 chainHash

/-! ## Epochs and their evidence -/

structure Epoch where
  epochId : String
  orgId : String
  startTime : Int
  endTime : Int
  rootHash : String
  leafCount : Int
  r2EpochKey : String
  createdAt : Int
  deriving DecidableEq

structure EER where
  epochId : String
  orgId : String
  startTime : Int
  endTime : Int
  leafCount : Int
  rootHash : String
  hashAlg : String
  signatureByElydora : String
  deriving DecidableEq

def hashAlg : String := "sha256-binary-merkle-v1"

def Epoch.modelDump (e : Epoch) : Json :=
  .obj
    [("epoch_id", .str e.epochId),
     ("org_id", .str e.orgId),
     ("start_time", .int e.startTime),
     ("end_time", .int e.endTime),
     ("root_hash", .str e.rootHash),
     ("leaf_count", .int e.leafCount),
     ("r2_epoch_key", .str e.r2EpochKey),
     ("created_at", .int e.createdAt)]

/-- The signed part of the evidence. -/
def EER.body (eer : EER) : List (String × Json) :=
  [("epoch_id", .str eer.epochId),
   ("org_id", .str eer.orgId),
   ("start_time", .int eer.startTime),
   ("end_time", .int eer.endTime),
   ("leaf_count", .int eer.leafCount),
   ("root_hash", .str eer.rootHash),
   ("hash_alg", .str eer.hashAlg)]

def EER.modelDump (eer : EER) : Json :=
  .obj (eer.body ++ [("signature_by_elydora", .str eer.signatureByElydora)])

/-- A field that has no default. -/
def requireField {α : Type} (doc : Json) (key : String) (parse : Json → Option α) : Option α :=
  (doc.field? key).bind parse

def EER.modelValidate (py : Pydantic) (doc : Json) : Option EER := do
  return {
    epochId := ← requireField doc "epoch_id" parseStr
    orgId := ← requireField doc "org_id" parseStr
    startTime := ← requireField doc "start_time" py.intOf
    endTime := ← requireField doc "end_time" py.intOf
    leafCount := ← requireField doc "leaf_count" py.intOf
    rootHash := ← requireField doc "root_hash" parseStr
    hashAlg := ← requireField doc "hash_alg" parseStr
    signatureByElydora := ← requireField doc "signature_by_elydora" parseStr }

/-! ## Texts in ASCII -/

/-- A code unit as an escape. -/
def unicodeEscape (unit : Nat) : String :=
  "\\u" ++ String.ofList
    [hexDigit (unit / 4096), hexDigit (unit / 256 % 16), hexDigit (unit / 16 % 16),
      hexDigit (unit % 16)]

/-- `json.dumps` of a string: what is not printable ASCII is escaped. -/
def asciiString (s : String) : String :=
  "\"" ++ String.join (s.toList.map fun c =>
    if c.toNat ≤ 126 then escapeChar c
    else String.join ((Utf16.encodeChar c).map unicodeEscape)) ++ "\""

/-- `json.dumps` of an object of texts, integers and nulls, with its keys in order and
compact separators. -/
def dumpsFlat (fields : List (String × Json)) : String :=
  let texts := (fields.insertionSort fun f g => f.1 ≤ g.1).map fun f =>
    asciiString f.1 ++ ":" ++
      match f.2 with
      | .str s => asciiString s
      | .int i => toString i
      | _ => "null"
  "\x7b" ++ ",".intercalate texts ++ "\x7d"

/-! ## An epoch of the stored operations -/

section Epochs

variable {prim : Primitives} (sha256 : Sha256 prim)

def epochId (prim : Primitives) (orgId : String) (startTime endTime : Int)
    (rootHash : String) (leafCount : Nat) : String :=
  "epoch_" ++ prim.sha256Base64url
    (orgId ++ "|" ++ toString startTime ++ "|" ++ toString endTime ++ "|" ++ rootHash ++
      "|" ++ toString leafCount)

/-- The order of the rows of an epoch. -/
def OperationRow.Before (r r' : OperationRow) : Prop :=
  r.createdAt < r'.createdAt ∨ r.createdAt = r'.createdAt ∧ r.operationId ≤ r'.operationId

instance : DecidableRel OperationRow.Before := fun r r' =>
  inferInstanceAs (Decidable (r.createdAt < r'.createdAt ∨ _ ∧ _))

def epochFromOperationRows (orgId : String) (rows : List OperationRow) : Option Epoch :=
  match (rows.filter fun r => r.orgId = orgId).insertionSort OperationRow.Before with
  | [] => none
  | first :: rest =>
      let rows := first :: rest
      let startTime := first.createdAt
      let endTime := (rows.getLast (List.cons_ne_nil _ _)).createdAt
      let leaves := rows.map fun r => leafBytes r.chainHash
      let rootHash := base64urlEncode (merkleRoot sha256.digest leaves)
      let id := epochId prim orgId startTime endTime rootHash leaves.length
      some
        { epochId := id
          orgId := orgId
          startTime := startTime
          endTime := endTime
          rootHash := rootHash
          leafCount := leaves.length
          r2EpochKey := epochKey orgId id
          createdAt := endTime }

end Epochs

section Signing

variable (prim : Primitives)

def eerSignable (eer : EER) : String := dumpsFlat eer.body

def signEer (epoch : Epoch) (signingKey : String) : EER :=
  let eer : EER :=
    { epochId := epoch.epochId
      orgId := epoch.orgId
      startTime := epoch.startTime
      endTime := epoch.endTime
      leafCount := epoch.leafCount
      rootHash := epoch.rootHash
      hashAlg := hashAlg
      signatureByElydora := "" }
  { eer with signatureByElydora := prim.signEd25519 signingKey (eerSignable eer) }

end Signing

/-- The document that an epoch is stored in. -/
def epochArtifact (epoch : Epoch) (eer : EER) : Json :=
  (Json.obj [("epoch", epoch.modelDump), ("eer", eer.modelDump)]).ordered

end AgentShield.Server
