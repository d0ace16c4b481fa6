import Mathlib.Data.List.DropRight
import AgentShield.Server.Cursor

/-!
# The two base64url codecs

`shield_sdk.crypto` and `shield_server._b64` each strip the padding of the standard text
and supply it again by arithmetic on the length of what they read.

## Main results

* `base64urlEncode_eq`, `b64urlEncode_eq` — both encoders are the standard text without its
  padding.
* `b64urlDecode_eq` — the decoders read every text alike, also the texts they refuse.
* `base64url_agreement` — each decoder reads each encoder's texts, however padded.
-/

namespace AgentShield.Server

open Sdk

/-! ## Encoders -/

/-- The standard text, in groups of four characters. -/
def urlsafeB64encode (data : Bytes) : List Char :=
  (sextets data).map sextetChar ++ lackingPad (sextets data).length

def b64urlEncode (data : Bytes) : String :=
  String.ofList ((urlsafeB64encode data).rdropWhile (· = '='))

theorem rdropWhile_pads {cs : List Char} (h : '=' ∉ cs) (n : Nat) :
    (cs ++ List.replicate n '=').rdropWhile (· = '=') = cs := by
  induction n with
  | zero =>
      rw [List.replicate_zero, List.append_nil, List.rdropWhile_eq_self_iff]
      intro hCons hLast
      exact h (of_decide_eq_true hLast ▸ List.getLast_mem hCons)
  | succ n ih =>
      rw [List.replicate_succ', ← List.append_assoc, List.rdropWhile_concat_pos _ _ _ (by simp)]
      exact ih

theorem pad_notMem_sextets (data : Bytes) : '=' ∉ (sextets data).map sextetChar := by
  intro h
  rw [← toList_base64urlEncode] at h
  exact absurd (mem_base64urlEncode h) (by decide)

/-- The SDK's encoder strips the padding of the standard text. -/
theorem base64urlEncode_eq (data : Bytes) :
    base64urlEncode data = String.ofList ((urlsafeB64encode data).rdropWhile (· = '=')) := by
  unfold urlsafeB64encode lackingPad
  rw [rdropWhile_pads (pad_notMem_sextets data)]
  rfl

/-- So does the server's. -/
theorem b64urlEncode_eq (data : Bytes) : b64urlEncode data = base64urlEncode data :=
  (base64urlEncode_eq data).symm

/-! ## Decoders -/

/-- The two lengths of the missing padding agree. -/
theorem b64urlDecode_eq (text : String) : b64urlDecode text = base64urlDecode text := by
  unfold b64urlDecode base64urlDecode lackingPad
  by_cases hAscii : text.toList.all (·.toNat < 128) = true
  · rw [if_pos hAscii, if_pos hAscii]
    dsimp only
    by_cases hFull : 4 - text.length % 4 = 4
    · rw [hFull, if_pos rfl]
      rfl
    · have hPad : (4 - text.length % 4) % 4 = 4 - text.length % 4 := Nat.mod_eq_of_lt (by omega)
      rw [if_neg hFull, hPad]
  · rw [if_neg hAscii, if_neg hAscii]

/-- The text `s` with `n` characters of padding behind it. -/
def withPads (s : String) (n : Nat) : String := s ++ String.ofList (List.replicate n '=')

theorem toList_withPads (s : String) (n : Nat) :
    (withPads s n).toList = s.toList ++ List.replicate n '=' := by
  simp [withPads]

@[simp] theorem withPads_zero (s : String) : withPads s 0 = s :=
  String.toList_inj.1 (by simp [toList_withPads])

/-- **What was encoded is read back, with any number of padding characters.** -/
theorem b64urlDecode_withPads (data : Bytes) (n : Nat) :
    b64urlDecode (withPads (base64urlEncode data) n) = some data := by
  have hLength : (withPads (base64urlEncode data) n).length = (sextets data).length + n := by
    rw [← String.length_toList, toList_withPads, toList_base64urlEncode, List.length_append,
      List.length_map, List.length_replicate]
  have hAscii : (withPads (base64urlEncode data) n).toList.all (·.toNat < 128) = true := by
    rw [toList_withPads, List.all_append, base64urlEncode_ascii, Bool.true_and, List.all_eq_true]
    intro c hc
    rw [List.eq_of_mem_replicate hc]
    decide
  unfold b64urlDecode
  rw [if_pos hAscii, hLength, toList_withPads, toList_base64urlEncode, List.append_assoc]
  unfold lackingPad
  rw [List.replicate_append_replicate]
  apply a2bBase64_sextets_pads
  omega

/-- **The codecs agree**: one text for each byte string, and both decoders read it back from
any padded form.  The server's coder and the SDK's are written differently, but every one of
the four pairs of them is a round trip. -/
theorem base64url_agreement (data : Bytes) :
    b64urlEncode data = base64urlEncode data ∧
      ∀ n : Nat,
        base64urlDecode (withPads (base64urlEncode data) n) = some data ∧
        base64urlDecode (withPads (b64urlEncode data) n) = some data ∧
        b64urlDecode (withPads (b64urlEncode data) n) = some data ∧
        b64urlDecode (withPads (base64urlEncode data) n) = some data := by
  refine ⟨b64urlEncode_eq data, ?_⟩
  intro n
  have hServer := b64urlDecode_withPads data n
  have hSdk : base64urlDecode (withPads (base64urlEncode data) n) = some data := by
    rw [← b64urlDecode_eq]
    exact hServer
  rw [b64urlEncode_eq]
  exact ⟨hSdk, hSdk, hServer, hServer⟩

end AgentShield.Server
