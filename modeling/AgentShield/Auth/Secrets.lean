import AgentShield.Auth.Tables

/-!
# Passwords, one-time codes and opaque tokens

A password is keyed with a pepper before it is hashed, and a TOTP secret is encrypted with
a key; both rotate.  A `KidList` holds the secrets by their ids, the active one first, as
the settings parse them: never empty, and no id twice.
-/

namespace AgentShield.Auth

open AgentShield.Lib AgentShield.Sdk AgentShield.Server

structure KidList where
  active : String × String
  older : List (String × String) := []
  distinct : ((active :: older).map Prod.fst).Nodup

namespace KidList

variable (kids : KidList)

def entries : List (String × String) := kids.active :: kids.older

def activeKid : String := kids.active.1

def activeSecret : String := kids.active.2

/-- The secret of a kid. -/
def secret? (kid : String) : Option String := kids.entries.lookup kid

theorem secret?_active : kids.secret? kids.activeKid = some kids.activeSecret := by
  show List.lookup kids.active.1 ((kids.active.1, kids.active.2) :: kids.older) = _
  exact List.lookup_cons_self

end KidList

variable (prim : AuthPrimitives)

/-! ## Passwords -/

structure VerifyResult where
  ok : Bool
  needsRehash : Bool := false
  deriving DecidableEq, Repr

def pepperPassword (password pepperSecret : String) : String :=
  prim.hmacSha256Hex pepperSecret password

namespace PasswordHasherService

variable (peppers : KidList)

/-- A fresh hash under the active pepper; `salt` numbers the random salt. -/
def hash (salt : Nat) (password : String) : String × String :=
  (prim.argon2Hash salt (pepperPassword prim password peppers.activeSecret), peppers.activeKid)

def verify (password storedHash storedKid : String) : VerifyResult :=
  match peppers.secret? storedKid with
  | none => { ok := false }
  | some pepperSecret =>
      if prim.argon2Verify storedHash (pepperPassword prim password pepperSecret) then
        { ok := true
          needsRehash := storedKid != peppers.activeKid || prim.argon2NeedsRehash storedHash }
      else { ok := false }

/-- The password that a user presents against the row of the user. -/
def accepts (password : String) (user : User) : Bool :=
  (verify prim peppers password user.passwordHash user.passwordPepperKid).ok

end PasswordHasherService

/-- What the random salts and the keyed hash of passwords promise: a hash verifies the text
that it was made of and no other, no hash is made twice, and no two passwords are keyed to
the same text. -/
structure SoundHashing : Prop where
  verify : ∀ salt x y, prim.argon2Verify (prim.argon2Hash salt x) y = true ↔ x = y
  fresh : ∀ salt salt' x y, prim.argon2Hash salt x = prim.argon2Hash salt' y → salt = salt'
  keyed : ∀ key x y, prim.hmacSha256Hex key x = prim.hmacSha256Hex key y → x = y

/-- A fresh hash accepts the password that it was made of, and no other. -/
theorem PasswordHasherService.verify_hash {prim : AuthPrimitives} (h : SoundHashing prim)
    (peppers : KidList) (salt : Nat) (password candidate : String) :
    (verify prim peppers candidate (hash prim peppers salt password).1
      (hash prim peppers salt password).2).ok = true ↔ candidate = password := by
  have hVerify : prim.argon2Verify (hash prim peppers salt password).1
      (pepperPassword prim candidate peppers.activeSecret) = true ↔ candidate = password := by
    refine (h.verify _ _ _).trans ⟨fun hSame => (h.keyed _ _ _ hSame).symm, ?_⟩
    rintro rfl
    rfl
  have hSecret : peppers.secret? (hash prim peppers salt password).2 =
      some peppers.activeSecret := peppers.secret?_active
  simp only [verify, hSecret]
  by_cases hSame : candidate = password
  · rw [if_pos (hVerify.2 hSame)]
    simp [hSame]
  · rw [if_neg fun hOk => hSame (hVerify.1 hOk)]
    simp [hSame]

/-! ## One-time codes -/

structure TotpDecrypt where
  secret : String
  needsRewrap : Bool
  newActiveKid : String
  deriving DecidableEq, Repr

namespace TotpService

variable (keys : KidList)

/-- Encrypts under the active key; `iv` numbers the random part of the ciphertext. -/
def encrypt (iv : Nat) (secret : String) : String :=
  prim.fernetEncrypt keys.activeSecret iv secret

/-- Every key in turn; `none` is the `InvalidToken` that no handler catches. -/
def decrypt (ciphertext storedKid : String) : Option TotpDecrypt :=
  (keys.entries.findSome? fun k => prim.fernetDecrypt k.2 ciphertext).map fun secret =>
    { secret := secret
      needsRewrap := storedKid != keys.activeKid
      newActiveKid := keys.activeKid }

/-- RFC 6238 verification at the time `now`, one step early or late. -/
def verify (secret code : String) (now : Int) : Bool :=
  code != "" && code.toList.all prim.isDigit && [6, 7, 8].contains code.length &&
    prim.totpAccepts secret code now

/-- The recovery codes that are drawn from `n` on. -/
def recoveryCodes (n : Nat) : List String := (List.range 10).map fun i => prim.token (n + i)

def hashRecoveryCode (code : String) : String := prim.sha256Hex code

def recoveryHashes (n : Nat) : List String :=
  (recoveryCodes prim n).map (hashRecoveryCode prim)

/-- The code is one of the stored ones, and what is stored without it. -/
def consumeRecoveryCode (candidate : String) (storedHashes : List String) :
    Bool × List String :=
  let candidateHash := hashRecoveryCode prim candidate
  if candidateHash ∈ storedHashes then (true, storedHashes.erase candidateHash)
  else (false, storedHashes)

theorem consumeRecoveryCode_ok {candidate : String} {stored : List String}
    (h : (consumeRecoveryCode prim candidate stored).1 = true) :
    hashRecoveryCode prim candidate ∈ stored ∧
      (consumeRecoveryCode prim candidate stored).2 =
        stored.erase (hashRecoveryCode prim candidate) := by
  by_cases hMem : hashRecoveryCode prim candidate ∈ stored
  · simp [consumeRecoveryCode, hMem]
  · simp [consumeRecoveryCode, hMem] at h

end TotpService

/-! ## Secrets that can be computed -/

namespace Sample

/-- Texts that tell their numbers and passwords: tokens, ids and secrets are letters repeated,
a digest and a ciphertext are the text itself, and a password hash is its salt and the
password. -/
def authPrim : AuthPrimitives where
  lower := id
  sha256Hex := id
  hmacSha256Hex key text := key ++ text
  token n := String.ofList (List.replicate (n + 1) 't')
  uuid n := String.ofList (List.replicate (n + 1) 'u')
  argon2Hash salt text := String.ofList (List.replicate (salt + 1) 'x' ++ ':' :: text.toList)
  argon2Verify hash text := hash.toList.dropWhile (· = 'x') = ':' :: text.toList
  argon2NeedsRehash _ := false
  fernetEncrypt _ _ text := text
  fernetDecrypt _ text := some text
  totpSecret n := String.ofList (List.replicate (n + 1) 's')
  totpAccepts _ _ _ := true
  isDigit := Char.isDigit
  provisioningUri secret account := secret ++ account

theorem authPrim_token {n m : Nat} (h : authPrim.token n = authPrim.token m) : n = m := by
  have hLists : List.replicate (n + 1) 't' = List.replicate (m + 1) 't' := String.ofList_injective h
  have hLength := congrArg List.length hLists
  simp only [List.length_replicate] at hLength
  omega

theorem authPrim_sound : SoundHashing authPrim where
  verify salt x y := by
    have hPad : (List.replicate (salt + 1) 'x' ++ ':' :: x.toList).dropWhile (· = 'x') =
        ':' :: x.toList := by simp
    simp only [authPrim, String.toList_ofList, hPad, decide_eq_true_eq, List.cons.injEq, true_and]
    exact String.toList_inj
  fresh salt salt' x y h := by
    have hLists : List.replicate (salt + 1) 'x' ++ ':' :: x.toList =
        List.replicate (salt' + 1) 'x' ++ ':' :: y.toList := String.ofList_injective h
    have hPad : ∀ n (text : List Char),
        ((List.replicate n 'x' ++ ':' :: text).takeWhile (· = 'x')).length = n := by
      intro n text
      simp
    have hSalts := congrArg (fun text => (text.takeWhile (· = 'x')).length) hLists
    simp only [hPad] at hSalts
    omega
  keyed key x y h := by
    have hLists : (key ++ x).toList = (key ++ y).toList := congrArg String.toList h
    rw [String.toList_append, String.toList_append] at hLists
    exact String.toList_inj.1 (List.append_cancel_left hLists)

def peppers : KidList where
  active := ("p2", "new")
  older := [("p1", "old")]
  distinct := by decide

def fernetKeys : KidList where
  active := ("k1", "key")
  distinct := by decide

end Sample

end AgentShield.Auth
