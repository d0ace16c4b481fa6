import Mathlib.Algebra.Group.Nat.Defs

/-!
# SHA-256

The digest of a byte string, on words below 2^32 as natural numbers.
-/

namespace AgentShield.Lib.Sha2

/-- Addition of words. -/
def add (x y : Nat) : Nat := (x + y) % 2 ^ 32

/-- A word of 32 bits turned right by `n` places. -/
def rotr (n x : Nat) : Nat := (x >>> n) ||| (x <<< (32 - n)) % 2 ^ 32

/-- Every bit of a word of 32 bits turned over. -/
def complement (x : Nat) : Nat := 2 ^ 32 - 1 - x

/-- The choice: where a bit of `x` is set the bit of `y`, and where it is not that of `z`. -/
def ch (x y z : Nat) : Nat := (x &&& y) ^^^ (complement x &&& z)

/-- The majority of three words, bit by bit. -/
def maj (x y z : Nat) : Nat := (x &&& y) ^^^ (x &&& z) ^^^ (y &&& z)

def bigSigma0 (x : Nat) : Nat := rotr 2 x ^^^ rotr 13 x ^^^ rotr 22 x

def bigSigma1 (x : Nat) : Nat := rotr 6 x ^^^ rotr 11 x ^^^ rotr 25 x

def smallSigma0 (x : Nat) : Nat := rotr 7 x ^^^ rotr 18 x ^^^ (x >>> 3)

def smallSigma1 (x : Nat) : Nat := rotr 17 x ^^^ rotr 19 x ^^^ (x >>> 10)

/-- The round constants: the first 32 bits of the fractional parts of the cube roots of the
first 64 primes. -/
def constants : List Nat :=
  [0x428a2f98, 0x71374491, 0xb5c0fbcf, 0xe9b5dba5, 0x3956c25b, 0x59f111f1, 0x923f82a4, 0xab1c5ed5,
   0xd807aa98, 0x12835b01, 0x243185be, 0x550c7dc3, 0x72be5d74, 0x80deb1fe, 0x9bdc06a7, 0xc19bf174,
   0xe49b69c1, 0xefbe4786, 0x0fc19dc6, 0x240ca1cc, 0x2de92c6f, 0x4a7484aa, 0x5cb0a9dc, 0x76f988da,
   0x983e5152, 0xa831c66d, 0xb00327c8, 0xbf597fc7, 0xc6e00bf3, 0xd5a79147, 0x06ca6351, 0x14292967,
   0x27b70a85, 0x2e1b2138, 0x4d2c6dfc, 0x53380d13, 0x650a7354, 0x766a0abb, 0x81c2c92e, 0x92722c85,
   0xa2bfe8a1, 0xa81a664b, 0xc24b8b70, 0xc76c51a3, 0xd192e819, 0xd6990624, 0xf40e3585, 0x106aa070,
   0x19a4c116, 0x1e376c08, 0x2748774c, 0x34b0bcb5, 0x391c0cb3, 0x4ed8aa4a, 0x5b9cca4f, 0x682e6ff3,
   0x748f82ee, 0x78a5636f, 0x84c87814, 0x8cc70208, 0x90befffa, 0xa4506ceb, 0xbef9a3f7, 0xc67178f2]

/-- The eight working variables of a round, each a number below `2 ^ 32`. -/
structure Vars where
  a : Nat
  b : Nat
  c : Nat
  d : Nat
  e : Nat
  f : Nat
  g : Nat
  h : Nat

/-- The state before the first block: the first 32 bits of the fractional parts of the square
roots of the first eight primes. -/
def initial : Vars :=
  ⟨0x6a09e667, 0xbb67ae85, 0x3c6ef372, 0xa54ff53a, 0x510e527f, 0x9b05688c, 0x1f83d9ab, 0x5be0cd19⟩

/-- The next word of the schedule, from the words so far with the latest first. -/
def nextWord (words : List Nat) : Nat :=
  add (add (smallSigma1 (words.getD 1 0)) (words.getD 6 0))
    (add (smallSigma0 (words.getD 14 0)) (words.getD 15 0))

/-- The message schedule, latest word first: `n` more words, each made from the sixteen before
it. -/
def extend : Nat → List Nat → List Nat
  | 0, words => words
  | n + 1, words => extend n (nextWord words :: words)

/-- One of the 64 rounds of a block, with its constant `k` and its word `w` of the schedule. -/
def round (s : Vars) (k w : Nat) : Vars :=
  let t1 := add (add (add s.h (bigSigma1 s.e)) (ch s.e s.f s.g)) (add k w)
  let t2 := add (bigSigma0 s.a) (maj s.a s.b s.c)
  ⟨add t1 t2, s.a, s.b, s.c, add s.d t1, s.e, s.f, s.g⟩

/-- The rounds of a block, one for each constant and word. -/
def rounds : Vars → List Nat → List Nat → Vars
  | s, k :: ks, w :: ws => rounds (round s k w) ks ws
  | s, _, _ => s

/-- One block of sixteen words. -/
def compress (s : Vars) (block : List Nat) : Vars :=
  let t := rounds s constants (extend 48 block.reverse).reverse
  ⟨add s.a t.a, add s.b t.b, add s.c t.c, add s.d t.d, add s.e t.e, add s.f t.f, add s.g t.g,
    add s.h t.h⟩

/-- Big-endian words, four bytes each. -/
def words : List UInt8 → List Nat
  | a :: b :: c :: d :: rest =>
      (a.toNat * 2 ^ 24 + b.toNat * 2 ^ 16 + c.toNat * 2 ^ 8 + d.toNat) :: words rest
  | _ => []

/-- A word as four bytes, highest first. -/
def wordBytes (x : Nat) : List UInt8 :=
  [UInt8.ofNat (x / 2 ^ 24), UInt8.ofNat (x / 2 ^ 16), UInt8.ofNat (x / 2 ^ 8), UInt8.ofNat x]

/-- The data, a one bit, and zeros up to the length in bits. -/
def pad (data : List UInt8) : List UInt8 :=
  data ++ 0x80 :: List.replicate ((119 - data.length % 64) % 64) 0 ++
    wordBytes (data.length * 8 / 2 ^ 32) ++ wordBytes (data.length * 8 % 2 ^ 32)

/-- The first `n` blocks. -/
def compressAll : Nat → Vars → List Nat → Vars
  | 0, s, _ => s
  | n + 1, s, ws => compressAll n (compress s (ws.take 16)) (ws.drop 16)

/-- The SHA-256 digest of a text of bytes: padded to whole blocks, which are compressed one
after the other. -/
def digest (data : List UInt8) : List UInt8 :=
  let padded := pad data
  let s := compressAll (padded.length / 64) initial (words padded)
  wordBytes s.a ++ wordBytes s.b ++ wordBytes s.c ++ wordBytes s.d ++ wordBytes s.e ++
    wordBytes s.f ++ wordBytes s.g ++ wordBytes s.h

/-- A digest has 32 bytes. -/
theorem length_digest (data : List UInt8) : (digest data).length = 32 := by
  simp [digest, wordBytes]

example : digest [97, 98, 99] =
    [0xba, 0x78, 0x16, 0xbf, 0x8f, 0x01, 0xcf, 0xea, 0x41, 0x41, 0x40, 0xde, 0x5d, 0xae, 0x22, 0x23,
     0xb0, 0x03, 0x61, 0xa3, 0x96, 0x17, 0x7a, 0x9c, 0xb4, 0x10, 0xff, 0x61, 0xf2, 0x00, 0x15,
     0xad] := by
  decide +kernel

end AgentShield.Lib.Sha2
