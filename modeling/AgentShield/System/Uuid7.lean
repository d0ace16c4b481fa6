import AgentShield.Lib.Digits
import AgentShield.Sdk.JsonLoads

/-!
# UUIDv7

Three packages generate the ids by hand: the SDK from packed bytes, the server by shifts
into a byte array, the auth service from one integer.  All of them put the milliseconds in
the first 48 bits, the version behind them and the variant in front of the last 62 bits
(`Generator.layout`).  So the ids of one generator and of all three are ordered as strings
by the time at which they were drawn (`uuid7_layout_and_order`).
-/

namespace AgentShield.System

open AgentShield.Lib.Digits AgentShield.Sdk

/-! ## Texts -/

def slice (h : List Char) (i j : Nat) : List Char := (h.drop i).take (j - i)

/-- The text of 32 hexadecimal digits. -/
def dashed (h : List Char) : String :=
  String.ofList (slice h 0 8 ++ '-' :: (slice h 8 12 ++ '-' :: (slice h 12 16 ++ '-' ::
    (slice h 16 20 ++ '-' :: slice h 20 32))))

def bytesHex (data : Bytes) : List Char :=
  data.flatMap fun b => [hexDigit (b.toNat / 16), hexDigit (b.toNat % 16)]

/-- `'%032x' % v` for a number of at most 128 bits. -/
def hexText (v : Nat) : List Char := (digits 16 32 v).map hexDigit

/-- `str(uuid.UUID(int=v))`, which raises beyond 128 bits. -/
def uuidStr (v : Nat) : Option String := if v < 2 ^ 128 then some (dashed (hexText v)) else none

/-- `uuid.UUID(text).int`. -/
def uuidInt (text : String) : Option Nat :=
  let hex := text.toList.filter (· ≠ '-')
  if hex.length = 32 ∧ hex.all Json.isHex then some (value 16 (hex.map Json.hexDigitValue))
  else none

/-! ## Generators -/

/-- `struct.pack` of an unsigned number in `w` bytes, the largest first. -/
def structPack (w n : Nat) : Option Bytes :=
  if n < 256 ^ w then some ((digits 256 w n).map UInt8.ofNat) else none

def structUnpack (data : Bytes) : Nat := value 256 (data.map (·.toNat))

/-- `shield_sdk.crypto`: the last six of the eight bytes of the time, two random bytes under
the version, and eight under the variant.  A time that does not fit into eight bytes raises.
-/
def generateUuidv7 (timestampMs : Nat) (urandomA : Vector UInt8 2) (urandomB : Vector UInt8 8) :
    Option String := do
  let packed ← structPack 8 timestampMs
  let tsBytes := packed.drop 2
  let randA := structUnpack urandomA.toList
  let randA := (randA &&& 0x0FFF) ||| 0x7000
  let randB := urandomB.set 0 ((urandomB[0] &&& 0x3F) ||| 0x80)
  let uuidBytes := tsBytes ++ (← structPack 2 randA) ++ randB.toList
  return dashed (bytesHex uuidBytes)

/-- `shield_server._ids`: sixteen random bytes, of which the first six are overwritten with
the time and two with the version and the variant. -/
def generateUuid7 (now : Nat) (urandom : Vector UInt8 16) : String :=
  let b := urandom
  let b := b.set 0 (UInt8.ofNat ((now >>> 40) &&& 0xFF))
  let b := b.set 1 (UInt8.ofNat ((now >>> 32) &&& 0xFF))
  let b := b.set 2 (UInt8.ofNat ((now >>> 24) &&& 0xFF))
  let b := b.set 3 (UInt8.ofNat ((now >>> 16) &&& 0xFF))
  let b := b.set 4 (UInt8.ofNat ((now >>> 8) &&& 0xFF))
  let b := b.set 5 (UInt8.ofNat (now &&& 0xFF))
  let b := b.set 6 ((b[6] &&& 0x0F) ||| 0x70)
  let b := b.set 8 ((b[8] &&& 0x3F) ||| 0x80)
  dashed (bytesHex b.toList)

/-- `shield_server.auth.utils`. -/
def uuidv7 (nowMs : Nat) (randA : BitVec 12) (randB : BitVec 62) : Option String :=
  let unixMs := nowMs &&& 0xFFFFFFFFFFFF
  let val := (unixMs <<< 80) ||| (0x7 <<< 76) ||| (randA.toNat <<< 64) ||| (0b10 <<< 62) |||
    randB.toNat
  uuidStr val

inductive Generator
  | sdk
  | ids
  | auth

/-- What a generator draws. -/
abbrev Generator.Bits : Generator → Type
  | .sdk => Vector UInt8 2 × Vector UInt8 8
  | .ids => Vector UInt8 16
  | .auth => BitVec 12 × BitVec 62

def Generator.generate : (g : Generator) → Nat → g.Bits → Option String
  | .sdk, t, (a, b) => generateUuidv7 t a b
  | .ids, t, b => some (generateUuid7 t b)
  | .auth, t, (a, b) => uuidv7 t a b

/-! ## Texts of 128 bits -/

private theorem hexDigit_table : ∀ n < 16, Json.isHex (hexDigit n) = true ∧
    Json.hexDigitValue (hexDigit n) = n ∧ hexDigit n ≠ '-' ∧
      ∀ m < n, hexDigit m < hexDigit n := by
  decide

theorem length_hexText (v : Nat) : (hexText v).length = 32 := by simp [hexText]

theorem mem_hexText {v : Nat} {c : Char} (h : c ∈ hexText v) : ∃ n < 16, c = hexDigit n := by
  obtain ⟨n, hn, rfl⟩ := List.mem_map.1 h
  exact ⟨n, digits_below (by decide) 32 v n hn, rfl⟩

/-- The groups behind one another are the text. -/
theorem dashed_eq {h : List Char} (hLength : h.length = 32) :
    dashed h = String.ofList (h.take 8 ++ '-' :: ((h.drop 8).take 4 ++ '-' ::
      ((h.drop 12).take 4 ++ '-' :: ((h.drop 16).take 4 ++ '-' :: h.drop 20)))) := by
  unfold dashed slice
  simp [List.take_of_length_le, hLength]

theorem filter_dashed {h : List Char} (hLength : h.length = 32) (hDash : '-' ∉ h) :
    (dashed h).toList.filter (· ≠ '-') = h := by
  have hKeep : ∀ l : List Char, (∀ c ∈ l, c ∈ h) → l.filter (· ≠ '-') = l := by
    intro l hl
    apply List.filter_eq_self.2
    intro c hc
    have hNe : c ≠ '-' := fun hEq => hDash (hEq ▸ hl c hc)
    simp [hNe]
  have hJoin : h = h.take 8 ++ ((h.drop 8).take 4 ++ ((h.drop 12).take 4 ++
      ((h.drop 16).take 4 ++ h.drop 20))) := by
    have hFourth := List.take_append_drop 4 (h.drop 16)
    have hThird := List.take_append_drop 4 (h.drop 12)
    have hSecond := List.take_append_drop 4 (h.drop 8)
    simp only [List.drop_drop, Nat.reduceAdd] at hSecond hThird hFourth
    rw [hFourth, hThird, hSecond, List.take_append_drop]
  rw [dashed_eq hLength, String.toList_ofList]
  have hDashOut : ∀ l : List Char, ('-' :: l).filter (· ≠ '-') = l.filter (· ≠ '-') := by
    intro l
    rw [List.filter_cons_of_neg (by simp)]
  simp only [List.filter_append, hDashOut]
  rw [hKeep _ fun c hc => List.mem_of_mem_take hc,
    hKeep _ fun c hc => List.mem_of_mem_drop (List.mem_of_mem_take hc),
    hKeep _ fun c hc => List.mem_of_mem_drop (List.mem_of_mem_take hc),
    hKeep _ fun c hc => List.mem_of_mem_drop (List.mem_of_mem_take hc),
    hKeep _ fun c hc => List.mem_of_mem_drop hc]
  exact hJoin.symm

/-- **The number is read back from its text.** -/
theorem uuidInt_dashed {v : Nat} (hv : v < 2 ^ 128) : uuidInt (dashed (hexText v)) = some v := by
  have hDash : '-' ∉ hexText v := by
    intro h
    obtain ⟨n, hn, hEq⟩ := mem_hexText h
    exact (hexDigit_table n hn).2.2.1 hEq.symm
  have hHex : (hexText v).all Json.isHex = true := by
    rw [List.all_eq_true]
    intro c hc
    obtain ⟨n, hn, rfl⟩ := mem_hexText hc
    exact (hexDigit_table n hn).1
  have hDigits : (hexText v).map Json.hexDigitValue = digits 16 32 v := by
    have hEach : ∀ n ∈ digits 16 32 v, (Json.hexDigitValue ∘ hexDigit) n = id n := fun n hn =>
      (hexDigit_table n (digits_below (by decide) 32 v n hn)).2.1
    unfold hexText
    rw [List.map_map, List.map_congr_left hEach, List.map_id]
  unfold uuidInt
  rw [filter_dashed (length_hexText v) hDash]
  dsimp only
  rw [if_pos ⟨length_hexText v, hHex⟩, hDigits, value_digits]
  exact congrArg some (Nat.mod_eq_of_lt hv)

/-- The dashes keep the order of the digits. -/
theorem dashed_lt {h h' : List Char} (hLength : h.length = 32) (hLength' : h'.length = 32)
    (hLt : h < h') : dashed h < dashed h' := by
  have hGroups : ∀ l : List Char, l.length = 32 →
      (dashed l).toList = separate '-' [8, 4, 4, 4] l := by
    intro l hl
    rw [dashed_eq hl, String.toList_ofList]
    simp [separate]
  show (dashed h).toList < (dashed h').toList
  rw [hGroups h hLength, hGroups h' hLength']
  exact separate_lt '-' [8, 4, 4, 4] (hLength.trans hLength'.symm) hLt

/-- **Numbers and their texts have one order.** -/
theorem hexText_lt {v v' : Nat} (h : v < v') (hv' : v' < 2 ^ 128) : hexText v < hexText v' := by
  have hMono : ∀ m n, m < 16 → n < 16 → m < n → hexDigit m < hexDigit n :=
    fun m n _ hn hmn => (hexDigit_table n hn).2.2.2 m hmn
  exact map_lt_map (· < 16) hMono (digits_below (by decide) 32 v) (digits_below (by decide) 32 v')
    (digits_lt h hv')

theorem bytesHex_eq {data : Bytes} (h : data.length = 16) :
    bytesHex data = hexText (structUnpack data) := by
  have hBelow : ∀ d ∈ data.map (·.toNat), d < 256 := by
    intro d hd
    obtain ⟨b, -, rfl⟩ := List.mem_map.1 hd
    exact b.toNat_lt
  have hTwo : ∀ b : UInt8, [hexDigit (b.toNat / 16), hexDigit (b.toNat % 16)] =
      (digits 16 2 b.toNat).map hexDigit := by
    intro b
    have hb := b.toNat_lt
    have hTop : b.toNat / 16 % 16 = b.toNat / 16 := Nat.mod_eq_of_lt (by omega)
    simp [digits, hTop]
  have hData : data.map (·.toNat) = digits 256 16 (structUnpack data) := by
    have hBack := digits_value (data.map (·.toNat)) hBelow
    rw [List.length_map, h] at hBack
    exact hBack.symm
  have hDigits : (digits 256 16 (structUnpack data)).flatMap (digits 16 2) =
      digits 16 32 (structUnpack data) := flatMap_digits 2 16 (structUnpack data)
  unfold bytesHex hexText
  simp only [hTwo]
  rw [← hDigits, ← hData, List.flatMap_map, List.map_flatMap]

/-! ## The layout -/

/-- The fields that RFC 9562 fixes, over the 128 bits. -/
structure IsUuid7 (t v : Nat) : Prop where
  timestamp : v >>> 80 = t
  version : v >>> 76 % 16 = 7
  variant : v >>> 62 % 4 = 2

/-- What the fields make up, however the random bits fall. -/
theorem isUuid7_of_sum {t a b : Nat} (ha : a < 2 ^ 12) (hb : b < 2 ^ 62) :
    IsUuid7 t (t * 2 ^ 80 + (7 * 2 ^ 76 + (a * 2 ^ 64 + (2 * 2 ^ 62 + b)))) := by
  constructor
  · rw [Nat.shiftRight_eq_div_pow]
    omega
  · rw [Nat.shiftRight_eq_div_pow]
    omega
  · rw [Nat.shiftRight_eq_div_pow]
    omega

theorem IsUuid7.lt {t v : Nat} (h : IsUuid7 t v) (ht : t < 2 ^ 48) : v < 2 ^ 128 := by
  have hTime := h.timestamp
  rw [Nat.shiftRight_eq_div_pow] at hTime
  omega

/-- The earlier time is the smaller number. -/
theorem IsUuid7.lt_of_lt {t t' v v' : Nat} (h : IsUuid7 t v) (h' : IsUuid7 t' v') (ht : t < t') :
    v < v' := by
  have hTime := h.timestamp
  have hTime' := h'.timestamp
  rw [Nat.shiftRight_eq_div_pow] at hTime hTime'
  omega

/-- Bits side by side add up. -/
theorem shift_or (a i b : Nat) (h : b < 2 ^ i) : a <<< i ||| b = a * 2 ^ i + b := by
  rw [← Nat.shiftLeft_add_eq_or_of_lt h, Nat.shiftLeft_eq]

/-- A stamp above `k` random bits. -/
theorem stamp (s k n : Nat) : (n &&& (2 ^ k - 1)) ||| (s <<< k) = s * 2 ^ k + n % 2 ^ k := by
  rw [Nat.and_two_pow_sub_one_eq_mod, Nat.or_comm]
  exact shift_or s k _ (Nat.mod_lt n (Nat.two_pow_pos k))

theorem structUnpack_append (data data' : Bytes) :
    structUnpack (data ++ data') = structUnpack data * 256 ^ data'.length + structUnpack data' := by
  unfold structUnpack
  rw [List.map_append, value_append, List.length_map]

theorem structUnpack_lt (data : Bytes) : structUnpack data < 256 ^ data.length := by
  have hBelow : ∀ d ∈ data.map (·.toNat), d < 256 := by
    intro d hd
    obtain ⟨b, -, rfl⟩ := List.mem_map.1 hd
    exact b.toNat_lt
  have hLt := value_lt (data.map (·.toNat)) hBelow
  rw [List.length_map] at hLt
  exact hLt

theorem structUnpack_cons (b : UInt8) (data : Bytes) :
    structUnpack (b :: data) = b.toNat * 256 ^ data.length + structUnpack data := by
  have hSplit := structUnpack_append [b] data
  simpa [structUnpack, value] using hSplit

/-- What is packed is unpacked. -/
theorem structUnpack_pack (w n : Nat) :
    structUnpack ((digits 256 w n).map UInt8.ofNat) = n % 256 ^ w := by
  have hBack : ∀ d ∈ digits 256 w n, (UInt8.toNat ∘ UInt8.ofNat) d = id d := by
    intro d hd
    have hd' := digits_below (by decide) w n d hd
    show (UInt8.ofNat d).toNat = d
    rw [UInt8.toNat_ofNat']
    exact Nat.mod_eq_of_lt hd'
  unfold structUnpack
  rw [List.map_map, List.map_congr_left hBack, List.map_id, value_digits]

/-- The bytes of a time, and behind them the stamped ones. -/
theorem isUuid7_bytes {t : Nat} (ht : t < 2 ^ 48) {randA b : Nat} {a : Bytes} {c : UInt8}
    (rest : Bytes) (ha : a.length = 2) (hRest : rest.length = 7)
    (hVersion : structUnpack a = 7 * 2 ^ 12 + randA % 2 ^ 12)
    (hVariant : c.toNat = 2 * 2 ^ 6 + b % 2 ^ 6) :
    ∃ v, IsUuid7 t v ∧
      bytesHex ((digits 256 6 t).map UInt8.ofNat ++ a ++ c :: rest) = hexText v := by
  have hTail := structUnpack_lt rest
  rw [hRest] at hTail
  refine ⟨_, @isUuid7_of_sum t (randA % 2 ^ 12) (b % 2 ^ 6 * 2 ^ 56 + structUnpack rest)
    (by omega) (by omega), ?_⟩
  rw [bytesHex_eq (by simp [ha, hRest])]
  congr 1
  rw [structUnpack_append, structUnpack_append, structUnpack_cons, structUnpack_pack,
    Nat.mod_eq_of_lt (by omega), hVersion, hVariant, ha, List.length_cons, hRest]
  omega

/-- The bytes that the packed time leaves behind its first two. -/
theorem drop_structPack (t : Nat) :
    ((digits 256 8 t).map UInt8.ofNat).drop 2 = (digits 256 6 t).map UInt8.ofNat := by
  rw [← List.map_drop, digits_add 2 6 t, List.drop_append_of_le_length (by simp)]
  rfl

theorem sdk_layout {t : Nat} (ht : t < 2 ^ 48) (urandomA : Vector UInt8 2)
    (urandomB : Vector UInt8 8) :
    ∃ v, IsUuid7 t v ∧ generateUuidv7 t urandomA urandomB = some (dashed (hexText v)) := by
  obtain ⟨⟨l⟩, hl⟩ := urandomB
  match l, hl with
  | [b0, b1, b2, b3, b4, b5, b6, b7], hl =>
    have hVersion := stamp 7 12 (structUnpack urandomA.toList)
    have hVariant : ((b0 &&& 0x3F) ||| 0x80).toNat = 2 * 2 ^ 6 + b0.toNat % 2 ^ 6 :=
      stamp 2 6 b0.toNat
    have hPackA := structUnpack_pack 2 ((structUnpack urandomA.toList &&& 0x0FFF) ||| 0x7000)
    have hBelow : (structUnpack urandomA.toList &&& 0x0FFF) ||| 0x7000 < 256 ^ 2 := by
      show (structUnpack urandomA.toList &&& (2 ^ 12 - 1)) ||| (7 <<< 12) < 256 ^ 2
      omega
    rw [Nat.mod_eq_of_lt hBelow] at hPackA
    obtain ⟨v, hv, hText⟩ := isUuid7_bytes ht [b1, b2, b3, b4, b5, b6, b7] (by simp) rfl
      (hPackA.trans hVersion) hVariant
    refine ⟨v, hv, ?_⟩
    have hTime : t < 256 ^ 8 := by omega
    unfold generateUuidv7 structPack
    rw [if_pos hTime, ← hText]
    dsimp only [Option.bind_eq_bind, Option.bind_some]
    rw [if_pos hBelow, drop_structPack]
    rfl

theorem ids_layout {t : Nat} (ht : t < 2 ^ 48) (urandom : Vector UInt8 16) :
    ∃ v, IsUuid7 t v ∧ generateUuid7 t urandom = dashed (hexText v) := by
  have hByte : ∀ k, (t >>> (8 * k)) &&& 0xFF = t / 256 ^ k % 256 := by
    intro k
    rw [Nat.shiftRight_eq_div_pow, Nat.pow_mul]
    exact Nat.and_two_pow_sub_one_eq_mod _ 8
  have hTime : (digits 256 6 t).map UInt8.ofNat =
      [UInt8.ofNat ((t >>> 40) &&& 0xFF), UInt8.ofNat ((t >>> 32) &&& 0xFF),
        UInt8.ofNat ((t >>> 24) &&& 0xFF), UInt8.ofNat ((t >>> 16) &&& 0xFF),
        UInt8.ofNat ((t >>> 8) &&& 0xFF), UInt8.ofNat (t &&& 0xFF)] := by
    rw [hByte 5, hByte 4, hByte 3, hByte 2, hByte 1, ← Nat.shiftRight_zero (n := t), hByte 0]
    rfl
  obtain ⟨⟨l⟩, hl⟩ := urandom
  match l, hl with
  | [b0, b1, b2, b3, b4, b5, b6, b7, b8, b9, b10, b11, b12, b13, b14, b15], hl =>
    have hStamp : ((b6 &&& 0x0F) ||| 0x70).toNat = 7 * 2 ^ 4 + b6.toNat % 2 ^ 4 :=
      stamp 7 4 b6.toNat
    have hVariant : ((b8 &&& 0x3F) ||| 0x80).toNat = 2 * 2 ^ 6 + b8.toNat % 2 ^ 6 :=
      stamp 2 6 b8.toNat
    have hVersion : structUnpack [(b6 &&& 0x0F) ||| 0x70, b7] =
        7 * 2 ^ 12 + (b6.toNat * 256 + b7.toNat) % 2 ^ 12 := by
      have hb := b7.toNat_lt
      rw [structUnpack_cons, hStamp]
      simp [structUnpack, value]
      omega
    obtain ⟨v, hv, hText⟩ := isUuid7_bytes ht [b9, b10, b11, b12, b13, b14, b15] rfl rfl
      hVersion hVariant
    refine ⟨v, hv, ?_⟩
    rw [← hText, hTime]
    rfl

theorem auth_layout {t : Nat} (ht : t < 2 ^ 48) (randA : BitVec 12) (randB : BitVec 62) :
    ∃ v, IsUuid7 t v ∧ uuidv7 t randA randB = some (dashed (hexText v)) := by
  have hA := randA.isLt
  have hB := randB.isLt
  have hMask : t &&& 0xFFFFFFFFFFFF = t := by
    have hMod := Nat.and_two_pow_sub_one_eq_mod t 48
    rw [Nat.mod_eq_of_lt ht] at hMod
    exact hMod
  have hLayout := @isUuid7_of_sum t randA.toNat randB.toNat hA hB
  refine ⟨_, hLayout, ?_⟩
  unfold uuidv7 uuidStr
  dsimp only
  rw [hMask, Nat.or_assoc, Nat.or_assoc, Nat.or_assoc, shift_or 2 62 _ hB,
    shift_or _ 64 _ (by omega), shift_or 7 76 _ (by omega), shift_or t 80 _ (by omega),
    if_pos (hLayout.lt ht)]

/-- **Every generator keeps the layout**, whatever it draws. -/
theorem Generator.layout (g : Generator) {t : Nat} (ht : t < 2 ^ 48) (bits : g.Bits) :
    ∃ v, IsUuid7 t v ∧ g.generate t bits = some (dashed (hexText v)) := by
  cases g with
  | sdk => exact sdk_layout ht bits.1 bits.2
  | ids =>
      obtain ⟨v, hv, hText⟩ := ids_layout ht bits
      exact ⟨v, hv, congrArg some hText⟩
  | auth => exact auth_layout ht bits.1 bits.2

/-- **Version, variant, time and order of the ids**, for every generator and all random bits:
the fields can be read back from the text, and an id of an earlier millisecond sorts before
one of a later, also across generators. -/
theorem uuid7_layout_and_order (g : Generator) (t : Nat) (ht : t < 2 ^ 48) (bits : g.Bits) :
    ∃ text, g.generate t bits = some text ∧
      (∃ v, uuidInt text = some v ∧ v >>> 76 % 16 = 7 ∧ v >>> 62 % 4 = 2 ∧ v >>> 80 = t) ∧
      ∀ (g' : Generator) (t' : Nat) (bits' : g'.Bits) (text' : String), t < t' → t' < 2 ^ 48 →
        g'.generate t' bits' = some text' → text < text' := by
  obtain ⟨v, hv, hText⟩ := g.layout ht bits
  refine ⟨dashed (hexText v), hText, ?_, ?_⟩
  · exact ⟨v, uuidInt_dashed (hv.lt ht), hv.version, hv.variant, hv.timestamp⟩
  · intro g' t' bits' text' hLt ht' hText'
    obtain ⟨v', hv', hLayout'⟩ := g'.layout ht' bits'
    have hSame : dashed (hexText v') = text' := Option.some.inj (hLayout'.symm.trans hText')
    have hOrder := hexText_lt (hv.lt_of_lt hv' hLt) (hv'.lt ht')
    rw [← hSame]
    exact dashed_lt (length_hexText v) (length_hexText v') hOrder

/-- An id of the year 2026 from a byte array of ones. -/
theorem uuid7_layout_and_order_sample :
    (1767225600000 < 2 ^ 48) ∧
      ∃ text, Generator.ids.generate 1767225600000 (Vector.replicate 16 255) = some text ∧
        (∃ v, uuidInt text = some v ∧ v >>> 76 % 16 = 7 ∧ v >>> 62 % 4 = 2 ∧
          v >>> 80 = 1767225600000) ∧
        ∀ (g' : Generator) (t' : Nat) (bits' : g'.Bits) (text' : String),
          1767225600000 < t' → t' < 2 ^ 48 → g'.generate t' bits' = some text' → text < text' :=
  ⟨by decide, uuid7_layout_and_order .ids 1767225600000 (by decide) (Vector.replicate 16 255)⟩

example : generateUuid7 1767225600000 (Vector.replicate 16 255) =
    "019b76da-a800-7fff-bfff-ffffffffffff" := by
  decide +kernel

end AgentShield.System
