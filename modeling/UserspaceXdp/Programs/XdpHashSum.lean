import UserspaceXdp.Foundation.Mixing
import UserspaceXdp.Foundation.XxHash
import UserspaceXdp.Programs.Packet
import UserspaceXdp.Runtime.Helpers

/-!
Contract: `xdp_hash_sum.bpf.c`, which writes the sum and the hash of the first bytes
of a packet into it.

Owns: the hash, the program, and which changes of a packet the two numbers tell.

Does not own: what a receiver does with them.
-/

namespace UserspaceXdp.Programs.XdpHashSum

open UserspaceXdp.Foundation
open UserspaceXdp.Runtime

/-! ## The hash -/

def prime1 : UInt32 := 0x9E3779B1
def prime2 : UInt32 := 0x85EBCA77
def prime3 : UInt32 := 0xC2B2AE3D
def prime4 : UInt32 := 0x27D4EB2F
def prime5 : UInt32 := 0x165667B1

def rotl (x r : UInt32) : UInt32 :=
  x <<< r ||| x >>> (32 - r)

def roundXxhash (acc input : UInt32) : UInt32 :=
  rotl (acc + input * prime2) 13 * prime1

def avalancheStep (h rshift prime : UInt32) : UInt32 :=
  (h ^^^ h >>> rshift) * prime

def avalanche (h : UInt32) : UInt32 :=
  avalancheStep (avalancheStep (avalancheStep h 15 prime2) 13 prime3) 16 1

section Hash

variable (memory : Memory)

def endian32 (v : Nat) : UInt32 :=
  (memory v).toUInt32 ||| (memory (v + 1)).toUInt32 <<< 8 ||| (memory (v + 2)).toUInt32 <<< 16 |||
    (memory (v + 3)).toUInt32 <<< 24

def fetch32 (p : Nat) (v : UInt32) : UInt32 :=
  roundXxhash v (endian32 memory p)

/-- The last 0 to 15 bytes: whole words, then the bytes that are left. -/
def finalize (h : UInt32) (p : Nat) : Nat → UInt32
  | len + 4 => finalize (rotl (h + endian32 memory p * prime3) 17 * prime4) (p + 4) len
  | len + 1 => finalize (rotl (h + (memory p).toUInt32 * prime5) 11 * prime1) (p + 1) len
  | 0 => avalanche h

def h16bytes4 (v1 v2 v3 v4 : UInt32) (p : Nat) : Nat → UInt32
  | len + 16 =>
      h16bytes4 (fetch32 memory p v1) (fetch32 memory (p + 4) v2) (fetch32 memory (p + 8) v3)
        (fetch32 memory (p + 12) v4) (p + 16) len
  | _ => rotl v1 1 + rotl v2 7 + rotl v3 12 + rotl v4 18

def h16bytes3 (p len : Nat) (seed : UInt32) : UInt32 :=
  h16bytes4 memory (seed + prime1 + prime2) (seed + prime2) seed (seed - prime1) p len

def xxhash32 (input len : Nat) (seed : UInt32) : UInt32 :=
  finalize memory
    ((if 16 ≤ len then h16bytes3 memory input len seed else seed + prime5) + UInt32.ofNat len)
    (input + len / 16 * 16) (len % 16)

def calculateChecksum (data len : Nat) : UInt32 :=
  (List.range len).foldl (fun sum i => sum + (memory (data + i)).toUInt32) 0

end Hash

/-! ## The program -/

def ethPIp : Nat := 0x0800

/-- The verdict and the packet. -/
def xdpPass (context : XdpMdUserspace) (memory : Memory) : Nat × Memory :=
  let data := context.data
  let dataEnd := context.dataEnd
  let iph := data + 14
  if dataEnd < data + 14 then (Runtime.xdpPass, memory)
  else if memory.loadWord (data + 12) 2 ≠ bpfHtons ethPIp then (Runtime.xdpPass, memory)
  else if dataEnd < iph + 20 then (Runtime.xdpPass, memory)
  else if data + 1200 < dataEnd then (Runtime.xdpPass, memory)
  else if dataEnd < data + 60 then (Runtime.xdpPass, memory)
  else if dataEnd < iph + 20 + 8 then (Runtime.xdpPass, memory)
  else
    let sum := calculateChecksum memory data 60
    let xxhash64Res := xxhash32 memory data 60 sum
    let memory := memory.storeWord (iph + 20) sum.toNat 4
    let memory := memory.storeWord (iph + 24) xxhash64Res.toNat 4
    (xdpTx, swapSrcDstMac memory data)

/-! ## The steps of the hash lose nothing -/

/-- The shape that the steps share. -/
theorem mixed_lossless {scale scaleInverse amount factor factorInverse : UInt32}
    (scaled : scale * scaleInverse = 1) (positive : 0 < amount) (below : amount < 32)
    (multiplied : factor * factorInverse = 1) :
    Lossless fun acc input : UInt32 => rotl (acc + input * scale) amount * factor where
  state input := by
    have sum : Function.Injective fun acc : UInt32 => acc + input * scale :=
      fun _ _ same => (UInt32.add_left_inj _).mp same
    exact (multiple_injective multiplied).comp ((rotation_injective positive below).comp sum)
  word acc := by
    have sum : Function.Injective fun input : UInt32 => acc + input * scale :=
      fun _ _ same => multiple_injective scaled ((UInt32.add_right_inj _).mp same)
    exact (multiple_injective multiplied).comp ((rotation_injective positive below).comp sum)

theorem roundXxhash_lossless : Lossless roundXxhash :=
  mixed_lossless (by decide : prime2 * 0xb6c92f47 = 1) (by decide) (by decide)
    (by decide : prime1 * 0x0e8b2f51 = 1)

/-- What `finalize` makes of a word. -/
def finalWord (h input : UInt32) : UInt32 :=
  rotl (h + input * prime3) 17 * prime4

/-- What `finalize` makes of a byte. -/
def finalByte (h : UInt32) (byte : UInt8) : UInt32 :=
  rotl (h + byte.toUInt32 * prime5) 11 * prime1

theorem finalWord_lossless : Lossless finalWord :=
  mixed_lossless (by decide : prime3 * 0xa89ed915 = 1) (by decide) (by decide)
    (by decide : prime4 * 0xa0fe3bcf = 1)

theorem finalByte_lossless : Lossless finalByte := by
  have wide : Function.Injective UInt8.toUInt32 := fun _ _ same =>
    UInt8.toNat_inj.mp (congrArg UInt32.toNat same)
  have mixed := mixed_lossless (by decide : prime5 * 0xae398151 = 1)
    (by decide : (0 : UInt32) < 11) (by decide) (by decide : prime1 * 0x0e8b2f51 = 1)
  exact ⟨fun byte => mixed.state byte.toUInt32, fun h => (mixed.word h).comp wide⟩

theorem avalanche_injective : Function.Injective avalanche := by
  have step {rshift prime inverse : UInt32} (positive : 0 < rshift) (below : rshift < 32)
      (unit : prime * inverse = 1) : Function.Injective fun h => avalancheStep h rshift prime :=
    (multiple_injective unit).comp (xorShift_injective positive below)
  exact (step (by decide) (by decide) (by decide : (1 : UInt32) * 1 = 1)).comp
    ((step (by decide) (by decide) (by decide : prime3 * 0xa89ed915 = 1)).comp
      (step (by decide : 0 < 15) (by decide) (by decide : prime2 * 0xb6c92f47 = 1)))

/-! ## The words that are hashed -/

/-- `count` words, each `stride` bytes after the one before. -/
def strideWords (memory : Memory) (stride : Nat) : Nat → Nat → List UInt32
  | 0, _ => []
  | count + 1, p => endian32 memory p :: strideWords memory stride count (p + stride)

section Words

variable {left right : Memory} {stride p q : Nat}

theorem strideWords_congr {count : Nat}
    (same : ∀ index < count,
      endian32 left (p + stride * index) = endian32 right (q + stride * index)) :
    strideWords left stride count p = strideWords right stride count q := by
  induction count generalizing p q with
  | zero => rfl
  | succ count inductionHypothesis =>
      have next (base index : Nat) : base + stride + stride * index = base + stride * (index + 1) := by
        ring
      have first := same 0 (Nat.succ_pos count)
      rw [Nat.mul_zero, Nat.add_zero, Nat.add_zero] at first
      rw [strideWords, strideWords, first, inductionHypothesis]
      intro index below
      rw [next, next]
      exact same (index + 1) (by omega)

theorem strideWords_split (memory : Memory) {count index : Nat} (below : index < count) :
    strideWords memory stride count p =
      strideWords memory stride index p ++
        endian32 memory (p + stride * index) ::
          strideWords memory stride (count - index - 1) (p + stride * (index + 1)) := by
  induction index generalizing count p with
  | zero =>
      obtain ⟨count, rfl⟩ := Nat.exists_eq_succ_of_ne_zero (by omega : count ≠ 0)
      rw [Nat.mul_zero, Nat.add_zero, Nat.zero_add, Nat.mul_one]
      rfl
  | succ index inductionHypothesis =>
      obtain ⟨count, rfl⟩ := Nat.exists_eq_succ_of_ne_zero (by omega : count ≠ 0)
      have next (further : Nat) : p + stride + stride * further = p + stride * (further + 1) := by
        ring
      have rest : count.succ - (index + 1) - 1 = count - index - 1 := by omega
      rw [strideWords, strideWords, inductionHypothesis (by omega), next, next, rest]
      rfl

/-- A lossless run tells a change of one of its words. -/
theorem strideWords_tells {State : Type} {absorb : State → UInt32 → State}
    (lossless : Lossless absorb) {count index : Nat} (below : index < count)
    (others : ∀ other < count, other ≠ index →
      endian32 left (p + stride * other) = endian32 right (q + stride * other))
    (differ : endian32 left (p + stride * index) ≠ endian32 right (q + stride * index))
    (state : State) :
    (strideWords left stride count p).foldl absorb state ≠
      (strideWords right stride count q).foldl absorb state := by
  have front : strideWords left stride index p = strideWords right stride index q :=
    strideWords_congr fun other before => others other (by omega) (by omega)
  have back : strideWords left stride (count - index - 1) (p + stride * (index + 1)) =
      strideWords right stride (count - index - 1) (q + stride * (index + 1)) := by
    apply strideWords_congr
    intro other before
    have place (base : Nat) : base + stride * (index + 1) + stride * other =
        base + stride * (index + 1 + other) := by
      ring
    rw [place, place]
    exact others _ (by omega) (by omega)
  rw [strideWords_split left below, strideWords_split right below, front, back]
  exact fun same => differ (lossless.foldl_middle_injective _ _ state same)

end Words

/-- The four lanes are independent. -/
theorem h16bytes4_eq (memory : Memory) (v1 v2 v3 v4 : UInt32) (p len : Nat) :
    h16bytes4 memory v1 v2 v3 v4 p len =
      rotl ((strideWords memory 16 (len / 16) p).foldl roundXxhash v1) 1 +
        rotl ((strideWords memory 16 (len / 16) (p + 4)).foldl roundXxhash v2) 7 +
        rotl ((strideWords memory 16 (len / 16) (p + 8)).foldl roundXxhash v3) 12 +
        rotl ((strideWords memory 16 (len / 16) (p + 12)).foldl roundXxhash v4) 18 := by
  induction len using Nat.strongRecOn generalizing v1 v2 v3 v4 p with
  | ind len inductionHypothesis =>
      by_cases long : 16 ≤ len
      · obtain ⟨rest, rfl⟩ := Nat.exists_eq_add_of_le' long
        have blocks : (rest + 16) / 16 = rest / 16 + 1 := by omega
        have place (offset : Nat) : p + 16 + offset = p + offset + 16 := by omega
        rw [h16bytes4, inductionHypothesis rest (by omega), blocks, place, place, place]
        rfl
      · have none : len / 16 = 0 := by omega
        rw [none, h16bytes4]
        · rfl
        · omega

theorem finalize_bytes (memory : Memory) (h : UInt32) (p : Nat) {len : Nat} (few : len < 4) :
    finalize memory h p len = avalanche ((memory.bytes p len).foldl finalByte h) := by
  induction len generalizing h p with
  | zero => rfl
  | succ len inductionHypothesis =>
      rw [finalize, inductionHypothesis _ _ (by omega), Memory.bytes_succ]
      · rfl
      · omega

/-- The words of the tail, then its bytes. -/
theorem finalize_eq (memory : Memory) (h : UInt32) (p len : Nat) :
    finalize memory h p len =
      avalanche ((memory.bytes (p + len / 4 * 4) (len % 4)).foldl finalByte
        ((strideWords memory 4 (len / 4) p).foldl finalWord h)) := by
  induction len using Nat.strongRecOn generalizing h p with
  | ind len inductionHypothesis =>
      by_cases long : 4 ≤ len
      · obtain ⟨rest, rfl⟩ := Nat.exists_eq_add_of_le' long
        have words : (rest + 4) / 4 = rest / 4 + 1 := by omega
        have bytes : (rest + 4) % 4 = rest % 4 := by omega
        have place : p + (rest / 4 + 1) * 4 = p + 4 + rest / 4 * 4 := by omega
        rw [finalize, inductionHypothesis rest (by omega), words, bytes, place]
        rfl
      · have none : len / 4 = 0 := by omega
        have all : len % 4 = len := by omega
        rw [finalize_bytes memory h p (by omega), none, all, Nat.zero_mul, Nat.add_zero]
        rfl

/-! ## The published hash -/

/-- A byte above the bits that are there. -/
theorem toNat_or_shifted (low : UInt32) (byte : UInt8) {amount : UInt32}
    (below : low.toNat < 2 ^ amount.toNat) (fits : amount.toNat ≤ 24) :
    (low ||| byte.toUInt32 <<< amount).toNat = low.toNat + byte.toNat * 2 ^ amount.toNat := by
  have whole : byte.toNat * 2 ^ amount.toNat < 2 ^ 32 :=
    calc
      byte.toNat * 2 ^ amount.toNat < 2 ^ 8 * 2 ^ amount.toNat :=
        Nat.mul_lt_mul_of_pos_right byte.toNat_lt (Nat.two_pow_pos _)
      _ ≤ 2 ^ 8 * 2 ^ 24 := Nat.mul_le_mul_left _ (Nat.pow_le_pow_right (by decide) fits)
      _ = 2 ^ 32 := by decide
  have shifted : (byte.toUInt32 <<< amount).toNat = byte.toNat <<< amount.toNat := by
    rw [UInt32.toNat_shiftLeft, Nat.mod_eq_of_lt (by omega : amount.toNat < 32)]
    exact Nat.mod_eq_of_lt (Nat.shiftLeft_eq _ _ ▸ whole)
  rw [UInt32.toNat_or, shifted, Nat.or_comm, ← Nat.shiftLeft_add_eq_or_of_lt below, Nat.shiftLeft_eq,
    Nat.add_comm]

/-- The four bytes do not overlap. -/
theorem endian32_eq (memory : Memory) (v : Nat) :
    (endian32 memory v).toNat = memory.loadWord v 4 := by
  have first : (memory v).toNat < 2 ^ 8 := (memory v).toNat_lt
  have second : (memory (v + 1)).toNat < 2 ^ 8 := (memory (v + 1)).toNat_lt
  have third : (memory (v + 2)).toNat < 2 ^ 8 := (memory (v + 2)).toNat_lt
  let half : UInt32 := (memory v).toUInt32 ||| (memory (v + 1)).toUInt32 <<< 8
  let most : UInt32 := half ||| (memory (v + 2)).toUInt32 <<< 16
  have two : half.toNat = (memory v).toNat + (memory (v + 1)).toNat * 2 ^ 8 :=
    toNat_or_shifted (memory v).toUInt32 (memory (v + 1)) first (by decide)
  have halfLt : half.toNat < 2 ^ 16 := by omega
  have three : most.toNat = half.toNat + (memory (v + 2)).toNat * 2 ^ 16 :=
    toNat_or_shifted half (memory (v + 2)) halfLt (by decide)
  have mostLt : most.toNat < 2 ^ 24 := by omega
  have four : (endian32 memory v).toNat = most.toNat + (memory (v + 3)).toNat * 2 ^ 24 :=
    toNat_or_shifted most (memory (v + 3)) mostLt (by decide)
  rw [four, three, two]
  show _ = (memory v).toNat + 256 * ((memory (v + 1)).toNat + 256 * ((memory (v + 2)).toNat +
    256 * ((memory (v + 3)).toNat + 256 * 0)))
  omega

theorem endian32_toBitVec (memory : Memory) (v : Nat) :
    (endian32 memory v).toBitVec = BitVec.ofNat 32 (memory.loadWord v 4) := by
  apply BitVec.eq_of_toNat_eq
  rw [BitVec.toNat_ofNat, Nat.mod_eq_of_lt (show _ < 2 ^ 32 from memory.loadWord_lt v 4)]
  exact endian32_eq memory v

/-- The words of a region that is hashed. -/
theorem strideWords_toBitVec (memory : Memory) (input : Nat) {stride count offset length : Nat}
    (inside : ∀ index < count, offset + stride * index + 4 ≤ length) :
    (strideWords memory stride count (input + offset)).map UInt32.toBitVec =
      XxHash.words (memory.bytes input length) offset stride count := by
  induction count generalizing offset with
  | zero => rfl
  | succ count inductionHypothesis =>
      have first := inside 0 (Nat.succ_pos count)
      rw [Nat.mul_zero, Nat.add_zero] at first
      have place (index : Nat) : offset + stride + stride * index = offset + stride * (index + 1) := by
        ring
      rw [strideWords, List.map_cons, endian32_toBitVec, Nat.add_assoc, inductionHypothesis,
        ← XxHash.word_bytes memory input first]
      · simp [XxHash.words, List.range_succ_eq_map, place]
      · intro index below
        rw [place]
        exact inside (index + 1) (by omega)

theorem mixed_toBitVec (acc input scale amount factor : UInt32) (positive : 0 < amount)
    (below : amount < 32) :
    (rotl (acc + input * scale) amount * factor).toBitVec =
      XxHash.mix scale.toBitVec amount.toNat factor.toBitVec acc.toBitVec input.toBitVec := by
  rw [UInt32.toBitVec_mul, rotl, rotation_toBitVec _ positive below]
  rfl

theorem roundXxhash_toBitVec (acc input : UInt32) :
    XxHash.mix XxHash.prime2 13 XxHash.prime1 acc.toBitVec input.toBitVec =
      (roundXxhash acc input).toBitVec :=
  (mixed_toBitVec acc input prime2 13 prime1 (by decide) (by decide)).symm

theorem finalWord_toBitVec (h input : UInt32) :
    XxHash.mix XxHash.prime3 17 XxHash.prime4 h.toBitVec input.toBitVec =
      (finalWord h input).toBitVec :=
  (mixed_toBitVec h input prime3 17 prime4 (by decide) (by decide)).symm

theorem finalByte_toBitVec (h : UInt32) (byte : UInt8) :
    XxHash.mix XxHash.prime5 11 XxHash.prime1 h.toBitVec (byte.toBitVec.setWidth 32) =
      (finalByte h byte).toBitVec :=
  (mixed_toBitVec h byte.toUInt32 prime5 11 prime1 (by decide) (by decide)).symm

theorem lane_toBitVec (memory : Memory) (input : Nat) {length offset : Nat} (early : offset ≤ 12)
    (start : UInt32) :
    ((strideWords memory 16 (length / 16) (input + offset)).foldl roundXxhash start).toBitVec =
      XxHash.lane (memory.bytes input length) offset start.toBitVec := by
  have inside : ∀ index < length / 16, offset + 16 * index + 4 ≤ length := by omega
  rw [XxHash.lane, Memory.length_bytes, ← strideWords_toBitVec memory input inside, List.foldl_map]
  exact (List.foldl_hom UInt32.toBitVec roundXxhash_toBitVec).symm

theorem h16bytes3_toBitVec (memory : Memory) (input length : Nat) (seed : UInt32) :
    (if 16 ≤ length then h16bytes3 memory input length seed else seed + prime5).toBitVec =
      XxHash.stripes seed.toBitVec (memory.bytes input length) := by
  rw [XxHash.stripes, Memory.length_bytes]
  by_cases long : 16 ≤ length
  · have first (start : UInt32) :
        ((strideWords memory 16 (length / 16) (input + 0)).foldl roundXxhash start).toBitVec =
          XxHash.lane (memory.bytes input length) 0 start.toBitVec :=
      lane_toBitVec memory input (Nat.zero_le 12) start
    rw [if_pos long, if_neg (by omega), h16bytes3, h16bytes4_eq]
    simp only [UInt32.toBitVec_add, rotl]
    rw [rotation_toBitVec _ (by decide) (by decide), rotation_toBitVec _ (by decide) (by decide),
      rotation_toBitVec _ (by decide) (by decide), rotation_toBitVec _ (by decide) (by decide),
      lane_toBitVec memory input (by decide : 4 ≤ 12),
      lane_toBitVec memory input (by decide : 8 ≤ 12),
      lane_toBitVec memory input (by decide : 12 ≤ 12)]
    rw [Nat.add_zero] at first
    rw [first]
    rfl
  · rw [if_neg long, if_pos (by omega)]
    rfl

theorem avalanche_toBitVec (h : UInt32) :
    (avalanche h).toBitVec = XxHash.avalanche h.toBitVec := by
  unfold avalanche avalancheStep XxHash.avalanche
  rw [UInt32.mul_one, xorShift_toBitVec _ (by decide), UInt32.toBitVec_mul,
    xorShift_toBitVec _ (by decide), UInt32.toBitVec_mul, xorShift_toBitVec _ (by decide)]
  rfl

/-- What is left behind the stripes. -/
theorem finalize_toBitVec (memory : Memory) (h : UInt32) (p : Nat) (words : List UInt32)
    (len : Nat) :
    ((memory.bytes p len).foldl finalByte (words.foldl finalWord h)).toBitVec =
      ((memory.bytes p len).map fun byte => byte.toBitVec.setWidth 32).foldl
        (XxHash.mix XxHash.prime5 11 XxHash.prime1)
        ((words.map UInt32.toBitVec).foldl (XxHash.mix XxHash.prime3 17 XxHash.prime4)
          h.toBitVec) := by
  have wordwise : (words.map UInt32.toBitVec).foldl (XxHash.mix XxHash.prime3 17 XxHash.prime4)
      h.toBitVec = (words.foldl finalWord h).toBitVec := by
    rw [List.foldl_map]
    exact List.foldl_hom UInt32.toBitVec finalWord_toBitVec
  rw [wordwise, List.foldl_map]
  exact (List.foldl_hom UInt32.toBitVec finalByte_toBitVec).symm

/-- The sum does not say more than its low 32 bits. -/
theorem calculateChecksum_toNat (memory : Memory) (data len : Nat) :
    (calculateChecksum memory data len).toNat =
      XxHash.byteSum (memory.bytes data len) % 2 ^ 32 := by
  induction len with
  | zero => rfl
  | succ len inductionHypothesis =>
      have next : calculateChecksum memory data (len + 1) =
          calculateChecksum memory data len + (memory (data + len)).toUInt32 := by
        simp [calculateChecksum, List.range_succ]
      rw [next, UInt32.toNat_add, inductionHypothesis, XxHash.byteSum_bytes_succ,
        UInt8.toNat_toUInt32, Nat.mod_add_mod]

/-- The program computes XXH32 of the bytes it is given. -/
theorem xxhash32_toBitVec (memory : Memory) (input length : Nat) (seed : UInt32) :
    (xxhash32 memory input length seed).toBitVec =
      XxHash.hash seed.toBitVec (memory.bytes input length) := by
  have inside : ∀ index < length % 16 / 4, length / 16 * 16 + 4 * index + 4 ≤ length := by omega
  have place : input + length / 16 * 16 + length % 16 / 4 * 4 = input + length / 4 * 4 := by omega
  have left : length % 16 % 4 = length - length / 4 * 4 := by omega
  rw [xxhash32, finalize_eq, avalanche_toBitVec, finalize_toBitVec,
    strideWords_toBitVec memory input inside, UInt32.toBitVec_add, h16bytes3_toBitVec, place, left,
    XxHash.hash, Memory.length_bytes, XxHash.drop_bytes]
  rfl

/-! ## What the hash tells -/

/-- Two buffers that differ in one aligned word only, which is whole. -/
structure DifferInWord (left right : Memory) (p q len offset : Nat) : Prop where
  aligned : offset % 4 = 0
  inside : offset + 4 ≤ len
  same : ∀ index < len, index < offset ∨ offset + 4 ≤ index → left (p + index) = right (q + index)
  differ : ∃ index < 4, left (p + offset + index) ≠ right (q + offset + index)

section Tells

variable {left right : Memory} {p q len offset : Nat}
variable (word : DifferInWord left right p q len offset)

include word

theorem DifferInWord.endian32_same {other : Nat} (aligned : other % 4 = 0)
    (inside : other + 4 ≤ len) (apart : other ≠ offset) :
    endian32 left (p + other) = endian32 right (q + other) := by
  have offsetAligned := word.aligned
  have bytes (index : Nat) (below : index < 4) :
      left (p + other + index) = right (q + other + index) := by
    rw [Nat.add_assoc, Nat.add_assoc]
    exact word.same _ (by omega) (by omega)
  apply UInt32.toNat_inj.mp
  rw [endian32_eq, endian32_eq]
  exact Memory.loadWord_eq_iff.mpr bytes

theorem DifferInWord.endian32_differ :
    endian32 left (p + offset) ≠ endian32 right (q + offset) := by
  intro same
  obtain ⟨index, below, differ⟩ := word.differ
  have words := congrArg UInt32.toNat same
  rw [endian32_eq, endian32_eq] at words
  exact differ (Memory.loadWord_eq_iff.mp words index below)

/-- The words of a lane that does not have the changed one. -/
theorem DifferInWord.lane_same {start stride count : Nat} (aligned : start % 4 = 0)
    (strided : stride % 4 = 0) (inside : ∀ index < count, start + stride * index + 4 ≤ len)
    (apart : ∀ index < count, start + stride * index ≠ offset) :
    strideWords left stride count (p + start) = strideWords right stride count (q + start) := by
  apply strideWords_congr
  intro index below
  rw [Nat.add_assoc, Nat.add_assoc]
  refine word.endian32_same ?_ (inside index below) (apart index below)
  rw [Nat.add_mod, Nat.mul_mod, aligned, strided, Nat.zero_mul]

/-- The words of a lane that has it. -/
theorem DifferInWord.lane_tells {State : Type} {absorb : State → UInt32 → State}
    (lossless : Lossless absorb) {start stride count index : Nat} (aligned : start % 4 = 0)
    (strided : stride % 4 = 0) (positive : 0 < stride)
    (inside : ∀ index < count, start + stride * index + 4 ≤ len) (below : index < count)
    (here : start + stride * index = offset) (state : State) :
    (strideWords left stride count (p + start)).foldl absorb state ≠
      (strideWords right stride count (q + start)).foldl absorb state := by
  apply strideWords_tells lossless below
  · intro other before apart
    rw [Nat.add_assoc, Nat.add_assoc]
    refine word.endian32_same ?_ (inside other before) ?_
    · rw [Nat.add_mod, Nat.mul_mod, aligned, strided, Nat.zero_mul]
    · rw [← here]
      intro same
      exact apart (Nat.eq_of_mul_eq_mul_left positive (Nat.add_left_cancel same))
  · rw [Nat.add_assoc, Nat.add_assoc, here]
    exact word.endian32_differ

theorem h16bytes3_tells (early : offset < len / 16 * 16) (seed : UInt32) :
    h16bytes3 left p len seed ≠ h16bytes3 right q len seed := by
  have aligned := word.aligned
  have inside {start : Nat} (below : start + 4 ≤ 16) (index : Nat) (block : index < len / 16) :
      start + 16 * index + 4 ≤ len := by
    omega
  have kept (start : Nat) (lane : start % 4 = 0) (below : start + 4 ≤ 16)
      (apart : offset % 16 ≠ start) :
      strideWords left 16 (len / 16) (p + start) = strideWords right 16 (len / 16) (q + start) :=
    word.lane_same lane (by decide) (inside below) fun index _ => by omega
  have tells (start : Nat) (lane : start % 4 = 0) (below : start + 4 ≤ 16)
      (here : offset % 16 = start) (amount : UInt32) (positive : 0 < amount) (fits : amount < 32)
      (v : UInt32) :
      rotl ((strideWords left 16 (len / 16) (p + start)).foldl roundXxhash v) amount ≠
        rotl ((strideWords right 16 (len / 16) (q + start)).foldl roundXxhash v) amount := by
    intro same
    exact word.lane_tells roundXxhash_lossless lane (by decide) (by decide) (inside below)
      (by omega : offset / 16 < len / 16) (by omega) v (rotation_injective positive fits same)
  have first := kept 0 (by decide) (by decide)
  have second := kept 4 (by decide) (by decide)
  have third := kept 8 (by decide) (by decide)
  have fourth := kept 12 (by decide) (by decide)
  rw [Nat.add_zero, Nat.add_zero] at first
  unfold h16bytes3
  rw [h16bytes4_eq, h16bytes4_eq]
  intro same
  have place : offset % 16 = 0 ∨ offset % 16 = 4 ∨ offset % 16 = 8 ∨ offset % 16 = 12 := by omega
  rcases place with here | here | here | here
  · rw [second (by omega), third (by omega), fourth (by omega), UInt32.add_left_inj,
      UInt32.add_left_inj, UInt32.add_left_inj] at same
    exact tells 0 (by decide) (by decide) here 1 (by decide) (by decide) _ same
  · rw [first (by omega), third (by omega), fourth (by omega), UInt32.add_left_inj,
      UInt32.add_left_inj, UInt32.add_right_inj] at same
    exact tells 4 (by decide) (by decide) here 7 (by decide) (by decide) _ same
  · rw [first (by omega), second (by omega), fourth (by omega), UInt32.add_left_inj,
      UInt32.add_right_inj] at same
    exact tells 8 (by decide) (by decide) here 12 (by decide) (by decide) _ same
  · rw [first (by omega), second (by omega), third (by omega), UInt32.add_right_inj] at same
    exact tells 12 (by decide) (by decide) here 18 (by decide) (by decide) _ same

/-- The lanes do not see the tail. -/
theorem h16bytes3_same (late : len / 16 * 16 ≤ offset) (seed : UInt32) :
    h16bytes3 left p len seed = h16bytes3 right q len seed := by
  have kept (start : Nat) (lane : start % 4 = 0) (below : start + 4 ≤ 16) :
      strideWords left 16 (len / 16) (p + start) = strideWords right 16 (len / 16) (q + start) :=
    word.lane_same lane (by decide) (fun index block => by omega) fun index block => by omega
  have first := kept 0 (by decide) (by decide)
  rw [Nat.add_zero, Nat.add_zero] at first
  unfold h16bytes3
  rw [h16bytes4_eq, h16bytes4_eq, first, kept 4 (by decide) (by decide),
    kept 8 (by decide) (by decide), kept 12 (by decide) (by decide)]

/-- Whatever the length and the seed are, the hash tells a change that does not leave
one word. -/
theorem xxhash32_tells (seed : UInt32) : xxhash32 left p len seed ≠ xxhash32 right q len seed := by
  have aligned := word.aligned
  have inside := word.inside
  -- The bytes behind the last word are as they were.
  have bytes : left.bytes (p + len / 16 * 16 + len % 16 / 4 * 4) (len % 16 % 4) =
      right.bytes (q + len / 16 * 16 + len % 16 / 4 * 4) (len % 16 % 4) := by
    apply Memory.bytes_eq_iff.mpr
    intro index below
    rw [Nat.add_assoc p, Nat.add_assoc q, Nat.add_assoc p, Nat.add_assoc q]
    exact word.same _ (by omega) (by omega)
  have tailInside (index : Nat) (below : index < len % 16 / 4) :
      len / 16 * 16 + 4 * index + 4 ≤ len := by
    omega
  unfold xxhash32
  rw [finalize_eq, finalize_eq, bytes]
  intro same
  have words := finalByte_lossless.foldl_injective _ (avalanche_injective same)
  by_cases early : offset < len / 16 * 16
  · have tail : strideWords left 4 (len % 16 / 4) (p + len / 16 * 16) =
        strideWords right 4 (len % 16 / 4) (q + len / 16 * 16) :=
      word.lane_same (by omega) (by decide) tailInside fun index _ => by omega
    rw [tail] at words
    have sums := (UInt32.add_left_inj _).mp (finalWord_lossless.foldl_injective _ words)
    rw [if_pos (by omega), if_pos (by omega)] at sums
    exact h16bytes3_tells word early seed sums
  · rw [h16bytes3_same word (Nat.not_lt.mp early)] at words
    refine word.lane_tells finalWord_lossless (by omega) (by decide) (by decide) tailInside
      (?_ : (offset - len / 16 * 16) / 4 < len % 16 / 4) ?_ _ words
    · omega
    · omega

end Tells

/-! ## What the packet tells -/

/-- The two numbers in a packet that is sent back. -/
theorem xdpPass_record {context : XdpMdUserspace} {memory : Memory}
    (answered : (xdpPass context memory).1 = xdpTx) :
    let sum := calculateChecksum memory context.data 60
    (xdpPass context memory).2.loadWord (context.data + 34) 4 = sum.toNat ∧
      (xdpPass context memory).2.loadWord (context.data + 38) 4 =
        (xxhash32 memory context.data 60 sum).toNat := by
  have behind (memory : Memory) {address : Nat} (lower : context.data + 12 ≤ address) :
      (swapSrcDstMac memory context.data).loadWord address 4 = memory.loadWord address 4 :=
    Memory.loadWord_congr fun candidate above _ => swapSrcDstMac_other memory (by omega)
  have small (word : UInt32) : word.toNat % 256 ^ 4 = word.toNat := Nat.mod_eq_of_lt word.toNat_lt
  intro sum
  unfold xdpPass at answered ⊢
  dsimp only at answered ⊢
  split_ifs at answered ⊢
  · cases answered
  · cases answered
  · cases answered
  · cases answered
  · cases answered
  · cases answered
  · dsimp only
    constructor
    · rw [behind _ (by omega), Memory.loadWord_storeWord_other _ (by omega),
        Memory.loadWord_storeWord, small]
    · rw [behind _ (by omega), Memory.loadWord_storeWord, small]

/-- The record in a packet that is sent back tells every change of the packet that does
not leave one aligned word. -/
theorem record_tells {left right : Window}
    (leftAnswered : (xdpPass left.context left.memory).1 = xdpTx)
    (rightAnswered : (xdpPass right.context right.memory).1 = xdpTx) {offset : Nat}
    (word : DifferInWord left.memory right.memory left.context.data right.context.data 60 offset) :
    (xdpPass left.context left.memory).2.bytes (left.context.data + 34) 8 ≠
      (xdpPass right.context right.memory).2.bytes (right.context.data + 34) 8 := by
  obtain ⟨leftSum, leftHash⟩ := xdpPass_record leftAnswered
  obtain ⟨rightSum, rightHash⟩ := xdpPass_record rightAnswered
  intro same
  have bytes := Memory.bytes_eq_iff.mp same
  have sums := Memory.loadWord_eq_iff.mpr fun index (below : index < 4) => bytes index (by omega)
  have hashes : (xdpPass left.context left.memory).2.loadWord (left.context.data + 38) 4 =
      (xdpPass right.context right.memory).2.loadWord (right.context.data + 38) 4 :=
    Memory.loadWord_eq_iff.mpr fun index below => by
      have byte := bytes (4 + index) (by omega)
      rwa [← Nat.add_assoc, ← Nat.add_assoc] at byte
  rw [leftSum, rightSum] at sums
  rw [leftHash, rightHash, UInt32.toNat_inj.mp sums] at hashes
  exact xxhash32_tells word _ (UInt32.toNat_inj.mp hashes)

/-- An IPv4 frame of 60 bytes. -/
def frame : Window where
  context := ⟨0, 60, 0, 0, 0, 0, 0, 60⟩
  memory address := if address = 12 then 8 else 0

/-- The same with another byte at its end. -/
def changedFrame : Window :=
  { frame with memory := frame.memory.store 59 1 }

theorem last_byte_tells :
    (xdpPass frame.context frame.memory).2.bytes 34 8 ≠
      (xdpPass changedFrame.context changedFrame.memory).2.bytes 34 8 :=
  record_tells (by rfl) (by rfl)
    (⟨by decide, by decide, by decide, 3, by decide, by decide⟩ :
      DifferInWord frame.memory changedFrame.memory 0 0 60 56)

end UserspaceXdp.Programs.XdpHashSum
