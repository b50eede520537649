import UserspaceXdp.Foundation.Memory

/-!
Contract: the 32-bit hash XXH32 of a string of bytes.

Owns: the hash with a seed, by its four lanes and its tail, and the words and the
byte sum of a string that lies in memory.

Does not own: any way to compute it. A program that hashes a buffer proves that its
loops come to this.
-/

namespace UserspaceXdp.Foundation.XxHash

/-! ## The hash -/

def prime1 : BitVec 32 := 2654435761
def prime2 : BitVec 32 := 2246822519
def prime3 : BitVec 32 := 3266489917
def prime4 : BitVec 32 := 668265263
def prime5 : BitVec 32 := 374761393

/-- The little-endian word at an offset. -/
def word (input : List UInt8) (offset : Nat) : BitVec 32 :=
  BitVec.ofNat 32 (Nat.ofDigits 256 (((input.drop offset).take 4).map UInt8.toNat))

/-- `count` words, each `stride` bytes after the one before. -/
def words (input : List UInt8) (offset stride count : Nat) : List (BitVec 32) :=
  (List.range count).map fun index => word input (offset + stride * index)

def mix (scale : BitVec 32) (amount : Nat) (factor acc input : BitVec 32) : BitVec 32 :=
  (acc + input * scale).rotateLeft amount * factor

/-- Every fourth word of the whole stripes of 16 bytes. -/
def lane (input : List UInt8) (offset : Nat) (start : BitVec 32) : BitVec 32 :=
  (words input offset 16 (input.length / 16)).foldl (mix prime2 13 prime1) start

def stripes (seed : BitVec 32) (input : List UInt8) : BitVec 32 :=
  if input.length < 16 then seed + prime5
  else
    (lane input 0 (seed + prime1 + prime2)).rotateLeft 1 +
      (lane input 4 (seed + prime2)).rotateLeft 7 +
      (lane input 8 seed).rotateLeft 12 +
      (lane input 12 (seed - prime1)).rotateLeft 18

def avalanche (acc : BitVec 32) : BitVec 32 :=
  let acc := (acc ^^^ acc >>> 15) * prime2
  let acc := (acc ^^^ acc >>> 13) * prime3
  acc ^^^ acc >>> 16

/-- The stripes, the length, the whole words that are left and the bytes behind them. -/
def hash (seed : BitVec 32) (input : List UInt8) : BitVec 32 :=
  let length := input.length
  let acc := stripes seed input + BitVec.ofNat 32 length
  let acc := (words input (length / 16 * 16) 4 (length % 16 / 4)).foldl (mix prime3 17 prime4) acc
  let acc := ((input.drop (length / 4 * 4)).map fun byte => byte.toBitVec.setWidth 32).foldl
    (mix prime5 11 prime1) acc
  avalanche acc

/-- The published values for the empty string and for `abc`. -/
example : hash 0 [] = 0x02CC5D05 ∧ hash 0 [97, 98, 99] = 0x32D153FF := by
  decide

/-- The sum of the bytes. -/
def byteSum (input : List UInt8) : Nat :=
  (input.map UInt8.toNat).sum

/-! ## Strings in memory -/

theorem byteSum_bytes_succ (memory : Memory) (address length : Nat) :
    byteSum (memory.bytes address (length + 1)) =
      byteSum (memory.bytes address length) + (memory (address + length)).toNat := by
  simp [byteSum, Memory.bytes, List.range_succ]

theorem byteSum_le (input : List UInt8) : byteSum input ≤ 255 * input.length := by
  induction input with
  | nil => exact Nat.zero_le _
  | cons byte rest inductionHypothesis =>
      have small : byte.toNat < 256 := byte.toNat_lt
      simp only [byteSum, List.map_cons, List.sum_cons, List.length_cons] at inductionHypothesis ⊢
      omega

theorem ofDigits_bytes (memory : Memory) (address width : Nat) :
    Nat.ofDigits 256 ((memory.bytes address width).map UInt8.toNat) =
      memory.loadWord address width := by
  induction width generalizing address with
  | zero => rfl
  | succ width inductionHypothesis =>
      rw [Memory.bytes_succ, List.map_cons, Nat.ofDigits_cons, inductionHypothesis]
      rfl

theorem drop_bytes (memory : Memory) (address length offset : Nat) :
    (memory.bytes address length).drop offset =
      memory.bytes (address + offset) (length - offset) := by
  apply List.ext_getElem
  · simp only [List.length_drop, Memory.length_bytes]
  · intro index _ _
    simp [Memory.bytes, Nat.add_assoc]

theorem word_bytes (memory : Memory) (address : Nat) {length offset : Nat}
    (inside : offset + 4 ≤ length) :
    word (memory.bytes address length) offset =
      BitVec.ofNat 32 (memory.loadWord (address + offset) 4) := by
  have part : (memory.bytes (address + offset) (length - offset)).take 4 =
      memory.bytes (address + offset) 4 := by
    have four : min 4 (length - offset) = 4 := by omega
    rw [Memory.bytes, ← List.map_take, List.take_range, four, Memory.bytes]
  rw [word, drop_bytes, part, ofDigits_bytes]

end UserspaceXdp.Foundation.XxHash
