import UserspaceXdp.Foundation.OnesComplement

/-!
Contract: the two `csum_partial` of `module/helpers.c` and
`xdp_progs/includes/inline_csum.h`.

Owns: `from32to16`, `do_csum`, the `csum_partial` compiled with
`USING_OLD_CSUM`, the `csum_partial` of 64-bit additions with carry that stands
in the other branch of the `#ifdef`, the one's-complement value of each, and
their agreement after folding.

Does not own: what is summed. A buffer is a region of memory, and its value is
the number its bytes are in little-endian order, which modulo 65535 is the sum
of its 16-bit halves. The loops of the source that compare a moving pointer
with an end or a remaining length with a block size are recursions on the
number of blocks; `len` is an `int` that no caller makes negative.
-/

namespace UserspaceXdp.Checksum

open UserspaceXdp.Foundation
open UserspaceXdp.Foundation.OnesComplement

/-! ## The word-at-a-time routine -/

def from32to16 (x : Nat) : Nat :=
  endAround 16 (endAround 16 x) % 2 ^ 16

/-- The variables of `do_csum`. -/
structure Cursor where
  buff : Nat
  len : Nat
  result : Nat

namespace Cursor

variable (memory : Memory)

/-- `if (odd)`, at the head. -/
def leadingByte (cursor : Cursor) : Cursor :=
  if cursor.buff % 2 = 1 then
    { buff := cursor.buff + 1
      len := cursor.len - 1
      result := (cursor.result + (memory cursor.buff).toNat * 2 ^ 8) % 2 ^ 32 }
  else cursor

/-- `if (2 & (unsigned long)buff)`. -/
def leadingHalf (cursor : Cursor) : Cursor :=
  if cursor.buff / 2 % 2 = 1 then
    { buff := cursor.buff + 2
      len := cursor.len - 2
      result := (cursor.result + memory.loadWord cursor.buff 2) % 2 ^ 32 }
  else cursor

/-- The loop: `result` and `carry` after `count` words. -/
def sumWords : Nat → Nat → Nat → Nat → Nat × Nat
  | 0, _, result, carry => (result, carry)
  | count + 1, buff, result, carry =>
      let w := memory.loadWord buff 4
      let next := ((result + carry) % 2 ^ 32 + w) % 2 ^ 32
      sumWords count (buff + 4) next (if next < w then 1 else 0)

/-- `if (len >= 4)`. The length keeps its value: only its two low bits are read
from here on. -/
def wholeWords (cursor : Cursor) : Cursor :=
  if 4 ≤ cursor.len then
    let sums := sumWords memory (cursor.len / 4) cursor.buff cursor.result 0
    { cursor with
      buff := cursor.buff + 4 * (cursor.len / 4)
      result := endAround 16 ((sums.1 + sums.2) % 2 ^ 32) }
  else cursor

/-- `if (len & 2)`. -/
def trailingHalf (cursor : Cursor) : Cursor :=
  if cursor.len / 2 % 2 = 1 then
    { cursor with
      buff := cursor.buff + 2
      result := (cursor.result + memory.loadWord cursor.buff 2) % 2 ^ 32 }
  else cursor

/-- `if (len & 1)`. -/
def trailingByte (cursor : Cursor) : Cursor :=
  if cursor.len % 2 = 1 then
    { cursor with
      result := (cursor.result + (memory cursor.buff).toNat) % 2 ^ 32 }
  else cursor

/-- `if (len >= 2)`. -/
def halves (cursor : Cursor) : Cursor :=
  if 2 ≤ cursor.len then
    trailingHalf memory (wholeWords memory (leadingHalf memory cursor))
  else cursor

end Cursor

/-- The byte swap that makes up for an odd start. -/
def swapBytes (result : Nat) : Nat :=
  ((result >>> 8) &&& 0xff) ||| ((result &&& 0xff) <<< 8)

def doCsum (memory : Memory) (buff len : Nat) : Nat :=
  if len = 0 then 0
  else
    let start : Cursor := { buff, len, result := 0 }
    let final := (start.leadingByte memory).halves memory |>.trailingByte memory
    let result := from32to16 final.result
    if buff % 2 = 1 then swapBytes result else result

/-- `csum_partial`, with `USING_OLD_CSUM`. -/
def csumPartial (memory : Memory) (buff len wsum : Nat) : Nat :=
  let result := (doCsum memory buff len + wsum) % 2 ^ 32
  if result < wsum then (result + 1) % 2 ^ 32 else result

/-! ## The routine of additions with carry -/

def ror64 (word shift : Nat) : Nat :=
  (word >>> (shift % 64)) ||| ((word <<< ((2 ^ 32 - shift) % 64)) % 2 ^ 64)

def csumFinalizeSum (temp64 : Nat) : Nat :=
  ((temp64 + ror64 temp64 32) % 2 ^ 64) >>> 32

def updateCsum40b (memory : Memory) (sum m : Nat) : Nat :=
  addChain 64 sum (regionWords memory 8 m 5)

/-- The loop over blocks of 80 bytes: the two accumulators after `count` blocks. -/
def sumBlocks (memory : Memory) : Nat → Nat → Nat → Nat → Nat × Nat
  | 0, _, temp64, temp64Second => (temp64, temp64Second)
  | count + 1, buff, temp64, temp64Second =>
      sumBlocks memory count (buff + 80) (updateCsum40b memory temp64 buff)
        (updateCsum40b memory temp64Second (buff + 40))

/-- The variables of the second `csum_partial`. -/
structure Accumulator where
  buff : Nat
  len : Nat
  temp64 : Nat

namespace Accumulator

variable (memory : Memory)

/-- `if (likely(len >= 80))`. -/
def blocks (state : Accumulator) : Accumulator :=
  if 80 ≤ state.len then
    let sums := sumBlocks memory (state.len / 80) state.buff state.temp64 0
    { buff := state.buff + 80 * (state.len / 80)
      len := state.len % 80
      temp64 := addChain 64 sums.1 [sums.2] }
  else state

/-- `if (len & size)`, for 32, 16 and 8. -/
def piece (size : Nat) (state : Accumulator) : Accumulator :=
  if state.len / size % 2 = 1 then
    { state with
      buff := state.buff + size
      temp64 := addChain 64 state.temp64 (regionWords memory 8 state.buff (size / 8)) }
  else state

/-- `if (len & 7)`: the word at the end is read whole, and the shifts drop the
bytes that follow the buffer. -/
def trail (state : Accumulator) : Accumulator :=
  if state.len % 8 ≠ 0 then
    let shift := (2 ^ 32 - state.len) * 2 ^ 3 % 64
    let trail := ((memory.loadWord state.buff 8 <<< shift) % 2 ^ 64) >>> shift
    { state with temp64 := addChain 64 state.temp64 [trail] }
  else state

/-- What follows `if (len >= 40)`. -/
def rest (state : Accumulator) : Nat :=
  csumFinalizeSum ((((state.piece memory 32).piece memory 16).piece memory 8).trail memory).temp64

end Accumulator

/-- `csum_partial`, without `USING_OLD_CSUM`. -/
def csumPartialAdc (memory : Memory) (buff len sum : Nat) : Nat :=
  let state := ({ buff, len, temp64 := sum } : Accumulator).blocks memory
  if 40 ≤ state.len then
    let temp64 := updateCsum40b memory state.temp64 state.buff
    if state.len - 40 = 0 then csumFinalizeSum temp64
    else
      ({ buff := state.buff + 40, len := state.len - 40, temp64 } : Accumulator).rest memory
  else state.rest memory

/-! ## What the first routine computes -/

/-- Any even number of bytes is a whole number of 16-bit digits. -/
theorem radix_modEq_one {width : Nat} (even : width % 2 = 0) : 256 ^ width ≡ 1 [MOD 65535] := by
  have halves : width = 2 * (width / 2) := by omega
  have digit : 256 ^ 2 ≡ 1 [MOD 65535] := by decide
  rw [halves, pow_mul]
  simpa using digit.pow (width / 2)

theorem loadWord_cut {low : Nat} (memory : Memory) (even : low % 2 = 0) (address high : Nat) :
    OnesEq 65535 (memory.loadWord address (low + high))
      (memory.loadWord address low + memory.loadWord (address + low) high) :=
  loadWord_split memory (radix_modEq_one even) address high

theorem loadWord_byte (memory : Memory) (address : Nat) :
    memory.loadWord address 1 = (memory address).toNat := by
  simp [Memory.loadWord]

theorem from32to16_lt (x : Nat) : from32to16 x < 2 ^ 16 :=
  Nat.mod_lt _ (by decide)

/-- Two folds are enough for 32 bits. -/
theorem from32to16_onesEq {x : Nat} (small : x < 2 ^ 32) :
    OnesEq 65535 (from32to16 x) x := by
  have once : endAround 16 x + 1 < 2 ^ 16 + 2 ^ 16 := by
    unfold endAround
    omega
  have twice := endAround_lt once
  unfold from32to16
  rw [Nat.mod_eq_of_lt twice]
  exact (endAround_onesEq 16 _).trans (endAround_onesEq 16 x)

namespace Cursor

variable {memory : Memory}

/-- The comparison of the loop finds every carry. -/
theorem sumWords_eq_foldl {count buff result carry : Nat} (within : result + carry < 2 ^ 32) :
    sumWords memory count buff result carry =
      (regionWords memory 4 buff count).foldl (addCarry 32) (result, carry) := by
  induction count generalizing buff result carry with
  | zero => rfl
  | succ count inductionHypothesis =>
      have wordSmall : memory.loadWord buff 4 < 2 ^ 32 := memory.loadWord_lt buff 4
      have compared := carry_of_compare within wordSmall
      have next : (result + carry + memory.loadWord buff 4) % 2 ^ 32 +
          (result + carry + memory.loadWord buff 4) / 2 ^ 32 < 2 ^ 32 := by
        omega
      rw [sumWords, regionWords, List.foldl_cons, Nat.mod_eq_of_lt within, compared, inductionHypothesis next]
      rfl

variable (memory)

/-- The loop loses nothing. -/
theorem sumWords_spec {result : Nat} (small : result < 2 ^ 32) (count buff : Nat) :
    (sumWords memory count buff result 0).1 + (sumWords memory count buff result 0).2 <
        2 ^ 32 ∧
      OnesEq 65535
        ((sumWords memory count buff result 0).1 + (sumWords memory count buff result 0).2)
        (result + memory.loadWord buff (4 * count)) := by
  have within : (result, 0).1 + (result, 0).2 < 2 ^ 32 := small
  have words : ∀ word ∈ regionWords memory 4 buff count, word < 2 ^ 32 := by
    intro word member
    exact regionWords_lt member
  have folded := foldl_addCarry within words
  have region := loadWord_regionWords memory (radix_modEq_one (by decide : 4 % 2 = 0)) buff count
  rw [sumWords_eq_foldl within]
  constructor
  · exact folded.1
  · exact (folded.2.of_dvd (by decide)).trans (region.symm.add_left result)

@[simp] theorem wholeWords_len (cursor : Cursor) :
    (cursor.wholeWords memory).len = cursor.len := by
  unfold wholeWords
  split <;> rfl

@[simp] theorem trailingHalf_len (cursor : Cursor) :
    (cursor.trailingHalf memory).len = cursor.len := by
  unfold trailingHalf
  split <;> rfl

/-- The value of a cursor: what it has summed and the bytes it has left. -/
def value (memory : Memory) (cursor : Cursor) (left : Nat) : Nat :=
  cursor.result + memory.loadWord cursor.buff left

theorem leadingHalf_spec {cursor : Cursor} (long : 2 ≤ cursor.len)
    (small : cursor.result ≤ 65280) :
    (cursor.leadingHalf memory).result ≤ 130815 ∧
      OnesEq 65535 ((cursor.leadingHalf memory).value memory (cursor.leadingHalf memory).len)
        (cursor.value memory cursor.len) := by
  have half : memory.loadWord cursor.buff 2 < 2 ^ 16 := memory.loadWord_lt _ 2
  unfold leadingHalf
  split
  · have cut := loadWord_cut memory (by decide : 2 % 2 = 0) cursor.buff (cursor.len - 2)
    rw [Nat.add_sub_cancel' long] at cut
    dsimp only [value]
    rw [Nat.mod_eq_of_lt (by omega), Nat.add_assoc]
    exact ⟨by omega, (cut.add_left cursor.result).symm⟩
  · exact ⟨by omega, OnesEq.refl _ _⟩

theorem wholeWords_spec {cursor : Cursor} (small : cursor.result ≤ 130815) :
    (cursor.wholeWords memory).result ≤ 131070 ∧
      OnesEq 65535 ((cursor.wholeWords memory).value memory (cursor.len % 4))
        (cursor.value memory cursor.len) := by
  unfold wholeWords
  split
  · have summed := sumWords_spec memory (by omega : cursor.result < 2 ^ 32)
      (cursor.len / 4) cursor.buff
    have cut := loadWord_cut memory (by omega : 4 * (cursor.len / 4) % 2 = 0) cursor.buff
      (cursor.len % 4)
    rw [Nat.div_add_mod] at cut
    dsimp only [value]
    rw [Nat.mod_eq_of_lt summed.1]
    constructor
    · unfold endAround
      omega
    · apply OnesEq.trans (((endAround_onesEq 16 _).trans summed.2).add_right _)
      rw [Nat.add_assoc]
      exact cut.symm.add_left cursor.result
  · rename_i short
    rw [Nat.mod_eq_of_lt (by omega)]
    exact ⟨by omega, OnesEq.refl _ _⟩

theorem trailingHalf_spec {cursor : Cursor} (small : cursor.result ≤ 131070) :
    (cursor.trailingHalf memory).result ≤ 196605 ∧
      OnesEq 65535 ((cursor.trailingHalf memory).value memory (cursor.len % 2))
        (cursor.value memory (cursor.len % 4)) := by
  have half : memory.loadWord cursor.buff 2 < 2 ^ 16 := memory.loadWord_lt _ 2
  unfold trailingHalf
  split
  · have cut := loadWord_cut memory (by decide : 2 % 2 = 0) cursor.buff (cursor.len % 2)
    have whole : 2 + cursor.len % 2 = cursor.len % 4 := by omega
    rw [whole] at cut
    dsimp only [value]
    rw [Nat.mod_eq_of_lt (by omega), Nat.add_assoc]
    exact ⟨by omega, (cut.add_left cursor.result).symm⟩
  · have whole : cursor.len % 2 = cursor.len % 4 := by omega
    rw [whole]
    exact ⟨by omega, OnesEq.refl _ _⟩

theorem trailingByte_spec {cursor : Cursor} (small : cursor.result ≤ 196605) :
    (cursor.trailingByte memory).result ≤ 196860 ∧
      (cursor.trailingByte memory).result = cursor.value memory (cursor.len % 2) := by
  have byte := (memory cursor.buff).toNat_lt
  unfold trailingByte value
  split
  · rename_i odd
    dsimp only
    rw [Nat.mod_eq_of_lt (by omega), odd, loadWord_byte]
    exact ⟨by omega, rfl⟩
  · have even : cursor.len % 2 = 0 := by omega
    rw [even]
    exact ⟨by omega, rfl⟩

theorem halves_spec {cursor : Cursor} (small : cursor.result ≤ 65280) :
    (cursor.halves memory).result ≤ 196605 ∧
      OnesEq 65535 ((cursor.halves memory).value memory ((cursor.halves memory).len % 2))
        (cursor.value memory cursor.len) := by
  unfold halves
  split
  · rename_i long
    have first := leadingHalf_spec memory long small
    have second := wholeWords_spec memory first.1
    have third := trailingHalf_spec memory second.1
    have fromWords := third.2
    rw [wholeWords_len] at fromWords
    rw [trailingHalf_len, wholeWords_len]
    exact ⟨third.1, fromWords.trans (second.2.trans first.2)⟩
  · rename_i short
    rw [Nat.mod_eq_of_lt (by omega)]
    exact ⟨by omega, OnesEq.refl _ _⟩

/-- From an even address on the cursor sums its bytes. -/
theorem sum_spec (cursor : Cursor) (small : cursor.result ≤ 65280) :
    OnesEq 65535 (from32to16 ((cursor.halves memory).trailingByte memory).result)
      (cursor.value memory cursor.len) := by
  have halved := halves_spec memory small
  have last := trailingByte_spec memory halved.1
  apply OnesEq.trans (from32to16_onesEq (by omega))
  rw [last.2]
  exact halved.2

end Cursor

theorem swapBytes_eq {result : Nat} (small : result < 2 ^ 16) :
    swapBytes result = result % 256 * 256 + result / 256 := by
  have high : (result >>> 8) &&& 0xff = result / 256 := by
    rw [show (0xff : Nat) = 2 ^ 8 - 1 from rfl, Nat.and_two_pow_sub_one_eq_mod,
      Nat.shiftRight_eq_div_pow]
    exact Nat.mod_eq_of_lt (by omega)
  have low : result &&& 0xff = result % 256 := by
    rw [show (0xff : Nat) = 2 ^ 8 - 1 from rfl, Nat.and_two_pow_sub_one_eq_mod]
  have byte : result / 256 < 2 ^ 8 := by omega
  rw [swapBytes, high, low, Nat.or_comm, ← Nat.shiftLeft_add_eq_or_of_lt byte,
    Nat.shiftLeft_eq]

theorem swapBytes_lt {result : Nat} (small : result < 2 ^ 16) : swapBytes result < 2 ^ 16 := by
  rw [swapBytes_eq small]
  omega

/-- A swap of the bytes multiplies by 256. -/
theorem swapBytes_onesEq {result : Nat} (small : result < 2 ^ 16) :
    OnesEq 65535 (swapBytes result) (256 * result) := by
  have digits : 256 * result = result % 256 * 256 + 256 ^ 2 * (result / 256) := by omega
  rw [swapBytes_eq small, digits]
  exact (OnesEq.scale (by decide) (by decide) _).symm.add_left _

theorem doCsum_lt (memory : Memory) (buff len : Nat) : doCsum memory buff len < 2 ^ 16 := by
  unfold doCsum
  split
  · decide
  · dsimp only
    split
    · exact swapBytes_lt (from32to16_lt _)
    · exact from32to16_lt _

/-- The sum of a buffer with an odd start has every byte in the other half of
its word. -/
theorem loadWord_odd_start (memory : Memory) (buff len : Nat) :
    OnesEq 65535
      (256 * ((memory buff).toNat * 2 ^ 8 + memory.loadWord (buff + 1) len))
      (memory.loadWord buff (len + 1)) := by
  have shifted : 256 * ((memory buff).toNat * 2 ^ 8 + memory.loadWord (buff + 1) len) =
      256 ^ 2 * (memory buff).toNat + 256 * memory.loadWord (buff + 1) len := by
    ring
  rw [shifted, Memory.loadWord]
  exact (OnesEq.scale (by decide) (by decide) _).add_right _

/-- `do_csum` returns the one's-complement sum of the buffer, wherever the
buffer starts. -/
theorem doCsum_onesEq (memory : Memory) (buff len : Nat) :
    OnesEq 65535 (doCsum memory buff len) (memory.loadWord buff len) := by
  unfold doCsum
  split
  · rename_i empty
    rw [empty]
    exact OnesEq.refl _ _
  · rename_i nonempty
    dsimp only
    by_cases odd : buff % 2 = 1
    · have byte := (memory buff).toNat_lt
      have small : (0 + (memory buff).toNat * 2 ^ 8) % 2 ^ 32 ≤ 65280 := by omega
      have summed := Cursor.sum_spec memory ⟨buff + 1, len - 1, _⟩ small
      have whole := loadWord_odd_start memory buff (len - 1)
      rw [Nat.sub_add_cancel (by omega)] at whole
      rw [if_pos odd, Cursor.leadingByte, if_pos odd]
      dsimp only
      apply (swapBytes_onesEq (from32to16_lt _)).trans
      apply (summed.mul_left _).trans
      rw [Cursor.value, Nat.mod_eq_of_lt (by omega), Nat.zero_add]
      exact whole
    · have summed := Cursor.sum_spec memory ⟨buff, len, 0⟩ (Nat.zero_le _)
      rw [Cursor.value, Nat.zero_add] at summed
      rw [if_neg odd, Cursor.leadingByte, if_neg odd]
      exact summed

/-- The old sum is added with an end-around carry. -/
theorem csumPartial_eq {wsum : Nat} (small : wsum < 2 ^ 32) (memory : Memory)
    (buff len : Nat) :
    csumPartial memory buff len wsum = endAround 32 (doCsum memory buff len + wsum) := by
  have sum := doCsum_lt memory buff len
  have carry := carry_of_compare (by omega : doCsum memory buff len < 2 ^ 32) small
  unfold csumPartial endAround
  rw [← carry]
  dsimp only
  split
  · omega
  · rfl

theorem csumPartial_lt {wsum : Nat} (small : wsum < 2 ^ 32) (memory : Memory)
    (buff len : Nat) : csumPartial memory buff len wsum < 2 ^ 32 := by
  have sum := doCsum_lt memory buff len
  rw [csumPartial_eq small]
  exact endAround_lt (by omega)

theorem csumPartial_onesEq {wsum : Nat} (small : wsum < 2 ^ 32) (memory : Memory)
    (buff len : Nat) :
    OnesEq 65535 (csumPartial memory buff len wsum) (memory.loadWord buff len + wsum) := by
  rw [csumPartial_eq small]
  apply ((endAround_onesEq 32 _).of_dvd (by decide)).trans
  exact (doCsum_onesEq memory buff len).add_right wsum

/-- The sum depends on the words of the buffer only, not on where it starts. -/
theorem csumPartial_of_words {left right : Memory} {leftBuff rightBuff count : Nat}
    (same : regionWords left 4 leftBuff count = regionWords right 4 rightBuff count)
    (wsum : Nat) :
    csumPartial left leftBuff (4 * count) wsum =
      csumPartial right rightBuff (4 * count) wsum := by
  have words (memory : Memory) (buff : Nat) :
      OnesEq 65535 (doCsum memory buff (4 * count)) (regionWords memory 4 buff count).sum :=
    (doCsum_onesEq memory buff _).trans
      (loadWord_regionWords memory (radix_modEq_one (by decide)) buff count)
  have joined := (words left leftBuff).trans (same ▸ (words right rightBuff).symm)
  have sums : doCsum left leftBuff (4 * count) = doCsum right rightBuff (4 * count) :=
    joined.eq_of_le (Nat.le_of_lt_succ (doCsum_lt _ _ _)) (Nat.le_of_lt_succ (doCsum_lt _ _ _))
  unfold csumPartial
  rw [sums]

/-! ## What the second routine computes -/

/-- One chain of 64-bit additions. -/
theorem addChain_words {sum : Nat} {words : List Nat} (sumSmall : sum < 2 ^ 64)
    (small : ∀ word ∈ words, word < 2 ^ 64) :
    OnesEq 65535 (addChain 64 sum words) (sum + words.sum) :=
  (addChain_onesEq sumSmall small).of_dvd (by decide)

theorem addChain_region {sum : Nat} (sumSmall : sum < 2 ^ 64) (memory : Memory)
    (address count : Nat) :
    OnesEq 65535 (addChain 64 sum (regionWords memory 8 address count))
      (sum + memory.loadWord address (8 * count)) := by
  have region := loadWord_regionWords memory (radix_modEq_one (by decide : 8 % 2 = 0))
    address count
  have words : ∀ word ∈ regionWords memory 8 address count, word < 2 ^ 64 := by
    intro word member
    exact regionWords_lt member
  have chained := addChain_words sumSmall words
  exact chained.trans (region.symm.add_left sum)

theorem updateCsum40b_lt (memory : Memory) (sum m : Nat) :
    updateCsum40b memory sum m < 2 ^ 64 :=
  addChain_lt _ _

theorem updateCsum40b_onesEq {sum : Nat} (small : sum < 2 ^ 64) (memory : Memory) (m : Nat) :
    OnesEq 65535 (updateCsum40b memory sum m) (sum + memory.loadWord m 40) :=
  addChain_region small memory m 5

/-- The two accumulators share the blocks between them. -/
theorem sumBlocks_spec {first second : Nat} (memory : Memory) (count buff : Nat)
    (firstSmall : first < 2 ^ 64) (secondSmall : second < 2 ^ 64) :
    (sumBlocks memory count buff first second).1 < 2 ^ 64 ∧
      (sumBlocks memory count buff first second).2 < 2 ^ 64 ∧
      OnesEq 65535
        ((sumBlocks memory count buff first second).1 +
          (sumBlocks memory count buff first second).2)
        (first + second + memory.loadWord buff (80 * count)) := by
  induction count generalizing buff first second with
  | zero => exact ⟨firstSmall, secondSmall, OnesEq.refl _ _⟩
  | succ count inductionHypothesis =>
      have later := inductionHypothesis (buff + 80) (updateCsum40b_lt memory first buff)
        (updateCsum40b_lt memory second (buff + 40))
      have now := (updateCsum40b_onesEq firstSmall memory buff).add
        (updateCsum40b_onesEq secondSmall memory (buff + 40))
      have block := loadWord_cut memory (by decide : 40 % 2 = 0) buff 40
      have cut := loadWord_cut memory (by decide : 80 % 2 = 0) buff (80 * count)
      rw [Nat.mul_succ, Nat.add_comm _ 80, sumBlocks]
      refine ⟨later.1, later.2.1, later.2.2.trans ?_⟩
      apply (now.add_right _).trans
      have regroup : first + memory.loadWord buff 40 + (second + memory.loadWord (buff + 40) 40) =
          first + second + (memory.loadWord buff 40 + memory.loadWord (buff + 40) 40) := by
        omega
      rw [regroup, Nat.add_assoc (first + second)]
      exact ((block.symm.add_right _).trans cut.symm).add_left _

namespace Accumulator

variable (memory : Memory)

/-- The value of an accumulator: what it has summed and the bytes it has left. -/
def value (state : Accumulator) (left : Nat) : Nat :=
  state.temp64 + memory.loadWord state.buff left

theorem blocks_spec {state : Accumulator} (small : state.temp64 < 2 ^ 64) :
    (state.blocks memory).temp64 < 2 ^ 64 ∧ (state.blocks memory).len < 80 ∧
      OnesEq 65535 ((state.blocks memory).value memory (state.blocks memory).len)
        (state.value memory state.len) := by
  unfold blocks
  split
  · have summed := sumBlocks_spec memory (state.len / 80) state.buff small
      (by decide : 0 < 2 ^ 64)
    have cut := loadWord_cut memory (by omega : 80 * (state.len / 80) % 2 = 0) state.buff
      (state.len % 80)
    have joined := addChain_words summed.1 (List.forall_mem_singleton.mpr summed.2.1)
    rw [List.sum_singleton] at joined
    rw [Nat.div_add_mod] at cut
    dsimp only [value]
    refine ⟨addChain_lt _ _, Nat.mod_lt _ (by decide), ?_⟩
    apply ((joined.trans summed.2.2).add_right _).trans
    rw [Nat.add_zero, Nat.add_assoc]
    exact cut.symm.add_left state.temp64
  · rename_i short
    exact ⟨small, by omega, OnesEq.refl _ _⟩

/-- A piece takes one bit of the length, and the larger ones have been taken. -/
theorem piece_spec {state : Accumulator} {size : Nat} (small : state.temp64 < 2 ^ 64)
    (words : size % 8 = 0) :
    (state.piece memory size).temp64 < 2 ^ 64 ∧
      (state.piece memory size).len = state.len ∧
      OnesEq 65535 ((state.piece memory size).value memory (state.len % size))
        (state.value memory (state.len % (size * 2))) := by
  have bits : state.len % (size * 2) = state.len % size + size * (state.len / size % 2) :=
    Nat.mod_mul
  unfold piece
  split
  · rename_i taken
    have summed := addChain_region small memory state.buff (size / 8)
    have cut := loadWord_cut memory (by omega : size % 2 = 0) state.buff (state.len % size)
    have whole : 8 * (size / 8) = size := by omega
    rw [whole] at summed
    rw [taken, Nat.mul_one, Nat.add_comm] at bits
    dsimp only [value]
    refine ⟨addChain_lt _ _, rfl, ?_⟩
    rw [bits]
    apply (summed.add_right _).trans
    rw [Nat.add_assoc]
    exact cut.symm.add_left state.temp64
  · rename_i left
    have none : state.len / size % 2 = 0 := by omega
    rw [bits, none, Nat.mul_zero, Nat.add_zero]
    exact ⟨small, rfl, OnesEq.refl _ _⟩

/-- The two shifts leave the bytes of the buffer. -/
theorem loadWord_shifted {count : Nat} (few : count ≤ 8) (buff : Nat) :
    ((memory.loadWord buff 8 <<< (64 - 8 * count)) % 2 ^ 64) >>> (64 - 8 * count) =
      memory.loadWord buff count := by
  have word := Memory.loadWord_add memory buff count (8 - count)
  have kept : memory.loadWord buff count < 256 ^ count := memory.loadWord_lt buff count
  have width : (2 : Nat) ^ 64 = 256 ^ count * 2 ^ (64 - 8 * count) := by
    rw [show (256 : Nat) = 2 ^ 8 from rfl, ← pow_mul, ← pow_add]
    congr 1
    omega
  rw [Nat.add_sub_cancel' few] at word
  rw [Nat.shiftLeft_eq, Nat.shiftRight_eq_div_pow, width, Nat.mul_mod_mul_right,
    Nat.mul_div_cancel _ (Nat.two_pow_pos _), word, Nat.add_mul_mod_self_left,
    Nat.mod_eq_of_lt kept]

theorem trail_spec {state : Accumulator} (small : state.temp64 < 2 ^ 64)
    (short : state.len < 80) :
    (state.trail memory).temp64 < 2 ^ 64 ∧
      OnesEq 65535 (state.trail memory).temp64 (state.value memory (state.len % 8)) := by
  unfold trail
  split
  · have shift : (2 ^ 32 - state.len) * 2 ^ 3 % 64 = 64 - 8 * (state.len % 8) := by omega
    have bytes := loadWord_shifted memory (by omega : state.len % 8 ≤ 8) state.buff
    have tail : memory.loadWord state.buff (state.len % 8) < 2 ^ 64 := by
      rw [← bytes]
      exact Nat.lt_of_le_of_lt (Nat.shiftRight_le _ _) (Nat.mod_lt _ (by decide))
    have joined := addChain_words small (List.forall_mem_singleton.mpr tail)
    rw [List.sum_singleton] at joined
    dsimp only
    rw [shift, bytes]
    exact ⟨addChain_lt _ _, joined⟩
  · rename_i none
    have whole : state.len % 8 = 0 := by omega
    rw [value, whole]
    exact ⟨small, OnesEq.refl _ _⟩

end Accumulator

theorem high_of_doubled {folded : Nat} (bound : folded + 1 < 2 ^ 33) :
    (folded * 2 ^ 32 + folded) % 2 ^ 64 / 2 ^ 32 = endAround 32 folded := by
  unfold endAround
  by_cases fits : folded < 2 ^ 32
  · have whole : (folded * 2 ^ 32 + folded) % 2 ^ 64 = folded * 2 ^ 32 + folded :=
      Nat.mod_eq_of_lt (by omega)
    rw [whole, Nat.mul_comm, Nat.mul_add_div (by decide), Nat.mod_eq_of_lt fits]
  · obtain ⟨low, rfl⟩ : ∃ low, folded = low + 2 ^ 32 := ⟨folded - 2 ^ 32, by omega⟩
    have small : low < 2 ^ 32 := by omega
    have wrapped : ((low + 2 ^ 32) * 2 ^ 32 + (low + 2 ^ 32)) % 2 ^ 64 =
        2 ^ 32 * (low + 1) + low := by
      have regroup : (low + 2 ^ 32) * 2 ^ 32 + (low + 2 ^ 32) =
          2 ^ 32 * (low + 1) + low + 2 ^ 64 := by
        ring
      rw [regroup, Nat.add_mod_right, Nat.mod_eq_of_lt (by omega)]
    rw [wrapped, Nat.mul_add_div (by decide), Nat.add_mod_right, Nat.add_div_right _ (by decide),
      Nat.mod_eq_of_lt small, Nat.div_eq_of_lt small, Nat.add_zero]

/-- The rotated word brings the high half down and its own carry with it. -/
theorem csumFinalizeSum_eq {temp64 : Nat} (small : temp64 < 2 ^ 64) :
    csumFinalizeSum temp64 = endAround 32 (endAround 32 temp64) := by
  have high : temp64 / 2 ^ 32 < 2 ^ 32 := by omega
  have rotated : ror64 temp64 32 = temp64 % 2 ^ 32 * 2 ^ 32 + temp64 / 2 ^ 32 := by
    have left : temp64 <<< 32 % 2 ^ 64 = temp64 % 2 ^ 32 * 2 ^ 32 := by
      rw [Nat.shiftLeft_eq, ← Nat.mul_mod_mul_right, ← pow_add]
    have shifts : 32 % 64 = 32 ∧ (2 ^ 32 - 32) % 64 = 32 := by decide
    rw [ror64, shifts.1, shifts.2, left, Nat.shiftRight_eq_div_pow, Nat.or_comm,
      ← Nat.shiftLeft_eq, ← Nat.shiftLeft_add_eq_or_of_lt high, Nat.shiftLeft_eq]
  -- Both halves of the sum are the folded word.
  have both : temp64 + (temp64 % 2 ^ 32 * 2 ^ 32 + temp64 / 2 ^ 32) =
      endAround 32 temp64 * 2 ^ 32 + endAround 32 temp64 := by
    unfold endAround
    omega
  have bound : endAround 32 temp64 + 1 < 2 ^ 33 := by
    unfold endAround
    omega
  rw [csumFinalizeSum, rotated, both, Nat.shiftRight_eq_div_pow, high_of_doubled bound]

theorem csumFinalizeSum_spec {temp64 : Nat} (small : temp64 < 2 ^ 64) :
    csumFinalizeSum temp64 < 2 ^ 32 ∧ OnesEq 65535 (csumFinalizeSum temp64) temp64 := by
  have once : endAround 32 temp64 + 1 < 2 ^ 32 + 2 ^ 32 := by
    unfold endAround
    omega
  have folded := (endAround_onesEq 32 (endAround 32 temp64)).trans (endAround_onesEq 32 temp64)
  rw [csumFinalizeSum_eq small]
  exact ⟨endAround_lt once, folded.of_dvd (by decide)⟩

theorem Accumulator.rest_spec (memory : Memory) (state : Accumulator)
    (small : state.temp64 < 2 ^ 64) (short : state.len < 64) :
    state.rest memory < 2 ^ 32 ∧
      OnesEq 65535 (state.rest memory) (state.value memory state.len) := by
  have first := piece_spec memory small (by decide : 32 % 8 = 0)
  have second := piece_spec memory first.1 (by decide : 16 % 8 = 0)
  have third := piece_spec memory second.1 (by decide : 8 % 8 = 0)
  have firstValue := first.2.2
  have secondValue := second.2.2
  have thirdValue := third.2.2
  rw [Nat.mod_eq_of_lt short] at firstValue
  rw [first.2.1] at secondValue
  rw [second.2.1, first.2.1] at thirdValue
  have length := third.2.1.trans (second.2.1.trans first.2.1)
  have last := trail_spec memory third.1 (by omega)
  have lastValue := last.2
  rw [length] at lastValue
  have final := csumFinalizeSum_spec last.1
  constructor
  · exact final.1
  · exact final.2.trans (lastValue.trans (thirdValue.trans (secondValue.trans firstValue)))

theorem csumPartialAdc_spec {sum : Nat} (small : sum < 2 ^ 32) (memory : Memory)
    (buff len : Nat) :
    csumPartialAdc memory buff len sum < 2 ^ 32 ∧
      OnesEq 65535 (csumPartialAdc memory buff len sum) (memory.loadWord buff len + sum) := by
  have start : (⟨buff, len, sum⟩ : Accumulator).temp64 < 2 ^ 64 := by
    show sum < 2 ^ 64
    omega
  have blocks := Accumulator.blocks_spec memory start
  have total : OnesEq 65535
      ((⟨buff, len, sum⟩ : Accumulator).value memory len) (memory.loadWord buff len + sum) := by
    rw [Nat.add_comm]
    exact OnesEq.refl _ _
  unfold csumPartialAdc
  dsimp only
  generalize (⟨buff, len, sum⟩ : Accumulator).blocks memory = state at blocks
  have value := blocks.2.2.trans total
  split
  · rename_i long
    have cut := loadWord_cut memory (by decide : 40 % 2 = 0) state.buff (state.len - 40)
    rw [Nat.add_sub_cancel' long] at cut
    have updated := (updateCsum40b_onesEq blocks.1 memory state.buff).add_right
      (memory.loadWord (state.buff + 40) (state.len - 40))
    rw [Nat.add_assoc] at updated
    have taken := updated.trans ((cut.symm.add_left state.temp64).trans value)
    have bounded := updateCsum40b_lt memory state.temp64 state.buff
    split
    · rename_i whole
      have final := csumFinalizeSum_spec bounded
      rw [whole, Memory.loadWord, Nat.add_zero] at taken
      exact ⟨final.1, final.2.trans taken⟩
    · have final := Accumulator.rest_spec memory
        ⟨state.buff + 40, state.len - 40, _⟩ bounded (by dsimp only; omega)
      exact ⟨final.1, final.2.trans taken⟩
  · have final := Accumulator.rest_spec memory state blocks.1 (by omega)
    exact ⟨final.1, final.2.trans value⟩

/-! ## Agreement -/

/-- Both routines fold to the sum of the buffer, which two memories that agree
on the buffer share. -/
theorem csumPartial_versions_agree {left right : Memory} {buff len sum : Nat}
    (agree : ∀ address, buff ≤ address → address < buff + len → left address = right address)
    (small : sum < 2 ^ 32) :
    from32to16 (csumPartial left buff len sum) =
      from32to16 (csumPartialAdc right buff len sum) := by
  have first := csumPartial_onesEq small left buff len
  have second := csumPartialAdc_spec small right buff len
  rw [Memory.loadWord_congr agree] at first
  have firstFolded := (from32to16_onesEq (csumPartial_lt small left buff len)).trans first
  have secondFolded := (from32to16_onesEq second.1).trans second.2
  exact (firstFolded.trans secondFolded.symm).eq_of_le
    (Nat.le_of_lt_succ (from32to16_lt _)) (Nat.le_of_lt_succ (from32to16_lt _))

/-- Seven bytes, of which the second routine reads eight. -/
theorem csumPartial_versions_agree_on_short_buffer :
    from32to16 (csumPartial (fun address => if address < 11 then 0xab else 0) 4 7 0xffffffff) =
      from32to16
        (csumPartialAdc (fun address => if address < 11 then 0xab else 0xff) 4 7 0xffffffff) := by
  apply csumPartial_versions_agree
  · intro address _ inside
    rw [if_pos inside, if_pos inside]
  · decide

end UserspaceXdp.Checksum
