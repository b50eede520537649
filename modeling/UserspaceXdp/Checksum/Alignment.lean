import UserspaceXdp.Checksum.Csum
import UserspaceXdp.Foundation.Region

/-!
Contract: `do_csum` on a buffer at any address, with every load checked.

Owns: `do_csum` over a region that ends where the buffer ends, its loop with the
comparison of the moving pointer, and the sum of the buffer's 16-bit words.

Does not own: the sum itself, which is the one of the unchecked routine.
-/

namespace UserspaceXdp.Checksum

open UserspaceXdp.Foundation
open UserspaceXdp.Foundation.OnesComplement

/-! ## The routine with checked loads -/

namespace Cursor

/-- The loop, `do { … } while (buff < end)`. -/
def sumWordsIn (region : Region) (stop : Nat) :
    Nat → Nat → Nat → Nat → Option (Nat × Nat)
  | 0, _, _, _ => none
  | fuel + 1, buff, result, carry => do
      let w ← region.loadWord buff 4
      let next := ((result + carry) % 2 ^ 32 + w) % 2 ^ 32
      let carry := if next < w then 1 else 0
      if buff + 4 < stop then sumWordsIn region stop fuel (buff + 4) next carry
      else return (next, carry)

def leadingByteIn (region : Region) (cursor : Cursor) : Option Cursor :=
  if cursor.buff % 2 = 1 then do
    let byte ← region.byte cursor.buff
    return { buff := cursor.buff + 1
             len := cursor.len - 1
             result := (cursor.result + byte.toNat * 2 ^ 8) % 2 ^ 32 }
  else some cursor

def leadingHalfIn (region : Region) (cursor : Cursor) : Option Cursor :=
  if cursor.buff / 2 % 2 = 1 then do
    let half ← region.loadWord cursor.buff 2
    return { buff := cursor.buff + 2
             len := cursor.len - 2
             result := (cursor.result + half) % 2 ^ 32 }
  else some cursor

/-- `end` is the end of the last whole word. -/
def wholeWordsIn (region : Region) (cursor : Cursor) : Option Cursor :=
  if 4 ≤ cursor.len then do
    let stop := cursor.buff + 4 * (cursor.len / 4)
    let sums ← sumWordsIn region stop cursor.len cursor.buff cursor.result 0
    return { cursor with
             buff := stop
             result := endAround 16 ((sums.1 + sums.2) % 2 ^ 32) }
  else some cursor

def trailingHalfIn (region : Region) (cursor : Cursor) : Option Cursor :=
  if cursor.len / 2 % 2 = 1 then do
    let half ← region.loadWord cursor.buff 2
    return { cursor with
             buff := cursor.buff + 2
             result := (cursor.result + half) % 2 ^ 32 }
  else some cursor

def trailingByteIn (region : Region) (cursor : Cursor) : Option Cursor :=
  if cursor.len % 2 = 1 then do
    let byte ← region.byte cursor.buff
    return { cursor with result := (cursor.result + byte.toNat) % 2 ^ 32 }
  else some cursor

def halvesIn (region : Region) (cursor : Cursor) : Option Cursor :=
  if 2 ≤ cursor.len then do
    let cursor ← leadingHalfIn region cursor
    let cursor ← wholeWordsIn region cursor
    trailingHalfIn region cursor
  else some cursor

end Cursor

/-- `do_csum`, `none` if a load leaves the region. -/
def doCsumIn (region : Region) (buff len : Nat) : Option Nat :=
  if len = 0 then some 0
  else do
    let cursor ← Cursor.leadingByteIn region { buff, len, result := 0 }
    let cursor ← Cursor.halvesIn region cursor
    let cursor ← Cursor.trailingByteIn region cursor
    let result := from32to16 cursor.result
    return if buff % 2 = 1 then swapBytes result else result

/-! ## No load leaves the buffer -/

namespace Cursor

variable {region : Region} {memory : Memory}

/-- The comparison of the pointers ends the loop after the last whole word. -/
theorem sumWordsIn_eq (held : region.HeldBy memory) {count fuel buff : Nat}
    (enough : count < fuel) (inside : region.Inside buff (4 * (count + 1)))
    (result carry : Nat) :
    sumWordsIn region (buff + 4 * (count + 1)) fuel buff result carry =
      some (sumWords memory (count + 1) buff result carry) := by
  induction count generalizing fuel buff result carry with
  | zero =>
      obtain ⟨fuel, rfl⟩ := Nat.exists_eq_succ_of_ne_zero (Nat.ne_of_gt enough)
      have stops : ¬ buff + 4 < buff + 4 * (0 + 1) := by omega
      rw [sumWordsIn, held.loadWord_eq inside]
      simp only [Option.bind_eq_bind, Option.bind_some, if_neg stops]
      rfl
  | succ count inductionHypothesis =>
      obtain ⟨fuel, rfl⟩ := Nat.exists_eq_succ_of_ne_zero (Nat.ne_of_gt (by omega : 0 < fuel))
      have lower := inside.lower
      have upper := inside.upper
      have first : region.Inside buff 4 := ⟨lower, by omega⟩
      have rest : region.Inside (buff + 4) (4 * (count + 1)) := ⟨by omega, by omega⟩
      have goesOn : buff + 4 < buff + 4 * (count + 1 + 1) := by omega
      have stop : buff + 4 * (count + 1 + 1) = buff + 4 + 4 * (count + 1) := by omega
      rw [sumWordsIn, held.loadWord_eq first]
      simp only [Option.bind_eq_bind, Option.bind_some, if_pos goesOn]
      rw [stop, inductionHypothesis (by omega) rest]
      rfl

theorem leadingByteIn_eq (held : region.HeldBy memory) (cursor : Cursor)
    (nonempty : 0 < cursor.len) (inside : region.Inside cursor.buff cursor.len) :
    cursor.leadingByteIn region = some (cursor.leadingByte memory) ∧
      region.Inside (cursor.leadingByte memory).buff (cursor.leadingByte memory).len := by
  have lower := inside.lower
  have upper := inside.upper
  unfold leadingByteIn leadingByte
  split
  · rw [held.byte_eq ⟨lower, by omega⟩]
    exact ⟨rfl, by dsimp only; omega, by dsimp only; omega⟩
  · exact ⟨rfl, inside⟩

theorem leadingHalfIn_eq (held : region.HeldBy memory) (cursor : Cursor)
    (long : 2 ≤ cursor.len) (inside : region.Inside cursor.buff cursor.len) :
    cursor.leadingHalfIn region = some (cursor.leadingHalf memory) ∧
      region.Inside (cursor.leadingHalf memory).buff (cursor.leadingHalf memory).len := by
  have lower := inside.lower
  have upper := inside.upper
  unfold leadingHalfIn leadingHalf
  split
  · rw [held.loadWord_eq ⟨lower, by omega⟩]
    exact ⟨rfl, by dsimp only; omega, by dsimp only; omega⟩
  · exact ⟨rfl, inside⟩

theorem wholeWordsIn_eq (held : region.HeldBy memory) (cursor : Cursor)
    (inside : region.Inside cursor.buff cursor.len) :
    cursor.wholeWordsIn region = some (cursor.wholeWords memory) ∧
      region.Inside (cursor.wholeWords memory).buff (cursor.len % 4) := by
  have lower := inside.lower
  have upper := inside.upper
  unfold wholeWordsIn wholeWords
  split
  · obtain ⟨count, words⟩ : ∃ count, cursor.len / 4 = count + 1 :=
      ⟨cursor.len / 4 - 1, by omega⟩
    have enough : count < cursor.len := by omega
    have looped := sumWordsIn_eq held enough ⟨lower, by omega⟩ cursor.result 0
    dsimp only
    rw [words, looped]
    exact ⟨rfl, by omega, by omega⟩
  · exact ⟨rfl, lower, by omega⟩

theorem trailingHalfIn_eq (held : region.HeldBy memory) (cursor : Cursor)
    (inside : region.Inside cursor.buff (cursor.len % 4)) :
    cursor.trailingHalfIn region = some (cursor.trailingHalf memory) ∧
      region.Inside (cursor.trailingHalf memory).buff (cursor.len % 2) := by
  have lower := inside.lower
  have upper := inside.upper
  unfold trailingHalfIn trailingHalf
  split
  · rw [held.loadWord_eq ⟨lower, by omega⟩]
    exact ⟨rfl, by dsimp only; omega, by dsimp only; omega⟩
  · exact ⟨rfl, lower, by omega⟩

theorem trailingByteIn_eq (held : region.HeldBy memory) (cursor : Cursor)
    (inside : region.Inside cursor.buff (cursor.len % 2)) :
    cursor.trailingByteIn region = some (cursor.trailingByte memory) := by
  unfold trailingByteIn trailingByte
  split
  · rename_i odd
    rw [odd] at inside
    rw [held.byte_eq inside]
    rfl
  · rfl

theorem halvesIn_eq (held : region.HeldBy memory) (cursor : Cursor)
    (inside : region.Inside cursor.buff cursor.len) :
    cursor.halvesIn region = some (cursor.halves memory) ∧
      region.Inside (cursor.halves memory).buff ((cursor.halves memory).len % 2) := by
  unfold halvesIn halves
  split
  · rename_i long
    have first := leadingHalfIn_eq held cursor long inside
    have second := wholeWordsIn_eq held _ first.2
    have wordsInside := second.2
    rw [← wholeWords_len memory (cursor.leadingHalf memory)] at wordsInside
    have third := trailingHalfIn_eq held _ wordsInside
    rw [trailingHalf_len, first.1, Option.bind_eq_bind, Option.bind_some, second.1,
      Option.bind_some]
    exact third
  · rename_i short
    have upper := inside.upper
    exact ⟨rfl, inside.lower, by omega⟩

end Cursor

/-- With the region of the buffer no check fails. -/
theorem doCsumIn_eq {region : Region} {memory : Memory} (held : region.HeldBy memory) :
    doCsumIn region region.address region.bytes.length =
      some (doCsum memory region.address region.bytes.length) := by
  unfold doCsumIn doCsum
  split
  · rfl
  · rename_i nonempty
    have inside : region.Inside region.address region.bytes.length := ⟨le_refl _, le_refl _⟩
    have first := Cursor.leadingByteIn_eq held ⟨region.address, region.bytes.length, 0⟩
      (Nat.pos_of_ne_zero nonempty) inside
    have second := Cursor.halvesIn_eq held _ first.2
    have third := Cursor.trailingByteIn_eq held _ second.2
    simp only [first.1, second.1, third, Option.bind_eq_bind, Option.bind_some]
    rfl

/-! ## The sum of the 16-bit words -/

/-- The little-endian 16-bit words of a buffer, an odd last byte padded with a
zero. -/
def halfwordSum : List UInt8 → Nat
  | [] => 0
  | [last] => last.toNat
  | low :: high :: rest => low.toNat + 256 * high.toNat + halfwordSum rest

theorem halfwordSum_eq_zero_iff (bytes : List UInt8) :
    halfwordSum bytes = 0 ↔ ∀ byte ∈ bytes, byte = 0 := by
  have zero (byte : UInt8) : byte.toNat = 0 ↔ byte = 0 := by
    rw [← UInt8.toNat_inj]
    rfl
  induction bytes using halfwordSum.induct with
  | case1 => simp [halfwordSum]
  | case2 last => simp [halfwordSum, zero]
  | case3 low high rest inductionHypothesis =>
      simp [halfwordSum, zero, inductionHypothesis, and_assoc]

/-- Modulo 65535 a region is the sum of its 16-bit words. -/
theorem loadWord_halfwordSum (memory : Memory) (address length : Nat) :
    OnesEq 65535 (memory.loadWord address length)
      (halfwordSum (memory.bytes address length)) := by
  induction length using Nat.twoStepInduction generalizing address with
  | zero => exact OnesEq.refl _ _
  | one =>
      rw [loadWord_byte]
      exact OnesEq.refl _ _
  | more length inductionHypothesis _ =>
      have cut := loadWord_cut memory (by decide : 2 % 2 = 0) address length
      have first : memory.loadWord address 2 =
          (memory address).toNat + 256 * (memory (address + 1)).toNat := by
        simp [Memory.loadWord]
      have bytes : memory.bytes address (length + 2) =
          memory address :: memory (address + 1) :: memory.bytes (address + 2) length := by
        rw [Memory.bytes_succ, Memory.bytes_succ]
      rw [bytes, halfwordSum, ← first, Nat.add_comm length]
      exact cut.trans ((inductionHypothesis (address + 2)).add_left _)

/-- `do_csum` loads inside the buffer only, wherever the buffer lies, and its
result is the sum of the buffer's 16-bit words in one of their two zeros. -/
theorem doCsum_at_any_alignment (bytes : List UInt8) :
    ∃ r, (∀ address, doCsumIn ⟨address, bytes⟩ address bytes.length = some r) ∧
      (∀ memory : Memory, ∀ address, memory.bytes address bytes.length = bytes →
        doCsum memory address bytes.length = r) ∧
      r ≤ 0xffff ∧ r ≡ halfwordSum bytes [MOD 65535] ∧
      (r = 0 ↔ ∀ byte ∈ bytes, byte = 0) := by
  have summed (memory : Memory) (address : Nat)
      (held : memory.bytes address bytes.length = bytes) :
      OnesEq 65535 (doCsum memory address bytes.length) (halfwordSum bytes) := by
    have words := loadWord_halfwordSum memory address bytes.length
    rw [held] at words
    exact (doCsum_onesEq memory address _).trans words
  -- The sum has one representation in 16 bits, so every place gives the same one.
  have agree {left right : Memory} {leftAddress rightAddress : Nat}
      (leftHeld : left.bytes leftAddress bytes.length = bytes)
      (rightHeld : right.bytes rightAddress bytes.length = bytes) :
      doCsum left leftAddress bytes.length = doCsum right rightAddress bytes.length :=
    ((summed left leftAddress leftHeld).trans (summed right rightAddress rightHeld).symm).eq_of_le
      (Nat.le_of_lt_succ (doCsum_lt _ _ _)) (Nat.le_of_lt_succ (doCsum_lt _ _ _))
  have here := Region.heldBy_toMemory ⟨0, bytes⟩
  have sum := summed (Region.toMemory ⟨0, bytes⟩) 0 here
  refine ⟨doCsum (Region.toMemory ⟨0, bytes⟩) 0 bytes.length, ?_, ?_, ?_, sum.congruent, ?_⟩
  · intro address
    have there := Region.heldBy_toMemory ⟨address, bytes⟩
    exact (doCsumIn_eq there).trans (congrArg some (agree there here))
  · intro memory address held
    exact agree held here
  · exact Nat.le_of_lt_succ (doCsum_lt _ _ _)
  · rw [sum.zero_iff, halfwordSum_eq_zero_iff]

end UserspaceXdp.Checksum
