import UserspaceXdp.Foundation.Memory

/-!
Contract: a region of memory whose bounds every load checks.

Owns: the byte and the little-endian word at an address, `none` outside the
region, and their agreement with the loads of any memory that holds the region.

Does not own: stores, or who reads the region.
-/

namespace UserspaceXdp.Foundation

/-- A list of bytes and where the first of them lies. -/
structure Region where
  address : Nat
  bytes : List UInt8

namespace Region

/-- The byte at an address, `none` outside the region. -/
def byte (region : Region) (candidate : Nat) : Option UInt8 :=
  if region.address ≤ candidate then region.bytes[candidate - region.address]? else none

/-- The little-endian value of `width` bytes, `none` if one of them is outside. -/
def loadWord (region : Region) (candidate : Nat) : Nat → Option Nat
  | 0 => some 0
  | width + 1 => do
      let low ← region.byte candidate
      let high ← loadWord region (candidate + 1) width
      return low.toNat + 256 * high

/-- The `width` bytes from an address on belong to the region. -/
structure Inside (region : Region) (candidate width : Nat) : Prop where
  lower : region.address ≤ candidate
  upper : candidate + width ≤ region.address + region.bytes.length

/-- The memory has the bytes of the region where the region lies. -/
def HeldBy (region : Region) (memory : Memory) : Prop :=
  memory.bytes region.address region.bytes.length = region.bytes

/-- A memory that holds the region and is zero elsewhere. -/
def toMemory (region : Region) : Memory :=
  fun candidate => (region.byte candidate).getD 0

variable {region : Region} {memory : Memory} {candidate width : Nat}

theorem heldBy_toMemory (region : Region) : region.HeldBy region.toMemory := by
  apply List.ext_getElem
  · exact Memory.length_bytes _ _ _
  · intro index _ below
    simp [Memory.bytes, toMemory, byte, below]

theorem HeldBy.byte_eq (held : region.HeldBy memory) (inside : region.Inside candidate 1) :
    region.byte candidate = some (memory candidate) := by
  obtain ⟨index, rfl⟩ := Nat.exists_eq_add_of_le inside.lower
  have below : index < region.bytes.length := by
    have upper := inside.upper
    omega
  have read := congrArg (fun bytes => bytes[index]?) held
  simp only [Memory.bytes, List.getElem?_map, List.getElem?_range below, Option.map_some] at read
  rw [byte, if_pos inside.lower, Nat.add_sub_cancel_left, ← read]

/-- A load inside the region reads what the memory has there. -/
theorem HeldBy.loadWord_eq (held : region.HeldBy memory)
    (inside : region.Inside candidate width) :
    region.loadWord candidate width = some (memory.loadWord candidate width) := by
  induction width generalizing candidate with
  | zero => rfl
  | succ width inductionHypothesis =>
      have lower := inside.lower
      have upper := inside.upper
      have first : region.Inside candidate 1 := ⟨lower, by omega⟩
      have rest : region.Inside (candidate + 1) width := ⟨by omega, by omega⟩
      rw [loadWord, held.byte_eq first, inductionHypothesis rest]
      rfl

end Region

end UserspaceXdp.Foundation
