import UserspaceXdp.Foundation.OnesComplement

/-!
Contract: what a computation on memory depends on.

Owns: agreement of two memories on a set of addresses, the loads that cannot tell
the two apart, and how a store that is made to both enlarges the set.

Does not own: which addresses a program may read.
-/

namespace UserspaceXdp.Foundation

/-- The two memories hold the same bytes at these addresses. -/
def AgreeOn (within : Nat → Prop) (left right : Memory) : Prop :=
  ∀ candidate, within candidate → left candidate = right candidate

/-- The addresses from `lower` up to `upper`. -/
def Between (lower upper candidate : Nat) : Prop :=
  lower ≤ candidate ∧ candidate < upper

namespace AgreeOn

variable {within wider : Nat → Prop} {left right : Memory} {address width count : Nat}

theorem mono (agree : AgreeOn wider left right) (sub : ∀ candidate, within candidate →
    wider candidate) : AgreeOn within left right :=
  fun candidate inside => agree candidate (sub candidate inside)

/-! ## Loads -/

theorem loadWord (agree : AgreeOn within left right)
    (inside : ∀ candidate, Between address (address + width) candidate → within candidate) :
    left.loadWord address width = right.loadWord address width :=
  Memory.loadWord_congr fun candidate lower upper =>
    agree candidate (inside candidate ⟨lower, upper⟩)

theorem regionWords (agree : AgreeOn within left right)
    (inside : ∀ candidate, Between address (address + width * count) candidate →
      within candidate) :
    OnesComplement.regionWords left width address count =
      OnesComplement.regionWords right width address count :=
  OnesComplement.regionWords_congr fun candidate lower upper =>
    agree candidate (inside candidate ⟨lower, upper⟩)

section Interval

variable {lower upper : Nat} (agree : AgreeOn (Between lower upper) left right)

include agree

theorem byte (address : Nat) (start : lower ≤ address) (stop : address < upper) :
    left address = right address :=
  agree address ⟨start, stop⟩

theorem word (address width : Nat) (start : lower ≤ address) (stop : address + width ≤ upper) :
    left.loadWord address width = right.loadWord address width :=
  agree.loadWord fun _ inside => ⟨Nat.le_trans start inside.1, Nat.lt_of_lt_of_le inside.2 stop⟩

theorem words (address count : Nat) (start : lower ≤ address)
    (stop : address + width * count ≤ upper) :
    OnesComplement.regionWords left width address count =
      OnesComplement.regionWords right width address count :=
  agree.regionWords fun _ inside =>
    ⟨Nat.le_trans start inside.1, Nat.lt_of_lt_of_le inside.2 stop⟩

end Interval

/-! ## Stores -/

/-- A store to both memories keeps them in agreement, and makes them agree where
it writes. -/
theorem store (agree : AgreeOn within left right) (address : Nat) (byte : UInt8) :
    AgreeOn (fun candidate => within candidate ∨ candidate = address)
      (left.store address byte) (right.store address byte) := by
  intro candidate inside
  by_cases same : candidate = address
  · rw [same, Memory.store_same, Memory.store_same]
  · rw [Memory.store_other _ same, Memory.store_other _ same]
    exact agree candidate (inside.resolve_right same)

theorem storeWord (agree : AgreeOn within left right) (address value width : Nat) :
    AgreeOn (fun candidate => within candidate ∨ Between address (address + width) candidate)
      (left.storeWord address value width) (right.storeWord address value width) := by
  intro candidate inside
  by_cases written : Between address (address + width) candidate
  · obtain ⟨index, rfl⟩ := Nat.exists_eq_add_of_le written.1
    have below : index < width := by
      have upper := written.2
      omega
    rw [Memory.storeWord_inside _ _ _ below, Memory.storeWord_inside _ _ _ below]
  · have outside : candidate < address ∨ address + width ≤ candidate := by
      unfold Between at written
      omega
    rw [Memory.storeWord_other _ outside, Memory.storeWord_other _ outside]
    exact agree candidate (inside.resolve_right written)

theorem copyFrom (agree : AgreeOn within left right) (target : Nat)
    {leftSource rightSource : Nat → UInt8}
    (sources : ∀ index < count, leftSource index = rightSource index) :
    AgreeOn (fun candidate => within candidate ∨ Between target (target + count) candidate)
      (left.copyFrom target leftSource count) (right.copyFrom target rightSource count) := by
  intro candidate inside
  by_cases written : Between target (target + count) candidate
  · obtain ⟨index, rfl⟩ := Nat.exists_eq_add_of_le written.1
    have below : index < count := by
      have upper := written.2
      omega
    rw [Memory.copyFrom_inside _ _ _ below, Memory.copyFrom_inside _ _ _ below]
    exact sources index below
  · have outside : candidate < target ∨ target + count ≤ candidate := by
      unfold Between at written
      omega
    rw [Memory.copyFrom_other _ outside, Memory.copyFrom_other _ outside]
    exact agree candidate (inside.resolve_right written)

/-! ## Stores of one value

The two memories stay in agreement where they were. -/

theorem store_same (agree : AgreeOn within left right) (address : Nat) {byte other : UInt8}
    (same : byte = other) :
    AgreeOn within (left.store address byte) (right.store address other) := by
  rw [← same]
  exact (agree.store address byte).mono fun _ => Or.inl

theorem storeWord_same (agree : AgreeOn within left right) (address width : Nat)
    {value other : Nat} (same : value = other) :
    AgreeOn within (left.storeWord address value width) (right.storeWord address other width) := by
  rw [← same]
  exact (agree.storeWord address value width).mono fun _ => Or.inl

theorem copyFrom_same (agree : AgreeOn within left right) (target : Nat)
    {leftSource rightSource : Nat → UInt8}
    (sources : ∀ index < count, leftSource index = rightSource index) :
    AgreeOn within (left.copyFrom target leftSource count)
      (right.copyFrom target rightSource count) :=
  (agree.copyFrom target sources).mono fun _ => Or.inl

end AgreeOn

end UserspaceXdp.Foundation
