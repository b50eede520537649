import Mathlib.Tactic

/-!
Contract: cyclic linear probing over arbitrary keys and values.

A table is a function from slots to optional entries; a key is looked for from
its home slot on, one slot after the other, wrapping at the table's size.

Owns: probe positions, the chain invariant (no empty slot and no second copy
of a key between its home and its slot), what a probe finds under it, how
filling the first stopping slot preserves it, and the exact condition under
which emptying a slot does.

Does not own: how slots are laid out in memory or how the probe loop is
written.
-/

namespace UserspaceXdp.Foundation.LinearProbing

variable {Key Value : Type}

/-- Slot number `distance` on the probe path of a key. -/
def position (size : Nat) (home : Key → Nat) (key : Key) (distance : Nat) : Nat :=
  (home key + distance) % size

theorem position_lt {size : Nat} (positive : 0 < size) (home : Key → Nat) (key : Key)
    (distance : Nat) : position size home key distance < size :=
  Nat.mod_lt _ positive

/-- Within one turn a probe path meets no slot twice. -/
theorem position_injective {size : Nat} {home : Key → Nat} {key : Key}
    {left right : Nat} (leftBelow : left < size) (rightBelow : right < size)
    (same : position size home key left = position size home key right) :
    left = right := by
  have congruent : left ≡ right [MOD size] := Nat.ModEq.add_left_cancel' (home key) same
  exact Nat.ModEq.eq_of_lt_of_lt congruent leftBelow rightBelow

/-- Within one turn a probe path meets every slot. -/
theorem exists_position {size slot : Nat} (home : Key → Nat) (key : Key)
    (below : slot < size) :
    ∃ distance < size, position size home key distance = slot := by
  have positive : 0 < size := by omega
  have homeBelow : home key % size < size := Nat.mod_lt _ positive
  refine ⟨(slot + (size - home key % size)) % size, Nat.mod_lt _ positive, ?_⟩
  have split : home key = size * (home key / size) + home key % size :=
    (Nat.div_add_mod _ _).symm
  have turn : home key + (slot + (size - home key % size)) =
      slot + size * (home key / size + 1) := by
    rw [Nat.mul_add]
    omega
  rw [position, Nat.add_mod_mod, turn, Nat.add_mul_mod_self_left, Nat.mod_eq_of_lt below]

/-! ## The chain invariant -/

/-- Between the home slot of a stored key and the slot that holds it, every
slot is filled with another key. -/
def Chained (size : Nat) (home : Key → Nat) (table : Nat → Option (Key × Value)) : Prop :=
  ∀ key value distance, distance < size →
    table (position size home key distance) = some (key, value) →
      ∀ earlier < distance, ∃ other otherValue,
        table (position size home key earlier) = some (other, otherValue) ∧ other ≠ key

/-- The table holds `value` under `key` in one of its slots. -/
def Stored (size : Nat) (table : Nat → Option (Key × Value)) (key : Key) (value : Value) :
    Prop :=
  ∃ slot < size, table slot = some (key, value)

/-- A probe for `key` stops at a slot that is empty or holds the key. -/
def StopsAt (table : Nat → Option (Key × Value)) (key : Key) (slot : Nat) : Prop :=
  ∀ other value, table slot = some (other, value) → other = key

/-- The probe for `key` stops at `distance` and not before. -/
structure FirstStop (size : Nat) (home : Key → Nat) (table : Nat → Option (Key × Value))
    (key : Key) (distance : Nat) : Prop where
  below : distance < size
  stops : StopsAt table key (position size home key distance)
  silent : ∀ earlier < distance, ¬ StopsAt table key (position size home key earlier)

theorem not_stopsAt {table : Nat → Option (Key × Value)} {key : Key} {slot : Nat} :
    ¬ StopsAt table key slot ↔
      ∃ other value, table slot = some (other, value) ∧ other ≠ key := by
  simp only [StopsAt, not_forall]
  constructor
  · rintro ⟨other, value, held, different⟩
    exact ⟨other, value, held, different⟩
  · rintro ⟨other, value, held, different⟩
    exact ⟨other, value, held, different⟩

/-- A probe either stops within one turn or meets only other keys. -/
theorem firstStop_or_full (size : Nat) (home : Key → Nat)
    (table : Nat → Option (Key × Value)) (key : Key) :
    (∃ distance, FirstStop size home table key distance) ∨
      ∀ distance < size, ¬ StopsAt table key (position size home key distance) := by
  classical
  by_cases stop : ∃ distance, distance < size ∧
      StopsAt table key (position size home key distance)
  · refine Or.inl ⟨Nat.find stop, (Nat.find_spec stop).1, (Nat.find_spec stop).2, ?_⟩
    intro earlier before stopsEarlier
    exact Nat.find_min stop before
      ⟨lt_trans before (Nat.find_spec stop).1, stopsEarlier⟩
  · refine Or.inr fun distance below stops => stop ⟨distance, below, stops⟩

section Invariant

variable {size : Nat} {home : Key → Nat} {table : Nat → Option (Key × Value)}

theorem Chained.empty : Chained size home (fun _ => (none : Option (Key × Value))) := by
  intro key value distance _ held
  cases held

/-- A stored key is where its probe stops. -/
theorem Chained.firstStop_of_held (chained : Chained size home table)
    {key : Key} {value : Value} {distance : Nat} (below : distance < size)
    (held : table (position size home key distance) = some (key, value)) :
    FirstStop size home table key distance where
  below := below
  stops := by
    intro other otherValue same
    rw [held] at same
    exact (Prod.mk.inj (Option.some.inj same)).1.symm
  silent := by
    intro earlier before
    exact not_stopsAt.mpr (chained key value distance below held earlier before)

/-- The stop of a probe is unique. -/
theorem FirstStop.unique {key : Key} {left right : Nat}
    (leftStop : FirstStop size home table key left)
    (rightStop : FirstStop size home table key right) : left = right := by
  rcases Nat.lt_trichotomy left right with before | same | after
  · exact absurd leftStop.stops (rightStop.silent left before)
  · exact same
  · exact absurd rightStop.stops (leftStop.silent right after)

/-- A key filled in at its first stop is stopped at there, chains or no chains. -/
theorem FirstStop.fill {key : Key} {distance : Nat}
    (stop : FirstStop size home table key distance) (value : Value) :
    FirstStop size home
      (Function.update table (position size home key distance) (some (key, value))) key
      distance where
  below := stop.below
  stops := by
    intro other otherValue held
    rw [Function.update_self] at held
    exact (Prod.mk.inj (Option.some.inj held)).1.symm
  silent := by
    intro earlier before
    have apart : position size home key earlier ≠ position size home key distance := by
      intro same
      have equal := position_injective (lt_trans before stop.below) stop.below same
      omega
    have silent := stop.silent earlier before
    rw [not_stopsAt] at silent ⊢
    rw [Function.update_of_ne apart]
    exact silent

/-- What the first stop holds is all the table has under the key. -/
theorem Chained.stored_iff (chained : Chained size home table) {key : Key}
    {distance : Nat} (stop : FirstStop size home table key distance) (value : Value) :
    Stored size table key value ↔
      table (position size home key distance) = some (key, value) := by
  constructor
  · rintro ⟨slot, below, held⟩
    obtain ⟨other, otherBelow, rfl⟩ := exists_position home key below
    rw [stop.unique (chained.firstStop_of_held otherBelow held)]
    exact held
  · intro held
    exact ⟨_, position_lt (by have := stop.below; omega) _ _ _, held⟩

/-- A probe that never stops looks for a key the table does not have. -/
theorem not_stored_of_full {key : Key}
    (full : ∀ distance < size, ¬ StopsAt table key (position size home key distance))
    (value : Value) : ¬ Stored size table key value := by
  rintro ⟨slot, below, held⟩
  obtain ⟨distance, distanceBelow, rfl⟩ := exists_position home key below
  obtain ⟨other, otherValue, same, different⟩ := not_stopsAt.mp (full distance distanceBelow)
  rw [held] at same
  exact different (Prod.mk.inj (Option.some.inj same)).1.symm

/-- No key is stored in two slots. -/
theorem Chained.slot_unique (chained : Chained size home table)
    {key : Key} {leftValue rightValue : Value} {left right : Nat}
    (leftBelow : left < size) (rightBelow : right < size)
    (leftHeld : table left = some (key, leftValue))
    (rightHeld : table right = some (key, rightValue)) : left = right := by
  obtain ⟨leftDistance, leftDistanceBelow, rfl⟩ := exists_position home key leftBelow
  obtain ⟨rightDistance, rightDistanceBelow, rfl⟩ := exists_position home key rightBelow
  rw [(chained.firstStop_of_held leftDistanceBelow leftHeld).unique
    (chained.firstStop_of_held rightDistanceBelow rightHeld)]

end Invariant

/-! ## Filling the first stopping slot -/

section Fill

variable {size : Nat} {home : Key → Nat} {table : Nat → Option (Key × Value)}
  {key : Key} {distance : Nat}

/-- Filling the slot where the probe of its key stops preserves the chains. -/
theorem Chained.fill (chained : Chained size home table)
    (stop : FirstStop size home table key distance) (value : Value) :
    Chained size home
      (Function.update table (position size home key distance) (some (key, value))) := by
  intro other otherValue otherDistance otherBelow held earlier before
  by_cases same : other = key
  · subst same
    -- The only slot that can hold the key now is the one just filled.
    have atStop : otherDistance = distance := by
      by_contra different
      have apart : position size home other otherDistance ≠ position size home other distance :=
        fun equal => different (position_injective otherBelow stop.below equal)
      rw [Function.update_of_ne apart] at held
      exact different ((chained.firstStop_of_held otherBelow held).unique stop)
    subst atStop
    have apart : position size home other earlier ≠ position size home other otherDistance :=
      fun equal => Nat.ne_of_lt before
        (position_injective (lt_trans before otherBelow) otherBelow equal)
    rw [Function.update_of_ne apart]
    exact not_stopsAt.mp (stop.silent earlier before)
  · have apart : position size home other otherDistance ≠ position size home key distance := by
      intro equal
      rw [equal, Function.update_self] at held
      exact same (Prod.mk.inj (Option.some.inj held)).1.symm
    rw [Function.update_of_ne apart] at held
    by_cases atStop : position size home other earlier = position size home key distance
    · exact ⟨key, value, by rw [atStop, Function.update_self], fun equal => same equal.symm⟩
    · rw [Function.update_of_ne atStop]
      exact chained other otherValue otherDistance otherBelow held earlier before

/-- The filled table has the new value under the key. -/
theorem stored_fill_self (stop : FirstStop size home table key distance)
    (chained : Chained size home table) (value candidate : Value) :
    Stored size
        (Function.update table (position size home key distance) (some (key, value)))
        key candidate ↔ candidate = value := by
  have held : Function.update table (position size home key distance) (some (key, value))
      (position size home key distance) = some (key, value) := Function.update_self ..
  rw [(chained.fill stop value).stored_iff
    ((chained.fill stop value).firstStop_of_held stop.below held), held]
  constructor
  · intro equal
    exact (Prod.mk.inj (Option.some.inj equal)).2.symm
  · rintro rfl
    rfl

/-- Filling the stopping slot of a key leaves every other key alone. -/
theorem stored_fill_other (stop : FirstStop size home table key distance)
    {other : Key} (different : other ≠ key) (value candidate : Value) :
    Stored size
        (Function.update table (position size home key distance) (some (key, value)))
        other candidate ↔ Stored size table other candidate := by
  constructor
  · rintro ⟨slot, below, held⟩
    have apart : slot ≠ position size home key distance := by
      rintro rfl
      rw [Function.update_self] at held
      exact different (Prod.mk.inj (Option.some.inj held)).1.symm
    rw [Function.update_of_ne apart] at held
    exact ⟨slot, below, held⟩
  · rintro ⟨slot, below, held⟩
    refine ⟨slot, below, ?_⟩
    have apart : slot ≠ position size home key distance := by
      rintro rfl
      exact different (stop.stops _ _ held)
    rw [Function.update_of_ne apart]
    exact held

end Fill

/-! ## Emptying a slot -/

/-- Some stored key's probe path runs through `slot` before it reaches the
slot that holds the key. -/
def Crossed (size : Nat) (home : Key → Nat) (table : Nat → Option (Key × Value))
    (slot : Nat) : Prop :=
  ∃ key value distance earlier, earlier < distance ∧ distance < size ∧
    table (position size home key distance) = some (key, value) ∧
    position size home key earlier = slot

section Empty

variable {size : Nat} {home : Key → Nat} {table : Nat → Option (Key × Value)} {slot : Nat}

/-- Emptying a slot keeps the chains exactly when no path crosses it. -/
theorem Chained.empty_iff (chained : Chained size home table) :
    Chained size home (Function.update table slot none) ↔ ¬ Crossed size home table slot := by
  constructor
  · rintro kept ⟨key, value, distance, earlier, before, below, held, crosses⟩
    have apart : position size home key distance ≠ slot := by
      rintro rfl
      exact Nat.ne_of_lt before (position_injective (lt_trans before below) below crosses)
    obtain ⟨other, otherValue, filled, _⟩ := kept key value distance below
      (by rw [Function.update_of_ne apart]; exact held) earlier before
    rw [crosses, Function.update_self] at filled
    cases filled
  · intro free key value distance below held earlier before
    have apart : position size home key distance ≠ slot := by
      rintro rfl
      rw [Function.update_self] at held
      cases held
    rw [Function.update_of_ne apart] at held
    have missed : position size home key earlier ≠ slot := fun crosses =>
      free ⟨key, value, distance, earlier, before, below, held, crosses⟩
    rw [Function.update_of_ne missed]
    exact chained key value distance below held earlier before

/-- Emptying the slot of a key forgets that key. -/
theorem Chained.not_stored_empty (chained : Chained size home table) (below : slot < size)
    {key : Key} {value : Value} (held : table slot = some (key, value)) (candidate : Value) :
    ¬ Stored size (Function.update table slot none) key candidate := by
  rintro ⟨other, otherBelow, otherHeld⟩
  by_cases same : other = slot
  · rw [same, Function.update_self] at otherHeld
    cases otherHeld
  · rw [Function.update_of_ne same] at otherHeld
    exact same (chained.slot_unique otherBelow below otherHeld held)

/-- Emptying the slot of a key leaves the entries of every other key in place. -/
theorem stored_empty_other {key : Key} {value : Value} (held : table slot = some (key, value))
    {other : Key} (different : other ≠ key) (candidate : Value) :
    Stored size (Function.update table slot none) other candidate ↔
      Stored size table other candidate := by
  constructor
  · rintro ⟨place, below, otherHeld⟩
    have apart : place ≠ slot := by
      rintro rfl
      rw [Function.update_self] at otherHeld
      cases otherHeld
    rw [Function.update_of_ne apart] at otherHeld
    exact ⟨place, below, otherHeld⟩
  · rintro ⟨place, below, otherHeld⟩
    refine ⟨place, below, ?_⟩
    have apart : place ≠ slot := by
      rintro rfl
      rw [held] at otherHeld
      exact different (Prod.mk.inj (Option.some.inj otherHeld)).1.symm
    rw [Function.update_of_ne apart]
    exact otherHeld

end Empty

/-! ## Counting -/

/-- The slots of the table that hold an entry. -/
def filled (size : Nat) (table : Nat → Option (Key × Value)) : Finset Nat :=
  (Finset.range size).filter fun slot => (table slot).isSome = true

theorem mem_filled {size : Nat} {table : Nat → Option (Key × Value)} {slot : Nat} :
    slot ∈ filled size table ↔ slot < size ∧ ∃ key value, table slot = some (key, value) := by
  simp only [filled, Finset.mem_filter, Finset.mem_range, Option.isSome_iff_exists,
    Prod.exists]

/-- Under the chain invariant there are as many filled slots as stored keys. -/
theorem Chained.card_filled {size : Nat} {home : Key → Nat}
    {table : Nat → Option (Key × Value)} (chained : Chained size home table)
    {keys : Finset Key} (stored : ∀ key, key ∈ keys ↔ ∃ value, Stored size table key value) :
    (filled size table).card = keys.card := by
  have entry : ∀ slot ∈ filled size table, ∃ key value, table slot = some (key, value) :=
    fun slot member => (mem_filled.mp member).2
  choose keyOf valueOf held using entry
  refine Finset.card_bij keyOf ?_ ?_ ?_
  · intro slot member
    exact (stored _).mpr ⟨_, slot, (mem_filled.mp member).1, held slot member⟩
  · intro left leftMember right rightMember same
    have leftHeld := held left leftMember
    rw [same] at leftHeld
    exact chained.slot_unique (mem_filled.mp leftMember).1 (mem_filled.mp rightMember).1
      leftHeld (held right rightMember)
  · intro key member
    obtain ⟨value, slot, below, slotHeld⟩ := (stored key).mp member
    have slotMember : slot ∈ filled size table := mem_filled.mpr ⟨below, key, value, slotHeld⟩
    refine ⟨slot, slotMember, ?_⟩
    have same := held slot slotMember
    rw [slotHeld] at same
    exact (Prod.mk.inj (Option.some.inj same)).1.symm

end UserspaceXdp.Foundation.LinearProbing
