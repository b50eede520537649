import Mathlib.Tactic

/-!
Contract: single-producer single-consumer rings with a private index.

A ring has three freely running indices: the shared producer and consumer
indices, and the private index of the side that is modelled in detail. A
producing side reserves slots with the private index, fills them, and publishes
them by moving the shared one; a consuming side peeks with the private index,
reads, and gives slots back by moving the shared one. An index is a natural
number and selects slot `index % size`.

Owns: these operations, the index orders they keep, the list of entries
between two indices, and the frame laws of a slot store.

Does not own: which of the two sides runs when, or what the entries mean.
-/

namespace UserspaceXdp.Foundation

structure SharedRing (Entry : Type) where
  size : Nat
  slots : Nat → Entry
  producer : Nat
  consumer : Nat
  cached : Nat

namespace SharedRing

variable {Entry : Type}

/-- The entry that index `index` selects. -/
def entry (ring : SharedRing Entry) (index : Nat) : Entry :=
  ring.slots (index % ring.size)

/-- Store into the slot that `index` selects. -/
def put (ring : SharedRing Entry) (index : Nat) (value : Entry) : SharedRing Entry :=
  { ring with slots := Function.update ring.slots (index % ring.size) value }

/-- The entries from index `low` up to, not including, `high`. -/
def window (ring : SharedRing Entry) (low high : Nat) : List Entry :=
  (List.range' low (high - low)).map ring.entry

/-! ## The producing side -/

/-- All or nothing: the number of slots reserved and the ring after it. -/
def reserve (ring : SharedRing Entry) (count : Nat) : Nat × SharedRing Entry :=
  if ring.cached + count ≤ ring.consumer + ring.size then
    (count, { ring with cached := ring.cached + count })
  else (0, ring)

/-- Publish `count` reserved slots. -/
def submit (ring : SharedRing Entry) (count : Nat) : SharedRing Entry :=
  { ring with producer := ring.producer + count }

/-- The other side of a producing ring consumes the oldest published entry. -/
def take (ring : SharedRing Entry) : Option (Entry × SharedRing Entry) :=
  if ring.consumer < ring.producer then
    some (ring.entry ring.consumer, { ring with consumer := ring.consumer + 1 })
  else none

/-! ## The consuming side -/

/-- Peek at most `limit` entries. The private copy of the producer index may be
behind, so the count is any number up to what the ring holds. -/
def peek (ring : SharedRing Entry) (limit seen : Nat) : Nat × SharedRing Entry :=
  let count := min (min limit seen) (ring.producer - ring.cached)
  (count, { ring with cached := ring.cached + count })

/-- Give `count` peeked slots back. -/
def release (ring : SharedRing Entry) (count : Nat) : SharedRing Entry :=
  { ring with consumer := ring.consumer + count }

/-- The other side of a consuming ring publishes one entry if there is room. -/
def offer (ring : SharedRing Entry) (value : Entry) : Option (SharedRing Entry) :=
  if ring.producer < ring.consumer + ring.size then
    some { ring.put ring.producer value with producer := ring.producer + 1 }
  else none

/-- The index order of a ring whose producing side is modelled. -/
structure Producing (ring : SharedRing Entry) : Prop where
  positive : 0 < ring.size
  published : ring.consumer ≤ ring.producer
  reserved : ring.producer ≤ ring.cached
  bounded : ring.cached ≤ ring.consumer + ring.size

/-- The index order of a ring whose consuming side is modelled. -/
structure Consuming (ring : SharedRing Entry) : Prop where
  positive : 0 < ring.size
  peeked : ring.consumer ≤ ring.cached
  available : ring.cached ≤ ring.producer
  bounded : ring.producer ≤ ring.consumer + ring.size

/-! ## Slot stores -/

@[simp] theorem put_producer (ring : SharedRing Entry) (index : Nat) (value : Entry) :
    (ring.put index value).producer = ring.producer := rfl

@[simp] theorem put_consumer (ring : SharedRing Entry) (index : Nat) (value : Entry) :
    (ring.put index value).consumer = ring.consumer := rfl

@[simp] theorem put_cached (ring : SharedRing Entry) (index : Nat) (value : Entry) :
    (ring.put index value).cached = ring.cached := rfl

@[simp] theorem entry_put_same (ring : SharedRing Entry) (index : Nat) (value : Entry) :
    (ring.put index value).entry index = value := by
  simp [entry, put]

/-- Indices less than a turn apart select different slots. -/
theorem mod_ne_of_lt {size left right : Nat} (before : left < right)
    (within : right < left + size) : left % size ≠ right % size := by
  intro same
  have divides : size ∣ right - left := (Nat.modEq_iff_dvd' before.le).mp same
  have positive : 0 < right - left := by omega
  have grow := Nat.le_of_dvd positive divides
  omega

theorem entry_put_other (ring : SharedRing Entry) {index other : Nat} {value : Entry}
    (different : index ≠ other) (after : other < index + ring.size)
    (before : index < other + ring.size) :
    (ring.put index value).entry other = ring.entry other := by
  have apart : other % ring.size ≠ index % ring.size := by
    rcases Nat.lt_or_gt_of_ne different with left | right
    · exact (mod_ne_of_lt left after).symm
    · exact mod_ne_of_lt right before
  simp [entry, put, Function.update_of_ne apart]

/-! ## Peeks and reserves -/

theorem peek_le (ring : SharedRing Entry) (limit seen : Nat) :
    (ring.peek limit seen).1 ≤ limit :=
  (Nat.min_le_left _ _).trans (Nat.min_le_left _ _)

theorem peek_ring (ring : SharedRing Entry) (limit seen : Nat) :
    (ring.peek limit seen).2 = { ring with cached := ring.cached + (ring.peek limit seen).1 } :=
  rfl

theorem peek_of_zero {ring : SharedRing Entry} {limit seen : Nat}
    (nothing : (ring.peek limit seen).1 = 0) : (ring.peek limit seen).2 = ring := by
  rw [peek_ring, nothing]
  rfl

theorem peek_available {ring : SharedRing Entry} (limit seen : Nat)
    (available : ring.cached ≤ ring.producer) :
    ring.cached + (ring.peek limit seen).1 ≤ ring.producer := by
  unfold peek
  change ring.cached + min (min limit seen) (ring.producer - ring.cached) ≤ ring.producer
  omega

theorem reserve_cases (ring : SharedRing Entry) (count : Nat) :
    (ring.cached + count ≤ ring.consumer + ring.size ∧
        ring.reserve count = (count, { ring with cached := ring.cached + count })) ∨
      (ring.consumer + ring.size < ring.cached + count ∧ ring.reserve count = (0, ring)) := by
  unfold reserve
  split
  · rename_i fits
    exact Or.inl ⟨fits, rfl⟩
  · rename_i full
    exact Or.inr ⟨by omega, rfl⟩

/-! ## Windows -/

@[simp] theorem length_window (ring : SharedRing Entry) (low high : Nat) :
    (ring.window low high).length = high - low := by
  simp [window]

@[simp] theorem window_self (ring : SharedRing Entry) (index : Nat) :
    ring.window index index = [] := by
  simp [window]

theorem window_succ (ring : SharedRing Entry) {low high : Nat} (ordered : low ≤ high) :
    ring.window low (high + 1) = ring.window low high ++ [ring.entry high] := by
  have count : high + 1 - low = (high - low) + 1 := by omega
  have last : low + (high - low) = high := by omega
  simp [window, count, List.range'_concat, last]

theorem window_cons (ring : SharedRing Entry) {low high : Nat} (ordered : low < high) :
    ring.window low high = ring.entry low :: ring.window (low + 1) high := by
  have count : high - low = (high - (low + 1)) + 1 := by omega
  simp [window, count, List.range'_succ]

theorem window_append (ring : SharedRing Entry) {low middle high : Nat} (left : low ≤ middle)
    (right : middle ≤ high) :
    ring.window low high = ring.window low middle ++ ring.window middle high := by
  induction high, right using Nat.le_induction with
  | base => simp
  | succ high ordered inductionHypothesis =>
      rw [window_succ ring (by omega), window_succ ring ordered, inductionHypothesis,
        List.append_assoc]

/-- A window whose entries are known one by one. -/
theorem window_eq_map (ring : SharedRing Entry) {low high : Nat} {value : Nat → Entry}
    (same : ∀ index, low ≤ index → index < high → ring.entry index = value index) :
    ring.window low high = (List.range' low (high - low)).map value := by
  unfold window
  apply List.map_congr_left
  intro index member
  rw [List.mem_range'_1] at member
  exact same index member.1 (by omega)

/-- Rings with the same entries on a window have the same window. -/
theorem window_congr {left right : SharedRing Entry} {low high : Nat}
    (same : ∀ index, low ≤ index → index < high → left.entry index = right.entry index) :
    left.window low high = right.window low high :=
  left.window_eq_map same

/-- A store outside a window that spans at most one turn leaves it alone. -/
theorem window_put (ring : SharedRing Entry) {index low high : Nat} {value : Entry}
    (outside : index < low ∨ high ≤ index) (below : high ≤ index + ring.size)
    (above : index < low + ring.size) :
    (ring.put index value).window low high = ring.window low high := by
  apply window_congr
  intro candidate lower upper
  exact entry_put_other ring (by omega) (by omega) (by omega)

/-! ## Index orders -/

section Orders

variable {ring : SharedRing Entry}

theorem Producing.submit (producing : ring.Producing) {count : Nat}
    (reserved : ring.producer + count ≤ ring.cached) : (ring.submit count).Producing :=
  ⟨producing.positive, Nat.le_add_right_of_le producing.published, reserved, producing.bounded⟩

theorem Producing.put (producing : ring.Producing) (index : Nat) (value : Entry) :
    (ring.put index value).Producing :=
  ⟨producing.positive, producing.published, producing.reserved, producing.bounded⟩

theorem Producing.take (producing : ring.Producing) (published : ring.consumer < ring.producer) :
    ({ ring with consumer := ring.consumer + 1 } : SharedRing Entry).Producing :=
  ⟨producing.positive, published, producing.reserved, by
    have bounded := producing.bounded
    change ring.cached ≤ ring.consumer + 1 + ring.size
    omega⟩

theorem Consuming.advance (consuming : ring.Consuming) {count : Nat}
    (available : ring.cached + count ≤ ring.producer) :
    ({ ring with cached := ring.cached + count } : SharedRing Entry).Consuming :=
  ⟨consuming.positive, Nat.le_add_right_of_le consuming.peeked, available, consuming.bounded⟩

theorem Consuming.release (consuming : ring.Consuming) {count : Nat}
    (peeked : ring.consumer + count ≤ ring.cached) : (ring.release count).Consuming :=
  ⟨consuming.positive, peeked, consuming.available, by
    have bounded := consuming.bounded
    change ring.producer ≤ ring.consumer + count + ring.size
    omega⟩

theorem Consuming.offer (consuming : ring.Consuming) (value : Entry)
    (room : ring.producer < ring.consumer + ring.size) :
    ({ ring.put ring.producer value with producer := ring.producer + 1 } : SharedRing Entry).Consuming :=
  ⟨consuming.positive, consuming.peeked, Nat.le_succ_of_le consuming.available, room⟩

end Orders

end SharedRing

end UserspaceXdp.Foundation
