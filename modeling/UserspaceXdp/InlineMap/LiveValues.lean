import UserspaceXdp.InlineMap.Refinement

/-!
Contract: a value pointer of `elem_lookup` is a live cell of the table.

Owns: what a store through the pointer does to the table: the value of its key,
and no flag, no key and no other value.

Does not own: a pointer that is kept over an `elem_delete`.
-/

namespace UserspaceXdp.InlineMap

open UserspaceXdp.Foundation
open UserspaceXdp.Foundation.LinearProbing

section Stores

variable {map : HashMapDef} {buffer other : Memory} {key : Nat → UInt8} {pointer : Nat}

/-- The pointer is that of the bucket where the probe of its key stops. -/
theorem elemLookup_eq_some (found : elemLookup map buffer key = some pointer) :
    ∃ distance value, StopsFirst map buffer key distance ∧
      bucketTable map buffer (probed map key distance) = some (keyBytes map key, value) ∧
      pointer = getValue map (probed map key distance) := by
  rcases firstStop_or_full map.numBuckets (homeBucket map) (bucketTable map buffer)
    (keyBytes map key) with ⟨distance, stop⟩ | never
  · rw [elemLookup_of_stop stop, Option.map_eq_some_iff] at found
    have ⟨⟨storedKey, value⟩, held, points⟩ := found
    have sameKey := stop.stops storedKey value held
    rw [sameKey] at held
    exact ⟨distance, value, stop, held, points.symm⟩
  · rw [elemLookup_of_never never] at found
    cases found

/-- A store through the value pointer of a filled bucket replaces its value. -/
theorem bucketTable_storeValue {index : Nat} {storedKey value : List UInt8}
    (below : index < map.numBuckets)
    (held : bucketTable map buffer index = some (storedKey, value))
    (frame : ∀ candidate, candidate < getValue map index ∨
      getValue map index + map.valueSize ≤ candidate → other candidate = buffer candidate) :
    bucketTable map other = Function.update (bucketTable map buffer) index
      (some (storedKey, other.bytes (getValue map index) map.valueSize)) := by
  have width : slotSize map = 4 + map.keySize + map.valueSize := rfl
  have ⟨filled, keys, _⟩ := bucketTable_some held
  rw [getValue_eq below] at frame
  apply bucketTable_eq_update
  · intro candidate outside
    exact frame candidate (by omega)
  · -- Flag and key of the bucket lie before its value.
    have flag : isEmpty map other index = false := by
      unfold isEmpty at filled ⊢
      rw [getElemOffset_eq below] at filled ⊢
      rw [Memory.loadWord_congr fun candidate _ _ => frame candidate (by omega)]
      exact filled
    have kept : other.bytes (getKey map index) map.keySize = storedKey := by
      rw [← keys, getKey_eq below]
      exact Memory.bytes_congr fun candidate _ _ => frame candidate (by omega)
    unfold bucketTable
    rw [if_pos below, flag, kept]
    rfl

/-- After a store through the pointer the table is chained as before. -/
theorem chained_storeValue (chained : ChainedBuffer map buffer)
    (found : elemLookup map buffer key = some pointer)
    (frame : ∀ candidate, candidate < pointer ∨ pointer + map.valueSize ≤ candidate →
      other candidate = buffer candidate) : ChainedBuffer map other := by
  have ⟨distance, value, stop, held, points⟩ := elemLookup_eq_some found
  rw [points] at frame
  unfold ChainedBuffer
  rw [bucketTable_storeValue (probed_lt map key distance) held frame]
  exact chained.fill stop _

/-- A lookup of the key then finds what was stored, and one of any other key
what it found before. -/
theorem lookupBytes_storeValue (chained : ChainedBuffer map buffer)
    (found : elemLookup map buffer key = some pointer)
    (frame : ∀ candidate, candidate < pointer ∨ pointer + map.valueSize ≤ candidate →
      other candidate = buffer candidate) (candidate : Nat → UInt8) :
    lookupBytes map other candidate =
      if keyBytes map candidate = keyBytes map key then
        some (other.bytes pointer map.valueSize)
      else lookupBytes map buffer candidate := by
  have still := chained_storeValue chained found frame
  have ⟨distance, value, stop, held, points⟩ := elemLookup_eq_some found
  rw [points] at frame
  have table := bucketTable_storeValue (probed_lt map key distance) held frame
  apply Option.ext
  intro entry
  rw [lookupBytes_eq_some_iff still]
  unfold Holds
  rw [table]
  split
  case isTrue same =>
      rw [same, points, stored_fill_self stop chained, Option.some_inj, eq_comm]
  case isFalse different =>
      rw [stored_fill_other stop different, lookupBytes_eq_some_iff chained]

end Stores

end UserspaceXdp.InlineMap
