import Mathlib.Data.Finset.Card
import Mathlib.Tactic

/-!
Contract: a finite map with a limit on the number of its keys.

Owns: the map, its lookup and its update, which fails on a full map without the
key, and what a lookup finds after an update.

Does not own: deletion, or how keys and values are represented.
-/

namespace UserspaceXdp.Foundation

structure BoundedMap (Key Value : Type) where
  keys : Finset Key
  value : Key → Value

namespace BoundedMap

variable {Key Value : Type} [DecidableEq Key]

def empty (filler : Value) : BoundedMap Key Value :=
  { keys := ∅, value := fun _ => filler }

def lookup (map : BoundedMap Key Value) (key : Key) : Option Value :=
  if key ∈ map.keys then some (map.value key) else none

def update (capacity : Nat) (map : BoundedMap Key Value) (key : Key) (value : Value) :
    BoundedMap Key Value :=
  if key ∈ map.keys ∨ map.keys.card < capacity then
    { keys := insert key map.keys, value := Function.update map.value key value }
  else map

variable {map : BoundedMap Key Value} {capacity : Nat} {key : Key}

theorem lookup_of_mem (member : key ∈ map.keys) : map.lookup key = some (map.value key) :=
  if_pos member

theorem lookup_eq_none_iff : map.lookup key = none ↔ key ∉ map.keys := by
  unfold lookup
  split <;> simp_all

/-- Where there is room the update goes through. -/
theorem update_of_room (room : (insert key map.keys).card ≤ capacity) (value : Value) :
    map.update capacity key value =
      { keys := insert key map.keys, value := Function.update map.value key value } := by
  have fits : key ∈ map.keys ∨ map.keys.card < capacity := by
    by_cases member : key ∈ map.keys
    · exact Or.inl member
    · rw [Finset.card_insert_of_notMem member] at room
      exact Or.inr (by omega)
  rw [update, if_pos fits]

end BoundedMap

end UserspaceXdp.Foundation
