import UserspaceXdp.Foundation.KeyWalk
import UserspaceXdp.Maps.Isolation

/-!
Contract: walks over the `DEVMAP` map of `module/maps.cpp` by `map_get_next_key`.

Owns: the map as a store whose keys can be walked, and what a walk visits while
programs look up, update and delete between its calls.

Does not own: the first call of a user that has no key yet, which hands the
operation a null pointer.
-/

namespace UserspaceXdp.Maps

open UserspaceXdp.Foundation

/-- The map holds a value for the key. -/
def DevHashMap.Has (map : DevHashMap) (k : Int) : Prop :=
  elemLookupStatic map k ≠ none

theorem DevHashMap.has_iff {map : DevHashMap} {k : Int} :
    map.Has k ↔ ∃ entry ∈ map.entries, entry.1 = k := by
  simp [DevHashMap.Has, elemLookupStatic]

/-- The first entry above a key has the least such key. -/
theorem elemGetNextKeyStatic_some {map : DevHashMap} {k next : Int}
    (found : (elemGetNextKeyStatic map k).2 = some next) :
    k < next ∧ map.Has next ∧ ∀ other, map.Has other → k < other → next ≤ other := by
  rw [elemGetNextKeyStatic] at found
  cases search : map.entries.find? fun entry => k < entry.1 with
  | none =>
      rw [search] at found
      exact absurd found nofun
  | some entry =>
      rw [search] at found
      obtain rfl := Option.some.inj found
      obtain ⟨above, before, after, split, below⟩ := List.find?_eq_some_iff_append.mp search
      refine ⟨of_decide_eq_true above,
        DevHashMap.has_iff.mpr ⟨entry, List.mem_of_find?_eq_some search, rfl⟩, ?_⟩
      intro other has larger
      obtain ⟨held, member, rfl⟩ := DevHashMap.has_iff.mp has
      have sorted := map.sorted
      rw [split] at sorted member
      rcases List.mem_append.mp member with early | late
      · have small := below held early
        simp only [Bool.not_eq_true', decide_eq_false_iff_not] at small
        exact absurd larger small
      · rcases List.mem_cons.mp late with rfl | later
        · exact le_rfl
        · exact ((List.pairwise_cons.mp (List.pairwise_append.mp sorted).2.1).1 held later).le

theorem elemGetNextKeyStatic_none {map : DevHashMap} {k : Int}
    (last : (elemGetNextKeyStatic map k).2 = none) (other : Int) (has : map.Has other) :
    other ≤ k := by
  obtain ⟨held, member, rfl⟩ := DevHashMap.has_iff.mp has
  rw [elemGetNextKeyStatic] at last
  cases search : map.entries.find? fun entry => k < entry.1 with
  | some entry =>
      rw [search] at last
      exact absurd last nofun
  | none =>
      have small := List.find?_eq_none.mp search held member
      simpa using small

/-- `map_get_next_key` answers as a walk needs. -/
def devKeys : KeyStore DevHashMap Int where
  Has := DevHashMap.Has
  next := fun map k => (elemGetNextKeyStatic map k).2
  next_some := elemGetNextKeyStatic_some
  next_none := elemGetNextKeyStatic_none

/-- Any operation on the map between two calls of a walk. -/
def devChange (map : DevHashMap) (operation : MapOp Nat Int Int) : DevHashMap :=
  (devMapOps map operation).2

/-- A walk from a key that it does not visit itself. -/
def devWalk (map : DevHashMap) (start : Int) (events : List (WalkEvent (MapOp Nat Int Int))) :
    Walk DevHashMap Int :=
  events.foldl (devKeys.walkStep devChange) ⟨map, start, [], false⟩

/-- Whatever is done to the map between its calls, a walk visits each key at most
once and in the order of the keys, by a call made while the key is there; and when
it is told that there is no next key, it has visited every key above its start that
was there all the time. -/
theorem devWalk_visits (map : DevHashMap) (start : Int)
    (events : List (WalkEvent (MapOp Nat Int Int))) :
    (devWalk map start events).visited.Pairwise (· < ·) ∧
      (∀ key ∈ (devWalk map start events).visited, start < key ∧
        ∃ done rest, events = done ++ .next :: rest ∧ (devWalk map start done).store.Has key ∧
          (devWalk map start (done ++ [.next])).visited =
            (devWalk map start done).visited ++ [key]) ∧
      ∀ key, start < key →
        (∀ done rest, events = done ++ rest → (devWalk map start done).store.Has key) →
        (devWalk map start events).ended = true → key ∈ (devWalk map start events).visited := by
  have begun : KeyStore.Ordered start (Walk.mk map start [] false) :=
    ⟨List.Pairwise.nil, nofun, le_rfl⟩
  have ordered : KeyStore.Ordered start (devWalk map start events) := begun.run events
  refine ⟨ordered.increasing, fun key visited => ⟨(ordered.above key visited).1, ?_⟩, ?_⟩
  · exact KeyStore.visited_there events visited List.not_mem_nil
  · intro key above stays ended
    have owed : KeyStore.Covered key (Walk.mk map start [] false) :=
      ⟨fun reached => absurd above (not_lt.mpr reached), nofun⟩
    have covered : KeyStore.Covered key (devWalk map start events) :=
      owed.run stays
    exact covered.passed (covered.ended ended)

/-- The key 3 is deleted and the key 9 added behind the walk's back. -/
example :
    let map := (elemUpdateStatic (elemUpdateStatic emptyDevHashMap 3 0).2 7 0).2
    let walk := devWalk map 2 [.change (.elemDelete 3), .next, .change (.elemUpdate 9 1), .next, .next]
    walk.visited = [7, 9] ∧ walk.ended = true := by
  decide

end UserspaceXdp.Maps
