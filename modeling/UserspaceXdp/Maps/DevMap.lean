import Mathlib.Data.List.Basic
import Mathlib.Tactic

/-!
Contract: the `DEVMAP` map of `module/maps.cpp`.

Owns: `dev_hash_map`, a `std::map<int, int>`, as a list of entries in the order
of the keys, and the four map operations on it.

Does not own: what the values mean to a driver.
-/

namespace UserspaceXdp.Maps

/-- The entries of the map, in the order of the keys. -/
structure DevHashMap where
  entries : List (Int × Int)
  sorted : entries.Pairwise fun left right => left.1 < right.1

def emptyDevHashMap : DevHashMap :=
  { entries := [], sorted := List.Pairwise.nil }

/-- `dev_hash_map[k] = v` on the entries. -/
def assign (k v : Int) : List (Int × Int) → List (Int × Int)
  | [] => [(k, v)]
  | entry :: rest =>
      if k < entry.1 then (k, v) :: entry :: rest
      else if k = entry.1 then (k, v) :: rest
      else entry :: assign k v rest

theorem mem_assign {k v : Int} {entries : List (Int × Int)} {entry : Int × Int}
    (member : entry ∈ assign k v entries) : entry = (k, v) ∨ entry ∈ entries := by
  induction entries with
  | nil => exact Or.inl (List.mem_singleton.mp member)
  | cons first rest inductionHypothesis =>
      rw [assign] at member
      split at member
      · rcases List.mem_cons.mp member with new | old
        · exact Or.inl new
        · exact Or.inr old
      · split at member
        · rcases List.mem_cons.mp member with new | old
          · exact Or.inl new
          · exact Or.inr (List.mem_cons_of_mem _ old)
        · rcases List.mem_cons.mp member with same | later
          · exact Or.inr (same ▸ List.mem_cons_self)
          · rcases inductionHypothesis later with new | old
            · exact Or.inl new
            · exact Or.inr (List.mem_cons_of_mem _ old)

theorem sorted_assign (k v : Int) {entries : List (Int × Int)}
    (sorted : entries.Pairwise fun left right => left.1 < right.1) :
    (assign k v entries).Pairwise fun left right => left.1 < right.1 := by
  induction entries with
  | nil => exact List.pairwise_singleton _ _
  | cons first rest inductionHypothesis =>
      obtain ⟨below, sortedRest⟩ := List.pairwise_cons.mp sorted
      rw [assign]
      split
      · rename_i before
        rw [List.pairwise_cons]
        refine ⟨fun entry member => ?_, sorted⟩
        rcases List.mem_cons.mp member with rfl | later
        · exact before
        · exact before.trans (below entry later)
      · split
        · rename_i same
          rw [List.pairwise_cons]
          refine ⟨fun entry member => ?_, sortedRest⟩
          rw [same]
          exact below entry member
        · rename_i notBefore different
          rw [List.pairwise_cons]
          refine ⟨fun entry member => ?_, inductionHypothesis sortedRest⟩
          rcases mem_assign member with rfl | old
          · exact lt_of_le_of_ne (not_lt.mp notBefore) (Ne.symm different)
          · exact below entry old

def elemLookupStatic (map : DevHashMap) (k : Int) : Option Int :=
  (map.entries.find? fun entry => entry.1 = k).map Prod.snd

def elemUpdateStatic (map : DevHashMap) (k v : Int) : Int × DevHashMap :=
  (0, { entries := assign k v map.entries, sorted := sorted_assign k v map.sorted })

def elemDeleteStatic (map : DevHashMap) (k : Int) : Int × DevHashMap :=
  match map.entries.find? fun entry => entry.1 = k with
  | none => (-1, map)
  | some _ =>
      (0,
        { entries := map.entries.filter fun entry => entry.1 ≠ k
          sorted := map.sorted.filter _ })

/-- The return value, and `*next_key` if it is written. -/
def elemGetNextKeyStatic (map : DevHashMap) (k : Int) : Int × Option Int :=
  match map.entries.find? fun entry => k < entry.1 with
  | none => (-1, none)
  | some entry => (0, some entry.1)

/-- An update with the value that is there changes nothing. -/
theorem elemUpdateStatic_same {map : DevHashMap} {k v : Int}
    (there : elemLookupStatic map k = some v) : (elemUpdateStatic map k v).2 = map := by
  obtain ⟨entries, sorted⟩ := map
  have same : assign k v entries = entries := by
    induction entries with
    | nil => cases there
    | cons first rest inductionHypothesis =>
        obtain ⟨below, sortedRest⟩ := List.pairwise_cons.mp sorted
        rw [elemLookupStatic, List.find?_cons] at there
        rw [assign]
        by_cases here : first.1 = k
        · simp only [decide_eq_true here, Option.map_some, Option.some.injEq] at there
          rw [if_neg (by omega), if_pos here.symm, ← here, ← there]
        · simp only [decide_eq_false here] at there
          obtain ⟨entry, found, -⟩ := Option.map_eq_some_iff.mp there
          have keyEq : entry.1 = k := by simpa using List.find?_some found
          have above := below entry (List.mem_of_find?_eq_some found)
          rw [if_neg (by omega), if_neg (by omega), inductionHypothesis sortedRest there]
  rw [elemUpdateStatic]
  simp only [same]

/-- A delete of a key that is not there changes nothing. -/
theorem elemDeleteStatic_absent {map : DevHashMap} {k : Int}
    (absent : elemLookupStatic map k = none) : (elemDeleteStatic map k).2 = map := by
  rw [elemLookupStatic, Option.map_eq_none_iff] at absent
  rw [elemDeleteStatic, absent]

end UserspaceXdp.Maps
