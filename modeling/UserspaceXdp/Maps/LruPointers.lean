import UserspaceXdp.Maps.LruMap

/-!
Contract: `LRU_HASH` values as live cells.

An XDP program keeps the pointer that a lookup returns and stores through it. The
lookup of `module/maps.cpp` copies the value into `value_local` and returns the
address of the copy, the same for every key, and the delete does nothing.

Owns: programs that look up, update, delete and store through pointers, the law
of live cells, and the condition on each step under which the law holds.

Does not own: the comparison of keys. Two keys are the same here if the map says
so.
-/

namespace UserspaceXdp.Maps

open UserspaceXdp.Foundation

/-! ## Programs -/

/-- A step of a program. `store index value` stores through the pointer that the
`index`-th successful lookup returned. -/
inductive ProgramOp where
  | lookup (key : FlowKey)
  | update (key : FlowKey) (value : RealPosLru)
  | delete (key : FlowKey)
  | store (index : Nat) (value : RealPosLru)

/-- A pointer that a lookup returned, and whether its key is still in the map
since. -/
structure Pointer where
  key : FlowKey
  live : Bool

/-- The map, and what happened to it: the pointers in the order of the lookups,
the values written for keys, by updates and through pointers, and the keys
deleted and not updated since. -/
structure Watch where
  map : LruMap
  pointers : List Pointer
  written : List (FlowKey × RealPosLru)
  deleted : List FlowKey

def Watch.initial : Watch :=
  { map := emptyLruMap, pointers := [], written := [], deleted := [] }

def LruMap.has (map : LruMap) (key : FlowKey) : Bool :=
  map.cache.keys.any fun node => node.key == key

def Watch.step (watch : Watch) : ProgramOp → Watch
  | .lookup key =>
      let (returned, map) := lruHashMapElemLookup watch.map key
      { watch with
        map := map
        pointers :=
          if returned.isSome then watch.pointers ++ [⟨key, true⟩] else watch.pointers }
  | .update key value =>
      let map := lruHashMapElemUpdate watch.map key value
      { map := map
        pointers := watch.pointers.map fun pointer =>
          { pointer with live := pointer.live && map.has pointer.key }
        written := watch.written ++ [(key, value)]
        deleted := others key watch.deleted }
  | .delete key =>
      let (result, map) := lruHashMapElemDelete watch.map key
      { watch with
        map := map
        deleted := if result = 0 then watch.deleted ++ [key] else watch.deleted }
  | .store index value =>
      match watch.pointers[index]? with
      | none => watch
      | some pointer =>
          { watch with
            map := { watch.map with valueLocal := value }
            written :=
              if pointer.live then watch.written ++ [(pointer.key, value)] else watch.written }

def Watch.run (operations : List ProgramOp) : Watch :=
  operations.foldl Watch.step Watch.initial

/-! ## The law -/

/-- A lookup yields the last value written for its key, a pointer designates the
value of its key, and a deleted key is not found. -/
structure Watch.Lawful (watch : Watch) : Prop where
  latest : ∀ key value, (lruHashMapElemLookup watch.map key).1 = some value →
    lastUpdate watch.written key = some value
  designates : ∀ pointer ∈ watch.pointers, pointer.live = true →
    lastUpdate watch.written pointer.key = some watch.map.valueLocal
  gone : ∀ key ∈ watch.deleted, (lruHashMapElemLookup watch.map key).1 = none

/-- The condition on a step: no pointer would have to show something else than
`value_local` does, nothing new is stored through a pointer, and no key that is
there is deleted. -/
def Watch.Meets (watch : Watch) : ProgramOp → Prop
  | .lookup key => ∀ node ∈ watch.map.cache.keys, (node.key == key) = true →
      ∀ pointer ∈ watch.pointers, pointer.live = true → watch.map.valueLocal = node.value
  | .update key value => ∀ pointer ∈ watch.pointers, pointer.live = true →
      (pointer.key == key) = true → watch.map.valueLocal = value
  | .delete key => ∀ node ∈ watch.map.cache.keys, (node.key == key) = false
  | .store index value => index < watch.pointers.length →
      ∀ pointer ∈ watch.pointers, pointer.live = true → value = watch.map.valueLocal

/-- What holds in every run, lawful or not. -/
structure Watch.Valid (watch : Watch) : Prop where
  cache : watch.map.cache.Valid
  maxSize : watch.map.cache.maxSize = 2000
  live : ∀ pointer ∈ watch.pointers, pointer.live = true →
    ∃ node ∈ watch.map.cache.keys, (node.key == pointer.key) = true

variable {watch : Watch}

theorem LruMap.has_iff (map : LruMap) (key : FlowKey) :
    map.has key = true ↔ ∃ node ∈ map.cache.keys, (node.key == key) = true := by
  rw [LruMap.has, List.any_eq_true]

/-- A lookup returns the value of the node that compares equal to the key. -/
theorem Watch.Valid.lookup_iff (valid : watch.Valid) (key : FlowKey) (value : RealPosLru) :
    (lruHashMapElemLookup watch.map key).1 = some value ↔
      ∃ node ∈ watch.map.cache.keys, (node.key == key) = true ∧ node.value = value :=
  (valid.cache.tryGetRef_spec key).2.2 value

theorem Watch.Valid.lookup_none_iff (valid : watch.Valid) (key : FlowKey) :
    (lruHashMapElemLookup watch.map key).1 = none ↔
      ∀ node ∈ watch.map.cache.keys, (node.key == key) = false := by
  rw [Option.eq_none_iff_forall_ne_some]
  constructor
  · intro nothing node member
    by_contra equal
    exact nothing node.value ((valid.lookup_iff key node.value).mpr
      ⟨node, member, Bool.eq_true_of_not_eq_false equal, rfl⟩)
  · intro absent value returned
    obtain ⟨node, member, equal, -⟩ := (valid.lookup_iff key value).mp returned
    rw [absent node member] at equal
    cases equal

/-- The law in terms of the nodes. -/
structure Watch.Agrees (watch : Watch) : Prop where
  latest : ∀ node ∈ watch.map.cache.keys, lastUpdate watch.written node.key = some node.value
  designates : ∀ pointer ∈ watch.pointers, pointer.live = true →
    lastUpdate watch.written pointer.key = some watch.map.valueLocal
  gone : ∀ key ∈ watch.deleted, ∀ node ∈ watch.map.cache.keys, (node.key == key) = false

theorem Watch.Valid.lawful_iff (valid : watch.Valid) : watch.Lawful ↔ watch.Agrees := by
  constructor
  · intro lawful
    refine ⟨fun node member => ?_, lawful.designates, fun key member => ?_⟩
    · apply lawful.latest
      exact (valid.lookup_iff node.key node.value).mpr ⟨node, member, BEq.rfl, rfl⟩
    · exact (valid.lookup_none_iff key).mp (lawful.gone key member)
  · intro agrees
    refine ⟨fun key value returned => ?_, agrees.designates, fun key member => ?_⟩
    · obtain ⟨node, member, equal, rfl⟩ := (valid.lookup_iff key value).mp returned
      rw [← lastUpdate_congr _ equal]
      exact agrees.latest node member
    · exact (valid.lookup_none_iff key).mpr (agrees.gone key member)

/-! ## One step -/

theorem Watch.Valid.positive (valid : watch.Valid) : 0 < watch.map.cache.maxSize := by
  rw [valid.maxSize]
  decide

theorem Watch.Valid.valid_update (valid : watch.Valid) (key : FlowKey) (value : RealPosLru) :
    (watch.step (.update key value)).Valid where
  cache := (valid.cache.insert_spec valid.positive key value).1
  maxSize := by
    have kept := (step_sizes ⟨watch.map.cache, [], []⟩ (.update key value)).1
    exact kept.trans valid.maxSize
  live := by
    intro pointer member live
    obtain ⟨before, -, rfl⟩ := List.mem_map.mp member
    rw [Bool.and_eq_true] at live
    exact (LruMap.has_iff _ _).mp live.2

/-- A live pointer to the key shows the new value after the update. -/
theorem Watch.Valid.meets_of_update (valid : watch.Valid) {key : FlowKey} {value : RealPosLru}
    (after : (watch.step (.update key value)).Agrees) : watch.Meets (.update key value) := by
  intro pointer member live same
  have ⟨front, frontMember, frontEqual⟩ :=
    (valid.cache.insert_spec valid.positive key value).2.1
  have still : (lruHashMapElemUpdate watch.map key value).has pointer.key = true := by
    rw [LruMap.has_iff]
    exact ⟨front, frontMember, BEq.trans frontEqual (BEq.symm same)⟩
  have shown := after.designates
    { pointer with live := pointer.live &&
        (lruHashMapElemUpdate watch.map key value).has pointer.key }
    (List.mem_map_of_mem member) (by rw [live, still]; rfl)
  change lastUpdate (watch.written ++ [(key, value)]) pointer.key =
    some watch.map.valueLocal at shown
  rw [lastUpdate_concat, if_pos (BEq.symm same), Option.some.injEq] at shown
  exact shown.symm

theorem Watch.Valid.agrees_update (valid : watch.Valid) (agrees : watch.Agrees) {key : FlowKey}
    {value : RealPosLru} (meets : watch.Meets (.update key value)) :
    (watch.step (.update key value)).Agrees := by
  have contents := (valid.cache.insert_spec valid.positive key value).2.2
  refine ⟨fun node member => ?_, fun pointer member live => ?_, fun gone member node => ?_⟩
  · change lastUpdate (watch.written ++ [(key, value)]) node.key = some node.value
    rw [lastUpdate_concat]
    rcases contents node member with ⟨same, stored⟩ | ⟨different, older⟩
    · rw [if_pos (BEq.symm same), stored]
    · rw [BEq.comm, different]
      exact agrees.latest node older
  · obtain ⟨before, beforeMember, rfl⟩ := List.mem_map.mp member
    rw [Bool.and_eq_true] at live
    change lastUpdate (watch.written ++ [(key, value)]) before.key =
      some watch.map.valueLocal
    rw [lastUpdate_concat]
    by_cases same : (key == before.key) = true
    · rw [if_pos same, meets before beforeMember live.1 (BEq.symm same)]
    · rw [if_neg same]
      exact agrees.designates before beforeMember live.1
  · intro present
    change gone ∈ others key watch.deleted at member
    rw [others, List.mem_filter, Bool.not_eq_true'] at member
    rcases contents node present with ⟨same, -⟩ | ⟨-, older⟩
    · by_contra equal
      rw [Bool.not_eq_false] at equal
      have contradiction := BEq.trans (BEq.symm equal) same
      rw [member.2] at contradiction
      cases contradiction
    · exact agrees.gone gone member.1 node older

/-- The watch after a lookup that found nothing. -/
theorem Watch.step_lookup_miss {key : FlowKey}
    (returned : (watch.map.cache.tryGetRef key).1 = none) :
    watch.step (.lookup key) =
      { watch with map := { watch.map with cache := (watch.map.cache.tryGetRef key).2 } } := by
  simp only [Watch.step, lruHashMapElemLookup, returned]
  rfl

/-- The watch after a lookup that found a value. -/
theorem Watch.step_lookup_hit {key : FlowKey} {value : RealPosLru}
    (returned : (watch.map.cache.tryGetRef key).1 = some value) :
    watch.step (.lookup key) =
      { watch with
        map := { cache := (watch.map.cache.tryGetRef key).2, valueLocal := value }
        pointers := watch.pointers ++ [⟨key, true⟩] } := by
  simp only [Watch.step, lruHashMapElemLookup, returned]
  rfl

theorem Watch.Valid.lookup_miss (valid : watch.Valid) {key : FlowKey}
    (returned : (watch.map.cache.tryGetRef key).1 = none) :
    (watch.step (.lookup key)).Valid ∧
      (watch.Agrees → ((watch.step (.lookup key)).Agrees ↔ watch.Meets (.lookup key))) := by
  have ⟨cache, members, _⟩ := valid.cache.tryGetRef_spec key
  have sizes := (step_sizes ⟨watch.map.cache, [], []⟩ (.lookup key)).1
  have nobody : ∀ node ∈ watch.map.cache.keys, (node.key == key) = false :=
    (valid.lookup_none_iff key).mp returned
  rw [Watch.step_lookup_miss returned]
  constructor
  · refine ⟨cache, sizes.trans valid.maxSize, fun pointer member live => ?_⟩
    obtain ⟨node, present, equal⟩ := valid.live pointer member live
    exact ⟨node, (members node).mpr present, equal⟩
  · intro agrees
    constructor
    · intro _ node member equal
      rw [nobody node member] at equal
      cases equal
    · intro _
      refine ⟨fun node member => ?_, agrees.designates, fun gone member node present => ?_⟩
      · exact agrees.latest node ((members node).mp member)
      · exact agrees.gone gone member node ((members node).mp present)

theorem Watch.Valid.lookup_hit (valid : watch.Valid) {key : FlowKey} {value : RealPosLru}
    (returned : (watch.map.cache.tryGetRef key).1 = some value) :
    (watch.step (.lookup key)).Valid ∧
      (watch.Agrees → ((watch.step (.lookup key)).Agrees ↔ watch.Meets (.lookup key))) := by
  have ⟨cache, members, returns⟩ := valid.cache.tryGetRef_spec key
  have sizes := (step_sizes ⟨watch.map.cache, [], []⟩ (.lookup key)).1
  have ⟨hit, hitMember, hitEqual, hitValue⟩ := (returns value).mp returned
  rw [Watch.step_lookup_hit returned]
  constructor
  · refine ⟨cache, sizes.trans valid.maxSize, fun pointer member live => ?_⟩
    rcases List.mem_append.mp member with old | new
    · obtain ⟨node, present, equal⟩ := valid.live pointer old live
      exact ⟨node, (members node).mpr present, equal⟩
    · rw [List.mem_singleton.mp new]
      exact ⟨hit, (members hit).mpr hitMember, hitEqual⟩
  · intro agrees
    constructor
    · intro after node member equal pointer known live
      have before := agrees.designates pointer known live
      have now := after.designates pointer (List.mem_append_left _ known) live
      have same : node.value = value := by
        rw [← hitValue, valid.cache.eq_of_key member hitMember
          (BEq.trans equal (BEq.symm hitEqual))]
      rw [same]
      exact Option.some.inj (before.symm.trans now)
    · intro meets
      refine ⟨fun node member => ?_, fun pointer member live => ?_,
        fun gone member node present => ?_⟩
      · exact agrees.latest node ((members node).mp member)
      · rcases List.mem_append.mp member with old | new
        · have unchanged := meets hit hitMember hitEqual pointer old live
          rw [hitValue] at unchanged
          rw [← unchanged]
          exact agrees.designates pointer old live
        · rw [List.mem_singleton.mp new, ← lastUpdate_congr _ hitEqual, ← hitValue]
          exact agrees.latest hit hitMember
      · exact agrees.gone gone member node ((members node).mp present)

theorem Watch.Valid.step_delete (valid : watch.Valid) (key : FlowKey) :
    (watch.step (.delete key)).Valid ∧
      (watch.Agrees → ((watch.step (.delete key)).Agrees ↔ watch.Meets (.delete key))) := by
  refine ⟨⟨valid.cache, valid.maxSize, valid.live⟩, fun agrees => ?_⟩
  constructor
  · intro after
    exact after.gone key (List.mem_append_right _ (List.mem_singleton_self key))
  · intro absent
    refine ⟨agrees.latest, agrees.designates, fun gone member => ?_⟩
    rcases List.mem_append.mp member with old | new
    · exact agrees.gone gone old
    · rw [List.mem_singleton.mp new]
      exact absent

/-- A store through a dead pointer shows in every live one. -/
theorem Watch.Agrees.store_dead (agrees : watch.Agrees) {index : Nat} {pointer : Pointer}
    (inside : index < watch.pointers.length) (dead : ¬pointer.live = true)
    (value : RealPosLru) :
    ({ watch with
        map := { watch.map with valueLocal := value }
        written :=
          if pointer.live then watch.written ++ [(pointer.key, value)] else watch.written }
        : Watch).Agrees ↔ watch.Meets (.store index value) := by
  rw [if_neg dead]
  constructor
  · intro after _ other otherKnown otherLive
    have before := agrees.designates other otherKnown otherLive
    have now := after.designates other otherKnown otherLive
    exact Option.some.inj (now.symm.trans before)
  · intro meets
    refine ⟨agrees.latest, fun other otherKnown otherLive => ?_, agrees.gone⟩
    rw [meets inside other otherKnown otherLive]
    exact agrees.designates other otherKnown otherLive

/-- A store through a live pointer writes to its key, whose node does not see
it. -/
theorem Watch.Valid.store_live (valid : watch.Valid) (agrees : watch.Agrees) {index : Nat}
    {pointer : Pointer} (inside : index < watch.pointers.length)
    (known : pointer ∈ watch.pointers) (live : pointer.live = true) (value : RealPosLru) :
    ({ watch with
        map := { watch.map with valueLocal := value }
        written :=
          if pointer.live then watch.written ++ [(pointer.key, value)] else watch.written }
        : Watch).Agrees ↔ watch.Meets (.store index value) := by
  rw [if_pos live]
  have shown := agrees.designates pointer known live
  constructor
  · intro after _ other otherKnown otherLive
    obtain ⟨node, member, equal⟩ := valid.live pointer known live
    have before := agrees.latest node member
    have now := after.latest node member
    rw [lastUpdate_congr _ equal] at before
    rw [lastUpdate_concat, if_pos (BEq.symm equal)] at now
    exact Option.some.inj (now.trans (before.symm.trans shown))
  · intro meets
    have nothingNew := meets inside pointer known live
    have sameLog (candidate : FlowKey) :
        lastUpdate (watch.written ++ [(pointer.key, value)]) candidate =
          lastUpdate watch.written candidate := by
      rw [lastUpdate_concat]
      by_cases same : (pointer.key == candidate) = true
      · rw [if_pos same, ← lastUpdate_congr _ same, shown, nothingNew]
      · rw [if_neg same]
    refine ⟨fun node member => ?_, fun other otherKnown otherLive => ?_, agrees.gone⟩
    · exact (sameLog node.key).trans (agrees.latest node member)
    · rw [sameLog, nothingNew]
      exact agrees.designates other otherKnown otherLive

theorem Watch.Valid.step_store (valid : watch.Valid) (index : Nat) (value : RealPosLru) :
    (watch.step (.store index value)).Valid ∧
      (watch.Agrees →
        ((watch.step (.store index value)).Agrees ↔ watch.Meets (.store index value))) := by
  cases found : watch.pointers[index]? with
  | none =>
      have outside : ¬ index < watch.pointers.length := by
        rw [Nat.not_lt]
        exact List.getElem?_eq_none_iff.mp found
      simp only [Watch.step, found]
      exact ⟨valid, fun agrees => ⟨fun _ inside => absurd inside outside, fun _ => agrees⟩⟩
  | some pointer =>
      obtain ⟨inside, -⟩ := List.getElem?_eq_some_iff.mp found
      have known : pointer ∈ watch.pointers := List.mem_of_getElem? found
      simp only [Watch.step, found]
      refine ⟨⟨valid.cache, valid.maxSize, valid.live⟩, fun agrees => ?_⟩
      by_cases live : pointer.live = true
      · exact valid.store_live agrees inside known live value
      · exact agrees.store_dead inside live value

/-- A step from a lawful state leads to a lawful state exactly if it meets the
condition. -/
theorem Watch.Valid.step (valid : watch.Valid) (operation : ProgramOp) :
    (watch.step operation).Valid ∧
      (watch.Lawful → ((watch.step operation).Lawful ↔ watch.Meets operation)) := by
  have stepped : (watch.step operation).Valid ∧
      (watch.Agrees → ((watch.step operation).Agrees ↔ watch.Meets operation)) := by
    cases operation with
    | lookup key =>
        cases returned : (watch.map.cache.tryGetRef key).1 with
        | none => exact valid.lookup_miss returned
        | some value => exact valid.lookup_hit returned
    | update key value =>
        exact ⟨valid.valid_update key value, fun agrees =>
          ⟨valid.meets_of_update, valid.agrees_update agrees⟩⟩
    | delete key => exact valid.step_delete key
    | store index value => exact valid.step_store index value
  refine ⟨stepped.1, ?_⟩
  rw [valid.lawful_iff, stepped.1.lawful_iff]
  exact stepped.2

/-! ## Runs -/

theorem Watch.run_concat (operations : List ProgramOp) (operation : ProgramOp) :
    Watch.run (operations ++ [operation]) = (Watch.run operations).step operation := by
  rw [Watch.run, List.foldl_concat]
  rfl

theorem Watch.valid_run (operations : List ProgramOp) : (Watch.run operations).Valid := by
  induction operations using List.reverseRecOn with
  | nil => exact ⟨Cache.valid_empty _ _, rfl, nofun⟩
  | append_singleton operations operation inductionHypothesis =>
      rw [Watch.run_concat]
      exact (inductionHypothesis.step operation).1

theorem Watch.lawful_initial : (Watch.run []).Lawful where
  latest := fun key value returned => by cases returned
  designates := nofun
  gone := nofun

/-- In every run of a program, the law of live cells holds in every state exactly
if every step meets the condition in the state before it. -/
theorem lru_values_are_live_cells_iff (operations : List ProgramOp) :
    (∀ before, before <+: operations → (Watch.run before).Lawful) ↔
      ∀ before operation, before ++ [operation] <+: operations →
        (Watch.run before).Meets operation := by
  constructor
  · intro lawful before operation within
    have stepped := ((Watch.valid_run before).step operation).2
      (lawful before ((List.prefix_append before [operation]).trans within))
    rw [← Watch.run_concat] at stepped
    exact stepped.mp (lawful (before ++ [operation]) within)
  · intro meets before within
    induction before using List.reverseRecOn with
    | nil => exact Watch.lawful_initial
    | append_singleton before operation inductionHypothesis =>
        have shorter := (List.prefix_append before [operation]).trans within
        have stepped := ((Watch.valid_run before).step operation).2 (inductionHypothesis shorter)
        rw [Watch.run_concat]
        exact stepped.mpr (meets before operation within)

/-- A program updates a flow, looks it up and stores a new access time through
the pointer: the next lookup returns the old one. -/
theorem lru_loses_in_place_store :
    ¬ (Watch.run [.update (flowTo 1) ⟨7, 0⟩, .lookup (flowTo 1), .store 0 ⟨7, 1⟩]).Lawful := by
  intro lawful
  have latest := lawful.latest (flowTo 1) ⟨7, 0⟩ rfl
  exact absurd latest (by decide)

end UserspaceXdp.Maps
