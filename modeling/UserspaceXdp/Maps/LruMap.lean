import UserspaceXdp.Maps.LruRecency

/-!
Contract: the `LRU_HASH` map of `module/maps.cpp`, and which flows it keeps apart.

`flow_key::operator==` and the hash look at the first words of the addresses
only, so IPv6 flows that differ in the other words share one entry.

Owns: `flow_key`, the map operations, and when a lookup returns what was stored
for the flow that is looked up.

Does not own: what a program does with the returned pointer.
-/

namespace UserspaceXdp.Maps

open UserspaceXdp.Foundation

/-! ## The map -/

/-- `struct flow_key`: `src` and `dst` are the first words of `srcv6` and
`dstv6`. -/
structure FlowKey where
  srcv6 : Fin 4 → UInt32
  dstv6 : Fin 4 → UInt32
  ports : UInt32
  proto : UInt8
deriving DecidableEq

def FlowKey.src (key : FlowKey) : UInt32 := key.srcv6 0

def FlowKey.dst (key : FlowKey) : UInt32 := key.dstv6 0

/-- `flow_key::operator==`. -/
instance : BEq FlowKey where
  beq left right :=
    decide (left.src = right.src ∧ left.dst = right.dst ∧ left.ports = right.ports ∧
      left.proto = right.proto)

theorem FlowKey.beq_iff {left right : FlowKey} :
    (left == right) = true ↔
      left.src = right.src ∧ left.dst = right.dst ∧ left.ports = right.ports ∧
        left.proto = right.proto :=
  decide_eq_true_iff

instance : EquivBEq FlowKey where
  symm := by
    intro left right same
    obtain ⟨src, dst, ports, proto⟩ := FlowKey.beq_iff.mp same
    exact FlowKey.beq_iff.mpr ⟨src.symm, dst.symm, ports.symm, proto.symm⟩
  trans := by
    intro left middle right first second
    obtain ⟨src, dst, ports, proto⟩ := FlowKey.beq_iff.mp first
    obtain ⟨src', dst', ports', proto'⟩ := FlowKey.beq_iff.mp second
    exact FlowKey.beq_iff.mpr
      ⟨src.trans src', dst.trans dst', ports.trans ports', proto.trans proto'⟩
  rfl := by
    intro key
    exact FlowKey.beq_iff.mpr ⟨rfl, rfl, rfl, rfl⟩

structure RealPosLru where
  pos : UInt32
  atime : UInt64
deriving DecidableEq, Repr

/-- The global `cache` and the `static value_local` of the lookup. -/
structure LruMap where
  cache : Cache FlowKey RealPosLru
  valueLocal : RealPosLru

def emptyLruMap : LruMap :=
  { cache := Cache.empty 2000 1000, valueLocal := ⟨0, 0⟩ }

/-- What the returned pointer, `&value_local`, designates; `none` for `NULL`. -/
def lruHashMapElemLookup (map : LruMap) (key : FlowKey) : Option RealPosLru × LruMap :=
  let (success, cache) := map.cache.tryGetRef key
  (success, { cache := cache, valueLocal := success.getD map.valueLocal })

def lruHashMapElemUpdate (map : LruMap) (key : FlowKey) (value : RealPosLru) : LruMap :=
  { map with cache := map.cache.insert key value }

def lruHashMapElemDelete (map : LruMap) (_key : FlowKey) : Int × LruMap :=
  (0, map)

def lruHashMapGetNextKey (map : LruMap) (_key : FlowKey) : Int × LruMap :=
  (0, map)

/-- A flow between two hosts. -/
def flowTo (host : UInt32) : FlowKey :=
  { srcv6 := fun _ => 0, dstv6 := fun word => if word = 0 then host else 0, ports := 0, proto := 6 }

/-- The sizes of the map meet the assumptions on the cache. -/
theorem lruMap_keeps_recent_flow :
    ∃ value, ((cacheRun 2000 1000 [CacheOp.update (flowTo 1) (⟨7, 0⟩ : RealPosLru),
          CacheOp.lookup (flowTo 2)]).cache.tryGetRef (flowTo 1)).1 = some value ∧
      lastUpdate (cacheRun 2000 1000 [CacheOp.update (flowTo 1) (⟨7, 0⟩ : RealPosLru),
          CacheOp.lookup (flowTo 2)]).updated (flowTo 1) = some value := by
  apply (cacheRun_recency_and_capacity (by decide : 1 ≤ 2000) (by decide : 1 ≤ 1000)
    [CacheOp.update (flowTo 1) (⟨7, 0⟩ : RealPosLru), CacheOp.lookup (flowTo 2)]).2.2.2
  exact List.Mem.head _

/-! ## Whole keys -/

/-- The map after a sequence of updates and lookups. -/
def lruRun (operations : List (CacheOp FlowKey RealPosLru)) : LruMap :=
  operations.foldl
    (fun map operation =>
      match operation with
      | .update key value => lruHashMapElemUpdate map key value
      | .lookup key => (lruHashMapElemLookup map key).2)
    emptyLruMap

theorem lruRun_cache (operations : List (CacheOp FlowKey RealPosLru)) :
    (lruRun operations).cache = (cacheRun 2000 1000 operations).cache := by
  induction operations using List.reverseRecOn with
  | nil => rfl
  | append_singleton operations operation inductionHypothesis =>
      rw [lruRun, cacheRun, List.foldl_concat, List.foldl_concat]
      rw [lruRun, cacheRun] at inductionHypothesis
      cases operation with
      | update key value =>
          rw [CacheRun.step, ← inductionHypothesis]
          rfl
      | lookup key =>
          rw [CacheRun.step, ← inductionHypothesis]
          rfl

/-- The updates of a sequence of operations, in order. -/
def updatesOf (operations : List (CacheOp FlowKey RealPosLru)) : List (FlowKey × RealPosLru) :=
  operations.filterMap fun operation =>
    match operation with
    | .update key value => some (key, value)
    | .lookup _ => none

theorem cacheRun_updated (operations : List (CacheOp FlowKey RealPosLru)) :
    (cacheRun 2000 1000 operations).updated = updatesOf operations := by
  induction operations using List.reverseRecOn with
  | nil => rfl
  | append_singleton operations operation inductionHypothesis =>
      rw [cacheRun] at inductionHypothesis
      rw [cacheRun, List.foldl_concat, updatesOf, List.filterMap_append]
      cases operation with
      | update key value =>
          rw [CacheRun.step, inductionHypothesis]
          rfl
      | lookup key =>
          rw [CacheRun.step, inductionHypothesis, updatesOf]
          simp

/-- The last update that stored into the entry that a lookup of the key finds. -/
def writer (operations : List (CacheOp FlowKey RealPosLru)) (key : FlowKey) :
    Option (FlowKey × RealPosLru) :=
  (updatesOf operations).reverse.find? fun update => update.1 == key

/-- The invariant of the cache after a run. -/
theorem lruRun_tracks (operations : List (CacheOp FlowKey RealPosLru)) :
    (lruRun operations).cache.Valid ∧ (lruRun operations).cache.maxSize = 2000 ∧
      ∀ node ∈ (lruRun operations).cache.keys,
        lastUpdate (updatesOf operations) node.key = some node.value := by
  obtain ⟨held, size, -⟩ := tracks_cacheRun (by decide : 0 < 2000) (by decide : 0 < 1000) operations
  rw [lruRun_cache, ← cacheRun_updated]
  exact ⟨held.valid, size, held.values⟩

/-- A lookup returns the value of the node that compares equal to the key. -/
theorem lookup_eq_some_iff (operations : List (CacheOp FlowKey RealPosLru)) (key : FlowKey)
    (value : RealPosLru) :
    (lruHashMapElemLookup (lruRun operations) key).1 = some value ↔
      ∃ node ∈ (lruRun operations).cache.keys, (node.key == key) = true ∧ node.value = value :=
  ((lruRun_tracks operations).1.tryGetRef_spec key).2.2 value

/-- A lookup that returns a value returns that of its writer. -/
theorem lookup_eq_writer {operations : List (CacheOp FlowKey RealPosLru)} {key : FlowKey}
    {value : RealPosLru}
    (returned : (lruHashMapElemLookup (lruRun operations) key).1 = some value) :
    (writer operations key).map Prod.snd = some value := by
  obtain ⟨node, member, equal, rfl⟩ := (lookup_eq_some_iff operations key value).mp returned
  have last := (lruRun_tracks operations).2.2 node member
  rw [lastUpdate_congr _ equal] at last
  exact last

/-- If a lookup of the key returns a value, then the last update that stored it
used the whole key. -/
def WholeKey (operations : List (CacheOp FlowKey RealPosLru)) (key : FlowKey) : Prop :=
  ∀ value, (lruHashMapElemLookup (lruRun operations) key).1 = some value →
    ∃ update, writer operations key = some update ∧ update.2 = value ∧ update.1 = key

/-- An update of another flow does not change the value that is seen for the key,
unless it evicts the key. -/
def Undisturbed (operations : List (CacheOp FlowKey RealPosLru)) (key other : FlowKey) : Prop :=
  ∀ value seen,
    (lruHashMapElemLookup (lruRun (operations ++ [.update other value])) key).1 = some seen →
      (lruHashMapElemLookup (lruRun operations) key).1 = some seen

/-- The contents after one more update. -/
theorem lruRun_concat_update (operations : List (CacheOp FlowKey RealPosLru)) (key : FlowKey)
    (value : RealPosLru) :
    (∃ node ∈ (lruRun (operations ++ [.update key value])).cache.keys,
        (node.key == key) = true) ∧
      ∀ node ∈ (lruRun (operations ++ [.update key value])).cache.keys,
        ((node.key == key) = true ∧ node.value = value) ∨
          ((node.key == key) = false ∧ node ∈ (lruRun operations).cache.keys) := by
  obtain ⟨valid, size, -⟩ := lruRun_tracks operations
  have positive : 0 < (lruRun operations).cache.maxSize := by
    rw [size]
    decide
  have next : lruRun (operations ++ [.update key value]) =
      lruHashMapElemUpdate (lruRun operations) key value := by
    rw [lruRun, List.foldl_concat]
    rfl
  rw [next]
  exact (valid.insert_spec positive key value).2

theorem wholeKey_iff (operations : List (CacheOp FlowKey RealPosLru)) (key : FlowKey) :
    WholeKey operations key ↔
      (∀ node ∈ (lruRun operations).cache.keys, (node.key == key) = false) ∨
        ∀ update, writer operations key = some update → update.1 = key := by
  constructor
  · intro whole
    by_cases present : ∃ node ∈ (lruRun operations).cache.keys, (node.key == key) = true
    · right
      intro update last
      obtain ⟨node, member, equal⟩ := present
      have returned := (lookup_eq_some_iff operations key node.value).mpr ⟨node, member, equal, rfl⟩
      obtain ⟨found, same, -, exactly⟩ := whole node.value returned
      rw [same, Option.some.injEq] at last
      rw [← last]
      exact exactly
    · left
      intro node member
      by_contra equal
      exact present ⟨node, member, Bool.eq_true_of_not_eq_false equal⟩
  · intro condition value returned
    obtain ⟨update, last, sameValue⟩ := Option.map_eq_some_iff.mp (lookup_eq_writer returned)
    refine ⟨update, last, sameValue, ?_⟩
    rcases condition with absent | whole
    · obtain ⟨node, member, equal, -⟩ := (lookup_eq_some_iff operations key value).mp returned
      rw [absent node member] at equal
      cases equal
    · exact whole update last

theorem undisturbed_iff (operations : List (CacheOp FlowKey RealPosLru)) (key other : FlowKey) :
    Undisturbed operations key other ↔ (other == key) = false := by
  constructor
  · intro undisturbed
    by_contra equal
    rw [Bool.not_eq_false] at equal
    -- The update itself is seen under the key, whatever value it stores.
    have seen (value : RealPosLru) :
        (lruHashMapElemLookup (lruRun operations) key).1 = some value := by
      apply undisturbed value
      rw [lookup_eq_some_iff]
      obtain ⟨⟨node, member, front⟩, contents⟩ := lruRun_concat_update operations other value
      refine ⟨node, member, BEq.trans front equal, ?_⟩
      rcases contents node member with ⟨-, stored⟩ | ⟨different, -⟩
      · exact stored
      · rw [front] at different
        cases different
    have impossible := (seen ⟨0, 0⟩).symm.trans (seen ⟨1, 0⟩)
    exact absurd impossible (by decide)
  · intro apart value seen returned
    rw [lookup_eq_some_iff] at returned ⊢
    obtain ⟨node, member, equal, stored⟩ := returned
    rcases (lruRun_concat_update operations other value).2 node member with ⟨same, -⟩ | ⟨-, older⟩
    · rw [BEq.trans (BEq.symm same) equal] at apart
      cases apart
    · exact ⟨node, older, equal, stored⟩

/-- After every sequence of updates and lookups, for a flow and another one: a
lookup of the flow returns what the flow itself stored last exactly if there is
no entry for it or the last update of the entry was with the whole key; and
updates of the other flow leave the value of the flow alone exactly if the two
differ in the first words of the addresses, in the ports or in the protocol. -/
theorem lru_compares_whole_keys_iff (operations : List (CacheOp FlowKey RealPosLru))
    (key other : FlowKey) :
    (WholeKey operations key ↔
        (∀ node ∈ (lruRun operations).cache.keys, (node.key == key) = false) ∨
          ∀ update, writer operations key = some update → update.1 = key) ∧
      (Undisturbed operations key other ↔
        ¬ (other.src = key.src ∧ other.dst = key.dst ∧ other.ports = key.ports ∧
          other.proto = key.proto)) := by
  refine ⟨wholeKey_iff operations key, ?_⟩
  rw [undisturbed_iff, ← FlowKey.beq_iff, Bool.not_eq_true]

/-- An IPv6 flow from a host of the network 2001:db8::/32. -/
def flowFrom (host : UInt32) : FlowKey :=
  { srcv6 := fun word => if word = 0 then 0x20010db8 else if word = 3 then host else 0
    dstv6 := fun _ => 0
    ports := 443
    proto := 6 }

/-- The backend of one IPv6 flow is returned for another. -/
theorem lru_confuses_flows :
    ¬ WholeKey [CacheOp.update (flowFrom 1) ⟨7, 0⟩] (flowFrom 2) := by
  intro whole
  obtain ⟨update, last, -, exactly⟩ := whole ⟨7, 0⟩ rfl
  have stored : (flowFrom 1, (⟨7, 0⟩ : RealPosLru)) = update := Option.some.inj last
  rw [← stored] at exactly
  exact absurd exactly (by decide)

end UserspaceXdp.Maps
