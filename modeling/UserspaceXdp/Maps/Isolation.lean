import UserspaceXdp.Foundation.Interference
import UserspaceXdp.Maps.DevMap
import UserspaceXdp.Maps.LpmMap
import UserspaceXdp.Maps.LruMap

/-!
Contract: maps of one kind do not disturb each other.

The three kinds that `module/maps.cpp` registers keep one global store each, and
no operation looks at the map id: all maps of a kind are one map.

Owns: the operation tables of the three kinds, the condition under which an
operation on one map goes unnoticed by the others, and the two-run statement.

Does not own: maps of different kinds, which share nothing.
-/

namespace UserspaceXdp.Maps

open UserspaceXdp.Foundation

/-! ## The operation tables -/

inductive MapOp (Attr Key Value : Type) where
  | allocMap (attr : Attr)
  | elemLookup (key : Key)
  | elemUpdate (key : Key) (value : Value)
  | elemDelete (key : Key)
  | mapGetNextKey (key : Key)

/-- What an operation returns: nothing if the table has no such operation, a
code, the value behind the returned pointer, or a code and the next key. -/
inductive MapResult (Key Value : Type) where
  | unsupported
  | code (result : Int)
  | value (found : Option Value)
  | nextKey (result : Int) (key : Option Key)
deriving DecidableEq

def devMapOps (map : DevHashMap) :
    MapOp Nat Int Int → MapResult Int Int × DevHashMap
  | .allocMap _ => (.unsupported, map)
  | .elemLookup k => (.value (elemLookupStatic map k), map)
  | .elemUpdate k v =>
      let (result, map) := elemUpdateStatic map k v
      (.code result, map)
  | .elemDelete k =>
      let (result, map) := elemDeleteStatic map k
      (.code result, map)
  | .mapGetNextKey k =>
      let (result, next) := elemGetNextKeyStatic map k
      (.nextKey result next, map)

def lpmMapOps (map : LpmMap) :
    MapOp Nat (List UInt8) Int → MapResult (List UInt8) Int × LpmMap
  | .allocMap keySize => (.code 0, lpmAllocMap map keySize)
  | .elemLookup key =>
      let (found, map) := lpmElemLookup map key
      (.value found, map)
  | .elemUpdate key value => (.code 0, lpmElemUpdate map key value)
  | .elemDelete _ => (.code lpmElemDelete, map)
  | .mapGetNextKey _ => (.unsupported, map)

def lruHashMapOps (map : LruMap) :
    MapOp Nat FlowKey RealPosLru → MapResult FlowKey RealPosLru × LruMap
  | .allocMap _ => (.unsupported, map)
  | .elemLookup key =>
      let (found, map) := lruHashMapElemLookup map key
      (.value found, map)
  | .elemUpdate key value => (.code 0, lruHashMapElemUpdate map key value)
  | .elemDelete key =>
      let (result, map) := lruHashMapElemDelete map key
      (.code result, map)
  | .mapGetNextKey key =>
      let (result, map) := lruHashMapGetNextKey map key
      (.nextKey result none, map)

/-! ## Harmless operations -/

/-- An update with the value that is there, a delete of a key that is not. -/
def devHarmless (map : DevHashMap) : MapOp Nat Int Int → Prop
  | .elemUpdate k v => elemLookupStatic map k = some v
  | .elemDelete k => elemLookupStatic map k = none
  | _ => True

/-- An allocation of an empty trie with the same key size, an update on a path
that has a value. -/
def lpmHarmless (map : LpmMap) : MapOp Nat (List UInt8) Int → Prop
  | .allocMap keySize =>
      (∀ path, map.trie.value path = none) ∧ keySize % 2 ^ 8 = map.keySize % 2 ^ 8
  | .elemUpdate key _ =>
      map.keySize % 2 ^ 8 = 0 ∨
        (map.trie.value (putPath (keyByte key) (map.keySize % 2 ^ 8))).isSome
  | _ => True

/-- A lookup that misses or is of the most recent key, an update of the most
recent key with its value. -/
def lruHarmless (map : LruMap) : MapOp Nat FlowKey RealPosLru → Prop
  | .elemLookup key =>
      (∀ node ∈ map.cache.keys, (node.key == key) = false) ∨
        ∃ front rest, map.cache.keys = front :: rest ∧ (front.key == key) = true
  | .elemUpdate key value =>
      ∃ front rest, map.cache.keys = front :: rest ∧ (front.key == key) = true ∧
        front.value = value
  | _ => True

/-! ## What no result shows -/

theorem devMapOps_unwinding : Unwinding devMapOps devHarmless Eq where
  result := by
    intro left right same operation
    rw [same]
  step := by
    intro left right same operation
    rw [same]
  silent := by
    intro left right same operation harmless
    rw [← same]
    cases operation with
    | allocMap attr => rfl
    | elemLookup k => rfl
    | elemUpdate k v => exact elemUpdateStatic_same harmless
    | elemDelete k => exact elemDeleteStatic_absent harmless
    | mapGetNextKey k => rfl

/-- The tries store the same and the keys are read the same way. The nodes and
the global `as` may differ. -/
structure SameLpm (left right : LpmMap) : Prop where
  keySize : left.keySize % 2 ^ 8 = right.keySize % 2 ^ 8
  tries : left.keySize % 2 ^ 8 ≠ 0 → left.trie.Valid ∧ right.trie.Valid ∧
    left.trie.value [] = none ∧ ∀ path, left.trie.value path = right.trie.value path

theorem sameLpm_alloc (left right : LpmMap) (keySize : Nat) :
    SameLpm (lpmAllocMap left keySize) (lpmAllocMap right keySize) where
  keySize := rfl
  tries := by
    intro _
    obtain ⟨leftValid, leftEmpty⟩ := trieInit_spec left.trie
    obtain ⟨rightValid, rightEmpty⟩ := trieInit_spec right.trie
    exact ⟨leftValid, rightValid, leftEmpty [],
      fun path => (leftEmpty path).trans (rightEmpty path).symm⟩

/-- A put on two tries that store the same. -/
theorem SameLpm.update {left right : LpmMap} (same : SameLpm left right) (key : List UInt8)
    (value : Int) : SameLpm (lpmElemUpdate left key value) (lpmElemUpdate right key value) where
  keySize := same.keySize
  tries := by
    intro reads
    obtain ⟨leftValid, rightValid, empty, equal⟩ := same.tries reads
    have positive := Nat.pos_of_ne_zero reads
    obtain ⟨leftAfter, leftValue⟩ :=
      trieNodePut_spec leftValid (keyByte key) (left.keySize % 2 ^ 8) value positive
    obtain ⟨rightAfter, rightValue⟩ :=
      trieNodePut_spec rightValid (keyByte key) (left.keySize % 2 ^ 8) value positive
    have rightIs : (lpmElemUpdate right key value).trie =
        trieNodePut right.trie (keyByte key) (left.keySize % 2 ^ 8) value := by
      rw [lpmElemUpdate, same.keySize]
    rw [rightIs]
    refine ⟨leftAfter, rightAfter, ?_, fun path => ?_⟩
    · have nonempty : putPath (keyByte key) (left.keySize % 2 ^ 8) ≠ [] := by
        rw [← List.length_pos_iff, putPath, List.length_map, List.length_range]
        exact positive
      exact (leftValue []).trans (by rw [empty, if_neg nonempty]; rfl)
    · exact (leftValue path).trans ((congrArg (Option.or · _) (equal path)).trans
        (rightValue path).symm)

theorem SameLpm.search {left right : LpmMap} (same : SameLpm left right) (key : List UInt8) :
    (lpmElemLookup left key).1 = (lpmElemLookup right key).1 := by
  rw [lpmElemLookup, lpmElemLookup, ← same.keySize]
  by_cases nothing : left.keySize % 2 ^ 8 = 0
  · rw [nothing]
    rfl
  · obtain ⟨-, -, empty, equal⟩ := same.tries nothing
    have tables : left.trie.value = right.trie.value := funext equal
    rw [trieNodeSearch_eq empty, trieNodeSearch_eq (tables ▸ empty), tables]
    cases longestMatch right.trie.value (addressBits (keyByte key) (left.keySize % 2 ^ 8)) <;> rfl

theorem lpmMapOps_unwinding : Unwinding lpmMapOps lpmHarmless SameLpm where
  result := by
    intro left right same operation
    cases operation with
    | elemLookup key => exact congrArg MapResult.value (same.search key)
    | allocMap keySize => rfl
    | elemUpdate key value => rfl
    | elemDelete key => rfl
    | mapGetNextKey key => rfl
  step := by
    intro left right same operation
    cases operation with
    | allocMap keySize => exact sameLpm_alloc left right keySize
    | elemLookup key => exact ⟨same.keySize, same.tries⟩
    | elemUpdate key value => exact same.update key value
    | elemDelete key => exact same
    | mapGetNextKey key => exact same
  silent := by
    intro left right same operation harmless
    cases operation with
    | allocMap keySize =>
        obtain ⟨nothing, sameSize⟩ := harmless
        refine ⟨sameSize.trans same.keySize, fun reads => ?_⟩
        obtain ⟨-, rightValid, -, equal⟩ := same.tries (sameSize ▸ reads)
        obtain ⟨valid, empty⟩ := trieInit_spec left.trie
        exact ⟨valid, rightValid, empty [],
          fun path => (empty path).trans ((nothing path).symm.trans (equal path))⟩
    | elemLookup key => exact ⟨same.keySize, same.tries⟩
    | elemUpdate key value =>
        have unchanged : lpmElemUpdate left key value = left := by
          rw [lpmElemUpdate]
          rcases harmless with nothing | taken
          · rw [nothing, trieNodePut_zero]
          · rw [trieNodePut_taken taken]
        change SameLpm (lpmElemUpdate left key value) right
        rw [unchanged]
        exact same
    | elemDelete key => exact same
    | mapGetNextKey key => exact same

/-- The caches are equal. The copy in `value_local` may differ. -/
structure SameLru (left right : LruMap) : Prop where
  cache : left.cache = right.cache
  valid : left.cache.Valid
  maxSize : 0 < left.cache.maxSize

theorem SameLru.update {left right : LruMap} (same : SameLru left right) (key : FlowKey)
    (value : RealPosLru) :
    SameLru (lruHashMapElemUpdate left key value) (lruHashMapElemUpdate right key value) where
  cache := congrArg (fun cache => cache.insert key value) same.cache
  valid := (same.valid.insert_spec same.maxSize key value).1
  maxSize := by
    have sizes := (step_sizes ⟨left.cache, [], []⟩ (.update key value)).1
    exact same.maxSize.trans_eq sizes.symm

theorem SameLru.lookup {left right : LruMap} (same : SameLru left right) (key : FlowKey) :
    SameLru (lruHashMapElemLookup left key).2 (lruHashMapElemLookup right key).2 where
  cache := congrArg (fun cache => (cache.tryGetRef key).2) same.cache
  valid := (same.valid.tryGetRef_spec key).1
  maxSize := by
    have sizes := (step_sizes ⟨left.cache, [], []⟩ (.lookup key)).1
    exact same.maxSize.trans_eq sizes.symm

theorem lruHashMapOps_unwinding : Unwinding lruHashMapOps lruHarmless SameLru where
  result := by
    intro left right same operation
    cases operation with
    | elemLookup key =>
        exact congrArg (fun cache => MapResult.value (cache.tryGetRef key).1) same.cache
    | allocMap attr => rfl
    | elemUpdate key value => rfl
    | elemDelete key => rfl
    | mapGetNextKey key => rfl
  step := by
    intro left right same operation
    cases operation with
    | allocMap attr => exact same
    | elemLookup key => exact same.lookup key
    | elemUpdate key value => exact same.update key value
    | elemDelete key => exact same
    | mapGetNextKey key => exact same
  silent := by
    intro left right same operation harmless
    cases operation with
    | allocMap attr => exact same
    | elemLookup key =>
        have unchanged : (left.cache.tryGetRef key).2 = left.cache := by
          rcases harmless with absent | ⟨front, rest, first, equal⟩
          · cases found : left.cache.find key with
            | none => rw [Cache.tryGetRef_miss found]
            | some number =>
                obtain ⟨node, member, -, equal, -⟩ := same.valid.find_some found
                rw [absent node member] at equal
                cases equal
          · exact same.valid.tryGetRef_front first equal
        exact
          { cache := unchanged.trans same.cache
            valid := (same.lookup key).valid
            maxSize := (same.lookup key).maxSize }
    | elemUpdate key value =>
        obtain ⟨front, rest, first, equal, stored⟩ := harmless
        have unchanged : left.cache.insert key value = left.cache := by
          rw [← stored]
          exact same.valid.insert_front first equal
        exact
          { cache := unchanged.trans same.cache
            valid := (same.update key value).valid
            maxSize := (same.update key value).maxSize }
    | elemDelete key => exact same
    | mapGetNextKey key => exact same

/-! ## Isolation -/

/-- For each of the three kinds and each map: in every interleaving whose
operations on other maps are harmless in the states they meet, the operations on
the map return what they would return without the others. -/
theorem maps_isolated_of_harmless (id : Int) :
    (∀ events : List (Int × MapOp Nat Int Int),
      Undisturbing devMapOps devHarmless id emptyDevHashMap events →
        resultsOf devMapOps id emptyDevHashMap events =
          resultsOf devMapOps id emptyDevHashMap (alone id events)) ∧
    (∀ events : List (Int × MapOp Nat (List UInt8) Int),
      Undisturbing lpmMapOps lpmHarmless id zeroLpmMap events →
        resultsOf lpmMapOps id zeroLpmMap events =
          resultsOf lpmMapOps id zeroLpmMap (alone id events)) ∧
    (∀ events : List (Int × MapOp Nat FlowKey RealPosLru),
      Undisturbing lruHashMapOps lruHarmless id emptyLruMap events →
        resultsOf lruHashMapOps id emptyLruMap events =
          resultsOf lruHashMapOps id emptyLruMap (alone id events)) := by
  refine ⟨fun events quiet => ?_, fun events quiet => ?_, fun events quiet => ?_⟩
  · exact devMapOps_unwinding.resultsOf_alone rfl quiet
  · apply lpmMapOps_unwinding.resultsOf_alone _ quiet
    exact ⟨rfl, fun reads => absurd rfl reads⟩
  · apply lruHashMapOps_unwinding.resultsOf_alone _ quiet
    exact ⟨rfl, Cache.valid_empty _ _, by decide⟩

/-- Another map's lookups, and its updates of what is there. -/
def devSharing : List (Int × MapOp Nat Int Int) :=
  [(1, .elemUpdate 5 9), (2, .elemUpdate 5 9), (2, .elemLookup 5), (1, .elemLookup 5)]

def lpmSharing : List (Int × MapOp Nat (List UInt8) Int) :=
  [(1, .allocMap 8), (1, .elemUpdate (lpmKey 32 [10, 0, 0, 1]) 7),
    (2, .elemLookup (lpmKey 32 [10, 0, 0, 2])), (2, .elemUpdate (lpmKey 32 [10, 0, 0, 2]) 8),
    (1, .elemLookup (lpmKey 32 [10, 0, 0, 1]))]

def lruSharing : List (Int × MapOp Nat FlowKey RealPosLru) :=
  [(1, .elemUpdate (flowTo 1) ⟨7, 0⟩), (2, .elemLookup (flowTo 1)),
    (2, .elemUpdate (flowTo 1) ⟨7, 0⟩), (2, .elemLookup (flowTo 2)), (1, .elemLookup (flowTo 1))]

theorem maps_undisturbed_by_repeated_updates :
    resultsOf devMapOps (1 : Int) emptyDevHashMap devSharing =
        resultsOf devMapOps (1 : Int) emptyDevHashMap (alone 1 devSharing) ∧
      resultsOf lpmMapOps (1 : Int) zeroLpmMap lpmSharing =
        resultsOf lpmMapOps (1 : Int) zeroLpmMap (alone 1 lpmSharing) ∧
      resultsOf lruHashMapOps (1 : Int) emptyLruMap lruSharing =
        resultsOf lruHashMapOps (1 : Int) emptyLruMap (alone 1 lruSharing) := by
  refine ⟨(maps_isolated_of_harmless 1).1 _ ?_, (maps_isolated_of_harmless 1).2.1 _ ?_,
    (maps_isolated_of_harmless 1).2.2 _ ?_⟩
  · exact ⟨fun other => absurd rfl other, fun _ => rfl, fun _ => trivial,
      fun other => absurd rfl other, trivial⟩
  · exact ⟨fun other => absurd rfl other, fun other => absurd rfl other, fun _ => trivial,
      fun _ => Or.inr (by decide +kernel), fun other => absurd rfl other, trivial⟩
  · exact ⟨fun other => absurd rfl other, fun _ => Or.inr ⟨_, _, rfl, rfl⟩,
      fun _ => ⟨_, _, rfl, rfl, rfl⟩, fun _ => Or.inl (by decide +kernel),
      fun other => absurd rfl other, trivial⟩

/-- What is stored in one map is found in another of the same kind. -/
theorem maps_of_a_kind_are_shared :
    resultsOf devMapOps (1 : Int) emptyDevHashMap [(2, .elemUpdate 5 9), (1, .elemLookup 5)] ≠
        resultsOf devMapOps (1 : Int) emptyDevHashMap [(1, .elemLookup 5)] ∧
      resultsOf lpmMapOps (1 : Int) zeroLpmMap
          [(1, .allocMap 8), (1, .elemUpdate (lpmKey 32 [10, 0, 0, 1]) 7), (2, .allocMap 20),
            (1, .elemLookup (lpmKey 32 [10, 0, 0, 1]))] ≠
        resultsOf lpmMapOps (1 : Int) zeroLpmMap
          [(1, .allocMap 8), (1, .elemUpdate (lpmKey 32 [10, 0, 0, 1]) 7),
            (1, .elemLookup (lpmKey 32 [10, 0, 0, 1]))] ∧
      resultsOf lruHashMapOps (1 : Int) emptyLruMap
          [(2, .elemUpdate (flowTo 1) ⟨7, 0⟩), (1, .elemLookup (flowTo 1))] ≠
        resultsOf lruHashMapOps (1 : Int) emptyLruMap [(1, .elemLookup (flowTo 1))] := by
  decide +kernel

end UserspaceXdp.Maps
