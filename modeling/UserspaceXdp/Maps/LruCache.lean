import UserspaceXdp.Foundation.Recency

/-!
Contract: the cache of `module/LRUCache11.hpp`.

Owns: `insert`, `tryGetRef` and `prune` on the list `keys_` and the map
`cache_`, and the invariant that ties the two together.

Does not own: the lock (a no-op here) and the operations that no map uses. An
iterator of `keys_` is the number of its node; a node keeps its number when it
moves. Keys are compared with `==` as `std::unordered_map` does.
-/

namespace UserspaceXdp.Maps

open UserspaceXdp.Foundation

/-! ## The cache -/

/-- A node of `keys_`, with the number that its iterators hold. -/
structure CacheNode (Key Value : Type) where
  number : Nat
  key : Key
  value : Value
deriving DecidableEq, Repr

structure Cache (Key Value : Type) where
  cache : List (Key × Nat)
  keys : List (CacheNode Key Value)
  maxSize : Nat
  elasticity : Nat
  nextNumber : Nat
deriving DecidableEq, Repr

namespace Cache

variable {Key Value : Type} [BEq Key]

def empty (maxSize elasticity : Nat) : Cache Key Value :=
  { cache := [], keys := [], maxSize := maxSize, elasticity := elasticity, nextNumber := 0 }

/-- `cache_.find(k)`: the iterator that is stored for the key. -/
def find (cache : Cache Key Value) (key : Key) : Option Nat :=
  (cache.cache.find? fun entry => entry.1 == key).map Prod.snd

/-- `keys_.splice(keys_.begin(), keys_, iter)`. -/
def splice (keys : List (CacheNode Key Value)) (number : Nat) : List (CacheNode Key Value) :=
  (keys.filter fun node => node.number == number) ++
    keys.filter fun node => !(node.number == number)

/-- `iter->value = v`. -/
def setValue (keys : List (CacheNode Key Value)) (number : Nat) (value : Value) :
    List (CacheNode Key Value) :=
  keys.map fun node => if node.number == number then { node with value := value } else node

/-- The loop of `prune`, on the nodes from the back. -/
def pruneLoop (maxSize : Nat) (cache : List (Key × Nat)) :
    List (CacheNode Key Value) → List (Key × Nat) × List (CacheNode Key Value)
  | [] => (cache, [])
  | node :: rest =>
      if maxSize < cache.length then
        pruneLoop maxSize (cache.filter fun entry => !(entry.1 == node.key)) rest
      else (cache, node :: rest)

def prune (cache : Cache Key Value) : Cache Key Value :=
  let maxAllowed := cache.maxSize + cache.elasticity
  if cache.maxSize = 0 ∨ cache.cache.length < maxAllowed then cache
  else
    let pruned := pruneLoop cache.maxSize cache.cache cache.keys.reverse
    { cache with cache := pruned.1, keys := pruned.2.reverse }

def insert (cache : Cache Key Value) (key : Key) (value : Value) : Cache Key Value :=
  match cache.find key with
  | some number =>
      { cache with keys := splice (setValue cache.keys number value) number }
  | none =>
      prune
        { cache with
          cache := (key, cache.nextNumber) :: cache.cache
          keys := ⟨cache.nextNumber, key, value⟩ :: cache.keys
          nextNumber := cache.nextNumber + 1 }

/-- The value, if the key is there, and the cache after it. -/
def tryGetRef (cache : Cache Key Value) (key : Key) : Option Value × Cache Key Value :=
  match cache.find key with
  | none => (none, cache)
  | some number =>
      let keys := splice cache.keys number
      (keys.head?.map CacheNode.value, { cache with keys := keys })

/-! ## The invariant -/

/-- The entry of `cache_` for a node. -/
def entry (node : CacheNode Key Value) : Key × Nat :=
  (node.key, node.number)

/-- `cache_` has an iterator for each node of `keys_` and nothing else, and no
two nodes have equal keys or the same number. -/
structure Valid (cache : Cache Key Value) : Prop where
  mapped : (cache.keys.map entry).Perm cache.cache
  distinct : cache.keys.Pairwise fun left right => (left.key == right.key) = false
  numbered : cache.keys.Pairwise fun left right => left.number ≠ right.number
  issued : ∀ node ∈ cache.keys, node.number < cache.nextNumber

theorem valid_empty (maxSize elasticity : Nat) :
    (empty maxSize elasticity : Cache Key Value).Valid where
  mapped := List.Perm.refl _
  distinct := List.Pairwise.nil
  numbered := List.Pairwise.nil
  issued := nofun

variable {cache : Cache Key Value}

theorem Valid.size (valid : cache.Valid) : cache.cache.length = cache.keys.length := by
  rw [← valid.mapped.length_eq, List.length_map]

theorem Valid.eq_of_number (valid : cache.Valid) {left right : CacheNode Key Value}
    (leftMember : left ∈ cache.keys) (rightMember : right ∈ cache.keys)
    (same : left.number = right.number) : left = right := by
  by_contra different
  have symmetric : Std.Symm fun left right : CacheNode Key Value => left.number ≠ right.number :=
    ⟨fun _ _ => Ne.symm⟩
  exact valid.numbered.forall leftMember rightMember different same

/-- A miss: no node has the key. -/
theorem Valid.find_none (valid : cache.Valid) {key : Key} (missing : cache.find key = none)
    {node : CacheNode Key Value} (member : node ∈ cache.keys) : (node.key == key) = false := by
  rw [find, Option.map_eq_none_iff, List.find?_eq_none] at missing
  have listed : entry node ∈ cache.cache :=
    valid.mapped.subset (List.mem_map_of_mem member)
  exact Bool.eq_false_of_not_eq_true (missing (entry node) listed)

variable [EquivBEq Key]

theorem Valid.eq_of_key (valid : cache.Valid) {left right : CacheNode Key Value}
    (leftMember : left ∈ cache.keys) (rightMember : right ∈ cache.keys)
    (same : (left.key == right.key) = true) : left = right := by
  by_contra different
  have symmetric : Std.Symm fun left right : CacheNode Key Value =>
      (left.key == right.key) = false := ⟨fun _ _ differ => BEq.comm.trans differ⟩
  have differ := valid.distinct.forall leftMember rightMember different
  rw [same] at differ
  cases differ

/-- A hit: the iterator is that of the node with the key. -/
theorem Valid.find_some (valid : cache.Valid) {key : Key} {number : Nat}
    (found : cache.find key = some number) :
    ∃ node ∈ cache.keys, node.number = number ∧ (node.key == key) = true ∧
      ∀ other ∈ cache.keys, (other.number == number) = (other.key == key) := by
  rw [find, Option.map_eq_some_iff] at found
  obtain ⟨listed, hit, rfl⟩ := found
  have member := List.mem_of_find?_eq_some hit
  have equal := List.find?_some hit
  rw [← valid.mapped.mem_iff] at member
  obtain ⟨node, present, rfl⟩ := List.mem_map.mp member
  refine ⟨node, present, rfl, equal, fun other otherPresent => ?_⟩
  rw [Bool.eq_iff_iff]
  constructor
  · intro same
    rw [valid.eq_of_number otherPresent present (eq_of_beq same)]
    exact equal
  · intro same
    rw [valid.eq_of_key otherPresent present (BEq.trans same (BEq.symm equal))]
    exact BEq.rfl

/-! ## Operations -/

/-- The nodes with other keys. -/
def apart (key : Key) (keys : List (CacheNode Key Value)) : List (CacheNode Key Value) :=
  keys.filter fun node => !(node.key == key)

omit [BEq Key] [EquivBEq Key] in
private theorem filter_number {keys : List (CacheNode Key Value)}
    (numbered : keys.Pairwise fun left right => left.number ≠ right.number)
    {node : CacheNode Key Value} (member : node ∈ keys) :
    (keys.filter fun other => other.number == node.number) = [node] := by
  induction keys with
  | nil => cases member
  | cons first rest inductionHypothesis =>
      obtain ⟨away, numbered⟩ := List.pairwise_cons.mp numbered
      rcases List.mem_cons.mp member with rfl | later
      · have nothing : (rest.filter fun other => other.number == node.number) = [] := by
          rw [List.filter_eq_nil_iff]
          intro other otherMember same
          exact away other otherMember (eq_of_beq same).symm
        rw [List.filter_cons_of_pos (by simp), nothing]
      · have different : ¬ (first.number == node.number) = true := by
          intro same
          exact away node later (eq_of_beq same)
        rw [List.filter_cons, if_neg different, inductionHypothesis numbered later]

omit [BEq Key] [EquivBEq Key] in
private theorem filter_number_setValue (keys : List (CacheNode Key Value)) (number : Nat)
    (value : Value) :
    splice (setValue keys number value) number =
      ((keys.filter fun node => node.number == number).map fun node =>
        { node with value := value }) ++
        keys.filter fun node => !(node.number == number) := by
  unfold splice
  congr 1
  · induction keys with
    | nil => rfl
    | cons node rest inductionHypothesis =>
        by_cases same : node.number = number
        · simpa [setValue, same] using inductionHypothesis
        · simpa [setValue, same] using inductionHypothesis
  · induction keys with
    | nil => rfl
    | cons node rest inductionHypothesis =>
        by_cases same : node.number = number
        · simpa [setValue, same] using inductionHypothesis
        · simpa [setValue, same] using inductionHypothesis

/-- A hit moves the node of the key to the front. -/
theorem Valid.tryGetRef_hit (valid : cache.Valid) {key : Key} {number : Nat}
    (found : cache.find key = some number) :
    ∃ node ∈ cache.keys, (node.key == key) = true ∧
      cache.tryGetRef key =
        (some node.value, { cache with keys := node :: apart key cache.keys }) := by
  obtain ⟨node, member, rfl, equal, exactly⟩ := valid.find_some found
  have spliced : splice cache.keys node.number = node :: apart key cache.keys := by
    rw [splice, filter_number valid.numbered member, apart, List.singleton_append]
    congr 1
    apply List.filter_congr
    intro other otherMember
    rw [exactly other otherMember]
  refine ⟨node, member, equal, ?_⟩
  rw [tryGetRef, found]
  simp only [spliced, List.head?_cons, Option.map_some]

omit [EquivBEq Key] in
theorem tryGetRef_miss {key : Key} (missing : cache.find key = none) :
    cache.tryGetRef key = (none, cache) := by
  rw [tryGetRef, missing]

/-- An update of a key that is there replaces the value and moves the node. -/
theorem Valid.insert_hit (valid : cache.Valid) {key : Key} {number : Nat}
    (found : cache.find key = some number) (value : Value) :
    ∃ node ∈ cache.keys, (node.key == key) = true ∧
      cache.insert key value =
        { cache with keys := { node with value := value } :: apart key cache.keys } := by
  obtain ⟨node, member, rfl, equal, exactly⟩ := valid.find_some found
  refine ⟨node, member, equal, ?_⟩
  rw [insert, found]
  simp only [filter_number_setValue, filter_number valid.numbered member, List.map_cons,
    List.map_nil, List.singleton_append]
  congr 2
  apply List.filter_congr
  intro other otherMember
  rw [exactly other otherMember]

/-- A new node in front. -/
def push (cache : Cache Key Value) (key : Key) (value : Value) : Cache Key Value :=
  { cache with
    cache := (key, cache.nextNumber) :: cache.cache
    keys := ⟨cache.nextNumber, key, value⟩ :: cache.keys
    nextNumber := cache.nextNumber + 1 }

omit [EquivBEq Key] in
theorem insert_miss {key : Key} (missing : cache.find key = none) (value : Value) :
    cache.insert key value = (cache.push key value).prune := by
  rw [insert, missing]
  rfl

/-! ## The operations keep the invariant -/

/-- The node of the key moves to the front, perhaps with a new value. -/
theorem Valid.touch (valid : cache.Valid) {key : Key} {node moved : CacheNode Key Value}
    (member : node ∈ cache.keys) (equal : (node.key == key) = true)
    (same : entry moved = entry node) :
    ({ cache with keys := moved :: apart key cache.keys } : Cache Key Value).Valid := by
  obtain ⟨sameKey, sameNumber⟩ := Prod.mk.inj same
  have others (other : CacheNode Key Value) (inside : other ∈ apart key cache.keys) :
      other ∈ cache.keys ∧ (other.key == key) = false := by
    rw [apart, List.mem_filter, Bool.not_eq_true'] at inside
    exact inside
  have front : (cache.keys.filter fun other => other.key == key) = [node] := by
    have single := filter_number valid.numbered member
    rw [← single]
    apply List.filter_congr
    intro other otherMember
    rw [Bool.eq_iff_iff]
    constructor
    · intro otherEqual
      rw [valid.eq_of_key otherMember member (BEq.trans otherEqual (BEq.symm equal))]
      exact BEq.rfl
    · intro otherSame
      rw [valid.eq_of_number otherMember member (eq_of_beq otherSame)]
      exact equal
  exact
    { mapped := by
        have split : (node :: apart key cache.keys).Perm cache.keys := by
          rw [← List.singleton_append, ← front, apart]
          exact List.filter_append_perm _ _
        have mappedSplit := split.map entry
        rw [List.map_cons, ← same] at mappedSplit
        exact mappedSplit.trans valid.mapped
      distinct := by
        rw [List.pairwise_cons]
        refine ⟨fun other inside => ?_, valid.distinct.filter _⟩
        rw [sameKey, BEq.comm]
        exact BEq.comm.trans (bne_of_beq equal (BEq.comm.trans (others other inside).2))
      numbered := by
        rw [List.pairwise_cons]
        refine ⟨fun other inside equalNumber => ?_, valid.numbered.filter _⟩
        have identical := valid.eq_of_number (others other inside).1 member
          (equalNumber.symm.trans sameNumber)
        rw [← identical, (others other inside).2] at equal
        cases equal
      issued := by
        intro other inside
        rcases List.mem_cons.mp inside with rfl | inside
        · rw [sameNumber]
          exact valid.issued node member
        · exact valid.issued other (others other inside).1 }

theorem Valid.push (valid : cache.Valid) {key : Key} (missing : cache.find key = none)
    (value : Value) : (cache.push key value).Valid where
  mapped := valid.mapped.cons _
  distinct := by
    rw [Cache.push, List.pairwise_cons]
    refine ⟨fun other member => ?_, valid.distinct⟩
    exact BEq.comm.trans (valid.find_none missing member)
  numbered := by
    rw [Cache.push, List.pairwise_cons]
    refine ⟨fun other member => ?_, valid.numbered⟩
    exact Nat.ne_of_gt (valid.issued other member)
  issued := by
    intro other member
    rcases List.mem_cons.mp member with rfl | member
    · exact Nat.lt_succ_self _
    · exact Nat.lt_succ_of_lt (valid.issued other member)

/-- The loop drops nodes from the back until `maxSize` are left. -/
private theorem pruneLoop_spec (maxSize : Nat) (entries : List (Key × Nat))
    {nodes : List (CacheNode Key Value)} (mapped : (nodes.map entry).Perm entries)
    (distinct : nodes.Pairwise fun left right => (left.key == right.key) = false) :
    (pruneLoop maxSize entries nodes).2 = nodes.drop (nodes.length - maxSize) ∧
      ((nodes.drop (nodes.length - maxSize)).map entry).Perm
        (pruneLoop maxSize entries nodes).1 := by
  induction nodes generalizing entries with
  | nil =>
      rw [List.drop_nil]
      exact ⟨rfl, mapped⟩
  | cons node rest inductionHypothesis =>
      have size : entries.length = rest.length + 1 := by
        rw [← mapped.length_eq, List.length_map, List.length_cons]
      rw [pruneLoop]
      by_cases exceeds : maxSize < entries.length
      · rw [if_pos exceeds]
        obtain ⟨away, distinct⟩ := List.pairwise_cons.mp distinct
        have kept : ((node :: rest).map entry).filter (fun listed => !(listed.1 == node.key)) =
            rest.map entry := by
          have first : ¬ (!((entry node).1 == node.key)) = true := by simp [entry]
          rw [List.map_cons, List.filter_cons, if_neg first, List.filter_eq_self]
          intro listed member
          obtain ⟨other, otherMember, rfl⟩ := List.mem_map.mp member
          have differ := away other otherMember
          rw [BEq.comm] at differ
          simp [entry, differ]
        have remaining : (rest.map entry).Perm
            (entries.filter fun listed => !(listed.1 == node.key)) := by
          rw [← kept]
          exact mapped.filter _
        have steps : (node :: rest).length - maxSize = rest.length - maxSize + 1 := by
          rw [List.length_cons]
          omega
        rw [steps, List.drop_succ_cons]
        exact inductionHypothesis _ remaining distinct
      · have steps : (node :: rest).length - maxSize = 0 := by
          rw [List.length_cons]
          omega
        rw [if_neg exceeds, steps]
        exact ⟨rfl, mapped⟩

omit [EquivBEq Key] in
theorem prune_maxSize (cache : Cache Key Value) : cache.prune.maxSize = cache.maxSize := by
  unfold prune
  dsimp only
  split <;> rfl

omit [EquivBEq Key] in
theorem prune_elasticity (cache : Cache Key Value) :
    cache.prune.elasticity = cache.elasticity := by
  unfold prune
  dsimp only
  split <;> rfl

/-- `prune` keeps the cache, or its first `maxSize` nodes if it is full. -/
theorem Valid.prune_spec (valid : cache.Valid) (positive : 0 < cache.maxSize) :
    cache.prune.Valid ∧ cache.prune.keys =
      if cache.keys.length < cache.maxSize + cache.elasticity then cache.keys
      else cache.keys.take cache.maxSize := by
  unfold prune
  rw [valid.size]
  by_cases room : cache.keys.length < cache.maxSize + cache.elasticity
  · rw [if_pos (Or.inr room), if_pos room]
    exact ⟨valid, rfl⟩
  · rw [if_neg (by omega), if_neg room]
    dsimp only
    have mapped : (cache.keys.reverse.map entry).Perm cache.cache := by
      rw [List.map_reverse]
      exact (List.reverse_perm _).trans valid.mapped
    have distinct : cache.keys.reverse.Pairwise fun left right =>
        (left.key == right.key) = false := by
      rw [List.pairwise_reverse]
      exact valid.distinct.imp fun differ => BEq.comm.trans differ
    obtain ⟨nodes, entries⟩ := pruneLoop_spec cache.maxSize cache.cache mapped distinct
    have kept : (cache.keys.reverse.drop (cache.keys.reverse.length - cache.maxSize)).reverse =
        cache.keys.take cache.maxSize := by
      rw [List.drop_reverse, List.reverse_reverse, List.length_reverse]
      congr 1
      omega
    have left : (pruneLoop cache.maxSize cache.cache cache.keys.reverse).2.reverse =
        cache.keys.take cache.maxSize := by
      rw [nodes, kept]
    refine ⟨?_, left⟩
    exact
      { mapped := by
          rw [left, ← kept, List.map_reverse]
          exact (List.reverse_perm _).trans entries
        distinct := by
          rw [left]
          exact valid.distinct.take
        numbered := by
          rw [left]
          exact valid.numbered.take
        issued := by
          rw [left]
          exact fun node member => valid.issued node (List.mem_of_mem_take member) }

/-! ## Contents -/

/-- What `insert` leaves: the key with its new value, and old nodes with other
keys, as they were. -/
theorem Valid.insert_spec (valid : cache.Valid) (positive : 0 < cache.maxSize) (key : Key)
    (value : Value) :
    (cache.insert key value).Valid ∧
      (∃ node ∈ (cache.insert key value).keys, (node.key == key) = true) ∧
      ∀ node ∈ (cache.insert key value).keys,
        ((node.key == key) = true ∧ node.value = value) ∨
          ((node.key == key) = false ∧ node ∈ cache.keys) := by
  cases found : cache.find key with
  | none =>
      obtain ⟨after, keys⟩ := (valid.push found value).prune_spec positive
      have front : (cache.push key value).keys = ⟨cache.nextNumber, key, value⟩ :: cache.keys := rfl
      rw [insert_miss found]
      refine ⟨after, ⟨⟨cache.nextNumber, key, value⟩, ?_, BEq.rfl⟩, ?_⟩
      · rw [keys, front]
        split
        · exact List.mem_cons_self
        · have nonempty : (cache.push key value).maxSize = cache.maxSize - 1 + 1 :=
            (Nat.succ_pred_eq_of_pos positive).symm
          rw [nonempty, List.take_succ_cons]
          exact List.mem_cons_self
      · intro node member
        have pushed : node ∈ (cache.push key value).keys := by
          rw [keys] at member
          split at member
          · exact member
          · exact List.mem_of_mem_take member
        rcases List.mem_cons.mp pushed with rfl | older
        · exact Or.inl ⟨BEq.rfl, rfl⟩
        · exact Or.inr ⟨valid.find_none found older, older⟩
  | some number =>
      obtain ⟨node, member, equal, after⟩ := valid.insert_hit found value
      rw [after]
      refine ⟨valid.touch member equal rfl, ⟨_, List.mem_cons_self, equal⟩, ?_⟩
      intro other otherMember
      rcases List.mem_cons.mp otherMember with rfl | kept
      · exact Or.inl ⟨equal, rfl⟩
      · rw [apart, List.mem_filter, Bool.not_eq_true'] at kept
        exact Or.inr ⟨kept.2, kept.1⟩

/-- What `tryGetRef` returns, and that it only moves a node. -/
theorem Valid.tryGetRef_spec (valid : cache.Valid) (key : Key) :
    (cache.tryGetRef key).2.Valid ∧
      (∀ node, node ∈ (cache.tryGetRef key).2.keys ↔ node ∈ cache.keys) ∧
      ∀ value, (cache.tryGetRef key).1 = some value ↔
        ∃ node ∈ cache.keys, (node.key == key) = true ∧ node.value = value := by
  cases found : cache.find key with
  | none =>
      rw [tryGetRef_miss found]
      refine ⟨valid, fun _ => Iff.rfl, fun value => ?_⟩
      constructor
      · intro absurdity
        cases absurdity
      · intro ⟨node, member, equal, _⟩
        rw [valid.find_none found member] at equal
        cases equal
  | some number =>
      obtain ⟨node, member, equal, after⟩ := valid.tryGetRef_hit found
      rw [after]
      refine ⟨valid.touch member equal rfl, fun other => ?_, fun value => ?_⟩
      · rw [List.mem_cons, apart, List.mem_filter, Bool.not_eq_true']
        constructor
        · intro inside
          rcases inside with rfl | kept
          · exact member
          · exact kept.1
        · intro otherMember
          by_cases same : (other.key == key) = true
          · exact Or.inl (valid.eq_of_key otherMember member (BEq.trans same (BEq.symm equal)))
          · exact Or.inr ⟨otherMember, Bool.eq_false_of_not_eq_true same⟩
      · rw [Option.some.injEq]
        constructor
        · intro same
          exact ⟨node, member, equal, same⟩
        · intro ⟨other, otherMember, otherEqual, same⟩
          rw [valid.eq_of_key member otherMember (BEq.trans equal (BEq.symm otherEqual))]
          exact same

/-- The first node is that of the key. -/
private theorem Valid.touch_front (valid : cache.Valid) {key : Key}
    {front node : CacheNode Key Value} {rest : List (CacheNode Key Value)}
    (first : cache.keys = front :: rest) (equal : (front.key == key) = true)
    (member : node ∈ cache.keys) (nodeEqual : (node.key == key) = true) :
    node = front ∧ apart key cache.keys = rest := by
  have frontMember : front ∈ cache.keys := by
    rw [first]
    exact List.mem_cons_self
  refine ⟨valid.eq_of_key member frontMember (BEq.trans nodeEqual (BEq.symm equal)), ?_⟩
  have distinct := valid.distinct
  rw [first, List.pairwise_cons] at distinct
  rw [first, apart, List.filter_cons, if_neg (by simp [equal]), List.filter_eq_self]
  intro other otherMember
  rw [BEq.comm, bne_of_beq (BEq.symm equal) (distinct.1 other otherMember)]
  rfl

/-- An update of the most recent key with its value changes nothing. -/
theorem Valid.insert_front (valid : cache.Valid) {key : Key} {front : CacheNode Key Value}
    {rest : List (CacheNode Key Value)} (first : cache.keys = front :: rest)
    (equal : (front.key == key) = true) : cache.insert key front.value = cache := by
  cases found : cache.find key with
  | none =>
      have different := valid.find_none found (by rw [first]; exact List.mem_cons_self)
      rw [equal] at different
      cases different
  | some number =>
      obtain ⟨node, member, nodeEqual, after⟩ := valid.insert_hit found front.value
      obtain ⟨same, others⟩ := valid.touch_front first equal member nodeEqual
      rw [after, same, others, ← first]

/-- A lookup of the most recent key changes nothing. -/
theorem Valid.tryGetRef_front (valid : cache.Valid) {key : Key} {front : CacheNode Key Value}
    {rest : List (CacheNode Key Value)} (first : cache.keys = front :: rest)
    (equal : (front.key == key) = true) : (cache.tryGetRef key).2 = cache := by
  cases found : cache.find key with
  | none => rw [tryGetRef_miss found]
  | some number =>
      obtain ⟨node, member, nodeEqual, after⟩ := valid.tryGetRef_hit found
      obtain ⟨same, others⟩ := valid.touch_front first equal member nodeEqual
      rw [after, same, others, ← first]

end Cache

end UserspaceXdp.Maps
