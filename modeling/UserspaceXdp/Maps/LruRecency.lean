import UserspaceXdp.Maps.LruCache

/-!
Contract: which keys the cache keeps, and with which values.

A run is watched from outside: the keys it touched, in order, and the updates it
made. The list `keys_` is then the front of the recency list of the touched
keys, at least `maxSize` long if there are so many keys.

Owns: the contract of recency and capacity over every run.

Does not own: what the keys are.
-/

namespace UserspaceXdp.Maps

open UserspaceXdp.Foundation

variable {Key Value : Type} [BEq Key]

/-! ## Runs -/

inductive CacheOp (Key Value : Type) where
  | update (key : Key) (value : Value)
  | lookup (key : Key)
deriving Repr

/-- The cache, the keys touched by updates and successful lookups, and the
updates, both in the order of time. -/
structure CacheRun (Key Value : Type) where
  cache : Cache Key Value
  touched : List Key
  updated : List (Key × Value)

def CacheRun.step (run : CacheRun Key Value) : CacheOp Key Value → CacheRun Key Value
  | .update key value =>
      { cache := run.cache.insert key value
        touched := run.touched ++ [key]
        updated := run.updated ++ [(key, value)] }
  | .lookup key =>
      { run with
        cache := (run.cache.tryGetRef key).2
        touched :=
          if (run.cache.tryGetRef key).1.isSome then run.touched ++ [key] else run.touched }

def cacheRun (maxSize elasticity : Nat) (operations : List (CacheOp Key Value)) :
    CacheRun Key Value :=
  operations.foldl CacheRun.step ⟨Cache.empty maxSize elasticity, [], []⟩

/-- The value of the last update of a key. -/
def lastUpdate (updated : List (Key × Value)) (key : Key) : Option Value :=
  (updated.reverse.find? fun update => update.1 == key).map Prod.snd

theorem lastUpdate_concat (updated : List (Key × Value)) (key candidate : Key) (value : Value) :
    lastUpdate (updated ++ [(key, value)]) candidate =
      if key == candidate then some value else lastUpdate updated candidate := by
  unfold lastUpdate
  rw [List.reverse_append, List.reverse_singleton, List.singleton_append, List.find?_cons]
  by_cases same : (key == candidate) = true
  · simp [same]
  · simp [same]

variable [EquivBEq Key]

theorem lastUpdate_congr (updated : List (Key × Value)) {left right : Key}
    (same : (left == right) = true) : lastUpdate updated left = lastUpdate updated right := by
  unfold lastUpdate
  congr 2
  funext update
  rw [Bool.eq_iff_iff]
  exact ⟨fun equal => BEq.trans equal same, fun equal => BEq.trans equal (BEq.symm same)⟩

/-! ## The invariant -/

/-- The node is that of the key. -/
def Holds (node : CacheNode Key Value) (key : Key) : Prop :=
  (node.key == key) = true

/-- What a run keeps: the list is the front of the recency list, long enough and
not too long, and every node has the last value of its key. -/
structure Tracks (run : CacheRun Key Value) : Prop where
  valid : run.cache.Valid
  ordered : List.Forall₂ Holds run.cache.keys
    ((recency run.touched).take run.cache.keys.length)
  covers : min run.cache.maxSize (recency run.touched).length ≤ run.cache.keys.length
  bounded : run.cache.keys.length ≤ run.cache.maxSize + run.cache.elasticity - 1
  values : ∀ node ∈ run.cache.keys, lastUpdate run.updated node.key = some node.value

section Touch

variable {keys : List (CacheNode Key Value)} {log : List Key} {key : Key}
  {moved : CacheNode Key Value}

/-- At most one node has the key. -/
theorem length_le_apart
    (distinct : keys.Pairwise fun left right => (left.key == right.key) = false) (key : Key) :
    keys.length ≤ (Cache.apart key keys).length + 1 := by
  induction keys with
  | nil => exact Nat.zero_le _
  | cons node rest inductionHypothesis =>
      obtain ⟨away, distinct⟩ := List.pairwise_cons.mp distinct
      rw [Cache.apart, List.filter_cons]
      by_cases same : (node.key == key) = true
      · have all : (rest.filter fun other => !(other.key == key)) = rest := by
          rw [List.filter_eq_self]
          intro other member
          rw [BEq.comm, bne_of_beq (BEq.symm same) (away other member)]
          rfl
        rw [if_neg (by simp [same]), all]
        exact le_rfl
      · rw [if_pos (by simpa using same), List.length_cons, List.length_cons]
        exact Nat.succ_le_succ (inductionHypothesis distinct)

/-- Taking a key out of both lists keeps them side by side. -/
theorem apart_others {candidates : List Key} (ordered : List.Forall₂ Holds keys candidates)
    (key : Key) : List.Forall₂ Holds (Cache.apart key keys) (others key candidates) := by
  apply List.rel_filter _ ordered
  intro node candidate same
  simp only [Bool.not_eq_true']
  exact ⟨bne_of_beq (BEq.symm same), bne_of_beq same⟩

/-- The touched key is the most recent one, and the others keep their order. -/
theorem ordered_touch (ordered : List.Forall₂ Holds keys ((recency log).take keys.length))
    (held : Holds moved key) :
    List.Forall₂ Holds (moved :: Cache.apart key keys)
      ((recency (log ++ [key])).take (moved :: Cache.apart key keys).length) := by
  have filtered := apart_others ordered key
  have cut := take_length_filter (fun candidate => !(candidate == key)) (recency log) keys.length
  rw [recency_concat, List.length_cons, List.take_succ_cons]
  apply List.Forall₂.cons held
  rw [filtered.length_eq, others, others, cut]
  exact filtered

/-- If fewer keys are kept than were touched, there are at least `maxSize`. -/
theorem covers_touch {maxSize : Nat}
    (distinct : keys.Pairwise fun left right => (left.key == right.key) = false)
    (ordered : List.Forall₂ Holds keys ((recency log).take keys.length))
    (covers : min maxSize (recency log).length ≤ keys.length) (moved : CacheNode Key Value) :
    min maxSize (recency (log ++ [key])).length ≤ (moved :: Cache.apart key keys).length := by
  have size := (apart_others ordered key).length_eq
  have atMostOne := length_le_apart distinct key
  rw [recency_concat, List.length_cons, List.length_cons]
  by_cases all : (recency log).length ≤ keys.length
  · rw [List.take_of_length_le all] at size
    omega
  · omega

end Touch

variable {run : CacheRun Key Value}

/-- The other nodes keep their values when one key is updated. -/
theorem Tracks.values_apart (held : Tracks run) (key : Key) (value : Value)
    {node : CacheNode Key Value} (member : node ∈ Cache.apart key run.cache.keys) :
    lastUpdate (run.updated ++ [(key, value)]) node.key = some node.value := by
  rw [Cache.apart, List.mem_filter, Bool.not_eq_true'] at member
  have different : ¬ (key == node.key) = true := by
    rw [BEq.comm, member.2]
    exact Bool.false_ne_true
  rw [lastUpdate_concat, if_neg different]
  exact held.values node member.1

/-- The node of a touched key moves to the front, perhaps with a new value. -/
theorem Tracks.touch (held : Tracks run) {key : Key} {node : CacheNode Key Value}
    (moved : CacheNode Key Value) (member : node ∈ run.cache.keys) (equal : (node.key == key) = true)
    (same : Cache.entry moved = Cache.entry node) {updated : List (Key × Value)}
    (value : lastUpdate updated moved.key = some moved.value)
    (values : ∀ other ∈ Cache.apart key run.cache.keys,
      lastUpdate updated other.key = some other.value) :
    Tracks
      { cache := { run.cache with keys := moved :: Cache.apart key run.cache.keys }
        touched := run.touched ++ [key]
        updated := updated } := by
  have sameKey : moved.key = node.key := (Prod.mk.inj same).1
  have fewer : (Cache.apart key run.cache.keys).length < run.cache.keys.length := by
    rw [Cache.apart, List.length_filter_lt_length_iff_exists]
    exact ⟨node, member, by simp [equal]⟩
  exact
    { valid := held.valid.touch member equal same
      ordered := by
        apply ordered_touch held.ordered
        rw [Holds, sameKey]
        exact equal
      covers := covers_touch held.valid.distinct held.ordered held.covers moved
      bounded := by
        have bounded := held.bounded
        rw [List.length_cons]
        dsimp only
        omega
      values := by
        intro other otherMember
        rcases List.mem_cons.mp otherMember with rfl | otherMember
        · exact value
        · exact values other otherMember }

theorem Tracks.insert_hit (held : Tracks run) {key : Key} {number : Nat}
    (found : run.cache.find key = some number) (value : Value) :
    Tracks (run.step (.update key value)) := by
  obtain ⟨node, member, equal, after⟩ := held.valid.insert_hit found value
  rw [CacheRun.step, after]
  apply held.touch { node with value := value } member equal rfl
  · rw [lastUpdate_concat, if_pos (BEq.symm equal)]
  · exact fun other otherMember => held.values_apart key value otherMember

theorem Tracks.lookup_hit (held : Tracks run) {key : Key} {number : Nat}
    (found : run.cache.find key = some number) : Tracks (run.step (.lookup key)) := by
  obtain ⟨node, member, equal, after⟩ := held.valid.tryGetRef_hit found
  rw [CacheRun.step, after]
  apply held.touch node member equal rfl (held.values node member)
  intro other otherMember
  rw [Cache.apart, List.mem_filter] at otherMember
  exact held.values other otherMember.1

omit [EquivBEq Key] in
theorem Tracks.lookup_miss (held : Tracks run) {key : Key} (missing : run.cache.find key = none) :
    Tracks (run.step (.lookup key)) := by
  rw [CacheRun.step, Cache.tryGetRef_miss missing]
  exact held

/-- Pruning restores the bound on the length and keeps the rest. -/
theorem tracks_prune (run : CacheRun Key Value) (valid : run.cache.Valid)
    (positive : 0 < run.cache.maxSize) (elastic : 0 < run.cache.elasticity)
    (ordered : List.Forall₂ Holds run.cache.keys
      ((recency run.touched).take run.cache.keys.length))
    (covers : min run.cache.maxSize (recency run.touched).length ≤ run.cache.keys.length)
    (values : ∀ node ∈ run.cache.keys, lastUpdate run.updated node.key = some node.value) :
    Tracks { run with cache := run.cache.prune } := by
  have ⟨pruned, keys⟩ := valid.prune_spec positive
  by_cases room : run.cache.keys.length < run.cache.maxSize + run.cache.elasticity
  · rw [if_pos room] at keys
    constructor
    · exact pruned
    · rw [keys]
      exact ordered
    · rw [keys, Cache.prune_maxSize]
      exact covers
    · rw [keys, Cache.prune_maxSize, Cache.prune_elasticity]
      omega
    · rw [keys]
      exact values
  · rw [if_neg room] at keys
    have cut : (run.cache.keys.take run.cache.maxSize).length = run.cache.maxSize := by
      rw [List.length_take]
      omega
    constructor
    · exact pruned
    · have taken := List.forall₂_take run.cache.maxSize ordered
      rw [List.take_take, Nat.min_eq_left (by omega)] at taken
      rw [keys, cut]
      exact taken
    · rw [keys, cut, Cache.prune_maxSize]
      exact Nat.min_le_left _ _
    · rw [keys, cut, Cache.prune_maxSize, Cache.prune_elasticity]
      omega
    · rw [keys]
      exact fun node member => values node (List.mem_of_mem_take member)

/-- A new key goes to the front, and the oldest keys go if the cache is full. -/
theorem Tracks.insert_miss (held : Tracks run) (positive : 0 < run.cache.maxSize)
    (elastic : 0 < run.cache.elasticity) {key : Key} (missing : run.cache.find key = none)
    (value : Value) : Tracks (run.step (.update key value)) := by
  have all : Cache.apart key run.cache.keys = run.cache.keys := by
    rw [Cache.apart, List.filter_eq_self]
    intro node member
    rw [held.valid.find_none missing member]
    rfl
  have front : (run.cache.push key value).keys =
      ⟨run.cache.nextNumber, key, value⟩ :: Cache.apart key run.cache.keys := by
    rw [all]
    rfl
  rw [CacheRun.step, Cache.insert_miss missing]
  apply tracks_prune ⟨run.cache.push key value, run.touched ++ [key],
    run.updated ++ [(key, value)]⟩ (held.valid.push missing value) positive elastic
  · show List.Forall₂ Holds (run.cache.push key value).keys
      ((recency (run.touched ++ [key])).take (run.cache.push key value).keys.length)
    rw [front]
    exact ordered_touch held.ordered BEq.rfl
  · show min run.cache.maxSize (recency (run.touched ++ [key])).length ≤
      (run.cache.push key value).keys.length
    rw [front]
    exact covers_touch held.valid.distinct held.ordered held.covers _
  · intro node member
    show lastUpdate (run.updated ++ [(key, value)]) node.key = some node.value
    rw [front] at member
    rcases List.mem_cons.mp member with rfl | member
    · rw [lastUpdate_concat, if_pos BEq.rfl]
    · exact held.values_apart key value member

/-! ## Every run -/

theorem Tracks.step (held : Tracks run) (positive : 0 < run.cache.maxSize)
    (elastic : 0 < run.cache.elasticity) (operation : CacheOp Key Value) :
    Tracks (run.step operation) := by
  cases operation with
  | update key value =>
      cases found : run.cache.find key with
      | none => exact held.insert_miss positive elastic found value
      | some number => exact held.insert_hit found value
  | lookup key =>
      cases found : run.cache.find key with
      | none => exact held.lookup_miss found
      | some number => exact held.lookup_hit found

omit [EquivBEq Key] in
theorem step_sizes (run : CacheRun Key Value) (operation : CacheOp Key Value) :
    (run.step operation).cache.maxSize = run.cache.maxSize ∧
      (run.step operation).cache.elasticity = run.cache.elasticity := by
  cases operation with
  | update key value =>
      rw [CacheRun.step, Cache.insert]
      cases run.cache.find key with
      | none => exact ⟨Cache.prune_maxSize _, Cache.prune_elasticity _⟩
      | some number => exact ⟨rfl, rfl⟩
  | lookup key =>
      rw [CacheRun.step, Cache.tryGetRef]
      cases run.cache.find key with
      | none => exact ⟨rfl, rfl⟩
      | some number => exact ⟨rfl, rfl⟩

theorem tracks_cacheRun {maxSize elasticity : Nat} (positive : 0 < maxSize)
    (elastic : 0 < elasticity) (operations : List (CacheOp Key Value)) :
    Tracks (cacheRun maxSize elasticity operations) ∧
      (cacheRun maxSize elasticity operations).cache.maxSize = maxSize ∧
      (cacheRun maxSize elasticity operations).cache.elasticity = elasticity := by
  induction operations using List.reverseRecOn with
  | nil =>
      refine ⟨⟨Cache.valid_empty _ _, List.Forall₂.nil, ?_, Nat.zero_le _, nofun⟩, rfl, rfl⟩
      exact Nat.min_le_right _ _
  | append_singleton operations operation inductionHypothesis =>
      obtain ⟨held, sizeEq, elasticEq⟩ := inductionHypothesis
      have next : cacheRun maxSize elasticity (operations ++ [operation]) =
          (cacheRun maxSize elasticity operations).step operation := by
        simp [cacheRun]
      obtain ⟨sameSize, sameElasticity⟩ :=
        step_sizes (cacheRun maxSize elasticity operations) operation
      rw [next, sameSize, sameElasticity]
      refine ⟨held.step ?_ ?_ operation, sizeEq, elasticEq⟩
      · rw [sizeEq]
        exact positive
      · rw [elasticEq]
        exact elastic

omit [EquivBEq Key] in
private theorem exists_holds {keys : List (CacheNode Key Value)} {candidates : List Key}
    (ordered : List.Forall₂ Holds keys candidates) {key : Key} (member : key ∈ candidates) :
    ∃ node ∈ keys, Holds node key := by
  induction ordered with
  | nil => cases member
  | cons held _ inductionHypothesis =>
      rcases List.mem_cons.mp member with rfl | later
      · exact ⟨_, List.mem_cons_self, held⟩
      · obtain ⟨node, present, held⟩ := inductionHypothesis later
        exact ⟨node, List.mem_cons_of_mem _ present, held⟩

/-- A key among the `maxSize` most recent ones is found with its last value. -/
theorem Tracks.recent (held : Tracks run) {key : Key}
    (member : key ∈ (recency run.touched).take run.cache.maxSize) :
    ∃ value, (run.cache.tryGetRef key).1 = some value ∧
      lastUpdate run.updated key = some value := by
  have listed : key ∈ (recency run.touched).take run.cache.keys.length := by
    have covers := held.covers
    by_cases enough : run.cache.maxSize ≤ run.cache.keys.length
    · exact (List.take_subset_take_left _ enough) member
    · rw [List.take_of_length_le (by omega)]
      exact List.mem_of_mem_take member
  obtain ⟨node, present, equal⟩ := exists_holds held.ordered listed
  cases found : run.cache.find key with
  | none =>
      have different := held.valid.find_none found present
      rw [equal] at different
      cases different
  | some number =>
      obtain ⟨hit, hitPresent, hitEqual, after⟩ := held.valid.tryGetRef_hit found
      refine ⟨hit.value, by rw [after], ?_⟩
      rw [← lastUpdate_congr _ hitEqual]
      exact held.values hit hitPresent

/-- After every sequence of updates and lookups: `cache_` has exactly the nodes
of `keys_`, each key once; `keys_` is the front of the keys by last touch; there
are fewer than `maxSize + elasticity`; and the `maxSize` most recent keys are
found with the value of their last update. -/
theorem cacheRun_recency_and_capacity {maxSize elasticity : Nat} (positive : 1 ≤ maxSize)
    (elastic : 1 ≤ elasticity) (operations : List (CacheOp Key Value)) :
    let run := cacheRun maxSize elasticity operations
    ((run.cache.keys.map Cache.entry).Perm run.cache.cache ∧
        run.cache.keys.Pairwise fun left right => (left.key == right.key) = false) ∧
      List.Forall₂ Holds run.cache.keys ((recency run.touched).take run.cache.keys.length) ∧
      run.cache.cache.length ≤ maxSize + elasticity - 1 ∧
      ∀ key ∈ (recency run.touched).take maxSize, ∃ value,
        (run.cache.tryGetRef key).1 = some value ∧ lastUpdate run.updated key = some value := by
  intro run
  obtain ⟨held, sizeEq, elasticEq⟩ := tracks_cacheRun positive elastic operations
  refine ⟨⟨held.valid.mapped, held.valid.distinct⟩, held.ordered, ?_, ?_⟩
  · have bounded := held.bounded
    rw [sizeEq, elasticEq] at bounded
    exact held.valid.size.trans_le bounded
  · intro key member
    apply held.recent
    rw [sizeEq]
    exact member

end UserspaceXdp.Maps
