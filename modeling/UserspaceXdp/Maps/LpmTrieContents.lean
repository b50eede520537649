import UserspaceXdp.Maps.LpmTrie

/-!
Contract: a trie stores the first value put at each path, and a search returns
the value of the longest path along the address.

Owns: the tree invariant under allocation, descent and put, over any number of
memory cells, and the search in terms of the stored paths.

Does not own: which paths the map operations put.
-/

namespace UserspaceXdp.Maps

open UserspaceXdp.Foundation

namespace TrieT

variable {t : TrieT}

/-! ## Allocation -/

/-- What `_node_malloc` does: `fresh` is a blank node outside the used part of
the pool, and the used nodes stay as they are. -/
structure Extends (t after : TrieT) (fresh : NodePtr) : Prop where
  pool : 0 < after.count
  room : ∀ memory, memory < after.count → (after.memories memory).ln < trieMemoryCellSize
  root : after.root = t.root
  unused : ¬ t.Allocated fresh
  allocated : ∀ ptr, after.Allocated ptr ↔ t.Allocated ptr ∨ ptr = fresh
  kept : ∀ ptr, t.Allocated ptr → after.node ptr = t.node ptr
  childless : ∀ bit, (after.node fresh).child bit = none
  empty : (after.node fresh).asIn = false

/-- The last memory cell has a free node. -/
structure HasRoom (t : TrieT) : Prop where
  pool : 0 < t.count
  room : ∀ memory, memory < t.count → (t.memories memory).ln < trieMemoryCellSize
  last : (t.memories (t.count - 1)).ln + 1 < trieMemoryCellSize

theorem addMemory_hasRoom
    (room : ∀ memory, memory < t.count → (t.memories memory).ln < trieMemoryCellSize) :
    t.addMemory.HasRoom ∧ t.addMemory.root = t.root ∧
      (∀ ptr, t.addMemory.Allocated ptr ↔ t.Allocated ptr) ∧
      ∀ ptr, t.Allocated ptr → t.addMemory.node ptr = t.node ptr := by
  unfold addMemory
  by_cases full : t.count = 0 ∨ (t.memories (t.count - 1)).ln + 1 = trieMemoryCellSize
  · rw [if_pos full]
    have other {memory : Nat} (below : memory < t.count) :
        Function.update t.memories t.count ⟨0, fun _ => default⟩ memory = t.memories memory :=
      Function.update_of_ne (Nat.ne_of_lt below) _ _
    refine ⟨⟨Nat.succ_pos _, ?_, ?_⟩, rfl, ?_, ?_⟩
    · intro memory below
      rcases Nat.lt_or_eq_of_le (Nat.le_of_lt_succ below) with older | rfl
      · simp only [other older]
        exact room memory older
      · simp [trieMemoryCellSize]
    · simp [trieMemoryCellSize]
    · intro ptr
      constructor
      · intro held
        rcases Nat.lt_or_eq_of_le (Nat.le_of_lt_succ held.1) with older | last
        · have slot := held.2
          simp only [other older] at slot
          exact ⟨older, slot⟩
        · have slot := held.2
          simp [last] at slot
      · intro held
        refine ⟨Nat.lt_succ_of_lt held.1, ?_⟩
        simp only [other held.1]
        exact held.2
    · intro ptr held
      simp only [TrieT.node, other held.1]
  · rw [if_neg full]
    have pool : 0 < t.count := by omega
    have last := room (t.count - 1) (by omega)
    exact ⟨⟨pool, room, by omega⟩, rfl, fun _ => Iff.rfl, fun _ _ => rfl⟩

theorem HasRoom.takeNode_extends (held : t.HasRoom) :
    t.Extends t.takeNode.2 t.takeNode.1 := by
  have pool := held.pool
  have last := held.last
  have self : t.count - 1 < t.count := by omega
  have ln (memory : Nat) : (t.takeNode.2.memories memory).ln =
      if memory = t.count - 1 then (t.memories memory).ln + 1 else (t.memories memory).ln := by
    by_cases same : memory = t.count - 1
    · simp [TrieT.takeNode, setNode, same]
    · simp [TrieT.takeNode, setNode, same]
  have node (ptr : NodePtr) : t.takeNode.2.node ptr =
      if ptr = t.takeNode.1 then { t.node ptr with asIn := false, l := none, r := none }
      else t.node ptr := by
    have untouched : TrieT.node
        { t with
          memories := Function.update t.memories (t.count - 1)
            { t.memories (t.count - 1) with ln := (t.memories (t.count - 1)).ln + 1 } } =
        t.node := by
      funext ptr
      unfold TrieT.node
      by_cases same : ptr.memory = t.count - 1
      · simp [same]
      · simp [Function.update_of_ne same]
    simp only [TrieT.takeNode, node_setNode, untouched]
    split
    · rename_i same
      rw [same]
    · rfl
  have unused : ¬ t.Allocated t.takeNode.1 := fun used => lt_irrefl _ used.2
  exact
    { pool := pool
      room := by
        intro memory below
        rw [ln]
        split
        · rename_i same
          rw [same]
          exact last
        · exact held.room memory below
      root := rfl
      unused := unused
      allocated := by
        intro ptr
        unfold Allocated
        rw [ln]
        have count : t.takeNode.2.count = t.count := rfl
        have fresh : ptr = t.takeNode.1 ↔
            ptr.memory = t.count - 1 ∧ ptr.slot = (t.memories (t.count - 1)).ln := by
          cases ptr
          simp [TrieT.takeNode]
        rw [count, fresh]
        by_cases same : ptr.memory = t.count - 1
        · rw [if_pos same, same]
          omega
        · rw [if_neg same]
          simp [same]
      kept := by
        intro ptr used
        have different : ptr ≠ t.takeNode.1 := by
          intro same
          exact unused (same ▸ used)
        rw [node, if_neg different]
      childless := by
        intro bit
        rw [node, if_pos rfl]
        cases bit <;> rfl
      empty := by rw [node, if_pos rfl] }

theorem nodeMalloc_extends
    (room : ∀ memory, memory < t.count → (t.memories memory).ln < trieMemoryCellSize) :
    t.Extends (nodeMalloc t).2 (nodeMalloc t).1 := by
  obtain ⟨hasRoom, root, allocated, kept⟩ := addMemory_hasRoom room
  have taken := hasRoom.takeNode_extends
  exact
    { pool := taken.pool
      room := taken.room
      root := taken.root.trans root
      unused := fun used => taken.unused ((allocated _).mpr used)
      allocated := fun ptr => by rw [← allocated ptr]; exact taken.allocated ptr
      kept := fun ptr used => (taken.kept ptr ((allocated ptr).mpr used)).trans (kept ptr used)
      childless := taken.childless
      empty := taken.empty }

/-! ## One step down -/

/-- A new node hangs below `current`, which is at the end of `path`. -/
def link (t : TrieT) (current : NodePtr) (bit : Bool) (fresh : NodePtr) : TrieT :=
  t.setNode current ((t.node current).setChild bit fresh)

section Link

variable {after : TrieT} {fresh current : NodePtr} {path : List Bool} {bit : Bool}

private theorem child_setChild (node : NodeT) (bit other : Bool) (child : NodePtr) :
    (node.setChild bit child).child other = if other = bit then some child else node.child other := by
  cases bit <;> cases other <;> rfl

/-- Linking a fresh node adds one path. -/
theorem Valid.walk_link (valid : t.Valid) (extended : t.Extends after fresh)
    (here : t.walk t.root path = some current) (missing : (t.node current).child bit = none)
    (other : List Bool) :
    (after.link current bit fresh).walk after.root other =
      if other = path ++ [bit] then some fresh else t.walk t.root other := by
  have used := valid.allocated path current here
  have node (ptr : NodePtr) (allocated : t.Allocated ptr) (side : Bool) :
      ((after.link current bit fresh).node ptr).child side =
        if ptr = current ∧ side = bit then some fresh else (t.node ptr).child side := by
    rw [link, node_setNode]
    by_cases same : ptr = current
    · rw [if_pos same, child_setChild, extended.kept current used, same]
      simp
    · rw [if_neg same, extended.kept ptr allocated]
      simp [same]
  have blank (side : Bool) : ((after.link current bit fresh).node fresh).child side = none := by
    have different : fresh ≠ current := fun same => extended.unused (same ▸ used)
    rw [link, node_setNode, if_neg different]
    exact extended.childless side
  -- The paths are followed from the root, so the induction adds a bit at the end.
  induction other using List.reverseRecOn with
  | nil => simp [walk, extended.root]
  | append_singleton other side inductionHypothesis =>
      rw [walk_concat, walk_concat, inductionHypothesis]
      have missingPath : t.walk t.root (path ++ [bit]) = none := by
        rw [walk_concat, here]
        exact missing
      by_cases linked : other = path ++ [bit]
      · rw [if_pos linked, if_neg (by simp [linked]), linked, missingPath]
        exact blank side
      · rw [if_neg linked]
        cases reached : t.walk t.root other with
        | none =>
            have different : other ≠ path := by
              intro same
              rw [same, here] at reached
              cases reached
            rw [if_neg (by simp [different])]
            rfl
        | some ptr =>
            have samePath : ptr = current ↔ other = path := by
              constructor
              · intro same
                exact valid.tree other path current (same ▸ reached) here
              · intro same
                rw [same, here] at reached
                exact (Option.some.inj reached).symm
            simp [node ptr (valid.allocated other ptr reached), samePath]

theorem Valid.link (valid : t.Valid) (extended : t.Extends after fresh)
    (here : t.walk t.root path = some current) (missing : (t.node current).child bit = none) :
    (after.link current bit fresh).Valid := by
  have walked := valid.walk_link extended here missing
  have root : (after.link current bit fresh).root = after.root := rfl
  have usedFresh {other : List Bool} {ptr : NodePtr}
      (reached : t.walk t.root other = some ptr) : ptr ≠ fresh := by
    intro same
    exact extended.unused (same ▸ valid.allocated other ptr reached)
  have memories (memory : Nat) :
      ((after.link current bit fresh).memories memory).ln = (after.memories memory).ln := by
    unfold TrieT.link setNode
    by_cases same : memory = current.memory
    · simp [same]
    · simp [Function.update_of_ne same]
  exact
    { pool := extended.pool
      room := by
        intro memory below
        rw [memories]
        exact extended.room memory below
      allocated := by
        intro other ptr reached
        rw [root, walked] at reached
        rw [TrieT.link, allocated_setNode, extended.allocated]
        split at reached
        · exact Or.inr (Option.some.inj reached).symm
        · exact Or.inl (valid.allocated other ptr reached)
      tree := by
        intro left right ptr leftReached rightReached
        rw [root, walked] at leftReached rightReached
        split at leftReached <;> split at rightReached
        · rename_i leftNew rightNew
          exact leftNew.trans rightNew.symm
        · exact absurd (Option.some.inj leftReached).symm (usedFresh rightReached)
        · exact absurd (Option.some.inj rightReached).symm (usedFresh leftReached)
        · exact valid.tree left right ptr leftReached rightReached }

/-- The new node has no value, so no path has a new one. -/
theorem Valid.value_link (valid : t.Valid) (extended : t.Extends after fresh)
    (here : t.walk t.root path = some current) (missing : (t.node current).child bit = none)
    (other : List Bool) : (after.link current bit fresh).value other = t.value other := by
  have used := valid.allocated path current here
  have root : (after.link current bit fresh).root = after.root := rfl
  have contents (ptr : NodePtr) (allocated : t.Allocated ptr) :
      ((after.link current bit fresh).node ptr).asIn = (t.node ptr).asIn ∧
        ((after.link current bit fresh).node ptr).as = (t.node ptr).as := by
    rw [TrieT.link, node_setNode]
    by_cases same : ptr = current
    · rw [if_pos same, extended.kept current used, same]
      cases bit <;> exact ⟨rfl, rfl⟩
    · rw [if_neg same, extended.kept ptr allocated]
      exact ⟨rfl, rfl⟩
  unfold value
  rw [root, valid.walk_link extended here missing]
  by_cases linked : other = path ++ [bit]
  · have different : fresh ≠ current := fun same => extended.unused (same ▸ used)
    rw [if_pos linked, linked, walk_concat, here]
    simp only [Option.bind_some, missing, Option.bind_none]
    rw [TrieT.link, node_setNode, if_neg different, extended.empty]
    rfl
  · rw [if_neg linked]
    cases reached : t.walk t.root other with
    | none => rfl
    | some ptr =>
        obtain ⟨asIn, as⟩ := contents ptr (valid.allocated other ptr reached)
        simp only [Option.bind_some, asIn, as]

end Link

end TrieT

/-! ## Put -/

variable {t : TrieT} {current : NodePtr} {path : List Bool}

/-- Where the put loop is: at the end of `path` in a valid trie that stores the
same as `t`. -/
structure Descent (t : TrieT) (path : List Bool) (loop : TrieT × NodePtr) : Prop where
  valid : loop.1.Valid
  here : loop.1.walk loop.1.root path = some loop.2
  value : ∀ other, loop.1.value other = t.value other

theorem Descent.descend {loop : TrieT × NodePtr} (held : Descent t path loop) (bit : Bool) :
    Descent t (path ++ [bit]) (descend bit loop.1 loop.2) := by
  have here := held.here
  unfold Maps.descend
  cases child : (loop.1.node loop.2).child bit with
  | some next =>
      refine ⟨held.valid, ?_, held.value⟩
      rw [TrieT.walk_concat, here]
      exact child
  | none =>
      have extended := TrieT.nodeMalloc_extends held.valid.room
      refine ⟨held.valid.link extended here child, ?_, fun other => ?_⟩
      · exact (held.valid.walk_link extended here child (path ++ [bit])).trans (if_pos rfl)
      · exact (held.valid.value_link extended here child other).trans (held.value other)

/-- The first value at a path stays. -/
theorem Descent.addValue {loop : TrieT × NodePtr} (held : Descent t path loop) (as : Int) :
    (addValue as loop.1 loop.2).Valid ∧
      ∀ other, (addValue as loop.1 loop.2).value other =
        (t.value other).or (if path = other then some as else none) := by
  obtain ⟨t', current⟩ := loop
  have valid : t'.Valid := held.valid
  have here : t'.walk t'.root path = some current := held.here
  have stored (other : List Bool) : t'.value other = t.value other := held.value other
  unfold Maps.addValue
  by_cases taken : (t'.node current).asIn = true
  · rw [if_pos taken]
    refine ⟨valid, fun other => ?_⟩
    rw [← stored]
    by_cases same : path = other
    · have full : t'.value other = some (t'.node current).as := by
        rw [TrieT.value, ← same, here]
        simp [taken]
      rw [full, Option.some_or]
    · rw [if_neg same, Option.or_none]
  · rw [if_neg taken]
    have child (ptr : NodePtr) (bit : Bool) :
        ((t'.setNode current { t'.node current with asIn := true, as := as }).node ptr).child bit =
          (t'.node ptr).child bit := by
      rw [TrieT.node_setNode]
      split
      · rename_i same
        rw [same]
        rfl
      · rfl
    have walk (start : NodePtr) (other : List Bool) :
        (t'.setNode current { t'.node current with asIn := true, as := as }).walk start other =
          t'.walk start other := by
      induction other generalizing start with
      | nil => rfl
      | cons bit rest inductionHypothesis =>
          simp only [TrieT.walk, child, inductionHypothesis]
    have root : (t'.setNode current { t'.node current with asIn := true, as := as }).root =
        t'.root := rfl
    have ln (memory : Nat) :
        ((t'.setNode current { t'.node current with asIn := true, as := as }).memories memory).ln =
          (t'.memories memory).ln := by
      unfold TrieT.setNode
      by_cases same : memory = current.memory
      · simp [same]
      · simp [Function.update_of_ne same]
    constructor
    · exact
        { pool := valid.pool
          room := fun memory below => (ln memory).trans_lt (valid.room memory below)
          allocated := by
            intro other ptr reached
            rw [root, walk] at reached
            rw [TrieT.allocated_setNode]
            exact valid.allocated other ptr reached
          tree := by
            intro left right ptr leftReached rightReached
            rw [root, walk] at leftReached rightReached
            exact valid.tree left right ptr leftReached rightReached }
    · intro other
      rw [← stored, TrieT.value, TrieT.value, root, walk]
      by_cases same : path = other
      · subst same
        rw [here, if_pos rfl]
        simp [TrieT.node_setNode, taken]
      · rw [if_neg same, Option.or_none]
        cases reached : t'.walk t'.root other with
        | none => rfl
        | some ptr =>
            have different : ptr ≠ current := by
              intro equal
              exact same (valid.tree path other current here (equal ▸ reached))
            simp only [Option.bind_some, TrieT.node_setNode, if_neg different]

/-- The path that `trie_node_put` follows. -/
def putPath (ip : Nat → UInt8) (cidr : Nat) : List Bool :=
  (List.range cidr).map (addressBit ip)

theorem putPath_succ (ip : Nat → UInt8) (cidr : Nat) :
    putPath ip (cidr + 1) = putPath ip cidr ++ [addressBit ip cidr] := by
  simp [putPath, List.range_succ]

theorem putPath_leading (ip : Nat → UInt8) {short long : Nat} (shorter : short ≤ long) :
    putPath ip short <+: putPath ip long := by
  induction shorter with
  | refl => exact List.prefix_refl _
  | step _ inductionHypothesis =>
      rw [putPath_succ]
      exact inductionHypothesis.trans (List.prefix_append _ _)

/-- After `i` of `cidr` turns, with the last one still to come. -/
theorem Descent.putSteps (valid : t.Valid) (ip : Nat → UInt8) (as : Int) {cidr i : Nat}
    (before : i < cidr) :
    Descent t (putPath ip i) ((List.range i).foldl (putStep ip cidr as) (t, t.root)) := by
  induction i with
  | zero => exact ⟨valid, rfl, fun _ => rfl⟩
  | succ i inductionHypothesis =>
      have next := (inductionHypothesis (Nat.lt_of_succ_lt before)).descend (addressBit ip i)
      rw [List.range_succ, List.foldl_concat, putStep, if_neg (Nat.ne_of_lt before), putPath_succ]
      exact next

theorem trieNodePut_spec (valid : t.Valid) (ip : Nat → UInt8) (cidr : Nat) (as : Int)
    (positive : 0 < cidr) :
    (trieNodePut t ip cidr as).Valid ∧
      ∀ other, (trieNodePut t ip cidr as).value other =
        (t.value other).or (if putPath ip cidr = other then some as else none) := by
  obtain ⟨last, rfl⟩ := Nat.exists_eq_succ_of_ne_zero (Nat.ne_of_gt positive)
  have next := (Descent.putSteps valid ip as (Nat.lt_succ_self last)).descend (addressBit ip last)
  rw [← putPath_succ] at next
  have finished := next.addValue as
  rw [trieNodePut, List.range_succ, List.foldl_concat, putStep, if_pos rfl]
  exact finished

/-- A put on a path that has a value changes nothing. -/
theorem trieNodePut_taken {ip : Nat → UInt8} {cidr : Nat}
    (taken : (t.value (putPath ip cidr)).isSome) (as : Int) : trieNodePut t ip cidr as = t := by
  obtain ⟨value, held⟩ := Option.isSome_iff_exists.mp taken
  rw [TrieT.value, Option.bind_eq_some_iff] at held
  obtain ⟨ptr, reached, stored⟩ := held
  -- The whole path exists, so the loop only walks down.
  have walked (i : Nat) (before : i < cidr) :
      ∃ current, t.walk t.root (putPath ip i) = some current ∧
        (List.range i).foldl (putStep ip cidr as) (t, t.root) = (t, current) := by
    induction i with
    | zero => exact ⟨t.root, rfl, rfl⟩
    | succ i inductionHypothesis =>
        obtain ⟨current, here, looped⟩ := inductionHypothesis (Nat.lt_of_succ_lt before)
        obtain ⟨next, below⟩ := t.walk_leading reached (putPath_leading ip (Nat.le_of_lt before))
        have child : (t.node current).child (addressBit ip i) = some next := by
          rw [putPath_succ, TrieT.walk_concat, here] at below
          exact below
        refine ⟨next, below, ?_⟩
        rw [List.range_succ, List.foldl_concat, looped, putStep, if_neg (Nat.ne_of_lt before),
          descend]
        simp only [child]
  cases cidr with
  | zero => rfl
  | succ last =>
      obtain ⟨current, here, looped⟩ := walked last (Nat.lt_succ_self last)
      have child : (t.node current).child (addressBit ip last) = some ptr := by
        rw [putPath_succ, TrieT.walk_concat, here] at reached
        exact reached
      have full : (t.node ptr).asIn = true := by
        by_contra empty
        rw [if_neg empty] at stored
        cases stored
      rw [trieNodePut, List.range_succ, List.foldl_concat, looped, putStep, if_pos rfl, descend]
      simp only [child, addValue, if_pos full]

theorem trieNodePut_zero (t : TrieT) (ip : Nat → UInt8) (as : Int) :
    trieNodePut t ip 0 as = t := rfl

/-! ## Init -/

theorem trieInit_spec (t : TrieT) :
    (trieInit t).Valid ∧ ∀ path, (trieInit t).value path = none := by
  have extended : TrieT.Extends { t with count := 0 } (nodeMalloc { t with count := 0 }).2
      (nodeMalloc { t with count := 0 }).1 :=
    TrieT.nodeMalloc_extends fun memory below => absurd below (Nat.not_lt_zero _)
  have child (bit : Bool) : ((trieInit t).node (trieInit t).root).child bit = none :=
    extended.childless bit
  have walk (path : List Bool) (ptr : NodePtr)
      (reached : (trieInit t).walk (trieInit t).root path = some ptr) :
      path = [] ∧ ptr = (trieInit t).root := by
    cases path with
    | nil => exact ⟨rfl, (Option.some.inj reached).symm⟩
    | cons bit rest =>
        rw [TrieT.walk, child bit] at reached
        cases reached
  constructor
  · exact
      { pool := extended.pool
        room := extended.room
        allocated := by
          intro path ptr reached
          rw [(walk path ptr reached).2]
          exact (extended.allocated _).mpr (Or.inr rfl)
        tree := by
          intro left right ptr leftReached rightReached
          exact (walk left ptr leftReached).1.trans (walk right ptr rightReached).1.symm }
  · intro path
    rw [TrieT.value]
    cases reached : (trieInit t).walk (trieInit t).root path with
    | none => rfl
    | some ptr =>
        have empty : ((trieInit t).node (trieInit t).root).asIn = false := extended.empty
        rw [(walk path ptr reached).2, Option.bind_some, empty]
        rfl

/-! ## Search -/

/-- Where nothing hangs there are no values further down. -/
private theorem foldl_matchStep_dead {path rest : List Bool} {found : Option Int}
    (dead : t.walk t.root path = none) :
    (rest.foldl (matchStep t.value) (path, found)).2 = found := by
  induction rest generalizing path with
  | nil => rfl
  | cons bit rest inductionHypothesis =>
      have next : t.walk t.root (path ++ [bit]) = none := by
        rw [TrieT.walk_concat, dead]
        rfl
      have nothing : t.value (path ++ [bit]) = none := by
        rw [TrieT.value, next]
        rfl
      rw [List.foldl_cons, matchStep, nothing, Option.none_or]
      exact inductionHypothesis next

/-- The search from the end of a path goes through the rest of the prefixes. -/
private theorem searchBits_eq {rest : List Bool} (here : t.walk t.root path = some current)
    (found : Option Int) (as : Int) :
    searchBits t current found.isSome (found.getD as) rest =
      (((rest.foldl (matchStep t.value) (path, found)).2).isSome,
        ((rest.foldl (matchStep t.value) (path, found)).2).getD as) := by
  induction rest generalizing current path found with
  | nil => rfl
  | cons bit rest inductionHypothesis =>
      rw [searchBits, List.foldl_cons]
      have below : t.walk t.root (path ++ [bit]) = (t.node current).child bit := by
        rw [TrieT.walk_concat, here]
        rfl
      cases child : (t.node current).child bit with
      | none =>
          rw [child] at below
          have nothing : t.value (path ++ [bit]) = none := by
            rw [TrieT.value, below]
            rfl
          simp only [matchStep, nothing, Option.none_or, foldl_matchStep_dead below]
      | some next =>
          rw [child] at below
          simp only [matchStep]
          by_cases taken : (t.node next).asIn = true
          · have value : t.value (path ++ [bit]) = some (t.node next).as := by
              rw [TrieT.value, below]
              simp [taken]
            rw [if_pos taken, value, Option.some_or]
            exact inductionHypothesis below (some (t.node next).as)
          · have value : t.value (path ++ [bit]) = none := by
              rw [TrieT.value, below]
              simp [taken]
            rw [if_neg taken, value, Option.none_or]
            exact inductionHypothesis below found

/-- The search returns the value of the longest path along the address, and
leaves `*as` alone if there is none. -/
theorem trieNodeSearch_eq (empty : t.value [] = none) (ip : Nat → UInt8) (ln : Nat) (as : Int) :
    trieNodeSearch t ip ln as =
      ((longestMatch t.value (addressBits ip ln)).isSome,
        (longestMatch t.value (addressBits ip ln)).getD as) := by
  rw [longestMatch, empty]
  exact searchBits_eq rfl none as

/-! ## Runs -/

/-- The trie stores what the first put of each path stored. -/
structure Stores (t : TrieT) (log : List (List Bool × Int)) : Prop where
  valid : t.Valid
  value : ∀ path, t.value path = firstStored log path
  proper : ∀ write ∈ log, write.1 ≠ []

theorem stores_trieInit (t : TrieT) : Stores (trieInit t) [] := by
  obtain ⟨valid, value⟩ := trieInit_spec t
  exact ⟨valid, value, nofun⟩

theorem Stores.put {log : List (List Bool × Int)} (held : Stores t log) (ip : Nat → UInt8)
    {cidr : Nat} (positive : 0 < cidr) (as : Int) :
    Stores (trieNodePut t ip cidr as) (log ++ [(putPath ip cidr, as)]) := by
  obtain ⟨valid, value⟩ := trieNodePut_spec held.valid ip cidr as positive
  refine ⟨valid, fun path => ?_, ?_⟩
  · rw [value, held.value, firstStored_concat]
  · intro write member
    rcases List.mem_append.mp member with old | new
    · exact held.proper write old
    · rw [List.mem_singleton.mp new, ← List.length_pos_iff, putPath, List.length_map,
        List.length_range]
      exact positive

theorem Stores.search {log : List (List Bool × Int)} (held : Stores t log) (ip : Nat → UInt8)
    (ln : Nat) (as : Int) :
    trieNodeSearch t ip ln as =
      ((longestMatch (firstStored log) (addressBits ip ln)).isSome,
        (longestMatch (firstStored log) (addressBits ip ln)).getD as) := by
  have same : t.value = firstStored log := funext held.value
  have empty : t.value [] = none := by
    rw [held.value, firstStored_eq_none_iff]
    exact held.proper
  rw [trieNodeSearch_eq empty, same]

/-- The two loops of the search read the bits in the order of the put loop. -/
theorem addressBits_eq_putPath (ip : Nat → UInt8) (ln : Nat) :
    addressBits ip ln = putPath ip (8 * ln) := by
  induction ln with
  | zero => rfl
  | succ ln inductionHypothesis =>
      have byte : (List.range 8).map (fun step => byteBit (ip ln) (7 - step)) =
          (List.range 8).map (fun step => addressBit ip (8 * ln + step)) := by
        apply List.map_congr_left
        intro step member
        have below := List.mem_range.mp member
        have quotient : (8 * ln + step) / 8 = ln := by omega
        have remainder : (8 * ln + step) % 8 = step := by omega
        rw [addressBit, quotient, remainder]
      have split : addressBits ip (ln + 1) =
          addressBits ip ln ++ (List.range 8).map (fun step => byteBit (ip ln) (7 - step)) := by
        simp [addressBits, List.range_succ (n := ln)]
      rw [split, inductionHypothesis, byte, putPath, putPath, Nat.mul_succ, List.range_add,
        List.map_append, List.map_map]
      rfl

theorem length_addressBits (ip : Nat → UInt8) (ln : Nat) :
    (addressBits ip ln).length = 8 * ln := by
  rw [addressBits_eq_putPath, putPath, List.length_map, List.length_range]

/-- The first bits of an address are those that a put follows. -/
theorem take_addressBits (ip : Nat → UInt8) {cidr ln : Nat} (within : cidr ≤ 8 * ln) :
    (addressBits ip ln).take cidr = putPath ip cidr := by
  rw [addressBits_eq_putPath, putPath, ← List.map_take, List.take_range, Nat.min_eq_left within,
    putPath]

end UserspaceXdp.Maps
