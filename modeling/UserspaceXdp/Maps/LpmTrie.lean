import UserspaceXdp.Foundation.PrefixTable

/-!
Contract: the bit trie of `module/lpm_trie.h`.

Owns: the node pool with its memory cells, `trie_init`, `trie_node_put` and
`trie_node_search` as pointer programs, and what a trie stores: the first value
put at each path of bits.

Does not own: what the bits of an address mean. `malloc` is assumed to succeed,
and the memory it returns reads as zero; the code writes every field before it
reads it.
-/

namespace UserspaceXdp.Maps

open UserspaceXdp.Foundation

/-! ## Nodes and the pool -/

def trieMemoryCellSize : Nat := 32768

/-- A pointer into the pool: a memory cell and a node in it. -/
structure NodePtr where
  memory : Nat
  slot : Nat
deriving DecidableEq, Repr

structure NodeT where
  l : Option NodePtr
  r : Option NodePtr
  as : Int
  asIn : Bool
deriving DecidableEq, Repr, Inhabited

structure TrieMemory where
  ln : Nat
  cells : Nat → NodeT

/-- The memory cells in the order of their `next` pointers: there are `count`,
and `last` is the last of them, or `NULL` if there is none. -/
structure TrieT where
  root : NodePtr
  memories : Nat → TrieMemory
  count : Nat

def NodeT.child (node : NodeT) (bit : Bool) : Option NodePtr :=
  if bit then node.r else node.l

def NodeT.setChild (node : NodeT) (bit : Bool) (child : NodePtr) : NodeT :=
  if bit then { node with r := some child } else { node with l := some child }

namespace TrieT

def node (t : TrieT) (ptr : NodePtr) : NodeT :=
  (t.memories ptr.memory).cells ptr.slot

def setNode (t : TrieT) (ptr : NodePtr) (node : NodeT) : TrieT :=
  { t with
    memories := Function.update t.memories ptr.memory
      { t.memories ptr.memory with
        cells := Function.update (t.memories ptr.memory).cells ptr.slot node } }

/-- `add new memory cell` of `_node_malloc`. -/
def addMemory (t : TrieT) : TrieT :=
  if t.count = 0 ∨ (t.memories (t.count - 1)).ln + 1 = trieMemoryCellSize then
    { t with
      memories := Function.update t.memories t.count ⟨0, fun _ => default⟩
      count := t.count + 1 }
  else t

/-- `get node` of `_node_malloc`. -/
def takeNode (t : TrieT) : NodePtr × TrieT :=
  let last := t.count - 1
  let memory := t.memories last
  let ptr : NodePtr := ⟨last, memory.ln⟩
  let taken :=
    { t with memories := Function.update t.memories last { memory with ln := memory.ln + 1 } }
  (ptr, taken.setNode ptr { taken.node ptr with asIn := false, l := none, r := none })

end TrieT

def nodeMalloc (t : TrieT) : NodePtr × TrieT :=
  t.addMemory.takeNode

/-- Zeroed memory. Its `root` is `NULL`, which nothing dereferences before
`trie_init`. -/
def zeroTrie : TrieT :=
  { root := ⟨0, 0⟩, memories := fun _ => ⟨0, fun _ => default⟩, count := 0 }

/-- `trie_init`: the old memory cells are forgotten, not freed. -/
def trieInit (t : TrieT) : TrieT :=
  let (root, t) := nodeMalloc { t with count := 0 }
  { t with root := root }

/-! ## Put and search -/

/-- `((byte >> u) & 1) > 0`. -/
def byteBit (byte : UInt8) (u : Nat) : Bool :=
  byte.toNat.testBit u

/-- Bit `i` of an address, most significant bit of a byte first. -/
def addressBit (ip : Nat → UInt8) (i : Nat) : Bool :=
  byteBit (ip (i / 8)) (7 - i % 8)

/-- One step down, on a path that is created if it does not exist. -/
def descend (bit : Bool) (t : TrieT) (current : NodePtr) : TrieT × NodePtr :=
  match (t.node current).child bit with
  | some next => (t, next)
  | none =>
      let (fresh, t) := nodeMalloc t
      (t.setNode current ((t.node current).setChild bit fresh), fresh)

/-- A value that is there stays; a different one is only reported. -/
def addValue (as : Int) (t : TrieT) (current : NodePtr) : TrieT :=
  if (t.node current).asIn then t
  else t.setNode current { t.node current with asIn := true, as := as }

def putStep (ip : Nat → UInt8) (cidr : Nat) (as : Int) (walk : TrieT × NodePtr) (i : Nat) :
    TrieT × NodePtr :=
  let next := descend (addressBit ip i) walk.1 walk.2
  if i + 1 = cidr then (addValue as next.1 next.2, next.2) else next

def trieNodePut (t : TrieT) (ip : Nat → UInt8) (cidr : Nat) (as : Int) : TrieT :=
  ((List.range cidr).foldl (putStep ip cidr as) (t, t.root)).1

/-- The bits in the order of the two loops of `trie_node_search`. -/
def addressBits (ip : Nat → UInt8) (ln : Nat) : List Bool :=
  (List.range ln).flatMap fun i => (List.range 8).map fun step => byteBit (ip i) (7 - step)

/-- The body of the two loops: `found` and `*as` after the remaining bits. -/
def searchBits (t : TrieT) (current : NodePtr) (found : Bool) (as : Int) :
    List Bool → Bool × Int
  | [] => (found, as)
  | bit :: rest =>
      match (t.node current).child bit with
      | none => (found, as)
      | some next =>
          if (t.node next).asIn then searchBits t next true (t.node next).as rest
          else searchBits t next found as rest

/-- The return value, and `*as` after the call. -/
def trieNodeSearch (t : TrieT) (ip : Nat → UInt8) (ln : Nat) (as : Int) : Bool × Int :=
  searchBits t t.root false as (addressBits ip ln)

/-! ## Paths -/

namespace TrieT

/-- The node at the end of a path. -/
def walk (t : TrieT) : NodePtr → List Bool → Option NodePtr
  | current, [] => some current
  | current, bit :: rest => ((t.node current).child bit).bind fun next => t.walk next rest

/-- The value at the end of a path from the root. -/
def value (t : TrieT) (path : List Bool) : Option Int :=
  (t.walk t.root path).bind fun ptr =>
    if (t.node ptr).asIn then some (t.node ptr).as else none

def Allocated (t : TrieT) (ptr : NodePtr) : Prop :=
  ptr.memory < t.count ∧ ptr.slot < (t.memories ptr.memory).ln

/-- The nodes form a tree in the used part of the pool, and no memory cell
overflows. -/
structure Valid (t : TrieT) : Prop where
  pool : 0 < t.count
  room : ∀ memory, memory < t.count → (t.memories memory).ln < trieMemoryCellSize
  allocated : ∀ path ptr, t.walk t.root path = some ptr → t.Allocated ptr
  tree : ∀ left right ptr, t.walk t.root left = some ptr → t.walk t.root right = some ptr →
    left = right

variable {t : TrieT}

theorem walk_append (current : NodePtr) (left right : List Bool) :
    t.walk current (left ++ right) = (t.walk current left).bind fun next => t.walk next right := by
  induction left generalizing current with
  | nil => rfl
  | cons bit rest inductionHypothesis =>
      simp only [List.cons_append, walk, Option.bind_assoc, inductionHypothesis]

theorem walk_concat (current : NodePtr) (path : List Bool) (bit : Bool) :
    t.walk current (path ++ [bit]) =
      (t.walk current path).bind fun next => (t.node next).child bit := by
  rw [walk_append]
  congr 1
  funext next
  simp [walk]

/-- A path exists as far as a longer one does. -/
theorem walk_leading {current ptr : NodePtr} {path long : List Bool}
    (reached : t.walk current long = some ptr) (within : path <+: long) :
    ∃ middle, t.walk current path = some middle := by
  obtain ⟨rest, rfl⟩ := within
  rw [walk_append, Option.bind_eq_some_iff] at reached
  obtain ⟨middle, here, -⟩ := reached
  exact ⟨middle, here⟩

theorem node_setNode (ptr : NodePtr) (node : NodeT) (other : NodePtr) :
    (t.setNode ptr node).node other = if other = ptr then node else t.node other := by
  by_cases same : other = ptr
  · subst same
    simp [TrieT.node, setNode]
  · rw [if_neg same]
    unfold TrieT.node setNode
    by_cases memory : other.memory = ptr.memory
    · have slot : other.slot ≠ ptr.slot := fun slot => same (by cases other; cases ptr; simp_all)
      simp [memory, Function.update_of_ne slot]
    · simp [Function.update_of_ne memory]

theorem allocated_setNode (ptr : NodePtr) (node : NodeT) (other : NodePtr) :
    (t.setNode ptr node).Allocated other ↔ t.Allocated other := by
  unfold Allocated setNode
  by_cases memory : other.memory = ptr.memory
  · simp [memory]
  · simp [Function.update_of_ne memory]

end TrieT

end UserspaceXdp.Maps
