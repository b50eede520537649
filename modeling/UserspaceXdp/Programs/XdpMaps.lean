import UserspaceXdp.Foundation.BoundedMap
import UserspaceXdp.InlineMap.AotHelpers
import UserspaceXdp.Programs.Packet

/-!
Contract: `xdp-maps.bpf.c`, over the hash map it declares and over the table its
inline AOT header puts in the map's place.

The header's table has 128 buckets, keys of 16 bytes and values of 32, where the
map has 8192 entries of an `int` key and an `int` value. The helpers read past
the two `int` variables of the program, so the rest of a key is what the stack
holds there.

Owns: the program, its two builds, and the exact condition on a run under which
they count the same.

Does not own: how the hash map of the other build is implemented. It is a
bounded finite map.
-/

namespace UserspaceXdp.Programs.XdpMaps

open UserspaceXdp.Foundation
open UserspaceXdp.Runtime
open UserspaceXdp.InlineMap
open UserspaceXdp.InlineMap.XdpMaps

/-! ## The program -/

/-- A map as the program uses it: the `int` behind the pointer of a lookup, and
an update. A key or a value is a pointer to a variable. -/
structure MapOps (World : Type) where
  lookup : World → (Nat → UInt8) → Option Nat
  update : World → (Nat → UInt8) → (Nat → UInt8) → World

/-- What the stack holds after `pkt_sz` when the lookup and when the update reads
it, and after `count`. -/
structure StackResidue where
  lookupKey : Nat → UInt8
  updateKey : Nat → UInt8
  value : Nat → UInt8

/-- A pointer to an `int` variable on the stack. -/
def variablePointer (value : Nat) (residue : Nat → UInt8) : Nat → UInt8 :=
  fun offset => if offset < 4 then UInt8.ofNat (value / 256 ^ offset) else residue (offset - 4)

/-- `int pkt_sz = data_end - data`. -/
def pktSz (context : XdpMdUserspace) : Nat :=
  (context.dataEnd + 2 ^ 64 - context.data) % 2 ^ 32

/-- `count`, from what the lookup found. -/
def nextCount : Option Nat → Nat
  | some value => (value + 1) % 2 ^ 32
  | none => 0

section Program

variable {World : Type} (ops : MapOps World)

def xdpPass (world : World) (residue : StackResidue) (context : XdpMdUserspace)
    (memory : Memory) : XdpOutcome × World :=
  let count := nextCount (ops.lookup world (variablePointer (pktSz context) residue.lookupKey))
  let world := ops.update world (variablePointer (pktSz context) residue.updateKey)
    (variablePointer count residue.value)
  if context.dataEnd < context.data + 14 then
    ({ verdict := xdpDrop, context, memory }, world)
  else
    ({ verdict := xdpTx, context, memory := swapSrcDstMac memory context.data }, world)

/-- A packet, with the stack its run finds. -/
structure Arrival where
  context : XdpMdUserspace
  memory : Memory
  residue : StackResidue

def Arrival.size (arrival : Arrival) : Nat :=
  pktSz arrival.context

/-- The outcomes and the map after a sequence of packets. -/
def run (world : World) (arrivals : List Arrival) : List XdpOutcome × World :=
  arrivals.foldl
    (fun state arrival =>
      let result := xdpPass ops state.2 arrival.residue arrival.context arrival.memory
      (state.1 ++ [result.1], result.2))
    ([], world)

end Program

/-! ## The two builds -/

/-- The map of the program: `max_entries` is 8192, key and value are an `int`. -/
def mapOps : MapOps (BoundedMap Nat Nat) where
  lookup map key := map.lookup (Memory.loadWord key 0 4)
  update map key value := map.update 8192 (Memory.loadWord key 0 4) (Memory.loadWord value 0 4)

/-- The inline table, through the helpers of its header. -/
def inlineOps (ext : ExtHelpers) : MapOps Memory where
  lookup buffer key :=
    match bpfMapLookupElemAot ext buffer packetSizeDistributeId key with
    | some (.element offset) => some (buffer.loadWord offset 4)
    | _ => none
  update buffer key value :=
    (bpfMapUpdateElemAot ext buffer packetSizeDistributeId key value bpfAny).2

/-! ## Variables and table entries -/

/-- The `int` at the front of a value of the table. -/
def decodeInt (bytes : List UInt8) : Nat :=
  Memory.loadWord (fun offset => bytes.getD offset 0) 0 4

theorem loadWord_variablePointer {value : Nat} (small : value < 2 ^ 32)
    (residue : Nat → UInt8) : Memory.loadWord (variablePointer value residue) 0 4 = value := by
  simp only [Memory.loadWord, variablePointer]
  norm_num
  omega

/-- The bytes of a key: the variable, and twelve bytes of the stack. -/
theorem keyBytes_eq_iff {left right : Nat} {leftResidue rightResidue : Nat → UInt8}
    (leftSmall : left < 2 ^ 32) (rightSmall : right < 2 ^ 32) :
    keyBytes packetSizeDistribute (variablePointer left leftResidue) =
        keyBytes packetSizeDistribute (variablePointer right rightResidue) ↔
      left = right ∧ Memory.bytes leftResidue 0 12 = Memory.bytes rightResidue 0 12 := by
  unfold keyBytes
  rw [Memory.bytes_eq_iff, Memory.bytes_eq_iff]
  constructor
  · intro same
    constructor
    · rw [← loadWord_variablePointer leftSmall leftResidue,
        ← loadWord_variablePointer rightSmall rightResidue]
      apply Memory.loadWord_congr
      intro offset _ below
      have equal := same offset (by show offset < 16; omega)
      rwa [Nat.zero_add] at equal
    · intro offset below
      have equal := same (offset + 4) (by show offset + 4 < 16; omega)
      simpa [variablePointer] using equal
  · intro ⟨size, residue⟩ offset below
    have inside : offset < 16 := below
    rw [size]
    unfold variablePointer
    split
    · rfl
    · have equal := residue (offset - 4) (by omega)
      simpa using equal

theorem inlineOps_lookup (ext : ExtHelpers) (buffer : Memory) (key : Nat → UInt8) :
    (inlineOps ext).lookup buffer key =
      (lookupBytes packetSizeDistribute buffer key).map decodeInt := by
  unfold lookupBytes
  simp only [inlineOps, bpfMapLookupElemAot, if_true]
  cases elemLookup packetSizeDistribute buffer key with
  | none => rfl
  | some pointer =>
      simp only [Option.map_some]
      rw [decodeInt, Memory.loadWord_bytes buffer pointer (by decide)]

theorem decodeInt_valueBytes {value : Nat} (small : value < 2 ^ 32) (residue : Nat → UInt8) :
    decodeInt (valueBytes packetSizeDistribute (variablePointer value residue)) = value := by
  unfold decodeInt valueBytes
  rw [Memory.loadWord_bytes _ 0 (by decide)]
  exact loadWord_variablePointer small residue

theorem decodeInt_lt (bytes : List UInt8) : decodeInt bytes < 2 ^ 32 :=
  Memory.loadWord_lt _ 0 4

theorem nextCount_lt (found : Option Nat) : nextCount found < 2 ^ 32 := by
  cases found with
  | none => exact by decide
  | some value => exact Nat.mod_lt _ (by decide)

theorem Arrival.size_lt (arrival : Arrival) : arrival.size < 2 ^ 32 :=
  Nat.mod_lt _ (by decide)

/-! ## Agreement -/

/-- The inline table after some packets. -/
def inlineTable (ext : ExtHelpers) (seen : List Arrival) : Memory :=
  (run (inlineOps ext) zeroBuffer seen).2

/-- The map after some packets. -/
def countMap (seen : List Arrival) : BoundedMap Nat Nat :=
  (run mapOps (BoundedMap.empty 0) seen).2

/-- After some packets the two builds have returned the same and count the
same: every size that occurred has the map's value in the table, looked up the
way its packets look it up, and a size that did not occur is in neither. -/
structure Agrees (ext : ExtHelpers) (seen : List Arrival) : Prop where
  outcomes : (run (inlineOps ext) zeroBuffer seen).1 = (run mapOps (BoundedMap.empty 0) seen).1
  occurred : ∀ arrival ∈ seen,
    (inlineOps ext).lookup (inlineTable ext seen)
        (variablePointer arrival.size arrival.residue.lookupKey) =
      (countMap seen).lookup arrival.size
  absent : ∀ size < 2 ^ 32, size ∉ seen.map Arrival.size → ∀ residue,
    (inlineOps ext).lookup (inlineTable ext seen) (variablePointer size residue) = none ∧
      (countMap seen).lookup size = none

/-- The two builds agree after every packet of a run. -/
def AgreesThroughout (ext : ExtHelpers) (arrivals : List Arrival) : Prop :=
  ∀ seen later, arrivals = seen ++ later → Agrees ext seen

/-- The packets have at most 128 sizes, and the packets of one size find the
same twelve bytes after `pkt_sz`, both times it is read. -/
structure Steady (arrivals : List Arrival) : Prop where
  few : (arrivals.map Arrival.size).toFinset.card ≤ 128
  same : ∀ first ∈ arrivals, ∀ second ∈ arrivals, first.size = second.size →
    Memory.bytes first.residue.lookupKey 0 12 = Memory.bytes second.residue.lookupKey 0 12 ∧
      Memory.bytes first.residue.updateKey 0 12 = Memory.bytes second.residue.lookupKey 0 12

/-! ## One packet -/

namespace Arrival

/-- The sixteen bytes that the lookup takes for the key. -/
def lookupBytes (arrival : Arrival) : List UInt8 :=
  keyBytes packetSizeDistribute (variablePointer arrival.size arrival.residue.lookupKey)

/-- The sixteen bytes that the update takes for the key. -/
def updateBytes (arrival : Arrival) : List UInt8 :=
  keyBytes packetSizeDistribute (variablePointer arrival.size arrival.residue.updateKey)

theorem lookupBytes_eq_iff (first second : Arrival) :
    first.lookupBytes = second.lookupBytes ↔ first.size = second.size ∧
      Memory.bytes first.residue.lookupKey 0 12 = Memory.bytes second.residue.lookupKey 0 12 :=
  keyBytes_eq_iff first.size_lt second.size_lt

theorem updateBytes_eq_iff (first second : Arrival) :
    first.updateBytes = second.lookupBytes ↔ first.size = second.size ∧
      Memory.bytes first.residue.updateKey 0 12 = Memory.bytes second.residue.lookupKey 0 12 :=
  keyBytes_eq_iff first.size_lt second.size_lt

end Arrival

/-- Packets of one size use one key. -/
def Keyed (arrivals : List Arrival) : Prop :=
  ∀ first ∈ arrivals, ∀ second ∈ arrivals, first.size = second.size →
    first.lookupBytes = second.lookupBytes ∧ first.updateBytes = second.lookupBytes

/-- `Steady`, with the keys as the table compares them. -/
theorem steady_iff {arrivals : List Arrival} :
    Steady arrivals ↔
      (arrivals.map Arrival.size).toFinset.card ≤ 128 ∧ Keyed arrivals := by
  constructor
  · intro steady
    refine ⟨steady.few, ?_⟩
    intro first firstMember second secondMember size
    have same := steady.same first firstMember second secondMember size
    exact ⟨(first.lookupBytes_eq_iff second).mpr ⟨size, same.1⟩,
      (first.updateBytes_eq_iff second).mpr ⟨size, same.2⟩⟩
  · intro ⟨few, keys⟩
    refine ⟨few, ?_⟩
    intro first firstMember second secondMember size
    have same := keys first firstMember second secondMember size
    exact ⟨((first.lookupBytes_eq_iff second).mp same.1).2,
      ((first.updateBytes_eq_iff second).mp same.2).2⟩

theorem run_concat {World : Type} (ops : MapOps World) (world : World) (seen : List Arrival)
    (arrival : Arrival) :
    run ops world (seen ++ [arrival]) =
      ((run ops world seen).1 ++
          [(xdpPass ops (run ops world seen).2 arrival.residue arrival.context
            arrival.memory).1],
        (xdpPass ops (run ops world seen).2 arrival.residue arrival.context
          arrival.memory).2) := by
  unfold run
  rw [List.foldl_append]
  rfl

/-- The outcome does not depend on the map. -/
theorem xdpPass_outcome {Left Right : Type} (left : MapOps Left) (right : MapOps Right)
    (leftWorld : Left) (rightWorld : Right) (residue : StackResidue)
    (context : XdpMdUserspace) (memory : Memory) :
    (xdpPass left leftWorld residue context memory).1 =
      (xdpPass right rightWorld residue context memory).1 := by
  unfold xdpPass
  split
  · rfl
  · rfl

/-- The program writes inside the packet only, over any map. -/
theorem xdpPass_memory_other {World : Type} (ops : MapOps World) (world : World)
    (residue : StackResidue) (context : XdpMdUserspace) (memory : Memory) {address : Nat}
    (outside : address < context.data ∨ context.dataEnd ≤ address) :
    (xdpPass ops world residue context memory).1.memory address = memory address := by
  unfold xdpPass
  dsimp only
  split
  · rfl
  · exact swapSrcDstMac_other memory (by omega)

/-- The map is updated once. -/
theorem xdpPass_world {World : Type} (ops : MapOps World) (world : World)
    (residue : StackResidue) (context : XdpMdUserspace) (memory : Memory) :
    (xdpPass ops world residue context memory).2 =
      ops.update world (variablePointer (pktSz context) residue.updateKey)
        (variablePointer
          (nextCount (ops.lookup world (variablePointer (pktSz context) residue.lookupKey)))
          residue.value) := by
  unfold xdpPass
  split
  · rfl
  · rfl

theorem run_outcomes (ext : ExtHelpers) (seen : List Arrival) :
    (run (inlineOps ext) zeroBuffer seen).1 = (run mapOps (BoundedMap.empty 0) seen).1 := by
  induction seen using List.reverseRecOn with
  | nil => rfl
  | append_singleton seen arrival inductionHypothesis =>
      rw [run_concat, run_concat, inductionHypothesis, xdpPass_outcome]

/-! ## The map of the program -/

/-- The sizes that occurred. -/
def sizes (seen : List Arrival) : Finset Nat :=
  (seen.map Arrival.size).toFinset

theorem sizes_concat (seen : List Arrival) (arrival : Arrival) :
    sizes (seen ++ [arrival]) = insert arrival.size (sizes seen) := by
  ext size
  simp [sizes]

theorem mem_sizes {seen : List Arrival} {size : Nat} :
    size ∈ sizes seen ↔ ∃ arrival ∈ seen, arrival.size = size := by
  simp [sizes]

theorem room_of_concat {capacity : Nat} {seen : List Arrival} {arrival : Arrival}
    (room : (sizes (seen ++ [arrival])).card ≤ capacity) : (sizes seen).card ≤ capacity := by
  rw [sizes_concat] at room
  exact (Finset.card_le_card (Finset.subset_insert _ _)).trans room

/-- The map has room, so it counts every packet. -/
theorem countMap_concat {seen : List Arrival} {arrival : Arrival}
    (keys : (countMap seen).keys = sizes seen)
    (room : (sizes (seen ++ [arrival])).card ≤ 8192) :
    countMap (seen ++ [arrival]) =
      { keys := sizes (seen ++ [arrival])
        value := Function.update (countMap seen).value arrival.size
          (nextCount ((countMap seen).lookup arrival.size)) } := by
  have size := loadWord_variablePointer arrival.size_lt arrival.residue.lookupKey
  have target := loadWord_variablePointer arrival.size_lt arrival.residue.updateKey
  have count := loadWord_variablePointer
    (nextCount_lt ((countMap seen).lookup arrival.size)) arrival.residue.value
  rw [sizes_concat, ← keys] at room ⊢
  rw [countMap, run_concat, xdpPass_world]
  show (countMap seen).update 8192
      (Memory.loadWord (variablePointer arrival.size arrival.residue.updateKey) 0 4)
      (Memory.loadWord (variablePointer
        (nextCount ((countMap seen).lookup
          (Memory.loadWord (variablePointer arrival.size arrival.residue.lookupKey) 0 4)))
        arrival.residue.value) 0 4) = _
  rw [size, target, count, BoundedMap.update_of_room room]

theorem countMap_keys {seen : List Arrival} (room : (sizes seen).card ≤ 8192) :
    (countMap seen).keys = sizes seen := by
  induction seen using List.reverseRecOn with
  | nil => rfl
  | append_singleton seen arrival inductionHypothesis =>
      rw [countMap_concat (inductionHypothesis (room_of_concat room)) room]

/-! ## The table -/

/-- The table holds the keys that the packets looked up, with the counts of the
map. -/
structure Tracks (ext : ExtHelpers) (seen : List Arrival) (trace : StoreTrace) : Prop where
  represents : trace.Represents packetSizeDistribute
  buffer : trace.buffer = inlineTable ext seen
  keys : trace.keys = (seen.map Arrival.lookupBytes).toFinset
  values : ∀ arrival ∈ seen, (trace.stored.lookup arrival.lookupBytes).map decodeInt =
    some ((countMap seen).value arrival.size)

/-- The trace after one more packet. -/
def nextTrace (ext : ExtHelpers) (seen : List Arrival) (trace : StoreTrace)
    (arrival : Arrival) : StoreTrace :=
  trace.perform packetSizeDistribute
    (.update (variablePointer arrival.size arrival.residue.updateKey)
      (variablePointer
        (nextCount ((inlineOps ext).lookup (inlineTable ext seen)
          (variablePointer arrival.size arrival.residue.lookupKey)))
        arrival.residue.value))

section Steps

variable {ext : ExtHelpers} {seen : List Arrival} {trace : StoreTrace}

theorem nextTrace_buffer (buffer : trace.buffer = inlineTable ext seen) (arrival : Arrival) :
    (nextTrace ext seen trace arrival).buffer = inlineTable ext (seen ++ [arrival]) := by
  rw [nextTrace, StoreTrace.perform_buffer, buffer, inlineTable, inlineTable, run_concat,
    xdpPass_world]
  rfl

/-- One more packet puts its count under the key that its update reads, or finds
the table full of other keys. -/
theorem nextTrace_cases (ext : ExtHelpers) (seen : List Arrival) (arrival : Arrival)
    (represents : trace.Represents packetSizeDistribute) :
    (nextTrace ext seen trace arrival).stored =
        (arrival.updateBytes, valueBytes packetSizeDistribute
          (variablePointer
            (nextCount ((inlineOps ext).lookup (inlineTable ext seen)
              (variablePointer arrival.size arrival.residue.lookupKey)))
            arrival.residue.value)) :: trace.stored ∨
      ((nextTrace ext seen trace arrival).stored = trace.stored ∧
        trace.keys.card = 128 ∧ arrival.updateBytes ∉ trace.keys) :=
  represents.update_cases _ _

/-- A lookup in the table. -/
theorem lookup_of_represents (represents : trace.Represents packetSizeDistribute)
    (buffer : trace.buffer = inlineTable ext seen) (key : Nat → UInt8) :
    (inlineOps ext).lookup (inlineTable ext seen) key =
      (trace.stored.lookup (keyBytes packetSizeDistribute key)).map decodeInt := by
  rw [inlineOps_lookup, ← buffer, represents.lookup]

theorem lookup_eq_none_of_notMem {key : List UInt8} (absent : key ∉ trace.keys) :
    trace.stored.lookup key = none := by
  rw [StoreTrace.keys, ← lookup_ne_none_iff] at absent
  cases found : trace.stored.lookup key with
  | none => rfl
  | some value => exact absurd ⟨value, found⟩ absent

/-- The size a key begins with. -/
theorem decodeInt_lookupBytes (arrival : Arrival) :
    decodeInt arrival.lookupBytes = arrival.size := by
  unfold decodeInt Arrival.lookupBytes keyBytes
  rw [Memory.loadWord_bytes _ 0 (by decide)]
  exact loadWord_variablePointer arrival.size_lt _

/-- There are as many keys as sizes. -/
theorem Keyed.card_keys (keyed : Keyed seen) :
    (seen.map Arrival.lookupBytes).toFinset.card = (sizes seen).card := by
  have image : sizes seen = (seen.map Arrival.lookupBytes).toFinset.image decodeInt := by
    ext size
    simp [sizes, decodeInt_lookupBytes]
  rw [image, Finset.card_image_of_injOn]
  intro left leftMember right rightMember same
  rw [Finset.mem_coe, List.mem_toFinset, List.mem_map] at leftMember rightMember
  obtain ⟨first, firstMember, rfl⟩ := leftMember
  obtain ⟨second, secondMember, rfl⟩ := rightMember
  have size : first.size = second.size := by
    rw [← decodeInt_lookupBytes, ← decodeInt_lookupBytes]
    exact same
  exact (keyed first firstMember second secondMember size).1

theorem Keyed.of_append {later : List Arrival} (keyed : Keyed (seen ++ later)) : Keyed seen := by
  intro first firstMember second secondMember
  exact keyed first (List.mem_append_left _ firstMember) second
    (List.mem_append_left _ secondMember)

namespace Tracks

variable (tracks : Tracks ext seen trace)
include tracks

/-- A size that did not occur is not in the table, whatever follows it. -/
theorem lookup_of_new {size : Nat} (small : size < 2 ^ 32) (fresh : size ∉ sizes seen)
    (residue : Nat → UInt8) :
    trace.stored.lookup (keyBytes packetSizeDistribute (variablePointer size residue)) = none := by
  apply lookup_eq_none_of_notMem
  rw [tracks.keys, List.mem_toFinset, List.mem_map]
  intro ⟨arrival, member, same⟩
  have equal := ((keyBytes_eq_iff arrival.size_lt small).mp same).1
  exact fresh (mem_sizes.mpr ⟨arrival, member, equal⟩)

theorem agrees (room : (sizes seen).card ≤ 8192) : Agrees ext seen := by
  have keys := countMap_keys room
  constructor
  · exact run_outcomes ext seen
  · intro arrival member
    have present : arrival.size ∈ (countMap seen).keys := by
      rw [keys]
      exact mem_sizes.mpr ⟨arrival, member, rfl⟩
    rw [lookup_of_represents tracks.represents tracks.buffer, BoundedMap.lookup_of_mem present]
    exact tracks.values arrival member
  · intro size small fresh residue
    have missing : size ∉ sizes seen := by
      rw [sizes, List.mem_toFinset]
      exact fresh
    constructor
    · rw [lookup_of_represents tracks.represents tracks.buffer,
        tracks.lookup_of_new small missing]
      rfl
    · rw [BoundedMap.lookup_eq_none_iff, keys]
      exact missing

/-- Two packets of one size: the table has the map's count for the earlier one. -/
theorem lookup_of_old {earlier arrival : Arrival} (member : earlier ∈ seen)
    (size : earlier.size = arrival.size) :
    (trace.stored.lookup earlier.lookupBytes).map decodeInt =
      some ((countMap seen).value arrival.size) := by
  rw [← size]
  exact tracks.values earlier member

/-- A packet that uses the key of its size reads the map's count. -/
theorem lookup_eq_countMap {arrival : Arrival} (room : (sizes seen).card ≤ 8192)
    (keyed : ∀ earlier ∈ seen, earlier.size = arrival.size →
      earlier.lookupBytes = arrival.lookupBytes) :
    (inlineOps ext).lookup (inlineTable ext seen)
        (variablePointer arrival.size arrival.residue.lookupKey) =
      (countMap seen).lookup arrival.size := by
  have keys := countMap_keys room
  rw [lookup_of_represents tracks.represents tracks.buffer]
  by_cases occurred : arrival.size ∈ sizes seen
  · obtain ⟨earlier, member, size⟩ := mem_sizes.mp occurred
    have found := tracks.lookup_of_old member size
    rw [keyed earlier member size] at found
    rw [BoundedMap.lookup_of_mem (keys.symm ▸ occurred)]
    exact found
  · have missing := tracks.lookup_of_new arrival.size_lt occurred arrival.residue.lookupKey
    rw [missing, BoundedMap.lookup_eq_none_iff.mpr (keys.symm ▸ occurred)]
    rfl

/-- A steady packet is stored. -/
theorem stored_of_steady {arrival : Arrival} (few : (sizes (seen ++ [arrival])).card ≤ 128)
    (keyed : Keyed (seen ++ [arrival])) :
    (nextTrace ext seen trace arrival).stored =
      (arrival.lookupBytes, valueBytes packetSizeDistribute
        (variablePointer
          (nextCount ((inlineOps ext).lookup (inlineTable ext seen)
            (variablePointer arrival.size arrival.residue.lookupKey)))
          arrival.residue.value)) :: trace.stored := by
  have last : arrival ∈ seen ++ [arrival] := List.mem_concat_self
  have own : arrival.updateBytes = arrival.lookupBytes := (keyed arrival last arrival last rfl).2
  rcases nextTrace_cases ext seen arrival tracks.represents with
    stored | ⟨_, full, missing⟩
  · rw [← own]
    exact stored
  · -- The sizes that occurred would fill the table, and this one be one more.
    have count := keyed.of_append.card_keys
    rw [← tracks.keys, full] at count
    have fresh : arrival.size ∉ sizes seen := by
      intro occurred
      obtain ⟨earlier, member, size⟩ := mem_sizes.mp occurred
      have same := (keyed arrival last earlier (List.mem_append_left _ member) size.symm).2
      apply missing
      rw [tracks.keys, List.mem_toFinset, same]
      exact List.mem_map_of_mem member
    rw [sizes_concat, Finset.card_insert_of_notMem fresh] at few
    omega

theorem concat {arrival : Arrival} (few : (sizes (seen ++ [arrival])).card ≤ 128)
    (keyed : Keyed (seen ++ [arrival])) :
    Tracks ext (seen ++ [arrival]) (nextTrace ext seen trace arrival) := by
  have last : arrival ∈ seen ++ [arrival] := List.mem_concat_self
  have fewer : (sizes seen).card ≤ 8192 := (room_of_concat few).trans (by decide)
  have found := tracks.lookup_eq_countMap fewer fun earlier member size =>
    (keyed earlier (List.mem_append_left _ member) arrival last size).1
  have stored := tracks.stored_of_steady few keyed
  rw [found] at stored
  constructor
  · exact tracks.represents.perform _
  · exact nextTrace_buffer tracks.buffer arrival
  · rw [StoreTrace.keys, stored, List.map_cons, List.toFinset_cons, ← StoreTrace.keys,
      tracks.keys]
    ext key
    simp [eq_comm]
  · intro other member
    rw [stored, countMap_concat (countMap_keys fewer) (by omega)]
    dsimp only
    by_cases size : other.size = arrival.size
    · have same := (keyed other member arrival last size).1
      rw [same, size, List.lookup_cons_self, Function.update_self, Option.map_some,
        decodeInt_valueBytes (nextCount_lt _)]
    · have apart : (other.lookupBytes == arrival.lookupBytes) = false := by
        rw [beq_eq_false_iff_ne]
        intro same
        exact size ((other.lookupBytes_eq_iff arrival).mp same).1
      have earlier : other ∈ seen := by
        rcases List.mem_append.mp member with early | late
        · exact early
        · rw [List.mem_singleton] at late
          exact absurd (congrArg Arrival.size late) size
      rw [List.lookup_cons, apart, Function.update_of_ne size]
      exact tracks.values other earlier

/-- No entry that the table has for a size is the count of its next packet. -/
theorem stale (room : (sizes seen).card ≤ 8192) (arrival : Arrival) (residue : Nat → UInt8) :
    (trace.stored.lookup
        (keyBytes packetSizeDistribute (variablePointer arrival.size residue))).map decodeInt ≠
      some (nextCount ((countMap seen).lookup arrival.size)) := by
  by_cases occurred : arrival.size ∈ sizes seen
  · intro fresh
    obtain ⟨entry, found, count⟩ := Option.map_eq_some_iff.mp fresh
    -- The key is one that a packet of this size looked up.
    have member : keyBytes packetSizeDistribute (variablePointer arrival.size residue) ∈
        trace.keys := lookup_ne_none_iff.mp ⟨entry, found⟩
    rw [tracks.keys, List.mem_toFinset, List.mem_map] at member
    obtain ⟨earlier, earlierMember, same⟩ := member
    have size : earlier.size = arrival.size :=
      ((keyBytes_eq_iff earlier.size_lt arrival.size_lt).mp same).1
    have old := tracks.lookup_of_old earlierMember size
    rw [same, fresh, Option.some_inj,
      BoundedMap.lookup_of_mem (countMap_keys room ▸ occurred)] at old
    have bound := decodeInt_lt entry
    rw [count, BoundedMap.lookup_of_mem (countMap_keys room ▸ occurred), old] at bound
    simp only [nextCount] at old
    omega
  · rw [tracks.lookup_of_new arrival.size_lt occurred]
    nofun

/-- Two builds that agree after one more packet find its count with every packet
of its size. -/
theorem counted_of_agrees {arrival other : Arrival}
    (room : (sizes (seen ++ [arrival])).card ≤ 8192) (now : Agrees ext (seen ++ [arrival]))
    (member : other ∈ seen ++ [arrival]) (size : other.size = arrival.size) :
    ((nextTrace ext seen trace arrival).stored.lookup other.lookupBytes).map decodeInt =
      some (nextCount ((countMap seen).lookup arrival.size)) := by
  have represents : (nextTrace ext seen trace arrival).Represents packetSizeDistribute :=
    tracks.represents.perform _
  have present : other.size ∈ sizes (seen ++ [arrival]) := mem_sizes.mpr ⟨other, member, rfl⟩
  have found := now.occurred other member
  rw [lookup_of_represents represents (nextTrace_buffer tracks.buffer arrival),
    countMap_concat (countMap_keys (room_of_concat room)) room,
    BoundedMap.lookup_of_mem present] at found
  dsimp only at found
  rw [size, Function.update_self, ← size] at found
  rw [← size]
  exact found

/-- The update then went through, under the key that every packet of the size
looks up. -/
theorem stored_of_agrees {arrival other : Arrival}
    (room : (sizes (seen ++ [arrival])).card ≤ 8192) (now : Agrees ext (seen ++ [arrival]))
    (member : other ∈ seen ++ [arrival]) (size : other.size = arrival.size) :
    other.lookupBytes = arrival.updateBytes ∧
      (nextTrace ext seen trace arrival).keys = insert arrival.updateBytes trace.keys := by
  have found := tracks.counted_of_agrees room now member size
  have outdated := tracks.stale (room_of_concat room) arrival other.residue.lookupKey
  have bytes : keyBytes packetSizeDistribute
      (variablePointer arrival.size other.residue.lookupKey) = other.lookupBytes := by
    rw [← size]
    rfl
  rw [bytes] at outdated
  rcases nextTrace_cases ext seen arrival tracks.represents with
    stored | ⟨unchanged, _⟩
  · constructor
    · by_contra apart
      -- The entry the other packet finds is one from before this update.
      have skipped : (other.lookupBytes == arrival.updateBytes) = false :=
        beq_eq_false_iff_ne.mpr apart
      rw [stored, List.lookup_cons, skipped] at found
      exact outdated found
    · rw [StoreTrace.keys, stored, List.map_cons, List.toFinset_cons]
      rfl
  · rw [unchanged] at found
    exact absurd found outdated

theorem keyed_of_agrees {arrival : Arrival} (keyed : Keyed seen)
    (room : (sizes (seen ++ [arrival])).card ≤ 8192) (now : Agrees ext (seen ++ [arrival])) :
    Keyed (seen ++ [arrival]) := by
  intro first firstMember second secondMember size
  have last : arrival ∈ seen ++ [arrival] := List.mem_concat_self
  have own := (tracks.stored_of_agrees room now last rfl).1
  rcases List.mem_append.mp firstMember with firstEarly | firstLate
  · rcases List.mem_append.mp secondMember with secondEarly | secondLate
    · exact keyed first firstEarly second secondEarly size
    · rw [List.mem_singleton] at secondLate
      subst secondLate
      have stored := (tracks.stored_of_agrees room now firstMember size).1
      have before := (keyed first firstEarly first firstEarly rfl).2
      rw [before, stored, own]
      exact ⟨rfl, rfl⟩
  · rw [List.mem_singleton] at firstLate
    subst firstLate
    have stored := (tracks.stored_of_agrees room now secondMember size.symm).1
    rw [stored, own]
    exact ⟨rfl, rfl⟩

/-- The keys are in the table, which has 128 buckets. -/
theorem few_of_agrees {arrival : Arrival} (keyed : Keyed seen)
    (room : (sizes (seen ++ [arrival])).card ≤ 8192) (now : Agrees ext (seen ++ [arrival])) :
    (sizes (seen ++ [arrival])).card ≤ 128 := by
  have represents : (nextTrace ext seen trace arrival).Represents packetSizeDistribute :=
    tracks.represents.perform _
  have last : arrival ∈ seen ++ [arrival] := List.mem_concat_self
  obtain ⟨own, keys⟩ := tracks.stored_of_agrees room now last rfl
  have every : (nextTrace ext seen trace arrival).keys =
      ((seen ++ [arrival]).map Arrival.lookupBytes).toFinset := by
    rw [keys, tracks.keys, ← own]
    ext bytes
    simp [eq_comm]
  have bound := represents.card_keys_le
  rw [every, (tracks.keyed_of_agrees keyed room now).card_keys] at bound
  exact bound

end Tracks

end Steps

/-! ## Runs -/

theorem AgreesThroughout.of_append {ext : ExtHelpers} {seen later : List Arrival}
    (agrees : AgreesThroughout ext (seen ++ later)) : AgreesThroughout ext seen := by
  intro first rest split
  apply agrees first (rest ++ later)
  rw [split, List.append_assoc]

theorem tracks_nil (ext : ExtHelpers) : Tracks ext [] ⟨zeroBuffer, []⟩ where
  represents := StoreTrace.run_represents packetSizeDistribute []
  buffer := rfl
  keys := rfl
  values := nofun

/-- A steady run is tracked by the table. -/
theorem tracks_of_keyed (ext : ExtHelpers) {arrivals : List Arrival}
    (few : (sizes arrivals).card ≤ 128) (keyed : Keyed arrivals) :
    ∃ trace, Tracks ext arrivals trace := by
  induction arrivals using List.reverseRecOn with
  | nil => exact ⟨_, tracks_nil ext⟩
  | append_singleton seen arrival inductionHypothesis =>
      have ⟨trace, tracks⟩ := inductionHypothesis (room_of_concat few) keyed.of_append
      exact ⟨_, tracks.concat few keyed⟩

/-- A run on which the builds agree is steady, one packet after the other. -/
theorem keyed_of_agreesThroughout (ext : ExtHelpers) {arrivals : List Arrival}
    (room : (sizes arrivals).card ≤ 8192) (agrees : AgreesThroughout ext arrivals) :
    (sizes arrivals).card ≤ 128 ∧ Keyed arrivals := by
  induction arrivals using List.reverseRecOn with
  | nil => exact ⟨Nat.zero_le _, nofun⟩
  | append_singleton seen arrival inductionHypothesis =>
      have ⟨few, keyed⟩ := inductionHypothesis (room_of_concat room) agrees.of_append
      have ⟨trace, tracks⟩ := tracks_of_keyed ext few keyed
      have now := agrees (seen ++ [arrival]) [] (by rw [List.append_nil])
      exact ⟨tracks.few_of_agrees keyed room now, tracks.keyed_of_agrees keyed room now⟩

/-- The two builds count the same packet by packet exactly on the steady runs,
among those whose sizes fit into the map. -/
theorem xdpMaps_builds_agree_iff (ext : ExtHelpers) (arrivals : List Arrival)
    (fits : (arrivals.map Arrival.size).toFinset.card ≤ 8192) :
    AgreesThroughout ext arrivals ↔ Steady arrivals := by
  rw [steady_iff]
  constructor
  · exact keyed_of_agreesThroughout ext fits
  · intro ⟨few, keyed⟩ seen later split
    rw [split] at few keyed
    have fewer : (sizes seen).card ≤ 128 := by
      apply le_trans (Finset.card_le_card ?_) few
      rw [List.map_append, List.toFinset_append]
      exact Finset.subset_union_left
    have ⟨trace, tracks⟩ := tracks_of_keyed ext fewer keyed.of_append
    exact tracks.agrees (by omega)

/-- A packet of zeros, with one value in every byte of the stack that is read as
part of its key. -/
private def zeroPacket (size : Nat) (byte : UInt8) : Arrival where
  context := ⟨0, size, 0, 0, 0, 0, 0, 0⟩
  memory := fun _ => 0
  residue := ⟨fun _ => byte, fun _ => byte, fun _ => 0⟩

/-- Three packets of two sizes over a stack of zeros. -/
theorem xdpMaps_builds_agree_on_zero_stack :
    AgreesThroughout ⟨fun _ _ => none, fun _ _ _ _ => 0, fun _ _ => 0⟩
      [zeroPacket 60 0, zeroPacket 64 0, zeroPacket 60 0] := by
  apply (xdpMaps_builds_agree_iff _ _ (by decide)).mpr
  constructor
  · decide
  · intro first firstMember second secondMember _
    simp only [List.mem_cons, List.not_mem_nil, or_false] at firstMember secondMember
    rcases firstMember with rfl | rfl | rfl <;> rcases secondMember with rfl | rfl | rfl <;>
      exact ⟨rfl, rfl⟩

/-- One packet more than the table has buckets, each of its own size; and two
packets of one size that find different bytes after `pkt_sz`. -/
theorem xdpMaps_builds_disagree :
    (((List.range 129).map fun index => zeroPacket (60 + index) 0).map
        Arrival.size).toFinset.card ≤ 8192 ∧
      ¬AgreesThroughout ⟨fun _ _ => none, fun _ _ _ _ => 0, fun _ _ => 0⟩
        ((List.range 129).map fun index => zeroPacket (60 + index) 0) ∧
      ¬AgreesThroughout ⟨fun _ _ => none, fun _ _ _ _ => 0, fun _ _ => 0⟩
        [zeroPacket 60 0, zeroPacket 60 1] := by
  have count : (sizes ((List.range 129).map fun index => zeroPacket (60 + index) 0)).card = 129 := by
    decide +kernel
  constructor
  · exact count.le.trans (by decide)
  constructor
  · intro agrees
    have few := (keyed_of_agreesThroughout _ (count.le.trans (by decide)) agrees).1
    rw [count] at few
    exact absurd few (by decide)
  · intro agrees
    have keyed := (keyed_of_agreesThroughout _ (by decide) agrees).2
    have same := (keyed (zeroPacket 60 0) (by simp) (zeroPacket 60 1) (by simp) rfl).1
    exact absurd same (by decide)

end UserspaceXdp.Programs.XdpMaps
