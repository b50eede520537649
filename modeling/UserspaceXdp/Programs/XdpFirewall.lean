import UserspaceXdp.Foundation.Lockstep
import UserspaceXdp.InlineMap.AotHelpers
import UserspaceXdp.InlineMap.LiveValues
import UserspaceXdp.Programs.Packet

/-!
Contract: `xdp_firewall.bpf.c`, over the maps it declares and over what its
inline AOT header puts in their place.

The program writes through the pointers that its lookups return: a drop counter
of `l3_filter`, and the statistics of a cell of `vrrp_vrid_filter`.

Owns: the program over any two such maps, its two builds on one CPU, and the
simulation of the build with exact maps by the inline one.

Does not own: how the maps of the other build are implemented. They are an exact
finite map and an array, both of live cells.
-/

namespace UserspaceXdp.Programs.XdpFirewall

open UserspaceXdp.Foundation
open UserspaceXdp.Foundation.Lockstep
open UserspaceXdp.Runtime
open UserspaceXdp.InlineMap
open UserspaceXdp.InlineMap.XdpFirewall

/-! ## The program -/

/-- `struct vrrp_filter`. -/
structure VrrpFilter where
  action : UInt32
  dropPackets : UInt64
  totalPackets : UInt64
  dropBytes : UInt64
  totalBytes : UInt64
deriving DecidableEq

/-- The two maps as the program uses them: lookups that return pointers, and
loads and stores through these. A key is a pointer to the bytes of a variable. -/
structure Maps (World : Type) where
  Counter : Type
  lookupL3Filter : World → (Nat → UInt8) → Option Counter
  loadCounter : World → Counter → UInt64
  storeCounter : World → Counter → UInt64 → World
  Cell : Type
  lookupVrrpVridFilter : World → (Nat → UInt8) → Option Cell
  loadVrrp : World → Cell → VrrpFilter
  storeVrrp : World → Cell → VrrpFilter → World

def ethP8021Q : Nat := 0x8100
def ethP8021AD : Nat := 0x88A8
def ethPIp : Nat := 0x0800
def ethPIpv6 : Nat := 0x86DD
def ipprotoAh : UInt8 := 51
def ipprotoVrrp : UInt8 := 112

structure ParsePkt where
  l3Proto : Nat
  l3Offset : Nat
deriving DecidableEq

section Parsing

variable (memory : Memory)

/-- One of the two blocks that handle a VLAN tag: `eth_type` and `offset` after
it, or none when the tag is cut off. -/
def skipVlanTag (eth dataEnd ethType offset : Nat) : Option (Nat × Nat) :=
  if ethType = bpfHtons ethP8021Q ∨ ethType = bpfHtons ethP8021AD then
    let vlanHdr := eth + offset
    let offset := (offset + 4) % 2 ^ 8
    if dataEnd < eth + offset then none
    else some (memory.loadWord (vlanHdr + 2) 2, offset)
  else some (ethType, offset)

def parseEthFrame (eth dataEnd : Nat) : Option ParsePkt := do
  if dataEnd < eth + 14 then none
  else
    let (ethType, offset) ← skipVlanTag memory eth dataEnd (memory.loadWord (eth + 12) 2) 14
    let (ethType, offset) ← skipVlanTag memory eth dataEnd ethType offset
    return { l3Proto := bpfNtohs ethType, l3Offset := offset }

/-- `struct flow_key key = {}`, and what is stored to it. -/
def flowKey (daddr : Nat) : Memory :=
  let key : Memory := fun _ => 0
  let key := key.storeWord 16 ethPIp 4
  let key := ((key.storeWord 12 0 4).storeWord 8 0 4).storeWord 4 0 4
  key.storeWord 0 daddr 4

/-- The VRRP header of an IPv4 packet, behind an authentication header or not, or
the verdict on a packet that cuts it off. -/
def findVrrp (iph dataEnd : Nat) : Except Nat (Option Nat) :=
  if memory (iph + 9) = ipprotoVrrp then
    let vrrph := iph + 20
    if dataEnd < vrrph + 8 then .error xdpDrop else .ok (some vrrph)
  else if memory (iph + 9) = ipprotoAh then
    let ah := iph + 20
    if dataEnd < ah + 12 then .error Runtime.xdpPass
    else if memory ah = ipprotoVrrp then
      let vrrph := iph + 20 + 12
      if dataEnd < vrrph + 8 then .error xdpDrop else .ok (some vrrph)
    else .ok none
  else .ok none

end Parsing

section Program

variable {World : Type} (maps : Maps World)

def vrrpFilter (world : World) (memory : Memory) (vrrph len : Nat) : Nat × World :=
  let key := Memory.storeWord (fun _ => 0) 0 (memory (vrrph + 1)).toNat 4
  match maps.lookupVrrpVridFilter world key with
  | none => (Runtime.xdpPass, world)
  | some cell =>
      let vrrpf := maps.loadVrrp world cell
      let vrrpf :=
        { vrrpf with
          totalPackets := vrrpf.totalPackets + 1
          totalBytes := vrrpf.totalBytes + UInt64.ofNat len }
      if vrrpf.action ≠ 0 then (Runtime.xdpPass, maps.storeVrrp world cell vrrpf)
      else
        let vrrpf :=
          { vrrpf with
            dropPackets := vrrpf.dropPackets + 1
            dropBytes := vrrpf.dropBytes + UInt64.ofNat len }
        (xdpDrop, maps.storeVrrp world cell vrrpf)

def layer3Filter (world : World) (memory : Memory) (data dataEnd : Nat) (pkt : ParsePkt) :
    Nat × World :=
  if pkt.l3Proto = ethPIp then
    let iph := data + pkt.l3Offset
    if dataEnd < iph + 20 then (Runtime.xdpPass, world)
    else
      let totLen := bpfNtohs (memory.loadWord (iph + 2) 2)
      match findVrrp memory iph dataEnd with
      | .error verdict => (verdict, world)
      | .ok vrrph =>
          match maps.lookupL3Filter world (flowKey (memory.loadWord (iph + 16) 4)) with
          | some dropCnt =>
              (xdpDrop, maps.storeCounter world dropCnt (maps.loadCounter world dropCnt + 1))
          | none =>
              match vrrph with
              | some vrrph => vrrpFilter maps world memory vrrph totLen
              | none => (Runtime.xdpPass, world)
  else if pkt.l3Proto = ethPIpv6 then (xdpDrop, world)
  else (Runtime.xdpPass, world)

def xdpPass (world : World) (packet : XdpMdUserspace × Memory) : XdpOutcome × World :=
  let (context, memory) := packet
  match parseEthFrame memory context.data context.dataEnd with
  | none => ({ verdict := Runtime.xdpPass, context, memory }, world)
  | some pkt =>
      let (ret, world) := layer3Filter maps world memory context.data context.dataEnd pkt
      if ret = Runtime.xdpPass then
        ({ verdict := xdpTx, context, memory := swapSrcDstMac memory context.data }, world)
      else ({ verdict := ret, context, memory }, world)

end Program

theorem parseEthFrame_long {memory : Memory} {eth dataEnd : Nat} {pkt : ParsePkt}
    (parsed : parseEthFrame memory eth dataEnd = some pkt) : eth + 14 ≤ dataEnd := by
  unfold parseEthFrame at parsed
  split at parsed
  · cases parsed
  · omega

/-- The program writes inside the packet only, over any maps. -/
theorem xdpPass_memory_other {World : Type} (maps : Maps World) (world : World)
    (context : XdpMdUserspace) (memory : Memory) {address : Nat}
    (outside : address < context.data ∨ context.dataEnd ≤ address) :
    (xdpPass maps world (context, memory)).1.memory address = memory address := by
  unfold xdpPass
  dsimp only
  cases parsed : parseEthFrame memory context.data context.dataEnd with
  | none => rfl
  | some pkt =>
      have long := parseEthFrame_long parsed
      dsimp only
      split
      · exact swapSrcDstMac_other memory (by omega)
      · rfl

/-! ## The two builds -/

/-- The bytes of a `flow_key` that a pointer designates. -/
abbrev flowKeyBytes (key : Nat → UInt8) : List UInt8 :=
  keyBytes l3Filter key

/-- The maps of the program, on one CPU. -/
structure ExactWorld where
  l3Filter : List UInt8 → Option UInt64
  vrrpVridFilter : Nat → VrrpFilter

/-- A counter is known by its key, a cell by its index. -/
def exactMaps : Maps ExactWorld where
  Counter := List UInt8
  lookupL3Filter world key :=
    if (world.l3Filter (flowKeyBytes key)).isSome then some (flowKeyBytes key) else none
  loadCounter world counter := (world.l3Filter counter).getD 0
  storeCounter world counter value :=
    { world with l3Filter := Function.update world.l3Filter counter (some value) }
  Cell := Nat
  lookupVrrpVridFilter _ key :=
    if Memory.loadWord key 0 4 < 256 then some (Memory.loadWord key 0 4) else none
  loadVrrp world index := world.vrrpVridFilter index
  storeVrrp world index filter :=
    { world with vrrpVridFilter := Function.update world.vrrpVridFilter index filter }

/-- `__l3_filter` and `__vrrp_vrid_filter` of the header. -/
structure InlineWorld where
  l3Filter : Memory
  vrrpVridFilter : Nat → VrrpFilter

def inlineMaps (ext : ExtHelpers) : Maps InlineWorld where
  Counter := Nat
  lookupL3Filter world key :=
    match bpfMapLookupElemAot ext world.l3Filter l3FilterId key with
    | some (.element offset) => some offset
    | _ => none
  loadCounter world offset := UInt64.ofNat (world.l3Filter.loadWord offset 8)
  storeCounter world offset value :=
    { world with l3Filter := world.l3Filter.storeWord offset value.toNat 8 }
  Cell := Nat
  lookupVrrpVridFilter world key :=
    match bpfMapLookupElemAot ext world.l3Filter vrrpVridFilterId key with
    | some (.cell index) => some index
    | _ => none
  loadVrrp world index := world.vrrpVridFilter index
  storeVrrp world index filter :=
    { world with vrrpVridFilter := Function.update world.vrrpVridFilter index filter }

/-! ## Simulation of the program -/

/-- What two kinds of maps must have in common for the program to behave the same
over them: a lookup succeeds in both or in neither, and what the program stores
through the two pointers keeps the maps related. -/
structure Bridge {Left Right : Type} (left : Maps Left) (right : Maps Right)
    (Related : Left → Right → Prop) : Prop where
  counter : ∀ {leftWorld rightWorld}, Related leftWorld rightWorld → ∀ key,
    left.lookupL3Filter leftWorld key = none ∧ right.lookupL3Filter rightWorld key = none ∨
      ∃ leftCounter rightCounter,
        left.lookupL3Filter leftWorld key = some leftCounter ∧
        right.lookupL3Filter rightWorld key = some rightCounter ∧
        Related
          (left.storeCounter leftWorld leftCounter (left.loadCounter leftWorld leftCounter + 1))
          (right.storeCounter rightWorld rightCounter
            (right.loadCounter rightWorld rightCounter + 1))
  cell : ∀ {leftWorld rightWorld}, Related leftWorld rightWorld → ∀ (vrid : UInt8),
    ∃ leftCell rightCell,
      left.lookupVrrpVridFilter leftWorld (Memory.storeWord (fun _ => 0) 0 vrid.toNat 4) =
        some leftCell ∧
      right.lookupVrrpVridFilter rightWorld (Memory.storeWord (fun _ => 0) 0 vrid.toNat 4) =
        some rightCell ∧
      left.loadVrrp leftWorld leftCell = right.loadVrrp rightWorld rightCell ∧
      ∀ filter, Related (left.storeVrrp leftWorld leftCell filter)
        (right.storeVrrp rightWorld rightCell filter)

section Simulation

variable {Left Right : Type} {left : Maps Left} {right : Maps Right}
variable {Related : Left → Right → Prop} {leftWorld : Left} {rightWorld : Right}

theorem Bridge.vrrpFilter (bridge : Bridge left right Related)
    (related : Related leftWorld rightWorld) (memory : Memory) (vrrph len : Nat) :
    (vrrpFilter left leftWorld memory vrrph len).1 =
        (vrrpFilter right rightWorld memory vrrph len).1 ∧
      Related (vrrpFilter left leftWorld memory vrrph len).2
        (vrrpFilter right rightWorld memory vrrph len).2 := by
  have ⟨leftCell, rightCell, leftFound, rightFound, same, stores⟩ :=
    bridge.cell related (memory (vrrph + 1))
  unfold XdpFirewall.vrrpFilter
  dsimp only
  rw [leftFound, rightFound]
  dsimp only
  rw [same]
  split
  · exact ⟨rfl, stores _⟩
  · exact ⟨rfl, stores _⟩

theorem Bridge.layer3Filter (bridge : Bridge left right Related)
    (related : Related leftWorld rightWorld) (memory : Memory) (data dataEnd : Nat)
    (pkt : ParsePkt) :
    (layer3Filter left leftWorld memory data dataEnd pkt).1 =
        (layer3Filter right rightWorld memory data dataEnd pkt).1 ∧
      Related (layer3Filter left leftWorld memory data dataEnd pkt).2
        (layer3Filter right rightWorld memory data dataEnd pkt).2 := by
  unfold XdpFirewall.layer3Filter
  dsimp only
  split
  case isFalse =>
      split
      · exact ⟨rfl, related⟩
      · exact ⟨rfl, related⟩
  split
  case isTrue => exact ⟨rfl, related⟩
  cases findVrrp memory (data + pkt.l3Offset) dataEnd with
  | error verdict => exact ⟨rfl, related⟩
  | ok vrrph =>
      dsimp only
      rcases bridge.counter related
        (flowKey (memory.loadWord (data + pkt.l3Offset + 16) 4)) with
        ⟨leftMissing, rightMissing⟩ | ⟨leftCounter, rightCounter, leftFound, rightFound, next⟩
      · rw [leftMissing, rightMissing]
        cases vrrph with
        | none => exact ⟨rfl, related⟩
        | some vrrph => exact bridge.vrrpFilter related memory vrrph _
      · rw [leftFound, rightFound]
        exact ⟨rfl, next⟩

/-- Over related maps the program gives one outcome and leaves related maps. -/
theorem Bridge.simulation (bridge : Bridge left right Related) :
    Simulation (xdpPass left) (xdpPass right) Related := by
  intro leftWorld rightWorld packet related
  unfold xdpPass
  dsimp only
  cases parseEthFrame packet.2 packet.1.data packet.1.dataEnd with
  | none => exact ⟨rfl, related⟩
  | some pkt =>
      have ⟨ret, next⟩ := bridge.layer3Filter related packet.2 packet.1.data packet.1.dataEnd pkt
      dsimp only
      rw [ret]
      split
      · exact ⟨rfl, next⟩
      · exact ⟨rfl, next⟩

end Simulation

/-! ## The inline maps and the exact ones -/

/-- The `__u64` that the bytes of a value are. -/
def decodeCounter (bytes : List UInt8) : UInt64 :=
  UInt64.ofNat (Memory.loadWord (fun offset => bytes.getD offset 0) 0 8)

/-- The table keeps its chains, a lookup in it finds the counter of the exact map,
and the cells are the same. -/
structure Related (inline : InlineWorld) (exact : ExactWorld) : Prop where
  chained : ChainedBuffer l3Filter inline.l3Filter
  counters : ∀ key : Nat → UInt8,
    (lookupBytes l3Filter inline.l3Filter key).map decodeCounter =
      exact.l3Filter (flowKeyBytes key)
  cells : ∀ vrid < 256, inline.vrrpVridFilter vrid = exact.vrrpVridFilter vrid

theorem inlineMaps_lookup (ext : ExtHelpers) (world : InlineWorld) (key : Nat → UInt8) :
    (inlineMaps ext).lookupL3Filter world key = elemLookup l3Filter world.l3Filter key := by
  simp only [inlineMaps, bpfMapLookupElemAot, if_true]
  cases elemLookup l3Filter world.l3Filter key with
  | none => rfl
  | some offset => rfl

theorem decodeCounter_bytes (buffer : Memory) (offset : Nat) :
    decodeCounter (buffer.bytes offset 8) = UInt64.ofNat (buffer.loadWord offset 8) := by
  rw [decodeCounter, Memory.loadWord_bytes buffer offset le_rfl]

/-- A counter that was stored is read back. -/
theorem decodeCounter_storeWord (buffer : Memory) (offset : Nat) (value : UInt64) :
    decodeCounter ((buffer.storeWord offset value.toNat 8).bytes offset 8) = value := by
  have small : value.toNat < 256 ^ 8 := value.toNat_lt
  rw [decodeCounter_bytes, Memory.loadWord_storeWord, Nat.mod_eq_of_lt small,
    UInt64.ofNat_toNat]

section Worlds

variable {inline : InlineWorld} {exact : ExactWorld}

/-- A counter found in the table has the value of the exact one. -/
theorem Related.counter_of_found (related : Related inline exact) {key : Nat → UInt8}
    {offset : Nat} (found : elemLookup l3Filter inline.l3Filter key = some offset) :
    exact.l3Filter (flowKeyBytes key) =
      some (UInt64.ofNat (inline.l3Filter.loadWord offset 8)) := by
  rw [← related.counters key, lookupBytes, found]
  exact congrArg some (decodeCounter_bytes inline.l3Filter offset)

/-- A store to a counter in the table is one to the exact counter. -/
theorem Related.storeCounter (related : Related inline exact) {key : Nat → UInt8}
    {offset : Nat} (found : elemLookup l3Filter inline.l3Filter key = some offset)
    (value : UInt64) :
    Related
      { inline with l3Filter := inline.l3Filter.storeWord offset value.toNat 8 }
      { exact with
        l3Filter := Function.update exact.l3Filter (flowKeyBytes key) (some value) } := by
  have frame : ∀ candidate, candidate < offset ∨ offset + l3Filter.valueSize ≤ candidate →
      inline.l3Filter.storeWord offset value.toNat 8 candidate = inline.l3Filter candidate :=
    fun candidate outside => Memory.storeWord_other inline.l3Filter outside
  constructor
  · exact chained_storeValue related.chained found frame
  · intro candidate
    show (lookupBytes l3Filter (inline.l3Filter.storeWord offset value.toNat 8) candidate).map
        decodeCounter =
      Function.update exact.l3Filter (keyBytes l3Filter key) (some value)
        (keyBytes l3Filter candidate)
    rw [lookupBytes_storeValue related.chained found frame candidate]
    by_cases same : keyBytes l3Filter candidate = keyBytes l3Filter key
    · rw [if_pos same, same, Function.update_self]
      exact congrArg some (decodeCounter_storeWord inline.l3Filter offset value)
    · rw [if_neg same, Function.update_of_ne same]
      exact related.counters candidate
  · exact related.cells

theorem Related.storeVrrp (related : Related inline exact) (index : Nat)
    (filter : VrrpFilter) :
    Related
      { inline with vrrpVridFilter := Function.update inline.vrrpVridFilter index filter }
      { exact with vrrpVridFilter := Function.update exact.vrrpVridFilter index filter } := by
  constructor
  · exact related.chained
  · exact related.counters
  · intro vrid below
    show Function.update inline.vrrpVridFilter index filter vrid =
      Function.update exact.vrrpVridFilter index filter vrid
    by_cases same : vrid = index
    · rw [same, Function.update_self, Function.update_self]
    · rw [Function.update_of_ne same, Function.update_of_ne same]
      exact related.cells vrid below

end Worlds

/-- The key of a cell is the VRID. -/
theorem loadWord_vrid (vrid : UInt8) :
    Memory.loadWord (Memory.storeWord (fun _ => 0) 0 vrid.toNat 4) 0 4 = vrid.toNat := by
  have small : vrid.toNat < 256 := vrid.toNat_lt
  rw [Memory.loadWord_storeWord]
  exact Nat.mod_eq_of_lt (by omega)

theorem bridge_inline_exact (ext : ExtHelpers) : Bridge (inlineMaps ext) exactMaps Related where
  counter := by
    intro inline exact related key
    rw [inlineMaps_lookup]
    cases found : elemLookup l3Filter inline.l3Filter key with
    | none =>
        left
        have missing : exact.l3Filter (flowKeyBytes key) = none := by
          rw [← related.counters key, lookupBytes, found]
          rfl
        have looked : exactMaps.lookupL3Filter exact key = none := by
          simp only [exactMaps, missing]
          rfl
        exact ⟨rfl, looked⟩
    | some offset =>
        right
        have value := related.counter_of_found found
        have stored := related.storeCounter found
          (UInt64.ofNat (inline.l3Filter.loadWord offset 8) + 1)
        have looked : exactMaps.lookupL3Filter exact key = some (flowKeyBytes key) := by
          simp [exactMaps, value]
        have loaded : exactMaps.loadCounter exact (flowKeyBytes key) =
            UInt64.ofNat (inline.l3Filter.loadWord offset 8) := by
          simp [exactMaps, value]
        refine ⟨offset, flowKeyBytes key, rfl, looked, ?_⟩
        rw [loaded]
        exact stored
  cell := by
    intro inline exact related vrid
    have below : vrid.toNat < 256 := vrid.toNat_lt
    refine ⟨vrid.toNat, vrid.toNat, ?_, ?_, related.cells vrid.toNat below, ?_⟩
    · simp [inlineMaps, bpfMapLookupElemAot, l3FilterId, vrrpVridFilterId, loadWord_vrid]
    · simp [exactMaps, loadWord_vrid, below]
    · exact related.storeVrrp vrid.toNat

/-! ## Loading the filter -/

/-- An entry that is loaded into `l3_filter`: pointers to a key and a value. -/
structure Load where
  key : Nat → UInt8
  value : Nat → UInt8

/-- `elem_update` on `__l3_filter`, entry by entry. -/
def inlineLoaded (loads : List Load) : Memory :=
  loads.foldl (fun buffer load => (elemUpdate l3Filter buffer load.key load.value).2) zeroBuffer

/-- The exact map with the same entries. -/
def exactLoaded (loads : List Load) : List UInt8 → Option UInt64 :=
  loads.foldl
    (fun map load => Function.update map (flowKeyBytes load.key)
      (some (decodeCounter (valueBytes l3Filter load.value))))
    fun _ => none

/-- The keys that are loaded. -/
def loadedKeys (loads : List Load) : Finset (List UInt8) :=
  (loads.map fun load => flowKeyBytes load.key).toFinset

theorem loadedKeys_concat (loads : List Load) (load : Load) :
    loadedKeys (loads ++ [load]) = insert (flowKeyBytes load.key) (loadedKeys loads) := by
  ext key
  simp [loadedKeys]

/-- The trace of updates that loads the filter. -/
structure Filled (loads : List Load) (trace : StoreTrace) : Prop where
  represents : trace.Represents l3Filter
  buffer : trace.buffer = inlineLoaded loads
  keys : trace.keys = loadedKeys loads
  counters : ∀ key, (trace.stored.lookup key).map decodeCounter = exactLoaded loads key

theorem Filled.concat {loads : List Load} {load : Load} {trace : StoreTrace}
    (loaded : Filled loads trace) (fits : (loadedKeys (loads ++ [load])).card ≤ 32768) :
    Filled (loads ++ [load]) (trace.perform l3Filter (.update load.key load.value)) := by
  have numBuckets : l3Filter.numBuckets = 32768 := rfl
  rcases loaded.represents.update_cases load.key load.value with stored | ⟨_, full, missing⟩
  · constructor
    · exact loaded.represents.perform _
    · rw [StoreTrace.perform_buffer, loaded.buffer, inlineLoaded, inlineLoaded,
        List.foldl_append]
      rfl
    · rw [StoreTrace.keys, stored, List.map_cons, List.toFinset_cons, loadedKeys_concat,
        ← loaded.keys]
      rfl
    · intro key
      rw [stored, exactLoaded, List.foldl_append]
      show (((flowKeyBytes load.key, valueBytes l3Filter load.value) :: trace.stored).lookup
          key).map decodeCounter =
        Function.update (exactLoaded loads) (flowKeyBytes load.key)
          (some (decodeCounter (valueBytes l3Filter load.value))) key
      by_cases same : key = flowKeyBytes load.key
      · rw [same, List.lookup_cons_self, Function.update_self]
        rfl
      · have differs : (key == flowKeyBytes load.key) = false := beq_eq_false_iff_ne.mpr same
        rw [List.lookup_cons, differs, Function.update_of_ne same]
        exact loaded.counters key
  · -- The table would be full, and the key be one more.
    rw [loadedKeys_concat, ← loaded.keys, Finset.card_insert_of_notMem missing, full,
      numBuckets] at fits
    omega

theorem exists_filled {loads : List Load} (fits : (loadedKeys loads).card ≤ 32768) :
    ∃ trace, Filled loads trace := by
  induction loads using List.reverseRecOn with
  | nil =>
      exact ⟨⟨zeroBuffer, []⟩, StoreTrace.run_represents l3Filter [], rfl, rfl, fun _ => rfl⟩
  | append_singleton loads load inductionHypothesis =>
      have fewer : (loadedKeys loads).card ≤ 32768 := by
        rw [loadedKeys_concat] at fits
        exact (Finset.card_le_card (Finset.subset_insert _ _)).trans fits
      have ⟨trace, loaded⟩ := inductionHypothesis fewer
      exact ⟨_, loaded.concat fits⟩

/-- Loaded tables are related, whatever the cells hold. -/
theorem related_loaded {loads : List Load} (fits : (loadedKeys loads).card ≤ 32768)
    (cells : Nat → VrrpFilter) :
    Related ⟨inlineLoaded loads, cells⟩ ⟨exactLoaded loads, cells⟩ := by
  have ⟨trace, loaded⟩ := exists_filled fits
  constructor
  · show ChainedBuffer l3Filter (inlineLoaded loads)
    rw [← loaded.buffer]
    exact loaded.represents.chained
  · intro key
    show (lookupBytes l3Filter (inlineLoaded loads) key).map decodeCounter = _
    rw [← loaded.buffer, loaded.represents.lookup]
    exact loaded.counters (flowKeyBytes key)
  · intro vrid _
    rfl

/-! ## Runs -/

/-- The counter that a lookup of a key leads to. -/
def Maps.counterOf {World : Type} (maps : Maps World) (world : World) (key : Nat → UInt8) :
    Option UInt64 :=
  (maps.lookupL3Filter world key).map (maps.loadCounter world)

/-- The same drop counter for every key, and the same VRRP statistics. -/
structure SameMaps (ext : ExtHelpers) (inline : InlineWorld) (exact : ExactWorld) : Prop where
  counters : ∀ key, (inlineMaps ext).counterOf inline key = exactMaps.counterOf exact key
  cells : ∀ vrid < 256, inline.vrrpVridFilter vrid = exact.vrrpVridFilter vrid

theorem counterOf_inline (ext : ExtHelpers) (inline : InlineWorld) (key : Nat → UInt8) :
    (inlineMaps ext).counterOf inline key =
      (lookupBytes l3Filter inline.l3Filter key).map decodeCounter := by
  rw [Maps.counterOf, inlineMaps_lookup, lookupBytes]
  cases elemLookup l3Filter inline.l3Filter key with
  | none => rfl
  | some offset => exact congrArg some (decodeCounter_bytes inline.l3Filter offset).symm

theorem counterOf_exact (exact : ExactWorld) (key : Nat → UInt8) :
    exactMaps.counterOf exact key = exact.l3Filter (flowKeyBytes key) := by
  unfold Maps.counterOf exactMaps
  dsimp only
  cases found : exact.l3Filter (flowKeyBytes key) with
  | none => rfl
  | some value =>
      show some ((exact.l3Filter (flowKeyBytes key)).getD 0) = some value
      rw [found]
      rfl

theorem Related.sameMaps {inline : InlineWorld} {exact : ExactWorld}
    (related : Related inline exact) (ext : ExtHelpers) : SameMaps ext inline exact where
  counters := by
    intro key
    rw [counterOf_inline, counterOf_exact]
    exact related.counters key
  cells := related.cells

/-- With the same entries loaded and the same cells, the two builds give the same
outcome for every packet of every sequence, and have the same counters and
statistics before the first packet and after each one. -/
theorem inline_firewall_simulates_exact_maps (ext : ExtHelpers) (loads : List Load)
    (cells : Nat → VrrpFilter) (packets : List (XdpMdUserspace × Memory))
    (fits : (loads.map fun load => flowKeyBytes load.key).toFinset.card ≤ 32768) :
    SameMaps ext ⟨inlineLoaded loads, cells⟩ ⟨exactLoaded loads, cells⟩ ∧
      List.Forall₂
        (fun inline exact => inline.1 = exact.1 ∧ SameMaps ext inline.2 exact.2)
        (trace (xdpPass (inlineMaps ext)) ⟨inlineLoaded loads, cells⟩ packets)
        (trace (xdpPass exactMaps) ⟨exactLoaded loads, cells⟩ packets) := by
  have related := related_loaded fits cells
  have run := (bridge_inline_exact ext).simulation.trace related packets
  constructor
  · exact related.sameMaps ext
  · apply run.imp
    intro inline exact ⟨outcome, next⟩
    exact ⟨outcome, next.sameMaps ext⟩

/-- Two addresses are loaded, one of them again with another count. -/
def someLoads : List Load :=
  [⟨flowKey 0x0201a8c0, fun _ => 0⟩, ⟨flowKey 0x0301a8c0, fun _ => 0⟩,
    ⟨flowKey 0x0201a8c0, fun offset => if offset = 0 then 5 else 0⟩]

/-- An IPv4 frame of 60 bytes to an address. -/
def frameTo (daddr : Nat) : XdpMdUserspace × Memory :=
  (⟨0, 60, 0, 0, 0, 0, 0, 0⟩,
    Memory.storeWord (fun address => if address = 12 then 8 else 0) 30 daddr 4)

def noHelpers : ExtHelpers := ⟨fun _ _ => none, fun _ _ _ _ => 0, fun _ _ => 0⟩

def zeroCells : Nat → VrrpFilter := fun _ => ⟨0, 0, 0, 0, 0⟩

/-- The packet to an address that is loaded is dropped, the other sent back. -/
theorem inline_firewall_simulates_exact_maps_with_two_addresses :
    (SameMaps noHelpers ⟨inlineLoaded someLoads, zeroCells⟩ ⟨exactLoaded someLoads, zeroCells⟩ ∧
      List.Forall₂
        (fun inline exact => inline.1 = exact.1 ∧ SameMaps noHelpers inline.2 exact.2)
        (trace (xdpPass (inlineMaps noHelpers)) ⟨inlineLoaded someLoads, zeroCells⟩
          [frameTo 0x0201a8c0, frameTo 0x0401a8c0])
        (trace (xdpPass exactMaps) ⟨exactLoaded someLoads, zeroCells⟩
          [frameTo 0x0201a8c0, frameTo 0x0401a8c0])) ∧
      (trace (xdpPass exactMaps) ⟨exactLoaded someLoads, zeroCells⟩
        [frameTo 0x0201a8c0, frameTo 0x0401a8c0]).map (fun step => step.1.verdict) =
          [xdpDrop, xdpTx] := by
  refine ⟨inline_firewall_simulates_exact_maps _ _ _ _ (by decide), by decide⟩

end UserspaceXdp.Programs.XdpFirewall
