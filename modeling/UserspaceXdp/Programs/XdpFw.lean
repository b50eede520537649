import UserspaceXdp.Foundation.BoundedMap
import UserspaceXdp.Programs.Packet
import UserspaceXdp.Runtime.Helpers

/-!
Contract: `xdp_fw.bpf.c` lets a packet in from `B_PORT` exactly if its flow was
opened from the other side.

Owns: the program over an exact `flow_ctx_table`, runs of it, what `biflow`
identifies, and which runs are filtered as a stateful firewall should.

Does not own: the device map, or how `bpf_redirect_map` reaches a device.

`biflow` sorts the two addresses and the two ports independently. A flow and its
reverse get one key, and so does a flow with its ports swapped and its addresses
not. The program reads the ports behind a header of 20 bytes.
-/

namespace UserspaceXdp.Programs.XdpFw

open UserspaceXdp.Foundation
open UserspaceXdp.Runtime

/-! ## The program -/

def ethPIp : Nat := 0x0800
def ipprotoTcp : Nat := 6
def ipprotoUdp : Nat := 17

def aPort : Nat := 6
def bPort : Nat := 7

def maxEntries : Nat := 1024

structure FlowCtxTableKey where
  ipProto : Nat
  l4Src : Nat
  l4Dst : Nat
  ipSrc : Nat
  ipDst : Nat
deriving DecidableEq, Repr

structure FlowCtxTableLeaf where
  outPort : Nat
  inPort : Nat
deriving DecidableEq, Repr

abbrev FlowCtxTable := BoundedMap FlowCtxTableKey FlowCtxTableLeaf

def biflow (flowKey : FlowCtxTableKey) : FlowCtxTableKey :=
  let addresses :=
    if flowKey.ipDst < flowKey.ipSrc then
      { flowKey with ipSrc := flowKey.ipDst, ipDst := flowKey.ipSrc }
    else flowKey
  if addresses.l4Dst < addresses.l4Src then
    { addresses with l4Src := addresses.l4Dst, l4Dst := addresses.l4Src }
  else addresses

/-- What the program returns: `XDP_PASS`, or what `bpf_redirect_map` on the
device map returns for a key. -/
inductive FwVerdict where
  | pass
  | redirectMap (key : Nat)
deriving DecidableEq, Repr

/-- `struct iphdr` behind the Ethernet header, `struct udphdr` behind 20 bytes
of it. -/
def flowKey (memory : Memory) (data : Nat) : FlowCtxTableKey :=
  { ipProto := (memory (data + 23)).toNat
    l4Src := memory.loadWord (data + 34) 2
    l4Dst := memory.loadWord (data + 36) 2
    ipSrc := memory.loadWord (data + 26) 4
    ipDst := memory.loadWord (data + 30) 4 }

/-- From the flow key to the end of the program. -/
def filterFlow (ingressIfindex : Nat) (key : FlowCtxTableKey) (table : FlowCtxTable) :
    FwVerdict × FlowCtxTable :=
  if ingressIfindex = bPort then
    match table.lookup key with
    | some leaf => (.redirectMap leaf.outPort, table)
    | none => (.pass, table)
  else
    match table.lookup key with
    | some _ => (.redirectMap bPort, table)
    | none => (.redirectMap bPort, table.update maxEntries key ⟨aPort, bPort⟩)

def xdpPass (ctx : Window) (table : FlowCtxTable) : FwVerdict × FlowCtxTable :=
  let memory := ctx.memory
  let data := ctx.context.data
  let dataEnd := ctx.context.dataEnd
  if dataEnd < data + 14 then (.pass, table)
  else if bpfNtohs (memory.loadWord (data + 12) 2) ≠ ethPIp then (.pass, table)
  else if dataEnd < data + 34 then (.pass, table)
  else if (memory (data + 23)).toNat ≠ ipprotoTcp ∧ (memory (data + 23)).toNat ≠ ipprotoUdp then
    (.pass, table)
  else if dataEnd < data + 42 then (.pass, table)
  else filterFlow ctx.context.ingressIfindex (biflow (flowKey memory data)) table

/-- The table after a run from the empty table. -/
def tableAfter (packets : List Window) : FlowCtxTable :=
  packets.foldl (fun table packet => (xdpPass packet table).2) (.empty ⟨0, 0⟩)

/-! ## Packets -/

/-- The checks of the program that lead to the flow key. -/
structure Parsed (packet : Window) : Prop where
  length : packet.context.data + 42 ≤ packet.context.dataEnd
  protocol : bpfNtohs (packet.memory.loadWord (packet.context.data + 12) 2) = ethPIp
  transport : (packet.memory (packet.context.data + 23)).toNat = ipprotoTcp ∨
    (packet.memory (packet.context.data + 23)).toNat = ipprotoUdp

instance (packet : Window) : Decidable (Parsed packet) :=
  decidable_of_iff
    (packet.context.data + 42 ≤ packet.context.dataEnd ∧
      bpfNtohs (packet.memory.loadWord (packet.context.data + 12) 2) = ethPIp ∧
      ((packet.memory (packet.context.data + 23)).toNat = ipprotoTcp ∨
        (packet.memory (packet.context.data + 23)).toNat = ipprotoUdp))
    ⟨fun ⟨length, protocol, transport⟩ => ⟨length, protocol, transport⟩,
      fun ⟨length, protocol, transport⟩ => ⟨length, protocol, transport⟩⟩

def readKey (packet : Window) : FlowCtxTableKey :=
  flowKey packet.memory packet.context.data

/-- A parsed packet from a port other than `B_PORT`. -/
def Opens (packet : Window) : Prop :=
  Parsed packet ∧ packet.context.ingressIfindex ≠ bPort

instance (packet : Window) : Decidable (Opens packet) :=
  inferInstanceAs (Decidable (_ ∧ _))

/-- The keys that a run opens. -/
def openedKeys (packets : List Window) : Finset FlowCtxTableKey :=
  ((packets.filter fun packet => Opens packet).map fun packet => biflow (readKey packet)).toFinset

theorem mem_openedKeys {packets : List Window} {key : FlowCtxTableKey} :
    key ∈ openedKeys packets ↔
      ∃ earlier ∈ packets, Opens earlier ∧ biflow (readKey earlier) = key := by
  simp only [openedKeys, List.mem_toFinset, List.mem_map, List.mem_filter, decide_eq_true_eq,
    and_assoc]

theorem openedKeys_concat (packets : List Window) (packet : Window) :
    openedKeys (packets ++ [packet]) =
      if Opens packet then insert (biflow (readKey packet)) (openedKeys packets)
      else openedKeys packets := by
  ext key
  by_cases opens : Opens packet
  · rw [if_pos opens, Finset.mem_insert, mem_openedKeys, mem_openedKeys]
    simp only [List.mem_append, List.mem_singleton]
    constructor
    · rintro ⟨earlier, member | rfl, opened, equal⟩
      · exact Or.inr ⟨earlier, member, opened, equal⟩
      · exact Or.inl equal.symm
    · rintro (rfl | ⟨earlier, member, opened, equal⟩)
      · exact ⟨packet, Or.inr rfl, opens, rfl⟩
      · exact ⟨earlier, Or.inl member, opened, equal⟩
  · rw [if_neg opens, mem_openedKeys, mem_openedKeys]
    simp only [List.mem_append, List.mem_singleton]
    constructor
    · rintro ⟨earlier, member | rfl, opened, equal⟩
      · exact ⟨earlier, member, opened, equal⟩
      · exact absurd opened opens
    · rintro ⟨earlier, member, opened, equal⟩
      exact ⟨earlier, Or.inl member, opened, equal⟩

theorem openedKeys_subset_append (done rest : List Window) :
    openedKeys done ⊆ openedKeys (done ++ rest) := by
  intro key member
  obtain ⟨earlier, before, opened, equal⟩ := mem_openedKeys.mp member
  exact mem_openedKeys.mpr ⟨earlier, List.mem_append_left rest before, opened, equal⟩

/-! ## One packet -/

theorem xdpPass_of_not_parsed {packet : Window} (table : FlowCtxTable)
    (rejected : ¬ Parsed packet) : xdpPass packet table = (.pass, table) := by
  unfold xdpPass
  dsimp only
  split
  · rfl
  split
  · rfl
  split
  · rfl
  split
  · rfl
  split
  · rfl
  · rename_i _ protocol _ transport long
    refine absurd ⟨Nat.le_of_not_lt long, Decidable.not_not.mp protocol, ?_⟩ rejected
    by_contra neither
    exact transport (not_or.mp neither)

theorem xdpPass_of_parsed {packet : Window} (table : FlowCtxTable) (parsed : Parsed packet) :
    xdpPass packet table =
      filterFlow packet.context.ingressIfindex (biflow (readKey packet)) table := by
  obtain ⟨length, protocol, transport⟩ := parsed
  unfold xdpPass
  dsimp only
  rw [if_neg (by omega), if_neg (not_not.mpr protocol), if_neg (by omega),
    if_neg (fun neither => transport.elim neither.1 neither.2), if_neg (by omega)]
  rfl

/-! ## Runs -/

/-- What the table holds after these packets: one entry for each key they open,
with the ports that the program puts in. -/
structure Holds (table : FlowCtxTable) (packets : List Window) : Prop where
  keys : table.keys = openedKeys packets
  leaf : ∀ key ∈ table.keys, table.value key = ⟨aPort, bPort⟩

theorem Holds.concat {table : FlowCtxTable} {packets : List Window} (held : Holds table packets)
    (packet : Window) (room : (openedKeys (packets ++ [packet])).card < maxEntries) :
    Holds (xdpPass packet table).2 (packets ++ [packet]) := by
  have unopened (closed : ¬ Opens packet) : Holds table (packets ++ [packet]) := by
    refine ⟨?_, held.leaf⟩
    rw [openedKeys_concat, if_neg closed]
    exact held.keys
  by_cases parsed : Parsed packet
  · rw [xdpPass_of_parsed table parsed]
    unfold filterFlow
    by_cases fromB : packet.context.ingressIfindex = bPort
    · rw [if_pos fromB]
      have closed : ¬ Opens packet := fun opens => opens.2 fromB
      split
      · exact unopened closed
      · exact unopened closed
    · rw [if_neg fromB]
      have opens : Opens packet := ⟨parsed, fromB⟩
      rw [openedKeys_concat, if_pos opens] at room
      split
      · rename_i leaf found
        have member : biflow (readKey packet) ∈ table.keys := by
          by_contra missing
          rw [BoundedMap.lookup_eq_none_iff.mpr missing] at found
          cases found
        refine ⟨?_, held.leaf⟩
        rw [openedKeys_concat, if_pos opens, ← held.keys]
        exact (Finset.insert_eq_of_mem member).symm
      · rw [← held.keys] at room
        rw [BoundedMap.update_of_room (Nat.le_of_lt room)]
        refine ⟨?_, ?_⟩
        · rw [openedKeys_concat, if_pos opens, held.keys]
        · intro key member
          show Function.update table.value (biflow (readKey packet)) ⟨aPort, bPort⟩ key = _
          by_cases same : key = biflow (readKey packet)
          · rw [same, Function.update_self]
          · rw [Function.update_of_ne same]
            exact held.leaf key ((Finset.mem_insert.mp member).resolve_left same)
  · rw [xdpPass_of_not_parsed table parsed]
    exact unopened fun opens => parsed opens.1

theorem tableAfter_holds (packets : List Window)
    (room : (openedKeys packets).card < maxEntries) : Holds (tableAfter packets) packets := by
  induction packets using List.reverseRecOn with
  | nil => exact ⟨rfl, fun key member => absurd member (Finset.notMem_empty key)⟩
  | append_singleton packets packet inductionHypothesis =>
      have fewer : (openedKeys packets).card < maxEntries :=
        Nat.lt_of_le_of_lt (Finset.card_le_card (openedKeys_subset_append packets [packet])) room
      have after : tableAfter (packets ++ [packet]) = (xdpPass packet (tableAfter packets)).2 :=
        List.foldl_concat ..
      rw [after]
      exact (inductionHypothesis fewer).concat packet room

/-! ## What `biflow` identifies -/

/-- The same protocol, the same two addresses and the same two ports, each pair
in any order. -/
structure SameEnds (left right : FlowCtxTableKey) : Prop where
  ipProto : left.ipProto = right.ipProto
  addresses : (left.ipSrc = right.ipSrc ∧ left.ipDst = right.ipDst) ∨
    (left.ipSrc = right.ipDst ∧ left.ipDst = right.ipSrc)
  ports : (left.l4Src = right.l4Src ∧ left.l4Dst = right.l4Dst) ∨
    (left.l4Src = right.l4Dst ∧ left.l4Dst = right.l4Src)

/-- Sorting the two ends of a pair. -/
theorem sorted_eq_iff (a b c d : Nat) :
    (min a b = min c d ∧ max a b = max c d) ↔ (a = c ∧ b = d) ∨ (a = d ∧ b = c) := by
  omega

theorem biflow_eq (key : FlowCtxTableKey) :
    biflow key =
      { ipProto := key.ipProto
        l4Src := min key.l4Src key.l4Dst
        l4Dst := max key.l4Src key.l4Dst
        ipSrc := min key.ipSrc key.ipDst
        ipDst := max key.ipSrc key.ipDst } := by
  unfold biflow
  dsimp only
  split
  · split
    · rw [FlowCtxTableKey.mk.injEq]
      dsimp only at *
      omega
    · rw [FlowCtxTableKey.mk.injEq]
      dsimp only at *
      omega
  · split
    · rw [FlowCtxTableKey.mk.injEq]
      omega
    · rw [FlowCtxTableKey.mk.injEq]
      omega

theorem biflow_eq_iff {left right : FlowCtxTableKey} :
    biflow left = biflow right ↔ SameEnds left right := by
  rw [biflow_eq, biflow_eq, FlowCtxTableKey.mk.injEq]
  constructor
  · rintro ⟨ipProto, l4Src, l4Dst, ipSrc, ipDst⟩
    exact ⟨ipProto, (sorted_eq_iff ..).mp ⟨ipSrc, ipDst⟩, (sorted_eq_iff ..).mp ⟨l4Src, l4Dst⟩⟩
  · rintro ⟨ipProto, addresses, ports⟩
    obtain ⟨ipSrc, ipDst⟩ := (sorted_eq_iff ..).mpr addresses
    obtain ⟨l4Src, l4Dst⟩ := (sorted_eq_iff ..).mpr ports
    exact ⟨ipProto, l4Src, l4Dst, ipSrc, ipDst⟩

/-! ## The firewall -/

/-- The flow that a packet belongs to. -/
structure Flow where
  protocol : Nat
  sourceAddress : Nat
  sourcePort : Nat
  destinationAddress : Nat
  destinationPort : Nat
deriving DecidableEq, Repr

def Flow.reverse (flow : Flow) : Flow :=
  { flow with
    sourceAddress := flow.destinationAddress
    sourcePort := flow.destinationPort
    destinationAddress := flow.sourceAddress
    destinationPort := flow.sourcePort }

/-- The length of the IPv4 header in words. -/
def ihl (packet : Window) : Nat := (packet.memory (packet.context.data + 14)).toNat % 16

/-- The ports stand behind the IPv4 header, options included. -/
def flow (packet : Window) : Flow :=
  let memory := packet.memory
  let data := packet.context.data
  { protocol := (memory (data + 23)).toNat
    sourceAddress := memory.loadWord (data + 26) 4
    sourcePort := memory.loadWord (data + 14 + 4 * ihl packet) 2
    destinationAddress := memory.loadWord (data + 30) 4
    destinationPort := memory.loadWord (data + 14 + 4 * ihl packet + 2) 2 }

/-- An IPv4 packet over Ethernet that carries the ports of a TCP or UDP header:
it is no later fragment, and it is long enough. -/
structure WellFormed (packet : Window) : Prop where
  protocol : bpfNtohs (packet.memory.loadWord (packet.context.data + 12) 2) = ethPIp
  version : (packet.memory (packet.context.data + 14)).toNat / 16 = 4
  headerLength : 5 ≤ ihl packet
  firstFragment : bpfNtohs (packet.memory.loadWord (packet.context.data + 20) 2) % 2 ^ 13 = 0
  transport : (packet.memory (packet.context.data + 23)).toNat = ipprotoTcp ∨
    (packet.memory (packet.context.data + 23)).toNat = ipprotoUdp
  length : packet.context.data + 14 + 4 * ihl packet + 8 ≤ packet.context.dataEnd

theorem WellFormed.parsed {packet : Window} (wellFormed : WellFormed packet) : Parsed packet where
  length := by
    have headerLength := wellFormed.headerLength
    have length := wellFormed.length
    omega
  protocol := wellFormed.protocol
  transport := wellFormed.transport

/-- The flow of the packet, or its reverse, was seen on a port other than
`B_PORT`. -/
def FlowOpened (done : List Window) (packet : Window) : Prop :=
  ∃ earlier ∈ done, WellFormed earlier ∧ earlier.context.ingressIfindex ≠ bPort ∧
    (flow earlier = flow packet ∨ flow earlier = (flow packet).reverse)

/-- A packet with the ends of this one, as the program reads them, was seen on a
port other than `B_PORT`. -/
def EndsOpened (done : List Window) (packet : Window) : Prop :=
  ∃ earlier ∈ done, Opens earlier ∧ SameEnds (readKey earlier) (readKey packet)

/-- What a firewall does with a packet from `B_PORT` after a run. -/
def FirewallContract (done : List Window) (packet : Window) : Prop :=
  let result := xdpPass packet (tableAfter done)
  (result.1 = .redirectMap aPort ↔ FlowOpened done packet) ∧
    (¬ FlowOpened done packet → result = (.pass, tableAfter done))

/-- What the program does with it. -/
theorem xdpPass_fromB {done : List Window} {packet : Window}
    (held : Holds (tableAfter done) done) (parsed : Parsed packet)
    (fromB : packet.context.ingressIfindex = bPort) :
    (EndsOpened done packet ∧
        xdpPass packet (tableAfter done) = (.redirectMap aPort, tableAfter done)) ∨
      (¬ EndsOpened done packet ∧ xdpPass packet (tableAfter done) = (.pass, tableAfter done)) := by
  have opened : biflow (readKey packet) ∈ (tableAfter done).keys ↔ EndsOpened done packet := by
    rw [held.keys, mem_openedKeys]
    simp only [EndsOpened, biflow_eq_iff]
  rw [xdpPass_of_parsed _ parsed, filterFlow, if_pos fromB]
  by_cases member : biflow (readKey packet) ∈ (tableAfter done).keys
  · refine Or.inl ⟨opened.mp member, ?_⟩
    rw [BoundedMap.lookup_of_mem member, held.leaf _ member]
  · refine Or.inr ⟨fun ends => member (opened.mpr ends), ?_⟩
    rw [BoundedMap.lookup_eq_none_iff.mpr member]

theorem firewallContract_iff {done : List Window} {packet : Window}
    (held : Holds (tableAfter done) done) (parsed : Parsed packet)
    (fromB : packet.context.ingressIfindex = bPort) :
    FirewallContract done packet ↔ (EndsOpened done packet ↔ FlowOpened done packet) := by
  unfold FirewallContract
  dsimp only
  rcases xdpPass_fromB held parsed fromB with ⟨opened, result⟩ | ⟨closed, result⟩
  · rw [result]
    constructor
    · rintro ⟨decided, -⟩
      exact ⟨fun _ => decided.mp rfl, fun _ => opened⟩
    · intro agree
      exact ⟨⟨fun _ => agree.mp opened, fun _ => rfl⟩, fun other => absurd (agree.mp opened) other⟩
  · rw [result]
    constructor
    · rintro ⟨decided, -⟩
      exact ⟨fun opened => absurd opened closed, fun opened => by cases decided.mpr opened⟩
    · intro agree
      have other : ¬ FlowOpened done packet := fun opened => closed (agree.mpr opened)
      exact ⟨⟨fun redirected => (by cases redirected), fun opened => absurd opened other⟩, fun _ => rfl⟩

/-- A run with room in the table is filtered as by a firewall exactly if, for
every packet from `B_PORT`, its ends as the program reads them were seen before
when, and only when, its flow was opened. -/
theorem xdpFw_is_firewall_iff (packets : List Window)
    (room : (openedKeys packets).card < maxEntries) :
    (∀ done packet rest, packets = done ++ packet :: rest →
        packet.context.ingressIfindex = bPort → WellFormed packet →
          FirewallContract done packet) ↔
      (∀ done packet rest, packets = done ++ packet :: rest →
        packet.context.ingressIfindex = bPort → WellFormed packet →
          (EndsOpened done packet ↔ FlowOpened done packet)) := by
  have step (done : List Window) (packet : Window) (rest : List Window)
      (cut : packets = done ++ packet :: rest) (fromB : packet.context.ingressIfindex = bPort)
      (wellFormed : WellFormed packet) :
      FirewallContract done packet ↔ (EndsOpened done packet ↔ FlowOpened done packet) := by
    have fewer : (openedKeys done).card < maxEntries := by
      refine Nat.lt_of_le_of_lt (Finset.card_le_card ?_) room
      rw [cut]
      exact openedKeys_subset_append done (packet :: rest)
    exact firewallContract_iff (tableAfter_holds done fewer) wellFormed.parsed fromB
  constructor
  · intro every done packet rest cut fromB wellFormed
    exact (step done packet rest cut fromB wellFormed).mp (every done packet rest cut fromB wellFormed)
  · intro every done packet rest cut fromB wellFormed
    exact (step done packet rest cut fromB wellFormed).mpr (every done packet rest cut fromB wellFormed)

/-- The start of a UDP packet without options, from and to these ends. -/
def udpPacket (ingressIfindex : Nat) (source destination : List UInt8)
    (sourcePort destinationPort : UInt8) : Window :=
  let bytes : List UInt8 :=
    [0, 0, 0, 0, 0, 0, 0, 0, 0, 0, 0, 0, 8, 0, 0x45, 0, 0, 28, 0, 0, 0, 0, 64, 17, 0, 0] ++
      source ++ destination ++ [0, sourcePort, 0, destinationPort, 0, 8, 0, 0]
  { context := ⟨0, 42, 0, ingressIfindex, 0, 0, 0, 42⟩
    memory := fun address => bytes.getD address 0 }

def client : List UInt8 := [10, 0, 0, 1]
def server : List UInt8 := [10, 0, 0, 2]

def request : Window := udpPacket aPort client server 5 53
def reply : Window := udpPacket bPort server client 53 5
def crossed : Window := udpPacket bPort client server 53 5

theorem request_opens : Opens request := ⟨⟨by decide, by decide, by decide⟩, by decide⟩

theorem reply_wellFormed : WellFormed reply :=
  ⟨by decide, by decide, by decide, by decide, by decide, by decide⟩

theorem crossed_wellFormed : WellFormed crossed :=
  ⟨by decide, by decide, by decide, by decide, by decide, by decide⟩

theorem crossed_sameEnds : SameEnds (readKey request) (readKey crossed) :=
  ⟨by decide, Or.inl (by decide), Or.inr (by decide)⟩

theorem crossed_other_flow :
    ¬ (flow request = flow crossed ∨ flow request = (flow crossed).reverse) := by
  rintro (same | same)
  · exact absurd (congrArg Flow.sourcePort same) (by decide)
  · exact absurd (congrArg Flow.sourceAddress same) (by decide)

theorem openedKeys_card_le (packets : List Window) :
    (openedKeys packets).card ≤ packets.length := by
  refine (List.toFinset_card_le _).trans ?_
  rw [List.length_map]
  exact List.length_filter_le ..

/-- Two packets leave room in the table. -/
theorem openedKeys_pair (first second : Window) :
    (openedKeys [first, second]).card < maxEntries := by
  refine Nat.lt_of_le_of_lt (openedKeys_card_le _) ?_
  show 2 < 1024
  decide

/-- Where a packet from `B_PORT` stands in a run of two. -/
theorem cut_second {first second packet : Window} {done rest : List Window}
    (cut : [first, second] = done ++ packet :: rest)
    (fromA : first.context.ingressIfindex ≠ bPort)
    (fromB : packet.context.ingressIfindex = bPort) : done = [first] ∧ packet = second := by
  match done, cut with
  | [], cut =>
      rw [List.nil_append, List.cons.injEq] at cut
      exact absurd (cut.1 ▸ fromB) fromA
  | [head], cut =>
      simp only [List.cons_append, List.nil_append, List.cons.injEq] at cut
      exact ⟨by rw [cut.1], cut.2.1.symm⟩
  | head :: next :: later, cut =>
      have length := congrArg List.length cut
      simp at length

/-- The reply to a request is let in. -/
theorem reply_is_admitted : FirewallContract [request] reply := by
  refine (xdpFw_is_firewall_iff [request, reply] (openedKeys_pair request reply)).mpr ?_
    [request] reply [] rfl rfl reply_wellFormed
  intro done packet rest cut fromB _
  obtain ⟨rfl, rfl⟩ := cut_second cut (by decide) fromB
  have requestWellFormed : WellFormed request :=
    ⟨by decide, by decide, by decide, by decide, by decide, by decide⟩
  have backwards : flow request = (flow reply).reverse := by decide +kernel
  have sameEnds : SameEnds (readKey request) (readKey reply) :=
    ⟨by decide +kernel, Or.inr (by decide +kernel), Or.inr (by decide +kernel)⟩
  refine ⟨fun _ => ?_, fun _ => ?_⟩
  · exact ⟨request, List.mem_singleton_self _, requestWellFormed, by decide, Or.inr backwards⟩
  · exact ⟨request, List.mem_singleton_self _, request_opens, sameEnds⟩

/-- So is a packet of a flow that nobody opened: the addresses of the request,
and its ports the other way round. -/
theorem crossed_flow_is_admitted :
    ¬ ∀ packets : List Window, (openedKeys packets).card < maxEntries →
      ∀ done packet rest, packets = done ++ packet :: rest →
        packet.context.ingressIfindex = bPort → WellFormed packet →
          FirewallContract done packet := by
  intro every
  have cut : [request, crossed] = [request] ++ crossed :: [] := rfl
  have fromB : crossed.context.ingressIfindex = bPort := rfl
  have contract := every [request, crossed] (openedKeys_pair request crossed) [request] crossed []
    cut fromB crossed_wellFormed
  have room : (openedKeys [request]).card < maxEntries := by
    refine Nat.lt_of_le_of_lt (openedKeys_card_le _) ?_
    show 1 < 1024
    decide
  have seen : EndsOpened [request] crossed :=
    ⟨request, List.mem_singleton_self _, request_opens, crossed_sameEnds⟩
  have agree := (firewallContract_iff (tableAfter_holds [request] room)
    crossed_wellFormed.parsed fromB).mp contract
  obtain ⟨earlier, member, -, -, same⟩ := agree.mp seen
  rw [List.mem_singleton.mp member] at same
  exact crossed_other_flow same

end UserspaceXdp.Programs.XdpFw
