import UserspaceXdp.Katran.Affinity
import UserspaceXdp.Maps.LruRetention

/-!
Contract: the balancer on the `LRU_HASH` map of the module.

All connection tables are one cache there, keys are compared by the first words of
their addresses, and a store through the pointer of a lookup does not reach the cache.

Owns: affinity of the IPv4 flows, and connections that keep their real while the ring
changes.

Does not own: maps that behave as those of the kernel.
-/

namespace UserspaceXdp.Katran

open UserspaceXdp.Foundation
open UserspaceXdp.Runtime
open UserspaceXdp.Maps

/-! ## The tables -/

/-- The map with its invariant. -/
structure ConnectionTable where
  map : LruMap
  valid : map.cache.Valid
  maxSize : map.cache.maxSize = 2000

namespace ConnectionTable

theorem positive (table : ConnectionTable) : 0 < table.map.cache.maxSize := by
  rw [table.maxSize]
  decide

def lookup (table : ConnectionTable) (key : FlowKey) : Option RealPosLru × ConnectionTable :=
  ((lruHashMapElemLookup table.map key).1,
    { map := (lruHashMapElemLookup table.map key).2
      valid := (table.valid.tryGetRef_spec key).1
      maxSize := (step_sizes ⟨table.map.cache, [], []⟩ (.lookup key)).1.trans table.maxSize })

/-- A store through the pointer. -/
def write (table : ConnectionTable) (value : RealPosLru) : ConnectionTable :=
  { map := { table.map with valueLocal := value }
    valid := table.valid
    maxSize := table.maxSize }

def update (table : ConnectionTable) (key : FlowKey) (value : RealPosLru) : ConnectionTable :=
  { map := lruHashMapElemUpdate table.map key value
    valid := (table.valid.insert_spec table.positive key value).1
    maxSize := (step_sizes ⟨table.map.cache, [], []⟩ (.update key value)).1.trans table.maxSize }

def created : ConnectionTable :=
  { map := emptyLruMap
    valid := Cache.valid_empty 2000 1000
    maxSize := rfl }

end ConnectionTable

/-- Every `lru_map` that the program reaches is the same cache. -/
def moduleTables : LruOps ConnectionTable where
  lookup table _ key := table.lookup key
  write table _ _ value := table.write value
  update table _ key value := table.update key value

/-! ## IPv4 flows -/

/-- The position of a node that compares equal to the key. -/
def tableStored (table : ConnectionTable) (key : FlowKey) (pos : UInt32) : Prop :=
  ∃ node ∈ table.map.cache.keys, (node.key == key) = true ∧ node.value.pos = pos

theorem moduleTables_remembers :
    Remembers moduleTables (fun left right => (left == right) = true) tableStored where
  hit table _ key value found := by
    obtain ⟨node, member, equal, rfl⟩ := ((table.valid.tryGetRef_spec key).2.2 value).mp found
    exact ⟨node, member, equal, rfl⟩
  lookup table _ key candidate pos after := by
    obtain ⟨node, member, equal, stored⟩ := after
    exact ⟨node, ((table.valid.tryGetRef_spec key).2.1 node).mp member, equal, stored⟩
  write _ _ _ _ _ _ after := Or.inl after
  update table _ key value candidate pos after := by
    obtain ⟨node, member, equal, stored⟩ := after
    rcases (table.valid.insert_spec table.positive key value).2.2 node member with
      ⟨same, rfl⟩ | ⟨-, older⟩
    · exact Or.inr ⟨BEq.trans (BEq.symm equal) same, stored.symm⟩
    · exact Or.inl ⟨node, older, equal, stored⟩

section Compared

variable {control : Control} {left right : FlowKey}

/-- The parts of a flow that are compared. -/
theorem beq_parts (same : (left == right) = true) :
    left.src = right.src ∧ left.dst = right.dst ∧ left.ports = right.ports ∧
      left.proto = right.proto :=
  FlowKey.beq_iff.mp same

theorem setPorts_beq (same : (left == right) = true) (source destination : Nat) :
    (setPorts left source destination == setPorts right source destination) = true := by
  obtain ⟨src, dst, -, proto⟩ := beq_parts same
  exact FlowKey.beq_iff.mpr ⟨src, dst, rfl, proto⟩

theorem ports_beq (same : (left == right) = true) :
    sourcePort left = sourcePort right ∧ destinationPort left = destinationPort right := by
  obtain ⟨-, -, ports, -⟩ := beq_parts same
  unfold sourcePort destinationPort
  rw [ports]
  exact ⟨rfl, rfl⟩

theorem tableFlow_beq (same : (left == right) = true) (vipInfo : VipMeta) :
    (tableFlow vipInfo left == tableFlow vipInfo right) = true := by
  unfold tableFlow setSourcePort
  rw [(ports_beq same).2]
  split
  · exact setPorts_beq same _ _
  · exact same

theorem hashedFlow_beq (same : (left == right) = true) (vipInfo : VipMeta) :
    (hashedFlow vipInfo left == hashedFlow vipInfo right) = true := by
  unfold hashedFlow hashDportOnly setSourcePort
  rw [(ports_beq same).2]
  split
  · obtain ⟨-, dst, -, proto⟩ := beq_parts same
    exact FlowKey.beq_iff.mpr ⟨rfl, dst, rfl, proto⟩
  · exact same

/-- Flows that compare equal have the same service over IPv4. -/
theorem flowService_beq (same : (left == right) = true) {service : Service}
    (found : flowService control false left = some service) :
    ∃ key, flowService control false right = some { service with key } ∧
      (service.key == key) = true := by
  obtain ⟨-, dst, -, proto⟩ := beq_parts same
  have port := (ports_beq same).2
  unfold flowService lookupVip at found ⊢
  dsimp only at found ⊢
  rw [if_neg Bool.false_ne_true] at found ⊢
  rw [← dst, ← proto, ← port]
  split at found
  · cases found
    exact ⟨_, rfl, tableFlow_beq same _⟩
  · split at found
    · cases found
    · split at found
      · rename_i anyPort
        cases found
        dsimp only
        rw [if_pos anyPort]
        refine ⟨_, rfl, tableFlow_beq ?_ _⟩
        unfold setDestinationPort
        rw [(ports_beq same).1]
        exact setPorts_beq same _ _
      · rename_i ports
        cases found
        dsimp only
        rw [if_neg ports]
        exact ⟨_, rfl, tableFlow_beq same _⟩

theorem ringPosition_beq (same : (left == right) = true) :
    ringPosition control false left = ringPosition control false right := by
  cases found : flowService control false left with
  | none =>
      have absent : flowService control false right = none := by
        apply Option.eq_none_iff_forall_ne_some.mpr
        intro service known
        obtain ⟨key, other, -⟩ := flowService_beq (BEq.symm same) known
        rw [found] at other
        cases other
      unfold ringPosition
      rw [found, absent]
  | some service =>
      obtain ⟨key, other, equal⟩ := flowService_beq same found
      have hash : getPacketHash service.ringFlow false =
          getPacketHash (Service.ringFlow { service with key }) false := by
        obtain ⟨src, -, ports, -⟩ := beq_parts (hashedFlow_beq equal service.vipInfo)
        show jhash2Words _ _ _ = jhash2Words _ _ _
        unfold Service.ringFlow
        rw [src, ports]
      rw [ringPosition_eq found, ringPosition_eq other]
      unfold Service.ringReal ringKey
      rw [hash]

theorem separates_v4 :
    Separates control (fun _ => false) fun left right => (left == right) = true := by
  intro candidate key isIpv6 isIpv6' same first second served served'
  obtain ⟨service, found⟩ := Option.isSome_iff_exists.mp served
  obtain ⟨service', found'⟩ := Option.isSome_iff_exists.mp served'
  obtain rfl := first.family service found
  obtain rfl := second.family service' found'
  exact ringPosition_beq same

end Compared

section Affinity

variable {adjustHead : Window → Int → Nat × Window} {control : Control}

/-- On the map of the module, all packets of an IPv4 flow go to one real, if the
services are reached over IPv4 only. -/
theorem v4_flow_keeps_real (moves : MovesHead adjustHead) (numbered : VipsNumbered control)
    {start : Machine ConnectionTable} (created : start.lru = ConnectionTable.created)
    {events : List MachineEvent} (steady : ∀ event ∈ events, Steady control (fun _ => false) event)
    {event : MachineEvent} (next : Steady control (fun _ => false) event) {isIpv6 : Bool}
    {pckt : PacketDescription} (received : receivedPacket event.window = some (isIpv6, pckt))
    {position : UInt32} (known : ringPosition control isIpv6 pckt.flow = some position) :
    ((machineRun moduleTables adjustHead start events).outcome moduleTables adjustHead
      event).GoesTo event.control position isIpv6 event.window := by
  refine machineRun_goesTo moduleTables_remembers moves numbered separates_v4 ?_ steady next
    received known
  rintro key pos ⟨node, member, -⟩
  rw [created] at member
  cases member

end Affinity

/-! ## Connections -/

/-- The entry of a key has a good value, and the keys that were touched since are
among these. -/
def Retained (others : List FlowKey) (key : FlowKey) (good : RealPosLru → Prop)
    (table : ConnectionTable) : Prop :=
  table.map.cache.Keeps others key good

section Retained

variable {others : List FlowKey} {key : FlowKey} {good : RealPosLru → Prop}

/-- The other keys may be looked up and stored. -/
theorem retained_maintained (few : others.length < 2000) :
    Maintained moduleTables (Retained others key good)
      (fun touched => (touched == key) = true ∨ Cache.Among others touched) (fun _ _ => True)
      (fun touched _ => (touched == key) = false ∧ Cache.Among others touched) where
  lookup table _ _ allowed keeps := keeps.tryGetRef table.valid allowed
  hit _ _ _ _ _ _ := trivial
  write _ _ _ _ _ keeps := keeps
  update table _ touched value permits keeps :=
    keeps.insert table.valid (by rw [table.maxSize]; exact few) permits.1 permits.2 value

end Retained

/-- A service whose packets are looked up in the connection table. -/
structure Tabled (vipInfo : VipMeta) : Prop where
  noQuic : vipInfo.has fQuicVip = false
  noBypass : vipInfo.has fLruBypass = false

section Plain

variable {Tables : Type} {ops : LruOps Tables} {control : Control} {arrival : Arrival}
variable {isIpv6 : Bool} {vip : VipDefinition} {vipInfo : VipMeta} {lruMap : Option Nat}
variable {pckt : PacketDescription} {maps : BalancerMaps Tables}

theorem chooseReal_plain (memory : Memory) (data dataEnd : Nat)
    (noQuic : vipInfo.has fQuicVip = false) :
    chooseReal ops control arrival memory data dataEnd isIpv6 vip vipInfo lruMap pckt maps =
      tableRoute ops control arrival vip vipInfo isIpv6 lruMap pckt maps := by
  unfold chooseReal
  rw [noQuic]
  rfl

/-- A packet that opens no connection is looked up. -/
theorem tableRoute_looked (segment : pckt.synSet = false)
    (noBypass : vipInfo.has fLruBypass = false) :
    tableRoute ops control arrival vip vipInfo isIpv6 lruMap pckt maps =
      let routing := connectionTableLookup ops control arrival pckt lruMap maps
      match routing.dst with
      | some dst => .ok ⟨dst, routing.pckt, routing.maps⟩
      | none => ringRoute ops control arrival vip vipInfo isIpv6 lruMap routing.pckt
          routing.maps := by
  unfold tableRoute
  rw [segment, noBypass]
  rfl

/-- An entry that is too old for a packet. The entries of TCP connections have no
timeout. -/
def Expired (proto : UInt8) (entry : RealPosLru) (arrival : Arrival) : Prop :=
  proto = ipprotoUdp ∧ lruUdpTimeout < arrival.lookupTime - entry.atime

theorem connectionTableLookup_hit {dstLru : RealPosLru}
    (fresh : ¬ Expired pckt.flow.proto dstLru arrival)
    (hit : (ops.lookup maps.lru lruMap pckt.flow).1 = some dstLru) :
    connectionTableLookup ops control arrival pckt lruMap maps =
      let lru := (ops.lookup maps.lru lruMap pckt.flow).2
      ⟨arrayLookup control.reals maxReals dstLru.pos.toNat, { pckt with realIndex := dstLru.pos },
        { maps with
          lru :=
            if pckt.flow.proto = ipprotoUdp then
              ops.write lru lruMap pckt.flow { dstLru with atime := arrival.lookupTime }
            else lru }⟩ := by
  unfold Expired at fresh
  unfold connectionTableLookup
  dsimp only
  rw [hit]
  dsimp only
  rw [if_neg fresh]

theorem connectionTableLookup_expired {dstLru : RealPosLru}
    (old : Expired pckt.flow.proto dstLru arrival)
    (hit : (ops.lookup maps.lru lruMap pckt.flow).1 = some dstLru) :
    connectionTableLookup ops control arrival pckt lruMap maps =
      ⟨none, pckt, { maps with lru := (ops.lookup maps.lru lruMap pckt.flow).2 }⟩ := by
  unfold Expired at old
  unfold connectionTableLookup
  dsimp only
  rw [hit]
  dsimp only
  rw [if_pos old]

theorem connectionTableLookup_miss
    (miss : (ops.lookup maps.lru lruMap pckt.flow).1 = none) :
    connectionTableLookup ops control arrival pckt lruMap maps =
      ⟨none, pckt, { maps with lru := (ops.lookup maps.lru lruMap pckt.flow).2 }⟩ := by
  unfold connectionTableLookup
  dsimp only
  rw [miss]

end Plain

section Settled

variable {control : Control} {isIpv6 : Bool} {others : List FlowKey} {key : FlowKey}
variable {entry : RealPosLru} {pckt : PacketDescription} {maps : BalancerMaps ConnectionTable}

/-- A store through the pointer of a lookup does not reach the map. -/
theorem retained_write {table : ConnectionTable} {good : RealPosLru → Prop}
    (retained : Retained others key good table) (udp : Prop) [Decidable udp] (id : Option Nat)
    (touched : FlowKey) (value : RealPosLru) :
    Retained others key good (if udp then moduleTables.write table id touched value else table) := by
  split
  · exact retained
  · exact retained

variable (control isIpv6 pckt) in
/-- A packet that opens no connection goes where the entry of its key says, and leaves it
as it is: a newer access time is lost. -/
theorem chooseReal_retained (arrival : Arrival) (memory : Memory) (data dataEnd : Nat)
    (vip : VipDefinition) {vipInfo : VipMeta} (lruMap : Option Nat)
    (same : (pckt.flow == key) = true) (fresh : ¬ Expired key.proto entry arrival)
    (segment : pckt.synSet = false) (tabled : Tabled vipInfo) (below : entry.pos.toNat < maxReals)
    (retained : Retained others key (· = entry) maps.lru) :
    RoutedFits (Retained others key (· = entry)) (· = entry.pos)
      (chooseReal moduleTables control arrival memory data dataEnd isIpv6 vip vipInfo lruMap pckt
        maps) := by
  obtain ⟨value, rfl, hit⟩ := Cache.Keeps.found retained maps.lru.valid same
  have touched : Retained others key (· = value) (moduleTables.lookup maps.lru lruMap pckt.flow).2 :=
    Cache.Keeps.tryGetRef retained maps.lru.valid (Or.inl same)
  rw [← (beq_parts same).2.2.2] at fresh
  have known : arrayLookup control.reals maxReals value.pos.toNat =
      some (control.reals value.pos.toNat) := if_pos below
  rw [chooseReal_plain _ _ _ tabled.noQuic, tableRoute_looked segment tabled.noBypass,
    connectionTableLookup_hit fresh hit]
  dsimp only
  rw [known]
  exact ⟨retained_write touched _ _ _ _, rfl⟩

/-- The entry of a connection that is opened. -/
def newEntry (proto : UInt8) (arrival : Arrival) (realPos : UInt32) : RealPosLru :=
  ⟨realPos, if proto = ipprotoUdp then arrival.floodTime else 0⟩

/-- The ring stores the connection that it opens, unless there are too many new ones. -/
theorem getPacketDst_opens (arrival : Arrival) {vipInfo : VipMeta} (lruMap : Option Nat)
    (noBypass : vipInfo.has fLruBypass = false) (whole : vipInfo.has fHashDportOnly = false)
    {dst : RealDefinition}
    (chosen : (getPacketDst moduleTables control arrival pckt vipInfo isIpv6 lruMap maps).dst =
      some dst)
    (calm : (checkConnRate maps.cpu.connRate arrival.floodTime).1 = false) :
    let routing := getPacketDst moduleTables control arrival pckt vipInfo isIpv6 lruMap maps
    Retained [] pckt.flow (· = newEntry pckt.flow.proto arrival routing.pckt.realIndex)
      routing.maps.lru := by
  have flow : hashedFlow vipInfo pckt.flow = pckt.flow := by
    unfold hashedFlow
    rw [whole]
    rfl
  have noFlood : (isUnderFlood maps.cpu arrival.floodTime).1 = false := calm
  show Retained [] pckt.flow (· = newEntry pckt.flow.proto arrival (getPacketDst moduleTables control
      arrival pckt vipInfo isIpv6 lruMap maps).pckt.realIndex)
    (getPacketDst moduleTables control arrival pckt vipInfo isIpv6 lruMap maps).maps.lru
  unfold getPacketDst at chosen ⊢
  dsimp only at chosen ⊢
  rw [flow] at chosen ⊢
  cases ring : arrayLookup control.chRings chRingsSize (ringKey vipInfo isIpv6 pckt.flow) with
  | none =>
      rw [ring] at chosen
      cases chosen
  | some realPos =>
      rw [ring] at chosen
      dsimp only at chosen ⊢
      cases known : arrayLookup control.reals maxReals realPos.toNat with
      | none =>
          rw [known] at chosen
          cases chosen
      | some real =>
          dsimp only
          rw [noBypass, noFlood, Bool.or_false, if_neg Bool.false_ne_true]
          exact maps.lru.valid.keeps_insert maps.lru.positive rfl

theorem ringRoute_opens (arrival : Arrival) (vip : VipDefinition) {vipInfo : VipMeta}
    (lruMap : Option Nat) (noBypass : vipInfo.has fLruBypass = false)
    (whole : vipInfo.has fHashDportOnly = false) {routed : Routed ConnectionTable}
    (chosen : ringRoute moduleTables control arrival vip vipInfo isIpv6 lruMap pckt maps =
      .ok routed)
    (calm : (checkConnRate maps.cpu.connRate arrival.floodTime).1 = false) :
    Retained [] pckt.flow (· = newEntry pckt.flow.proto arrival routed.pckt.realIndex)
      routed.maps.lru := by
  have missed : Quiet maps.cpu
      (if pckt.flow.proto = ipprotoTcp then
        if pckt.synSet then maps.cpu.count (maxVips + lruMissCntr) 1 0
        else maps.cpu.count (maxVips + lruMissCntr) 0 1
      else maps.cpu) := by
    split_ifs
    · exact quiet_count _ (by decide) _ _
    · exact quiet_count _ (by decide) _ _
    · exact Quiet.refl _
  unfold ringRoute at chosen
  dsimp only at chosen
  generalize (if pckt.flow.proto = ipprotoTcp then _ else maps.cpu : CpuMaps) = cpu at missed chosen
  rw [← missed.connRate] at calm
  have opens {dst : RealDefinition}
      (found : (getPacketDst moduleTables control arrival pckt vipInfo isIpv6 lruMap
        { maps with cpu }).dst = some dst) :=
    getPacketDst_opens arrival lruMap noBypass whole found calm
  generalize getPacketDst moduleTables control arrival pckt vipInfo isIpv6 lruMap
    { maps with cpu := cpu } = routing at opens chosen
  split at chosen
  · cases chosen
  · rename_i dst found
    have entry := opens found
    unfold updateVipLruMissStats at chosen
    dsimp only at chosen
    split at chosen
    · cases chosen
    · rename_i after result
      split_ifs at result <;> cases result <;> cases chosen <;> exact entry

/-- A packet that is sent leaves the entry of its key in front, a new one if there was
none. -/
theorem chooseReal_opens (arrival : Arrival) (memory : Memory) (data dataEnd : Nat)
    (vip : VipDefinition) {vipInfo : VipMeta} (lruMap : Option Nat) (tabled : Tabled vipInfo)
    (whole : vipInfo.has fHashDportOnly = false)
    (calm : (checkConnRate maps.cpu.connRate arrival.floodTime).1 = false)
    {routed : Routed ConnectionTable}
    (chosen : chooseReal moduleTables control arrival memory data dataEnd isIpv6 vip vipInfo lruMap
      pckt maps = .ok routed) :
    ∃ entry, Retained [] pckt.flow (· = entry) routed.maps.lru ∧
      entry.pos = routed.pckt.realIndex ∧
        ((lruHashMapElemLookup maps.lru.map pckt.flow).1 = none →
          entry = newEntry pckt.flow.proto arrival entry.pos) := by
  rw [chooseReal_plain _ _ _ tabled.noQuic] at chosen
  cases opening : pckt.synSet with
  | true =>
      unfold tableRoute at chosen
      rw [opening] at chosen
      exact ⟨_, ringRoute_opens arrival vip lruMap tabled.noBypass whole chosen calm, rfl,
        fun _ => rfl⟩
  | false =>
      rw [tableRoute_looked opening tabled.noBypass] at chosen
      cases hit : (moduleTables.lookup maps.lru lruMap pckt.flow).1 with
      | none =>
          rw [connectionTableLookup_miss hit] at chosen
          have entry := ringRoute_opens arrival vip lruMap tabled.noBypass whole chosen calm
          exact ⟨_, entry, rfl, fun _ => rfl⟩
      | some dstLru =>
          have present (absent : (lruHashMapElemLookup maps.lru.map pckt.flow).1 = none) : False := by
            rw [show (lruHashMapElemLookup maps.lru.map pckt.flow).1 = some dstLru from hit] at absent
            cases absent
          by_cases old : Expired pckt.flow.proto dstLru arrival
          · rw [connectionTableLookup_expired old hit] at chosen
            have entry := ringRoute_opens arrival vip lruMap tabled.noBypass whole chosen calm
            exact ⟨_, entry, rfl, fun _ => rfl⟩
          · rw [connectionTableLookup_hit old hit] at chosen
            dsimp only at chosen
            split at chosen
            · cases chosen
              have front : Retained [] pckt.flow (· = dstLru)
                  (moduleTables.lookup maps.lru lruMap pckt.flow).2 :=
                maps.lru.valid.keeps_of_hit hit rfl
              exact ⟨dstLru, retained_write front _ _ _ _, rfl, fun absent => (present absent).elim⟩
            · -- Without a real at the position of the entry, the ring decides.
              have entry := ringRoute_opens arrival vip lruMap tabled.noBypass whole chosen calm
              exact ⟨_, entry, rfl, fun _ => rfl⟩

end Settled

/-! ## Runs -/

/-- A packet that leaves the entry of a key alone: it belongs to the connection, opens
none and is not too late, or its keys are others, among these. -/
structure Passes (key : FlowKey) (fresh : Arrival → Prop) (others : List FlowKey)
    (event : MachineEvent) : Prop where
  numbered : VipsNumbered event.control
  touches : ∀ isIpv6 pckt service, receivedPacket event.window = some (isIpv6, pckt) →
    flowService event.control isIpv6 pckt.flow = some service →
      ((service.key == key) = true ∧ pckt.synSet = false ∧ Tabled service.vipInfo ∧
          fresh event.arrival) ∨
        ((service.key == key) = false ∧ (service.ringFlow == key) = false ∧
          Cache.Among others service.key ∧ Cache.Among others service.ringFlow)

section Runs

variable {adjustHead : Window → Int → Nat × Window} {machine : Machine ConnectionTable}
variable {others : List FlowKey} {key : FlowKey} {entry : RealPosLru} {fresh : Arrival → Prop}

/-- The entry of a connection stays. -/
theorem Machine.step_retained (few : others.length < 2000) (below : entry.pos.toNat < maxReals)
    (inTime : ∀ arrival, fresh arrival → ¬ Expired key.proto entry arrival) {event : MachineEvent}
    (passes : Passes key fresh others event)
    (retained : Retained others key (· = entry) machine.lru) :
    Retained others key (· = entry) (machine.step moduleTables adjustHead event).lru := by
  let maps : BalancerMaps ConnectionTable :=
    ⟨machine.cpus event.arrival.cpu, machine.lru, machine.vipMissStats⟩
  by_cases served : ∃ isIpv6 pckt service, receivedPacket event.window = some (isIpv6, pckt) ∧
      flowService event.control isIpv6 pckt.flow = some service
  · obtain ⟨isIpv6, pckt, service, received, found⟩ := served
    have numbered := passes.numbered _ _ (flowService_known found).1
    rcases passes.touches isIpv6 pckt service received found with
      ⟨same, segment, tabled, soon⟩ | ⟨apartKey, apartRing, amongKey, amongRing⟩
    · have chosen (lruMap : Option Nat) (started : BalancerMaps ConnectionTable)
          (lru : started.lru = machine.lru) :=
        chooseReal_retained event.control isIpv6 { pckt with flow := service.key } event.arrival
          event.window.memory event.window.context.data event.window.context.dataEnd service.vip
          lruMap same (inTime event.arrival soon) segment tabled below (lru ▸ retained)
      exact balancerIngress_holds moduleTables adjustHead maps event.arrival received found retained
        chosen
    · have admits : Admits (fun touched => (touched == key) = true ∨ Cache.Among others touched)
          (fun _ _ => True) (fun touched _ => (touched == key) = false ∧ Cache.Among others touched)
          event.control isIpv6 service fun _ => True :=
        { ring := fun _ _ => ⟨⟨apartRing, amongRing⟩, trivial⟩
          onRing := ringReal_isSome numbered
          touches := Or.inr amongKey
          writeBack := fun _ _ => ⟨⟨apartKey, amongKey⟩, trivial⟩
          quic := fun _ _ => ⟨⟨apartKey, amongKey⟩, trivial⟩ }
      have chosen (lruMap : Option Nat) (started : BalancerMaps ConnectionTable)
          (lru : started.lru = machine.lru) :=
        chooseReal_fits { pckt with flow := service.key } started (retained_maintained few)
          event.arrival lruMap admits event.window.memory event.window.context.data
          event.window.context.dataEnd service.vip rfl (lru ▸ retained)
      exact balancerIngress_holds moduleTables adjustHead maps event.arrival received found retained
        chosen
  · have lru : (machine.outcome moduleTables adjustHead event).maps.lru = machine.lru := by
      refine balancerIngress_unserved moduleTables event.control event.arrival adjustHead maps ?_
      intro isIpv6 pckt received
      exact Option.eq_none_iff_forall_ne_some.mpr fun service found =>
        served ⟨isIpv6, pckt, service, received, found⟩
    show Retained others key _ (machine.outcome moduleTables adjustHead event).maps.lru
    rw [lru]
    exact retained

theorem machineRun_retained (few : others.length < 2000) (below : entry.pos.toNat < maxReals)
    (inTime : ∀ arrival, fresh arrival → ¬ Expired key.proto entry arrival)
    {events : List MachineEvent} (passes : ∀ event ∈ events, Passes key fresh others event)
    (retained : Retained others key (· = entry) machine.lru) :
    Retained others key (· = entry) (machineRun moduleTables adjustHead machine events).lru := by
  induction events generalizing machine with
  | nil => exact retained
  | cons event rest inductionHypothesis =>
      refine inductionHypothesis (fun later member => passes later (List.mem_cons_of_mem _ member)) ?_
      exact Machine.step_retained few below inTime (passes event List.mem_cons_self) retained

/-- A packet that is sent while there are not too many new connections has its entry in
front, with the position that it is sent to. -/
theorem Machine.step_opens (moves : MovesHead adjustHead) {opening : MachineEvent} {isIpv6 : Bool}
    {pckt : PacketDescription} {service : Service}
    (received : receivedPacket opening.window = some (isIpv6, pckt))
    (found : flowService opening.control isIpv6 pckt.flow = some service)
    (numbered : VipsNumbered opening.control) (headroom : Headroom opening.window 40)
    (tabled : Tabled service.vipInfo) (whole : service.vipInfo.has fHashDportOnly = false)
    (calm : (checkConnRate (machine.cpus opening.arrival.cpu).connRate
      opening.arrival.floodTime).1 = false)
    (moved : (machine.outcome moduleTables adjustHead opening).window.context.data ≠
      opening.window.context.data) :
    ∃ entry : RealPosLru, entry.pos.toNat < maxReals ∧
      (machine.outcome moduleTables adjustHead opening).GoesTo opening.control entry.pos isIpv6
          opening.window ∧
        Retained [] service.key (· = entry) (machine.step moduleTables adjustHead opening).lru ∧
          ((lruHashMapElemLookup machine.lru.map service.key).1 = none →
            entry = newEntry service.key.proto opening.arrival entry.pos) := by
  let maps : BalancerMaps ConnectionTable :=
    ⟨machine.cpus opening.arrival.cpu, machine.lru, machine.vipMissStats⟩
  have nothing : Measures moduleTables fun _ => 0 :=
    ⟨fun _ _ _ => rfl, fun _ _ _ _ => rfl, fun _ _ _ _ => Nat.zero_le _⟩
  have served := balancerIngress_served moduleTables opening.control opening.arrival adjustHead maps
    received found
  by_cases long : maxPcktSize < opening.window.context.dataEnd - opening.window.context.data
  · rw [if_pos long] at served
    exact absurd (congrArg (fun window => window.context.data) served.2.1) moved
  · rw [if_neg long] at served
    obtain ⟨pktBytes, started, lruMap, originalSport, prepared, result⟩ := served
    have effect := chooseReal_effect nothing opening.control opening.arrival opening.window.memory
      opening.window.context.data opening.window.context.dataEnd isIpv6 service.vip service.vipInfo
      lruMap { pckt with flow := service.key } started
    have quiet : (checkConnRate started.cpu.connRate opening.arrival.floodTime).1 = false := by
      rw [prepared.quiet.connRate]
      exact calm
    have same : machine.outcome moduleTables adjustHead opening = _ := result
    show ∃ entry : RealPosLru, _ ∧ _ ∧ Retained [] service.key _
      (machine.outcome moduleTables adjustHead opening).maps.lru ∧ _
    rw [same] at moved ⊢
    cases chosen : chooseReal moduleTables opening.control opening.arrival opening.window.memory
        opening.window.context.data opening.window.context.dataEnd isIpv6 service.vip
        service.vipInfo lruMap { pckt with flow := service.key } started with
    | error after =>
        rw [chosen] at moved
        exact absurd rfl moved
    | ok routed =>
        obtain ⟨entry, opened, position, fresh⟩ := chooseReal_opens opening.arrival _ _ _
          service.vip lruMap tabled whole quiet chosen
        rw [chosen] at effect
        rw [prepared.lru] at fresh
        have fits : RoutedFits (Retained [] service.key (· = entry)) (· = entry.pos)
            (Except.ok routed) := ⟨opened, position.symm⟩
        refine ⟨entry, position ▸ arrayLookup_lt effect.2.1, ?_, ?_, fresh⟩
        · exact finish_goesTo moves headroom (receivedPacket_some received).1 long
            (numbered _ _ (flowService_known found).1) originalSport prepared.received effect fits
            fun _ same => same
        · exact finish_lru opening.control adjustHead _ _ _ fits

variable (machine) in
/-- A TCP connection keeps its real, whatever becomes of the ring and of the reals: the
next segments go where the first one went, as long as fewer keys than the map has room
for are touched in between. -/
theorem connection_keeps_real (moves : MovesHead adjustHead) (opening : MachineEvent)
    {isIpv6 : Bool} {pckt : PacketDescription} {service : Service}
    (received : receivedPacket opening.window = some (isIpv6, pckt))
    (found : flowService opening.control isIpv6 pckt.flow = some service)
    (numbered : VipsNumbered opening.control) (headroom : Headroom opening.window 40)
    (tcp : pckt.flow.proto = ipprotoTcp) (tabled : Tabled service.vipInfo)
    (whole : service.vipInfo.has fHashDportOnly = false)
    (calm : (checkConnRate (machine.cpus opening.arrival.cpu).connRate
      opening.arrival.floodTime).1 = false)
    (moved : (machine.outcome moduleTables adjustHead opening).window.context.data ≠
      opening.window.context.data)
    (few : others.length < 2000) (events : List MachineEvent)
    (passes : ∀ event ∈ events, Passes service.key (fun _ => True) others event) (later : MachineEvent)
    {isIpv6' : Bool} {pckt' : PacketDescription} {service' : Service}
    (received' : receivedPacket later.window = some (isIpv6', pckt'))
    (found' : flowService later.control isIpv6' pckt'.flow = some service')
    (numbered' : VipsNumbered later.control) (headroom' : Headroom later.window 40)
    (same : (service'.key == service.key) = true) (segment : pckt'.synSet = false)
    (tabled' : Tabled service'.vipInfo) :
    ∃ position, position.toNat < maxReals ∧
      (machine.outcome moduleTables adjustHead opening).GoesTo opening.control position isIpv6
          opening.window ∧
        ((machineRun moduleTables adjustHead (machine.step moduleTables adjustHead opening)
          events).outcome moduleTables adjustHead later).GoesTo later.control position isIpv6'
            later.window := by
  obtain ⟨entry, below, goes, opened, -⟩ := Machine.step_opens moves received found numbered
    headroom tabled whole calm moved
  have noTimeout (arrival : Arrival) (_ : True) : ¬ Expired service.key.proto entry arrival := by
    rw [(flowService_known found).2.2.2, tcp]
    exact fun both => absurd both.1 (by decide)
  have retained : Retained others service.key (· = entry)
      (machineRun moduleTables adjustHead (machine.step moduleTables adjustHead opening)
        events).lru :=
    machineRun_retained few below noTimeout passes
      (Cache.Keeps.mono opened fun other member => absurd member List.not_mem_nil)
  refine ⟨entry.pos, below, goes, ?_⟩
  generalize machineRun moduleTables adjustHead (machine.step moduleTables adjustHead opening)
    events = machine' at retained ⊢
  have chosen (lruMap : Option Nat) (started : BalancerMaps ConnectionTable)
      (lru : started.lru = machine'.lru) :=
    chooseReal_retained later.control isIpv6' { pckt' with flow := service'.key } later.arrival
      later.window.memory later.window.context.data later.window.context.dataEnd service'.vip
      lruMap same (noTimeout later.arrival trivial) segment tabled' below (lru ▸ retained)
  exact balancerIngress_goes moduleTables
    ⟨machine'.cpus later.arrival.cpu, machine'.lru, machine'.vipMissStats⟩ later.arrival moves
    headroom' received' found' (numbered' _ _ (flowService_known found').1) chosen entry.pos
    fun _ same => same

end Runs

section Example

/-- The ring after it was rebuilt. -/
def rebuiltVip : Control :=
  { oneVip with chRings := fun _ => 2 }

/-- A later segment of the connection, without SYN. -/
def ackWindow : Window :=
  { synWindow with memory := synWindow.memory.store 111 0x10 }

def ackOn (cpu : Nat) : MachineEvent :=
  ⟨rebuiltVip, ⟨cpu, 2, 2⟩, ackWindow⟩

def ackPacket : PacketDescription :=
  { synPacket with synSet := false }

def createdMachine : Machine ConnectionTable :=
  ⟨fun _ => zeroCpu, ConnectionTable.created, ⟨fun _ => 0, 0, 0⟩⟩

theorem ackWindow_received : receivedPacket ackWindow = some (false, ackPacket) := by
  rfl

def synService : Service :=
  ⟨⟨addressOfV4 0x09000000, 0, 6⟩, ⟨0, 1⟩, synPacket.flow⟩

theorem synService_found : flowService oneVip false synPacket.flow = some synService := by
  rfl

theorem synService_tabled : Tabled synService.vipInfo :=
  ⟨by decide, by decide⟩

theorem synService_rebuilt : flowService rebuiltVip false ackPacket.flow = some synService := by
  rfl

/-- A segment of another connection, from port 256. -/
def otherWindow : Window :=
  { synWindow with memory := synWindow.memory.store 98 1 }

def otherPacket : PacketDescription :=
  { synPacket with flow := setSourcePort synPacket.flow 1 }

def otherOn (cpu : Nat) : MachineEvent :=
  ⟨rebuiltVip, ⟨cpu, 2, 2⟩, otherWindow⟩

def otherService : Service :=
  { synService with key := otherPacket.flow }

theorem otherWindow_received : receivedPacket otherWindow = some (false, otherPacket) := by
  rfl

theorem otherService_found : flowService rebuiltVip false otherPacket.flow = some otherService := by
  rfl

theorem ackOn_passes (cpu : Nat) : Passes synService.key (fun _ => True) [otherPacket.flow] (ackOn cpu) := by
  refine ⟨oneVip_numbered, fun isIpv6 pckt service received found => Or.inl ?_⟩
  cases ackWindow_received.symm.trans received
  cases synService_rebuilt.symm.trans found
  exact ⟨BEq.rfl, rfl, synService_tabled, trivial⟩

theorem otherOn_passes (cpu : Nat) : Passes synService.key (fun _ => True) [otherPacket.flow] (otherOn cpu) := by
  refine ⟨oneVip_numbered, fun isIpv6 pckt service received found => Or.inr ?_⟩
  cases otherWindow_received.symm.trans received
  cases otherService_found.symm.trans found
  exact ⟨by decide, by decide, ⟨_, List.mem_singleton_self _, by decide⟩,
    ⟨_, List.mem_singleton_self _, by decide⟩⟩

/-- The ring is rebuilt after the first segment. -/
theorem segment_keeps_real :
    ∃ position, position.toNat < maxReals ∧
      (createdMachine.outcome moduleTables bpftimeXdpAdjustHeadRuntime (synOn 0)).GoesTo oneVip
          position false synWindow ∧
        ((machineRun moduleTables bpftimeXdpAdjustHeadRuntime
          (createdMachine.step moduleTables bpftimeXdpAdjustHeadRuntime (synOn 0))
          [otherOn 0, ackOn 1]).outcome moduleTables bpftimeXdpAdjustHeadRuntime (ackOn 2)).GoesTo
            rebuiltVip position false ackWindow :=
  connection_keeps_real createdMachine movesHead_runtime (synOn 0) synWindow_received
    synService_found oneVip_numbered synWindow_headroom rfl synService_tabled rfl rfl (by decide)
    (by decide : [otherPacket.flow].length < 2000) [otherOn 0, ackOn 1]
    (by
      intro event member
      simp only [List.mem_cons, List.not_mem_nil, or_false] at member
      rcases member with rfl | rfl
      · exact otherOn_passes 0
      · exact ackOn_passes 1)
    (ackOn 2) ackWindow_received synService_rebuilt oneVip_numbered ⟨by decide, by decide⟩ BEq.rfl rfl
    synService_tabled

theorem third_v4_segment_keeps_real :
    ((machineRun moduleTables bpftimeXdpAdjustHeadRuntime createdMachine
      [synOn 0, synOn 1]).outcome moduleTables bpftimeXdpAdjustHeadRuntime (synOn 2)).GoesTo oneVip
        1 false synWindow :=
  v4_flow_keeps_real movesHead_runtime oneVip_numbered rfl
    (by
      intro event member
      simp only [List.mem_cons, List.not_mem_nil, or_false] at member
      rcases member with rfl | rfl <;> exact synOn_steady _)
    (synOn_steady 2) synWindow_received (by rfl)

/-- A datagram between the same ports. -/
def udpWindow : Window :=
  { synWindow with memory := synWindow.memory.store 87 17 }

def udpPacket : PacketDescription :=
  { synPacket with flow := { synPacket.flow with proto := 17 }, synSet := false }

def udpService : Service :=
  ⟨⟨addressOfV4 0x09000000, 0, 17⟩, ⟨0, 1⟩, udpPacket.flow⟩

end Example

end UserspaceXdp.Katran
