import UserspaceXdp.Katran.Entries

/-!
Contract: all packets of a flow go to one real.

Owns: the invariant that every entry agrees with the ring, and runs of packets on all
CPUs under one ring.

Does not own: changes of the ring.
-/

namespace UserspaceXdp.Katran

open UserspaceXdp.Foundation
open UserspaceXdp.Runtime
open UserspaceXdp.Maps

/-! ## Consistent tables -/

section Consistent

variable (control : Control) (family : VipDefinition → Bool) (same : FlowKey → FlowKey → Prop)

/-- A flow of the version that its service is reached over. -/
structure Belongs (isIpv6 : Bool) (flow : FlowKey) : Prop where
  words : isIpv6 = false → flow.dstv6 = addressOfV4 flow.dst
  family : ∀ service, flowService control isIpv6 flow = some service →
    family service.vip = isIpv6

/-- Flows that the tables take for the same have the same position. -/
def Separates : Prop :=
  ∀ ⦃candidate key isIpv6 isIpv6'⦄, same candidate key → Belongs control family isIpv6 candidate →
    Belongs control family isIpv6' key → (flowService control isIpv6 candidate).isSome →
      (flowService control isIpv6' key).isSome →
        ringPosition control isIpv6 candidate = ringPosition control isIpv6' key

/-- An entry with the position that the ring has for its key. -/
def OnRing (key : FlowKey) (pos : UInt32) : Prop :=
  ∀ isIpv6 position, Belongs control family isIpv6 key →
    ringPosition control isIpv6 key = some position → pos = position

variable {control family same}

theorem ringPosition_service {isIpv6 : Bool} {flow : FlowKey} {position : UInt32}
    (known : ringPosition control isIpv6 flow = some position) :
    (flowService control isIpv6 flow).isSome := by
  unfold ringPosition at known
  split at known
  · cases known
  · rename_i service found
    rw [found]
    rfl

theorem Belongs.key {isIpv6 : Bool} {flow : FlowKey} {service : Service}
    (belongs : Belongs control family isIpv6 flow)
    (found : flowService control isIpv6 flow = some service) :
    Belongs control family isIpv6 service.key := by
  obtain ⟨-, -, dst, -⟩ := flowService_known found
  refine ⟨fun v4 => ?_, fun other known => ?_⟩
  · unfold FlowKey.dst
    rw [dst]
    exact belongs.words v4
  · rw [flowService_key found] at known
    cases known
    exact belongs.family service found

theorem Belongs.ringFlow {isIpv6 : Bool} {flow : FlowKey} {service : Service}
    (belongs : Belongs control family isIpv6 flow)
    (found : flowService control isIpv6 flow = some service) :
    Belongs control family isIpv6 service.ringFlow := by
  obtain ⟨-, -, dst, -⟩ := flowService_known found
  have kept : service.ringFlow.dstv6 = service.key.dstv6 := by
    unfold Service.ringFlow hashedFlow
    split <;> rfl
  refine ⟨fun v4 => ?_, fun other known => ?_⟩
  · unfold FlowKey.dst
    rw [kept, dst]
    exact belongs.words v4
  · rw [flowService_ringFlow found] at known
    cases known
    exact belongs.family service found

/-- The position of a flow may be stored for keys that have the position and the
service of the flow. -/
theorem Separates.permits (separates : Separates control family same) {isIpv6 : Bool}
    {key : FlowKey} {pos : UInt32} (belongs : Belongs control family isIpv6 key)
    (served : (flowService control isIpv6 key).isSome)
    (position : ∀ other, ringPosition control isIpv6 key = some other → pos = other) :
    Permits same (OnRing control family) key pos := by
  intro candidate equal version other candidateBelongs known
  apply position
  rw [← separates equal candidateBelongs belongs (ringPosition_service known) served]
  exact known

/-- A packet of a flow stores the position of the flow. -/
theorem Separates.admits (separates : Separates control family same)
    {isIpv6 : Bool} {flow : FlowKey} {service : Service}
    (belongs : Belongs control family isIpv6 flow)
    (found : flowService control isIpv6 flow = some service)
    (numbered : service.vipInfo.vipNum.toNat < maxVips) :
    Admits (fun _ => True) (OnRing control family) (Permits same (OnRing control family)) control
      isIpv6 service fun pos =>
      ∀ position, ringPosition control isIpv6 flow = some position → pos = position := by
  have atKey := ringPosition_key found
  have atRing := ringPosition_ringFlow found
  have keyServed : (flowService control isIpv6 service.key).isSome := by
    rw [flowService_key found]
    rfl
  have ringServed : (flowService control isIpv6 service.ringFlow).isSome := by
    rw [flowService_ringFlow found]
    rfl
  refine ⟨⟨fun pos ring => ?_, ringReal_isSome numbered⟩, trivial, fun pos entry => ?_,
    fun quic pos => ?_⟩
  · have position : ∀ other, ringPosition control isIpv6 flow = some other → pos = other := by
      intro other known
      rw [ringPosition_eq found] at known
      split at known
      · cases known
      · exact Option.some.inj (ring.symm.trans known)
    refine ⟨separates.permits (belongs.ringFlow found) ringServed fun other known => ?_, position⟩
    exact position other (atRing.symm.trans known)
  · have position : ∀ other, ringPosition control isIpv6 flow = some other → pos = other :=
      fun other known => entry isIpv6 other (belongs.key found) (atKey.trans known)
    refine ⟨separates.permits (belongs.key found) keyServed fun other known => ?_, position⟩
    exact position other (atKey.symm.trans known)
  · have nothing : ringPosition control isIpv6 flow = none := by
      rw [ringPosition_eq found, if_pos quic]
    refine ⟨separates.permits (belongs.key found) keyServed fun other known => ?_,
      fun other known => ?_⟩
    · rw [atKey, nothing] at known
      cases known
    · rw [nothing] at known
      cases known

end Consistent

/-! ## Runs -/

/-- A packet that arrives on some CPU, and the control plane as it is then. -/
structure MachineEvent where
  control : Control
  arrival : Arrival
  window : Window

/-- The maps of all CPUs. -/
structure Machine (Tables : Type) where
  cpus : Nat → CpuMaps
  lru : Tables
  vipMissStats : VipDefinition

section Runs

variable {Tables : Type} (ops : LruOps Tables) (adjustHead : Window → Int → Nat × Window)

def Machine.outcome (machine : Machine Tables) (event : MachineEvent) : Outcome Tables :=
  balancerIngress ops event.control event.arrival adjustHead event.window
    ⟨machine.cpus event.arrival.cpu, machine.lru, machine.vipMissStats⟩

def Machine.step (machine : Machine Tables) (event : MachineEvent) : Machine Tables :=
  let outcome := machine.outcome ops adjustHead event
  { cpus := Function.update machine.cpus event.arrival.cpu outcome.maps.cpu
    lru := outcome.maps.lru
    vipMissStats := outcome.maps.vipMissStats }

def machineRun (start : Machine Tables) (events : List MachineEvent) : Machine Tables :=
  events.foldl (Machine.step ops adjustHead) start

variable (control : Control) (family : VipDefinition → Bool)

/-- An event under a control plane with the same services and the same ring, for a
packet of the version that its service is reached over. -/
structure Steady (event : MachineEvent) : Prop where
  vipMap : event.control.vipMap = control.vipMap
  chRings : event.control.chRings = control.chRings
  headroom : Headroom event.window 40
  family : ∀ isIpv6 pckt service, receivedPacket event.window = some (isIpv6, pckt) →
    flowService control isIpv6 pckt.flow = some service → family service.vip = isIpv6

variable {ops adjustHead control family}

theorem flowService_vipMap {other : Control} (vipMap : other.vipMap = control.vipMap)
    (isIpv6 : Bool) (flow : FlowKey) :
    flowService other isIpv6 flow = flowService control isIpv6 flow := by
  unfold flowService lookupVip
  rw [vipMap]

/-- The first word of an IPv4 address is the whole address. -/
theorem receivedPacket_words {xdp : Window} {pckt : PacketDescription}
    (received : receivedPacket xdp = some (false, pckt)) :
    pckt.flow.dstv6 = addressOfV4 pckt.flow.dst := by
  obtain ⟨whole, type⟩ := receivedPacket_some received
  rw [receivedPacket_eq whole type] at received
  obtain ⟨⟨read, pktBytes⟩, parsed, equal⟩ := Option.map_eq_some_iff.mp received
  obtain ⟨⟨l3, bytes⟩, headers, transport⟩ := Option.bind_eq_some_iff.mp parsed
  obtain ⟨-, -, flow, -⟩ := parseTransport_some transport
  have kept : pckt.flow.dstv6 = l3.flow.dstv6 := by
    rw [← (Prod.mk.inj equal).2, flow]
    unfold readPorts
    split <;> rfl
  have words : l3.flow.dstv6 = addressOfV4 l3.flow.dst := by
    change (processIpv4Headers _ _ _ _ _).value = _ at headers
    unfold processIpv4Headers at headers
    dsimp only at headers
    split_ifs at headers
    · cases headers
    · cases headers
    · cases headers
    · rw [withBytes_value] at headers
      unfold parseIcmp at headers
      dsimp only at headers
      split_ifs at headers <;> cases headers <;> rfl
    · cases headers
      rfl
  unfold FlowKey.dst at words ⊢
  rw [kept]
  exact words

variable {same : FlowKey → FlowKey → Prop} {stored : Tables → FlowKey → UInt32 → Prop}
variable (remembers : Remembers ops same stored) (moves : MovesHead adjustHead)
variable (numbered : VipsNumbered control) (separates : Separates control family same)

include remembers moves numbered separates

/-- A packet keeps the entries on the ring and goes where the ring says. -/
theorem Machine.step_onRing {machine : Machine Tables} {event : MachineEvent}
    (steady : Steady control family event)
    (kept : Kept stored (OnRing control family) machine.lru) :
    Kept stored (OnRing control family) (machine.step ops adjustHead event).lru ∧
      ∀ isIpv6 pckt position, receivedPacket event.window = some (isIpv6, pckt) →
        ringPosition control isIpv6 pckt.flow = some position →
          (machine.outcome ops adjustHead event).GoesTo event.control position isIpv6
            event.window := by
  let maps : BalancerMaps Tables :=
    ⟨machine.cpus event.arrival.cpu, machine.lru, machine.vipMissStats⟩
  by_cases served : ∃ isIpv6 pckt service, receivedPacket event.window = some (isIpv6, pckt) ∧
      flowService control isIpv6 pckt.flow = some service
  · obtain ⟨isIpv6, pckt, service, received, found⟩ := served
    have belongs : Belongs control family isIpv6 pckt.flow := by
      refine ⟨fun v4 => ?_, fun service found => steady.family _ _ _ received found⟩
      rw [v4] at received
      exact receivedPacket_words received
    have below := numbered _ _ (flowService_known found).1
    have admits := (separates.admits belongs found below).of_chRings steady.chRings
    have served := (flowService_vipMap steady.vipMap isIpv6 pckt.flow).trans found
    have chosen (lruMap : Option Nat) (started : BalancerMaps Tables)
        (lru : started.lru = maps.lru) :=
      chooseReal_fits { pckt with flow := service.key } started remembers.maintained event.arrival
        lruMap admits event.window.memory event.window.context.data event.window.context.dataEnd
        service.vip rfl (lru ▸ kept)
    refine ⟨balancerIngress_holds ops adjustHead maps event.arrival received served kept chosen, ?_⟩
    intro isIpv6' pckt' position received' known
    cases received.symm.trans received'
    exact balancerIngress_goes ops maps event.arrival moves steady.headroom received served below
      chosen position fun pos goal => goal position known
  · have lru : (machine.outcome ops adjustHead event).maps.lru = machine.lru := by
      refine balancerIngress_unserved ops event.control event.arrival adjustHead maps ?_
      intro isIpv6 pckt received
      rw [flowService_vipMap steady.vipMap]
      exact Option.eq_none_iff_forall_ne_some.mpr fun service found =>
        served ⟨isIpv6, pckt, service, received, found⟩
    refine ⟨?_, fun isIpv6 pckt position received known => ?_⟩
    · show Kept stored _ (machine.outcome ops adjustHead event).maps.lru
      rw [lru]
      exact kept
    · obtain ⟨service, found⟩ := Option.isSome_iff_exists.mp (ringPosition_service known)
      exact absurd ⟨isIpv6, pckt, service, received, found⟩ served

theorem machineRun_onRing {start : Machine Tables} {events : List MachineEvent}
    (steady : ∀ event ∈ events, Steady control family event)
    (kept : Kept stored (OnRing control family) start.lru) :
    Kept stored (OnRing control family) (machineRun ops adjustHead start events).lru := by
  induction events generalizing start with
  | nil => exact kept
  | cons event rest inductionHypothesis =>
      refine inductionHypothesis (fun later member => steady later (List.mem_cons_of_mem _ member)) ?_
      exact (Machine.step_onRing remembers moves numbered separates
        (steady event List.mem_cons_self) kept).1

/-- After every run from empty tables. -/
theorem machineRun_goesTo {start : Machine Tables} (empty : ∀ key pos, ¬ stored start.lru key pos)
    {events : List MachineEvent} (steady : ∀ event ∈ events, Steady control family event)
    {event : MachineEvent} (next : Steady control family event) {isIpv6 : Bool}
    {pckt : PacketDescription} (received : receivedPacket event.window = some (isIpv6, pckt))
    {position : UInt32} (known : ringPosition control isIpv6 pckt.flow = some position) :
    ((machineRun ops adjustHead start events).outcome ops adjustHead event).GoesTo event.control
      position isIpv6 event.window := by
  have created : Kept stored (OnRing control family) start.lru :=
    fun key pos entry => absurd entry (empty key pos)
  exact (Machine.step_onRing remembers moves numbered separates next
    (machineRun_onRing remembers moves numbered separates steady created)).2 _ _ _ received known

end Runs

section Affinity

variable {Tables : Type} {ops : LruOps Tables} {adjustHead : Window → Int → Nat × Window}
variable {control : Control} {family : VipDefinition → Bool}

theorem flowService_words {flow : FlowKey} (words : flow.dstv6 = addressOfV4 flow.dst) :
    flowService control true flow = flowService control false flow := by
  unfold flowService lookupVip
  dsimp only
  rw [if_pos rfl, if_neg Bool.false_ne_true, ← words]

/-- Tables that compare whole keys separate the flows. -/
theorem separates_eq : Separates control family Eq := by
  rintro flow _ isIpv6 isIpv6' rfl first second served served'
  obtain ⟨service, found⟩ := Option.isSome_iff_exists.mp served
  obtain ⟨service', found'⟩ := Option.isSome_iff_exists.mp served'
  have version : isIpv6 = isIpv6' := by
    have left := first.family service found
    have right := second.family service' found'
    cases isIpv6 with
    | true =>
        cases isIpv6' with
        | true => rfl
        | false =>
            rw [flowService_words (second.words rfl), found'] at found
            cases found
            rw [← left, ← right]
    | false =>
        cases isIpv6' with
        | true =>
            rw [flowService_words (first.words rfl), found] at found'
            cases found'
            rw [← left, ← right]
        | false => rfl
  rw [version]

/-- After every run over all CPUs, whatever the tables have forgotten and however the
reals change, a packet goes to the position that the ring has for its flow: all packets
of a flow go to the same one. -/
theorem flow_keeps_real {stored : Tables → FlowKey → UInt32 → Prop}
    (remembers : Remembers ops Eq stored) (moves : MovesHead adjustHead)
    (numbered : VipsNumbered control) {start : Machine Tables}
    (empty : ∀ key pos, ¬ stored start.lru key pos) {events : List MachineEvent}
    (steady : ∀ event ∈ events, Steady control family event) {event : MachineEvent}
    (next : Steady control family event) {isIpv6 : Bool} {pckt : PacketDescription}
    (received : receivedPacket event.window = some (isIpv6, pckt)) {position : UInt32}
    (known : ringPosition control isIpv6 pckt.flow = some position) :
    ((machineRun ops adjustHead start events).outcome ops adjustHead event).GoesTo event.control
      position isIpv6 event.window :=
  machineRun_goesTo remembers moves numbered separates_eq empty steady next received known

/-- An ICMP error about a packet that a service has sent, if it quotes as much as is
read of the transport header, goes to the position of the flow that the packet
answers. -/
theorem errors_follow_flow {same : FlowKey → FlowKey → Prop}
    {stored : Tables → FlowKey → UInt32 → Prop} (remembers : Remembers ops same stored)
    (moves : MovesHead adjustHead) (numbered : VipsNumbered control)
    (separates : Separates control family same) {start : Machine Tables}
    (empty : ∀ key pos, ¬ stored start.lru key pos) {events : List MachineEvent}
    (steady : ∀ event ∈ events, Steady control family event) {event : MachineEvent}
    (next : Steady control family event) {isIpv6 : Bool} {quoted : Window} {count : Nat}
    (quotes : QuotesPacket isIpv6 event.window quoted count) {answer : PacketDescription}
    (sent : receivedPacket quoted = some (isIpv6, answer)) (plain : answer.icmp = false)
    (enough : ipHeaderSize isIpv6 + transportSize answer.flow.proto ≤ count) {position : UInt32}
    (known : ringPosition control isIpv6 (reverseFlow answer.flow) = some position) :
    ((machineRun ops adjustHead start events).outcome ops adjustHead event).GoesTo event.control
      position isIpv6 event.window := by
  have read := receivedPacket_quotes quotes sent plain
  rw [if_neg (Nat.not_lt.mpr enough)] at read
  obtain ⟨⟨version, pckt⟩, received, equal⟩ := Option.map_eq_some_iff.mp read
  obtain ⟨rfl, flow⟩ := Prod.mk.inj equal
  rw [← flow] at known
  exact machineRun_goesTo remembers moves numbered separates empty steady next received known

end Affinity

section Example

/-- Tables of all CPUs that forget nothing. -/
def exactStore (tables : Option Nat → FlowKey → Option RealPosLru) (id : Option Nat)
    (key : FlowKey) (value : RealPosLru) : Option Nat → FlowKey → Option RealPosLru :=
  Function.update tables id (Function.update (tables id) key (some value))

def exactTables : LruOps (Option Nat → FlowKey → Option RealPosLru) where
  lookup tables id key := (tables id key, tables)
  write := exactStore
  update := exactStore

def exactStored (tables : Option Nat → FlowKey → Option RealPosLru) (key : FlowKey)
    (pos : UInt32) : Prop :=
  ∃ id value, tables id key = some value ∧ value.pos = pos

theorem exactStored_store {tables : Option Nat → FlowKey → Option RealPosLru} {id : Option Nat}
    {key candidate : FlowKey} {value : RealPosLru} {pos : UInt32}
    (after : exactStored (exactStore tables id key value) candidate pos) :
    exactStored tables candidate pos ∨ candidate = key ∧ pos = value.pos := by
  obtain ⟨other, entry, found, rfl⟩ := after
  unfold exactStore at found
  by_cases table : other = id
  · subst table
    rw [Function.update_self] at found
    by_cases same : candidate = key
    · subst same
      rw [Function.update_self, Option.some.injEq] at found
      exact Or.inr ⟨rfl, by rw [found]⟩
    · rw [Function.update_of_ne same] at found
      exact Or.inl ⟨other, entry, found, rfl⟩
  · rw [Function.update_of_ne table] at found
    exact Or.inl ⟨other, entry, found, rfl⟩

theorem exactTables_remembers : Remembers exactTables Eq exactStored where
  hit _ id _ value found := ⟨id, value, found, rfl⟩
  lookup _ _ _ _ _ after := after
  write _ _ _ _ _ _ after := exactStored_store after
  update _ _ _ _ _ _ after := exactStored_store after

/-- No table has an entry. -/
def emptyMachine : Machine (Option Nat → FlowKey → Option RealPosLru) :=
  ⟨fun _ => zeroCpu, fun _ _ => none, ⟨fun _ => 0, 0, 0⟩⟩

theorem emptyMachine_empty (key : FlowKey) (pos : UInt32) :
    ¬ exactStored emptyMachine.lru key pos := by
  rintro ⟨id, value, found, -⟩
  cases found

/-- The segment on a CPU. -/
def synOn (cpu : Nat) : MachineEvent :=
  ⟨oneVip, ⟨cpu, 1, 1⟩, synWindow⟩

def synPacket : PacketDescription :=
  ((receivedPacket synWindow).map Prod.snd).getD emptyPacket

theorem synWindow_received : receivedPacket synWindow = some (false, synPacket) := by
  rfl

theorem synOn_steady (cpu : Nat) : Steady oneVip (fun _ => false) (synOn cpu) where
  vipMap := rfl
  chRings := rfl
  headroom := synWindow_headroom
  family := by
    intro isIpv6 pckt service received found
    cases synWindow_received.symm.trans received
    rfl

theorem third_segment_keeps_real :
    ((machineRun exactTables bpftimeXdpAdjustHeadRuntime emptyMachine [synOn 0, synOn 1]).outcome
      exactTables bpftimeXdpAdjustHeadRuntime (synOn 2)).GoesTo oneVip 1 false synWindow :=
  flow_keeps_real exactTables_remembers movesHead_runtime oneVip_numbered emptyMachine_empty
    (by
      intro event member
      simp only [List.mem_cons, List.not_mem_nil, or_false] at member
      rcases member with rfl | rfl <;> exact synOn_steady _)
    (synOn_steady 2) synWindow_received (by rfl)

/-- Port unreachable, about the segment. -/
def unreachWindow : Window where
  context := ⟨64, 146, 0, 0, 0, 0, 0, 146⟩
  memory address :=
    if 106 ≤ address then synWindow.memory (address - 28)
    else if address = 76 then 8
    else if address = 78 then 0x45
    else if address = 87 then 1
    else if address = 98 then 3
    else if address = 99 then 3
    else 0

theorem unreachWindow_quotes : QuotesPacket false unreachWindow synWindow 40 where
  length := rfl
  type := by decide
  plain _ := by decide
  protocol := by decide
  error := by decide
  bytes := by decide

theorem unreachWindow_headroom : Headroom unreachWindow 40 :=
  ⟨by decide, by decide⟩

def unreachOn (cpu : Nat) : MachineEvent :=
  ⟨oneVip, ⟨cpu, 1, 1⟩, unreachWindow⟩

theorem unreachOn_steady (cpu : Nat) : Steady oneVip (fun _ => false) (unreachOn cpu) where
  vipMap := rfl
  chRings := rfl
  headroom := unreachWindow_headroom
  family := by
    intro isIpv6 pckt service received found
    have version : (receivedPacket unreachWindow).map Prod.fst = some false := by rfl
    rw [show receivedPacket unreachWindow = some (isIpv6, pckt) from received] at version
    exact (Option.some.inj version).symm

/-- The error comes to another CPU than the segment. -/
theorem unreach_follows_segment :
    ((machineRun exactTables bpftimeXdpAdjustHeadRuntime emptyMachine [synOn 0]).outcome exactTables
      bpftimeXdpAdjustHeadRuntime (unreachOn 1)).GoesTo oneVip 1 false unreachWindow :=
  errors_follow_flow exactTables_remembers movesHead_runtime oneVip_numbered separates_eq
    emptyMachine_empty
    (by
      intro event member
      rw [List.mem_singleton.mp member]
      exact synOn_steady 0)
    (unreachOn_steady 1) unreachWindow_quotes synWindow_received (by rfl) (by decide) (by rfl)

end Example

end UserspaceXdp.Katran
