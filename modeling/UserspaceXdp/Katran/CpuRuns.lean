import Mathlib.Data.UInt
import UserspaceXdp.Foundation.FixedWindow
import UserspaceXdp.Foundation.Tally
import UserspaceXdp.Katran.Effects

/-!
Contract: the packets of one CPU, one after another.

Owns: runs in which each packet finds whatever control plane, connection tables and
shared maps the rest of the system has made of them; that the counters of the VIPs and
those of the reals both add up to the encapsulated packets and their bytes; and how many
connections a CPU inserts in any one second.

Does not own: what the tables hold.
-/

namespace UserspaceXdp.Katran

open UserspaceXdp.Foundation
open UserspaceXdp.Runtime
open UserspaceXdp.Maps

/-- A packet, and what it finds. -/
structure CpuEvent (Tables : Type) where
  control : Control
  arrival : Arrival
  window : Window
  tables : Tables
  vipMissStats : VipDefinition

/-- The maps of a CPU, the number of connections it has inserted, and the number and
the bytes of the packets whose head it has moved: it encapsulated them. -/
structure CpuState where
  cpu : CpuMaps
  inserted : Nat
  encapsulated : Nat
  encapsulatedBytes : Nat

/-- The bytes of a packet, by the length in its IP header. -/
def packetBytes (xdp : Window) : Nat :=
  headerBytes xdp.memory (xdp.context.data + 14)
    (xdp.memory.loadWord (xdp.context.data + 12) 2 = beEthPIpv6)

section Runs

variable {Tables : Type} (ops : LruOps Tables) (adjustHead : Window → Int → Nat × Window)

/-- What the program makes of a packet, with the insertions counted. -/
def CpuState.outcome (state : CpuState) (event : CpuEvent Tables) : Outcome (Tables × Nat) :=
  balancerIngress ops.counting event.control event.arrival adjustHead event.window
    ⟨state.cpu, (event.tables, state.inserted), event.vipMissStats⟩

def CpuState.step (state : CpuState) (event : CpuEvent Tables) : CpuState :=
  let outcome := state.outcome ops adjustHead event
  let moved := outcome.window.context.data ≠ event.window.context.data
  { cpu := outcome.maps.cpu
    inserted := outcome.maps.lru.2
    encapsulated := state.encapsulated + if moved then 1 else 0
    encapsulatedBytes := state.encapsulatedBytes + if moved then packetBytes event.window else 0 }

def cpuRun (start : CpuState) (events : List (CpuEvent Tables)) : CpuState :=
  events.foldl (CpuState.step ops adjustHead) start

/-- The maps as they are created. -/
def zeroCpu : CpuMaps where
  stats _ := ⟨0, 0⟩
  realsStats _ := ⟨0, 0⟩
  lruMissStats _ := 0
  quicStats := ⟨0, 0, 0, 0, 0, 0, 0, 0, 0, 0, 0, 0, 0⟩
  serverIdStats _ := ⟨0, 0⟩

def createdCpu : CpuState :=
  ⟨zeroCpu, 0, 0, 0⟩

/-- What a step does. -/
theorem outcome_effect (state : CpuState) {event : CpuEvent Tables}
    (numbered : VipsNumbered event.control) :
    PacketEffect Prod.snd event.control event.arrival.floodTime adjustHead event.window
      ⟨state.cpu, (event.tables, state.inserted), event.vipMissStats⟩
      (state.outcome ops adjustHead event) :=
  balancerIngress_effect event.arrival adjustHead (measures_counting ops) numbered _ _

/-! ## Traffic -/

/-- The totals over the VIPs and over the reals. -/
def vipTotal (amount : LbStats → UInt64) (cpu : CpuMaps) : UInt64 :=
  ∑ vipNum ∈ Finset.range maxVips, amount (cpu.stats vipNum)

def realTotal (amount : LbStats → UInt64) (cpu : CpuMaps) : UInt64 :=
  ∑ realIndex ∈ Finset.range maxReals, amount (cpu.realsStats realIndex)

theorem SameTraffic.totals {before after : CpuMaps} (same : SameTraffic before after)
    (amount : LbStats → UInt64) :
    vipTotal amount after = vipTotal amount before ∧
      realTotal amount after = realTotal amount before := by
  unfold vipTotal realTotal
  refine ⟨Finset.sum_congr rfl ?_, by rw [same.reals]⟩
  intro vipNum member
  rw [same.vips vipNum (Finset.mem_range.mp member)]

/-- A forwarded packet is counted once on both sides. -/
theorem countForward_totals (amount : LbStats → UInt64) (bytes : UInt64) {step : UInt64}
    (advanced : ∀ stats : LbStats, amount (stats.add 1 bytes) = amount stats + step)
    (cpu : CpuMaps) {vipNum realIndex : Nat} (numbered : vipNum < maxVips)
    (known : realIndex < maxReals) :
    vipTotal amount (countForward cpu vipNum realIndex bytes) = vipTotal amount cpu + step ∧
      realTotal amount (countForward cpu vipNum realIndex bytes) = realTotal amount cpu + step := by
  have vips := sum_update (Finset.mem_range.mpr numbered) cpu.stats
    ((cpu.stats vipNum).add 1 bytes) amount
  have reals := sum_update (Finset.mem_range.mpr known) cpu.realsStats
    ((cpu.realsStats realIndex).add 1 bytes) amount
  rw [advanced, ← add_assoc, add_right_comm] at vips reals
  exact ⟨add_right_cancel vips, add_right_cancel reals⟩

/-- Both sides have counted every encapsulated packet, with its bytes. -/
structure Balanced (state : CpuState) : Prop where
  vipPackets : vipTotal LbStats.v1 state.cpu = UInt64.ofNat state.encapsulated
  realPackets : realTotal LbStats.v1 state.cpu = UInt64.ofNat state.encapsulated
  vipBytes : vipTotal LbStats.v2 state.cpu = UInt64.ofNat state.encapsulatedBytes
  realBytes : realTotal LbStats.v2 state.cpu = UInt64.ofNat state.encapsulatedBytes

theorem balanced_createdCpu : Balanced createdCpu := by
  have zero (count : Nat) : ∑ _index ∈ Finset.range count, (0 : UInt64) = 0 :=
    Finset.sum_const_zero
  exact ⟨zero _, zero _, zero _, zero _⟩

theorem Received.packetBytes_eq {xdp : Window} {isIpv6 : Bool} {pktBytes : Nat} {tos : UInt8}
    (received : Received xdp isIpv6 pktBytes tos) : packetBytes xdp = pktBytes := by
  have version : decide (xdp.memory.loadWord (xdp.context.data + 12) 2 = beEthPIpv6) = isIpv6 := by
    rw [received.type]
    cases isIpv6 <;> decide
  rw [packetBytes, version, received.pktBytes]

variable {adjustHead} in
theorem Balanced.step (moves : MovesHead adjustHead) {state : CpuState} {event : CpuEvent Tables}
    (numbered : VipsNumbered event.control) (headroom : Headroom event.window 40)
    (balanced : Balanced state) : Balanced (state.step ops adjustHead event) := by
  obtain ⟨middle, chosen, forwarded⟩ := (outcome_effect ops adjustHead
    state numbered).effect
  obtain ⟨vipPackets, realPackets⟩ := chosen.traffic.totals LbStats.v1
  obtain ⟨vipBytes, realBytes⟩ := chosen.traffic.totals LbStats.v2
  unfold CpuState.step
  dsimp only
  rcases forwarded with ⟨maps, settled⟩ |
    ⟨isIpv6, vipInfo, originalSport, pktBytes, routed, whole, received, below, rfl, found, outcome⟩
  · have still := congrArg XdpMdUserspace.data settled.context
    rw [if_neg (not_not.mpr still), if_neg (not_not.mpr still), maps]
    exact ⟨vipPackets.trans balanced.vipPackets, realPackets.trans balanced.realPackets,
      vipBytes.trans balanced.vipBytes, realBytes.trans balanced.realBytes⟩
  · have known := arrayLookup_lt found
    have sent := forward_sent event.control adjustHead moves headroom whole isIpv6 originalSport
      pktBytes below known
    have maps := forward_maps event.control adjustHead event.window isIpv6 originalSport pktBytes
      below known
    have moved : (state.outcome ops adjustHead event).window.context.data ≠
        event.window.context.data := by
      have room := headroom.room
      rw [outcome, sent.2.1]
      show event.window.context.data - _ ≠ _
      split <;> omega
    have packets := countForward_totals LbStats.v1 (UInt64.ofNat pktBytes) (fun _ => rfl)
      routed.maps.cpu below known
    have bytes := countForward_totals LbStats.v2 (UInt64.ofNat pktBytes) (fun _ => rfl)
      routed.maps.cpu below known
    have next (counted more : Nat) :
        UInt64.ofNat (counted + more) = UInt64.ofNat counted + UInt64.ofNat more :=
      UInt64.ofNat_add _ _
    rw [if_pos moved, if_pos moved, received.packetBytes_eq, outcome, maps]
    constructor
    · show vipTotal LbStats.v1 (countForward _ _ _ _) = UInt64.ofNat (state.encapsulated + 1)
      rw [packets.1, vipPackets, balanced.vipPackets, next]
      rfl
    · show realTotal LbStats.v1 (countForward _ _ _ _) = UInt64.ofNat (state.encapsulated + 1)
      rw [packets.2, realPackets, balanced.realPackets, next]
      rfl
    · show vipTotal LbStats.v2 (countForward _ _ _ _) =
        UInt64.ofNat (state.encapsulatedBytes + pktBytes)
      rw [bytes.1, vipBytes, balanced.vipBytes, next]
    · show realTotal LbStats.v2 (countForward _ _ _ _) =
        UInt64.ofNat (state.encapsulatedBytes + pktBytes)
      rw [bytes.2, realBytes, balanced.realBytes, next]

/-- In every run of a CPU, whatever the control plane and the other CPUs do between
the packets, the counters of the VIPs and those of the reals both add up to the number
and to the bytes of the packets that were encapsulated. -/
theorem cpuRun_balanced (moves : MovesHead adjustHead) {events : List (CpuEvent Tables)}
    (numbered : ∀ event ∈ events, VipsNumbered event.control)
    (headroom : ∀ event ∈ events, Headroom event.window 40) {start : CpuState}
    (balanced : Balanced start) :
    Balanced (cpuRun ops adjustHead start events) := by
  induction events generalizing start with
  | nil => exact balanced
  | cons event rest inductionHypothesis =>
      refine inductionHypothesis (fun later member => numbered later (List.mem_cons_of_mem _ member))
        (fun later member => headroom later (List.mem_cons_of_mem _ member)) ?_
      exact balanced.step ops moves (numbered event List.mem_cons_self)
        (headroom event List.mem_cons_self)

end Runs

section Example

/-- Tables in which nothing is ever found. -/
def forgetfulTables : LruOps Unit where
  lookup _ _ _ := (none, ())
  write _ _ _ _ := ()
  update _ _ _ _ := ()

/-- One service for every address, with one real, 10.0.0.2. -/
def oneVip : Control where
  vipMap _ := some ⟨0, 1⟩
  chRings _ := 1
  reals _ := ⟨addressOfV4 0x0200000a, 0⟩
  mac := #v[2, 0, 0, 0, 0, 4]
  serverIdMap _ := 0
  lruMapping _ := true

theorem oneVip_numbered : VipsNumbered oneVip := by
  intro vip vipInfo known
  cases known
  decide

/-- A TCP segment of 40 bytes with the flag SYN. -/
def synWindow : Window where
  context := ⟨64, 118, 0, 0, 0, 0, 0, 118⟩
  memory address :=
    if address = 76 then 8
    else if address = 78 then 0x45
    else if address = 81 then 40
    else if address = 87 then 6
    else if address = 93 then 7
    else if address = 97 then 9
    else if address = 111 then 2
    else 0

theorem synWindow_headroom : Headroom synWindow 40 :=
  ⟨by decide, by decide⟩

/-- The segment at a time. -/
def synEvent (time : UInt64) : CpuEvent Unit :=
  ⟨oneVip, ⟨0, time, time⟩, synWindow, (), ⟨fun _ => 0, 0, 0⟩⟩

theorem two_segments_balanced :
    Balanced (cpuRun forgetfulTables bpftimeXdpAdjustHeadRuntime createdCpu
      [synEvent 1, synEvent 2]) :=
  cpuRun_balanced forgetfulTables bpftimeXdpAdjustHeadRuntime movesHead_runtime
    (by
      intro event member
      simp only [List.mem_cons, List.not_mem_nil, or_false] at member
      rcases member with rfl | rfl <;> exact oneVip_numbered)
    (by
      intro event member
      simp only [List.mem_cons, List.not_mem_nil, or_false] at member
      rcases member with rfl | rfl <;> exact synWindow_headroom)
    balanced_createdCpu

end Example

section Rate

variable {Tables : Type} (ops : LruOps Tables) (adjustHead : Window → Int → Nat × Window)

/-! ## The connection rate -/

/-- The counter as a limiter of fixed windows. -/
def rateWindow (connRateStats : LbStats) : FixedWindow :=
  ⟨connRateStats.v1.toNat, connRateStats.v2.toNat⟩

/-- While the clock does not run backwards and the counter does not overflow, the
check is a request to the limiter. -/
theorem checkConnRate_eq {connRateStats : LbStats} (time : UInt64)
    (begun : connRateStats.v2.toNat ≤ time.toNat) (small : connRateStats.v1.toNat + 1 < 2 ^ 64) :
    let requested := (rateWindow connRateStats).request maxConnRate.toNat oneSec.toNat time.toNat
    (checkConnRate connRateStats time).1 = !requested.1 ∧
      rateWindow (checkConnRate connRateStats time).2 = requested.2 := by
  intro requested
  have passed : (time - connRateStats.v2).toNat = time.toNat - connRateStats.v2.toNat :=
    UInt64.toNat_sub_of_le _ _ (UInt64.le_iff_toNat_le.mpr begun)
  have counted : (connRateStats.v1 + 1).toNat = connRateStats.v1.toNat + 1 := by
    rw [UInt64.toNat_add]
    exact Nat.mod_eq_of_lt small
  have fresh : oneSec < time - connRateStats.v2 ↔
      oneSec.toNat < time.toNat - connRateStats.v2.toNat := by
    rw [UInt64.lt_iff_toNat_lt, passed]
  unfold checkConnRate
  by_cases new : oneSec < time - connRateStats.v2
  · have request : requested = (true, ⟨1, time.toNat⟩) := if_pos (fresh.mp new)
    rw [if_pos new, request]
    exact ⟨rfl, rfl⟩
  · have request : requested = (decide (connRateStats.v1.toNat + 1 ≤ maxConnRate.toNat),
        ⟨connRateStats.v1.toNat + 1, connRateStats.v2.toNat⟩) :=
      if_neg (fun later => new (fresh.mpr later))
    rw [if_neg new, request]
    have exceeds : maxConnRate < connRateStats.v1 + 1 ↔
        ¬ connRateStats.v1.toNat + 1 ≤ maxConnRate.toNat := by
      rw [UInt64.lt_iff_toNat_lt, counted, Nat.not_le]
    refine ⟨?_, ?_⟩
    · show decide _ = !decide _
      rw [← decide_not]
      exact decide_eq_decide.mpr exceeds
    · show (⟨(connRateStats.v1 + 1).toNat, _⟩ : FixedWindow) = _
      rw [counted]

/-- The window of the limiter began before, and the packets so far are enough for what
it has counted. -/
structure RateKept (now packets : Nat) (state : CpuState) : Prop where
  begun : state.cpu.connRate.v2.toNat ≤ now
  counted : state.cpu.connRate.v1.toNat ≤ packets

/-- A forwarded packet leaves the connection rate alone. -/
theorem countForward_connRate (cpu : CpuMaps) {vipNum : Nat} (realIndex : Nat) (bytes : UInt64)
    (numbered : vipNum < maxVips) : (countForward cpu vipNum realIndex bytes).connRate = cpu.connRate :=
  Function.update_of_ne (by omega) _ _

/-- A packet checks the connection rate at most once, and inserts a connection only
with its consent. -/
theorem step_rateChecked (state : CpuState) {event : CpuEvent Tables}
    (numbered : VipsNumbered event.control) :
    ((state.step ops adjustHead event).cpu.connRate = state.cpu.connRate ∧
        (state.step ops adjustHead event).inserted = state.inserted) ∨
      ((state.step ops adjustHead event).cpu.connRate =
          (checkConnRate state.cpu.connRate event.arrival.floodTime).2 ∧
        (state.step ops adjustHead event).inserted ≤
          state.inserted + (!(checkConnRate state.cpu.connRate event.arrival.floodTime).1).toNat) := by
  obtain ⟨middle, chosen, forwarded⟩ := (outcome_effect ops adjustHead
    state numbered).effect
  have rate := chosen.rate
  have same : (state.step ops adjustHead event).cpu.connRate = middle.cpu.connRate ∧
      (state.step ops adjustHead event).inserted = middle.lru.2 := by
    unfold CpuState.step
    dsimp only
    rcases forwarded with ⟨maps, -⟩ |
      ⟨isIpv6, vipInfo, originalSport, pktBytes, routed, -, -, below, rfl, found, outcome⟩
    · rw [maps]
      exact ⟨rfl, rfl⟩
    · rw [outcome, forward_maps event.control adjustHead event.window isIpv6 originalSport pktBytes
        below (arrayLookup_lt found)]
      exact ⟨countForward_connRate _ _ _ below, rfl⟩
  rw [same.1, same.2]
  exact rate

theorem RateKept.step {now packets : Nat} {state : CpuState} {event : CpuEvent Tables}
    (numbered : VipsNumbered event.control) (kept : RateKept now packets state)
    (later : now ≤ event.arrival.floodTime.toNat) (few : packets + 1 < 2 ^ 64) :
    RateKept event.arrival.floodTime.toNat (packets + 1) (state.step ops adjustHead event) := by
  have begun := kept.begun
  have counted := kept.counted
  rcases step_rateChecked ops adjustHead state numbered with
    ⟨same, -⟩ | ⟨checked, -⟩
  · exact ⟨by rw [same]; omega, by rw [same]; omega⟩
  · obtain ⟨-, window⟩ := checkConnRate_eq event.arrival.floodTime
      (Nat.le_trans begun later) (Nat.lt_of_le_of_lt (Nat.succ_le_succ counted) few)
    have start := FixedWindow.request_start maxConnRate.toNat oneSec.toNat
      (Nat.le_trans begun later : (rateWindow state.cpu.connRate).start ≤ _)
    have count := FixedWindow.request_count maxConnRate.toNat oneSec.toNat
      (rateWindow state.cpu.connRate) event.arrival.floodTime.toNat
    rw [← window] at start count
    rw [← checked] at start count
    have bound : (rateWindow state.cpu.connRate).count ≤ packets := counted
    exact ⟨start, Nat.le_trans count (Nat.succ_le_succ bound)⟩

/-- The packets come in the order of the clock. -/
def Ordered (events : List (CpuEvent Tables)) : Prop :=
  events.Pairwise fun first second =>
    first.arrival.floodTime.toNat ≤ second.arrival.floodTime.toNat

end Rate

end UserspaceXdp.Katran
