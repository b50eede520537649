import UserspaceXdp.Katran.Balancer

/-!
Contract: what a packet may change in the maps of its CPU and in the connection
tables.

Owns: the counters that the choice of a real leaves alone, the check of the
connection rate and the insertion it allows, and the counters of a packet that is
forwarded.

Does not own: runs of packets.
-/

namespace UserspaceXdp.Katran

open UserspaceXdp.Foundation
open UserspaceXdp.Runtime
open UserspaceXdp.Maps

/-! ## Counters -/

def CpuMaps.connRate (cpu : CpuMaps) : LbStats :=
  cpu.stats (maxVips + newConnRateCntr)

/-- The counters of the VIPs and of the reals are as they were. -/
structure SameTraffic (before after : CpuMaps) : Prop where
  vips : ∀ index < maxVips, after.stats index = before.stats index
  reals : after.realsStats = before.realsStats

/-- Nor was the connection rate checked. -/
structure Quiet (before after : CpuMaps) : Prop extends SameTraffic before after where
  connRate : after.connRate = before.connRate

section Frames

variable {before middle after : CpuMaps}

theorem SameTraffic.refl (cpu : CpuMaps) : SameTraffic cpu cpu :=
  ⟨fun _ _ => rfl, rfl⟩

theorem SameTraffic.trans (first : SameTraffic before middle) (second : SameTraffic middle after) :
    SameTraffic before after :=
  ⟨fun index below => (second.vips index below).trans (first.vips index below),
    second.reals.trans first.reals⟩

theorem Quiet.refl (cpu : CpuMaps) : Quiet cpu cpu :=
  ⟨SameTraffic.refl cpu, rfl⟩

theorem Quiet.trans (first : Quiet before middle) (second : Quiet middle after) :
    Quiet before after :=
  ⟨first.toSameTraffic.trans second.toSameTraffic, second.connRate.trans first.connRate⟩

/-- A counter that belongs neither to a VIP nor to the connection rate. -/
theorem quiet_count (cpu : CpuMaps) {offset : Nat} (other : offset ≠ newConnRateCntr)
    (first second : UInt64) : Quiet cpu (cpu.count (maxVips + offset) first second) where
  vips index below := Function.update_of_ne (by omega) _ _
  reals := rfl
  connRate := Function.update_of_ne (by omega) _ _

theorem quiet_countQuic (cpu : CpuMaps) (advance : LbQuicPacketsStats → LbQuicPacketsStats) :
    Quiet cpu (countQuic cpu advance) :=
  ⟨⟨fun _ _ => rfl, rfl⟩, rfl⟩

theorem quiet_incrServerIdRoutingStats (cpu : CpuMaps) (vipNum : Nat)
    (newConn misMatchInLru : Bool) :
    Quiet cpu (incrServerIdRoutingStats cpu vipNum newConn misMatchInLru) := by
  unfold incrServerIdRoutingStats
  split
  · exact ⟨⟨fun _ _ => rfl, rfl⟩, rfl⟩
  · exact Quiet.refl cpu

theorem quiet_countServerIdRouted (vipNum : Nat) (result : DstInLru) (cpu : CpuMaps) :
    Quiet cpu (countServerIdRouted vipNum result cpu) := by
  unfold countServerIdRouted
  refine Quiet.trans ?_ (quiet_countQuic _ _)
  cases result with
  | dstMatchInLru => exact quiet_countQuic _ _
  | dstMismatchInLru =>
      exact (quiet_countQuic _ _).trans (quiet_incrServerIdRoutingStats _ _ _ _)
  | dstNotFoundInLru => exact quiet_countQuic _ _

theorem isUnderFlood_sameTraffic (cpu : CpuMaps) (curTime : UInt64) :
    SameTraffic cpu (isUnderFlood cpu curTime).2 where
  vips index below := Function.update_of_ne (by omega) _ _
  reals := rfl

theorem isUnderFlood_connRate (cpu : CpuMaps) (curTime : UInt64) :
    (isUnderFlood cpu curTime).2.connRate = (checkConnRate cpu.connRate curTime).2 :=
  Function.update_self (maxVips + newConnRateCntr) _ cpu.stats

end Frames

/-! ## Parsing -/

/-- The length in an IPv4 header, and the length of the payload in an IPv6 header. -/
def headerBytes (memory : Memory) (header : Nat) (isIpv6 : Bool) : Nat :=
  if isIpv6 then Programs.bpfNtohs (memory.loadWord (header + 4) 2)
  else Programs.bpfNtohs (memory.loadWord (header + 2) 2)

/-- The type of service, or the traffic class. -/
def headerTos (memory : Memory) (header : Nat) (isIpv6 : Bool) : UInt8 :=
  if isIpv6 then (memory header &&& 0x0f) <<< 4 ||| memory (header + 1) >>> 4
  else memory (header + 1)

/-- The maps of the CPU after parsing. -/
def Stage.cpu {Value : Type} : Stage Value → CpuMaps
  | .verdict _ _ cpu => cpu
  | .further _ cpu => cpu

section Parsing

variable (memory : Memory) (data dataEnd off : Nat) (cpu : CpuMaps)

theorem quiet_countPtb {index : Nat} (other : index ≠ newConnRateCntr) (mtu : Nat) :
    Quiet cpu (countPtb cpu index mtu) :=
  quiet_count cpu other _ _

theorem quiet_parseIcmp (pckt : PacketDescription) :
    Quiet cpu (parseIcmp memory data dataEnd off pckt cpu).cpu := by
  unfold parseIcmp
  dsimp only
  split_ifs <;> first | exact Quiet.refl cpu | exact quiet_countPtb cpu (by decide) _

theorem quiet_parseIcmpv6 (pckt : PacketDescription) :
    Quiet cpu (parseIcmpv6 memory data dataEnd off pckt cpu).cpu := by
  unfold parseIcmpv6
  dsimp only
  split_ifs <;> first | exact Quiet.refl cpu | exact quiet_countPtb cpu (by decide) _

theorem withBytes_cpu (stage : Stage PacketDescription) (pktBytes : Nat) :
    (stage.withBytes pktBytes).cpu = stage.cpu := by
  cases stage with
  | verdict action memory cpu => rfl
  | further pckt cpu => rfl

theorem quiet_processL3Headers (isIpv6 : Bool) :
    Quiet cpu (processL3Headers memory data dataEnd off isIpv6 cpu).cpu := by
  unfold processL3Headers processIpv6Headers processIpv4Headers
  dsimp only
  split_ifs <;>
    first
    | exact Quiet.refl cpu
    | rw [withBytes_cpu]; first | exact quiet_parseIcmp .. | exact quiet_parseIcmpv6 ..

/-- Parsing counts path MTU messages only. -/
theorem quiet_parsePacket (isIpv6 : Bool) :
    Quiet cpu (parsePacket memory data dataEnd off isIpv6 cpu).cpu := by
  have l3 := quiet_processL3Headers memory data dataEnd off cpu isIpv6
  unfold parsePacket
  split
  · rename_i action memory' cpu' parsed
    rw [parsed] at l3
    exact l3
  · rename_i pckt pktBytes cpu' parsed
    rw [parsed] at l3
    split_ifs
    · split
      · exact l3
      · exact l3
    · split
      · exact l3
      · exact l3
    · exact l3

/-- A stage that goes on has read these from the header. -/
def Reads (pktBytes : Nat) (tos : UInt8) (stage : Stage (PacketDescription × Nat)) : Prop :=
  ∀ value cpu, stage = .further value cpu → value.2 = pktBytes ∧ value.1.tos = tos

theorem parseIcmp_tos {pckt read : PacketDescription} {after : CpuMaps}
    (parsed : parseIcmp memory data dataEnd off pckt cpu = .further read after) :
    read.tos = pckt.tos := by
  unfold parseIcmp at parsed
  dsimp only at parsed
  split_ifs at parsed <;> cases parsed <;> rfl

theorem parseIcmpv6_tos {pckt read : PacketDescription} {after : CpuMaps}
    (parsed : parseIcmpv6 memory data dataEnd off pckt cpu = .further read after) :
    read.tos = pckt.tos := by
  unfold parseIcmpv6 at parsed
  dsimp only at parsed
  split_ifs at parsed <;> cases parsed <;> rfl

theorem withBytes_reads {stage : Stage PacketDescription} {pktBytes : Nat} {tos : UInt8}
    (kept : ∀ pckt cpu, stage = .further pckt cpu → pckt.tos = tos) :
    Reads pktBytes tos (stage.withBytes pktBytes) := by
  intro value cpu read
  cases stage with
  | verdict action memory cpu => cases read
  | further pckt cpu =>
      cases read
      exact ⟨rfl, kept pckt cpu rfl⟩

theorem verdict_reads {memory : Memory} {cpu : CpuMaps} {pktBytes action : Nat} {tos : UInt8} :
    Reads pktBytes tos (.verdict action memory cpu) := by
  intro value after read
  cases read

theorem further_reads {pckt : PacketDescription} {pktBytes : Nat} {tos : UInt8}
    (kept : pckt.tos = tos) : Reads pktBytes tos (.further (pckt, pktBytes) cpu) := by
  intro value after read
  cases read
  exact ⟨rfl, kept⟩

theorem processL3Headers_reads (isIpv6 : Bool) :
    Reads (headerBytes memory (data + off) isIpv6) (headerTos memory (data + off) isIpv6)
      (processL3Headers memory data dataEnd off isIpv6 cpu) := by
  cases isIpv6 with
  | true =>
      show Reads _ _ (processIpv6Headers memory data dataEnd off cpu)
      unfold processIpv6Headers
      dsimp only
      split_ifs
      · exact verdict_reads
      · exact verdict_reads
      · exact withBytes_reads fun pckt after parsed => parseIcmpv6_tos _ _ _ _ _ parsed
      · exact further_reads cpu rfl
  | false =>
      show Reads _ _ (processIpv4Headers memory data dataEnd off cpu)
      unfold processIpv4Headers
      dsimp only
      split_ifs
      · exact verdict_reads
      · exact verdict_reads
      · exact verdict_reads
      · exact withBytes_reads fun pckt after parsed => parseIcmp_tos _ _ _ _ _ parsed
      · exact further_reads cpu rfl

theorem parsePacket_reads (isIpv6 : Bool) :
    Reads (headerBytes memory (data + off) isIpv6) (headerTos memory (data + off) isIpv6)
      (parsePacket memory data dataEnd off isIpv6 cpu) := by
  have l3 := processL3Headers_reads memory data dataEnd off cpu isIpv6
  unfold parsePacket
  split
  · exact verdict_reads
  · rename_i pckt pktBytes after parsed
    obtain ⟨bytes, tos⟩ := l3 _ _ parsed
    rw [← bytes]
    split_ifs
    · split
      · exact verdict_reads
      · rename_i read tcp
        unfold parseTcp at tcp
        dsimp only at tcp
        split_ifs at tcp
        cases tcp
        exact further_reads after tos
    · split
      · exact verdict_reads
      · rename_i read udp
        unfold parseUdp at udp
        dsimp only at udp
        split_ifs at udp
        cases udp
        exact further_reads after tos
    · exact verdict_reads

end Parsing

/-! ## Packets that keep their place -/

/-- An unfragmented IPv4 packet without options that is an echo request. -/
structure EchoRequest (xdp : Window) : Prop where
  whole : xdp.context.data + 42 ≤ xdp.context.dataEnd
  type : xdp.memory.loadWord (xdp.context.data + 12) 2 = beEthPIp
  ihl : (xdp.memory (xdp.context.data + 14)).toNat % 16 = 5
  unfragmented : xdp.memory.loadWord (xdp.context.data + 20) 2 &&& pcktFragmented = 0
  protocol : xdp.memory (xdp.context.data + 23) = ipprotoIcmp
  request : xdp.memory (xdp.context.data + 34) = icmpEcho

/-- An IPv6 packet whose next header is that of an echo request. -/
structure EchoRequest6 (xdp : Window) : Prop where
  whole : xdp.context.data + 62 ≤ xdp.context.dataEnd
  type : xdp.memory.loadWord (xdp.context.data + 12) 2 = beEthPIpv6
  nextHeader : xdp.memory (xdp.context.data + 20) = ipprotoIcmpv6
  request : xdp.memory (xdp.context.data + 54) = icmpv6EchoRequest

/-- A packet that is not forwarded: it is passed or dropped as it is, or it is an echo
request and answered. -/
def Settled (xdp : Window) (verdict : Nat) (window : Window) : Prop :=
  (verdict = xdpPass ∨ verdict = xdpDrop) ∧ window = xdp ∨
    verdict = xdpTx ∧
      (EchoRequest xdp ∧ window = { xdp with memory := icmpReply xdp.memory xdp.context.data } ∨
        EchoRequest6 xdp ∧ window = { xdp with memory := icmp6Reply xdp.memory xdp.context.data })

section Settled

variable {xdp : Window}

theorem Settled.context {verdict : Nat} {window : Window} (settled : Settled xdp verdict window) :
    window.context = xdp.context := by
  rcases settled with ⟨-, same⟩ | ⟨-, ⟨-, same⟩ | ⟨-, same⟩⟩
  · rw [same]
  · rw [same]
  · rw [same]

theorem settled_drop (xdp : Window) : Settled xdp xdpDrop xdp :=
  Or.inl ⟨Or.inr rfl, rfl⟩

theorem settled_pass (xdp : Window) : Settled xdp xdpPass xdp :=
  Or.inl ⟨Or.inl rfl, rfl⟩

/-- A verdict at this stage settles the packet. -/
def Stage.Settles {Value : Type} (xdp : Window) (stage : Stage Value) : Prop :=
  ∀ action memory cpu, stage = .verdict action memory cpu → Settled xdp action { xdp with memory }

theorem settles_drop {Value : Type} (xdp : Window) (cpu : CpuMaps) :
    Stage.Settles xdp (.verdict xdpDrop xdp.memory cpu : Stage Value) := by
  rintro action memory after ⟨⟩
  exact settled_drop xdp

theorem settles_pass {Value : Type} (xdp : Window) (cpu : CpuMaps) :
    Stage.Settles xdp (.verdict xdpPass xdp.memory cpu : Stage Value) := by
  rintro action memory after ⟨⟩
  exact settled_pass xdp

theorem settles_further {Value : Type} (xdp : Window) (value : Value) (cpu : CpuMaps) :
    Stage.Settles xdp (.further value cpu) := by
  rintro action memory after ⟨⟩

theorem Stage.Settles.withBytes {stage : Stage PacketDescription} (settles : stage.Settles xdp)
    (pktBytes : Nat) : (stage.withBytes pktBytes).Settles xdp := by
  cases stage with
  | verdict action memory cpu =>
      rintro _ _ _ ⟨⟩
      exact settles _ _ _ rfl
  | further pckt cpu => exact settles_further xdp _ cpu

theorem settles_parseIcmp
    (echo : xdp.context.data + 42 ≤ xdp.context.dataEnd →
      xdp.memory (xdp.context.data + 34) = icmpEcho → EchoRequest xdp)
    (pckt : PacketDescription) (cpu : CpuMaps) :
    (parseIcmp xdp.memory xdp.context.data xdp.context.dataEnd 34 pckt cpu).Settles xdp := by
  unfold parseIcmp sendIcmpReply
  dsimp only
  generalize (if xdp.memory _ = icmpFragNeeded then _ else cpu : CpuMaps) = counted
  split_ifs with short request other cut options
  · exact settles_drop xdp cpu
  · rintro action memory after ⟨⟩
    exact Or.inr ⟨rfl, Or.inl ⟨echo (Nat.not_lt.mp short) request, rfl⟩⟩
  · exact settles_pass xdp cpu
  · exact settles_drop xdp counted
  · exact settles_drop xdp counted
  · exact settles_further xdp _ counted

theorem settles_parseIcmpv6
    (echo : xdp.context.data + 62 ≤ xdp.context.dataEnd →
      xdp.memory (xdp.context.data + 54) = icmpv6EchoRequest → EchoRequest6 xdp)
    (pckt : PacketDescription) (cpu : CpuMaps) :
    (parseIcmpv6 xdp.memory xdp.context.data xdp.context.dataEnd 54 pckt cpu).Settles xdp := by
  unfold parseIcmpv6 sendIcmp6Reply
  dsimp only
  generalize (if xdp.memory _ = icmpv6PktToobig then _ else cpu : CpuMaps) = counted
  split_ifs with short request other cut
  · exact settles_drop xdp cpu
  · rintro action memory after ⟨⟩
    exact Or.inr ⟨rfl, Or.inr ⟨echo (Nat.not_lt.mp short) request, rfl⟩⟩
  · exact settles_pass xdp cpu
  · exact settles_drop xdp counted
  · exact settles_further xdp _ counted

theorem settles_processL3Headers (isIpv6 : Bool)
    (type : xdp.memory.loadWord (xdp.context.data + 12) 2 =
      if isIpv6 then beEthPIpv6 else beEthPIp) (cpu : CpuMaps) :
    (processL3Headers xdp.memory xdp.context.data xdp.context.dataEnd 14 isIpv6 cpu).Settles xdp := by
  cases isIpv6 with
  | true =>
      show (processIpv6Headers _ _ _ _ _).Settles xdp
      unfold processIpv6Headers
      dsimp only
      split_ifs with short fragment icmp
      · exact settles_drop xdp cpu
      · exact settles_drop xdp cpu
      · exact (settles_parseIcmpv6 (fun whole request => ⟨whole, type, icmp, request⟩) _ cpu).withBytes _
      · exact settles_further xdp _ cpu
  | false =>
      show (processIpv4Headers _ _ _ _ _).Settles xdp
      unfold processIpv4Headers
      dsimp only
      split_ifs with short options fragment icmp
      · exact settles_drop xdp cpu
      · exact settles_drop xdp cpu
      · exact settles_drop xdp cpu
      · exact (settles_parseIcmp (fun whole request =>
          ⟨whole, type, not_not.mp options, not_not.mp fragment, icmp, request⟩) _ cpu).withBytes _
      · exact settles_further xdp _ cpu

theorem settles_parsePacket (isIpv6 : Bool)
    (type : xdp.memory.loadWord (xdp.context.data + 12) 2 =
      if isIpv6 then beEthPIpv6 else beEthPIp) (cpu : CpuMaps) :
    (parsePacket xdp.memory xdp.context.data xdp.context.dataEnd 14 isIpv6 cpu).Settles xdp := by
  have l3 := settles_processL3Headers isIpv6 type cpu
  unfold parsePacket
  split
  · rename_i action memory after parsed
    rintro _ _ _ ⟨⟩
    exact l3 _ _ _ parsed
  · split_ifs
    · split
      · exact settles_drop xdp _
      · exact settles_further xdp _ _
    · split
      · exact settles_drop xdp _
      · exact settles_further xdp _ _
    · exact settles_pass xdp _

end Settled

/-! ## Insertions -/

/-- A measure of the tables that lookups and stores through pointers leave alone, and
that an insertion raises by one at most. -/
structure Measures {Tables : Type} (ops : LruOps Tables) (insertions : Tables → Nat) : Prop where
  lookup : ∀ tables id key, insertions (ops.lookup tables id key).2 = insertions tables
  write : ∀ tables id key value, insertions (ops.write tables id key value) = insertions tables
  update : ∀ tables id key value,
    insertions (ops.update tables id key value) ≤ insertions tables + 1

/-- The tables with a counter of the insertions. -/
def LruOps.counting {Tables : Type} (ops : LruOps Tables) : LruOps (Tables × Nat) where
  lookup tables id key :=
    let looked := ops.lookup tables.1 id key
    (looked.1, looked.2, tables.2)
  write tables id key value := (ops.write tables.1 id key value, tables.2)
  update tables id key value := (ops.update tables.1 id key value, tables.2 + 1)

theorem measures_counting {Tables : Type} (ops : LruOps Tables) :
    Measures ops.counting Prod.snd where
  lookup _ _ _ := rfl
  write _ _ _ _ := rfl
  update _ _ _ _ := Nat.le_refl _

section Choice

variable {Tables : Type} {insertions : Tables → Nat}

/-- The connection rate is not checked and nothing is inserted, or it is checked once,
and an insertion needs its consent. -/
def RateChecked (insertions : Tables → Nat) (time : UInt64) (before after : BalancerMaps Tables) :
    Prop :=
  (after.cpu.connRate = before.cpu.connRate ∧ insertions after.lru = insertions before.lru) ∨
    (after.cpu.connRate = (checkConnRate before.cpu.connRate time).2 ∧
      insertions after.lru ≤
        insertions before.lru + (!(checkConnRate before.cpu.connRate time).1).toNat)

/-- What the choice of a real may do. -/
structure Chosen (insertions : Tables → Nat) (time : UInt64) (before after : BalancerMaps Tables) :
    Prop where
  traffic : SameTraffic before.cpu after.cpu
  rate : RateChecked insertions time before after

/-- Nothing but counters and what no insertion is. -/
structure Silent (insertions : Tables → Nat) (before after : BalancerMaps Tables) : Prop where
  quiet : Quiet before.cpu after.cpu
  lru : insertions after.lru = insertions before.lru

variable {time : UInt64} {before middle after : BalancerMaps Tables}

theorem Silent.chosen (silent : Silent insertions before after) :
    Chosen insertions time before after :=
  ⟨silent.quiet.toSameTraffic, Or.inl ⟨silent.quiet.connRate, silent.lru⟩⟩

theorem Silent.trans_chosen (silent : Silent insertions before middle)
    (chosen : Chosen insertions time middle after) : Chosen insertions time before after := by
  refine ⟨silent.quiet.toSameTraffic.trans chosen.traffic, ?_⟩
  have rate := chosen.rate
  unfold RateChecked at rate ⊢
  rwa [silent.quiet.connRate, silent.lru] at rate

theorem Chosen.trans_silent (chosen : Chosen insertions time before middle)
    (silent : Silent insertions middle after) : Chosen insertions time before after := by
  refine ⟨chosen.traffic.trans silent.quiet.toSameTraffic, ?_⟩
  have rate := chosen.rate
  unfold RateChecked at rate ⊢
  rwa [silent.quiet.connRate, silent.lru]

theorem Silent.refl (maps : BalancerMaps Tables) : Silent insertions maps maps :=
  ⟨Quiet.refl _, rfl⟩

/-- Counters alone. -/
theorem silent_of_quiet {cpu : CpuMaps} {vipMissStats : VipDefinition}
    (quiet : Quiet before.cpu cpu) : Silent insertions before ⟨cpu, before.lru, vipMissStats⟩ :=
  ⟨quiet, rfl⟩

end Choice

section Routes

variable {Tables : Type} {ops : LruOps Tables} {insertions : Tables → Nat}
variable (measures : Measures ops insertions) (control : Control) (arrival : Arrival)

/-- A real that was found is the one at the index that is recorded, and the type of
service is kept. -/
structure Routing.Found (control : Control) (tos : UInt8) (routing : Routing Tables) : Prop where
  real : ∀ real, routing.dst = some real →
    arrayLookup control.reals maxReals routing.pckt.realIndex.toNat = some real
  tos : routing.pckt.tos = tos

theorem found_none {tos : UInt8} {pckt : PacketDescription} (kept : pckt.tos = tos)
    (maps : BalancerMaps Tables) : Routing.Found control tos ⟨none, pckt, maps⟩ := by
  refine ⟨?_, kept⟩
  intro real absent
  cases absent

theorem found_some {real : RealDefinition} {tos : UInt8} {pckt : PacketDescription}
    (known : arrayLookup control.reals maxReals pckt.realIndex.toNat = some real)
    (kept : pckt.tos = tos) (maps : BalancerMaps Tables) :
    Routing.Found control tos ⟨some real, pckt, maps⟩ := by
  refine ⟨?_, kept⟩
  intro chosen same
  cases same
  exact known

include measures

/-- The ring checks the connection rate. -/
theorem getPacketDst_chosen (pckt : PacketDescription) (vipInfo : VipMeta) (isIpv6 : Bool)
    (lruMap : Option Nat) (maps : BalancerMaps Tables) :
    Chosen insertions arrival.floodTime maps
        (getPacketDst ops control arrival pckt vipInfo isIpv6 lruMap maps).maps ∧
      (getPacketDst ops control arrival pckt vipInfo isIpv6 lruMap maps).Found control
        pckt.tos := by
  have rate := isUnderFlood_connRate maps.cpu arrival.floodTime
  have checked : Chosen insertions arrival.floodTime maps
      { maps with cpu := (isUnderFlood maps.cpu arrival.floodTime).2 } :=
    ⟨isUnderFlood_sameTraffic _ _, Or.inr ⟨rate, Nat.le_add_right _ _⟩⟩
  have counted {cpu : CpuMaps} (quiet : Quiet (isUnderFlood maps.cpu arrival.floodTime).2 cpu) :
      Chosen insertions arrival.floodTime maps { maps with cpu := cpu } :=
    checked.trans_silent (silent_of_quiet quiet)
  unfold getPacketDst
  dsimp only
  split
  · exact ⟨checked, found_none control (by rfl) _⟩
  · rename_i realPos ring
    have realZero : Quiet (isUnderFlood maps.cpu arrival.floodTime).2
        (if realPos = 0 then
          (isUnderFlood maps.cpu arrival.floodTime).2.count (maxVips + chDropStats) 0 1
        else (isUnderFlood maps.cpu arrival.floodTime).2) := by
      split
      · exact quiet_count _ (by decide) _ _
      · exact Quiet.refl _
    split
    · exact ⟨counted (realZero.trans (quiet_count _ (by decide) _ _)), found_none control (by rfl) _⟩
    · rename_i real known
      split
      · exact ⟨counted realZero, found_some control known (by rfl) _⟩
      · rename_i admitted
        rw [Bool.or_eq_true, not_or, Bool.not_eq_true, Bool.not_eq_true] at admitted
        refine ⟨⟨(counted realZero).traffic, Or.inr ⟨realZero.connRate.trans rate, ?_⟩⟩,
          found_some control known (by rfl) _⟩
        have consent : (checkConnRate maps.cpu.connRate arrival.floodTime).1 = false := admitted.2
        rw [consent]
        exact measures.update _ _ _ _

/-- The connection table does not. -/
theorem connectionTableLookup_silent (pckt : PacketDescription) (lruMap : Option Nat)
    (maps : BalancerMaps Tables) :
    Silent insertions maps
        (connectionTableLookup ops control arrival pckt lruMap maps).maps ∧
      (connectionTableLookup ops control arrival pckt lruMap maps).Found control pckt.tos := by
  have looked := measures.lookup maps.lru lruMap pckt.flow
  unfold connectionTableLookup
  dsimp only
  split
  · exact ⟨⟨Quiet.refl _, looked⟩, found_none control (by rfl) _⟩
  · split
    · exact ⟨⟨Quiet.refl _, looked⟩, found_none control (by rfl) _⟩
    · refine ⟨⟨Quiet.refl _, ?_⟩, fun real found => found, rfl⟩
      dsimp only
      split
      · exact (measures.write _ _ _ _).trans looked
      · exact looked

theorem checkAndUpdate_chosen (pckt : PacketDescription) (lruMap : Option Nat)
    (maps : BalancerMaps Tables) :
    Chosen insertions arrival.floodTime maps
      (checkAndUpdateRealIndexInLru ops arrival pckt lruMap maps).2 := by
  have looked := measures.lookup maps.lru lruMap pckt.flow
  have rate := isUnderFlood_connRate maps.cpu arrival.floodTime
  have traffic := isUnderFlood_sameTraffic maps.cpu arrival.floodTime
  unfold checkAndUpdateRealIndexInLru
  dsimp only
  split
  · split
    · exact Silent.chosen ⟨Quiet.refl _, looked⟩
    · exact Silent.chosen ⟨Quiet.refl _, (measures.write _ _ _ _).trans looked⟩
  · split
    · exact ⟨traffic, Or.inr ⟨rate, by rw [looked]; exact Nat.le_add_right _ _⟩⟩
    · rename_i admitted
      have consent : (checkConnRate maps.cpu.connRate arrival.floodTime).1 = false :=
        Bool.not_eq_true _ ▸ admitted
      refine ⟨traffic, Or.inr ⟨rate, ?_⟩⟩
      rw [consent, ← looked]
      exact measures.update _ _ _ _

/-- What the branch of the QUIC services does: as long as it does not find a real, it
does not check the connection rate. -/
def QuicEffect (insertions : Tables → Nat) (control : Control) (time : UInt64) (tos : UInt8)
    (before : BalancerMaps Tables) :
    Except (BalancerMaps Tables) (Routing Tables) → Prop
  | .error after => Chosen insertions time before after
  | .ok routing =>
      Chosen insertions time before routing.maps ∧ routing.Found control tos ∧
        (routing.dst = none → Silent insertions before routing.maps)

def RoutedEffect (insertions : Tables → Nat) (control : Control) (time : UInt64) (tos : UInt8)
    (before : BalancerMaps Tables) :
    Except (BalancerMaps Tables) (Routed Tables) → Prop
  | .error after => Chosen insertions time before after
  | .ok routed =>
      Chosen insertions time before routed.maps ∧
        arrayLookup control.reals maxReals routed.pckt.realIndex.toNat = some routed.dst ∧
          routed.pckt.tos = tos

omit measures in
theorem RoutedEffect.of_silent {time : UInt64} {tos : UInt8} {before middle : BalancerMaps Tables}
    {result : Except (BalancerMaps Tables) (Routed Tables)}
    (silent : Silent insertions before middle)
    (effect : RoutedEffect insertions control time tos middle result) :
    RoutedEffect insertions control time tos before result := by
  cases result with
  | error after => exact silent.trans_chosen effect
  | ok routed => exact ⟨silent.trans_chosen effect.1, effect.2⟩

theorem serverIdRoute_effect (vipInfo : VipMeta) (lruMap : Option Nat) (serverId : Nat)
    (pckt : PacketDescription) (maps : BalancerMaps Tables) :
    QuicEffect insertions control arrival.floodTime pckt.tos maps
      (serverIdRoute ops control arrival vipInfo lruMap serverId pckt maps) := by
  have invalid : QuicEffect insertions control arrival.floodTime pckt.tos maps
      (.ok ⟨none, pckt, { maps with cpu := countQuic maps.cpu (invalidServerId serverId) }⟩) := by
    have silent : Silent insertions maps
        { maps with cpu := countQuic maps.cpu (invalidServerId serverId) } :=
      silent_of_quiet (quiet_countQuic _ _)
    exact ⟨silent.chosen, found_none control (by rfl) _, fun _ => silent⟩
  unfold serverIdRoute
  split
  · exact invalid
  · split
    · exact invalid
    · dsimp only
      split
      · exact Silent.chosen (silent_of_quiet (quiet_countQuic _ _))
      · rename_i real known
        refine ⟨?_, found_some control known (by rfl) _,
          fun none => by cases none⟩
        exact (checkAndUpdate_chosen measures arrival _ lruMap maps).trans_silent
          (silent_of_quiet (quiet_countServerIdRouted _ _ _))

theorem quicRoute_effect (memory : Memory) (data dataEnd : Nat) (isIpv6 : Bool)
    (vipInfo : VipMeta) (lruMap : Option Nat) (pckt : PacketDescription)
    (maps : BalancerMaps Tables) :
    QuicEffect insertions control arrival.floodTime pckt.tos maps
      (quicRoute ops control arrival memory data dataEnd isIpv6 vipInfo lruMap pckt maps) := by
  have unrouted {cpu : CpuMaps} (quiet : Quiet maps.cpu cpu) :
      QuicEffect insertions control arrival.floodTime pckt.tos maps
        (.ok ⟨none, pckt, { maps with cpu := cpu }⟩) := by
    have silent : Silent insertions maps { maps with cpu := cpu } := silent_of_quiet quiet
    exact ⟨silent.chosen, found_none control (by rfl) _, fun _ => silent⟩
  unfold quicRoute
  split
  · exact unrouted (quiet_count _ (by decide) _ _)
  · dsimp only
    split
    · have counted (advance : LbQuicPacketsStats → LbQuicPacketsStats) :
          Silent insertions maps { maps with cpu := countQuic maps.cpu advance } :=
        silent_of_quiet (quiet_countQuic _ _)
      generalize incrementQuicCidVersionStats = advance
      have effect := serverIdRoute_effect measures control arrival vipInfo lruMap
        (parseQuic memory data dataEnd isIpv6 pckt).serverId.toNat pckt
        { maps with
          cpu := countQuic maps.cpu fun stats =>
            advance stats (parseQuic memory data dataEnd isIpv6 pckt).cidVersion }
      generalize serverIdRoute _ _ _ _ _ _ _ _ = result at effect ⊢
      cases result with
      | error after => exact (counted _).trans_chosen effect
      | ok routing =>
          obtain ⟨chosen, found, silent⟩ := effect
          refine ⟨(counted _).trans_chosen chosen, found, fun none => ?_⟩
          have quiet := (counted _).quiet.trans (silent none).quiet
          exact ⟨quiet, (silent none).lru⟩
    · split
      · exact unrouted (quiet_countQuic _ _)
      · exact unrouted ((quiet_countQuic _ _).trans (quiet_incrServerIdRoutingStats _ _ _ _))

omit measures in
variable (insertions) in
theorem updateVipLruMissStats_silent (vip : VipDefinition) (pckt : PacketDescription)
    (isIpv6 : Bool) (maps : BalancerMaps Tables) :
    match updateVipLruMissStats vip pckt isIpv6 maps with
    | .error after => Silent insertions maps after
    | .ok after => Silent insertions maps after := by
  have stored : Silent insertions maps
      { maps with vipMissStats := { maps.vipMissStats with proto := vip.proto } } :=
    ⟨Quiet.refl _, rfl⟩
  unfold updateVipLruMissStats
  dsimp only
  split
  · rename_i after result
    split_ifs at result
    · cases result
      exact stored
  · rename_i after result
    split_ifs at result
    · cases result
      exact ⟨⟨⟨fun _ _ => rfl, rfl⟩, rfl⟩, rfl⟩
    · cases result
      exact stored

theorem ringRoute_effect (vip : VipDefinition) (vipInfo : VipMeta) (isIpv6 : Bool)
    (lruMap : Option Nat) (pckt : PacketDescription) (maps : BalancerMaps Tables) :
    RoutedEffect insertions control arrival.floodTime pckt.tos maps
      (ringRoute ops control arrival vip vipInfo isIpv6 lruMap pckt maps) := by
  have missed : Quiet maps.cpu
      (if pckt.flow.proto = ipprotoTcp then
        if pckt.synSet then maps.cpu.count (maxVips + lruMissCntr) 1 0
        else maps.cpu.count (maxVips + lruMissCntr) 0 1
      else maps.cpu) := by
    split_ifs
    · exact quiet_count _ (by decide) _ _
    · exact quiet_count _ (by decide) _ _
    · exact Quiet.refl _
  unfold ringRoute
  dsimp only
  generalize (if pckt.flow.proto = ipprotoTcp then
        if pckt.synSet then maps.cpu.count (maxVips + lruMissCntr) 1 0
        else maps.cpu.count (maxVips + lruMissCntr) 0 1
      else maps.cpu) = cpu at missed ⊢
  obtain ⟨chosen, found⟩ := getPacketDst_chosen measures control arrival pckt vipInfo isIpv6
    lruMap { maps with cpu := cpu }
  generalize getPacketDst _ _ _ _ _ _ _ _ = routing at chosen found ⊢
  have counted : Silent insertions maps { maps with cpu := cpu } := silent_of_quiet missed
  refine RoutedEffect.of_silent control counted ?_
  split
  · exact chosen
  · rename_i dst known
    have counted := updateVipLruMissStats_silent insertions vip routing.pckt isIpv6 routing.maps
    split
    · rename_i after result
      rw [result] at counted
      exact chosen.trans_silent counted
    · rename_i after result
      rw [result] at counted
      exact ⟨(chosen.trans_silent counted).trans_silent
        (silent_of_quiet (quiet_count _ (by decide) _ _)), found.real dst known, found.tos⟩

theorem tableRoute_effect (vip : VipDefinition) (vipInfo : VipMeta) (isIpv6 : Bool)
    (lruMap : Option Nat) (pckt : PacketDescription) (maps : BalancerMaps Tables) :
    RoutedEffect insertions control arrival.floodTime pckt.tos maps
      (tableRoute ops control arrival vip vipInfo isIpv6 lruMap pckt maps) := by
  have looked : Silent insertions maps
        (if pckt.synSet || vipInfo.has fLruBypass then ⟨none, pckt, maps⟩
          else connectionTableLookup ops control arrival pckt lruMap maps : Routing Tables).maps ∧
      (if pckt.synSet || vipInfo.has fLruBypass then ⟨none, pckt, maps⟩
        else connectionTableLookup ops control arrival pckt lruMap maps :
          Routing Tables).Found control pckt.tos := by
    split
    · exact ⟨Silent.refl maps, found_none control (by rfl) maps⟩
    · exact connectionTableLookup_silent measures control arrival pckt lruMap maps
  unfold tableRoute
  dsimp only
  generalize (if pckt.synSet || vipInfo.has fLruBypass then ⟨none, pckt, maps⟩
    else connectionTableLookup ops control arrival pckt lruMap maps : Routing Tables) = routing
    at looked ⊢
  obtain ⟨silent, found⟩ := looked
  split
  · rename_i dst known
    exact ⟨silent.chosen, found.real dst known, found.tos⟩
  · rw [← found.tos]
    exact RoutedEffect.of_silent control silent
      (ringRoute_effect measures control arrival vip vipInfo isIpv6 lruMap _ _)

theorem chooseReal_effect (memory : Memory) (data dataEnd : Nat) (isIpv6 : Bool)
    (vip : VipDefinition) (vipInfo : VipMeta) (lruMap : Option Nat) (pckt : PacketDescription)
    (maps : BalancerMaps Tables) :
    RoutedEffect insertions control arrival.floodTime pckt.tos maps
      (chooseReal ops control arrival memory data dataEnd isIpv6 vip vipInfo lruMap pckt maps) := by
  have quic : QuicEffect insertions control arrival.floodTime pckt.tos maps
      (if vipInfo.has fQuicVip then
        quicRoute ops control arrival memory data dataEnd isIpv6 vipInfo lruMap pckt maps
      else .ok ⟨none, pckt, maps⟩) := by
    split
    · exact quicRoute_effect measures control arrival memory data dataEnd isIpv6 vipInfo lruMap
        pckt maps
    · exact ⟨(Silent.refl maps).chosen, found_none control (by rfl) maps, fun _ => Silent.refl maps⟩
  unfold chooseReal
  dsimp only
  split
  · rename_i after result
    rw [result] at quic
    exact quic
  · rename_i routing result
    rw [result] at quic
    obtain ⟨chosen, found, silent⟩ := quic
    split
    · rename_i dst known
      exact ⟨chosen, found.real dst known, found.tos⟩
    · rename_i unrouted
      rw [← found.tos]
      exact RoutedEffect.of_silent control (silent unrouted)
        (tableRoute_effect measures control arrival vip vipInfo isIpv6 lruMap _ _)

end Routes

/-! ## The program -/

/-- The counters of a packet that is forwarded. -/
def countForward (cpu : CpuMaps) (vipNum realIndex : Nat) (bytes : UInt64) : CpuMaps :=
  let cpu := cpu.count vipNum 1 bytes
  let counted := (cpu.realsStats realIndex).add 1 bytes
  { cpu with realsStats := Function.update cpu.realsStats realIndex counted }

/-- Every VIP has a number below the number of VIPs. -/
def VipsNumbered (control : Control) : Prop :=
  ∀ vip vipInfo, control.vipMap vip = some vipInfo → vipInfo.vipNum.toNat < maxVips

/-- The length and the type of service that the header of the received packet has. -/
structure Received (xdp : Window) (isIpv6 : Bool) (pktBytes : Nat) (tos : UInt8) : Prop where
  type : xdp.memory.loadWord (xdp.context.data + 12) 2 = if isIpv6 then beEthPIpv6 else beEthPIp
  pktBytes : pktBytes = headerBytes xdp.memory (xdp.context.data + 14) isIpv6
  tos : tos = headerTos xdp.memory (xdp.context.data + 14) isIpv6

/-- What a packet does: a real may be chosen for it, and it is then forwarded to that
real, or it is settled where it is and not counted. -/
structure PacketEffect {Tables : Type} (insertions : Tables → Nat) (control : Control)
    (time : UInt64) (adjustHead : Window → Int → Nat × Window) (xdp : Window)
    (before : BalancerMaps Tables) (outcome : Outcome Tables) : Prop where
  effect : ∃ middle, Chosen insertions time before middle ∧
    ((outcome.maps = middle ∧ Settled xdp outcome.verdict outcome.window) ∨
      ∃ isIpv6 vipInfo originalSport pktBytes routed,
        xdp.context.data + 14 ≤ xdp.context.dataEnd ∧
          Received xdp isIpv6 pktBytes routed.pckt.tos ∧ vipInfo.vipNum.toNat < maxVips ∧
          routed.maps = middle ∧
          arrayLookup control.reals maxReals routed.pckt.realIndex.toNat = some routed.dst ∧
          outcome = forward control adjustHead xdp isIpv6 vipInfo originalSport pktBytes routed)

theorem arrayLookup_lt {Value : Type} {array : Nat → Value} {maxEntries key : Nat} {value : Value}
    (found : arrayLookup array maxEntries key = some value) : key < maxEntries := by
  unfold arrayLookup at found
  split at found
  · assumption
  · cases found

section Program

variable {Tables : Type} {ops : LruOps Tables} {insertions : Tables → Nat}
variable {control : Control} (arrival : Arrival) (adjustHead : Window → Int → Nat × Window)

variable (control) in
theorem forward_maps (xdp : Window) (isIpv6 : Bool) {vipInfo : VipMeta}
    (originalSport pktBytes : Nat) {routed : Routed Tables}
    (numbered : vipInfo.vipNum.toNat < maxVips) (known : routed.pckt.realIndex.toNat < maxReals) :
    (forward control adjustHead xdp isIpv6 vipInfo originalSport pktBytes routed).maps =
      { routed.maps with
        cpu := countForward routed.maps.cpu vipInfo.vipNum.toNat routed.pckt.realIndex.toNat
          (UInt64.ofNat pktBytes) } := by
  have inStats : ¬ statsMapSize ≤ vipInfo.vipNum.toNat := by
    unfold statsMapSize
    omega
  unfold forward
  dsimp only
  rw [if_neg inStats, if_neg (Nat.not_le.mpr known)]
  rfl

variable (control) in
/-- A packet that is forwarded is encapsulated, if the helper moves its head. -/
theorem forward_sent (moves : MovesHead adjustHead) {xdp : Window}
    (headroom : Headroom xdp 40) (whole : xdp.context.data + 14 ≤ xdp.context.dataEnd)
    (isIpv6 : Bool) {vipInfo : VipMeta} (originalSport pktBytes : Nat) {routed : Routed Tables}
    (numbered : vipInfo.vipNum.toNat < maxVips) (known : routed.pckt.realIndex.toNat < maxReals) :
    let outcome := forward control adjustHead xdp isIpv6 vipInfo originalSport pktBytes routed
    let pckt := { routed.pckt with flow := setSourcePort routed.pckt.flow originalSport }
    let size := if routed.dst.isIpv6 then 40 else 20
    outcome.verdict = xdpTx ∧
      outcome.window.context = (movedBack xdp size).context ∧
        outcome.window.memory =
          if routed.dst.isIpv6 then
            v6Packet control.mac pckt routed.dst pktBytes xdp.memory (xdp.context.data - 40) isIpv6
          else
            v4Packet control.mac pckt routed.dst pktBytes xdp.memory (xdp.context.data - 20) := by
  have inStats : ¬ statsMapSize ≤ vipInfo.vipNum.toNat := by
    unfold statsMapSize
    omega
  intro outcome pckt size
  have sent : outcome = forward control adjustHead xdp isIpv6 vipInfo originalSport pktBytes routed :=
    rfl
  unfold forward at sent
  dsimp only at sent
  rw [if_neg inStats, if_neg (Nat.not_le.mpr known)] at sent
  rw [sent]
  by_cases target : routed.dst.isIpv6 = true
  · have wide : size = 40 := if_pos target
    rw [wide, if_pos target, if_pos target,
      encapV6_eq moves control.mac pckt routed.dst pktBytes isIpv6 headroom whole]
    exact ⟨rfl, rfl, rfl⟩
  · have narrow : size = 20 := if_neg target
    have room : Headroom xdp 20 := ⟨Nat.le_trans (by decide) headroom.room, headroom.addressed⟩
    rw [narrow, if_neg target, if_neg target,
      encapV4_eq moves control.mac pckt routed.dst pktBytes room whole]
    exact ⟨rfl, rfl, rfl⟩

theorem lookupVip_known {isIpv6 : Bool} {pckt : PacketDescription}
    {found : VipDefinition × VipMeta × PacketDescription}
    (lookup : lookupVip control isIpv6 pckt = some found) :
    control.vipMap found.1 = some found.2.1 ∧ found.2.2.tos = pckt.tos := by
  unfold lookupVip at lookup
  dsimp only at lookup
  split at lookup
  · rename_i vipInfo known
    cases lookup
    exact ⟨known, rfl⟩
  · split at lookup
    · cases lookup
    · rename_i vipInfo known
      split at lookup
      · cases lookup
        exact ⟨known, rfl⟩
      · cases lookup
        exact ⟨known, rfl⟩

theorem balance_effect (measures : Measures ops insertions) {xdp : Window}
    (whole : xdp.context.data + 14 ≤ xdp.context.dataEnd) (isIpv6 : Bool) {pckt : PacketDescription}
    {pktBytes : Nat} (received : Received xdp isIpv6 pktBytes pckt.tos) (vip : VipDefinition) {vipInfo : VipMeta} (numbered : vipInfo.vipNum.toNat < maxVips)
    (maps : BalancerMaps Tables) :
    PacketEffect insertions control arrival.floodTime adjustHead xdp maps
      (balance ops control arrival adjustHead xdp isIpv6 vip vipInfo pckt pktBytes maps) := by
  have started (lruMap : Option Nat) : Quiet maps.cpu
      (if lruMap.isNone then (maps.cpu.count (maxVips + lruCntrs) 1 0).count
        (maxVips + fallbackLruCntr) 1 0 else maps.cpu.count (maxVips + lruCntrs) 1 0) := by
    split
    · exact (quiet_count _ (by decide) _ _).trans (quiet_count _ (by decide) _ _)
    · exact quiet_count _ (by decide) _ _
  unfold balance
  dsimp only
  generalize (if control.lruMapping arrival.cpu then some arrival.cpu else none) = lruMap
  have kept : (if vipInfo.has fHashNoSrcPort then
      { pckt with flow := setSourcePort pckt.flow 0 } else pckt : PacketDescription).tos =
        pckt.tos := by
    split <;> rfl
  generalize (if vipInfo.has fHashNoSrcPort then _ else pckt : PacketDescription) = pckt'
    at kept ⊢
  have quiet := started lruMap
  generalize (if lruMap.isNone then _ else _ : CpuMaps) = cpu at quiet ⊢
  have counted : Silent insertions maps { maps with cpu := cpu } := silent_of_quiet quiet
  have effect := RoutedEffect.of_silent control counted
    (chooseReal_effect measures control arrival xdp.memory xdp.context.data xdp.context.dataEnd
      isIpv6 vip vipInfo lruMap pckt' { maps with cpu := cpu })
  generalize chooseReal _ _ _ _ _ _ _ _ _ _ _ _ = result at effect ⊢
  cases result with
  | error after => exact ⟨after, effect, Or.inl ⟨rfl, settled_drop xdp⟩⟩
  | ok routed =>
      obtain ⟨chosen, found, tos⟩ := effect
      have same : routed.pckt.tos = pckt.tos := tos.trans kept
      rw [← same] at received
      exact ⟨routed.maps, chosen, Or.inr ⟨isIpv6, vipInfo, _, pktBytes, routed, whole, received,
        numbered, rfl, found, rfl⟩⟩

theorem processPacket_effect (measures : Measures ops insertions) (numbered : VipsNumbered control)
    {xdp : Window} (whole : xdp.context.data + 14 ≤ xdp.context.dataEnd) (isIpv6 : Bool)
    (type : xdp.memory.loadWord (xdp.context.data + 12) 2 =
      if isIpv6 then beEthPIpv6 else beEthPIp) (maps : BalancerMaps Tables) :
    PacketEffect insertions control arrival.floodTime adjustHead xdp maps
      (processPacket ops control arrival adjustHead xdp isIpv6 maps) := by
  have parsed := quiet_parsePacket xdp.memory xdp.context.data xdp.context.dataEnd 14 maps.cpu isIpv6
  have read := parsePacket_reads xdp.memory xdp.context.data xdp.context.dataEnd 14 maps.cpu isIpv6
  unfold processPacket
  dsimp only
  have settles := settles_parsePacket isIpv6 type maps.cpu
  generalize parsePacket _ _ _ _ _ _ = stage at parsed read settles ⊢
  have quiet : Silent insertions maps { maps with cpu := stage.cpu } := silent_of_quiet parsed
  cases stage with
  | verdict action memory cpu =>
      exact ⟨_, quiet.chosen, Or.inl ⟨rfl, settles action memory cpu rfl⟩⟩
  | further value cpu =>
      dsimp only
      split
      · exact ⟨_, quiet.chosen, Or.inl ⟨rfl, settled_pass xdp⟩⟩
      · rename_i vip vipInfo pckt found
        obtain ⟨known, tos⟩ := lookupVip_known found
        have received : Received xdp isIpv6 value.2 pckt.tos :=
          ⟨type, (read value cpu rfl).1, tos.trans (read value cpu rfl).2⟩
        split
        · exact ⟨_, quiet.chosen, Or.inl ⟨rfl, settled_drop xdp⟩⟩
        · obtain ⟨middle, chosen, after⟩ := (balance_effect arrival adjustHead measures whole
            isIpv6 received vip (numbered _ _ known) { maps with cpu := cpu }).effect
          exact ⟨middle, quiet.trans_chosen chosen, after⟩

/-- What the program does. -/
theorem balancerIngress_effect (measures : Measures ops insertions)
    (numbered : VipsNumbered control) (xdp : Window) (maps : BalancerMaps Tables) :
    PacketEffect insertions control arrival.floodTime adjustHead xdp maps
      (balancerIngress ops control arrival adjustHead xdp maps) := by
  have untouched {verdict : Nat} (settled : Settled xdp verdict xdp) :
      PacketEffect insertions control arrival.floodTime adjustHead xdp maps ⟨verdict, xdp, maps⟩ :=
    ⟨maps, (Silent.refl maps).chosen, Or.inl ⟨rfl, settled⟩⟩
  unfold balancerIngress
  dsimp only
  split_ifs
  · exact untouched (settled_drop xdp)
  · rename_i long type
    exact processPacket_effect arrival adjustHead measures numbered (Nat.not_lt.mp long) false type
      maps
  · rename_i long _ type
    exact processPacket_effect arrival adjustHead measures numbered (Nat.not_lt.mp long) true type
      maps
  · exact untouched (settled_pass xdp)

end Program

end UserspaceXdp.Katran
