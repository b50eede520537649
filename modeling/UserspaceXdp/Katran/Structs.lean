import UserspaceXdp.Maps.LruMap

/-!
Contract: the data of katran's balancer, `balancer_structs.h`, `balancer_maps.h`
and `control_data_maps.h`.

Owns: the packet description, the maps that the control plane fills, the maps of
one CPU, and what the balancer relies on of its connection tables.

Does not own: the program. It is the one of `lib-aot`, where an `xdp_md` has addresses
of 64 bits, in the build of the Makefile: none of the optional features of
`balancer_consts.h` is defined.
-/

namespace UserspaceXdp.Katran

open UserspaceXdp.Foundation
open UserspaceXdp.Maps

/-! ## Constants -/

def ringSize : Nat := 65537
def maxVips : Nat := 512
def maxReals : Nat := 4096
def maxQuicReals : Nat := 0x00fffffe
def chRingsSize : Nat := maxVips * ringSize
def statsMapSize : Nat := maxVips * 2
def maxPcktSize : Nat := 1514
def maxMtuInPtbToDrop : Nat := 1280
def oneSec : UInt64 := 1000000000
def lruUdpTimeout : UInt64 := 30000000000
def maxConnRate : UInt64 := 125000

def lruCntrs : Nat := 0
def lruMissCntr : Nat := 1
def newConnRateCntr : Nat := 2
def fallbackLruCntr : Nat := 3
def chDropStats : Nat := 9
def quicIcmpStats : Nat := 11
def icmpPtbV6Stats : Nat := 12
def icmpPtbV4Stats : Nat := 13

def ipprotoIcmp : UInt8 := 1
def ipprotoIpip : UInt8 := 4
def ipprotoTcp : UInt8 := 6
def ipprotoUdp : UInt8 := 17
def ipprotoIpv6 : UInt8 := 41
def ipprotoFragment : UInt8 := 44
def ipprotoIcmpv6 : UInt8 := 58

/-! ## Flows -/

/-- `port16[0]` and `port16[1]` of a flow, as they are in memory. -/
def sourcePort (flow : FlowKey) : Nat := flow.ports.toNat % 2 ^ 16

def destinationPort (flow : FlowKey) : Nat := flow.ports.toNat / 2 ^ 16

def packPorts (source destination : Nat) : UInt32 :=
  UInt32.ofNat (source % 2 ^ 16 + 2 ^ 16 * (destination % 2 ^ 16))

def setPorts (flow : FlowKey) (source destination : Nat) : FlowKey :=
  { flow with ports := packPorts source destination }

def setSourcePort (flow : FlowKey) (source : Nat) : FlowKey :=
  setPorts flow source (destinationPort flow)

def setDestinationPort (flow : FlowKey) (destination : Nat) : FlowKey :=
  setPorts flow (sourcePort flow) destination

/-- An address has a word 0. -/
scoped instance addressWords : NeZero 4 := ⟨by decide⟩

/-- An IPv4 address in a union with an IPv6 address: the other words keep the
zeros they were initialised with. -/
def addressOfV4 (address : UInt32) : Fin 4 → UInt32 :=
  fun word => if word = 0 then address else 0

/-- `struct packet_description pckt = {}`. -/
def emptyFlow : FlowKey :=
  { srcv6 := fun _ => 0, dstv6 := fun _ => 0, ports := 0, proto := 0 }

/-- `struct packet_description`, with the two flags `F_ICMP` and `F_SYN_SET`
apart. -/
structure PacketDescription where
  flow : FlowKey
  realIndex : UInt32
  icmp : Bool
  synSet : Bool
  tos : UInt8
deriving DecidableEq

def emptyPacket : PacketDescription :=
  { flow := emptyFlow, realIndex := 0, icmp := false, synSet := false, tos := 0 }

section Ports

variable (flow : FlowKey) (source destination : Nat)

theorem packPorts_toNat : (packPorts source destination).toNat =
    source % 2 ^ 16 + 2 ^ 16 * (destination % 2 ^ 16) := by
  rw [packPorts, UInt32.toNat_ofNat']
  omega

@[simp] theorem sourcePort_setPorts :
    sourcePort (setPorts flow source destination) = source % 2 ^ 16 := by
  rw [sourcePort, setPorts, packPorts_toNat]
  omega

@[simp] theorem destinationPort_setPorts :
    destinationPort (setPorts flow source destination) = destination % 2 ^ 16 := by
  rw [destinationPort, setPorts, packPorts_toNat]
  omega

theorem destinationPort_lt : destinationPort flow < 2 ^ 16 := by
  have small := flow.ports.toNat_lt
  unfold destinationPort
  omega

@[simp] theorem setPorts_setPorts (laterSource laterDestination : Nat) :
    setPorts (setPorts flow source destination) laterSource laterDestination =
      setPorts flow laterSource laterDestination :=
  rfl

/-- The ports a flow has. -/
@[simp] theorem setPorts_self : setPorts flow (sourcePort flow) (destinationPort flow) = flow := by
  have ports : packPorts (sourcePort flow) (destinationPort flow) = flow.ports := by
    apply UInt32.toNat_inj.mp
    have small := flow.ports.toNat_lt
    rw [packPorts_toNat, sourcePort, destinationPort]
    omega
  rw [setPorts, ports]

end Ports

/-! ## What the control plane fills -/

structure VipDefinition where
  vip : Fin 4 → UInt32
  port : Nat
  proto : UInt8
deriving DecidableEq

structure VipMeta where
  flags : UInt32
  vipNum : UInt32
deriving DecidableEq, Repr

def fHashNoSrcPort : UInt32 := 1
def fLruBypass : UInt32 := 2
def fQuicVip : UInt32 := 4
def fHashDportOnly : UInt32 := 8
def fHashSrcDstPort : UInt32 := 128

def VipMeta.has (vipInfo : VipMeta) (flag : UInt32) : Bool :=
  vipInfo.flags &&& flag != 0

structure RealDefinition where
  dstv6 : Fin 4 → UInt32
  flags : UInt8
deriving DecidableEq

def RealDefinition.dst (real : RealDefinition) : UInt32 := real.dstv6 0

/-- `F_IPV6`. -/
def RealDefinition.isIpv6 (real : RealDefinition) : Bool :=
  real.flags &&& 1 != 0

/-- A lookup in an array map. -/
def arrayLookup {Value : Type} (array : Nat → Value) (maxEntries key : Nat) : Option Value :=
  if key < maxEntries then some (array key) else none

/-- The maps that the control plane fills and the program reads. `lruMapping` says
which CPUs have a connection table of their own. -/
structure Control where
  vipMap : VipDefinition → Option VipMeta
  chRings : Nat → UInt32
  reals : Nat → RealDefinition
  mac : Vector UInt8 6
  serverIdMap : Nat → UInt32
  lruMapping : Nat → Bool

/-! ## What a CPU counts -/

structure LbStats where
  v1 : UInt64
  v2 : UInt64
deriving DecidableEq, Repr

/-- The two counters advanced. -/
def LbStats.add (stats : LbStats) (first second : UInt64) : LbStats :=
  ⟨stats.v1 + first, stats.v2 + second⟩

structure LbQuicPacketsStats where
  chRouted : UInt64
  cidInitial : UInt64
  cidInvalidServerId : UInt64
  cidInvalidServerIdSample : UInt64
  cidRouted : UInt64
  cidUnknownRealDropped : UInt64
  cidV0 : UInt64
  cidV1 : UInt64
  cidV2 : UInt64
  cidV3 : UInt64
  dstMatchInLru : UInt64
  dstMismatchInLru : UInt64
  dstNotFoundInLru : UInt64
deriving DecidableEq, Repr

/-- The per-CPU maps, as one CPU sees them. -/
structure CpuMaps where
  stats : Nat → LbStats
  realsStats : Nat → LbStats
  lruMissStats : Nat → UInt32
  quicStats : LbQuicPacketsStats
  serverIdStats : Nat → LbStats

/-- A counter of `stats`, at an index that is in the map. -/
def CpuMaps.count (cpu : CpuMaps) (index : Nat) (first second : UInt64) : CpuMaps :=
  { cpu with stats := Function.update cpu.stats index ((cpu.stats index).add first second) }

/-! ## Connection tables -/

/-- The connection tables of all CPUs as the helpers reach them; `none` is
`fallback_cache`. `write` is a store through the pointer that a lookup returned. -/
structure LruOps (Tables : Type) where
  lookup : Tables → Option Nat → FlowKey → Option RealPosLru × Tables
  write : Tables → Option Nat → FlowKey → RealPosLru → Tables
  update : Tables → Option Nat → FlowKey → RealPosLru → Tables

/-- What the program changes. -/
structure BalancerMaps (Tables : Type) where
  cpu : CpuMaps
  lru : Tables
  vipMissStats : VipDefinition

end UserspaceXdp.Katran
