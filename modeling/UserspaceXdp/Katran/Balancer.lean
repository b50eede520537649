import UserspaceXdp.Katran.Encap

/-!
Contract: `balancer.bpf.c`, the program that spreads the packets of virtual
addresses over real servers.

Owns: the hash, the choice of a real (by connection id, by the connection table, by
the ring), the counters, and the whole program, over any connection tables and any
helper that moves the head of a packet.

Does not own: what holds of a run. The lookup of an element at an index that is in
the map does not fail, so that its failure is left out.
-/

namespace UserspaceXdp.Katran

open UserspaceXdp.Foundation
open UserspaceXdp.Runtime
open UserspaceXdp.Maps

/-! ## `jhash.h` -/

def rol32 (word shift : UInt32) : UInt32 :=
  word <<< shift ||| word >>> (32 - shift)

/-- The three words that the hash works on. -/
structure JhashState where
  a : UInt32
  b : UInt32
  c : UInt32
deriving DecidableEq, Repr

def jhashMix (state : JhashState) : JhashState :=
  let ⟨a, b, c⟩ := state
  let a := (a - c) ^^^ rol32 c 4
  let c := c + b
  let b := (b - a) ^^^ rol32 a 6
  let a := a + c
  let c := (c - b) ^^^ rol32 b 8
  let b := b + a
  let a := (a - c) ^^^ rol32 c 16
  let c := c + b
  let b := (b - a) ^^^ rol32 a 19
  let a := a + c
  let c := (c - b) ^^^ rol32 b 4
  let b := b + a
  ⟨a, b, c⟩

def jhashFinal (state : JhashState) : JhashState :=
  let ⟨a, b, c⟩ := state
  let c := (c ^^^ b) - rol32 b 14
  let a := (a ^^^ c) - rol32 c 11
  let b := (b ^^^ a) - rol32 a 25
  let c := (c ^^^ b) - rol32 b 16
  let a := (a ^^^ c) - rol32 c 4
  let b := (b ^^^ a) - rol32 a 14
  let c := (c ^^^ b) - rol32 b 24
  ⟨a, b, c⟩

def jhashInitval : UInt32 := 0xdeadbeef

/-- Four bytes of the key, with zeros behind its end. -/
def jhashWord (key : List UInt8) (index : Nat) : UInt32 :=
  (key.getD index 0).toUInt32 + (key.getD (index + 1) 0).toUInt32 <<< 8 +
    (key.getD (index + 2) 0).toUInt32 <<< 16 + (key.getD (index + 3) 0).toUInt32 <<< 24

def jhashAdd (key : List UInt8) (state : JhashState) : JhashState :=
  ⟨state.a + jhashWord key 0, state.b + jhashWord key 4, state.c + jhashWord key 8⟩

/-- The loop over whole blocks of 12 bytes that are not the last. -/
def jhashBlocks : Nat → List UInt8 → JhashState → List UInt8 × JhashState
  | 0, key, state => (key, state)
  | blocks + 1, key, state => jhashBlocks blocks (key.drop 12) (jhashMix (jhashAdd key state))

def jhash (key : List UInt8) (initval : UInt32) : UInt32 :=
  let start := jhashInitval + UInt32.ofNat key.length + initval
  let (rest, state) := jhashBlocks ((key.length - 1) / 12) key ⟨start, start, start⟩
  if rest.length = 0 then state.c else (jhashFinal (jhashAdd rest state)).c

def jhashNwords (a b c initval : UInt32) : UInt32 :=
  (jhashFinal ⟨a + initval, b + initval, c + initval⟩).c

def jhash2Words (a b initval : UInt32) : UInt32 :=
  jhashNwords a b 0 (initval + jhashInitval + 8)

/-! ## The ring -/

def initJhashSeed : UInt32 := UInt32.ofNat chRingsSize
def initJhashSeedV6 : UInt32 := UInt32.ofNat maxVips

/-- The bytes of an address in memory. -/
def addressBytes (address : Fin 4 → UInt32) : List UInt8 :=
  (List.finRange 4).flatMap fun word =>
    [(address word).toUInt8, (address word >>> 8).toUInt8, (address word >>> 16).toUInt8,
      (address word >>> 24).toUInt8]

def getPacketHash (flow : FlowKey) (hash16Bytes : Bool) : UInt32 :=
  if hash16Bytes then
    jhash2Words (jhash (addressBytes flow.srcv6) initJhashSeedV6) flow.ports initJhashSeed
  else jhash2Words flow.src flow.ports initJhashSeed

/-- A service that hashes the destination port only. -/
def hashDportOnly (flow : FlowKey) : FlowKey :=
  { setSourcePort flow (destinationPort flow) with srcv6 := fun _ => 0 }

/-- What a service hashes of a flow. -/
def hashedFlow (vipInfo : VipMeta) (flow : FlowKey) : FlowKey :=
  if vipInfo.has fHashDportOnly then hashDportOnly flow else flow

def ringKey (vipInfo : VipMeta) (isIpv6 : Bool) (flow : FlowKey) : Nat :=
  (ringSize * vipInfo.vipNum.toNat + (getPacketHash flow isIpv6).toNat % ringSize) % 2 ^ 32

/-! ## New connections -/

/-- `v1` counts the new connections since `v2`. -/
def checkConnRate (connRateStats : LbStats) (curTime : UInt64) : Bool × LbStats :=
  if oneSec < curTime - connRateStats.v2 then (false, ⟨1, curTime⟩)
  else (maxConnRate < connRateStats.v1 + 1, ⟨connRateStats.v1 + 1, connRateStats.v2⟩)

/-- Whether the CPU has seen too many new connections in this second. -/
def isUnderFlood (cpu : CpuMaps) (curTime : UInt64) : Bool × CpuMaps :=
  let key := maxVips + newConnRateCntr
  let checked := checkConnRate (cpu.stats key) curTime
  (checked.1, { cpu with stats := Function.update cpu.stats key checked.2 })

/-- When and where a packet is processed: the CPU, and the clock as the connection
table lookup and the flood check read it. -/
structure Arrival where
  cpu : Nat
  lookupTime : UInt64
  floodTime : UInt64
deriving DecidableEq, Repr

/-- A packet on its way to a real, if one is found. -/
structure Routing (Tables : Type) where
  dst : Option RealDefinition
  pckt : PacketDescription
  maps : BalancerMaps Tables

section Program

variable {Tables : Type} (ops : LruOps Tables) (control : Control) (arrival : Arrival)

/-- `get_packet_dst`: without a real for `false`. -/
def getPacketDst (pckt : PacketDescription) (vipInfo : VipMeta) (isIpv6 : Bool)
    (lruMap : Option Nat) (maps : BalancerMaps Tables) : Routing Tables :=
  let flood := isUnderFlood maps.cpu arrival.floodTime
  let cpu := flood.2
  let pckt := { pckt with flow := hashedFlow vipInfo pckt.flow }
  match arrayLookup control.chRings chRingsSize (ringKey vipInfo isIpv6 pckt.flow) with
  | none => ⟨none, pckt, { maps with cpu }⟩
  | some realPos =>
      let cpu := if realPos = 0 then cpu.count (maxVips + chDropStats) 0 1 else cpu
      let pckt := { pckt with realIndex := realPos }
      match arrayLookup control.reals maxReals realPos.toNat with
      | none => ⟨none, pckt, { maps with cpu := cpu.count (maxVips + chDropStats) 1 0 }⟩
      | some real =>
          if vipInfo.has fLruBypass || flood.1 then ⟨some real, pckt, { maps with cpu }⟩
          else
            let newDstLru : RealPosLru :=
              ⟨realPos, if pckt.flow.proto = ipprotoUdp then arrival.floodTime else 0⟩
            ⟨some real, pckt,
              { maps with cpu, lru := ops.update maps.lru lruMap pckt.flow newDstLru }⟩

/-! ## Established connections -/

def connectionTableLookup (pckt : PacketDescription) (lruMap : Option Nat)
    (maps : BalancerMaps Tables) : Routing Tables :=
  let looked := ops.lookup maps.lru lruMap pckt.flow
  let lru := looked.2
  match looked.1 with
  | none => ⟨none, pckt, { maps with lru }⟩
  | some dstLru =>
      let udp := pckt.flow.proto = ipprotoUdp
      if udp ∧ lruUdpTimeout < arrival.lookupTime - dstLru.atime then
        ⟨none, pckt, { maps with lru }⟩
      else
        let lru :=
          if udp then
            ops.write lru lruMap pckt.flow { dstLru with atime := arrival.lookupTime }
          else lru
        ⟨arrayLookup control.reals maxReals dstLru.pos.toNat,
          { pckt with realIndex := dstLru.pos }, { maps with lru }⟩

inductive DstInLru where
  | dstMatchInLru
  | dstMismatchInLru
  | dstNotFoundInLru
deriving DecidableEq, Repr

def checkAndUpdateRealIndexInLru (pckt : PacketDescription) (lruMap : Option Nat)
    (maps : BalancerMaps Tables) : DstInLru × BalancerMaps Tables :=
  let looked := ops.lookup maps.lru lruMap pckt.flow
  let lru := looked.2
  match looked.1 with
  | some dstLru =>
      if dstLru.pos = pckt.realIndex then (.dstMatchInLru, { maps with lru })
      else
        (.dstMismatchInLru,
          { maps with
            lru := ops.write lru lruMap pckt.flow { dstLru with pos := pckt.realIndex } })
  | none =>
      let flood := isUnderFlood maps.cpu arrival.floodTime
      if flood.1 then (.dstNotFoundInLru, { maps with cpu := flood.2, lru })
      else
        (.dstNotFoundInLru,
          { maps with cpu := flood.2, lru := ops.update lru lruMap pckt.flow ⟨pckt.realIndex, 0⟩ })

/-! ## Counters -/

def incrementQuicCidVersionStats (stats : LbQuicPacketsStats) (cidVersion : Nat) :
    LbQuicPacketsStats :=
  if cidVersion = 1 then { stats with cidV1 := stats.cidV1 + 1 }
  else if cidVersion = 2 then { stats with cidV2 := stats.cidV2 + 1 }
  else if cidVersion = 3 then { stats with cidV3 := stats.cidV3 + 1 }
  else { stats with cidV0 := stats.cidV0 + 1 }

def incrServerIdRoutingStats (cpu : CpuMaps) (vipNum : Nat) (newConn misMatchInLru : Bool) :
    CpuMaps :=
  if vipNum < maxVips then
    { cpu with
      serverIdStats :=
        Function.update cpu.serverIdStats vipNum
          ((cpu.serverIdStats vipNum).add newConn.toUInt64 misMatchInLru.toUInt64) }
  else cpu

/-- `proto_match` is an assignment: it stores the protocol of the VIP. The maps are
an error for `XDP_DROP`. -/
def updateVipLruMissStats (vip : VipDefinition) (pckt : PacketDescription) (isIpv6 : Bool)
    (maps : BalancerMaps Tables) : Except (BalancerMaps Tables) (BalancerMaps Tables) :=
  let missVip := maps.vipMissStats
  let addressMatch :=
    (isIpv6 && (missVip.vip 0 == vip.vip 0 && missVip.vip 1 == vip.vip 1 &&
      missVip.vip 2 == vip.vip 2 && missVip.vip 3 == vip.vip 3)) ||
      (!isIpv6 && missVip.vip 0 == vip.vip 0)
  let portMatch := missVip.port == vip.port
  let protoMatch := vip.proto != 0
  let maps := { maps with vipMissStats := { missVip with proto := vip.proto } }
  if addressMatch && portMatch && protoMatch then
    let key := pckt.realIndex.toNat
    if key < maxReals then
      .ok
        { maps with
          cpu :=
            { maps.cpu with
              lruMissStats :=
                Function.update maps.cpu.lruMissStats key (maps.cpu.lruMissStats key + 1) } }
    else .error maps
  else .ok maps

/-! ## The choice of a real -/

def countQuic (cpu : CpuMaps) (advance : LbQuicPacketsStats → LbQuicPacketsStats) : CpuMaps :=
  { cpu with quicStats := advance cpu.quicStats }

/-- There is no real for the server id: the ring decides. -/
def invalidServerId (serverId : Nat) (stats : LbQuicPacketsStats) : LbQuicPacketsStats :=
  { stats with
    cidInvalidServerId := stats.cidInvalidServerId + 1
    cidInvalidServerIdSample := UInt64.ofNat serverId
    chRouted := stats.chRouted + 1 }

/-- How a packet with a server id is counted. -/
def countServerIdRouted (vipNum : Nat) (result : DstInLru) (cpu : CpuMaps) : CpuMaps :=
  let cpu :=
    match result with
    | .dstMatchInLru =>
        countQuic cpu fun stats => { stats with dstMatchInLru := stats.dstMatchInLru + 1 }
    | .dstMismatchInLru =>
        incrServerIdRoutingStats
          (countQuic cpu fun stats =>
            { stats with dstMismatchInLru := stats.dstMismatchInLru + 1 }) vipNum false true
    | .dstNotFoundInLru =>
        countQuic cpu fun stats => { stats with dstNotFoundInLru := stats.dstNotFoundInLru + 1 }
  countQuic cpu fun stats => { stats with cidRouted := stats.cidRouted + 1 }

/-- The lookup of a server id. The maps alone are what a dropped packet leaves. -/
def serverIdRoute (vipInfo : VipMeta) (lruMap : Option Nat) (serverId : Nat)
    (pckt : PacketDescription) (maps : BalancerMaps Tables) :
    Except (BalancerMaps Tables) (Routing Tables) :=
  match arrayLookup control.serverIdMap maxQuicReals serverId with
  | none => .ok ⟨none, pckt, { maps with cpu := countQuic maps.cpu (invalidServerId serverId) }⟩
  | some key =>
      if key = 0 then
        .ok ⟨none, pckt, { maps with cpu := countQuic maps.cpu (invalidServerId serverId) }⟩
      else
        let pckt := { pckt with realIndex := key }
        match arrayLookup control.reals maxReals key.toNat with
        | none =>
            .error
              { maps with
                cpu :=
                  countQuic maps.cpu fun stats =>
                    { stats with cidUnknownRealDropped := stats.cidUnknownRealDropped + 1 } }
        | some real =>
            let checked := checkAndUpdateRealIndexInLru ops arrival pckt lruMap maps
            let cpu := countServerIdRouted vipInfo.vipNum.toNat checked.1 checked.2.cpu
            .ok ⟨some real, pckt, { checked.2 with cpu }⟩

/-- The branch of the QUIC services. -/
def quicRoute (memory : Memory) (data dataEnd : Nat) (isIpv6 : Bool) (vipInfo : VipMeta)
    (lruMap : Option Nat) (pckt : PacketDescription) (maps : BalancerMaps Tables) :
    Except (BalancerMaps Tables) (Routing Tables) :=
  if pckt.icmp then
    let ignorable := ignorableQuicIcmpCode memory data isIpv6
    .ok
      ⟨none, pckt,
        { maps with cpu := maps.cpu.count (maxVips + quicIcmpStats) 1 ignorable.toUInt64 }⟩
  else
    let qpr := parseQuic memory data dataEnd isIpv6 pckt
    if 0 < qpr.serverId then
      let cpu := countQuic maps.cpu fun stats => incrementQuicCidVersionStats stats qpr.cidVersion
      serverIdRoute ops control arrival vipInfo lruMap qpr.serverId.toNat pckt { maps with cpu }
    else if !qpr.isInitial then
      .ok
        ⟨none, pckt,
          { maps with
            cpu := countQuic maps.cpu fun stats => { stats with chRouted := stats.chRouted + 1 } }⟩
    else
      let cpu := countQuic maps.cpu fun stats => { stats with cidInitial := stats.cidInitial + 1 }
      .ok
        ⟨none, pckt,
          { maps with cpu := incrServerIdRoutingStats cpu vipInfo.vipNum.toNat true false }⟩

/-- A packet whose real is known. -/
structure Routed (Tables : Type) where
  dst : RealDefinition
  pckt : PacketDescription
  maps : BalancerMaps Tables

/-- The ring decides: a miss of the connection table. -/
def ringRoute (vip : VipDefinition) (vipInfo : VipMeta) (isIpv6 : Bool) (lruMap : Option Nat)
    (pckt : PacketDescription) (maps : BalancerMaps Tables) :
    Except (BalancerMaps Tables) (Routed Tables) :=
  let cpu :=
    if pckt.flow.proto = ipprotoTcp then
      if pckt.synSet then maps.cpu.count (maxVips + lruMissCntr) 1 0
      else maps.cpu.count (maxVips + lruMissCntr) 0 1
    else maps.cpu
  let routing := getPacketDst ops control arrival pckt vipInfo isIpv6 lruMap { maps with cpu }
  match routing.dst with
  | none => .error routing.maps
  | some dst =>
      match updateVipLruMissStats vip routing.pckt isIpv6 routing.maps with
      | .error maps => .error maps
      | .ok maps =>
          .ok ⟨dst, routing.pckt,
            { maps with cpu := maps.cpu.count (maxVips + lruCntrs) 0 1 }⟩

/-- The connection table, unless a connection is opened or the service bypasses it,
then the ring. -/
def tableRoute (vip : VipDefinition) (vipInfo : VipMeta) (isIpv6 : Bool) (lruMap : Option Nat)
    (pckt : PacketDescription) (maps : BalancerMaps Tables) :
    Except (BalancerMaps Tables) (Routed Tables) :=
  let routing :=
    if pckt.synSet || vipInfo.has fLruBypass then ⟨none, pckt, maps⟩
    else connectionTableLookup ops control arrival pckt lruMap maps
  match routing.dst with
  | some dst => .ok ⟨dst, routing.pckt, routing.maps⟩
  | none => ringRoute ops control arrival vip vipInfo isIpv6 lruMap routing.pckt routing.maps

/-- From the branch of the QUIC services to the chosen real. -/
def chooseReal (memory : Memory) (data dataEnd : Nat) (isIpv6 : Bool) (vip : VipDefinition)
    (vipInfo : VipMeta) (lruMap : Option Nat) (pckt : PacketDescription)
    (maps : BalancerMaps Tables) : Except (BalancerMaps Tables) (Routed Tables) :=
  let routing :=
    if vipInfo.has fQuicVip then
      quicRoute ops control arrival memory data dataEnd isIpv6 vipInfo lruMap pckt maps
    else .ok ⟨none, pckt, maps⟩
  match routing with
  | .error maps => .error maps
  | .ok routing =>
      match routing.dst with
      | some dst => .ok ⟨dst, routing.pckt, routing.maps⟩
      | none => tableRoute ops control arrival vip vipInfo isIpv6 lruMap routing.pckt routing.maps

/-! ## The program -/

/-- What the program leaves behind. -/
structure Outcome (Tables : Type) where
  verdict : Nat
  window : Window
  maps : BalancerMaps Tables

variable (adjustHead : Window → Int → Nat × Window)

/-- The counters of the VIP and of the real, and the encapsulation. -/
def forward (xdp : Window) (isIpv6 : Bool) (vipInfo : VipMeta) (originalSport pktBytes : Nat)
    (routed : Routed Tables) : Outcome Tables :=
  let maps := routed.maps
  let vipNum := vipInfo.vipNum.toNat
  let realIndex := routed.pckt.realIndex.toNat
  if statsMapSize ≤ vipNum then ⟨xdpDrop, xdp, maps⟩
  else
    let cpu := maps.cpu.count vipNum 1 (UInt64.ofNat pktBytes)
    if maxReals ≤ realIndex then ⟨xdpDrop, xdp, { maps with cpu }⟩
    else
      let counted := (cpu.realsStats realIndex).add 1 (UInt64.ofNat pktBytes)
      let cpu := { cpu with realsStats := Function.update cpu.realsStats realIndex counted }
      let pckt := { routed.pckt with flow := setSourcePort routed.pckt.flow originalSport }
      let sent :=
        if routed.dst.isIpv6 then
          encapV6 adjustHead xdp control.mac pckt routed.dst pktBytes isIpv6
        else encapV4 adjustHead xdp control.mac pckt routed.dst pktBytes
      ⟨if sent.1 then xdpTx else xdpDrop, sent.2, { maps with cpu }⟩

/-- The VIP of a flow: that of its port, or that of any port. In the second case
most services do not care about the destination port. -/
def lookupVip (isIpv6 : Bool) (pckt : PacketDescription) :
    Option (VipDefinition × VipMeta × PacketDescription) :=
  let address := if isIpv6 then pckt.flow.dstv6 else addressOfV4 pckt.flow.dst
  let vip : VipDefinition := ⟨address, destinationPort pckt.flow, pckt.flow.proto⟩
  match control.vipMap vip with
  | some vipInfo => some (vip, vipInfo, pckt)
  | none =>
      let vip := { vip with port := 0 }
      match control.vipMap vip with
      | none => none
      | some vipInfo =>
          if !vipInfo.has fHashDportOnly && !vipInfo.has fHashSrcDstPort then
            some (vip, vipInfo, { pckt with flow := setDestinationPort pckt.flow 0 })
          else some (vip, vipInfo, pckt)

/-- The second part of `process_packet`, for a packet of a VIP. -/
def balance (xdp : Window) (isIpv6 : Bool) (vip : VipDefinition) (vipInfo : VipMeta)
    (pckt : PacketDescription) (pktBytes : Nat) (maps : BalancerMaps Tables) : Outcome Tables :=
  let cpu := maps.cpu.count (maxVips + lruCntrs) 1 0
  let pckt :=
    if vipInfo.has fHashNoSrcPort then { pckt with flow := setSourcePort pckt.flow 0 } else pckt
  let lruMap := if control.lruMapping arrival.cpu then some arrival.cpu else none
  let cpu := if lruMap.isNone then cpu.count (maxVips + fallbackLruCntr) 1 0 else cpu
  match chooseReal ops control arrival xdp.memory xdp.context.data xdp.context.dataEnd isIpv6 vip
      vipInfo lruMap pckt { maps with cpu } with
  | .error maps => ⟨xdpDrop, xdp, maps⟩
  | .ok routed =>
      forward control adjustHead xdp isIpv6 vipInfo (sourcePort pckt.flow) pktBytes routed

def processPacket (xdp : Window) (isIpv6 : Bool) (maps : BalancerMaps Tables) :
    Outcome Tables :=
  let data := xdp.context.data
  let dataEnd := xdp.context.dataEnd
  match parsePacket xdp.memory data dataEnd 14 isIpv6 maps.cpu with
  | .verdict action memory cpu => ⟨action, { xdp with memory }, { maps with cpu }⟩
  | .further (pckt, pktBytes) cpu =>
      match lookupVip control isIpv6 pckt with
      | none => ⟨xdpPass, xdp, { maps with cpu }⟩
      | some (vip, vipInfo, pckt) =>
          if maxPcktSize < dataEnd - data then ⟨xdpDrop, xdp, { maps with cpu }⟩
          else
            balance ops control arrival adjustHead xdp isIpv6 vip vipInfo pckt pktBytes
              { maps with cpu }

def balancerIngress (xdp : Window) (maps : BalancerMaps Tables) : Outcome Tables :=
  let data := xdp.context.data
  if xdp.context.dataEnd < data + 14 then ⟨xdpDrop, xdp, maps⟩
  else if xdp.memory.loadWord (data + 12) 2 = beEthPIp then
    processPacket ops control arrival adjustHead xdp false maps
  else if xdp.memory.loadWord (data + 12) 2 = beEthPIpv6 then
    processPacket ops control arrival adjustHead xdp true maps
  else ⟨xdpPass, xdp, maps⟩

end Program

end UserspaceXdp.Katran
