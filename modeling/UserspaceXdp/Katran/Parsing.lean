import UserspaceXdp.Katran.Replies
import UserspaceXdp.Katran.Structs

/-!
Contract: how the balancer reads a packet, `pckt_parsing.h`, the parsers of
`handle_icmp.h` and `process_l3_headers`.

Owns: the flow of a packet, quoted in an ICMP error or not, and the connection id
of a QUIC packet.

Does not own: where a packet is sent. The lookup of a counter at an index that is
in the map does not fail, so that its failure is left out.
-/

namespace UserspaceXdp.Katran

open UserspaceXdp.Foundation
open UserspaceXdp.Runtime
open UserspaceXdp.Maps
open UserspaceXdp.Programs (bpfNtohs bpfHtonl)

/-- What a parser decides: a verdict at once, or to process the packet further. -/
inductive Stage (Value : Type) where
  | verdict (action : Nat) (memory : Memory) (cpu : CpuMaps)
  | further (value : Value) (cpu : CpuMaps)

section Fields

variable (memory : Memory)

def loadWord32 (address : Nat) : UInt32 :=
  UInt32.ofNat (memory.loadWord address 4)

/-- `memcpy` of an IPv6 address. -/
def loadAddress (address : Nat) : Fin 4 → UInt32 :=
  fun word => loadWord32 memory (address + 4 * word)

end Fields

/-! ## Transport headers -/

def calcOffset (isIpv6 isIcmp : Bool) : Nat :=
  if isIpv6 then 14 + 40 + if isIcmp then 8 + 40 else 0
  else 14 + 20 + if isIcmp then 8 + 20 else 0

section Transport

variable (memory : Memory) (data dataEnd : Nat) (isIpv6 : Bool) (pckt : PacketDescription)

/-- The two ports of a header. A quoted packet went the other way. -/
def readPorts (header : Nat) : FlowKey :=
  let source := memory.loadWord header 2
  let dest := memory.loadWord (header + 2) 2
  if pckt.icmp then setPorts pckt.flow dest source else setPorts pckt.flow source dest

def parseUdp : Option PacketDescription :=
  let udp := data + calcOffset isIpv6 pckt.icmp
  if dataEnd < udp + 8 then none
  else some { pckt with flow := readPorts memory pckt udp }

def parseTcp : Option PacketDescription :=
  let tcp := data + calcOffset isIpv6 pckt.icmp
  if dataEnd < tcp + 20 then none
  else
    some
      { pckt with
        synSet := pckt.synSet || (memory (tcp + 13) &&& 2 != 0)
        flow := readPorts memory pckt tcp }

end Transport

/-! ## Connection ids of QUIC -/

structure QuicParseResult where
  serverId : Int
  cidVersion : Nat
  isInitial : Bool
deriving DecidableEq, Repr

/-- A 32-bit pattern as an `int`. -/
def toInt32 (word : Nat) : Int :=
  if word < 2 ^ 31 then word else word - 2 ^ 32

/-- The server id in a connection id: -1 for an unknown version. -/
def connIdServerId (connId : Nat → Nat) : Int :=
  let connIdVersion := connId 0 / 2 ^ 6
  if connIdVersion = 1 then
    connId 0 % 2 ^ 6 * 2 ^ 10 + connId 1 * 2 ^ 2 + connId 2 / 2 ^ 6
  else if connIdVersion = 2 then
    connId 1 * 2 ^ 16 + connId 2 * 2 ^ 8 + connId 3
  else if connIdVersion = 3 then
    toInt32 (connId 1 * 2 ^ 24 + connId 2 * 2 ^ 16 + connId 3 * 2 ^ 8 + connId 4)
  else -1

section Quic

variable (memory : Memory) (data dataEnd : Nat) (isIpv6 : Bool) (pckt : PacketDescription)

def readConnId (address : Nat) : QuicParseResult :=
  let connId (index : Nat) : Nat := (memory (address + index)).toNat
  { serverId := connIdServerId connId, cidVersion := connId 0 / 2 ^ 6, isInitial := false }

def parseQuic : QuicParseResult :=
  let quicData := data + calcOffset isIpv6 pckt.icmp + 8
  let pktType := (memory quicData).toNat
  if dataEnd < quicData + 1 then ⟨-1, 0xff, false⟩
  else if 2 ^ 7 ≤ pktType then
    if dataEnd < quicData + 14 then ⟨-1, 0xff, false⟩
    -- Client initial and 0-RTT packets have the client's connection id.
    else if pktType / 2 ^ 4 % 4 < 2 then ⟨-1, 0xff, true⟩
    else if (memory (quicData + 5)).toNat < 8 then ⟨-1, 0xff, false⟩
    else readConnId memory (quicData + 6)
  else if dataEnd < quicData + 9 then ⟨-1, 0xff, false⟩
  else readConnId memory (quicData + 1)

end Quic

/-! ## Internet headers -/

def icmpDestUnreach : UInt8 := 3
def icmpFragNeeded : UInt8 := 4
def icmpHostUnreach : UInt8 := 1
def icmpPortUnreach : UInt8 := 3
def icmpv6DestUnreach : UInt8 := 1
def icmpv6PktToobig : UInt8 := 2
def icmpv6AddrUnreach : UInt8 := 3
def icmpv6PortUnreach : UInt8 := 4
def pcktFragmented : Nat := 65343

/-- A counter of path MTU messages, the small ones apart. -/
def countPtb (cpu : CpuMaps) (index mtu : Nat) : CpuMaps :=
  cpu.count (maxVips + index) 1 (if mtu < maxMtuInPtbToDrop then 1 else 0)

section Internet

variable (memory : Memory) (data dataEnd off : Nat)

def parseIcmpv6 (pckt : PacketDescription) (cpu : CpuMaps) : Stage PacketDescription :=
  let icmpHdr := data + off
  let type := memory icmpHdr
  if dataEnd < icmpHdr + 8 then .verdict xdpDrop memory cpu
  else if type = icmpv6EchoRequest then
    let reply := sendIcmp6Reply memory data dataEnd
    .verdict reply.1 reply.2 cpu
  else if type ≠ icmpv6PktToobig ∧ type ≠ icmpv6DestUnreach then .verdict xdpPass memory cpu
  else
    let cpu :=
      if type = icmpv6PktToobig then
        countPtb cpu icmpPtbV6Stats (bpfHtonl (memory.loadWord (icmpHdr + 4) 4))
      else cpu
    let ip6h := icmpHdr + 8
    if dataEnd < ip6h + 40 then .verdict xdpDrop memory cpu
    else
      .further
        { pckt with
          icmp := true
          flow :=
            { pckt.flow with
              proto := memory (ip6h + 6)
              srcv6 := loadAddress memory (ip6h + 24)
              dstv6 := loadAddress memory (ip6h + 8) } } cpu

def parseIcmp (pckt : PacketDescription) (cpu : CpuMaps) : Stage PacketDescription :=
  let icmpHdr := data + off
  let type := memory icmpHdr
  if dataEnd < icmpHdr + 8 then .verdict xdpDrop memory cpu
  else if type = icmpEcho then
    let reply := sendIcmpReply memory data dataEnd
    .verdict reply.1 reply.2 cpu
  else if type ≠ icmpDestUnreach then .verdict xdpPass memory cpu
  else
    let cpu :=
      if memory (icmpHdr + 1) = icmpFragNeeded then
        countPtb cpu icmpPtbV4Stats (bpfNtohs (memory.loadWord (icmpHdr + 6) 2))
      else cpu
    let iph := icmpHdr + 8
    if dataEnd < iph + 20 then .verdict xdpDrop memory cpu
    else if (memory iph).toNat % 16 ≠ 5 then .verdict xdpDrop memory cpu
    else
      .further
        { pckt with
          icmp := true
          flow :=
            { pckt.flow with
              proto := memory (iph + 9)
              srcv6 := addressOfV4 (loadWord32 memory (iph + 16))
              dstv6 := addressOfV4 (loadWord32 memory (iph + 12)) } } cpu

/-- The parsers leave the length of the outer packet as it was read. -/
def Stage.withBytes (pktBytes : Nat) :
    Stage PacketDescription → Stage (PacketDescription × Nat)
  | .verdict action memory cpu => .verdict action memory cpu
  | .further pckt cpu => .further (pckt, pktBytes) cpu

def processIpv6Headers (cpu : CpuMaps) : Stage (PacketDescription × Nat) :=
  let ip6h := data + off
  let protocol := memory (ip6h + 6)
  let pktBytes := bpfNtohs (memory.loadWord (ip6h + 4) 2)
  let priority : UInt8 := memory ip6h &&& 0x0f
  let flowLbl : UInt8 := memory (ip6h + 1)
  let pckt : PacketDescription :=
    { emptyPacket with
      flow := { emptyFlow with proto := protocol }
      tos := priority <<< 4 ||| flowLbl >>> 4 }
  if dataEnd < ip6h + 40 then .verdict xdpDrop memory cpu
  else if protocol = ipprotoFragment then .verdict xdpDrop memory cpu
  else if protocol = ipprotoIcmpv6 then
    (parseIcmpv6 memory data dataEnd (off + 40) pckt cpu).withBytes pktBytes
  else
    .further
      ({ pckt with
          flow :=
            { pckt.flow with
              srcv6 := loadAddress memory (ip6h + 8)
              dstv6 := loadAddress memory (ip6h + 24) } }, pktBytes) cpu

def processIpv4Headers (cpu : CpuMaps) : Stage (PacketDescription × Nat) :=
  let iph := data + off
  let protocol := memory (iph + 9)
  let pktBytes := bpfNtohs (memory.loadWord (iph + 2) 2)
  let pckt : PacketDescription :=
    { emptyPacket with
      flow := { emptyFlow with proto := protocol }
      tos := memory (iph + 1) }
  if dataEnd < iph + 20 then .verdict xdpDrop memory cpu
  else if (memory iph).toNat % 16 ≠ 5 then .verdict xdpDrop memory cpu
  else if memory.loadWord (iph + 6) 2 &&& pcktFragmented ≠ 0 then .verdict xdpDrop memory cpu
  else if protocol = ipprotoIcmp then
    (parseIcmp memory data dataEnd (off + 20) pckt cpu).withBytes pktBytes
  else
    .further
      ({ pckt with
          flow :=
            { pckt.flow with
              srcv6 := addressOfV4 (loadWord32 memory (iph + 12))
              dstv6 := addressOfV4 (loadWord32 memory (iph + 16)) } }, pktBytes) cpu

def processL3Headers (isIpv6 : Bool) (cpu : CpuMaps) : Stage (PacketDescription × Nat) :=
  if isIpv6 then processIpv6Headers memory data dataEnd off cpu
  else processIpv4Headers memory data dataEnd off cpu

/-- The first part of `process_packet`, up to the lookup of the VIP. -/
def parsePacket (isIpv6 : Bool) (cpu : CpuMaps) : Stage (PacketDescription × Nat) :=
  match processL3Headers memory data dataEnd off isIpv6 cpu with
  | .verdict action memory cpu => .verdict action memory cpu
  | .further (pckt, pktBytes) cpu =>
      if pckt.flow.proto = ipprotoTcp then
        match parseTcp memory data dataEnd isIpv6 pckt with
        | none => .verdict xdpDrop memory cpu
        | some pckt => .further (pckt, pktBytes) cpu
      else if pckt.flow.proto = ipprotoUdp then
        match parseUdp memory data dataEnd isIpv6 pckt with
        | none => .verdict xdpDrop memory cpu
        | some pckt => .further (pckt, pktBytes) cpu
      else .verdict xdpPass memory cpu

/-- Codes that a QUIC server would ignore. -/
def ignorableQuicIcmpCode (isIpv6 : Bool) : Bool :=
  if isIpv6 then
    let code := memory (data + 14 + 40 + 1)
    code == icmpv6AddrUnreach || code == icmpv6PortUnreach
  else
    let code := memory (data + 14 + 20 + 1)
    code == icmpPortUnreach || code == icmpHostUnreach

end Internet

end UserspaceXdp.Katran
