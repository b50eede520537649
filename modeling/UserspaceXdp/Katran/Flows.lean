import UserspaceXdp.Katran.Forwarding

/-!
Contract: the flow of a packet and where the ring sends it.

Owns: the flow as a function of the received packet, the key of its connection, its
position on the ring as a function of the flow and of the control plane, and the
ICMP errors that belong to a flow.

Does not own: the connection tables.
-/

namespace UserspaceXdp.Katran

open UserspaceXdp.Foundation
open UserspaceXdp.Runtime
open UserspaceXdp.Maps
open UserspaceXdp.Checksum

/-! ## Received packets -/

/-- What a parser read, if it goes on. -/
def Stage.value {Value : Type} : Stage Value → Option Value
  | .verdict _ _ _ => none
  | .further value _ => some value

/-- The version and the description of a packet that the program looks up a VIP
for. -/
def receivedPacket (xdp : Window) : Option (Bool × PacketDescription) :=
  let data := xdp.context.data
  let dataEnd := xdp.context.dataEnd
  if dataEnd < data + 14 then none
  else if xdp.memory.loadWord (data + 12) 2 = beEthPIp then
    (parsePacket xdp.memory data dataEnd 14 false zeroCpu).value.map fun value => (false, value.1)
  else if xdp.memory.loadWord (data + 12) 2 = beEthPIpv6 then
    (parsePacket xdp.memory data dataEnd 14 true zeroCpu).value.map fun value => (true, value.1)
  else none

section Parsed

variable (memory : Memory) (data dataEnd off : Nat) (cpu cpu' : CpuMaps)

theorem parseIcmp_value (pckt : PacketDescription) :
    (parseIcmp memory data dataEnd off pckt cpu).value =
      (parseIcmp memory data dataEnd off pckt cpu').value := by
  unfold parseIcmp
  dsimp only
  split_ifs <;> rfl

theorem parseIcmpv6_value (pckt : PacketDescription) :
    (parseIcmpv6 memory data dataEnd off pckt cpu).value =
      (parseIcmpv6 memory data dataEnd off pckt cpu').value := by
  unfold parseIcmpv6
  dsimp only
  split_ifs <;> rfl

theorem withBytes_value (stage : Stage PacketDescription) (pktBytes : Nat) :
    (stage.withBytes pktBytes).value = stage.value.map fun pckt => (pckt, pktBytes) := by
  cases stage with
  | verdict action memory cpu => rfl
  | further pckt cpu => rfl

theorem processL3Headers_value (isIpv6 : Bool) :
    (processL3Headers memory data dataEnd off isIpv6 cpu).value =
      (processL3Headers memory data dataEnd off isIpv6 cpu').value := by
  cases isIpv6 with
  | true =>
      show (processIpv6Headers memory data dataEnd off cpu).value =
        (processIpv6Headers memory data dataEnd off cpu').value
      unfold processIpv6Headers
      dsimp only
      split_ifs
      · rfl
      · rfl
      · rw [withBytes_value, withBytes_value, parseIcmpv6_value]
      · rfl
  | false =>
      show (processIpv4Headers memory data dataEnd off cpu).value =
        (processIpv4Headers memory data dataEnd off cpu').value
      unfold processIpv4Headers
      dsimp only
      split_ifs
      · rfl
      · rfl
      · rfl
      · rw [withBytes_value, withBytes_value, parseIcmp_value]
      · rfl

/-- The second half of the parser. -/
def parseTransport (isIpv6 : Bool) (value : PacketDescription × Nat) :
    Option (PacketDescription × Nat) :=
  if value.1.flow.proto = ipprotoTcp then
    (parseTcp memory data dataEnd isIpv6 value.1).map fun pckt => (pckt, value.2)
  else if value.1.flow.proto = ipprotoUdp then
    (parseUdp memory data dataEnd isIpv6 value.1).map fun pckt => (pckt, value.2)
  else none

theorem parsePacket_value_eq (isIpv6 : Bool) :
    (parsePacket memory data dataEnd off isIpv6 cpu).value =
      (processL3Headers memory data dataEnd off isIpv6 cpu).value.bind
        (parseTransport memory data dataEnd isIpv6) := by
  unfold parsePacket
  split
  · rename_i parsed
    rw [parsed]
    rfl
  · rename_i pckt pktBytes after parsed
    rw [parsed]
    show _ = parseTransport memory data dataEnd isIpv6 (pckt, pktBytes)
    unfold parseTransport
    split_ifs
    · split
      · rename_i short
        rw [short]
        rfl
      · rename_i read
        rw [read]
        rfl
    · split
      · rename_i short
        rw [short]
        rfl
      · rename_i read
        rw [read]
        rfl
    · rfl

/-- What is read does not depend on the counters. -/
theorem parsePacket_value (isIpv6 : Bool) :
    (parsePacket memory data dataEnd off isIpv6 cpu).value =
      (parsePacket memory data dataEnd off isIpv6 cpu').value := by
  rw [parsePacket_value_eq, parsePacket_value_eq,
    processL3Headers_value memory data dataEnd off cpu cpu']

end Parsed

/-! ## Services -/

/-- The key that the program looks up in the connection table. -/
def tableFlow (vipInfo : VipMeta) (flow : FlowKey) : FlowKey :=
  if vipInfo.has fHashNoSrcPort then setSourcePort flow 0 else flow

/-- The service of a flow, and the flow's key in the connection table. -/
structure Service where
  vip : VipDefinition
  vipInfo : VipMeta
  key : FlowKey

section Services

variable (control : Control) (isIpv6 : Bool)

def flowService (flow : FlowKey) : Option Service :=
  (lookupVip control isIpv6 { emptyPacket with flow }).map fun found =>
    ⟨found.1, found.2.1, tableFlow found.2.1 found.2.2.flow⟩

/-- The key under which `get_packet_dst` stores a connection. -/
def Service.ringFlow (service : Service) : FlowKey :=
  hashedFlow service.vipInfo service.key

def Service.ringReal (service : Service) : Option UInt32 :=
  arrayLookup control.chRings chRingsSize (ringKey service.vipInfo isIpv6 service.ringFlow)

/-- The position that the ring has for a flow; `none` without a service, and for the
services whose packets may name their server. -/
def ringPosition (flow : FlowKey) : Option UInt32 :=
  match flowService control isIpv6 flow with
  | none => none
  | some service =>
      if service.vipInfo.has fQuicVip then none else service.ringReal control isIpv6

end Services

section Keys

variable {control : Control} {isIpv6 : Bool}

theorem lookupVip_service {pckt read : PacketDescription} {vip : VipDefinition} {vipInfo : VipMeta}
    (found : lookupVip control isIpv6 pckt = some (vip, vipInfo, read)) :
    flowService control isIpv6 pckt.flow = some ⟨vip, vipInfo, tableFlow vipInfo read.flow⟩ ∧
      read = { pckt with flow := read.flow } ∧ read.flow.dstv6 = pckt.flow.dstv6 ∧
        read.flow.proto = pckt.flow.proto := by
  unfold lookupVip at found
  unfold flowService lookupVip
  dsimp only at found ⊢
  split at found
  · cases found
    exact ⟨rfl, rfl, rfl, rfl⟩
  · split at found
    · cases found
    · split at found
      · rename_i anyPort
        rw [if_pos anyPort]
        cases found
        exact ⟨rfl, rfl, rfl, rfl⟩
      · rename_i ports
        rw [if_neg ports]
        cases found
        exact ⟨rfl, rfl, rfl, rfl⟩

theorem lookupVip_unserved {pckt : PacketDescription}
    (missing : lookupVip control isIpv6 pckt = none) :
    flowService control isIpv6 pckt.flow = none := by
  unfold lookupVip at missing
  unfold flowService lookupVip
  dsimp only at missing ⊢
  split at missing
  · cases missing
  · split at missing
    · rfl
    · split at missing <;> cases missing

@[simp] theorem setSourcePort_destination (flow : FlowKey) (source : Nat) :
    destinationPort (setSourcePort flow source) = destinationPort flow := by
  unfold setSourcePort
  rw [destinationPort_setPorts, Nat.mod_eq_of_lt (destinationPort_lt flow)]

theorem tableFlow_destination (vipInfo : VipMeta) (flow : FlowKey) :
    destinationPort (tableFlow vipInfo flow) = destinationPort flow := by
  unfold tableFlow
  split
  · exact setSourcePort_destination flow 0
  · rfl

/-- A flow to the same address and port, over the same protocol, has the same
service. -/
theorem flowService_congr {flow other : FlowKey} {service : Service}
    (found : flowService control isIpv6 flow = some service) (dst : other.dstv6 = flow.dstv6)
    (proto : other.proto = flow.proto)
    (port : destinationPort other = destinationPort service.key) :
    flowService control isIpv6 other =
      some ⟨service.vip, service.vipInfo, tableFlow service.vipInfo other⟩ := by
  have first : other.dst = flow.dst := congrFun dst 0
  unfold flowService lookupVip at found ⊢
  dsimp only at found ⊢
  rw [dst, first, proto]
  generalize (if isIpv6 then flow.dstv6 else addressOfV4 flow.dst) = address at found ⊢
  split at found
  · rename_i vipInfo known
    cases found
    rw [tableFlow_destination] at port
    rw [port, known]
    rfl
  · rename_i unknown
    split at found
    · cases found
    · rename_i vipInfo known
      split at found
      · rename_i anyPort
        cases found
        have zero : destinationPort other = 0 := by
          rw [port, tableFlow_destination]
          exact destinationPort_setPorts _ _ _
        rw [zero, known]
        rfl
      · rename_i ports
        cases found
        rw [tableFlow_destination] at port
        rw [port, unknown]
        dsimp only
        rw [if_neg ports]
        rfl

theorem tableFlow_idem (vipInfo : VipMeta) (flow : FlowKey) :
    tableFlow vipInfo (tableFlow vipInfo flow) = tableFlow vipInfo flow := by
  unfold tableFlow
  split
  · show setSourcePort (setSourcePort flow 0) 0 = setSourcePort flow 0
    unfold setSourcePort
    rw [setPorts_setPorts, destinationPort_setPorts, Nat.mod_eq_of_lt (destinationPort_lt flow)]
  · rfl

theorem hashedFlow_destination (vipInfo : VipMeta) (flow : FlowKey) :
    destinationPort (hashedFlow vipInfo flow) = destinationPort flow := by
  unfold hashedFlow
  split
  · exact setSourcePort_destination flow _
  · rfl

theorem tableFlow_dstv6 (vipInfo : VipMeta) (flow : FlowKey) :
    (tableFlow vipInfo flow).dstv6 = flow.dstv6 := by
  unfold tableFlow
  split <;> rfl

theorem tableFlow_proto (vipInfo : VipMeta) (flow : FlowKey) :
    (tableFlow vipInfo flow).proto = flow.proto := by
  unfold tableFlow
  split <;> rfl

theorem hashDportOnly_congr {left right : FlowKey} (dst : left.dstv6 = right.dstv6)
    (proto : left.proto = right.proto) (port : destinationPort left = destinationPort right) :
    hashDportOnly left = hashDportOnly right := by
  unfold hashDportOnly setSourcePort setPorts
  simp only [dst, proto, port]

/-- The source port that a key lacks does not matter for what is hashed. -/
theorem hashedFlow_tableFlow (vipInfo : VipMeta) (flow : FlowKey) :
    hashedFlow vipInfo (tableFlow vipInfo (hashedFlow vipInfo (tableFlow vipInfo flow))) =
      hashedFlow vipInfo (tableFlow vipInfo flow) := by
  unfold hashedFlow
  split
  · apply hashDportOnly_congr
    · rw [tableFlow_dstv6]
      rfl
    · rw [tableFlow_proto]
      rfl
    · rw [tableFlow_destination]
      exact setSourcePort_destination _ _
  · exact tableFlow_idem vipInfo flow

theorem flowService_known {flow : FlowKey} {service : Service}
    (found : flowService control isIpv6 flow = some service) :
    control.vipMap service.vip = some service.vipInfo ∧
      service.key = tableFlow service.vipInfo service.key ∧
      service.key.dstv6 = flow.dstv6 ∧ service.key.proto = flow.proto := by
  obtain ⟨read, lookup, same⟩ := Option.map_eq_some_iff.mp found
  obtain ⟨-, -, dst, proto⟩ := lookupVip_service lookup
  have known := (lookupVip_known lookup).1
  cases same
  exact ⟨known, (tableFlow_idem _ _).symm, (tableFlow_dstv6 _ _).trans dst,
    (tableFlow_proto _ _).trans proto⟩

/-- The key of a connection has the service of the connection. -/
theorem flowService_key {flow : FlowKey} {service : Service}
    (found : flowService control isIpv6 flow = some service) :
    flowService control isIpv6 service.key = some service := by
  obtain ⟨-, key, dst, proto⟩ := flowService_known found
  rw [flowService_congr found dst proto rfl, ← key]

theorem flowService_ringFlow {flow : FlowKey} {service : Service}
    (found : flowService control isIpv6 flow = some service) :
    flowService control isIpv6 service.ringFlow =
      some { service with key := tableFlow service.vipInfo service.ringFlow } := by
  obtain ⟨-, -, dst, proto⟩ := flowService_known found
  have kept : service.ringFlow.dstv6 = service.key.dstv6 ∧
      service.ringFlow.proto = service.key.proto := by
    unfold Service.ringFlow hashedFlow
    split <;> exact ⟨rfl, rfl⟩
  exact flowService_congr found (kept.1.trans dst) (kept.2.trans proto)
    (hashedFlow_destination _ _)

theorem ringPosition_eq {flow : FlowKey} {service : Service}
    (found : flowService control isIpv6 flow = some service) :
    ringPosition control isIpv6 flow =
      if service.vipInfo.has fQuicVip then none else service.ringReal control isIpv6 := by
  unfold ringPosition
  rw [found]

/-- The key has the position of the flow. -/
theorem ringPosition_key {flow : FlowKey} {service : Service}
    (found : flowService control isIpv6 flow = some service) :
    ringPosition control isIpv6 service.key = ringPosition control isIpv6 flow := by
  rw [ringPosition_eq found, ringPosition_eq (flowService_key found)]

/-- So has the key under which the connection is stored. -/
theorem ringPosition_ringFlow {flow : FlowKey} {service : Service}
    (found : flowService control isIpv6 flow = some service) :
    ringPosition control isIpv6 service.ringFlow = ringPosition control isIpv6 flow := by
  obtain ⟨-, key, -, -⟩ := flowService_known found
  have hashed : hashedFlow service.vipInfo (tableFlow service.vipInfo service.ringFlow) =
      service.ringFlow := by
    have again := hashedFlow_tableFlow service.vipInfo service.key
    rw [← key] at again
    exact again
  rw [ringPosition_eq found, ringPosition_eq (flowService_ringFlow found)]
  show (if service.vipInfo.has fQuicVip then none
    else arrayLookup control.chRings chRingsSize (ringKey service.vipInfo isIpv6
      (hashedFlow service.vipInfo (tableFlow service.vipInfo service.ringFlow)))) = _
  rw [hashed]
  rfl

/-- The ring has a position for every flow of a numbered VIP. -/
theorem ringReal_isSome {service : Service} (numbered : service.vipInfo.vipNum.toNat < maxVips) :
    ∃ position, service.ringReal control isIpv6 = some position := by
  have remainder := Nat.mod_lt (getPacketHash service.ringFlow isIpv6).toNat
    (by decide : 0 < ringSize)
  have below : ringKey service.vipInfo isIpv6 service.ringFlow < chRingsSize := by
    unfold ringKey
    generalize (getPacketHash service.ringFlow isIpv6).toNat % ringSize = hash at remainder ⊢
    have row : ringSize * service.vipInfo.vipNum.toNat + hash < chRingsSize := by
      unfold maxVips at numbered
      unfold chRingsSize maxVips
      unfold ringSize at remainder ⊢
      omega
    exact lt_of_le_of_lt (Nat.mod_le _ _) row
  exact ⟨_, if_pos below⟩

end Keys

/-! ## ICMP errors -/

def ipHeaderSize (isIpv6 : Bool) : Nat := if isIpv6 then 40 else 20

/-- How much of a transport header is read. -/
def transportSize (proto : UInt8) : Nat := if proto = ipprotoTcp then 20 else 8

/-- The flow that the headers at an address name, without its ports. -/
def headerAddresses (memory : Memory) (header : Nat) (isIpv6 : Bool) : FlowKey :=
  if isIpv6 then
    { emptyFlow with
      srcv6 := loadAddress memory (header + 8)
      dstv6 := loadAddress memory (header + 24)
      proto := memory (header + 6) }
  else
    { emptyFlow with
      srcv6 := addressOfV4 (loadWord32 memory (header + 12))
      dstv6 := addressOfV4 (loadWord32 memory (header + 16))
      proto := memory (header + 9) }

/-- The flow of a packet whose headers are at an address. -/
def headerFlow (memory : Memory) (header : Nat) (isIpv6 : Bool) : FlowKey :=
  setPorts (headerAddresses memory header isIpv6)
    (memory.loadWord (header + ipHeaderSize isIpv6) 2)
    (memory.loadWord (header + ipHeaderSize isIpv6 + 2) 2)

/-- The flow in the other direction. -/
def reverseFlow (flow : FlowKey) : FlowKey :=
  { srcv6 := flow.dstv6
    dstv6 := flow.srcv6
    ports := packPorts (destinationPort flow) (sourcePort flow)
    proto := flow.proto }

section Headers

variable {memory : Memory} {data dataEnd : Nat} {isIpv6 : Bool}

theorem parseTransport_some {pckt read : PacketDescription} {pktBytes pktBytes' : Nat}
    (parsed : parseTransport memory data dataEnd isIpv6 (pckt, pktBytes) = some (read, pktBytes')) :
    (pckt.flow.proto = ipprotoTcp ∨ pckt.flow.proto = ipprotoUdp) ∧
      data + calcOffset isIpv6 pckt.icmp + transportSize pckt.flow.proto ≤ dataEnd ∧
      read.flow = readPorts memory pckt (data + calcOffset isIpv6 pckt.icmp) ∧
      read.icmp = pckt.icmp := by
  unfold parseTransport parseTcp parseUdp at parsed
  dsimp only at parsed
  unfold transportSize
  split_ifs at parsed with tcp short udp short
  · cases parsed
  · cases parsed
    rw [if_pos tcp]
    exact ⟨Or.inl tcp, Nat.not_lt.mp short, rfl, rfl⟩
  · cases parsed
  · cases parsed
    rw [if_neg tcp]
    exact ⟨Or.inr udp, Nat.not_lt.mp short, rfl, rfl⟩

/-- A transport header that is long enough is read. -/
theorem parseTransport_reads (memory : Memory) (data dataEnd : Nat) (isIpv6 : Bool)
    (pckt : PacketDescription) (pktBytes : Nat)
    (served : pckt.flow.proto = ipprotoTcp ∨ pckt.flow.proto = ipprotoUdp) :
    (parseTransport memory data dataEnd isIpv6 (pckt, pktBytes)).map (·.1.flow) =
      if dataEnd < data + calcOffset isIpv6 pckt.icmp + transportSize pckt.flow.proto then none
      else some (readPorts memory pckt (data + calcOffset isIpv6 pckt.icmp)) := by
  have other : ¬ ipprotoUdp = ipprotoTcp := by decide
  unfold parseTransport parseTcp parseUdp transportSize
  dsimp only
  rcases served with tcp | udp
  · rw [if_pos tcp, if_pos tcp]
    split_ifs <;> rfl
  · rw [udp, if_neg other, if_neg other, if_pos rfl]
    split_ifs <;> rfl

/-- A packet that is no ICMP message names its flow itself. -/
theorem processL3Headers_flow {off pktBytes : Nat} {cpu : CpuMaps} {pckt : PacketDescription}
    (parsed : (processL3Headers memory data dataEnd off isIpv6 cpu).value = some (pckt, pktBytes))
    (plain : pckt.icmp = false) :
    pckt.flow = headerAddresses memory (data + off) isIpv6 := by
  cases isIpv6 with
  | true =>
      change (processIpv6Headers memory data dataEnd off cpu).value = _ at parsed
      unfold processIpv6Headers at parsed
      dsimp only at parsed
      split_ifs at parsed
      · cases parsed
      · cases parsed
      · rw [withBytes_value] at parsed
        unfold parseIcmpv6 at parsed
        dsimp only at parsed
        split_ifs at parsed <;> cases parsed <;> cases plain
      · cases parsed
        rfl
  | false =>
      change (processIpv4Headers memory data dataEnd off cpu).value = _ at parsed
      unfold processIpv4Headers at parsed
      dsimp only at parsed
      split_ifs at parsed
      · cases parsed
      · cases parsed
      · cases parsed
      · rw [withBytes_value] at parsed
        unfold parseIcmp at parsed
        dsimp only at parsed
        split_ifs at parsed <;> cases parsed <;> cases plain
      · cases parsed
        rfl

end Headers

/-- An ICMP error about a packet, with the first bytes of the packet behind its
header. -/
structure QuotesPacket (isIpv6 : Bool) (xdp quoted : Window) (count : Nat) : Prop where
  length : xdp.context.dataEnd = xdp.context.data + 14 + ipHeaderSize isIpv6 + 8 + count
  type : xdp.memory.loadWord (xdp.context.data + 12) 2 = if isIpv6 then beEthPIpv6 else beEthPIp
  plain : isIpv6 = false → (xdp.memory (xdp.context.data + 14)).toNat % 16 = 5 ∧
    xdp.memory.loadWord (xdp.context.data + 20) 2 &&& pcktFragmented = 0
  protocol : xdp.memory (xdp.context.data + 14 + if isIpv6 then 6 else 9) =
    if isIpv6 then ipprotoIcmpv6 else ipprotoIcmp
  error : xdp.memory (xdp.context.data + 14 + ipHeaderSize isIpv6) ∈
    if isIpv6 then [icmpv6PktToobig, icmpv6DestUnreach] else [icmpDestUnreach]
  bytes : ∀ index < count,
    xdp.memory (xdp.context.data + 14 + ipHeaderSize isIpv6 + 8 + index) =
      quoted.memory (quoted.context.data + 14 + index)

section Errors

variable {isIpv6 : Bool} {xdp quoted : Window} {count : Nat}

/-- The addresses the other way round, without ports. -/
def reverseAddresses (flow : FlowKey) : FlowKey :=
  { emptyFlow with srcv6 := flow.dstv6, dstv6 := flow.srcv6, proto := flow.proto }

theorem reverseFlow_headerFlow (memory : Memory) (header : Nat) (isIpv6 : Bool) :
    reverseFlow (headerFlow memory header isIpv6) =
      setPorts (reverseAddresses (headerAddresses memory header isIpv6))
        (memory.loadWord (header + ipHeaderSize isIpv6 + 2) 2)
        (memory.loadWord (header + ipHeaderSize isIpv6) 2) := by
  unfold reverseFlow headerFlow
  rw [sourcePort_setPorts, destinationPort_setPorts]
  unfold packPorts
  rw [Nat.mod_mod, Nat.mod_mod]
  rfl

/-- The same headers name the same flow. -/
theorem headerAddresses_congr {left right : Memory} {leftHeader rightHeader : Nat}
    (same : ∀ index < ipHeaderSize isIpv6, left (leftHeader + index) = right (rightHeader + index)) :
    headerAddresses left leftHeader isIpv6 = headerAddresses right rightHeader isIpv6 := by
  have word (offset : Nat) (inside : offset + 4 ≤ ipHeaderSize isIpv6) :
      loadWord32 left (leftHeader + offset) = loadWord32 right (rightHeader + offset) := by
    unfold loadWord32
    congr 1
    rw [Memory.loadWord_eq_iff]
    intro index below
    rw [Nat.add_assoc, Nat.add_assoc]
    exact same (offset + index) (by omega)
  cases isIpv6 with
  | true =>
      have address (offset : Nat) (inside : offset + 16 ≤ 40) :
          loadAddress left (leftHeader + offset) = loadAddress right (rightHeader + offset) := by
        funext index
        unfold loadAddress
        rw [Nat.add_assoc, Nat.add_assoc]
        exact word _ (by show _ ≤ 40; omega)
      unfold headerAddresses
      rw [if_pos rfl, if_pos rfl, address 8 (by decide), address 24 (by decide), same 6 (by decide)]
  | false =>
      unfold headerAddresses
      rw [if_neg Bool.false_ne_true, if_neg Bool.false_ne_true, word 12 (by decide), word 16 (by decide), same 9 (by decide)]

/-- The error is a packet of the flow that the quoted header names in reverse. -/
theorem quoted_addresses (quotes : QuotesPacket isIpv6 xdp quoted count)
    (ihl : isIpv6 = false → 20 ≤ count →
      (quoted.memory (quoted.context.data + 14)).toNat % 16 = 5) :
    ∃ pckt pktBytes, pckt.icmp = true ∧
      pckt.flow = reverseAddresses (headerAddresses xdp.memory
        (xdp.context.data + 14 + ipHeaderSize isIpv6 + 8) isIpv6) ∧
      (processL3Headers xdp.memory xdp.context.data xdp.context.dataEnd 14 isIpv6 zeroCpu).value =
        if count < ipHeaderSize isIpv6 then none else some (pckt, pktBytes) := by
  have length := quotes.length
  have type := quotes.error
  cases isIpv6 with
  | true =>
      refine ⟨{ emptyPacket with
        icmp := true
        flow := reverseAddresses (headerAddresses xdp.memory (xdp.context.data + 62) true)
        tos := headerTos xdp.memory (xdp.context.data + 14) true },
        headerBytes xdp.memory (xdp.context.data + 14) true, rfl, rfl, ?_⟩
      have protocol : xdp.memory (xdp.context.data + 14 + 6) = ipprotoIcmpv6 := quotes.protocol
      have fragment : ¬ ipprotoIcmpv6 = ipprotoFragment := by decide
      have whole : ¬ xdp.context.dataEnd < xdp.context.data + 14 + 40 + 8 := by
        rw [length]
        show ¬ xdp.context.data + 14 + 40 + 8 + count < _
        omega
      have short : xdp.context.dataEnd < xdp.context.data + 14 + 40 + 8 + 40 ↔ count < 40 := by
        rw [length]
        show xdp.context.data + 14 + 40 + 8 + count < _ ↔ _
        omega
      change xdp.memory (xdp.context.data + 14 + 40) ∈ [icmpv6PktToobig, icmpv6DestUnreach] at type
      obtain ⟨request, error⟩ : ¬ xdp.memory (xdp.context.data + 14 + 40) = icmpv6EchoRequest ∧
          ¬ (xdp.memory (xdp.context.data + 14 + 40) ≠ icmpv6PktToobig ∧
            xdp.memory (xdp.context.data + 14 + 40) ≠ icmpv6DestUnreach) := by
        rcases List.mem_pair.mp type with big | unreach
        · rw [big]
          decide
        · rw [unreach]
          decide
      show (processIpv6Headers _ _ _ _ _).value = _
      unfold processIpv6Headers
      dsimp only
      rw [protocol, if_neg (by omega), if_neg fragment, if_pos rfl, withBytes_value]
      unfold parseIcmpv6
      dsimp only
      rw [← Nat.add_assoc, if_neg whole, if_neg request, if_neg error]
      by_cases cut : count < 40
      · rw [if_pos (short.mpr cut)]
        exact (if_pos cut).symm
      · rw [if_neg (mt short.mp cut)]
        exact (if_neg cut).symm
  | false =>
      refine ⟨{ emptyPacket with
        icmp := true
        flow := reverseAddresses (headerAddresses xdp.memory (xdp.context.data + 42) false)
        tos := headerTos xdp.memory (xdp.context.data + 14) false },
        headerBytes xdp.memory (xdp.context.data + 14) false, rfl, rfl, ?_⟩
      obtain ⟨ihlOuter, unfragmented⟩ := quotes.plain rfl
      have protocol : xdp.memory (xdp.context.data + 14 + 9) = ipprotoIcmp := quotes.protocol
      have whole : ¬ xdp.context.dataEnd < xdp.context.data + 14 + 20 + 8 := by
        rw [length]
        show ¬ xdp.context.data + 14 + 20 + 8 + count < _
        omega
      have short : xdp.context.dataEnd < xdp.context.data + 14 + 20 + 8 + 20 ↔ count < 20 := by
        rw [length]
        show xdp.context.data + 14 + 20 + 8 + count < _ ↔ _
        omega
      change xdp.memory (xdp.context.data + 14 + 20) ∈ [icmpDestUnreach] at type
      have unreach := List.mem_singleton.mp type
      have request : ¬ icmpDestUnreach = icmpEcho := by decide
      show (processIpv4Headers _ _ _ _ _).value = _
      unfold processIpv4Headers
      dsimp only
      rw [protocol, if_neg (by omega), if_neg (not_not.mpr ihlOuter),
        if_neg (not_not.mpr unfragmented), if_pos rfl, withBytes_value]
      unfold parseIcmp
      dsimp only
      rw [← Nat.add_assoc, unreach, if_neg whole, if_neg request, if_neg (not_not.mpr rfl)]
      by_cases cut : count < 20
      · rw [if_pos (short.mpr cut)]
        exact (if_pos cut).symm
      · have inner : (xdp.memory (xdp.context.data + 14 + 20 + 8)).toNat % 16 = 5 := by
          have first : xdp.memory (xdp.context.data + 14 + 20 + 8 + 0) = _ :=
            quotes.bytes 0 (by omega)
          rw [Nat.add_zero] at first
          rw [first]
          exact ihl rfl (Nat.not_lt.mp cut)
        rw [if_neg (mt short.mp cut), if_neg (not_not.mpr inner)]
        exact (if_neg cut).symm

/-- A packet of either version, behind its Ethernet header. -/
theorem receivedPacket_eq (whole : xdp.context.data + 14 ≤ xdp.context.dataEnd)
    (type : xdp.memory.loadWord (xdp.context.data + 12) 2 =
      if isIpv6 then beEthPIpv6 else beEthPIp) :
    receivedPacket xdp =
      ((processL3Headers xdp.memory xdp.context.data xdp.context.dataEnd 14 isIpv6
        zeroCpu).value.bind (parseTransport xdp.memory xdp.context.data xdp.context.dataEnd
          isIpv6)).map fun value => (isIpv6, value.1) := by
  unfold receivedPacket
  dsimp only
  rw [if_neg (Nat.not_lt.mpr whole)]
  cases isIpv6 with
  | true =>
      have other : ¬ beEthPIpv6 = beEthPIp := by decide
      change _ = beEthPIpv6 at type
      rw [type, if_neg other, if_pos rfl, parsePacket_value_eq]
  | false =>
      change _ = beEthPIp at type
      rw [type, if_pos rfl, parsePacket_value_eq]

theorem receivedPacket_some {pckt : PacketDescription}
    (received : receivedPacket xdp = some (isIpv6, pckt)) :
    xdp.context.data + 14 ≤ xdp.context.dataEnd ∧
      xdp.memory.loadWord (xdp.context.data + 12) 2 = (if isIpv6 then beEthPIpv6 else beEthPIp) := by
  unfold receivedPacket at received
  dsimp only at received
  split_ifs at received with short v4 v6
  · obtain ⟨value, -, same⟩ := Option.map_eq_some_iff.mp received
    cases same
    exact ⟨Nat.not_lt.mp short, v4⟩
  · obtain ⟨value, -, same⟩ := Option.map_eq_some_iff.mp received
    cases same
    exact ⟨Nat.not_lt.mp short, v6⟩

/-- What is known of a packet that is no ICMP message. -/
theorem receivedPacket_plain {pckt : PacketDescription}
    (received : receivedPacket xdp = some (isIpv6, pckt)) (plain : pckt.icmp = false) :
    pckt.flow = headerFlow xdp.memory (xdp.context.data + 14) isIpv6 ∧
      (pckt.flow.proto = ipprotoTcp ∨ pckt.flow.proto = ipprotoUdp) ∧
      (isIpv6 = false → (xdp.memory (xdp.context.data + 14)).toNat % 16 = 5) := by
  obtain ⟨whole, type⟩ := receivedPacket_some received
  rw [receivedPacket_eq whole type] at received
  obtain ⟨⟨pckt', pktBytes⟩, parsed, same⟩ := Option.map_eq_some_iff.mp received
  cases same
  obtain ⟨⟨l3, bytes⟩, headers, transport⟩ := Option.bind_eq_some_iff.mp parsed
  obtain ⟨served, -, flow, icmp⟩ := parseTransport_some transport
  have noIcmp : l3.icmp = false := icmp.symm.trans plain
  have addresses := processL3Headers_flow headers noIcmp
  have ports : readPorts xdp.memory l3 (xdp.context.data + calcOffset isIpv6 l3.icmp) =
      headerFlow xdp.memory (xdp.context.data + 14) isIpv6 := by
    unfold readPorts headerFlow
    rw [noIcmp, if_neg Bool.false_ne_true, addresses]
    cases isIpv6 <;> rfl
  refine ⟨flow.trans ports, ?_, ?_⟩
  · rw [flow, show (readPorts xdp.memory l3 _).proto = l3.flow.proto from by
      unfold readPorts; split <;> rfl]
    exact served
  · intro v4
    cases v4
    change (processIpv4Headers _ _ _ _ _).value = _ at headers
    unfold processIpv4Headers at headers
    dsimp only at headers
    split_ifs at headers with short options
    · cases headers
    · cases headers
    all_goals exact not_not.mp options

/-- An ICMP error about a packet is received as a packet of the opposite flow, if it
quotes as much as is read of the transport header. -/
theorem receivedPacket_quotes (quotes : QuotesPacket isIpv6 xdp quoted count)
    {sent : PacketDescription} (received : receivedPacket quoted = some (isIpv6, sent))
    (plain : sent.icmp = false) :
    (receivedPacket xdp).map (fun packet => (packet.1, packet.2.flow)) =
      if count < ipHeaderSize isIpv6 + transportSize sent.flow.proto then none
      else some (isIpv6, reverseFlow sent.flow) := by
  obtain ⟨flow, served, ihl⟩ := receivedPacket_plain received plain
  obtain ⟨pckt, pktBytes, icmp, reversed, parsed⟩ := quoted_addresses quotes fun v4 _ => ihl v4
  have length := quotes.length
  rw [receivedPacket_eq (by omega) quotes.type, parsed, Option.map_map]
  by_cases cut : count < ipHeaderSize isIpv6
  · rw [if_pos cut, if_pos (by omega)]
    rfl
  · have addresses : headerAddresses xdp.memory
        (xdp.context.data + 14 + ipHeaderSize isIpv6 + 8) isIpv6 =
          headerAddresses quoted.memory (quoted.context.data + 14) isIpv6 :=
      headerAddresses_congr fun index below => quotes.bytes index (by omega)
    have proto : pckt.flow.proto = sent.flow.proto := by
      rw [reversed, flow, addresses]
      rfl
    have read : sent.flow.proto = pckt.flow.proto := proto.symm
    have start : xdp.context.data + calcOffset isIpv6 true =
        xdp.context.data + 14 + ipHeaderSize isIpv6 + 8 + ipHeaderSize isIpv6 := by
      cases isIpv6 <;> rfl
    have size : 4 ≤ transportSize pckt.flow.proto := by
      unfold transportSize
      split <;> decide
    have reads := parseTransport_reads xdp.memory xdp.context.data xdp.context.dataEnd isIpv6 pckt
      pktBytes (read ▸ served)
    rw [if_neg cut, read]
    show Option.map _ (parseTransport _ _ _ _ (pckt, pktBytes)) = _
    have shown := congrArg (Option.map fun flow => (isIpv6, flow)) reads
    rw [Option.map_map] at shown
    refine Eq.trans shown ?_
    rw [icmp, start, length]
    by_cases short : count < ipHeaderSize isIpv6 + transportSize pckt.flow.proto
    · rw [if_pos short, if_pos (by omega)]
      rfl
    · have port (offset : Nat) (inside : offset + 2 ≤ 4) :
          xdp.memory.loadWord (xdp.context.data + 14 + ipHeaderSize isIpv6 + 8 +
              ipHeaderSize isIpv6 + offset) 2 =
            quoted.memory.loadWord (quoted.context.data + 14 + ipHeaderSize isIpv6 + offset) 2 := by
        rw [Memory.loadWord_eq_iff]
        intro index below
        have same := quotes.bytes (ipHeaderSize isIpv6 + offset + index) (by omega)
        simp only [← Nat.add_assoc] at same
        exact same
      rw [if_neg short, if_neg (by omega), flow, reverseFlow_headerFlow]
      unfold readPorts
      rw [if_pos icmp, reversed, addresses, port 2 (by decide)]
      have source := port 0 (by decide)
      rw [Nat.add_zero, Nat.add_zero] at source
      rw [source]
      rfl

end Errors

end UserspaceXdp.Katran
