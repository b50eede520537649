import UserspaceXdp.Katran.Quic

/-!
Contract: the balancer stays within the packet and the room in front of it.

Owns: that nothing outside a packet is read, neither by one packet nor over a run, and
that nothing behind it or before its headroom is written.

Does not own: the helper that moves the head.
-/

namespace UserspaceXdp.Katran

open UserspaceXdp.Foundation
open UserspaceXdp.Runtime
open UserspaceXdp.Maps
open UserspaceXdp.Programs (bpfNtohs bpfHtonl)

/-- Two windows on one packet: what lies around it may differ. -/
structure SamePacket (left right : Window) : Prop where
  context : right.context = left.context
  bytes : AgreeOn (Between left.context.data left.context.dataEnd) left.memory right.memory

/-- Two decisions of a parser that cannot be told apart. -/
def Stage.Same {Value : Type} (within : Nat → Prop) : Stage Value → Stage Value → Prop
  | .verdict action memory cpu, .verdict action' memory' cpu' =>
      action = action' ∧ AgreeOn within memory memory' ∧ cpu = cpu'
  | .further value cpu, .further value' cpu' => value = value' ∧ cpu = cpu'
  | _, _ => False

/-! ## The replies -/

section Replies

variable {left right : Memory} {data dataEnd : Nat}
variable (agree : AgreeOn (Between data dataEnd) left right)

include agree

theorem swapMacAndSend_local (whole : data + 12 ≤ dataEnd) :
    AgreeOn (Between data dataEnd) (swapMacAndSend left data) (swapMacAndSend right data) := by
  unfold swapMacAndSend
  refine (agree.copyFrom_same (data + 6) fun index below => ?_).copyFrom_same data
    fun index below => ?_
  · exact agree _ ⟨by omega, by omega⟩
  · exact agree _ ⟨by omega, by omega⟩

theorem sendIcmpReply_local :
    (sendIcmpReply left data dataEnd).1 = (sendIcmpReply right data dataEnd).1 ∧
      AgreeOn (Between data dataEnd) (sendIcmpReply left data dataEnd).2
        (sendIcmpReply right data dataEnd).2 := by
  unfold sendIcmpReply
  by_cases short : dataEnd < data + 14 + 20 + 8
  · rw [if_pos short, if_pos short]
    exact ⟨rfl, agree⟩
  · rw [if_neg short, if_neg short]
    have fields : AgreeOn (Between data dataEnd) (icmpReplyFields left data)
        (icmpReplyFields right data) := by
      have typed := agree.store_same (data + 34) (rfl : icmpEchoreply = icmpEchoreply)
      have checked := typed.storeWord_same (data + 34 + 2) 2
        (congrArg (· + 8) (typed.word (data + 34 + 2) 2 (by omega) (by omega)))
      have lived := checked.store_same (data + 14 + 8) (rfl : defaultTtl = defaultTtl)
      have answered := lived.storeWord_same (data + 14 + 16) 4
        (lived.word (data + 14 + 12) 4 (by omega) (by omega))
      have sent := answered.storeWord_same (data + 14 + 12) 4
        (lived.word (data + 14 + 16) 4 (by omega) (by omega))
      exact sent.storeWord_same (data + 14 + 10) 2 (rfl : 0 = 0)
    have sum : ipv4CsumInline (icmpReplyFields left data) (data + 14) 0 =
        ipv4CsumInline (icmpReplyFields right data) (data + 14) 0 := by
      unfold ipv4CsumInline
      rw [fields.words (data + 14) 10 (by omega) (by omega)]
    refine ⟨rfl, swapMacAndSend_local ?_ (by omega)⟩
    exact fields.storeWord_same (data + 14 + 10) 2 sum

theorem sendIcmp6Reply_local :
    (sendIcmp6Reply left data dataEnd).1 = (sendIcmp6Reply right data dataEnd).1 ∧
      AgreeOn (Between data dataEnd) (sendIcmp6Reply left data dataEnd).2
        (sendIcmp6Reply right data dataEnd).2 := by
  unfold sendIcmp6Reply
  by_cases short : dataEnd < data + 14 + 40 + 8
  · rw [if_pos short, if_pos short]
    exact ⟨rfl, agree⟩
  · rw [if_neg short, if_neg short]
    refine ⟨rfl, swapMacAndSend_local ?_ (by omega)⟩
    have typed := agree.store_same (data + 54) (rfl : icmpv6EchoReply = icmpv6EchoReply)
    have checked := typed.storeWord_same (data + 54 + 2) 2
      (congrArg (· + (2 ^ 16 - 1)) (typed.word (data + 54 + 2) 2 (by omega) (by omega)))
    have lived := checked.store_same (data + 14 + 7) (rfl : defaultTtl = defaultTtl)
    have source := lived.copyFrom_same (data + 14 + 8)
      (fun index (below : index < 16) => lived (data + 14 + 24 + index) ⟨by omega, by omega⟩)
    exact source.copyFrom_same (data + 14 + 24)
      (fun index (below : index < 16) => lived (data + 14 + 8 + index) ⟨by omega, by omega⟩)

end Replies

/-! ## The parsers -/

section Parsers

variable {left right : Memory} {data dataEnd : Nat}
variable (agree : AgreeOn (Between data dataEnd) left right)

include agree

theorem parseIcmp_local (off : Nat) (pckt : PacketDescription) (cpu : CpuMaps) :
    Stage.Same (Between data dataEnd) (parseIcmp left data dataEnd off pckt cpu)
      (parseIcmp right data dataEnd off pckt cpu) := by
  unfold parseIcmp
  dsimp only
  by_cases short : dataEnd < data + off + 8
  · rw [if_pos short, if_pos short]
    exact ⟨rfl, agree, rfl⟩
  · have reply := sendIcmpReply_local agree
    rw [if_neg short, if_neg short, agree.byte (data + off) (by omega) (by omega),
      agree.byte (data + off + 1) (by omega) (by omega),
      agree.word (data + off + 6) 2 (by omega) (by omega)]
    by_cases cut : dataEnd < data + off + 8 + 20
    · simp only [if_pos cut]
      split_ifs
      · exact ⟨reply.1, reply.2, rfl⟩
      · exact ⟨rfl, agree, rfl⟩
      · exact ⟨rfl, agree, rfl⟩
      · exact ⟨rfl, agree, rfl⟩
    · unfold loadWord32
      simp only [if_neg cut]
      rw [agree.byte (data + off + 8) (by omega) (by omega),
        agree.byte (data + off + 8 + 9) (by omega) (by omega),
        agree.word (data + off + 8 + 16) 4 (by omega) (by omega),
        agree.word (data + off + 8 + 12) 4 (by omega) (by omega)]
      split_ifs
      · exact ⟨reply.1, reply.2, rfl⟩
      · exact ⟨rfl, agree, rfl⟩
      · exact ⟨rfl, agree, rfl⟩
      · exact ⟨rfl, agree, rfl⟩
      · exact ⟨rfl, rfl⟩
      · exact ⟨rfl, rfl⟩

theorem loadAddress_local (address : Nat) (start : data ≤ address) (stop : address + 16 ≤ dataEnd) :
    loadAddress left address = loadAddress right address := by
  funext word
  unfold loadAddress loadWord32
  have below := word.isLt
  rw [agree.word (address + 4 * word) 4 (by omega) (by omega)]

theorem parseIcmpv6_local (off : Nat) (pckt : PacketDescription) (cpu : CpuMaps) :
    Stage.Same (Between data dataEnd) (parseIcmpv6 left data dataEnd off pckt cpu)
      (parseIcmpv6 right data dataEnd off pckt cpu) := by
  unfold parseIcmpv6
  dsimp only
  by_cases short : dataEnd < data + off + 8
  · rw [if_pos short, if_pos short]
    exact ⟨rfl, agree, rfl⟩
  · have reply := sendIcmp6Reply_local agree
    rw [if_neg short, if_neg short, agree.byte (data + off) (by omega) (by omega),
      agree.word (data + off + 4) 4 (by omega) (by omega)]
    by_cases cut : dataEnd < data + off + 8 + 40
    · simp only [if_pos cut]
      split_ifs
      · exact ⟨reply.1, reply.2, rfl⟩
      · exact ⟨rfl, agree, rfl⟩
      · exact ⟨rfl, agree, rfl⟩
      · exact ⟨rfl, agree, rfl⟩
    · simp only [if_neg cut]
      rw [agree.byte (data + off + 8 + 6) (by omega) (by omega),
        loadAddress_local agree (data + off + 8 + 24) (by omega) (by omega),
        loadAddress_local agree (data + off + 8 + 8) (by omega) (by omega)]
      split_ifs
      · exact ⟨reply.1, reply.2, rfl⟩
      · exact ⟨rfl, agree, rfl⟩
      · exact ⟨rfl, rfl⟩
      · exact ⟨rfl, rfl⟩

omit agree in
theorem withBytes_local {within : Nat → Prop} {stage other : Stage PacketDescription}
    (same : stage.Same within other) (pktBytes : Nat) :
    (stage.withBytes pktBytes).Same within (other.withBytes pktBytes) := by
  cases stage with
  | verdict action memory cpu =>
      cases other with
      | verdict action' memory' cpu' => exact same
      | further value cpu' => exact same.elim
  | further value cpu =>
      cases other with
      | verdict action' memory' cpu' => exact same.elim
      | further value' cpu' => exact ⟨by rw [same.1], same.2⟩

theorem processL3Headers_local (isIpv6 : Bool) (off : Nat) (cpu : CpuMaps) :
    Stage.Same (Between data dataEnd) (processL3Headers left data dataEnd off isIpv6 cpu)
      (processL3Headers right data dataEnd off isIpv6 cpu) := by
  unfold processL3Headers
  cases isIpv6 with
  | true =>
      rw [if_pos rfl, if_pos rfl]
      unfold processIpv6Headers
      dsimp only
      by_cases short : dataEnd < data + off + 40
      · rw [if_pos short, if_pos short]
        exact ⟨rfl, agree, rfl⟩
      · rw [if_neg short, if_neg short, agree.byte (data + off) (by omega) (by omega),
          agree.byte (data + off + 1) (by omega) (by omega),
          agree.byte (data + off + 6) (by omega) (by omega),
          agree.word (data + off + 4) 2 (by omega) (by omega),
          loadAddress_local agree (data + off + 8) (by omega) (by omega),
          loadAddress_local agree (data + off + 24) (by omega) (by omega)]
        split_ifs
        · exact ⟨rfl, agree, rfl⟩
        · exact withBytes_local (parseIcmpv6_local agree _ _ cpu) _
        · exact ⟨rfl, rfl⟩
  | false =>
      rw [if_neg Bool.false_ne_true, if_neg Bool.false_ne_true]
      unfold processIpv4Headers loadWord32
      dsimp only
      by_cases short : dataEnd < data + off + 20
      · rw [if_pos short, if_pos short]
        exact ⟨rfl, agree, rfl⟩
      · rw [if_neg short, if_neg short, agree.byte (data + off) (by omega) (by omega),
          agree.byte (data + off + 1) (by omega) (by omega),
          agree.byte (data + off + 9) (by omega) (by omega),
          agree.word (data + off + 2) 2 (by omega) (by omega),
          agree.word (data + off + 6) 2 (by omega) (by omega),
          agree.word (data + off + 12) 4 (by omega) (by omega),
          agree.word (data + off + 16) 4 (by omega) (by omega)]
        split_ifs
        · exact ⟨rfl, agree, rfl⟩
        · exact ⟨rfl, agree, rfl⟩
        · exact withBytes_local (parseIcmp_local agree _ _ cpu) _
        · exact ⟨rfl, rfl⟩

theorem parseTcp_local (isIpv6 : Bool) (pckt : PacketDescription) :
    parseTcp left data dataEnd isIpv6 pckt = parseTcp right data dataEnd isIpv6 pckt := by
  unfold parseTcp readPorts
  dsimp only
  by_cases short : dataEnd < data + calcOffset isIpv6 pckt.icmp + 20
  · rw [if_pos short, if_pos short]
  · rw [if_neg short, if_neg short,
      agree.byte (data + calcOffset isIpv6 pckt.icmp + 13) (by omega) (by omega),
      agree.word (data + calcOffset isIpv6 pckt.icmp) 2 (by omega) (by omega),
      agree.word (data + calcOffset isIpv6 pckt.icmp + 2) 2 (by omega) (by omega)]

theorem parseUdp_local (isIpv6 : Bool) (pckt : PacketDescription) :
    parseUdp left data dataEnd isIpv6 pckt = parseUdp right data dataEnd isIpv6 pckt := by
  unfold parseUdp readPorts
  dsimp only
  by_cases short : dataEnd < data + calcOffset isIpv6 pckt.icmp + 8
  · rw [if_pos short, if_pos short]
  · rw [if_neg short, if_neg short,
      agree.word (data + calcOffset isIpv6 pckt.icmp) 2 (by omega) (by omega),
      agree.word (data + calcOffset isIpv6 pckt.icmp + 2) 2 (by omega) (by omega)]

theorem parsePacket_local (isIpv6 : Bool) (off : Nat) (cpu : CpuMaps) :
    Stage.Same (Between data dataEnd) (parsePacket left data dataEnd off isIpv6 cpu)
      (parsePacket right data dataEnd off isIpv6 cpu) := by
  have headers := processL3Headers_local agree isIpv6 off cpu
  unfold parsePacket
  generalize processL3Headers left data dataEnd off isIpv6 cpu = stage at headers ⊢
  generalize processL3Headers right data dataEnd off isIpv6 cpu = other at headers ⊢
  cases stage with
  | verdict action memory after =>
      cases other with
      | verdict action' memory' after' => exact headers
      | further value after' => exact headers.elim
  | further value after =>
      cases other with
      | verdict action' memory' after' => exact headers.elim
      | further value' after' =>
          obtain ⟨rfl, rfl⟩ := headers
          obtain ⟨pckt, pktBytes⟩ := value
          dsimp only
          rw [parseTcp_local agree, parseUdp_local agree]
          split_ifs
          · cases parseTcp right data dataEnd isIpv6 pckt with
            | none => exact ⟨rfl, agree, rfl⟩
            | some read => exact ⟨rfl, rfl⟩
          · cases parseUdp right data dataEnd isIpv6 pckt with
            | none => exact ⟨rfl, agree, rfl⟩
            | some read => exact ⟨rfl, rfl⟩
          · exact ⟨rfl, agree, rfl⟩

/-! ## The choice of a real -/

theorem parseQuic_local (isIpv6 : Bool) (pckt : PacketDescription) :
    parseQuic left data dataEnd isIpv6 pckt = parseQuic right data dataEnd isIpv6 pckt := by
  have connId (address : Nat) (start : data ≤ address) (stop : address + 8 ≤ dataEnd) :
      readConnId left address = readConnId right address := by
    have bytes (index : Nat) (below : index < 5) :
        (left (address + index)).toNat = (right (address + index)).toNat := by
      rw [agree.byte (address + index) (by omega) (by omega)]
    unfold readConnId
    dsimp only
    rw [connIdServerId_congr bytes, bytes 0 (by decide)]
  unfold parseQuic
  dsimp only
  have start : data ≤ data + calcOffset isIpv6 pckt.icmp + 8 := by omega
  generalize data + calcOffset isIpv6 pckt.icmp + 8 = quicData at start ⊢
  by_cases none : dataEnd < quicData + 1
  · rw [if_pos none, if_pos none]
  · rw [if_neg none, if_neg none, agree.byte quicData start (by omega)]
    by_cases short : dataEnd < quicData + 14
    · simp only [if_pos short]
      by_cases cut : dataEnd < quicData + 9
      · simp only [if_pos cut]
      · rw [connId (quicData + 1) (by omega) (by omega)]
    · rw [agree.byte (quicData + 5) (by omega) (by omega),
        connId (quicData + 6) (by omega) (by omega), connId (quicData + 1) (by omega) (by omega)]

theorem ignorableQuicIcmpCode_local (isIpv6 : Bool)
    (quoted : data + calcOffset isIpv6 true ≤ dataEnd) :
    ignorableQuicIcmpCode left data isIpv6 = ignorableQuicIcmpCode right data isIpv6 := by
  unfold calcOffset at quoted
  unfold ignorableQuicIcmpCode
  cases isIpv6 with
  | true =>
      rw [if_pos rfl, if_pos rfl] at quoted
      rw [if_pos rfl, if_pos rfl, agree.byte (data + 14 + 40 + 1) (by omega) (by omega)]
  | false =>
      rw [if_neg Bool.false_ne_true, if_pos rfl] at quoted
      rw [if_neg Bool.false_ne_true, if_neg Bool.false_ne_true,
        agree.byte (data + 14 + 20 + 1) (by omega) (by omega)]

/-- The headers that were parsed are the only ones that the choice looks at. -/
theorem chooseReal_local {Tables : Type} (ops : LruOps Tables) (control : Control)
    (arrival : Arrival) {isIpv6 : Bool} (vip : VipDefinition) (vipInfo : VipMeta)
    (lruMap : Option Nat) {pckt : PacketDescription} (maps : BalancerMaps Tables)
    (parsed : data + calcOffset isIpv6 pckt.icmp ≤ dataEnd) :
    chooseReal ops control arrival left data dataEnd isIpv6 vip vipInfo lruMap pckt maps =
      chooseReal ops control arrival right data dataEnd isIpv6 vip vipInfo lruMap pckt maps := by
  have quic : quicRoute ops control arrival left data dataEnd isIpv6 vipInfo lruMap pckt maps =
      quicRoute ops control arrival right data dataEnd isIpv6 vipInfo lruMap pckt maps := by
    unfold quicRoute
    by_cases icmp : pckt.icmp = true
    · rw [icmp] at parsed
      rw [ignorableQuicIcmpCode_local agree isIpv6 parsed, if_pos icmp, if_pos icmp]
    · rw [if_neg icmp, if_neg icmp, parseQuic_local agree]
  unfold chooseReal
  rw [quic]

end Parsers

/-! ## The program -/

section Program

variable {Tables : Type}

/-- Two outcomes that cannot be told apart. -/
structure Outcome.Same (left right : Outcome Tables) : Prop where
  verdict : right.verdict = left.verdict
  maps : right.maps = left.maps
  packet : SamePacket left.window right.window

variable (ops : LruOps Tables) (control : Control) (arrival : Arrival)
variable {adjustHead : Window → Int → Nat × Window} (moves : MovesHead adjustHead)
variable {left right : Window} (same : SamePacket left right) (headroom : Headroom left 40)
variable (whole : left.context.data + 14 ≤ left.context.dataEnd) {isIpv6 : Bool}

include moves same headroom whole

/-- Both packets are encapsulated alike: every byte in front of them is written. -/
theorem forward_local (vipInfo : VipMeta) (originalSport pktBytes : Nat) (routed : Routed Tables) :
    (forward control adjustHead left isIpv6 vipInfo originalSport pktBytes routed).Same
      (forward control adjustHead right isIpv6 vipInfo originalSport pktBytes routed) := by
  have data : right.context.data = left.context.data := by rw [same.context]
  have room : Headroom right 40 := ⟨data ▸ headroom.room, data ▸ headroom.addressed⟩
  have wholeRight : right.context.data + 14 ≤ right.context.dataEnd := by
    rw [same.context]
    exact whole
  have narrow {xdp : Window} (wide : Headroom xdp 40) : Headroom xdp 20 :=
    ⟨Nat.le_trans (by decide) wide.room, wide.addressed⟩
  have above := headroom.room
  have ethernet (size : Nat) (proto : Nat) (fits : size ≤ left.context.data) :=
    createEthHdr_agree (left.context.data - size) (left.context.data - size + size)
      control.mac proto same.bytes fun candidate inside => by
        unfold Between at inside ⊢
        omega
  unfold forward
  dsimp only
  by_cases counted : statsMapSize ≤ vipInfo.vipNum.toNat
  · rw [if_pos counted, if_pos counted]
    exact ⟨rfl, rfl, same⟩
  · rw [if_neg counted, if_neg counted]
    by_cases placed : maxReals ≤ routed.pckt.realIndex.toNat
    · rw [if_pos placed, if_pos placed]
      exact ⟨rfl, rfl, same⟩
    · rw [if_neg placed, if_neg placed]
      by_cases target : routed.dst.isIpv6 = true
      · rw [if_pos target, if_pos target,
          encapV6_eq moves control.mac _ routed.dst pktBytes isIpv6 headroom whole,
          encapV6_eq moves control.mac _ routed.dst pktBytes isIpv6 room wholeRight, data]
        refine ⟨rfl, rfl, by rw [movedBack, movedBack, same.context], ?_⟩
        refine (createV6Hdr_agree (left.context.data - 40 + 14) _ _ _ _ _
          (ethernet 40 beEthPIpv6 above)).mono fun candidate inside => ?_
        change Between (left.context.data - 40) left.context.dataEnd candidate at inside
        unfold Between at inside ⊢
        omega
      · rw [if_neg target, if_neg target,
          encapV4_eq moves control.mac _ routed.dst pktBytes (narrow headroom) whole,
          encapV4_eq moves control.mac _ routed.dst pktBytes (narrow room) wholeRight, data]
        refine ⟨rfl, rfl, by rw [movedBack, movedBack, same.context], ?_⟩
        refine (createV4Hdr_agree (left.context.data - 20 + 14) _ _ _ _ _
          (ethernet 20 beEthPIp (by omega))).mono fun candidate inside => ?_
        change Between (left.context.data - 20) left.context.dataEnd candidate at inside
        unfold Between at inside ⊢
        omega

theorem balance_local (vip : VipDefinition) (vipInfo : VipMeta) {pckt : PacketDescription}
    (pktBytes : Nat) (maps : BalancerMaps Tables)
    (parsed : left.context.data + calcOffset isIpv6 pckt.icmp ≤ left.context.dataEnd) :
    (balance ops control arrival adjustHead left isIpv6 vip vipInfo pckt pktBytes maps).Same
      (balance ops control arrival adjustHead right isIpv6 vip vipInfo pckt pktBytes maps) := by
  have icmp : (if vipInfo.has fHashNoSrcPort then { pckt with flow := setSourcePort pckt.flow 0 }
      else pckt : PacketDescription).icmp = pckt.icmp := by
    split <;> rfl
  unfold balance
  dsimp only
  generalize (if vipInfo.has fHashNoSrcPort then _ else _ : PacketDescription) = read at icmp ⊢
  rw [same.context, ← chooseReal_local same.bytes ops control arrival vip vipInfo _ _
    (icmp.symm ▸ parsed)]
  generalize chooseReal _ _ _ _ _ _ _ _ _ _ _ _ = result
  cases result with
  | error after => exact ⟨rfl, rfl, same⟩
  | ok routed => exact forward_local control moves same headroom whole vipInfo _ pktBytes routed

omit moves same headroom whole in
/-- A packet that is processed further has its headers. -/
theorem parsePacket_long {memory : Memory} {data dataEnd pktBytes : Nat} {cpu after : CpuMaps}
    {pckt : PacketDescription}
    (parsed : parsePacket memory data dataEnd 14 isIpv6 cpu = .further (pckt, pktBytes) after) :
    data + calcOffset isIpv6 pckt.icmp ≤ dataEnd := by
  have value : (parsePacket memory data dataEnd 14 isIpv6 cpu).value = some (pckt, pktBytes) := by
    rw [parsed]
    rfl
  rw [parsePacket_value_eq] at value
  obtain ⟨⟨read, bytes⟩, -, transport⟩ := Option.bind_eq_some_iff.mp value
  obtain ⟨-, long, -, icmp⟩ := parseTransport_some transport
  rw [icmp]
  omega

theorem processPacket_local (maps : BalancerMaps Tables) :
    (processPacket ops control arrival adjustHead left isIpv6 maps).Same
      (processPacket ops control arrival adjustHead right isIpv6 maps) := by
  have stages := parsePacket_local same.bytes isIpv6 14 maps.cpu
  unfold processPacket
  dsimp only
  rw [same.context]
  cases parsed : parsePacket left.memory left.context.data left.context.dataEnd 14 isIpv6
      maps.cpu with
  | verdict action memory after =>
      cases other : parsePacket right.memory left.context.data left.context.dataEnd 14 isIpv6
          maps.cpu with
      | verdict action' memory' after' =>
          rw [parsed, other] at stages
          obtain ⟨rfl, agree, rfl⟩ := stages
          exact ⟨rfl, rfl, rfl, agree⟩
      | further value' after' =>
          rw [parsed, other] at stages
          exact stages.elim
  | further value after =>
      cases other : parsePacket right.memory left.context.data left.context.dataEnd 14 isIpv6
          maps.cpu with
      | verdict action' memory' after' =>
          rw [parsed, other] at stages
          exact stages.elim
      | further value' after' =>
          rw [parsed, other] at stages
          obtain ⟨rfl, rfl⟩ := stages
          obtain ⟨pckt, pktBytes⟩ := value
          have long := parsePacket_long parsed
          dsimp only
          cases lookup : lookupVip control isIpv6 pckt with
          | none => exact ⟨rfl, rfl, same⟩
          | some looked =>
              obtain ⟨vip, vipInfo, routed⟩ := looked
              have kept : routed.icmp = pckt.icmp := by
                rw [(lookupVip_service lookup).2.1]
              dsimp only
              split_ifs
              · exact ⟨rfl, rfl, same⟩
              · exact balance_local ops control arrival moves same headroom whole vip vipInfo
                  pktBytes { maps with cpu := after } (kept.symm ▸ long)

omit whole

theorem balancerIngress_local (maps : BalancerMaps Tables) :
    (balancerIngress ops control arrival adjustHead left maps).Same
      (balancerIngress ops control arrival adjustHead right maps) := by
  unfold balancerIngress
  dsimp only
  rw [same.context]
  by_cases short : left.context.dataEnd < left.context.data + 14
  · rw [if_pos short, if_pos short]
    exact ⟨rfl, rfl, same⟩
  · have whole := Nat.not_lt.mp short
    rw [if_neg short, if_neg short,
      same.bytes.word (left.context.data + 12) 2 (by omega) (by omega)]
    split_ifs
    · exact processPacket_local ops control arrival moves same headroom whole maps
    · exact processPacket_local ops control arrival moves same headroom whole maps
    · exact ⟨rfl, rfl, same⟩

end Program

/-! ## What is written -/

/-- The memory of a verdict is as it was at these addresses. -/
def Stage.Leaves {Value : Type} (memory : Memory) (outside : Nat → Prop) : Stage Value → Prop
  | .verdict _ after _ => AgreeOn outside memory after
  | .further _ _ => True

/-- The addresses that do not belong to the packet. -/
def Around (data dataEnd candidate : Nat) : Prop :=
  candidate < data ∨ dataEnd ≤ candidate

section Frames

variable (memory : Memory) (data dataEnd off : Nat)

theorem sendIcmpReply_leaves :
    AgreeOn (Around data dataEnd) memory (sendIcmpReply memory data dataEnd).2 := by
  intro candidate outside
  unfold Around at outside
  unfold sendIcmpReply
  by_cases short : dataEnd < data + 14 + 20 + 8
  · rw [if_pos short]
  · rw [if_neg short]
    dsimp only
    rw [swapMacAndSend_other (by omega), Memory.storeWord_other _ (by omega)]
    unfold icmpReplyFields
    simp (disch := omega) only [Memory.storeWord_other, Memory.store_other]

theorem sendIcmp6Reply_leaves :
    AgreeOn (Around data dataEnd) memory (sendIcmp6Reply memory data dataEnd).2 := by
  intro candidate outside
  unfold Around at outside
  unfold sendIcmp6Reply
  by_cases short : dataEnd < data + 14 + 40 + 8
  · rw [if_pos short]
  · rw [if_neg short]
    dsimp only
    rw [swapMacAndSend_other (by omega)]
    unfold icmp6ReplyFields
    simp (disch := omega) only [Memory.copyFrom_other, Memory.storeWord_other, Memory.store_other]

theorem parseIcmp_leaves (pckt : PacketDescription) (cpu : CpuMaps) :
    (parseIcmp memory data dataEnd off pckt cpu).Leaves memory (Around data dataEnd) := by
  have reply := sendIcmpReply_leaves memory data dataEnd
  unfold parseIcmp
  dsimp only
  split_ifs <;> first | exact reply | exact fun _ _ => rfl | trivial

theorem parseIcmpv6_leaves (pckt : PacketDescription) (cpu : CpuMaps) :
    (parseIcmpv6 memory data dataEnd off pckt cpu).Leaves memory (Around data dataEnd) := by
  have reply := sendIcmp6Reply_leaves memory data dataEnd
  unfold parseIcmpv6
  dsimp only
  split_ifs <;> first | exact reply | exact fun _ _ => rfl | trivial

theorem withBytes_leaves {stage : Stage PacketDescription} {outside : Nat → Prop}
    (leaves : stage.Leaves memory outside) (pktBytes : Nat) :
    (stage.withBytes pktBytes).Leaves memory outside := by
  cases stage with
  | verdict action after cpu => exact leaves
  | further value cpu => trivial

theorem processL3Headers_leaves (isIpv6 : Bool) (cpu : CpuMaps) :
    (processL3Headers memory data dataEnd off isIpv6 cpu).Leaves memory (Around data dataEnd) := by
  unfold processL3Headers processIpv6Headers processIpv4Headers
  dsimp only
  split_ifs <;>
    first
    | exact withBytes_leaves memory (parseIcmpv6_leaves memory data dataEnd _ _ cpu) _
    | exact withBytes_leaves memory (parseIcmp_leaves memory data dataEnd _ _ cpu) _
    | exact fun _ _ => rfl
    | trivial

theorem parsePacket_leaves (isIpv6 : Bool) (cpu : CpuMaps) :
    (parsePacket memory data dataEnd off isIpv6 cpu).Leaves memory (Around data dataEnd) := by
  have headers := processL3Headers_leaves memory data dataEnd off isIpv6 cpu
  unfold parsePacket
  generalize processL3Headers memory data dataEnd off isIpv6 cpu = stage at headers ⊢
  cases stage with
  | verdict action after cpu => exact headers
  | further value cpu =>
      dsimp only
      split_ifs
      · cases parseTcp memory data dataEnd isIpv6 value.1 with
        | none => exact fun _ _ => rfl
        | some read => trivial
      · cases parseUdp memory data dataEnd isIpv6 value.1 with
        | none => exact fun _ _ => rfl
        | some read => trivial
      · exact fun _ _ => rfl

end Frames

section Written

variable {Tables : Type} (ops : LruOps Tables) (control : Control) (arrival : Arrival)
variable {adjustHead : Window → Int → Nat × Window} (moves : MovesHead adjustHead)
variable {xdp : Window} (headroom : Headroom xdp 40)

include moves headroom

theorem forward_leaves (whole : xdp.context.data + 14 ≤ xdp.context.dataEnd) (isIpv6 : Bool)
    (vipInfo : VipMeta) (originalSport pktBytes : Nat) (routed : Routed Tables) :
    AgreeOn (Around (xdp.context.data - 40) xdp.context.dataEnd) xdp.memory
      (forward control adjustHead xdp isIpv6 vipInfo originalSport pktBytes
        routed).window.memory := by
  have above := headroom.room
  have narrow : Headroom xdp 20 := ⟨Nat.le_trans (by decide) above, headroom.addressed⟩
  intro candidate outside
  unfold Around at outside
  unfold forward
  dsimp only
  by_cases counted : statsMapSize ≤ vipInfo.vipNum.toNat
  · rw [if_pos counted]
  · rw [if_neg counted]
    by_cases placed : maxReals ≤ routed.pckt.realIndex.toNat
    · rw [if_pos placed]
    · rw [if_neg placed]
      by_cases target : routed.dst.isIpv6 = true
      · rw [if_pos target,
          encapV6_eq moves control.mac _ routed.dst pktBytes isIpv6 headroom whole]
        exact ((createV6Hdr_other _ _ _ _ _ _ _ (by omega)).trans
          (createEthHdr_other _ _ _ _ _ (by omega))).symm
      · rw [if_neg target, encapV4_eq moves control.mac _ routed.dst pktBytes narrow whole]
        exact ((createV4Hdr_other _ _ _ _ _ _ _ (by omega)).trans
          (createEthHdr_other _ _ _ _ _ (by omega))).symm

theorem processPacket_leaves (whole : xdp.context.data + 14 ≤ xdp.context.dataEnd)
    (isIpv6 : Bool) (maps : BalancerMaps Tables) :
    AgreeOn (Around (xdp.context.data - 40) xdp.context.dataEnd) xdp.memory
      (processPacket ops control arrival adjustHead xdp isIpv6 maps).window.memory := by
  have stage := parsePacket_leaves xdp.memory xdp.context.data xdp.context.dataEnd 14 isIpv6 maps.cpu
  unfold processPacket
  dsimp only
  generalize parsePacket xdp.memory xdp.context.data xdp.context.dataEnd 14 isIpv6 maps.cpu =
    parsed at stage ⊢
  cases parsed with
  | verdict action after cpu =>
      exact stage.mono fun candidate outside => outside.imp_left fun front => by omega
  | further value cpu =>
      obtain ⟨pckt, pktBytes⟩ := value
      dsimp only
      cases lookupVip control isIpv6 pckt with
      | none => exact fun _ _ => rfl
      | some looked =>
          obtain ⟨vip, vipInfo, routed⟩ := looked
          dsimp only
          split_ifs
          · exact fun _ _ => rfl
          · unfold balance
            dsimp only
            generalize chooseReal _ _ _ _ _ _ _ _ _ _ _ _ = result
            cases result with
            | error after => exact fun _ _ => rfl
            | ok routed => exact forward_leaves control moves headroom whole isIpv6 vipInfo _ _ routed

theorem balancerIngress_leaves (maps : BalancerMaps Tables) :
    AgreeOn (Around (xdp.context.data - 40) xdp.context.dataEnd) xdp.memory
      (balancerIngress ops control arrival adjustHead xdp maps).window.memory := by
  unfold balancerIngress
  dsimp only
  by_cases short : xdp.context.dataEnd < xdp.context.data + 14
  · rw [if_pos short]
    exact fun _ _ => rfl
  · have whole := Nat.not_lt.mp short
    rw [if_neg short]
    split_ifs
    · exact processPacket_leaves ops control arrival moves headroom whole false maps
    · exact processPacket_leaves ops control arrival moves headroom whole true maps
    · exact fun _ _ => rfl

end Written

/-! ## Runs -/

/-- Two arrivals of one packet. -/
structure MachineEvent.Same (left right : MachineEvent) : Prop where
  control : right.control = left.control
  arrival : right.arrival = left.arrival
  packet : SamePacket left.window right.window
  headroom : Headroom left.window 40

section Runs

variable {Tables : Type} (ops : LruOps Tables) {adjustHead : Window → Int → Nat × Window}

theorem Machine.outcome_same (moves : MovesHead adjustHead) (machine : Machine Tables)
    {event other : MachineEvent} (same : event.Same other) :
    (machine.outcome ops adjustHead event).Same (machine.outcome ops adjustHead other) := by
  unfold Machine.outcome
  rw [same.control, same.arrival]
  exact balancerIngress_local ops event.control event.arrival moves same.packet same.headroom _

theorem machineRun_same (moves : MovesHead adjustHead) {events others : List MachineEvent}
    (same : List.Forall₂ MachineEvent.Same events others) (start : Machine Tables) :
    machineRun ops adjustHead start others = machineRun ops adjustHead start events := by
  induction same generalizing start with
  | nil => rfl
  | @cons event other rest others first later inductionHypothesis =>
      have stepped : start.step ops adjustHead other = start.step ops adjustHead event := by
        unfold Machine.step
        dsimp only
        rw [(start.outcome_same ops moves first).maps, first.arrival]
      show machineRun ops adjustHead (start.step ops adjustHead other) others = _
      rw [stepped]
      exact inductionHypothesis _

/-- What lies around the packets has no influence on a run, on a verdict or on what is
sent, and stays as it is but for the 40 bytes in front of a packet. -/
theorem balancer_keeps_to_packets (moves : MovesHead adjustHead)
    {events others : List MachineEvent} (same : List.Forall₂ MachineEvent.Same events others)
    (start : Machine Tables) {event other : MachineEvent} (next : event.Same other) :
    let left := (machineRun ops adjustHead start events).outcome ops adjustHead event
    let right := (machineRun ops adjustHead start others).outcome ops adjustHead other
    machineRun ops adjustHead start others = machineRun ops adjustHead start events ∧
      left.Same right ∧
        AgreeOn (Around (event.window.context.data - 40) event.window.context.dataEnd)
          event.window.memory left.window.memory := by
  intro left right
  have states := machineRun_same ops moves same start
  have indistinct : left.Same right := by
    show Outcome.Same _ ((machineRun ops adjustHead start others).outcome ops adjustHead other)
    rw [states]
    exact Machine.outcome_same ops moves _ next
  exact ⟨states, indistinct,
    balancerIngress_leaves ops event.control event.arrival moves next.headroom _⟩

/-- The segment among bytes that an earlier packet has left. -/
def dirtyOn (cpu : Nat) : MachineEvent :=
  { synOn cpu with
    window :=
      { synWindow with
        memory := fun address =>
          if address < 64 ∨ 118 ≤ address then 255 else synWindow.memory address } }

theorem synOn_same (cpu : Nat) : (synOn cpu).Same (dirtyOn cpu) where
  control := rfl
  arrival := rfl
  packet := by
    refine ⟨rfl, fun candidate inside => ?_⟩
    obtain ⟨lower, upper⟩ : 64 ≤ candidate ∧ candidate < 118 := inside
    show _ = if candidate < 64 ∨ 118 ≤ candidate then _ else _
    rw [if_neg (by omega)]
    rfl
  headroom := synWindow_headroom

theorem dirty_segments_balanced_alike :
    let left := (machineRun exactTables bpftimeXdpAdjustHeadRuntime emptyMachine
      [synOn 0]).outcome exactTables bpftimeXdpAdjustHeadRuntime (synOn 1)
    let right := (machineRun exactTables bpftimeXdpAdjustHeadRuntime emptyMachine
      [dirtyOn 0]).outcome exactTables bpftimeXdpAdjustHeadRuntime (dirtyOn 1)
    machineRun exactTables bpftimeXdpAdjustHeadRuntime emptyMachine [dirtyOn 0] =
        machineRun exactTables bpftimeXdpAdjustHeadRuntime emptyMachine [synOn 0] ∧
      left.Same right ∧ AgreeOn (Around (64 - 40) 118) synWindow.memory left.window.memory :=
  balancer_keeps_to_packets exactTables movesHead_runtime
    (List.Forall₂.cons (synOn_same 0) List.Forall₂.nil) emptyMachine (synOn_same 1)

end Runs

end UserspaceXdp.Katran
