import UserspaceXdp.Katran.CpuRuns

/-!
Contract: the packets that the balancer sends.

Owns: the outer header of every packet that is forwarded, the decapsulation that gives
the packet back, and the replies to echo requests.

Does not own: which real is chosen.
-/

namespace UserspaceXdp.Katran

open UserspaceXdp.Foundation
open UserspaceXdp.Runtime
open UserspaceXdp.Maps
open UserspaceXdp.Checksum
open UserspaceXdp.Programs (bpfNtohs bpfHtons)

/-! ## Forwarded packets -/

/-- The received packet behind an outer IPv4 header from 172.16.0.0/16 to the real,
whose checksum is right. -/
structure SentToV4 (mac : Vector UInt8 6) (real : RealDefinition) (isIpv6 : Bool)
    (xdp window : Window) : Prop where
  context : window.context = (movedBack xdp 20).context
  tunnelled : Tunnelled xdp.memory window.memory (xdp.context.data - 20) 20 mac beEthPIp
  header : ∃ saddr : UInt32, saddr.toNat % 2 ^ 16 = ipipV4Prefix.toNat ∧
    V4Header (xdp.context.data - 20 + 14) (headerTos xdp.memory (xdp.context.data + 14) isIpv6)
      saddr real.dst (headerBytes xdp.memory (xdp.context.data + 14) isIpv6) ipprotoIpip
      window.memory
  verifies : RegionVerifies window.memory (xdp.context.data - 20 + 14) 10

/-- The received packet behind an outer IPv6 header from the discard prefix to the
real. -/
structure SentToV6 (mac : Vector UInt8 6) (real : RealDefinition) (isIpv6 : Bool)
    (xdp window : Window) : Prop where
  context : window.context = (movedBack xdp 40).context
  tunnelled : Tunnelled xdp.memory window.memory (xdp.context.data - 40) 40 mac beEthPIpv6
  header : ∃ saddr : Fin 4 → UInt32,
    (saddr 0 = ipipV6Prefix1 ∧ saddr 1 = ipipV6Prefix2 ∧ saddr 2 = ipipV6Prefix3) ∧
      V6Header (xdp.context.data - 40 + 14)
        (headerTos xdp.memory (xdp.context.data + 14) isIpv6) saddr real.dstv6
        (headerBytes xdp.memory (xdp.context.data + 14) isIpv6 + if isIpv6 then 40 else 0)
        (if isIpv6 then ipprotoIpv6 else ipprotoIpip) window.memory

/-- The received packet behind the header that the real asks for. -/
def SentTo (mac : Vector UInt8 6) (real : RealDefinition) (isIpv6 : Bool) (xdp window : Window) :
    Prop :=
  if real.isIpv6 then SentToV6 mac real isIpv6 xdp window else SentToV4 mac real isIpv6 xdp window

theorem createEncapIpv4Src_prefix (port : Nat) (src : UInt32) :
    (createEncapIpv4Src port src).toNat % 2 ^ 16 = ipipV4Prefix.toNat := by
  unfold createEncapIpv4Src
  rw [UInt32.toNat_or, UInt32.toNat_and, Nat.or_mod_two_pow, Nat.and_mod_two_pow]
  show (0 &&& _) ||| _ = _
  rw [Nat.zero_and]
  rfl

section Forwarded

variable {Tables : Type} {ops : LruOps Tables} {control : Control} (arrival : Arrival)
variable {adjustHead : Window → Int → Nat × Window}

variable (control) in
/-- A packet that is forwarded is sent. -/
theorem forward_sentTo (moves : MovesHead adjustHead) {xdp : Window} (headroom : Headroom xdp 40)
    (whole : xdp.context.data + 14 ≤ xdp.context.dataEnd) {isIpv6 : Bool} {vipInfo : VipMeta}
    (originalSport : Nat) {pktBytes : Nat} {routed : Routed Tables}
    (received : Received xdp isIpv6 pktBytes routed.pckt.tos)
    (numbered : vipInfo.vipNum.toNat < maxVips)
    (found : arrayLookup control.reals maxReals routed.pckt.realIndex.toNat = some routed.dst) :
    (forward control adjustHead xdp isIpv6 vipInfo originalSport pktBytes routed).verdict = xdpTx ∧
      SentTo control.mac routed.dst isIpv6 xdp
        (forward control adjustHead xdp isIpv6 vipInfo originalSport pktBytes routed).window := by
  obtain ⟨verdict, context, memory⟩ := forward_sent control adjustHead moves headroom whole isIpv6
    originalSport pktBytes numbered (arrayLookup_lt found)
  let pckt : PacketDescription :=
    { routed.pckt with flow := setSourcePort routed.pckt.flow originalSport }
  refine ⟨verdict, ?_⟩
  generalize forward control adjustHead xdp isIpv6 vipInfo originalSport pktBytes routed = sent
    at context memory ⊢
  unfold SentTo
  by_cases target : routed.dst.isIpv6 = true
  · rw [if_pos target] at context memory ⊢
    refine ⟨context, ?_, outerSource pckt isIpv6, ⟨rfl, rfl, rfl⟩, ?_⟩
    · rw [memory]
      exact v6Packet_tunnelled ..
    · have header := createV6Hdr_header
        (createEthHdr xdp.memory (xdp.context.data - 40) (xdp.context.data - 40 + 40) control.mac
          beEthPIpv6) (xdp.context.data - 40 + 14) routed.pckt.tos
        (outerSource pckt isIpv6) routed.dst.dstv6 (if isIpv6 then pktBytes + 40 else pktBytes)
        (if isIpv6 then ipprotoIpv6 else ipprotoIpip)
      have length : (if isIpv6 then pktBytes + 40 else pktBytes) =
          pktBytes + if isIpv6 then 40 else 0 := by
        split <;> rfl
      rw [memory, ← received.tos, ← received.pktBytes, ← length]
      exact header
  · rw [if_neg target] at context memory ⊢
    refine ⟨context, ?_, ⟨_, createEncapIpv4Src_prefix (sourcePort pckt.flow) pckt.flow.src, ?_⟩,
      ?_⟩
    · rw [memory]
      exact v4Packet_tunnelled ..
    · rw [memory, ← received.tos, ← received.pktBytes]
      exact createV4Hdr_header ..
    · rw [memory]
      exact createV4Hdr_verifies ..

/-- A packet is settled where it is, or it is sent to a real of the control plane. -/
theorem balancerIngress_placed (ops : LruOps Tables) (moves : MovesHead adjustHead)
    (numbered : VipsNumbered control) {xdp : Window} (headroom : Headroom xdp 40)
    (maps : BalancerMaps Tables) :
    let outcome := balancerIngress ops control arrival adjustHead xdp maps
    Settled xdp outcome.verdict outcome.window ∨
      outcome.verdict = xdpTx ∧
      ∃ isIpv6 realIndex real, arrayLookup control.reals maxReals realIndex = some real ∧
        xdp.memory.loadWord (xdp.context.data + 12) 2 =
            (if isIpv6 then beEthPIpv6 else beEthPIp) ∧
          SentTo control.mac real isIpv6 xdp outcome.window := by
  intro outcome
  have nothing : Measures ops fun _ => 0 :=
    ⟨fun _ _ _ => rfl, fun _ _ _ _ => rfl, fun _ _ _ _ => Nat.zero_le _⟩
  obtain ⟨middle, -, forwarded⟩ :=
    (balancerIngress_effect arrival adjustHead nothing numbered xdp maps).effect
  rcases forwarded with ⟨-, settled⟩ |
    ⟨isIpv6, vipInfo, originalSport, pktBytes, routed, whole, received, below, -, found, result⟩
  · exact Or.inl settled
  · right
    show (balancerIngress ops control arrival adjustHead xdp maps).verdict = xdpTx ∧ _
    rw [result]
    obtain ⟨verdict, sent⟩ := forward_sentTo control moves headroom whole originalSport received
      below found
    refine ⟨verdict, isIpv6, _, routed.dst, found, received.type, ?_⟩
    show SentTo control.mac routed.dst isIpv6 xdp
      (balancerIngress ops control arrival adjustHead xdp maps).window
    rw [result]
    exact sent

/-- The head of a packet that is sent has moved. -/
theorem SentTo.moved {mac : Vector UInt8 6} {real : RealDefinition} {isIpv6 : Bool}
    {xdp window : Window} (headroom : Headroom xdp 40) (sent : SentTo mac real isIpv6 xdp window) :
    window.context.data ≠ xdp.context.data := by
  have room := headroom.room
  unfold SentTo at sent
  split at sent
  · rw [sent.context]
    show xdp.context.data - 40 ≠ _
    omega
  · rw [sent.context]
    show xdp.context.data - 20 ≠ _
    omega

/-- Every packet whose head is moved is sent, with a real of the control plane as its
destination, and otherwise as it was received. Every other packet is passed or dropped
as it is, or it is an echo request and answered. -/
theorem balancerIngress_forwards (ops : LruOps Tables) (moves : MovesHead adjustHead)
    (numbered : VipsNumbered control) {xdp : Window} (headroom : Headroom xdp 40)
    (maps : BalancerMaps Tables) :
    let outcome := balancerIngress ops control arrival adjustHead xdp maps
    if outcome.window.context.data = xdp.context.data then
      Settled xdp outcome.verdict outcome.window
    else
      outcome.verdict = xdpTx ∧
        ∃ isIpv6 realIndex real, arrayLookup control.reals maxReals realIndex = some real ∧
          xdp.memory.loadWord (xdp.context.data + 12) 2 =
              (if isIpv6 then beEthPIpv6 else beEthPIp) ∧
            SentTo control.mac real isIpv6 xdp outcome.window := by
  intro outcome
  rcases balancerIngress_placed arrival ops moves numbered headroom maps with settled | sent
  · rw [if_pos (congrArg XdpMdUserspace.data settled.context)]
    exact settled
  · have moved : outcome.window.context.data ≠ xdp.context.data := by
      obtain ⟨-, isIpv6, realIndex, real, -, -, tunnelled⟩ := sent
      exact tunnelled.moved headroom
    rw [if_neg moved]
    exact sent

end Forwarded

/-- The maps of a CPU that has seen nothing, with tables that remember nothing. -/
def createdMaps : BalancerMaps Unit :=
  ⟨zeroCpu, (), ⟨fun _ => 0, 0, 0⟩⟩

/-- A segment for the only service. -/
def synOutcome : Outcome Unit :=
  balancerIngress forgetfulTables oneVip ⟨0, 1, 1⟩ bpftimeXdpAdjustHeadRuntime synWindow createdMaps

theorem syn_is_forwarded :
    synOutcome.verdict = xdpTx ∧
      ∃ isIpv6 realIndex real, arrayLookup oneVip.reals maxReals realIndex = some real ∧
        synWindow.memory.loadWord (synWindow.context.data + 12) 2 =
            (if isIpv6 then beEthPIpv6 else beEthPIp) ∧
          SentTo oneVip.mac real isIpv6 synWindow synOutcome.window := by
  have forwards := balancerIngress_forwards ⟨0, 1, 1⟩ forgetfulTables movesHead_runtime
    oneVip_numbered synWindow_headroom createdMaps
  rwa [if_neg (by decide)] at forwards

/-! ## Decapsulation -/

/-- The helper also cuts off the front of a packet. -/
def CutsHead (adjustHead : Window → Int → Nat × Window) : Prop :=
  ∀ (xdp : Window) (size : Nat), xdp.context.data + size < 2 ^ 64 →
    adjustHead xdp size =
      (0, { xdp with context := { xdp.context with data := xdp.context.data + size } })

theorem cutsHead_runtime : CutsHead bpftimeXdpAdjustHeadRuntime := by
  intro xdp size small
  have moved : (((xdp.context.data : Int) + (size : Int)) % 2 ^ 64).toNat =
      xdp.context.data + size := by
    omega
  unfold bpftimeXdpAdjustHeadRuntime
  rw [moved]

/-- The frame as it was received, but from the balancer and to the MAC address that the
outer frame had. -/
structure Recovered (mac : Vector UInt8 6) (xdp window : Window) : Prop where
  context : window.context = xdp.context
  etherDestination : window.memory.bytes xdp.context.data 6 = mac.toList
  etherSource :
    window.memory.bytes (xdp.context.data + 6) 6 = xdp.memory.bytes xdp.context.data 6
  rest : ∀ candidate, xdp.context.data + 12 ≤ candidate →
    window.memory candidate = xdp.memory candidate

section Restore

variable (memory : Memory) {newEth oldEth : Nat} (proto : Nat)

theorem restoreEthHdr_other {candidate : Nat}
    (outside : candidate < newEth ∨ newEth + 14 ≤ candidate) :
    restoreEthHdr memory newEth oldEth proto candidate = memory candidate := by
  unfold restoreEthHdr
  simp (disch := omega) only [Memory.storeWord_other, Memory.copyFrom_other]

theorem restoreEthHdr_destination (apart : oldEth + 14 ≤ newEth) :
    (restoreEthHdr memory newEth oldEth proto).bytes newEth 6 = memory.bytes oldEth 6 := by
  apply Memory.bytes_eq_iff.mpr
  intro index below
  unfold restoreEthHdr
  rw [Memory.storeWord_other _ (by omega), Memory.copyFrom_inside _ _ _ below,
    Memory.copyFrom_other _ (by omega)]

theorem restoreEthHdr_source :
    (restoreEthHdr memory newEth oldEth proto).bytes (newEth + 6) 6 =
      memory.bytes (oldEth + 6) 6 := by
  apply Memory.bytes_eq_iff.mpr
  intro index below
  unfold restoreEthHdr
  rw [Memory.storeWord_other _ (by omega), Memory.copyFrom_other _ (by omega),
    Memory.copyFrom_inside _ _ _ below]

theorem restoreEthHdr_type (small : proto < 2 ^ 16) :
    (restoreEthHdr memory newEth oldEth proto).loadWord (newEth + 12) 2 = proto := by
  unfold restoreEthHdr
  rw [Memory.loadWord_storeWord]
  exact Nat.mod_eq_of_lt small

end Restore

/-- Decapsulation undoes a tunnel of the same size, if it names the protocol that the
received frame had. -/
theorem decap_recovers {adjustHead : Window → Int → Nat × Window} (cuts : CutsHead adjustHead)
    {xdp window : Window} {size outer : Nat} {mac : Vector UInt8 6} (wide : 14 ≤ size)
    (headroom : Headroom xdp size) (context : window.context = (movedBack xdp size).context)
    (tunnelled : Tunnelled xdp.memory window.memory (xdp.context.data - size) size mac outer) :
    (decap adjustHead window size (xdp.memory.loadWord (xdp.context.data + 12) 2)).1 = true ∧
      Recovered mac xdp
        (decap adjustHead window size (xdp.memory.loadWord (xdp.context.data + 12) 2)).2 := by
  have room := headroom.room
  have addressed := headroom.addressed
  have small := xdp.memory.loadWord_lt (xdp.context.data + 12) 2
  generalize type : xdp.memory.loadWord (xdp.context.data + 12) 2 = proto at small ⊢
  have head : window.context.data = xdp.context.data - size := congrArg XdpMdUserspace.data context
  have back : window.context.data + size = xdp.context.data := by omega
  have restored : ({ window.context with data := xdp.context.data } : XdpMdUserspace) =
      xdp.context := by
    rw [context]
    rfl
  have cut := cuts
    { window with
      memory := restoreEthHdr window.memory xdp.context.data window.context.data proto } size
    (by dsimp only; omega)
  unfold decap
  dsimp only at cut ⊢
  rw [back, restored] at cut
  rw [back, cut]
  refine ⟨rfl, rfl, ?_, ?_, ?_⟩
  · have copied := restoreEthHdr_destination window.memory proto
      (by omega : window.context.data + 14 ≤ xdp.context.data)
    rw [head] at copied ⊢
    exact copied.trans tunnelled.etherDestination
  · have copied : (restoreEthHdr window.memory xdp.context.data window.context.data proto).bytes
        (xdp.context.data + 6) 6 = window.memory.bytes (window.context.data + 6) 6 :=
      restoreEthHdr_source window.memory proto
    rw [head] at copied ⊢
    rw [copied, tunnelled.etherSource, Nat.sub_add_cancel room]
  · intro candidate behind
    have inner := tunnelled.payload candidate
    by_cases payload : xdp.context.data + 14 ≤ candidate
    · show restoreEthHdr _ _ _ _ candidate = _
      rw [restoreEthHdr_other _ _ (Or.inr payload)]
      exact inner (by omega)
    · -- The two bytes of the type are the same word.
      have word : (restoreEthHdr window.memory xdp.context.data window.context.data
          proto).loadWord (xdp.context.data + 12) 2 =
            xdp.memory.loadWord (xdp.context.data + 12) 2 := by
        rw [restoreEthHdr_type _ _ small, type]
      obtain ⟨index, rfl⟩ := Nat.exists_eq_add_of_le behind
      exact Memory.loadWord_eq_iff.mp word index (by omega)

section Decapsulated

variable {Tables : Type} {control : Control} (arrival : Arrival)
variable {adjustHead : Window → Int → Nat × Window}

/-- What a real makes of a packet that the balancer has sent it: `decap_v6`, told whether
the inner packet is IPv4, or `decap_v4`. -/
def decapReal (adjustHead : Window → Int → Nat × Window) (real : RealDefinition) (isIpv6 : Bool)
    (window : Window) : Bool × Window :=
  if real.isIpv6 then decapV6 adjustHead window (!isIpv6) else decapV4 adjustHead window

/-- The real that a packet is sent to gets it back, unless it is an IPv4 real and the
packet IPv6. -/
theorem balancerIngress_decapsulated (ops : LruOps Tables) (moves : MovesHead adjustHead)
    (cuts : CutsHead adjustHead) (numbered : VipsNumbered control) {xdp : Window}
    (headroom : Headroom xdp 40) (maps : BalancerMaps Tables)
    (moved : (balancerIngress ops control arrival adjustHead xdp maps).window.context.data ≠
      xdp.context.data) :
    let window := (balancerIngress ops control arrival adjustHead xdp maps).window
    ∃ isIpv6 realIndex real, arrayLookup control.reals maxReals realIndex = some real ∧
      xdp.memory.loadWord (xdp.context.data + 12) 2 = (if isIpv6 then beEthPIpv6 else beEthPIp) ∧
        SentTo control.mac real isIpv6 xdp window ∧
          ((isIpv6 = true → real.isIpv6 = true) →
            (decapReal adjustHead real isIpv6 window).1 = true ∧
              Recovered control.mac xdp (decapReal adjustHead real isIpv6 window).2) := by
  obtain ⟨-, isIpv6, realIndex, real, known, type, sent⟩ :=
    (balancerIngress_placed arrival ops moves numbered headroom maps).resolve_left
      fun settled => moved (congrArg XdpMdUserspace.data settled.context)
  intro window
  refine ⟨isIpv6, realIndex, real, known, type, sent, fun target => ?_⟩
  change SentTo control.mac real isIpv6 xdp window at sent
  unfold decapReal
  unfold SentTo at sent
  by_cases wide : real.isIpv6 = true
  · rw [if_pos wide] at sent ⊢
    have named : (if !isIpv6 then beEthPIp else beEthPIpv6) =
        xdp.memory.loadWord (xdp.context.data + 12) 2 := by
      rw [type]
      cases isIpv6 <;> rfl
    unfold decapV6
    rw [named]
    exact decap_recovers cuts (by decide) headroom sent.context sent.tunnelled
  · rw [if_neg wide] at sent ⊢
    have inner : isIpv6 = false := Bool.eq_false_iff.mpr fun v6 => wide (target v6)
    rw [inner] at type
    have named : beEthPIp = xdp.memory.loadWord (xdp.context.data + 12) 2 := type.symm
    unfold decapV4
    rw [named]
    exact decap_recovers cuts (by decide)
      ⟨Nat.le_trans (by decide) headroom.room, headroom.addressed⟩ sent.context sent.tunnelled

end Decapsulated

theorem syn_is_decapsulated :
    ∃ isIpv6 realIndex real, arrayLookup oneVip.reals maxReals realIndex = some real ∧
      synWindow.memory.loadWord (synWindow.context.data + 12) 2 =
          (if isIpv6 then beEthPIpv6 else beEthPIp) ∧
        SentTo oneVip.mac real isIpv6 synWindow synOutcome.window ∧
          ((isIpv6 = true → real.isIpv6 = true) →
            (decapReal bpftimeXdpAdjustHeadRuntime real isIpv6 synOutcome.window).1 = true ∧
              Recovered oneVip.mac synWindow
                (decapReal bpftimeXdpAdjustHeadRuntime real isIpv6 synOutcome.window).2) :=
  balancerIngress_decapsulated ⟨0, 1, 1⟩ forgetfulTables movesHead_runtime cutsHead_runtime
    oneVip_numbered synWindow_headroom createdMaps (by decide)

/-! ## Echo requests -/

section Echo

variable {Tables : Type} (ops : LruOps Tables) (control : Control) (arrival : Arrival)
variable (adjustHead : Window → Int → Nat × Window)

/-- An echo request is answered before anything is looked up or counted. -/
theorem balancerIngress_echo {xdp : Window} (echo : EchoRequest xdp)
    (maps : BalancerMaps Tables) :
    balancerIngress ops control arrival adjustHead xdp maps =
      ⟨xdpTx, { xdp with memory := icmpReply xdp.memory xdp.context.data }, maps⟩ := by
  have whole := echo.whole
  have message : xdp.context.data + 14 + 20 = xdp.context.data + 34 := rfl
  have parsed : parsePacket xdp.memory xdp.context.data xdp.context.dataEnd 14 false maps.cpu =
      .verdict xdpTx (icmpReply xdp.memory xdp.context.data) maps.cpu := by
    unfold parsePacket processL3Headers processIpv4Headers parseIcmp sendIcmpReply
    dsimp only
    rw [if_neg Bool.false_ne_true, if_neg (by omega), if_neg (not_not.mpr echo.ihl),
      if_neg (not_not.mpr echo.unfragmented), if_pos echo.protocol, if_neg (by omega),
      if_pos echo.request, if_neg (by omega)]
    rfl
  unfold balancerIngress processPacket
  dsimp only
  rw [if_neg (by omega), if_pos echo.type, parsed]

theorem balancerIngress_echo6 {xdp : Window} (echo : EchoRequest6 xdp)
    (maps : BalancerMaps Tables) :
    balancerIngress ops control arrival adjustHead xdp maps =
      ⟨xdpTx, { xdp with memory := icmp6Reply xdp.memory xdp.context.data }, maps⟩ := by
  have whole := echo.whole
  have other : ¬ beEthPIpv6 = beEthPIp := by decide
  have unfragmented : ¬ xdp.memory (xdp.context.data + 20) = ipprotoFragment := by
    rw [echo.nextHeader]
    decide
  have parsed : parsePacket xdp.memory xdp.context.data xdp.context.dataEnd 14 true maps.cpu =
      .verdict xdpTx (icmp6Reply xdp.memory xdp.context.data) maps.cpu := by
    unfold parsePacket processL3Headers processIpv6Headers parseIcmpv6 sendIcmp6Reply
    dsimp only
    rw [if_pos rfl, if_neg (by omega), if_neg unfragmented, if_pos echo.nextHeader,
      if_neg (by omega), if_pos echo.request, if_neg (by omega)]
    rfl
  unfold balancerIngress processPacket
  dsimp only
  rw [if_neg (by omega), echo.type, if_neg other, if_pos rfl, parsed]

/-- Every echo request is answered from the address it was sent to, with a header that
verifies and otherwise as it was; if its message verified, that of the answer does
exactly if its checksum, as the CPU reads it, leaves room for the 8 that is added. -/
theorem echo_reply (maps : BalancerMaps Tables) {xdp : Window} (echo : EchoRequest xdp) :
    let outcome := balancerIngress ops control arrival adjustHead xdp maps
    outcome.verdict = xdpTx ∧ outcome.maps = maps ∧ outcome.window.context = xdp.context ∧
      SentBack xdp.memory outcome.window.memory xdp.context.data (xdp.context.data + 26) 4 ∧
      outcome.window.memory (xdp.context.data + 22) = defaultTtl ∧
      RegionVerifies outcome.window.memory (xdp.context.data + 14) 10 ∧
      outcome.window.memory (xdp.context.data + 34) = icmpEchoreply ∧
      outcome.window.memory.loadWord (xdp.context.data + 36) 2 =
        (xdp.memory.loadWord (xdp.context.data + 36) 2 + 8) % 2 ^ 16 ∧
      (∀ candidate, candidate < xdp.context.data ∨
          xdp.context.data + 12 ≤ candidate ∧ candidate < xdp.context.data + 22 ∨
          candidate = xdp.context.data + 23 ∨ candidate = xdp.context.data + 35 ∨
          xdp.context.data + 38 ≤ candidate →
        outcome.window.memory candidate = xdp.memory candidate) ∧
      ∀ length, 4 ≤ length → MessageVerifies xdp.memory (xdp.context.data + 34) length →
        (MessageVerifies outcome.window.memory (xdp.context.data + 34) length ↔
          xdp.memory.loadWord (xdp.context.data + 36) 2 < 0xfff8) := by
  intro outcome
  have result : outcome =
      ⟨xdpTx, { xdp with memory := icmpReply xdp.memory xdp.context.data }, maps⟩ :=
    balancerIngress_echo ops control arrival adjustHead echo maps
  rw [result]
  exact ⟨rfl, rfl, rfl, icmpReply_sentBack _ _, icmpReply_ttl _ _, icmpReply_header_verifies _ _,
    (icmpReply_message _ _).1, (icmpReply_message _ _).2, fun _ => icmpReply_other _ _,
    fun _ long => icmpReply_message_verifies_iff _ _ long echo.request⟩

/-- The same over IPv6, where the answer verifies exactly if the checksum was not
zero. -/
theorem echo_reply6 (maps : BalancerMaps Tables) {xdp : Window} (echo : EchoRequest6 xdp) :
    let outcome := balancerIngress ops control arrival adjustHead xdp maps
    outcome.verdict = xdpTx ∧ outcome.maps = maps ∧ outcome.window.context = xdp.context ∧
      SentBack xdp.memory outcome.window.memory xdp.context.data (xdp.context.data + 22) 16 ∧
      outcome.window.memory (xdp.context.data + 21) = defaultTtl ∧
      outcome.window.memory (xdp.context.data + 54) = icmpv6EchoReply ∧
      outcome.window.memory.loadWord (xdp.context.data + 56) 2 =
        (xdp.memory.loadWord (xdp.context.data + 56) 2 + (2 ^ 16 - 1)) % 2 ^ 16 ∧
      (∀ candidate, candidate < xdp.context.data ∨
          xdp.context.data + 12 ≤ candidate ∧ candidate < xdp.context.data + 21 ∨
          candidate = xdp.context.data + 55 ∨ xdp.context.data + 58 ≤ candidate →
        outcome.window.memory candidate = xdp.memory candidate) ∧
      (4 ≤ payloadLength xdp.memory xdp.context.data →
        Icmp6Verifies xdp.memory xdp.context.data →
          (Icmp6Verifies outcome.window.memory xdp.context.data ↔
            xdp.memory.loadWord (xdp.context.data + 56) 2 ≠ 0)) := by
  intro outcome
  have result : outcome =
      ⟨xdpTx, { xdp with memory := icmp6Reply xdp.memory xdp.context.data }, maps⟩ :=
    balancerIngress_echo6 ops control arrival adjustHead echo maps
  rw [result]
  exact ⟨rfl, rfl, rfl, icmp6Reply_sentBack _ _, icmp6Reply_hopLimit _ _,
    (icmp6Reply_message _ _).1, (icmp6Reply_message _ _).2, fun _ => icmp6Reply_other _ _,
    fun long => icmp6Reply_message_verifies_iff _ _ long echo.request⟩

end Echo

/-- An echo request whose checksum, as the CPU reads it, is 0xfff7. -/
def echoWindow : Window where
  context := ⟨0, 42, 0, 0, 0, 0, 0, 42⟩
  memory address :=
    if address = 12 then 8
    else if address = 14 then 0x45
    else if address = 23 then 1
    else if address = 34 then 8
    else if address = 36 then 0xf7
    else if address = 37 then 0xff
    else 0

theorem echo_request_is_answered :
    let outcome := balancerIngress forgetfulTables oneVip ⟨0, 1, 1⟩ bpftimeXdpAdjustHeadRuntime
      echoWindow createdMaps
    outcome.verdict = xdpTx ∧ SentBack echoWindow.memory outcome.window.memory 0 26 4 ∧
      RegionVerifies outcome.window.memory 14 10 ∧ MessageVerifies outcome.window.memory 34 8 := by
  obtain ⟨verdict, -, -, sentBack, -, header, -, -, -, message⟩ :=
    echo_reply forgetfulTables oneVip ⟨0, 1, 1⟩ bpftimeXdpAdjustHeadRuntime createdMaps
      (⟨by decide, by decide, by decide, by decide, by decide, by decide⟩ : EchoRequest echoWindow)
  have verified : MessageVerifies echoWindow.memory 34 8 :=
    (regionVerifies_iff _ _ _).mpr (by decide)
  exact ⟨verdict, sentBack, header, (message 8 (by decide) verified).mpr (by decide)⟩

/-- The same over IPv6, with a message of 8 bytes from and to the unspecified address. -/
def echoWindow6 : Window where
  context := ⟨0, 62, 0, 0, 0, 0, 0, 62⟩
  memory address :=
    if address = 12 then 0x86
    else if address = 13 then 0xdd
    else if address = 19 then 8
    else if address = 20 then 58
    else if address = 54 then 128
    else if address = 56 then 0x7f
    else if address = 57 then 0xbd
    else 0

theorem echo_request6_is_answered :
    let outcome := balancerIngress forgetfulTables oneVip ⟨0, 1, 1⟩ bpftimeXdpAdjustHeadRuntime
      echoWindow6 createdMaps
    outcome.verdict = xdpTx ∧ SentBack echoWindow6.memory outcome.window.memory 0 22 16 ∧
      Icmp6Verifies outcome.window.memory 0 := by
  obtain ⟨verdict, -, -, sentBack, -, -, -, -, message⟩ :=
    echo_reply6 forgetfulTables oneVip ⟨0, 1, 1⟩ bpftimeXdpAdjustHeadRuntime createdMaps
      (⟨by decide, by decide, by decide, by decide⟩ : EchoRequest6 echoWindow6)
  have verified : Icmp6Verifies echoWindow6.memory 0 := (icmp6Verifies_iff _ _).mpr (by decide)
  exact ⟨verdict, sentBack, (message (by decide) verified).mpr (by decide)⟩

end UserspaceXdp.Katran
