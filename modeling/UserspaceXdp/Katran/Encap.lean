import UserspaceXdp.Foundation.Agreement
import UserspaceXdp.Katran.Parsing
import UserspaceXdp.Runtime.Helpers

/-!
Contract: the encapsulation of `pckt_encap.h` and `encap_helpers.h`, with the
helper that moves the head of the packet as a parameter, and the decapsulation
that undoes it.

Owns: the outer headers of `encap_v4` and `encap_v6` and the packet they leave.

Does not own: which real a packet is sent to.
-/

namespace UserspaceXdp.Katran

open UserspaceXdp.Foundation
open UserspaceXdp.Runtime
open UserspaceXdp.Maps
open UserspaceXdp.Checksum
open UserspaceXdp.Programs (bpfNtohs bpfHtons setVersion setIhl setIhl_setVersion)

def beEthPIp : Nat := 8
def beEthPIpv6 : Nat := 56710
def ipipV4Prefix : UInt32 := 4268
def ipipV6Prefix1 : UInt32 := 1
def ipipV6Prefix2 : UInt32 := 0
def ipipV6Prefix3 : UInt32 := 0

/-! ## The headers -/

def createEncapIpv6Src (port : Nat) (src : UInt32) : Fin 4 → UInt32 :=
  fun word =>
    match word with
    | 0 => ipipV6Prefix1
    | 1 => ipipV6Prefix2
    | 2 => ipipV6Prefix3
    | 3 => src ^^^ UInt32.ofNat port

def createEncapIpv4Src (port : Nat) (src : UInt32) : UInt32 :=
  let ipSuffix := UInt32.ofNat (bpfHtons port) <<< 16 ^^^ src
  0xffff0000 &&& ipSuffix ||| ipipV4Prefix

def storeAddress (memory : Memory) (target : Nat) (address : Fin 4 → UInt32) : Memory :=
  let memory := memory.storeWord target (address 0).toNat 4
  let memory := memory.storeWord (target + 4) (address 1).toNat 4
  let memory := memory.storeWord (target + 8) (address 2).toNat 4
  memory.storeWord (target + 12) (address 3).toNat 4

/-- `create_v4_hdr` up to its checksum. -/
def v4Fields (memory : Memory) (iph : Nat) (tos : UInt8) (saddr daddr : UInt32)
    (pktBytes : Nat) (proto : UInt8) : Memory :=
  let memory := memory.store iph (setVersion (memory iph) 4)
  let memory := memory.store iph (setIhl (memory iph) 5)
  let memory := memory.storeWord (iph + 6) 0 2
  let memory := memory.store (iph + 9) proto
  let memory := memory.storeWord (iph + 10) 0 2
  let memory := memory.store (iph + 1) tos
  let memory := memory.storeWord (iph + 2) (bpfHtons (pktBytes + 20)) 2
  let memory := memory.storeWord (iph + 4) 0 2
  let memory := memory.storeWord (iph + 16) daddr.toNat 4
  let memory := memory.storeWord (iph + 12) saddr.toNat 4
  memory.store (iph + 8) defaultTtl

def createV4Hdr (memory : Memory) (iph : Nat) (tos : UInt8) (saddr daddr : UInt32)
    (pktBytes : Nat) (proto : UInt8) : Memory :=
  let memory := v4Fields memory iph tos saddr daddr pktBytes proto
  memory.storeWord (iph + 10) (ipv4CsumInline memory iph 0) 2

/-- `ip6h->priority = priority`: the low half of the byte. -/
def setPriority (byte : UInt8) (priority : Nat) : UInt8 :=
  UInt8.ofNat (byte.toNat / 16 * 16 + priority)

def createV6Hdr (memory : Memory) (ip6h : Nat) (tc : UInt8) (saddr daddr : Fin 4 → UInt32)
    (payloadLen : Nat) (proto : UInt8) : Memory :=
  let memory := memory.store ip6h (setVersion (memory ip6h) 6)
  let memory := memory.copyFrom (ip6h + 1) (fun _ => 0) 3
  let memory := memory.store ip6h (setPriority (memory ip6h) (tc.toNat / 16))
  let memory := memory.store (ip6h + 1) (UInt8.ofNat (tc.toNat % 16 * 16))
  let memory := memory.store (ip6h + 6) proto
  let memory := memory.storeWord (ip6h + 4) (bpfHtons payloadLen) 2
  let memory := memory.store (ip6h + 7) defaultTtl
  let memory := storeAddress memory (ip6h + 8) saddr
  storeAddress memory (ip6h + 24) daddr

/-! ## Encapsulation -/

/-- The new Ethernet header, to the router, from the address the packet came to. -/
def createEthHdr (memory : Memory) (newEth oldEth : Nat) (mac : Vector UInt8 6)
    (proto : Nat) : Memory :=
  let memory := memory.copyFrom newEth (fun index => mac.toList.getD index 0) 6
  let memory := memory.copyFrom (newEth + 6) (fun index => memory (oldEth + index)) 6
  memory.storeWord (newEth + 12) proto 2

/-- The Ethernet header of the inner packet, with the addresses of the outer one. -/
def restoreEthHdr (memory : Memory) (newEth oldEth proto : Nat) : Memory :=
  let memory := memory.copyFrom (newEth + 6) (fun index => memory (oldEth + 6 + index)) 6
  let memory := memory.copyFrom newEth (fun index => memory (oldEth + index)) 6
  memory.storeWord (newEth + 12) proto 2

section Program

variable (adjustHead : Window → Int → Nat × Window)
variable (xdp : Window) (mac : Vector UInt8 6) (pckt : PacketDescription)
variable (dst : RealDefinition) (pktBytes : Nat)

def encapV6 (isIpv6 : Bool) : Bool × Window :=
  let moved := adjustHead xdp (-40)
  if moved.1 ≠ 0 then (false, moved.2)
  else
    let data := moved.2.context.data
    let dataEnd := moved.2.context.dataEnd
    if dataEnd < data + 14 ∨ dataEnd < data + 40 + 14 ∨ dataEnd < data + 14 + 40 then
      (false, moved.2)
    else
      let memory := createEthHdr moved.2.memory data (data + 40) mac beEthPIpv6
      let port := sourcePort pckt.flow
      let memory :=
        if isIpv6 then
          createV6Hdr memory (data + 14) pckt.tos (createEncapIpv6Src port (pckt.flow.srcv6 3))
            dst.dstv6 (pktBytes + 40) ipprotoIpv6
        else
          createV6Hdr memory (data + 14) pckt.tos (createEncapIpv6Src port pckt.flow.src)
            dst.dstv6 pktBytes ipprotoIpip
      (true, { moved.2 with memory })

def encapV4 : Bool × Window :=
  let ipSrc := createEncapIpv4Src (sourcePort pckt.flow) pckt.flow.src
  let moved := adjustHead xdp (-20)
  if moved.1 ≠ 0 then (false, moved.2)
  else
    let data := moved.2.context.data
    let dataEnd := moved.2.context.dataEnd
    if dataEnd < data + 14 ∨ dataEnd < data + 20 + 14 ∨ dataEnd < data + 14 + 20 then
      (false, moved.2)
    else
      let memory := createEthHdr moved.2.memory data (data + 20) mac beEthPIp
      let memory := createV4Hdr memory (data + 14) pckt.tos ipSrc dst.dst pktBytes ipprotoIpip
      (true, { moved.2 with memory })

/-- What `decap_v4` and `decap_v6` share. -/
def decap (size hProto : Nat) : Bool × Window :=
  let oldEth := xdp.context.data
  let memory := restoreEthHdr xdp.memory (oldEth + size) oldEth hProto
  let moved := adjustHead { xdp with memory } size
  (moved.1 = 0, moved.2)

def decapV6 (innerV4 : Bool) : Bool × Window :=
  decap adjustHead xdp 40 (if innerV4 then beEthPIp else beEthPIpv6)

def decapV4 : Bool × Window :=
  decap adjustHead xdp 20 beEthPIp

end Program

/-! ## The outer IPv4 header -/

section V4

variable (memory : Memory) (iph : Nat) (tos : UInt8) (saddr daddr : UInt32) (pktBytes : Nat)
variable (proto : UInt8)

theorem v4Fields_other {candidate : Nat} (outside : candidate < iph ∨ iph + 20 ≤ candidate) :
    v4Fields memory iph tos saddr daddr pktBytes proto candidate = memory candidate := by
  unfold v4Fields
  simp (disch := omega) only [Memory.store_other, Memory.storeWord_other]

theorem createV4Hdr_other {candidate : Nat} (outside : candidate < iph ∨ iph + 20 ≤ candidate) :
    createV4Hdr memory iph tos saddr daddr pktBytes proto candidate = memory candidate := by
  unfold createV4Hdr
  rw [Memory.storeWord_other _ (by omega), v4Fields_other _ _ _ _ _ _ _ outside]

/-- The fields of an IPv4 header without options, whether its checksum is filled in
or not. -/
structure V4Header (after : Memory) : Prop where
  version : after iph = 0x45
  tos : after (iph + 1) = tos
  totalLength : after.loadWord (iph + 2) 2 = bpfHtons (pktBytes + 20)
  id : after.loadWord (iph + 4) 2 = 0
  fragOff : after.loadWord (iph + 6) 2 = 0
  ttl : after (iph + 8) = defaultTtl
  protocol : after (iph + 9) = proto
  saddr : after.loadWord (iph + 12) 4 = saddr.toNat
  daddr : after.loadWord (iph + 16) 4 = daddr.toNat

theorem v4Fields_header :
    V4Header iph tos saddr daddr pktBytes proto
      (v4Fields memory iph tos saddr daddr pktBytes proto) where
  version := by
    unfold v4Fields
    simp (disch := omega) only [Memory.store_other, Memory.storeWord_other, Memory.store_same]
    exact setIhl_setVersion _
  tos := by
    unfold v4Fields
    simp (disch := omega) only [Memory.store_other, Memory.storeWord_other, Memory.store_same]
  totalLength := by
    unfold v4Fields
    simp (disch := omega) only [Memory.loadWord_store_other, Memory.loadWord_storeWord_other,
      Memory.loadWord_storeWord]
    unfold bpfHtons bpfNtohs
    omega
  id := by
    unfold v4Fields
    simp (disch := omega) only [Memory.loadWord_store_other, Memory.loadWord_storeWord_other,
      Memory.loadWord_storeWord]
    rfl
  fragOff := by
    unfold v4Fields
    simp (disch := omega) only [Memory.loadWord_store_other, Memory.loadWord_storeWord_other,
      Memory.loadWord_storeWord]
    rfl
  ttl := by
    unfold v4Fields
    rw [Memory.store_same]
  protocol := by
    unfold v4Fields
    simp (disch := omega) only [Memory.store_other, Memory.storeWord_other, Memory.store_same]
  saddr := by
    unfold v4Fields
    simp (disch := omega) only [Memory.loadWord_store_other, Memory.loadWord_storeWord]
    exact Nat.mod_eq_of_lt saddr.toNat_lt
  daddr := by
    unfold v4Fields
    simp (disch := omega) only [Memory.loadWord_store_other, Memory.loadWord_storeWord_other,
      Memory.loadWord_storeWord]
    exact Nat.mod_eq_of_lt daddr.toNat_lt

/-- The store of the checksum leaves the other fields alone. -/
theorem V4Header.withChecksum {iph : Nat} {tos : UInt8} {saddr daddr : UInt32} {pktBytes : Nat}
    {proto : UInt8} {before : Memory} (fields : V4Header iph tos saddr daddr pktBytes proto before)
    (check : Nat) :
    V4Header iph tos saddr daddr pktBytes proto (before.storeWord (iph + 10) check 2) := by
  have kept {candidate : Nat} (outside : candidate < iph + 10 ∨ iph + 12 ≤ candidate) :
      before.storeWord (iph + 10) check 2 candidate = before candidate :=
    Memory.storeWord_other _ outside
  have keptWord {address width : Nat} (outside : address + width ≤ iph + 10 ∨ iph + 12 ≤ address) :
      (before.storeWord (iph + 10) check 2).loadWord address width =
        before.loadWord address width :=
    Memory.loadWord_storeWord_other _ outside
  exact
    { version := (kept (by omega)).trans fields.version
      tos := (kept (by omega)).trans fields.tos
      totalLength := (keptWord (by omega)).trans fields.totalLength
      id := (keptWord (by omega)).trans fields.id
      fragOff := (keptWord (by omega)).trans fields.fragOff
      ttl := (kept (by omega)).trans fields.ttl
      protocol := (kept (by omega)).trans fields.protocol
      saddr := (keptWord (by omega)).trans fields.saddr
      daddr := (keptWord (by omega)).trans fields.daddr }

theorem createV4Hdr_header :
    V4Header iph tos saddr daddr pktBytes proto
      (createV4Hdr memory iph tos saddr daddr pktBytes proto) :=
  (v4Fields_header memory iph tos saddr daddr pktBytes proto).withChecksum _

/-- The sum is folded until nothing is left to carry: the header always
verifies. -/
theorem createV4Hdr_verifies :
    RegionVerifies (createV4Hdr memory iph tos saddr daddr pktBytes proto) iph 10 := by
  apply ipv4CsumInline_verifies
  unfold v4Fields
  simp (disch := omega) only [Memory.loadWord_store_other, Memory.loadWord_storeWord_other,
    Memory.loadWord_storeWord]
  rfl

/-- Every byte of the header is written. -/
theorem createV4Hdr_agree {within : Nat → Prop} {left right : Memory}
    (agree : AgreeOn within left right) :
    AgreeOn (fun candidate => within candidate ∨ Between iph (iph + 20) candidate)
      (createV4Hdr left iph tos saddr daddr pktBytes proto)
      (createV4Hdr right iph tos saddr daddr pktBytes proto) := by
  have first (memory : Memory) : (memory.store iph (setVersion (memory iph) 4)).store iph
      (setIhl (memory.store iph (setVersion (memory iph) 4) iph) 5) = memory.store iph 0x45 := by
    rw [Memory.store_same, setIhl_setVersion]
    funext candidate
    by_cases same : candidate = iph
    · rw [same, Memory.store_same, Memory.store_same]
    · rw [Memory.store_other _ same, Memory.store_other _ same, Memory.store_other _ same]
  have fields : AgreeOn (fun candidate => within candidate ∨ Between iph (iph + 20) candidate)
      (v4Fields left iph tos saddr daddr pktBytes proto)
      (v4Fields right iph tos saddr daddr pktBytes proto) := by
    unfold v4Fields
    dsimp only
    rw [first, first]
    refine (((((((((agree.store iph 0x45).storeWord (iph + 6) 0 2).store (iph + 9) proto).storeWord
      (iph + 10) 0 2).store (iph + 1) tos).storeWord (iph + 2) (bpfHtons (pktBytes + 20))
      2).storeWord (iph + 4) 0 2).storeWord (iph + 16) daddr.toNat 4).storeWord (iph + 12)
      saddr.toNat 4).store (iph + 8) defaultTtl |>.mono ?_
    intro candidate inside
    unfold Between at inside ⊢
    grind
  have sums : ipv4CsumInline (v4Fields left iph tos saddr daddr pktBytes proto) iph 0 =
      ipv4CsumInline (v4Fields right iph tos saddr daddr pktBytes proto) iph 0 := by
    unfold ipv4CsumInline
    rw [fields.regionWords fun candidate inside => Or.inr inside]
  unfold createV4Hdr
  dsimp only
  rw [sums]
  exact (fields.storeWord _ _ _).mono fun candidate inside => Or.inl inside

end V4

/-! ## The outer IPv6 header -/

section Address

variable {memory : Memory} {target : Nat} {address : Fin 4 → UInt32}

theorem storeAddress_other {candidate : Nat}
    (outside : candidate < target ∨ target + 16 ≤ candidate) :
    storeAddress memory target address candidate = memory candidate := by
  unfold storeAddress
  simp (disch := omega) only [Memory.storeWord_other]

/-- An address that was stored is read back. -/
theorem loadAddress_storeAddress (memory : Memory) (target : Nat) (address : Fin 4 → UInt32) :
    loadAddress (storeAddress memory target address) target = address := by
  have word (value : UInt32) : UInt32.ofNat (value.toNat % 256 ^ 4) = value := by
    have small : value.toNat < 256 ^ 4 := value.toNat_lt
    rw [Nat.mod_eq_of_lt small, UInt32.ofNat_toNat]
  funext index
  show UInt32.ofNat ((storeAddress memory target address).loadWord (target + 4 * index) 4) = _
  unfold storeAddress
  fin_cases index
  · show UInt32.ofNat (Memory.loadWord _ target 4) = _
    simp (disch := omega) only [Memory.loadWord_storeWord_other, Memory.loadWord_storeWord, word]
    rfl
  · show UInt32.ofNat (Memory.loadWord _ (target + 4) 4) = _
    simp (disch := omega) only [Memory.loadWord_storeWord_other, Memory.loadWord_storeWord, word]
    rfl
  · show UInt32.ofNat (Memory.loadWord _ (target + 8) 4) = _
    simp (disch := omega) only [Memory.loadWord_storeWord_other, Memory.loadWord_storeWord, word]
    rfl
  · show UInt32.ofNat (Memory.loadWord _ (target + 12) 4) = _
    simp (disch := omega) only [Memory.loadWord_storeWord, word]
    rfl

theorem loadAddress_congr {left right : Memory} {source : Nat}
    (agree : ∀ candidate, source ≤ candidate → candidate < source + 16 →
      left candidate = right candidate) :
    loadAddress left source = loadAddress right source := by
  funext word
  have below : word.val < 4 := word.isLt
  unfold loadAddress loadWord32
  rw [Memory.loadWord_congr fun candidate lower upper => agree candidate (by omega) (by omega)]

theorem storeAddress_agree {within : Nat → Prop} {left right : Memory}
    (agree : AgreeOn within left right) :
    AgreeOn (fun candidate => within candidate ∨ Between target (target + 16) candidate)
      (storeAddress left target address) (storeAddress right target address) := by
  unfold storeAddress
  refine ((((agree.storeWord target (address 0).toNat 4).storeWord (target + 4) (address 1).toNat
    4).storeWord (target + 8) (address 2).toNat 4).storeWord (target + 12) (address 3).toNat
    4).mono ?_
  intro candidate inside
  unfold Between at inside ⊢
  grind

end Address

section V6

variable (memory : Memory) (ip6h : Nat) (tc : UInt8) (saddr daddr : Fin 4 → UInt32)
variable (payloadLen : Nat) (proto : UInt8)

theorem createV6Hdr_other {candidate : Nat} (outside : candidate < ip6h ∨ ip6h + 40 ≤ candidate) :
    createV6Hdr memory ip6h tc saddr daddr payloadLen proto candidate = memory candidate := by
  unfold createV6Hdr
  simp (disch := omega) only [storeAddress_other, Memory.store_other, Memory.storeWord_other,
    Memory.copyFrom_other]

/-- The fields of an IPv6 header whose flow label holds the low half of the traffic
class only. -/
structure V6Header (after : Memory) : Prop where
  version : after ip6h = UInt8.ofNat (6 * 16 + tc.toNat / 16)
  flowLabel : after.bytes (ip6h + 1) 3 = [UInt8.ofNat (tc.toNat % 16 * 16), 0, 0]
  payloadLength : after.loadWord (ip6h + 4) 2 = bpfHtons payloadLen
  nextHeader : after (ip6h + 6) = proto
  hopLimit : after (ip6h + 7) = defaultTtl
  saddr : loadAddress after (ip6h + 8) = saddr
  daddr : loadAddress after (ip6h + 24) = daddr

/-- Whatever the byte was, both halves are set. -/
theorem setPriority_setVersion (byte : UInt8) {priority : Nat} (small : priority < 16) :
    setPriority (setVersion byte 6) priority = UInt8.ofNat (6 * 16 + priority) := by
  apply UInt8.toNat_inj.mp
  unfold setPriority setVersion
  rw [UInt8.toNat_ofNat', UInt8.toNat_ofNat', UInt8.toNat_ofNat']
  omega

theorem createV6Hdr_header :
    V6Header ip6h tc saddr daddr payloadLen proto
      (createV6Hdr memory ip6h tc saddr daddr payloadLen proto) where
  version := by
    have priority : tc.toNat / 16 < 16 := by
      have small := tc.toNat_lt
      omega
    unfold createV6Hdr
    simp (disch := omega) only [storeAddress_other, Memory.store_other, Memory.storeWord_other,
      Memory.store_same, Memory.copyFrom_other]
    exact setPriority_setVersion _ priority
  flowLabel := by
    have zero (base : Memory) {index : Nat} (below : index < 3) :
        base.copyFrom (ip6h + 1) (fun _ => 0) 3 (ip6h + 1 + index) = 0 :=
      Memory.copyFrom_inside _ _ _ below
    unfold createV6Hdr
    show [_, _, _] = _
    simp (disch := omega) only [storeAddress_other, Memory.store_other, Memory.storeWord_other,
      Memory.store_same, Nat.add_zero]
    rw [zero _ (by decide), zero _ (by decide)]
  payloadLength := by
    unfold createV6Hdr
    have kept (base : Memory) (target : Nat) (address : Fin 4 → UInt32)
        (apart : ip6h + 6 ≤ target) :
        (storeAddress base target address).loadWord (ip6h + 4) 2 = base.loadWord (ip6h + 4) 2 :=
      Memory.loadWord_congr fun candidate _ upper => storeAddress_other (by omega)
    rw [kept _ _ _ (by omega), kept _ _ _ (by omega)]
    simp (disch := omega) only [Memory.loadWord_store_other, Memory.loadWord_storeWord]
    unfold bpfHtons bpfNtohs
    omega
  nextHeader := by
    unfold createV6Hdr
    simp (disch := omega) only [storeAddress_other, Memory.store_other, Memory.storeWord_other,
      Memory.store_same]
  hopLimit := by
    unfold createV6Hdr
    simp (disch := omega) only [storeAddress_other, Memory.store_same]
  saddr := by
    have kept (base : Memory) :
        loadAddress (storeAddress base (ip6h + 24) daddr) (ip6h + 8) =
          loadAddress base (ip6h + 8) :=
      loadAddress_congr fun candidate _ upper => storeAddress_other (by omega)
    unfold createV6Hdr
    dsimp only
    rw [kept, loadAddress_storeAddress]
  daddr := loadAddress_storeAddress _ (ip6h + 24) daddr

/-- Every byte of the header is written. -/
theorem createV6Hdr_agree {within : Nat → Prop} {left right : Memory}
    (agree : AgreeOn within left right) :
    AgreeOn (fun candidate => within candidate ∨ Between ip6h (ip6h + 40) candidate)
      (createV6Hdr left ip6h tc saddr daddr payloadLen proto)
      (createV6Hdr right ip6h tc saddr daddr payloadLen proto) := by
  have priority : tc.toNat / 16 < 16 := by
    have small := tc.toNat_lt
    omega
  have first (memory : Memory) :
      setPriority (((memory.store ip6h (setVersion (memory ip6h) 6)).copyFrom (ip6h + 1)
        (fun _ => 0) 3) ip6h) (tc.toNat / 16) = UInt8.ofNat (6 * 16 + tc.toNat / 16) := by
    rw [Memory.copyFrom_other _ (by omega), Memory.store_same, setPriority_setVersion _ priority]
  have start : AgreeOn (fun candidate => within candidate ∧ candidate ≠ ip6h)
      (left.store ip6h (setVersion (left ip6h) 6)) (right.store ip6h (setVersion (right ip6h) 6)) := by
    intro candidate inside
    rw [Memory.store_other _ inside.2, Memory.store_other _ inside.2]
    exact agree candidate inside.1
  unfold createV6Hdr
  dsimp only
  rw [first, first]
  refine (storeAddress_agree (storeAddress_agree (((((start.copyFrom (ip6h + 1)
    (fun _ _ => rfl)).store ip6h (UInt8.ofNat (6 * 16 + tc.toNat / 16))).store (ip6h + 1)
    (UInt8.ofNat (tc.toNat % 16 * 16))).store (ip6h + 6) proto).storeWord (ip6h + 4)
    (bpfHtons payloadLen) 2 |>.store (ip6h + 7) defaultTtl))).mono ?_
  intro candidate inside
  unfold Between at inside ⊢
  grind

end V6

/-! ## The packet -/

section Ethernet

variable (memory : Memory) (newEth oldEth : Nat) (mac : Vector UInt8 6) (proto : Nat)

theorem createEthHdr_other {candidate : Nat}
    (outside : candidate < newEth ∨ newEth + 14 ≤ candidate) :
    createEthHdr memory newEth oldEth mac proto candidate = memory candidate := by
  unfold createEthHdr
  simp (disch := omega) only [Memory.storeWord_other, Memory.copyFrom_other]

theorem createEthHdr_destination :
    (createEthHdr memory newEth oldEth mac proto).bytes newEth 6 = mac.toList := by
  apply Programs.bytes_eq_toList
  intro index below
  unfold createEthHdr
  rw [Memory.storeWord_other _ (by omega), Memory.copyFrom_other _ (by omega),
    Memory.copyFrom_inside _ _ _ below]

theorem createEthHdr_source (behind : newEth + 6 ≤ oldEth) :
    (createEthHdr memory newEth oldEth mac proto).bytes (newEth + 6) 6 =
      memory.bytes oldEth 6 := by
  apply Memory.bytes_eq_iff.mpr
  intro index below
  unfold createEthHdr
  rw [Memory.storeWord_other _ (by omega), Memory.copyFrom_inside _ _ _ below,
    Memory.copyFrom_other _ (by omega)]

theorem createEthHdr_type (small : proto < 2 ^ 16) :
    (createEthHdr memory newEth oldEth mac proto).loadWord (newEth + 12) 2 = proto := by
  unfold createEthHdr
  rw [Memory.loadWord_storeWord]
  exact Nat.mod_eq_of_lt small

theorem createEthHdr_agree {left right : Memory} {within : Nat → Prop}
    (agree : AgreeOn within left right)
    (inside : ∀ candidate, Between oldEth (oldEth + 6) candidate → within candidate) :
    AgreeOn (fun candidate => within candidate ∨ Between newEth (newEth + 14) candidate)
      (createEthHdr left newEth oldEth mac proto) (createEthHdr right newEth oldEth mac proto) := by
  have first : AgreeOn (fun candidate => within candidate ∨ Between newEth (newEth + 6) candidate)
      (left.copyFrom newEth (fun index => mac.toList.getD index 0) 6)
      (right.copyFrom newEth (fun index => mac.toList.getD index 0) 6) :=
    agree.copyFrom newEth fun _ _ => rfl
  have source : ∀ index < 6,
      left.copyFrom newEth (fun index => mac.toList.getD index 0) 6 (oldEth + index) =
        right.copyFrom newEth (fun index => mac.toList.getD index 0) 6 (oldEth + index) :=
    fun index below => first _ (Or.inl (inside _ ⟨by omega, by omega⟩))
  unfold createEthHdr
  refine ((first.copyFrom (newEth + 6) source).storeWord (newEth + 12) proto 2).mono ?_
  intro candidate inside
  unfold Between at inside ⊢
  grind

end Ethernet

/-- The packet from `data` on is the frame that began `size` bytes later, behind an
outer header of that size, sent to the router. -/
structure Tunnelled (before after : Memory) (data size : Nat) (mac : Vector UInt8 6)
    (proto : Nat) : Prop where
  etherDestination : after.bytes data 6 = mac.toList
  etherSource : after.bytes (data + 6) 6 = before.bytes (data + size) 6
  etherType : after.loadWord (data + 12) 2 = proto
  payload : ∀ candidate, data + 14 + size ≤ candidate → after candidate = before candidate

/-- An outer header leaves the Ethernet header in front of it and the packet behind it
alone. -/
theorem tunnelled_of_header {memory after : Memory} {data size proto : Nat}
    {mac : Vector UInt8 6} (long : 6 ≤ size) (small : proto < 2 ^ 16)
    (outside : ∀ candidate, candidate < data + 14 ∨ data + 14 + size ≤ candidate →
      after candidate = createEthHdr memory data (data + size) mac proto candidate) :
    Tunnelled memory after data size mac proto := by
  have ethernet {address width : Nat} (inside : address + width ≤ data + 14) :
      after.bytes address width =
        (createEthHdr memory data (data + size) mac proto).bytes address width :=
    Memory.bytes_congr fun candidate _ upper => outside candidate (by omega)
  have type : after.loadWord (data + 12) 2 =
      (createEthHdr memory data (data + size) mac proto).loadWord (data + 12) 2 :=
    Memory.loadWord_congr fun candidate _ upper => outside candidate (by omega)
  exact
    { etherDestination := (ethernet (by omega)).trans (createEthHdr_destination ..)
      etherSource := (ethernet (by omega)).trans (createEthHdr_source _ _ _ _ _ (by omega))
      etherType := type.trans (createEthHdr_type _ _ _ _ _ small)
      payload := fun candidate behind =>
        (outside candidate (by omega)).trans (createEthHdr_other _ _ _ _ _ (by omega)) }

/-- The window with its head moved back. -/
def movedBack (xdp : Window) (size : Nat) : Window :=
  { xdp with context := { xdp.context with data := xdp.context.data - size } }

/-- There is room in front of the packet, which has a 64-bit address. -/
structure Headroom (xdp : Window) (size : Nat) : Prop where
  room : size ≤ xdp.context.data
  addressed : xdp.context.data < 2 ^ 64

/-- The helper moves the head of the packet where there is room for it. -/
def MovesHead (adjustHead : Window → Int → Nat × Window) : Prop :=
  ∀ (xdp : Window) (size : Nat), Headroom xdp size →
    adjustHead xdp (-(size : Int)) = (0, movedBack xdp size)

theorem movesHead_runtime : MovesHead bpftimeXdpAdjustHeadRuntime := by
  intro xdp size headroom
  have room := headroom.room
  have addressed := headroom.addressed
  have moved : ((xdp.context.data + -(size : Int)) % 2 ^ 64).toNat = xdp.context.data - size := by
    omega
  unfold bpftimeXdpAdjustHeadRuntime
  rw [moved]
  rfl

section Packet

variable {adjustHead : Window → Int → Nat × Window} (moves : MovesHead adjustHead)
variable {xdp : Window} (mac : Vector UInt8 6) (pckt : PacketDescription)
variable (dst : RealDefinition) (pktBytes : Nat)

/-- The packet that is sent to an IPv4 real. -/
def v4Packet (memory : Memory) (data : Nat) : Memory :=
  createV4Hdr (createEthHdr memory data (data + 20) mac beEthPIp) (data + 14) pckt.tos
    (createEncapIpv4Src (sourcePort pckt.flow) pckt.flow.src) dst.dst pktBytes ipprotoIpip

def outerSource (isIpv6 : Bool) : Fin 4 → UInt32 :=
  createEncapIpv6Src (sourcePort pckt.flow) (if isIpv6 then pckt.flow.srcv6 3 else pckt.flow.src)

/-- The packet that is sent to an IPv6 real. -/
def v6Packet (memory : Memory) (data : Nat) (isIpv6 : Bool) : Memory :=
  createV6Hdr (createEthHdr memory data (data + 40) mac beEthPIpv6) (data + 14) pckt.tos
    (outerSource pckt isIpv6) dst.dstv6 (if isIpv6 then pktBytes + 40 else pktBytes)
    (if isIpv6 then ipprotoIpv6 else ipprotoIpip)

include moves in
/-- A frame with an Ethernet header and room in front of it is encapsulated. -/
theorem encapV4_eq (headroom : Headroom xdp 20)
    (whole : xdp.context.data + 14 ≤ xdp.context.dataEnd) :
    encapV4 adjustHead xdp mac pckt dst pktBytes =
      (true,
        { movedBack xdp 20 with
          memory := v4Packet mac pckt dst pktBytes xdp.memory (xdp.context.data - 20) }) := by
  have room := headroom.room
  have moved : adjustHead xdp (-20) = (0, movedBack xdp 20) := moves xdp 20 headroom
  have fits : ¬ (xdp.context.dataEnd < xdp.context.data - 20 + 14 ∨
      xdp.context.dataEnd < xdp.context.data - 20 + 20 + 14 ∨
        xdp.context.dataEnd < xdp.context.data - 20 + 14 + 20) := by omega
  unfold encapV4
  rw [moved]
  dsimp only [movedBack]
  rw [if_neg (not_not.mpr rfl), if_neg fits]
  rfl

include moves in
theorem encapV6_eq (isIpv6 : Bool) (headroom : Headroom xdp 40)
    (whole : xdp.context.data + 14 ≤ xdp.context.dataEnd) :
    encapV6 adjustHead xdp mac pckt dst pktBytes isIpv6 =
      (true,
        { movedBack xdp 40 with
          memory := v6Packet mac pckt dst pktBytes xdp.memory (xdp.context.data - 40) isIpv6 }) := by
  have room := headroom.room
  have moved : adjustHead xdp (-40) = (0, movedBack xdp 40) := moves xdp 40 headroom
  have fits : ¬ (xdp.context.dataEnd < xdp.context.data - 40 + 14 ∨
      xdp.context.dataEnd < xdp.context.data - 40 + 40 + 14 ∨
        xdp.context.dataEnd < xdp.context.data - 40 + 14 + 40) := by omega
  unfold encapV6
  rw [moved]
  dsimp only [movedBack]
  rw [if_neg (not_not.mpr rfl), if_neg fits]
  cases isIpv6
  · rfl
  · rfl

theorem v4Packet_tunnelled (memory : Memory) (data : Nat) :
    Tunnelled memory (v4Packet mac pckt dst pktBytes memory data) data 20 mac beEthPIp :=
  tunnelled_of_header (by decide) (by decide) fun _ outside => createV4Hdr_other _ _ _ _ _ _ _ outside

theorem v6Packet_tunnelled (memory : Memory) (data : Nat) (isIpv6 : Bool) :
    Tunnelled memory (v6Packet mac pckt dst pktBytes memory data isIpv6) data 40 mac beEthPIpv6 :=
  tunnelled_of_header (by decide) (by decide) fun _ outside => createV6Hdr_other _ _ _ _ _ _ _ outside

end Packet

end UserspaceXdp.Katran
