import UserspaceXdp.Checksum.Header
import UserspaceXdp.Programs.Packet
import UserspaceXdp.Runtime.Helpers

/-!
Contract: `xdp_tx_iptunnel.bpf.c` puts an IPv4 packet behind an outer IPv4
header.

Owns: the program over any contents of `vip2tnl`, with the helper that moves the
head of the packet as a parameter, the encapsulated packet, and exactly when the
outer header verifies.

Does not own: the helper.

The sum of the outer header is folded once. The ten words can add up to more
than one fold reduces: the carry of the fold itself is then lost.
-/

namespace UserspaceXdp.Programs.XdpTxIptunnel

open UserspaceXdp.Foundation
open UserspaceXdp.Foundation.OnesComplement
open UserspaceXdp.Runtime
open UserspaceXdp.Checksum

/-! ## The program -/

def afInet : Nat := 2
def ethPIp : Nat := 0x0800
def ipprotoIpip : UInt8 := 4
def ipprotoTcp : Nat := 6
def ipprotoUdp : Nat := 17

/-- `struct vip` of a lookup: the other words of the address are zero. -/
structure Vip where
  daddr : Nat
  dport : Nat
  family : Nat
  protocol : Nat
deriving DecidableEq, Repr

structure IptnlInfo where
  saddr : UInt32
  daddr : UInt32
  family : Nat
  dmac : Vector UInt8 6
deriving DecidableEq

section Program

variable (adjustHead : Window → Int → Nat × Window) (vip2tnl : Vip → Option IptnlInfo)

/-- The counters of `rxcnt`, one for each protocol number. -/
def countTx (rxcnt : Nat → Nat) (protocol : Nat) : Nat → Nat :=
  Function.update rxcnt protocol ((rxcnt protocol + 1) % 2 ^ 64)

/-- The destination port, or none for -1. -/
def getDport (memory : Memory) (transData dataEnd protocol : Nat) : Option Nat :=
  if protocol = ipprotoTcp then
    if dataEnd < transData + 20 then none else some (memory.loadWord (transData + 2) 2)
  else if protocol = ipprotoUdp then
    if dataEnd < transData + 8 then none else some (memory.loadWord (transData + 2) 2)
  else some 0

def setEthhdr (memory : Memory) (newEth oldEth : Nat) (tnl : IptnlInfo) (hProto : Nat) :
    Memory :=
  let memory := memory.copyFrom (newEth + 6) (fun index => memory (oldEth + index)) 6
  let memory := memory.copyFrom newEth (fun index => tnl.dmac.toList.getD index 0) 6
  memory.storeWord (newEth + 12) hProto 2

/-- The outer header with a zero checksum. Its `id` is left as it is. -/
def ipFields (memory : Memory) (iph payloadLen : Nat) (tnl : IptnlInfo) : Memory :=
  let memory := memory.store iph (setVersion (memory iph) 4)
  let memory := memory.store iph (setIhl (memory iph) (20 / 4))
  let memory := memory.storeWord (iph + 6) 0 2
  let memory := memory.store (iph + 9) ipprotoIpip
  let memory := memory.storeWord (iph + 10) 0 2
  let memory := memory.store (iph + 1) 0
  let memory := memory.storeWord (iph + 2) (bpfHtons (payloadLen + 20)) 2
  let memory := memory.storeWord (iph + 16) tnl.daddr.toNat 4
  let memory := memory.storeWord (iph + 12) tnl.saddr.toNat 4
  memory.store (iph + 8) 8

/-- The loop over the ten words. -/
def sumWords (memory : Memory) (iph : Nat) : Nat :=
  (List.range 10).foldl (fun csum i => (csum + memory.loadWord (iph + 2 * i) 2) % 2 ^ 32) 0

/-- `~((csum & 0xffff) + (csum >> 16))`, cut to 16 bits. -/
def foldOnce (csum : Nat) : Nat :=
  (2 ^ 32 - 1 - (csum % 2 ^ 16 + csum / 2 ^ 16)) % 2 ^ 16

def writeIp (memory : Memory) (iph payloadLen : Nat) (tnl : IptnlInfo) : Memory :=
  let memory := ipFields memory iph payloadLen tnl
  memory.storeWord (iph + 10) (foldOnce (sumWords memory iph)) 2

/-- What a run leaves behind. -/
structure Outcome where
  verdict : Nat
  window : Window
  rxcnt : Nat → Nat

def vip (memory : Memory) (iph dport : Nat) : Vip :=
  { daddr := memory.loadWord (iph + 16) 4
    dport := dport
    family := afInet
    protocol := (memory (iph + 9)).toNat }

/-- From the helper to the end of `handle_ipv4`. -/
def encapsulate (xdp : Window) (tnl : IptnlInfo) (protocol payloadLen : Nat)
    (rxcnt : Nat → Nat) : Outcome :=
  let moved := adjustHead xdp (-20)
  if moved.1 ≠ 0 then ⟨xdpDrop, moved.2, rxcnt⟩
  else
    let data := moved.2.context.data
    let dataEnd := moved.2.context.dataEnd
    let newEth := data
    let iph := data + 14
    let oldEth := data + 20
    if dataEnd < newEth + 14 ∨ dataEnd < oldEth + 14 ∨ dataEnd < iph + 20 then
      ⟨xdpDrop, moved.2, rxcnt⟩
    else
      let memory := setEthhdr moved.2.memory newEth oldEth tnl (bpfHtons ethPIp)
      let memory := writeIp memory iph payloadLen tnl
      ⟨xdpTx, { moved.2 with memory }, countTx rxcnt protocol⟩

def handleIpv4 (xdp : Window) (rxcnt : Nat → Nat) : Outcome :=
  let memory := xdp.memory
  let iph := xdp.context.data + 14
  if xdp.context.dataEnd < iph + 20 then ⟨xdpDrop, xdp, rxcnt⟩
  else
    match getDport memory (iph + 20) xdp.context.dataEnd (memory (iph + 9)).toNat with
    | none => ⟨xdpDrop, xdp, rxcnt⟩
    | some dport =>
        match vip2tnl (vip memory iph dport) with
        | none => ⟨Runtime.xdpPass, xdp, rxcnt⟩
        | some tnl =>
            if tnl.family ≠ afInet then ⟨Runtime.xdpPass, xdp, rxcnt⟩
            else
              encapsulate adjustHead xdp tnl (memory (iph + 9)).toNat
                (bpfNtohs (memory.loadWord (iph + 2) 2)) rxcnt

def xdpPass (xdp : Window) (rxcnt : Nat → Nat) : Outcome :=
  let data := xdp.context.data
  if xdp.context.dataEnd < data + 14 then ⟨xdpDrop, xdp, rxcnt⟩
  else if xdp.memory.loadWord (data + 12) 2 = bpfHtons ethPIp then
    handleIpv4 adjustHead vip2tnl xdp rxcnt
  else ⟨Runtime.xdpPass, xdp, rxcnt⟩

end Program

/-! ## The outer header -/

section Header

variable (memory : Memory) (iph payloadLen : Nat) (tnl : IptnlInfo)

theorem ipFields_other {candidate : Nat} (outside : candidate < iph ∨ iph + 20 ≤ candidate) :
    ipFields memory iph payloadLen tnl candidate = memory candidate := by
  unfold ipFields
  simp (disch := omega) only [Memory.store_other, Memory.storeWord_other]

theorem writeIp_other {candidate : Nat} (outside : candidate < iph ∨ iph + 20 ≤ candidate) :
    writeIp memory iph payloadLen tnl candidate = memory candidate := by
  unfold writeIp
  rw [Memory.storeWord_other _ (by omega), ipFields_other _ _ _ _ outside]

/-- The fields of the outer header, whether its checksum is filled in or not. -/
structure OuterFields (after : Memory) (id : Nat) : Prop where
  version : after iph = 0x45
  tos : after (iph + 1) = 0
  totalLength : after.loadWord (iph + 2) 2 = bpfHtons (payloadLen + 20)
  id : after.loadWord (iph + 4) 2 = id
  fragOff : after.loadWord (iph + 6) 2 = 0
  ttl : after (iph + 8) = 8
  protocol : after (iph + 9) = ipprotoIpip
  saddr : after.loadWord (iph + 12) 4 = tnl.saddr.toNat
  daddr : after.loadWord (iph + 16) 4 = tnl.daddr.toNat

theorem ipFields_fields :
    OuterFields iph payloadLen tnl (ipFields memory iph payloadLen tnl)
      (memory.loadWord (iph + 4) 2) where
  version := by
    unfold ipFields
    simp (disch := omega) only [Memory.store_other, Memory.storeWord_other, Memory.store_same]
    exact setIhl_setVersion _
  tos := by
    unfold ipFields
    simp (disch := omega) only [Memory.store_other, Memory.storeWord_other, Memory.store_same]
  totalLength := by
    unfold ipFields
    simp (disch := omega) only [Memory.loadWord_store_other, Memory.loadWord_storeWord_other,
      Memory.loadWord_storeWord]
    unfold bpfHtons bpfNtohs
    omega
  id := by
    unfold ipFields
    simp (disch := omega) only [Memory.loadWord_store_other, Memory.loadWord_storeWord_other]
  fragOff := by
    unfold ipFields
    simp (disch := omega) only [Memory.loadWord_store_other, Memory.loadWord_storeWord_other,
      Memory.loadWord_storeWord]
    rfl
  ttl := by
    unfold ipFields
    rw [Memory.store_same]
  protocol := by
    unfold ipFields
    simp (disch := omega) only [Memory.store_other, Memory.storeWord_other, Memory.store_same]
  saddr := by
    unfold ipFields
    simp (disch := omega) only [Memory.loadWord_store_other, Memory.loadWord_storeWord]
    exact Nat.mod_eq_of_lt tnl.saddr.toNat_lt
  daddr := by
    unfold ipFields
    simp (disch := omega) only [Memory.loadWord_store_other, Memory.loadWord_storeWord_other,
      Memory.loadWord_storeWord]
    exact Nat.mod_eq_of_lt tnl.daddr.toNat_lt

theorem writeIp_fields :
    OuterFields iph payloadLen tnl (writeIp memory iph payloadLen tnl)
      (memory.loadWord (iph + 4) 2) := by
  have fields := ipFields_fields memory iph payloadLen tnl
  have kept {candidate : Nat} (outside : candidate < iph + 10 ∨ iph + 12 ≤ candidate) :
      writeIp memory iph payloadLen tnl candidate =
        ipFields memory iph payloadLen tnl candidate :=
    Memory.storeWord_other _ outside
  have keptWord {address width : Nat} (outside : address + width ≤ iph + 10 ∨ iph + 12 ≤ address) :
      (writeIp memory iph payloadLen tnl).loadWord address width =
        (ipFields memory iph payloadLen tnl).loadWord address width :=
    Memory.loadWord_storeWord_other _ outside
  exact
    { version := (kept (by omega)).trans fields.version
      tos := (kept (by omega)).trans fields.tos
      totalLength := (keptWord (by omega)).trans fields.totalLength
      id := (keptWord (by omega)).trans fields.id
      fragOff := (keptWord (by omega)).trans fields.fragOff
      ttl := (kept (by omega)).trans fields.ttl
      protocol := (kept (by omega)).trans fields.protocol
      saddr := (keptWord (by omega)).trans fields.saddr
      daddr := (keptWord (by omega)).trans fields.daddr }

end Header

/-! ## The outer checksum -/

/-- The ten words of the outer header added up: version and length of the header,
total length, identification, hop limit and protocol, and the four halves of the
addresses. The other words are zero. -/
def outerSum (payloadLen id : Nat) (tnl : IptnlInfo) : Nat :=
  0x45 + bpfHtons (payloadLen + 20) + id + 0x408 +
    (tnl.saddr.toNat % 2 ^ 16 + tnl.saddr.toNat / 2 ^ 16) +
    (tnl.daddr.toNat % 2 ^ 16 + tnl.daddr.toNat / 2 ^ 16)

section Checksum

variable {memory : Memory} {iph payloadLen id : Nat} {tnl : IptnlInfo}

theorem loadWord_two (memory : Memory) (address : Nat) :
    memory.loadWord address 2 = (memory address).toNat + 256 * (memory (address + 1)).toNat := by
  show (memory address).toNat + 256 * ((memory (address + 1)).toNat + 256 * 0) = _
  omega

/-- The halves of a 32-bit word. -/
theorem loadWord_halves {address value : Nat} (word : memory.loadWord address 4 = value) :
    memory.loadWord address 2 = value % 2 ^ 16 ∧
      memory.loadWord (address + 2) 2 = value / 2 ^ 16 := by
  have cut : memory.loadWord address 4 =
      memory.loadWord address 2 + 256 ^ 2 * memory.loadWord (address + 2) 2 :=
    memory.loadWord_add address 2 2
  have low := memory.loadWord_lt address 2
  omega

theorem OuterFields.sum (fields : OuterFields iph payloadLen tnl memory id)
    (cleared : memory.loadWord (iph + 10) 2 = 0) :
    (regionWords memory 2 iph 10).sum = outerSum payloadLen id tnl := by
  have first : memory.loadWord iph 2 = 0x45 := by
    rw [loadWord_two, fields.version, fields.tos]
    decide
  have fifth : memory.loadWord (iph + 8) 2 = 0x408 := by
    rw [loadWord_two, fields.ttl, fields.protocol]
    decide
  obtain ⟨saddrLow, saddrHigh⟩ := loadWord_halves fields.saddr
  obtain ⟨daddrLow, daddrHigh⟩ := loadWord_halves fields.daddr
  simp only [regionWords, List.sum_cons, List.sum_nil, Nat.add_assoc iph, Nat.reduceAdd] at *
  rw [first, fields.totalLength, fields.id, fields.fragOff, fifth, cleared, saddrLow, saddrHigh,
    daddrLow, daddrHigh]
  unfold outerSum
  omega

/-- A 32-bit accumulator. -/
theorem foldl_add_mod (term : Nat → Nat) (indices : List Nat) (start : Nat)
    (small : start < 2 ^ 32) :
    indices.foldl (fun csum i => (csum + term i) % 2 ^ 32) start =
      (start + (indices.map term).sum) % 2 ^ 32 := by
  induction indices generalizing start with
  | nil => exact (Nat.mod_eq_of_lt small).symm
  | cons index rest inductionHypothesis =>
      rw [List.foldl_cons, inductionHypothesis _ (Nat.mod_lt _ (by decide)), List.map_cons,
        List.sum_cons, Nat.mod_add_mod, Nat.add_assoc]

theorem sumWords_eq (memory : Memory) (iph : Nat) :
    sumWords memory iph = (regionWords memory 2 iph 10).sum % 2 ^ 32 := by
  unfold sumWords
  rw [foldl_add_mod _ _ 0 (by decide), Nat.zero_add, regionWords_eq_map]

theorem outerSum_lt (payloadLen : Nat) (small : id < 2 ^ 16) (tnl : IptnlInfo) :
    outerSum payloadLen id tnl < 2 ^ 19 := by
  have saddr := tnl.saddr.toNat_lt
  have daddr := tnl.daddr.toNat_lt
  unfold outerSum bpfHtons bpfNtohs
  omega

/-- One fold is enough for the sum. -/
def FoldsOnce (sum : Nat) : Prop :=
  sum % 2 ^ 16 + sum / 2 ^ 16 < 2 ^ 16

/-- The complement of the folded sum completes it exactly if one fold is
enough. -/
theorem foldOnce_completes_iff {sum : Nat} (small : sum < 2 ^ 19) :
    (sum + foldOnce sum) % 65535 = 0 ∧ sum + foldOnce sum ≠ 0 ↔ FoldsOnce sum := by
  obtain ⟨high, low, lowSmall, rfl⟩ : ∃ high low, low < 2 ^ 16 ∧ sum = 2 ^ 16 * high + low :=
    ⟨sum / 2 ^ 16, sum % 2 ^ 16, Nat.mod_lt _ (by decide), (Nat.div_add_mod sum _).symm⟩
  have highSmall : high < 8 := by omega
  have remainder : (2 ^ 16 * high + low) % 2 ^ 16 = low := by omega
  have quotient : (2 ^ 16 * high + low) / 2 ^ 16 = high := by omega
  unfold foldOnce FoldsOnce
  rw [remainder, quotient]
  by_cases fits : low + high < 2 ^ 16
  · have complement : (2 ^ 32 - 1 - (low + high)) % 2 ^ 16 = 2 ^ 16 - 1 - (low + high) := by omega
    rw [complement]
    omega
  · -- The carry of the fold falls off, and the sum ends up one too high.
    have complement : (2 ^ 32 - 1 - (low + high)) % 2 ^ 16 = 2 ^ 17 - 1 - (low + high) := by omega
    rw [complement]
    omega

/-- The outer header verifies exactly if one fold is enough for its sum. -/
theorem writeIp_verifies_iff (memory : Memory) (iph payloadLen : Nat) (tnl : IptnlInfo) :
    RegionVerifies (writeIp memory iph payloadLen tnl) iph 10 ↔
      FoldsOnce (outerSum payloadLen (memory.loadWord (iph + 4) 2) tnl) := by
  have cleared : (ipFields memory iph payloadLen tnl).loadWord (iph + 2 * 5) 2 = 0 := by
    unfold ipFields
    simp (disch := omega) only [Memory.loadWord_store_other, Memory.loadWord_storeWord_other,
      Nat.reduceMul, Memory.loadWord_storeWord]
    rfl
  have sum := (ipFields_fields memory iph payloadLen tnl).sum cleared
  have bound := outerSum_lt payloadLen (memory.loadWord_lt (iph + 4) 2) tnl
  have folded : foldOnce (sumWords (ipFields memory iph payloadLen tnl) iph) < 2 ^ 16 :=
    Nat.mod_lt _ (by decide)
  have verifies := regionVerifies_store_iff (by decide : 5 < 10) cleared folded
    (OnesEq.refl 65535 _)
  rw [sumWords_eq, sum, Nat.mod_eq_of_lt (by omega)] at verifies
  rw [← foldOnce_completes_iff bound, ← verifies, writeIp, sumWords_eq, sum,
    Nat.mod_eq_of_lt (by omega)]

end Checksum

/-! ## The encapsulated packet -/

/-- The packet from `data` on is the frame that began 20 bytes later, behind an
outer IPv4 header of the tunnel, sent to the tunnel's MAC address. -/
structure Encapsulated (frame after : Memory) (data dataEnd : Nat) (tnl : IptnlInfo) :
    Prop where
  etherDestination : after.bytes data 6 = tnl.dmac.toList
  etherSource : after.bytes (data + 6) 6 = frame.bytes (data + 20) 6
  version : (after (data + 14)).toNat / 16 = 4
  ihl : (after (data + 14)).toNat % 16 = 5
  protocol : after (data + 23) = ipprotoIpip
  totalLength : bpfNtohs (after.loadWord (data + 16) 2) =
    bpfNtohs (frame.loadWord (data + 20 + 16) 2) + 20
  saddr : after.loadWord (data + 26) 4 = tnl.saddr.toNat
  daddr : after.loadWord (data + 30) 4 = tnl.daddr.toNat
  verifies : RegionVerifies after (data + 14) 10
  payload : after.bytes (data + 34) (dataEnd - (data + 34)) =
    frame.bytes (data + 20 + 14) (dataEnd - (data + 20 + 14))

theorem setEthhdr_other (memory : Memory) {newEth candidate : Nat} (oldEth : Nat)
    (tnl : IptnlInfo) (hProto : Nat)
    (outside : candidate < newEth ∨ newEth + 14 ≤ candidate) :
    setEthhdr memory newEth oldEth tnl hProto candidate = memory candidate := by
  unfold setEthhdr
  rw [Memory.storeWord_other _ (by omega), Memory.copyFrom_other _ (by omega),
    Memory.copyFrom_other _ (by omega)]

theorem setEthhdr_destination (memory : Memory) (newEth oldEth : Nat) (tnl : IptnlInfo)
    (hProto : Nat) :
    (setEthhdr memory newEth oldEth tnl hProto).bytes newEth 6 = tnl.dmac.toList := by
  apply bytes_eq_toList
  intro index below
  unfold setEthhdr
  rw [Memory.storeWord_other _ (by omega), Memory.copyFrom_inside _ _ _ below]

theorem setEthhdr_source (memory : Memory) (newEth oldEth : Nat) (tnl : IptnlInfo)
    (hProto : Nat) :
    (setEthhdr memory newEth oldEth tnl hProto).bytes (newEth + 6) 6 = memory.bytes oldEth 6 := by
  apply Memory.bytes_eq_iff.mpr
  intro index below
  unfold setEthhdr
  rw [Memory.storeWord_other _ (by omega), Memory.copyFrom_other _ (by omega),
    Memory.copyFrom_inside _ _ _ below]

/-- The two conversions of a length that fits. -/
theorem bpfNtohs_bpfHtons {value : Nat} (small : value < 2 ^ 16) :
    bpfNtohs (bpfHtons value) = value := by
  obtain ⟨high, low, lowSmall, rfl⟩ : ∃ high low, low < 2 ^ 8 ∧ value = 2 ^ 8 * high + low :=
    ⟨value / 2 ^ 8, value % 2 ^ 8, Nat.mod_lt _ (by decide), (Nat.div_add_mod value _).symm⟩
  have remainder : (2 ^ 8 * high + low) % 2 ^ 8 = low := by omega
  have quotient : (2 ^ 8 * high + low) / 2 ^ 8 % 2 ^ 8 = high := by omega
  unfold bpfHtons bpfNtohs
  rw [remainder, quotient]
  omega

/-- The memory after the two writes. -/
def encapsulatedMemory (memory : Memory) (data payloadLen : Nat) (tnl : IptnlInfo) : Memory :=
  writeIp (setEthhdr memory data (data + 20) tnl (bpfHtons ethPIp)) (data + 14) payloadLen tnl

/-- Whatever is in the packet and in the headroom, all but the outer checksum is
as it should be, and the checksum is if one fold is enough. -/
theorem encapsulated_iff (memory : Memory) (data dataEnd : Nat) (tnl : IptnlInfo)
    (short : bpfNtohs (memory.loadWord (data + 20 + 16) 2) ≤ 65515) :
    Encapsulated memory
        (encapsulatedMemory memory data (bpfNtohs (memory.loadWord (data + 20 + 16) 2)) tnl) data
        dataEnd tnl ↔
      FoldsOnce (outerSum (bpfNtohs (memory.loadWord (data + 20 + 16) 2))
        (memory.loadWord (data + 18) 2) tnl) := by
  generalize length : bpfNtohs (memory.loadWord (data + 20 + 16) 2) = payloadLen at *
  have fields := writeIp_fields (setEthhdr memory data (data + 20) tnl (bpfHtons ethPIp))
    (data + 14) payloadLen tnl
  have residue : (setEthhdr memory data (data + 20) tnl (bpfHtons ethPIp)).loadWord
      (data + 14 + 4) 2 = memory.loadWord (data + 18) 2 :=
    Memory.loadWord_congr fun candidate lower _ => setEthhdr_other memory _ _ _ (by omega)
  have verifies := writeIp_verifies_iff
    (setEthhdr memory data (data + 20) tnl (bpfHtons ethPIp)) (data + 14) payloadLen tnl
  rw [residue] at verifies
  have outside {candidate : Nat} (apart : candidate < data + 14 ∨ data + 34 ≤ candidate) :
      encapsulatedMemory memory data payloadLen tnl candidate =
        setEthhdr memory data (data + 20) tnl (bpfHtons ethPIp) candidate :=
    writeIp_other _ _ _ _ (by omega)
  constructor
  · intro encapsulated
    exact verifies.mp encapsulated.verifies
  · intro folds
    have ethernet {address width : Nat} (inside : address + width ≤ data + 14) :
        (encapsulatedMemory memory data payloadLen tnl).bytes address width =
          (setEthhdr memory data (data + 20) tnl (bpfHtons ethPIp)).bytes address width :=
      Memory.bytes_congr fun candidate _ upper => outside (by omega)
    exact
      { etherDestination := (ethernet (by omega)).trans
          (setEthhdr_destination memory data (data + 20) tnl _)
        etherSource := (ethernet (by omega)).trans
          (setEthhdr_source memory data (data + 20) tnl _)
        version := by
          rw [encapsulatedMemory, fields.version]
          decide
        ihl := by
          rw [encapsulatedMemory, fields.version]
          decide
        protocol := fields.protocol
        totalLength := by
          rw [length, encapsulatedMemory, fields.totalLength, bpfNtohs_bpfHtons (by omega)]
        saddr := fields.saddr
        daddr := fields.daddr
        verifies := verifies.mpr folds
        payload := by
          have place : data + 20 + 14 = data + 34 := rfl
          rw [place]
          apply Memory.bytes_congr
          intro candidate lower _
          rw [outside (by omega), setEthhdr_other memory _ _ _ (by omega)] }

/-! ## Every frame that is sent -/

/-- The window with its head moved back over the outer header. -/
def movedBack (xdp : Window) : Window :=
  { xdp with context := { xdp.context with data := xdp.context.data - 20 } }

section Sent

variable {adjustHead : Window → Int → Nat × Window} {vip2tnl : Vip → Option IptnlInfo}
variable {xdp : Window} {rxcnt : Nat → Nat}

/-- A frame that is sent has a tunnel, and the head was moved for it. -/
theorem handleIpv4_sent (sent : (handleIpv4 adjustHead vip2tnl xdp rxcnt).verdict = xdpTx) :
    ∃ dport tnl,
      getDport xdp.memory (xdp.context.data + 14 + 20) xdp.context.dataEnd
          (xdp.memory (xdp.context.data + 14 + 9)).toNat = some dport ∧
        vip2tnl (vip xdp.memory (xdp.context.data + 14) dport) = some tnl ∧
        handleIpv4 adjustHead vip2tnl xdp rxcnt =
          encapsulate adjustHead xdp tnl (xdp.memory (xdp.context.data + 14 + 9)).toNat
            (bpfNtohs (xdp.memory.loadWord (xdp.context.data + 14 + 2) 2)) rxcnt := by
  unfold handleIpv4 at sent ⊢
  dsimp only at sent ⊢
  split at sent
  · cases sent
  · rename_i long
    rw [if_neg long]
    split at sent
    · cases sent
    · rename_i dport found
      split at sent
      · cases sent
      · rename_i tnl known
        split at sent
        · cases sent
        · rename_i family
          exact ⟨dport, tnl, found, known, if_neg family⟩

/-- The helper moved the head, so what is sent is the encapsulated packet. -/
theorem encapsulate_sent {tnl : IptnlInfo} {protocol payloadLen : Nat}
    (moves : adjustHead xdp (-20) = (0, movedBack xdp))
    (sent : (encapsulate adjustHead xdp tnl protocol payloadLen rxcnt).verdict = xdpTx) :
    (encapsulate adjustHead xdp tnl protocol payloadLen rxcnt).window =
      { movedBack xdp with
        memory := encapsulatedMemory xdp.memory (xdp.context.data - 20) payloadLen tnl } := by
  unfold encapsulate at sent ⊢
  rw [moves] at sent ⊢
  dsimp only at sent ⊢
  rw [if_neg (not_not.mpr rfl)] at sent ⊢
  split at sent
  · cases sent
  · rename_i whole
    rw [if_neg whole]
    rfl

end Sent

/-- Every IPv4 frame that is sent has a tunnel entry, and is encapsulated for it
exactly if one fold is enough for the ten words of the outer header. -/
theorem xdpTxIptunnel_encapsulates_iff (adjustHead : Window → Int → Nat × Window)
    (vip2tnl : Vip → Option IptnlInfo) (xdp : Window) (rxcnt : Nat → Nat)
    (headroom : 20 ≤ xdp.context.data) (moves : adjustHead xdp (-20) = (0, movedBack xdp))
    (sent : (handleIpv4 adjustHead vip2tnl xdp rxcnt).verdict = xdpTx)
    (short : bpfNtohs (xdp.memory.loadWord (xdp.context.data + 16) 2) ≤ 65515) :
    ∃ dport tnl,
      getDport xdp.memory (xdp.context.data + 34) xdp.context.dataEnd
          (xdp.memory (xdp.context.data + 23)).toNat = some dport ∧
        vip2tnl (vip xdp.memory (xdp.context.data + 14) dport) = some tnl ∧
        (Encapsulated xdp.memory (handleIpv4 adjustHead vip2tnl xdp rxcnt).window.memory
            (xdp.context.data - 20) xdp.context.dataEnd tnl ↔
          FoldsOnce (outerSum (bpfNtohs (xdp.memory.loadWord (xdp.context.data + 16) 2))
            (xdp.memory.loadWord (xdp.context.data - 2) 2) tnl)) := by
  obtain ⟨dport, tnl, found, known, result⟩ := handleIpv4_sent sent
  refine ⟨dport, tnl, found, known, ?_⟩
  rw [result] at sent ⊢
  rw [encapsulate_sent moves sent]
  have length : xdp.context.data - 20 + 20 + 16 = xdp.context.data + 14 + 2 := by omega
  have id : xdp.context.data - 20 + 18 = xdp.context.data - 2 := by omega
  have encapsulated := encapsulated_iff xdp.memory (xdp.context.data - 20) xdp.context.dataEnd tnl
  rw [length, id] at encapsulated
  exact encapsulated short

/-- A UDP packet of 28 bytes behind two bytes of headroom that end up as the
identification of the outer header. -/
def tunnelWindow (low high : UInt8) : Window :=
  { context := ⟨20, 62, 0, 0, 0, 0, 0, 62⟩
    memory := fun address =>
      if address = 18 then low
      else if address = 19 then high
      else if address = 34 then 0x45
      else if address = 37 then 28
      else if address = 43 then 17
      else 0 }

/-- From 192.168.255.254 to 10.0.0.2. -/
def tunnel : IptnlInfo := ⟨0xfeffa8c0, 0x0200000a, afInet, #v[2, 0, 0, 0, 0, 3]⟩

theorem tunnelWindow_moves (low high : UInt8) :
    bpftimeXdpAdjustHeadRuntime (tunnelWindow low high) (-20) =
      (0, movedBack (tunnelWindow low high)) := by
  have moved : ((((tunnelWindow low high).context.data : Int) + -20) % 2 ^ 64).toNat = 0 := by
    show (((20 : Int) + -20) % 2 ^ 64).toNat = 0
    decide
  unfold bpftimeXdpAdjustHeadRuntime
  rw [moved]
  rfl

theorem tunnelWindow_sent (low high : UInt8) :
    (handleIpv4 bpftimeXdpAdjustHeadRuntime (fun _ => some tunnel) (tunnelWindow low high)
      fun _ => 0).verdict = xdpTx := by
  unfold handleIpv4 encapsulate
  rw [tunnelWindow_moves]
  rfl

/-- With an identification of zero. -/
theorem tunnelled_frame_is_encapsulated :
    Encapsulated (tunnelWindow 0 0).memory
      (handleIpv4 bpftimeXdpAdjustHeadRuntime (fun _ => some tunnel) (tunnelWindow 0 0)
        fun _ => 0).window.memory 0 62 tunnel := by
  obtain ⟨dport, tnl, -, known, encapsulated⟩ :=
    xdpTxIptunnel_encapsulates_iff bpftimeXdpAdjustHeadRuntime (fun _ => some tunnel)
      (tunnelWindow 0 0) (fun _ => 0) (by decide) (tunnelWindow_moves 0 0)
      (tunnelWindow_sent 0 0) (by decide)
  rw [← Option.some.inj known] at encapsulated
  exact encapsulated.mpr (by unfold FoldsOnce; decide)

/-- With this identification the ten words add up to 0x1ffff, which folds to
0x10000. -/
theorem tunnelled_frame_fails_checksum :
    (handleIpv4 bpftimeXdpAdjustHeadRuntime (fun _ => some tunnel) (tunnelWindow 0xe9 0x21)
        fun _ => 0).verdict = xdpTx ∧
      ¬ Encapsulated (tunnelWindow 0xe9 0x21).memory
        (handleIpv4 bpftimeXdpAdjustHeadRuntime (fun _ => some tunnel) (tunnelWindow 0xe9 0x21)
          fun _ => 0).window.memory 0 62 tunnel := by
  refine ⟨tunnelWindow_sent 0xe9 0x21, fun encapsulated => ?_⟩
  obtain ⟨dport, tnl, -, known, result⟩ := handleIpv4_sent (tunnelWindow_sent 0xe9 0x21)
  have sent := tunnelWindow_sent 0xe9 0x21
  rw [result] at sent encapsulated
  rw [encapsulate_sent (tunnelWindow_moves 0xe9 0x21) sent, ← Option.some.inj known] at encapsulated
  have folds := (encapsulated_iff (tunnelWindow 0xe9 0x21).memory 0 62 tunnel (by decide)).mp
    encapsulated
  exact absurd folds (by unfold FoldsOnce; decide)

end UserspaceXdp.Programs.XdpTxIptunnel
