import UserspaceXdp.Checksum.Header
import UserspaceXdp.Programs.Packet

/-!
Contract: `xdp_adjust_tail.bpf.c` answers a long IPv4 packet with an ICMP
message that says so.

Owns: the program, with the helpers that move the packet window as parameters,
and the reply: its headers, its two checksums and its payload.

Does not own: the helpers. The sum is that of `bpftime_csum_diff_runtime`, over
a scratchpad at some address with some contents.

The new headers lie over the front of the old packet: 28 bytes of headroom, then
the old Ethernet header, of which the swap reads the addresses first.
-/

namespace UserspaceXdp.Programs.XdpAdjustTail

open UserspaceXdp.Foundation
open UserspaceXdp.Foundation.OnesComplement
open UserspaceXdp.Runtime
open UserspaceXdp.Checksum

/-! ## The program -/

def ethPIp : Nat := 0x0800
def defaultTtl : UInt8 := 64
def maxPcktSize : Nat := 128
def icmpTooBigSize : Nat := 98
def icmpTooBigPayloadSize : Nat := 92
def icmpDestUnreach : UInt8 := 3
def icmpFragNeeded : UInt8 := 4
def ipprotoIcmp : UInt8 := 1

/-- `sizeof(struct iphdr) + sizeof(struct icmphdr)`. -/
def headroom : Nat := 20 + 8

/-- The two helpers that move the packet window. -/
structure WindowHelpers where
  adjustTail : Window → Int → Nat × Window
  adjustHead : Window → Int → Nat × Window

/-- The value of the only entry of `icmpcnt`, if the lookup finds it. -/
def countIcmp (icmpcnt : Option Nat) : Option Nat :=
  icmpcnt.map fun count => (count + 1) % 2 ^ 64

def swapMac (memory : Memory) (data origEth : Nat) : Memory :=
  let memory := memory.copyFrom (data + 6) (fun index => memory (origEth + index)) 6
  let memory := memory.copyFrom data (fun index => memory (origEth + 6 + index)) 6
  memory.storeWord (data + 12) (memory.loadWord (origEth + 12) 2) 2

/-- One fold; the complement is cut to 16 bits. -/
def csumFoldHelper (csum : Nat) : Nat :=
  (2 ^ 32 - 1 - (csum % 2 ^ 16 + csum / 2 ^ 16)) % 2 ^ 16

/-- The scratchpad of `bpf_csum_diff`. -/
structure Scratch where
  address : Nat
  contents : Memory

section Program

variable (helpers : WindowHelpers) (scratch : Scratch)

def ipv4Csum (memory : Memory) (dataStart dataSize csum : Nat) : Nat :=
  csumFoldHelper
    ((bpftimeCsumDiffRuntime memory (.fresh scratch.address scratch.contents) 0 0 dataStart
      dataSize csum).value.getD 0 % 2 ^ 32)

/-- The ICMP header with a zero checksum. -/
def icmpFields (memory : Memory) (icmpHdr : Nat) : Memory :=
  let memory := memory.store icmpHdr icmpDestUnreach
  let memory := memory.store (icmpHdr + 1) icmpFragNeeded
  let memory := memory.storeWord (icmpHdr + 6) (bpfHtons (maxPcktSize - 14)) 2
  memory.storeWord (icmpHdr + 2) 0 2

def writeIcmp (memory : Memory) (icmpHdr : Nat) : Memory :=
  let memory := icmpFields memory icmpHdr
  memory.storeWord (icmpHdr + 2) (ipv4Csum scratch memory icmpHdr icmpTooBigPayloadSize 0) 2

/-- The IP header with a zero checksum. Its `id` and `frag_off` are left as they
are. -/
def ipFields (memory : Memory) (iph origIph : Nat) : Memory :=
  let memory := memory.store (iph + 8) defaultTtl
  let memory := memory.storeWord (iph + 16) (memory.loadWord (origIph + 12) 4) 4
  let memory := memory.storeWord (iph + 12) (memory.loadWord (origIph + 16) 4) 4
  let memory := memory.store iph (setVersion (memory iph) 4)
  let memory := memory.store iph (setIhl (memory iph) 5)
  let memory := memory.store (iph + 9) ipprotoIcmp
  let memory := memory.store (iph + 1) 0
  let memory := memory.storeWord (iph + 2) (bpfHtons (icmpTooBigSize + headroom - 14)) 2
  memory.storeWord (iph + 10) 0 2

def writeIp (memory : Memory) (iph origIph : Nat) : Memory :=
  let memory := ipFields memory iph origIph
  memory.storeWord (iph + 10) (ipv4Csum scratch memory iph 20 0) 2

/-- What a run leaves behind. -/
structure Outcome where
  verdict : Nat
  window : Window
  icmpcnt : Option Nat

def sendIcmp4TooBig (xdp : Window) (icmpcnt : Option Nat) : Outcome :=
  let moved := helpers.adjustHead xdp (0 - headroom)
  if moved.1 ≠ 0 then ⟨xdpDrop, moved.2, icmpcnt⟩
  else
    let data := moved.2.context.data
    let dataEnd := moved.2.context.dataEnd
    if dataEnd < data + (icmpTooBigSize + headroom) then ⟨xdpDrop, moved.2, icmpcnt⟩
    else
      let memory := swapMac moved.2.memory data (data + headroom)
      let iph := data + 14
      let icmpHdr := iph + 20
      let origIph := icmpHdr + 8
      let memory := writeIcmp scratch memory icmpHdr
      let memory := writeIp scratch memory iph origIph
      ⟨xdpTx, { moved.2 with memory }, countIcmp icmpcnt⟩

/-- `pckt_size` is an `int`, and it is compared as an unsigned number. -/
def pcktSize (context : XdpMdUserspace) : Nat :=
  (context.dataEnd - context.data) % 2 ^ 32

def handleIpv4 (xdp : Window) (icmpcnt : Option Nat) : Outcome :=
  if max maxPcktSize icmpTooBigSize < pcktSize xdp.context then
    let adjusted := helpers.adjustTail xdp 0
    if adjusted.1 ≠ 0 then ⟨Runtime.xdpPass, adjusted.2, icmpcnt⟩
    else sendIcmp4TooBig helpers scratch adjusted.2 icmpcnt
  else ⟨Runtime.xdpPass, xdp, icmpcnt⟩

def xdpPass (xdp : Window) (icmpcnt : Option Nat) : Outcome :=
  let data := xdp.context.data
  if xdp.context.dataEnd < data + 14 then ⟨xdpDrop, xdp, icmpcnt⟩
  else if xdp.memory.loadWord (data + 12) 2 = bpfHtons ethPIp then
    handleIpv4 helpers scratch xdp icmpcnt
  else ⟨Runtime.xdpPass, xdp, icmpcnt⟩

end Program

/-! ## What each part writes -/

section Frames

variable {memory : Memory} {scratch : Scratch} {candidate : Nat}

theorem swapMac_other {data origEth : Nat}
    (outside : candidate < data ∨ data + 14 ≤ candidate) :
    swapMac memory data origEth candidate = memory candidate := by
  unfold swapMac
  rw [Memory.storeWord_other _ (by omega), Memory.copyFrom_other _ (by omega),
    Memory.copyFrom_other _ (by omega)]

theorem icmpFields_other {icmpHdr : Nat}
    (outside : candidate < icmpHdr ∨ icmpHdr + 8 ≤ candidate) :
    icmpFields memory icmpHdr candidate = memory candidate := by
  unfold icmpFields
  rw [Memory.storeWord_other _ (by omega), Memory.storeWord_other _ (by omega),
    Memory.store_other _ (by omega), Memory.store_other _ (by omega)]

theorem writeIcmp_other {icmpHdr : Nat}
    (outside : candidate < icmpHdr ∨ icmpHdr + 8 ≤ candidate) :
    writeIcmp scratch memory icmpHdr candidate = memory candidate := by
  unfold writeIcmp
  rw [Memory.storeWord_other _ (by omega), icmpFields_other outside]

theorem ipFields_other {iph origIph : Nat} (outside : candidate < iph ∨ iph + 20 ≤ candidate) :
    ipFields memory iph origIph candidate = memory candidate := by
  unfold ipFields
  rw [Memory.storeWord_other _ (by omega), Memory.storeWord_other _ (by omega),
    Memory.store_other _ (by omega), Memory.store_other _ (by omega),
    Memory.store_other _ (by omega), Memory.store_other _ (by omega),
    Memory.storeWord_other _ (by omega), Memory.storeWord_other _ (by omega),
    Memory.store_other _ (by omega)]

theorem writeIp_other {iph origIph : Nat} (outside : candidate < iph ∨ iph + 20 ≤ candidate) :
    writeIp scratch memory iph origIph candidate = memory candidate := by
  unfold writeIp
  rw [Memory.storeWord_other _ (by omega), ipFields_other outside]

end Frames

/-! ## Checksums -/

/-- A sum of at most 16 bits needs no second fold. -/
theorem csumFoldHelper_eq {csum : Nat} (small : csum < 2 ^ 16) :
    csumFoldHelper csum = complement16 csum := by
  unfold csumFoldHelper complement16
  omega

theorem ipv4Csum_eq {count : Nat} (few : count ≤ 128) (scratch : Scratch) (memory : Memory)
    (dataStart : Nat) :
    ipv4Csum scratch memory dataStart (4 * count) 0 =
      complement16 (csumPartial memory dataStart (4 * count) 0) := by
  rw [ipv4Csum, csumDiffRuntime_word few (by decide)]
  exact csumFoldHelper_eq (csumPartial_zero_lt memory dataStart (4 * count))

/-- A header with a zero checksum field verifies once the field is filled. -/
theorem ipv4Csum_verifies {memory : Memory} {dataStart count index : Nat} (few : count ≤ 128)
    (inside : index < 2 * count) (cleared : memory.loadWord (dataStart + 2 * index) 2 = 0)
    (scratch : Scratch) :
    RegionVerifies
      (memory.storeWord (dataStart + 2 * index) (ipv4Csum scratch memory dataStart (4 * count) 0) 2)
      dataStart (2 * count) := by
  have summed := csumPartial_zero_onesEq memory dataStart (2 * count)
  have bytes : 2 * (2 * count) = 4 * count := by omega
  rw [bytes] at summed
  rw [ipv4Csum_eq few]
  exact regionVerifies_complement inside cleared (csumPartial_zero_lt memory dataStart _) summed

/-! ## The headers -/

section Headers

variable (scratch : Scratch) (memory : Memory)

/-- The addresses change places, and the type is the old one. -/
structure Swapped (before after : Memory) (data origEth : Nat) : Prop where
  destination : after.bytes data 6 = before.bytes (origEth + 6) 6
  source : after.bytes (data + 6) 6 = before.bytes origEth 6
  etherType : after.loadWord (data + 12) 2 = before.loadWord (origEth + 12) 2

theorem swapMac_swapped {data origEth : Nat} (apart : data + 14 ≤ origEth) :
    Swapped memory (swapMac memory data origEth) data origEth where
  destination := by
    apply Memory.bytes_eq_iff.mpr
    intro index below
    unfold swapMac
    rw [Memory.storeWord_other _ (by omega), Memory.copyFrom_inside _ _ _ below,
      Memory.copyFrom_other _ (by omega)]
  source := by
    apply Memory.bytes_eq_iff.mpr
    intro index below
    unfold swapMac
    rw [Memory.storeWord_other _ (by omega), Memory.copyFrom_other _ (by omega),
      Memory.copyFrom_inside _ _ _ below]
  etherType := by
    have kept : ((memory.copyFrom (data + 6) (fun index => memory (origEth + index)) 6).copyFrom
        data (fun index => (memory.copyFrom (data + 6) (fun index => memory (origEth + index)) 6)
          (origEth + 6 + index)) 6).loadWord (origEth + 12) 2 = memory.loadWord (origEth + 12) 2 := by
      apply Memory.loadWord_congr
      intro candidate lower upper
      rw [Memory.copyFrom_other _ (by omega), Memory.copyFrom_other _ (by omega)]
    have small := memory.loadWord_lt (origEth + 12) 2
    unfold swapMac
    dsimp only
    rw [Memory.loadWord_storeWord, kept, Nat.mod_eq_of_lt small]

/-- A message of type 3 and code 4 that verifies over its 92 bytes. -/
structure TooBigMessage (memory : Memory) (icmpHdr : Nat) : Prop where
  type : memory icmpHdr = icmpDestUnreach
  code : memory (icmpHdr + 1) = icmpFragNeeded
  verifies : RegionVerifies memory icmpHdr (icmpTooBigPayloadSize / 2)

theorem writeIcmp_message (icmpHdr : Nat) :
    TooBigMessage (writeIcmp scratch memory icmpHdr) icmpHdr where
  type := by
    unfold writeIcmp icmpFields
    dsimp only
    rw [Memory.storeWord_other _ (by omega), Memory.storeWord_other _ (by omega),
      Memory.storeWord_other _ (by omega), Memory.store_other _ (by omega), Memory.store_same]
  code := by
    unfold writeIcmp icmpFields
    dsimp only
    rw [Memory.storeWord_other _ (by omega), Memory.storeWord_other _ (by omega),
      Memory.storeWord_other _ (by omega), Memory.store_same]
  verifies := by
    have cleared : (icmpFields memory icmpHdr).loadWord (icmpHdr + 2 * 1) 2 = 0 := by
      unfold icmpFields
      dsimp only
      exact Memory.loadWord_storeWord ..
    exact ipv4Csum_verifies (by decide : 23 ≤ 128) (by decide : 1 < 2 * 23) cleared scratch

/-- An IPv4 header without options, of this length, between these addresses. -/
structure IcmpHeader (memory : Memory) (iph totalLength source destination : Nat) : Prop where
  version : (memory iph).toNat / 16 = 4
  ihl : (memory iph).toNat % 16 = 5
  totalLength : bpfNtohs (memory.loadWord (iph + 2) 2) = totalLength
  protocol : memory (iph + 9) = ipprotoIcmp
  source : memory.loadWord (iph + 12) 4 = source
  destination : memory.loadWord (iph + 16) 4 = destination
  verifies : RegionVerifies memory iph 10

/-- The stores after the two addresses do not reach them. -/
private theorem loadWord_writeIp_addresses {iph origIph offset : Nat} (within : 12 ≤ offset) :
    (writeIp scratch memory iph origIph).loadWord (iph + offset) 4 =
      (((memory.store (iph + 8) defaultTtl).storeWord (iph + 16)
          ((memory.store (iph + 8) defaultTtl).loadWord (origIph + 12) 4) 4).storeWord (iph + 12)
        (((memory.store (iph + 8) defaultTtl).storeWord (iph + 16)
          ((memory.store (iph + 8) defaultTtl).loadWord (origIph + 12) 4) 4).loadWord
            (origIph + 16) 4) 4).loadWord (iph + offset) 4 := by
  unfold writeIp ipFields
  dsimp only
  rw [Memory.loadWord_storeWord_other _ (by omega), Memory.loadWord_storeWord_other _ (by omega),
    Memory.loadWord_storeWord_other _ (by omega), Memory.loadWord_store_other _ (by omega),
    Memory.loadWord_store_other _ (by omega), Memory.loadWord_store_other _ (by omega),
    Memory.loadWord_store_other _ (by omega)]

theorem writeIp_header {iph origIph : Nat} (apart : iph + 20 ≤ origIph) :
    IcmpHeader (writeIp scratch memory iph origIph) iph 112
      (memory.loadWord (origIph + 16) 4) (memory.loadWord (origIph + 12) 4) := by
  have first : writeIp scratch memory iph origIph iph = 0x45 := by
    unfold writeIp ipFields
    dsimp only
    rw [Memory.storeWord_other _ (by omega), Memory.storeWord_other _ (by omega),
      Memory.storeWord_other _ (by omega), Memory.store_other _ (by omega),
      Memory.store_other _ (by omega), Memory.store_same, Memory.store_same]
    exact setIhl_setVersion _
  have sourceRead (value : Nat) : ((memory.store (iph + 8) defaultTtl).storeWord (iph + 16)
      value 4).loadWord (origIph + 16) 4 = memory.loadWord (origIph + 16) 4 := by
    rw [Memory.loadWord_storeWord_other _ (by omega), Memory.loadWord_store_other _ (by omega)]
  have small (address : Nat) : memory.loadWord address 4 % 256 ^ 4 = memory.loadWord address 4 :=
    Nat.mod_eq_of_lt (memory.loadWord_lt address 4)
  exact
    { version := by rw [first]; decide
      ihl := by rw [first]; decide
      totalLength := by
        unfold writeIp ipFields
        dsimp only
        rw [Memory.loadWord_storeWord_other _ (by omega),
          Memory.loadWord_storeWord_other _ (by omega), Memory.loadWord_storeWord]
        decide
      protocol := by
        unfold writeIp ipFields
        dsimp only
        rw [Memory.storeWord_other _ (by omega), Memory.storeWord_other _ (by omega),
          Memory.storeWord_other _ (by omega), Memory.store_other _ (by omega),
          Memory.store_same]
      source := by
        rw [loadWord_writeIp_addresses scratch memory (le_refl 12), Memory.loadWord_storeWord,
          sourceRead, small]
      destination := by
        rw [loadWord_writeIp_addresses scratch memory (by decide : 12 ≤ 16),
          Memory.loadWord_storeWord_other _ (by omega), Memory.loadWord_storeWord,
          Memory.loadWord_store_other _ (by omega), small]
      verifies := by
        have cleared : (ipFields memory iph origIph).loadWord (iph + 2 * 5) 2 = 0 := by
          unfold ipFields
          dsimp only
          exact Memory.loadWord_storeWord ..
        exact ipv4Csum_verifies (by decide : 5 ≤ 128) (by decide : 5 < 2 * 5) cleared scratch }

end Headers

/-! ## The reply -/

/-- The packet from `data` on answers the frame that began `headroom` bytes
later: its addresses swapped, an ICMP message in an IPv4 header between its
addresses, and behind the ICMP header the frame from its own IP header on. -/
structure TooBigReply (frame after : Memory) (data dataEnd : Nat) : Prop where
  ethernet : Swapped frame after data (data + headroom)
  ipv4 : bpfNtohs (after.loadWord (data + 12) 2) = ethPIp
  header : IcmpHeader after (data + 14) 112 (frame.loadWord (data + headroom + 30) 4)
    (frame.loadWord (data + headroom + 26) 4)
  message : TooBigMessage after (data + 34)
  payload : after.bytes (data + 42) (dataEnd - (data + 42)) =
    frame.bytes (data + headroom + 14) (dataEnd - (data + headroom + 14))

/-- The memory after the three writes. -/
theorem writes_reply (scratch : Scratch) (memory : Memory) (data dataEnd : Nat)
    (ipv4 : memory.loadWord (data + headroom + 12) 2 = bpfHtons ethPIp) :
    TooBigReply memory
      (writeIp scratch (writeIcmp scratch (swapMac memory data (data + headroom))
        (data + 14 + 20)) (data + 14) (data + 14 + 20 + 8)) data dataEnd := by
  have room : data + headroom = data + 28 := rfl
  have swapped := swapMac_swapped memory (by omega : data + 14 ≤ data + headroom)
  -- The IP header comes last, and it ends where the message begins.
  have behind {candidate : Nat} (outside : candidate < data + 14 ∨ data + 42 ≤ candidate) :
      writeIp scratch (writeIcmp scratch (swapMac memory data (data + headroom))
        (data + 14 + 20)) (data + 14) (data + 14 + 20 + 8) candidate =
        swapMac memory data (data + headroom) candidate := by
    rw [writeIp_other (by omega), writeIcmp_other (by omega)]
  have etherType : bpfNtohs (bpfHtons ethPIp) = ethPIp := by decide
  have ethernet : Swapped memory _ data (data + headroom) :=
    { destination := (Memory.bytes_congr fun candidate _ upper => behind (by omega)).trans
        swapped.destination
      source := (Memory.bytes_congr fun candidate _ upper => behind (by omega)).trans
        swapped.source
      etherType := (Memory.loadWord_congr fun candidate _ upper => behind (by omega)).trans
        swapped.etherType }
  have original (address : Nat) (above : data + 42 ≤ address) :
      (writeIcmp scratch (swapMac memory data (data + headroom)) (data + 14 + 20)).loadWord
        address 4 = memory.loadWord address 4 := by
    apply Memory.loadWord_congr
    intro candidate lower _
    rw [writeIcmp_other (by omega), swapMac_other (by omega)]
  have header := writeIp_header scratch
    (writeIcmp scratch (swapMac memory data (data + headroom)) (data + 14 + 20))
    (by omega : data + 14 + 20 ≤ data + 14 + 20 + 8)
  have sourceAddress : data + 14 + 20 + 8 + 16 = data + headroom + 30 := rfl
  have destinationAddress : data + 14 + 20 + 8 + 12 = data + headroom + 26 := rfl
  rw [sourceAddress, destinationAddress, original _ (by omega), original _ (by omega)] at header
  have message := writeIcmp_message scratch (swapMac memory data (data + headroom))
    (data + 14 + 20)
  have after {candidate : Nat} (above : data + 34 ≤ candidate) :
      writeIp scratch (writeIcmp scratch (swapMac memory data (data + headroom))
        (data + 14 + 20)) (data + 14) (data + 14 + 20 + 8) candidate =
        writeIcmp scratch (swapMac memory data (data + headroom)) (data + 14 + 20) candidate :=
    writeIp_other (Or.inr above)
  exact
    { ethernet := ethernet
      ipv4 := by rw [ethernet.etherType, ipv4, etherType]
      header := header
      message :=
        { type := (after (by omega)).trans message.type
          code := (after (by omega)).trans message.code
          verifies := (RegionVerifies.congr fun candidate lower _ => after lower).mpr
            message.verifies }
      payload := by
        have place : data + headroom + 14 = data + 42 := rfl
        rw [place]
        apply Memory.bytes_congr
        intro candidate lower _
        rw [behind (Or.inr lower), swapMac_other (by omega)] }

/-- A frame that is longer than 128 bytes, carries IPv4, and has an address space
of headroom. No driver hands over 2^32 bytes. -/
structure LongFrame (xdp : Window) : Prop where
  headroom : XdpAdjustTail.headroom ≤ xdp.context.data
  long : xdp.context.data + 128 < xdp.context.dataEnd
  short : xdp.context.dataEnd - xdp.context.data < 2 ^ 32
  ipv4 : xdp.memory.loadWord (xdp.context.data + 12) 2 = bpfHtons ethPIp

/-- The window with its head moved back over 28 bytes. -/
def movedBack (xdp : Window) : Window :=
  { xdp with context := { xdp.context with data := xdp.context.data - headroom } }

/-- The two calls that the program makes succeed: the first changes nothing, the
second moves the head. -/
structure HelpersSucceed (helpers : WindowHelpers) (xdp : Window) : Prop where
  adjustTail : helpers.adjustTail xdp 0 = (0, xdp)
  adjustHead : helpers.adjustHead xdp (-28) = (0, movedBack xdp)

/-- Every long IPv4 frame is answered, whatever is in it and in the headroom. -/
theorem xdpPass_replies_too_big (helpers : WindowHelpers) (scratch : Scratch) (xdp : Window)
    (icmpcnt : Option Nat) (frame : LongFrame xdp) (succeed : HelpersSucceed helpers xdp) :
    let result := xdpPass helpers scratch xdp icmpcnt
    result.verdict = xdpTx ∧ result.window.context = (movedBack xdp).context ∧
      TooBigReply xdp.memory result.window.memory (xdp.context.data - headroom)
        xdp.context.dataEnd := by
  obtain ⟨back, long, short, ipv4⟩ := frame
  obtain ⟨adjustTail, adjustHead⟩ := succeed
  have size : pcktSize xdp.context = xdp.context.dataEnd - xdp.context.data :=
    Nat.mod_eq_of_lt short
  have limit : max maxPcktSize icmpTooBigSize = 128 := by decide
  have place : xdp.context.data - headroom + headroom = xdp.context.data :=
    Nat.sub_add_cancel back
  have total : icmpTooBigSize + headroom = 126 := rfl
  have offset : ((0 : Int) - (headroom : Nat)) = -28 := rfl
  have whole : ¬ (movedBack xdp).context.dataEnd <
      (movedBack xdp).context.data + (icmpTooBigSize + headroom) := by
    show ¬ xdp.context.dataEnd < xdp.context.data - headroom + (icmpTooBigSize + headroom)
    omega
  have ipv4Moved : (movedBack xdp).memory.loadWord
      (xdp.context.data - headroom + headroom + 12) 2 = bpfHtons ethPIp := by
    rw [place]
    exact ipv4
  have reply := writes_reply scratch xdp.memory (xdp.context.data - headroom)
    xdp.context.dataEnd ipv4Moved
  have sent : xdpPass helpers scratch xdp icmpcnt =
      ⟨xdpTx,
        { movedBack xdp with
          memory := writeIp scratch
            (writeIcmp scratch
              (swapMac xdp.memory (xdp.context.data - headroom)
                (xdp.context.data - headroom + headroom))
              (xdp.context.data - headroom + 14 + 20))
            (xdp.context.data - headroom + 14) (xdp.context.data - headroom + 14 + 20 + 8) },
        countIcmp icmpcnt⟩ := by
    unfold xdpPass
    rw [if_neg (by omega), if_pos ipv4]
    unfold handleIpv4
    rw [size, limit, if_pos (by omega), adjustTail]
    dsimp only
    rw [if_neg (not_not.mpr rfl)]
    unfold sendIcmp4TooBig
    rw [offset, adjustHead]
    dsimp only
    rw [if_neg (not_not.mpr rfl), if_neg whole]
    rfl
  rw [sent]
  exact ⟨rfl, rfl, reply⟩

/-- The helpers of the runtime. -/
def runtimeHelpers (frameSz : Nat) : WindowHelpers where
  adjustTail xdp offset :=
    (bpftimeXdpAdjustTailRuntime frameSz xdp (offset % 2 ^ 64).toNat).getD (negEinval, xdp)
  adjustHead := bpftimeXdpAdjustHeadRuntime

/-- A frame of 200 zeros, but for its type. -/
def longWindow : Window :=
  ⟨⟨4096, 4296, 0, 0, 0, 0, 2048, 8192⟩, fun address => if address = 4108 then 8 else 0⟩

/-- With the helpers of the runtime, on a context whose unset fields are zero. -/
theorem long_frame_is_answered :
    (xdpPass (runtimeHelpers 0) ⟨0, fun _ => 0⟩ longWindow (some 0)).verdict = xdpTx := by
  have frame : LongFrame longWindow := ⟨by decide, by decide, by decide, by decide⟩
  have tail : bpftimeXdpAdjustTailRuntime 0 longWindow 0 = some (0, longWindow) := by
    unfold bpftimeXdpAdjustTailRuntime
    rw [if_neg (by decide), if_neg (by decide), if_neg (by decide)]
    rfl
  have succeed : HelpersSucceed (runtimeHelpers 0) longWindow :=
    { adjustTail := by
        simp only [runtimeHelpers, Int.zero_emod, Int.toNat_zero, tail, Option.getD_some]
      adjustHead := by
        have moved : (((longWindow.context.data : Int) + -28) % 2 ^ 64).toNat = 4068 := by decide
        show (0, { longWindow with
          context := { longWindow.context with
            data := (((longWindow.context.data : Int) + -28) % 2 ^ 64).toNat } }) = _
        rw [moved]
        rfl }
  exact (xdpPass_replies_too_big (runtimeHelpers 0) ⟨0, fun _ => 0⟩ longWindow (some 0) frame
    succeed).1

end UserspaceXdp.Programs.XdpAdjustTail
