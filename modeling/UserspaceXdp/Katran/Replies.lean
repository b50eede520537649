import UserspaceXdp.Checksum.Header
import UserspaceXdp.Programs.Packet

/-!
Contract: the checksums of `csum_helpers.h` and the echo replies of
`handle_icmp.h`.

Owns: the fold, the checksum of an IPv4 header, `send_icmp_reply` and
`send_icmp6_reply`, and exactly when the message of a reply verifies.

Does not own: which packets are answered.

The replies adjust the checksum of the message by a 16-bit addition, which loses
the end-around carry.
-/

namespace UserspaceXdp.Katran

open UserspaceXdp.Foundation
open UserspaceXdp.Foundation.OnesComplement
open UserspaceXdp.Runtime
open UserspaceXdp.Checksum
open UserspaceXdp.Programs (bpfNtohs)

/-! ## Checksums -/

/-- One round of the loop. -/
def foldRound (csum : Nat) : Nat :=
  if csum / 2 ^ 16 ≠ 0 then csum % 2 ^ 16 + csum / 2 ^ 16 else csum

def csumFoldHelper (csum : Nat) : Nat :=
  (2 ^ 64 - 1 - foldRound (foldRound (foldRound (foldRound csum)))) % 2 ^ 16

/-- Ten words do not overflow the 64-bit sum. -/
def ipv4CsumInline (memory : Memory) (iph csum : Nat) : Nat :=
  csumFoldHelper (csum + (regionWords memory 2 iph 10).sum)

theorem foldRound_onesEq (csum : Nat) : OnesEq 65535 (foldRound csum) csum := by
  unfold foldRound
  split
  · exact endAround_onesEq 16 csum
  · exact OnesEq.refl _ _

theorem foldRound_of_lt {csum : Nat} (small : csum < 2 ^ 16) : foldRound csum = csum := by
  rw [foldRound, if_neg (by omega)]

theorem foldRound_lt {csum bound : Nat} (small : csum < 2 ^ 16 * bound) (positive : 1 < bound) :
    foldRound csum < 2 ^ 16 + bound - 1 := by
  unfold foldRound
  split <;> omega

/-- Two rounds are enough for 32 bits. -/
theorem foldRound_twice_lt {csum : Nat} (small : csum < 2 ^ 32) :
    foldRound (foldRound csum) < 2 ^ 16 := by
  have first : foldRound csum < 2 ^ 16 + 2 ^ 16 - 1 := foldRound_lt small (by decide)
  generalize foldRound csum = once at first
  unfold foldRound
  split <;> omega

theorem csumFoldHelper_eq {csum : Nat} (small : csum < 2 ^ 32) :
    csumFoldHelper csum = complement16 (foldToHalf csum) := by
  have folded := foldRound_twice_lt small
  have same : foldRound (foldRound csum) = foldToHalf csum :=
    eq_foldToHalf folded ((foldRound_onesEq _).trans (foldRound_onesEq _))
  rw [csumFoldHelper, foldRound_of_lt folded, foldRound_of_lt folded, same, complement16]
  have bound := (foldToHalf_spec csum).1
  omega

theorem sum_regionWords_lt (memory : Memory) (address count : Nat) :
    (regionWords memory 2 address count).sum ≤ count * (2 ^ 16 - 1) := by
  have bound : ∀ word ∈ regionWords memory 2 address count, word ≤ 2 ^ 16 - 1 := by
    intro word member
    exact Nat.le_pred_of_lt (regionWords_lt member)
  have total := List.sum_le_card_nsmul _ _ bound
  rw [regionWords_eq_map, List.length_map, List.length_range, smul_eq_mul] at total
  rwa [regionWords_eq_map]

/-- A header whose checksum is filled in with `ipv4_csum_inline` verifies. -/
theorem ipv4CsumInline_verifies {memory : Memory} {iph : Nat}
    (cleared : memory.loadWord (iph + 10) 2 = 0) :
    RegionVerifies (memory.storeWord (iph + 10) (ipv4CsumInline memory iph 0) 2) iph 10 := by
  have bound := sum_regionWords_lt memory iph 10
  have folded := foldToHalf_spec (regionWords memory 2 iph 10).sum
  rw [ipv4CsumInline, Nat.zero_add, csumFoldHelper_eq (by omega)]
  have place : iph + 10 = iph + 2 * 5 := rfl
  rw [place] at cleared ⊢
  exact regionVerifies_complement (by decide) cleared folded.1 folded.2

/-! ## The replies -/

def icmpEchoreply : UInt8 := 0
def icmpEcho : UInt8 := 8
def icmpv6EchoRequest : UInt8 := 128
def icmpv6EchoReply : UInt8 := 129
def defaultTtl : UInt8 := 64

def swapMacAndSend (memory : Memory) (data : Nat) : Memory :=
  let tmpMac (index : Nat) : UInt8 := memory (data + 6 + index)
  let memory := memory.copyFrom (data + 6) (fun index => memory (data + index)) 6
  memory.copyFrom data tmpMac 6

/-- The addresses swapped, the new type, and the header without its checksum. -/
def icmpReplyFields (memory : Memory) (data : Nat) : Memory :=
  let iph := data + 14
  let icmpHdr := data + 34
  let memory := memory.store icmpHdr icmpEchoreply
  let memory := memory.storeWord (icmpHdr + 2) (memory.loadWord (icmpHdr + 2) 2 + 8) 2
  let memory := memory.store (iph + 8) defaultTtl
  let tmpAddr := memory.loadWord (iph + 16) 4
  let memory := memory.storeWord (iph + 16) (memory.loadWord (iph + 12) 4) 4
  let memory := memory.storeWord (iph + 12) tmpAddr 4
  memory.storeWord (iph + 10) 0 2

def sendIcmpReply (memory : Memory) (data dataEnd : Nat) : Nat × Memory :=
  if dataEnd < data + 14 + 20 + 8 then (xdpDrop, memory)
  else
    let iph := data + 14
    let memory := icmpReplyFields memory data
    let memory := memory.storeWord (iph + 10) (ipv4CsumInline memory iph 0) 2
    (xdpTx, swapMacAndSend memory data)

def icmp6ReplyFields (memory : Memory) (data : Nat) : Memory :=
  let ip6h := data + 14
  let icmpHdr := data + 54
  let memory := memory.store icmpHdr icmpv6EchoReply
  let memory := memory.storeWord (icmpHdr + 2) (memory.loadWord (icmpHdr + 2) 2 + (2 ^ 16 - 1)) 2
  let memory := memory.store (ip6h + 7) defaultTtl
  let tmpAddr (index : Nat) : UInt8 := memory (ip6h + 8 + index)
  let memory := memory.copyFrom (ip6h + 8) (fun index => memory (ip6h + 24 + index)) 16
  memory.copyFrom (ip6h + 24) tmpAddr 16

def sendIcmp6Reply (memory : Memory) (data dataEnd : Nat) : Nat × Memory :=
  if dataEnd < data + 14 + 40 + 8 then (xdpDrop, memory)
  else (xdpTx, swapMacAndSend (icmp6ReplyFields memory data) data)

/-! ## What a reply leaves in the packet -/

section Swap

variable {memory : Memory} {data candidate : Nat}

theorem swapMacAndSend_other (outside : candidate < data ∨ data + 12 ≤ candidate) :
    swapMacAndSend memory data candidate = memory candidate := by
  unfold swapMacAndSend
  rw [Memory.copyFrom_other _ (by omega), Memory.copyFrom_other _ (by omega)]

theorem swapMacAndSend_destination (memory : Memory) (data : Nat) :
    (swapMacAndSend memory data).bytes data 6 = memory.bytes (data + 6) 6 := by
  apply Memory.bytes_eq_iff.mpr
  intro index below
  unfold swapMacAndSend
  exact Memory.copyFrom_inside _ _ _ below

theorem swapMacAndSend_source (memory : Memory) (data : Nat) :
    (swapMacAndSend memory data).bytes (data + 6) 6 = memory.bytes data 6 := by
  apply Memory.bytes_eq_iff.mpr
  intro index below
  unfold swapMacAndSend
  rw [Memory.copyFrom_other _ (by omega), Memory.copyFrom_inside _ _ _ below]

end Swap

section Adjusted

/-- A byte is the low half of a word. -/
theorem store_eq_storeWord (memory : Memory) (address : Nat) (byte : UInt8) :
    memory.store address byte =
      memory.storeWord address (byte.toNat + 256 * (memory (address + 1)).toNat) 2 := by
  have small : byte.toNat < 256 := byte.toNat_lt
  have high : (byte.toNat + 256 * (memory (address + 1)).toNat) / 256 =
      (memory (address + 1)).toNat := by omega
  have low : UInt8.ofNat (byte.toNat + 256 * (memory (address + 1)).toNat) = byte := by
    apply UInt8.toNat_inj.mp
    rw [UInt8.toNat_ofNat']
    omega
  have kept : memory.storeWord (address + 1) (memory (address + 1)).toNat 1 = memory := by
    have loaded : memory.loadWord (address + 1) 1 = (memory (address + 1)).toNat := rfl
    rw [← loaded, Memory.storeWord_loadWord]
  show _ = (memory.storeWord (address + 1) _ 1).store address _
  rw [high, low, kept]

/-- A message whose first byte is replaced and whose checksum is rewritten. -/
theorem sum_message_adjusted (memory : Memory) (message check : Nat) (type : UInt8)
    {count : Nat} (long : 2 ≤ count) :
    (regionWords ((memory.store message type).storeWord (message + 2) check 2) 2 message
        count).sum + (memory message).toNat + memory.loadWord (message + 2) 2 =
      (regionWords memory 2 message count).sum + type.toNat + check % 2 ^ 16 := by
  have checksum := sum_regionWords_storeWord (memory.store message type) 2 message check
    (by omega : 1 < count)
  have first := sum_regionWords_storeWord memory 2 message
    (type.toNat + 256 * (memory (message + 1)).toNat) (by omega : 0 < count)
  have word : memory.loadWord message 2 =
      (memory message).toNat + 256 * (memory (message + 1)).toNat := by
    show (memory message).toNat + 256 * ((memory (message + 1)).toNat + 256 * 0) = _
    omega
  have kept : (memory.store message type).loadWord (message + 2) 2 =
      memory.loadWord (message + 2) 2 :=
    Memory.loadWord_store_other memory (by omega)
  have typeSmall : type.toNat < 256 := type.toNat_lt
  have highSmall : (memory (message + 1)).toNat < 256 := (memory (message + 1)).toNat_lt
  rw [Nat.mul_zero, Nat.add_zero, word, ← store_eq_storeWord] at first
  rw [Nat.mul_one, kept] at checksum
  omega

end Adjusted

section Padded

variable {memory : Memory} {address limit : Nat}

/-- The bytes below a limit, and zeros behind: how a checksum reads a message of an odd
length. -/
def padded (memory : Memory) (limit : Nat) : Memory :=
  fun address => if address < limit then memory address else 0

theorem padded_inside (inside : address < limit) : padded memory limit address = memory address :=
  if_pos inside

theorem padded_store (byte : UInt8) (inside : address < limit) :
    padded (memory.store address byte) limit = (padded memory limit).store address byte := by
  funext candidate
  by_cases same : candidate = address
  · rw [same, padded_inside inside, Memory.store_same, Memory.store_same]
  · rw [Memory.store_other _ same, padded, padded, Memory.store_other _ same]

theorem padded_storeWord {width : Nat} (value : Nat) (inside : address + width ≤ limit) :
    padded (memory.storeWord address value width) limit =
      (padded memory limit).storeWord address value width := by
  induction width generalizing address value with
  | zero => rfl
  | succ width inductionHypothesis =>
      rw [Memory.storeWord, padded_store _ (by omega), inductionHypothesis _ (by omega),
        Memory.storeWord]

theorem loadWord_padded {width : Nat} (inside : address + width ≤ limit) :
    (padded memory limit).loadWord address width = memory.loadWord address width :=
  Memory.loadWord_congr fun candidate _ upper => padded_inside (by omega)

/-- The message of `length` bytes verifies. -/
def MessageVerifies (memory : Memory) (message length : Nat) : Prop :=
  RegionVerifies (padded memory (message + length)) message ((length + 1) / 2)

end Padded

/-- The packet is sent back: the two Ethernet addresses and the two IP addresses,
of `width` bytes from `addresses` on, have changed places. -/
structure SentBack (before after : Memory) (data addresses width : Nat) : Prop where
  etherDestination : after.bytes data 6 = before.bytes (data + 6) 6
  etherSource : after.bytes (data + 6) 6 = before.bytes data 6
  source : after.bytes addresses width = before.bytes (addresses + width) width
  destination : after.bytes (addresses + width) width = before.bytes addresses width

section Icmp

variable (memory : Memory) (data : Nat)

/-- The message in the reply, before the rest of the packet is rewritten. -/
def repliedMessage : Memory :=
  (memory.store (data + 34) icmpEchoreply).storeWord (data + 36)
    (memory.loadWord (data + 36) 2 + 8) 2

theorem icmpReplyFields_message {candidate : Nat} (behind : data + 34 ≤ candidate) :
    icmpReplyFields memory data candidate = repliedMessage memory data candidate := by
  have checksum : (memory.store (data + 34) icmpEchoreply).loadWord (data + 34 + 2) 2 =
      memory.loadWord (data + 36) 2 := Memory.loadWord_store_other _ (by omega)
  unfold icmpReplyFields repliedMessage
  simp only [checksum]
  simp (disch := omega) only [Memory.storeWord_other, Memory.store_other]

theorem icmpReplyFields_addresses :
    (icmpReplyFields memory data).loadWord (data + 26) 4 = memory.loadWord (data + 30) 4 ∧
      (icmpReplyFields memory data).loadWord (data + 30) 4 = memory.loadWord (data + 26) 4 := by
  have small (address : Nat) : memory.loadWord address 4 % 256 ^ 4 = memory.loadWord address 4 :=
    Nat.mod_eq_of_lt (memory.loadWord_lt address 4)
  unfold icmpReplyFields
  constructor
  · simp (disch := omega) only [Memory.loadWord_storeWord_other, Memory.loadWord_store_other,
      Memory.loadWord_storeWord, small, Nat.add_assoc, Nat.reduceAdd]
  · simp (disch := omega) only [Memory.loadWord_storeWord_other, Memory.loadWord_store_other,
      Memory.loadWord_storeWord, small, Nat.add_assoc, Nat.reduceAdd]

theorem icmpReplyFields_front {candidate : Nat} (front : candidate < data + 22) :
    icmpReplyFields memory data candidate = memory candidate := by
  unfold icmpReplyFields
  simp (disch := omega) only [Memory.storeWord_other, Memory.store_other]

/-- The packet that is sent for an echo request. -/
def icmpReply : Memory :=
  let memory := icmpReplyFields memory data
  swapMacAndSend (memory.storeWord (data + 24) (ipv4CsumInline memory (data + 14) 0) 2) data

theorem icmpReply_behind {candidate : Nat} (behind : data + 26 ≤ candidate) :
    icmpReply memory data candidate = icmpReplyFields memory data candidate := by
  unfold icmpReply
  rw [swapMacAndSend_other (by omega), Memory.storeWord_other _ (by omega)]

theorem icmpReply_sentBack : SentBack memory (icmpReply memory data) data (data + 26) 4 := by
  have addresses := icmpReplyFields_addresses memory data
  have behind (address : Nat) (lower : data + 26 ≤ address) :
      (icmpReply memory data).bytes address 4 = (icmpReplyFields memory data).bytes address 4 :=
    Memory.bytes_congr fun candidate above _ => icmpReply_behind memory data (by omega)
  have front (address : Nat) (upper : address + 6 ≤ data + 12) :
      ((icmpReplyFields memory data).storeWord (data + 24)
          (ipv4CsumInline (icmpReplyFields memory data) (data + 14) 0) 2).bytes address 6 =
        memory.bytes address 6 := by
    apply Memory.bytes_congr
    intro candidate _ below
    rw [Memory.storeWord_other _ (by omega), icmpReplyFields_front _ _ (by omega)]
  exact
    { etherDestination := (swapMacAndSend_destination _ data).trans (front _ (by omega))
      etherSource := (swapMacAndSend_source _ data).trans (front _ (by omega))
      source := by
        rw [behind _ (by omega)]
        exact Memory.bytes_eq_iff.mpr (Memory.loadWord_eq_iff.mp addresses.1)
      destination := by
        rw [behind _ (by omega)]
        exact Memory.bytes_eq_iff.mpr (Memory.loadWord_eq_iff.mp addresses.2) }

theorem icmpReply_header_verifies : RegionVerifies (icmpReply memory data) (data + 14) 10 := by
  have cleared : (icmpReplyFields memory data).loadWord (data + 14 + 10) 2 = 0 := by
    unfold icmpReplyFields
    exact Memory.loadWord_storeWord _ _ _ 2
  refine (RegionVerifies.congr ?_).mpr (ipv4CsumInline_verifies cleared)
  intro candidate lower _
  exact swapMacAndSend_other (by omega)

/-- Everything but the Ethernet addresses, the TTL, the header checksum, the IP
addresses and the type and the checksum of the message. -/
theorem icmpReply_other {candidate : Nat}
    (outside : candidate < data ∨ data + 12 ≤ candidate ∧ candidate < data + 22 ∨
      candidate = data + 23 ∨ candidate = data + 35 ∨ data + 38 ≤ candidate) :
    icmpReply memory data candidate = memory candidate := by
  unfold icmpReply
  rw [swapMacAndSend_other (by omega), Memory.storeWord_other _ (by omega)]
  unfold icmpReplyFields
  simp (disch := omega) only [Memory.storeWord_other, Memory.store_other]

theorem icmpReply_ttl : icmpReply memory data (data + 22) = defaultTtl := by
  have ttl : data + 14 + 8 = data + 22 := rfl
  unfold icmpReply
  rw [swapMacAndSend_other (by omega), Memory.storeWord_other _ (by omega)]
  unfold icmpReplyFields
  simp (disch := omega) only [Memory.storeWord_other, ttl, Memory.store_same]

/-- The type and the checksum of the reply. -/
theorem icmpReply_message :
    icmpReply memory data (data + 34) = icmpEchoreply ∧
      (icmpReply memory data).loadWord (data + 36) 2 =
        (memory.loadWord (data + 36) 2 + 8) % 2 ^ 16 := by
  have message {candidate : Nat} (behind : data + 34 ≤ candidate) :
      icmpReply memory data candidate = repliedMessage memory data candidate := by
    rw [icmpReply_behind _ _ (by omega), icmpReplyFields_message _ _ behind]
  constructor
  · rw [message le_rfl, repliedMessage, Memory.storeWord_other _ (by omega), Memory.store_same]
  · refine (Memory.loadWord_congr fun candidate lower _ => message (by omega)).trans ?_
    exact Memory.loadWord_storeWord ..

theorem padded_repliedMessage {limit : Nat} (inside : data + 38 ≤ limit) :
    padded (repliedMessage memory data) limit = repliedMessage (padded memory limit) data := by
  unfold repliedMessage
  rw [padded_storeWord _ (by omega), padded_store _ (by omega), loadWord_padded (by omega)]

/-- The message verifies exactly if the addition to its checksum has no carry. -/
theorem icmpReply_message_verifies_iff {length : Nat} (long : 4 ≤ length)
    (request : memory (data + 34) = icmpEcho)
    (verified : MessageVerifies memory (data + 34) length) :
    MessageVerifies (icmpReply memory data) (data + 34) length ↔
      memory.loadWord (data + 36) 2 < 0xfff8 := by
  have inside : data + 38 ≤ data + 34 + length := by omega
  have message : MessageVerifies (icmpReply memory data) (data + 34) length ↔
      RegionVerifies (repliedMessage (padded memory (data + 34 + length)) data) (data + 34)
        ((length + 1) / 2) := by
    rw [← padded_repliedMessage memory data inside]
    apply RegionVerifies.congr
    intro candidate lower _
    unfold padded
    rw [icmpReply_behind _ _ (by omega), icmpReplyFields_message _ _ lower]
  have sum := sum_message_adjusted (padded memory (data + 34 + length)) (data + 34)
    (memory.loadWord (data + 36) 2 + 8) icmpEchoreply (by omega : 2 ≤ (length + 1) / 2)
  have checksum := memory.loadWord_lt (data + 36) 2
  have type : icmpEcho.toNat = 8 := rfl
  have replied : icmpEchoreply.toNat = 0 := rfl
  have field : (padded memory (data + 34 + length)).loadWord (data + 36) 2 =
      memory.loadWord (data + 36) 2 := loadWord_padded (by omega)
  rw [MessageVerifies, regionVerifies_iff] at verified
  rw [message, regionVerifies_iff, repliedMessage, field]
  rw [padded_inside (by omega), request, type, replied, field] at sum
  generalize (regionWords (Memory.storeWord _ _ _ 2) 2 (data + 34) _).sum = after at *
  generalize (regionWords (padded _ _) 2 (data + 34) _).sum = before at *
  omega

end Icmp

section Icmp6

variable (memory : Memory) (data : Nat)

/-- The length of the message, as the IPv6 header has it. -/
def payloadLength : Nat :=
  bpfNtohs (memory.loadWord (data + 18) 2)

/-- The words of the pseudo header: the two addresses, the length of the message and its
protocol behind three zeros. -/
def pseudoHeader : List Nat :=
  regionWords memory 2 (data + 22) 16 ++
    [memory.loadWord (data + 18) 2, 2 ^ 8 * (memory (data + 20)).toNat]

/-- The ICMPv6 message of a packet verifies together with the pseudo header. -/
def Icmp6Verifies : Prop :=
  Verifies (pseudoHeader memory data ++
    regionWords (padded memory (data + 54 + payloadLength memory data)) 2 (data + 54)
      ((payloadLength memory data + 1) / 2))

theorem icmp6Verifies_iff :
    Icmp6Verifies memory data ↔
      ((pseudoHeader memory data).sum +
          (regionWords (padded memory (data + 54 + payloadLength memory data)) 2 (data + 54)
            ((payloadLength memory data + 1) / 2)).sum) % 65535 = 0 ∧
        (pseudoHeader memory data).sum +
          (regionWords (padded memory (data + 54 + payloadLength memory data)) 2 (data + 54)
            ((payloadLength memory data + 1) / 2)).sum ≠ 0 := by
  have protocol : (memory (data + 20)).toNat < 2 ^ 8 := (memory (data + 20)).toNat_lt
  have halves : ∀ half ∈ pseudoHeader memory data ++
      regionWords (padded memory (data + 54 + payloadLength memory data)) 2 (data + 54)
        ((payloadLength memory data + 1) / 2), half < 2 ^ 16 := by
    intro half member
    rcases List.mem_append.mp member with pseudo | message
    · rcases List.mem_append.mp pseudo with address | rest
      · exact regionWords_lt address
      · simp only [List.mem_cons, List.not_mem_nil, or_false] at rest
        rcases rest with rfl | rfl
        · exact memory.loadWord_lt _ 2
        · omega
    · exact regionWords_lt message
  unfold Icmp6Verifies
  rw [verifies_iff halves, ← List.sum_append, Ne, List.sum_eq_zero_iff]
  push Not
  rfl

def repliedMessage6 : Memory :=
  (memory.store (data + 54) icmpv6EchoReply).storeWord (data + 56)
    (memory.loadWord (data + 56) 2 + (2 ^ 16 - 1)) 2

/-- The packet that is sent for an echo request. -/
def icmp6Reply : Memory :=
  swapMacAndSend (icmp6ReplyFields memory data) data

theorem icmp6ReplyFields_message {candidate : Nat} (behind : data + 54 ≤ candidate) :
    icmp6ReplyFields memory data candidate = repliedMessage6 memory data candidate := by
  have checksum : (memory.store (data + 54) icmpv6EchoReply).loadWord (data + 54 + 2) 2 =
      memory.loadWord (data + 56) 2 := Memory.loadWord_store_other _ (by omega)
  unfold icmp6ReplyFields repliedMessage6
  simp only [checksum]
  simp (disch := omega) only [Memory.copyFrom_other, Memory.store_other]

theorem icmp6ReplyFields_front {candidate : Nat} (front : candidate < data + 21) :
    icmp6ReplyFields memory data candidate = memory candidate := by
  unfold icmp6ReplyFields
  simp (disch := omega) only [Memory.copyFrom_other, Memory.storeWord_other, Memory.store_other]

/-- The two addresses change places. -/
theorem icmp6ReplyFields_addresses {index : Nat} (below : index < 16) :
    icmp6ReplyFields memory data (data + 22 + index) = memory (data + 38 + index) ∧
      icmp6ReplyFields memory data (data + 38 + index) = memory (data + 22 + index) := by
  have source : data + 14 + 8 = data + 22 := rfl
  have destination : data + 14 + 24 = data + 38 := rfl
  unfold icmp6ReplyFields
  simp only [source, destination]
  constructor
  · rw [Memory.copyFrom_other _ (by omega), Memory.copyFrom_inside _ _ _ below]
    simp (disch := omega) only [Memory.storeWord_other, Memory.store_other]
  · rw [Memory.copyFrom_inside _ _ _ below]
    simp (disch := omega) only [Memory.storeWord_other, Memory.store_other]

theorem icmp6Reply_sentBack : SentBack memory (icmp6Reply memory data) data (data + 22) 16 := by
  have behind (address : Nat) (lower : data + 22 ≤ address) :
      (icmp6Reply memory data).bytes address 16 =
        (icmp6ReplyFields memory data).bytes address 16 :=
    Memory.bytes_congr fun candidate above _ => swapMacAndSend_other (by omega)
  have front (address : Nat) (upper : address + 6 ≤ data + 12) :
      (icmp6ReplyFields memory data).bytes address 6 = memory.bytes address 6 :=
    Memory.bytes_congr fun candidate _ below => icmp6ReplyFields_front _ _ (by omega)
  exact
    { etherDestination := (swapMacAndSend_destination _ data).trans (front _ (by omega))
      etherSource := (swapMacAndSend_source _ data).trans (front _ (by omega))
      source := by
        rw [behind _ (by omega)]
        exact Memory.bytes_eq_iff.mpr fun index below =>
          (icmp6ReplyFields_addresses memory data below).1
      destination := by
        rw [behind _ (by omega)]
        exact Memory.bytes_eq_iff.mpr fun index below =>
          (icmp6ReplyFields_addresses memory data below).2 }

/-- The addresses add up to what they did. -/
theorem icmp6Reply_addresses_sum :
    (regionWords (icmp6Reply memory data) 2 (data + 22) 16).sum =
      (regionWords memory 2 (data + 22) 16).sum := by
  have sentBack := icmp6Reply_sentBack memory data
  have moved {address target : Nat}
      (same : (icmp6Reply memory data).bytes address 16 = memory.bytes target 16) :
      regionWords (icmp6Reply memory data) 2 address 8 = regionWords memory 2 target 8 := by
    rw [regionWords_eq_map, regionWords_eq_map]
    apply List.map_congr_left
    intro index member
    have below := List.mem_range.mp member
    apply Memory.loadWord_eq_iff.mpr
    intro offset _
    have byte := Memory.bytes_eq_iff.mp same (2 * index + offset) (by omega)
    rwa [← Nat.add_assoc, ← Nat.add_assoc] at byte
  have source := moved sentBack.source
  have destination := moved sentBack.destination
  rw [regionWords_append _ 2 _ 8 8, regionWords_append _ 2 _ 8 8, List.sum_append,
    List.sum_append, source, destination, Nat.add_comm]

/-- Everything but the Ethernet addresses, the hop limit, the IP addresses and the type
and the checksum of the message. -/
theorem icmp6Reply_other {candidate : Nat}
    (outside : candidate < data ∨ data + 12 ≤ candidate ∧ candidate < data + 21 ∨
      candidate = data + 55 ∨ data + 58 ≤ candidate) :
    icmp6Reply memory data candidate = memory candidate := by
  unfold icmp6Reply icmp6ReplyFields
  rw [swapMacAndSend_other (by omega)]
  simp (disch := omega) only [Memory.copyFrom_other, Memory.storeWord_other, Memory.store_other]

theorem icmp6Reply_hopLimit : icmp6Reply memory data (data + 21) = defaultTtl := by
  have hopLimit : data + 14 + 7 = data + 21 := rfl
  unfold icmp6Reply icmp6ReplyFields
  rw [swapMacAndSend_other (by omega)]
  simp (disch := omega) only [Memory.copyFrom_other, hopLimit, Memory.store_same]

/-- The type and the checksum of the reply. -/
theorem icmp6Reply_message :
    icmp6Reply memory data (data + 54) = icmpv6EchoReply ∧
      (icmp6Reply memory data).loadWord (data + 56) 2 =
        (memory.loadWord (data + 56) 2 + (2 ^ 16 - 1)) % 2 ^ 16 := by
  have message {candidate : Nat} (behind : data + 54 ≤ candidate) :
      icmp6Reply memory data candidate = repliedMessage6 memory data candidate := by
    unfold icmp6Reply
    rw [swapMacAndSend_other (by omega), icmp6ReplyFields_message _ _ behind]
  constructor
  · rw [message le_rfl, repliedMessage6, Memory.storeWord_other _ (by omega), Memory.store_same]
  · refine (Memory.loadWord_congr fun candidate lower _ => message (by omega)).trans ?_
    exact Memory.loadWord_storeWord ..

/-- The reply has the length of the request, and a pseudo header of the same sum. -/
theorem icmp6Reply_pseudoHeader :
    payloadLength (icmp6Reply memory data) data = payloadLength memory data ∧
      (pseudoHeader (icmp6Reply memory data) data).sum = (pseudoHeader memory data).sum := by
  have length : (icmp6Reply memory data).loadWord (data + 18) 2 = memory.loadWord (data + 18) 2 :=
    Memory.loadWord_congr fun candidate lower upper => icmp6Reply_other memory data (by omega)
  have protocol : icmp6Reply memory data (data + 20) = memory (data + 20) :=
    icmp6Reply_other memory data (by omega)
  constructor
  · rw [payloadLength, payloadLength, length]
  · rw [pseudoHeader, pseudoHeader, List.sum_append, List.sum_append, icmp6Reply_addresses_sum,
      length, protocol]

theorem padded_repliedMessage6 {limit : Nat} (inside : data + 58 ≤ limit) :
    padded (repliedMessage6 memory data) limit = repliedMessage6 (padded memory limit) data := by
  unfold repliedMessage6
  rw [padded_storeWord _ (by omega), padded_store _ (by omega), loadWord_padded (by omega)]

/-- The message verifies exactly if its checksum was not zero: zero has nothing to
take one from. -/
theorem icmp6Reply_message_verifies_iff (long : 4 ≤ payloadLength memory data)
    (request : memory (data + 54) = icmpv6EchoRequest) (verified : Icmp6Verifies memory data) :
    Icmp6Verifies (icmp6Reply memory data) data ↔ memory.loadWord (data + 56) 2 ≠ 0 := by
  obtain ⟨sameLength, pseudo⟩ := icmp6Reply_pseudoHeader memory data
  rw [icmp6Verifies_iff] at verified
  rw [icmp6Verifies_iff, sameLength, pseudo]
  generalize payloadLength memory data = length at long verified ⊢
  have message : regionWords (padded (icmp6Reply memory data) (data + 54 + length)) 2 (data + 54)
        ((length + 1) / 2) =
      regionWords (repliedMessage6 (padded memory (data + 54 + length)) data) 2 (data + 54)
        ((length + 1) / 2) := by
    rw [← padded_repliedMessage6 memory data (by omega)]
    apply regionWords_congr
    intro candidate lower _
    unfold padded icmp6Reply
    rw [swapMacAndSend_other (by omega), icmp6ReplyFields_message _ _ lower]
  have sum := sum_message_adjusted (padded memory (data + 54 + length)) (data + 54)
    (memory.loadWord (data + 56) 2 + (2 ^ 16 - 1)) icmpv6EchoReply
    (by omega : 2 ≤ (length + 1) / 2)
  have checksum := memory.loadWord_lt (data + 56) 2
  have type : icmpv6EchoRequest.toNat = 128 := rfl
  have replied : icmpv6EchoReply.toNat = 129 := rfl
  have field : (padded memory (data + 54 + length)).loadWord (data + 56) 2 =
      memory.loadWord (data + 56) 2 := loadWord_padded (by omega)
  rw [message, repliedMessage6, field]
  rw [padded_inside (by omega), request, type, replied, field] at sum
  generalize (regionWords (Memory.storeWord _ _ _ 2) 2 (data + 54) _).sum = after at *
  generalize (regionWords (padded _ _) 2 (data + 54) _).sum = before at *
  generalize (pseudoHeader memory data).sum = header at *
  omega

end Icmp6

end UserspaceXdp.Katran
