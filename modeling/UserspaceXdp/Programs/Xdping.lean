import UserspaceXdp.Checksum.Alignment
import UserspaceXdp.Programs.XdpAdjustTail

/-!
Contract: `xdping.bpf.c` turns ICMP packets into echo replies.

Owns: the program, the reply it makes of a packet, and for which lengths and
contents the message it makes has a valid checksum.

Does not own: the sum of `bpftime_csum_diff_runtime`. The program always sums 64
bytes; a message has the length that the IPv4 header declares.
-/

namespace UserspaceXdp.Programs.Xdping

open UserspaceXdp.Foundation
open UserspaceXdp.Foundation.OnesComplement
open UserspaceXdp.Runtime
open UserspaceXdp.Checksum
open XdpAdjustTail (Scratch)

/-! ## The program -/

def ethPIp : Nat := 0x0800
def ipprotoIcmp : UInt8 := 1
def icmpEchoreply : UInt8 := 0
def icmpEcho : UInt8 := 8
def icmpEchoLen : Nat := 64

def csumFoldHelper (sum : Nat) : Nat :=
  let sum := sum % 2 ^ 16 + sum / 2 ^ 16
  (2 ^ 32 - 1 - (sum % 2 ^ 16 + sum / 2 ^ 16)) % 2 ^ 16

/-- The checks of the total length and of the type are commented out, so that
`type` is not read. -/
def icmpCheck (context : XdpMdUserspace) (memory : Memory) (_type : UInt8) : Nat :=
  let data := context.data
  let iph := data + 14
  let icmph := data + 14 + 20
  if context.dataEnd < data + 14 + 20 + icmpEchoLen then Runtime.xdpPass
  else if memory.loadWord (data + 12) 2 ≠ bpfHtons ethPIp then Runtime.xdpPass
  else if memory (iph + 9) ≠ ipprotoIcmp then Runtime.xdpPass
  else if context.dataEnd < icmph then Runtime.xdpPass
  else xdpTx

/-- The packet with its addresses swapped, the new type and no checksum. -/
def replyFields (memory : Memory) (data : Nat) : Memory :=
  let iph := data + 14
  let icmph := data + 34
  let raddr := memory.loadWord (iph + 12) 4
  let memory := swapSrcDstMac memory data
  let memory := memory.storeWord (iph + 12) (memory.loadWord (iph + 16) 4) 4
  let memory := memory.storeWord (iph + 16) raddr 4
  let memory := memory.store icmph icmpEchoreply
  memory.storeWord (icmph + 2) 0 2

structure Outcome where
  verdict : Nat
  memory : Memory

section Program

variable (scratch : Scratch)

def ipv4Csum (memory : Memory) (dataStart dataSize : Nat) : Nat :=
  csumFoldHelper
    ((bpftimeCsumDiffRuntime memory (.fresh scratch.address scratch.contents) 0 0 dataStart
      dataSize 0).value.getD 0 % 2 ^ 32)

def xdpPass (context : XdpMdUserspace) (memory : Memory) : Outcome :=
  let ret := icmpCheck context memory icmpEcho
  if ret ≠ xdpTx then ⟨ret, memory⟩
  else
    let icmph := context.data + 34
    let memory := replyFields memory context.data
    ⟨xdpTx, memory.storeWord (icmph + 2) (ipv4Csum scratch memory icmph icmpEchoLen) 2⟩

end Program

/-! ## The reply -/

section Fields

variable {memory : Memory} {data candidate : Nat}

/-- The bytes that a reply may change. -/
def Rewritten (data candidate : Nat) : Prop :=
  (data ≤ candidate ∧ candidate < data + 12) ∨
    (data + 26 ≤ candidate ∧ candidate < data + 34) ∨ candidate = data + 34 ∨
      (data + 36 ≤ candidate ∧ candidate < data + 38)

theorem replyFields_other (kept : ¬ Rewritten data candidate) :
    replyFields memory data candidate = memory candidate := by
  unfold Rewritten at kept
  unfold replyFields
  rw [Memory.storeWord_other _ (by omega), Memory.store_other _ (by omega),
    Memory.storeWord_other _ (by omega), Memory.storeWord_other _ (by omega),
    swapSrcDstMac_other _ (by omega)]

theorem replyFields_type : replyFields memory data (data + 34) = icmpEchoreply := by
  unfold replyFields
  rw [Memory.storeWord_other _ (by omega), Memory.store_same]

theorem replyFields_checksum (memory : Memory) (data : Nat) :
    (replyFields memory data).loadWord (data + 34 + 2) 2 = 0 := by
  unfold replyFields
  exact Memory.loadWord_storeWord _ _ _ 2

theorem replyFields_mac :
    (replyFields memory data).bytes data 6 = memory.bytes (data + 6) 6 ∧
      (replyFields memory data).bytes (data + 6) 6 = memory.bytes data 6 := by
  have front (address : Nat) (inside : address + 6 ≤ data + 12) :
      (replyFields memory data).bytes address 6 = (swapSrcDstMac memory data).bytes address 6 := by
    apply Memory.bytes_congr
    intro candidate _ upper
    unfold replyFields
    rw [Memory.storeWord_other _ (by omega), Memory.store_other _ (by omega),
      Memory.storeWord_other _ (by omega), Memory.storeWord_other _ (by omega)]
  rw [front data (by omega), front (data + 6) (by omega)]
  exact swapSrcDstMac_bytes memory data

theorem replyFields_ip :
    (replyFields memory data).loadWord (data + 26) 4 = memory.loadWord (data + 30) 4 ∧
      (replyFields memory data).loadWord (data + 30) 4 = memory.loadWord (data + 26) 4 := by
  have small (address : Nat) : memory.loadWord address 4 % 256 ^ 4 = memory.loadWord address 4 :=
    Nat.mod_eq_of_lt (memory.loadWord_lt address 4)
  have unswapped : (swapSrcDstMac memory data).loadWord (data + 30) 4 =
      memory.loadWord (data + 30) 4 :=
    Memory.loadWord_congr fun candidate _ _ => swapSrcDstMac_other _ (by omega)
  unfold replyFields
  constructor
  · simp (disch := omega) only [Memory.loadWord_storeWord_other, Memory.loadWord_store_other,
      Memory.loadWord_storeWord, unswapped, small, Nat.add_assoc, Nat.reduceAdd]
  · simp (disch := omega) only [Memory.loadWord_storeWord_other, Memory.loadWord_store_other,
      Memory.loadWord_storeWord, small, Nat.add_assoc, Nat.reduceAdd]

end Fields

/-! ## The checksum of a message -/

/-- The one's-complement sum of the message, an odd last byte padded with a zero,
is all ones. -/
def MessageVerifies (memory : Memory) (address length : Nat) : Prop :=
  foldToHalf (halfwordSum (memory.bytes address length)) = 0xffff

theorem messageVerifies_iff (memory : Memory) (address length : Nat) :
    MessageVerifies memory address length ↔
      memory.loadWord address length % 65535 = 0 ∧ memory.loadWord address length ≠ 0 := by
  have summed := loadWord_halfwordSum memory address length
  have residue : memory.loadWord address length % 65535 =
      halfwordSum (memory.bytes address length) % 65535 := summed.congruent
  have folded := foldToHalf_spec (halfwordSum (memory.bytes address length))
  have foldedResidue : foldToHalf (halfwordSum (memory.bytes address length)) % 65535 =
      halfwordSum (memory.bytes address length) % 65535 := folded.2.congruent
  have zero := summed.zero_iff
  have foldedZero := folded.2.zero_iff
  have small := folded.1
  unfold MessageVerifies
  omega

/-- The bytes that one of the program's 64 and the message has and the other has
not, as a number. -/
def apart (memory : Memory) (icmph length : Nat) : Nat :=
  memory.loadWord (icmph + min length icmpEchoLen)
    (max length icmpEchoLen - min length icmpEchoLen)

theorem apart_of_short {length : Nat} (short : length < 64) (memory : Memory) (icmph : Nat) :
    apart memory icmph length = memory.loadWord (icmph + length) (64 - length) := by
  rw [apart, icmpEchoLen, Nat.min_eq_left (by omega), Nat.max_eq_right (by omega)]

theorem apart_of_long {length : Nat} (long : 64 ≤ length) (memory : Memory) (icmph : Nat) :
    apart memory icmph length = memory.loadWord (icmph + 64) (length - 64) := by
  rw [apart, icmpEchoLen, Nat.min_eq_right long, Nat.max_eq_left long]

/-- Modulo 65535 a shift by bytes loses nothing. -/
theorem shifted_residue_iff (length rest : Nat) :
    256 ^ length * rest % 65535 = 0 ↔ rest % 65535 = 0 := by
  have unit : Nat.Coprime 65535 (256 ^ length) := Nat.Coprime.pow_right _ (by decide)
  rw [← Nat.dvd_iff_mod_eq_zero, ← Nat.dvd_iff_mod_eq_zero]
  exact unit.dvd_mul_left

/-- Where the 64 bytes verify, the message does if what the two do not share
counts for nothing and the message is not zero throughout. -/
theorem messageVerifies_of_whole {memory : Memory} {icmph length : Nat}
    (residue : memory.loadWord icmph 64 % 65535 = 0) (nonzero : memory.loadWord icmph 64 ≠ 0) :
    MessageVerifies memory icmph length ↔
      apart memory icmph length % 65535 = 0 ∧
        (length < 64 → memory.loadWord icmph length ≠ 0) := by
  rw [messageVerifies_iff]
  rcases Nat.lt_or_ge length 64 with short | long
  · have cut := memory.loadWord_add icmph length (64 - length)
    rw [Nat.add_sub_cancel' (by omega)] at cut
    have shifted := shifted_residue_iff length (memory.loadWord (icmph + length) (64 - length))
    rw [apart_of_short short, ← shifted]
    generalize 256 ^ length * memory.loadWord (icmph + length) (64 - length) = rest at cut
    omega
  · have cut := loadWord_cut memory (by decide : 64 % 2 = 0) icmph (length - 64)
    rw [Nat.add_sub_cancel' long] at cut
    have sum : memory.loadWord icmph length % 65535 =
        (memory.loadWord icmph 64 + memory.loadWord (icmph + 64) (length - 64)) % 65535 :=
      cut.congruent
    have zero := cut.zero_iff
    rw [apart_of_long long]
    omega

/-! ## The checksum of the reply -/

section Checksum

variable (scratch : Scratch)

theorem csumFoldHelper_eq {sum : Nat} (small : sum < 2 ^ 16) :
    csumFoldHelper sum = complement16 sum := by
  unfold csumFoldHelper complement16
  dsimp only
  omega

theorem ipv4Csum_eq {count : Nat} (few : count ≤ 128) (memory : Memory) (dataStart : Nat) :
    ipv4Csum scratch memory dataStart (4 * count) =
      complement16 (csumPartial memory dataStart (4 * count) 0) := by
  rw [ipv4Csum, csumDiffRuntime_word few (by decide)]
  exact csumFoldHelper_eq (csumPartial_zero_lt memory dataStart (4 * count))

/-- The packet that is sent. -/
def reply (memory : Memory) (data : Nat) : Memory :=
  (replyFields memory data).storeWord (data + 34 + 2)
    (ipv4Csum scratch (replyFields memory data) (data + 34) icmpEchoLen) 2

variable {memory : Memory} {data candidate length : Nat}

theorem reply_other (kept : ¬ Rewritten data candidate) :
    reply scratch memory data candidate = memory candidate := by
  have outside : candidate < data + 34 + 2 ∨ data + 34 + 2 + 2 ≤ candidate := by
    unfold Rewritten at kept
    omega
  rw [reply, Memory.storeWord_other _ outside, replyFields_other kept]

theorem reply_type : reply scratch memory data (data + 34) = icmpEchoreply := by
  rw [reply, Memory.storeWord_other _ (by omega), replyFields_type]

/-- The field holds the complement of the sum without it. -/
theorem reply_checksum :
    (reply scratch memory data).loadWord (data + 34 + 2) 2 =
      complement16 (csumPartial (replyFields memory data) (data + 34) 64 0) := by
  have small : complement16 (csumPartial (replyFields memory data) (data + 34) 64 0) < 2 ^ 16 := by
    unfold complement16
    omega
  have csum := ipv4Csum_eq scratch (by decide : 16 ≤ 128) (replyFields memory data) (data + 34)
  rw [reply, Memory.loadWord_storeWord, icmpEchoLen, csum]
  exact Nat.mod_eq_of_lt small

/-- Over the 64 bytes the checksum is right. -/
theorem reply_whole (memory : Memory) (data : Nat) :
    (reply scratch memory data).loadWord (data + 34) 64 % 65535 = 0 ∧
      (reply scratch memory data).loadWord (data + 34) 64 ≠ 0 := by
  have csum := ipv4Csum_eq scratch (by decide : 16 ≤ 128) (replyFields memory data) (data + 34)
  have verifies : RegionVerifies (reply scratch memory data) (data + 34) 32 := by
    rw [reply, icmpEchoLen, csum]
    exact regionVerifies_complement (by decide : 1 < 32) (replyFields_checksum _ _)
      (csumPartial_zero_lt _ _ _) (csumPartial_zero_onesEq (replyFields memory data) (data + 34) 32)
  have words := loadWord_regionWords (reply scratch memory data)
    (by decide : 256 ^ 2 ≡ 1 [MOD 65535]) (data + 34) 32
  have sum := (regionVerifies_iff _ _ _).mp verifies
  have residue : (reply scratch memory data).loadWord (data + 34) 64 % 65535 =
      (regionWords (reply scratch memory data) 2 (data + 34) 32).sum % 65535 := words.congruent
  exact ⟨residue.trans sum.1, fun zero => sum.2 (words.zero_iff.mp zero)⟩

theorem apart_congr {left right : Memory} {icmph : Nat} (long : 8 ≤ length)
    (agree : ∀ candidate, icmph + 8 ≤ candidate → left candidate = right candidate) :
    apart left icmph length = apart right icmph length := by
  apply Memory.loadWord_congr
  intro candidate lower _
  unfold icmpEchoLen at lower
  exact agree candidate (by omega)

theorem apart_reply (long : 8 ≤ length) :
    apart (reply scratch memory data) (data + 34) length = apart memory (data + 34) length :=
  apart_congr long fun candidate above => reply_other scratch (by unfold Rewritten; omega)

theorem apart_replyFields (long : 8 ≤ length) :
    apart (replyFields memory data) (data + 34) length = apart memory (data + 34) length :=
  apart_congr long fun candidate above => replyFields_other (by unfold Rewritten; omega)

/-- A byte of the message besides the type and the checksum is not zero. -/
def HasContents (memory : Memory) (icmph length : Nat) : Prop :=
  ∃ i, 0 < i ∧ i < length ∧ i ≠ 2 ∧ i ≠ 3 ∧ memory (icmph + i) ≠ 0

/-- A message without contents is zero until the checksum is filled in. -/
theorem replyFields_zero (empty : ¬ HasContents memory (data + 34) length) :
    (replyFields memory data).loadWord (data + 34) length = 0 := by
  have field := Memory.loadWord_eq_zero_iff.mp (replyFields_checksum memory data)
  apply Memory.loadWord_eq_zero_iff.mpr
  intro i below
  by_cases type : i = 0
  · rw [type]
    exact replyFields_type
  by_cases checksum : i = 2 ∨ i = 3
  · have byte := field (i - 2) (by omega)
    have place : data + 34 + 2 + (i - 2) = data + 34 + i := by omega
    rwa [place] at byte
  · rw [replyFields_other (by unfold Rewritten; omega)]
    by_contra present
    exact empty ⟨i, by omega, below, by omega, by omega, present⟩

/-- Such a message gets a checksum of zero if the bytes behind it add up to the
other zero. -/
theorem reply_zero (long : 8 ≤ length) (short : length < 64)
    (residue : apart memory (data + 34) length % 65535 = 0)
    (follows : apart memory (data + 34) length ≠ 0)
    (empty : ¬ HasContents memory (data + 34) length) :
    (reply scratch memory data).loadWord (data + 34) length = 0 := by
  have cleared := replyFields_zero empty
  have checksum : (reply scratch memory data).loadWord (data + 34 + 2) 2 = 0 := by
    have rest : (replyFields memory data).loadWord (data + 34 + length) (64 - length) =
        apart memory (data + 34) length :=
      (apart_of_short short _ _).symm.trans (apart_replyFields long)
    have cut := (replyFields memory data).loadWord_add (data + 34) length (64 - length)
    rw [Nat.add_sub_cancel' (by omega), cleared, Nat.zero_add, rest] at cut
    have shifted := (shifted_residue_iff length (apart memory (data + 34) length)).mpr residue
    have positive : 256 ^ length * apart memory (data + 34) length ≠ 0 :=
      Nat.mul_ne_zero (Nat.pos_iff_ne_zero.mp (Nat.pow_pos (by decide))) follows
    have summed := csumPartial_onesEq (by decide : 0 < 2 ^ 32) (replyFields memory data)
      (data + 34) 64
    rw [cut, Nat.add_zero] at summed
    have sumResidue : csumPartial (replyFields memory data) (data + 34) 64 0 % 65535 =
        256 ^ length * apart memory (data + 34) length % 65535 := summed.congruent
    have sumPositive := summed.zero_iff.not.mpr positive
    have small := csumPartial_zero_lt (replyFields memory data) (data + 34) 64
    rw [reply_checksum, complement16]
    omega
  have field := Memory.loadWord_eq_zero_iff.mp checksum
  have bytes := Memory.loadWord_eq_zero_iff.mp cleared
  apply Memory.loadWord_eq_zero_iff.mpr
  intro i below
  by_cases inside : i = 2 ∨ i = 3
  · have byte := field (i - 2) (by omega)
    have place : data + 34 + 2 + (i - 2) = data + 34 + i := by omega
    rwa [place] at byte
  · rw [reply, Memory.storeWord_other _ (by omega)]
    exact bytes i below

theorem reply_nonzero_iff (long : 8 ≤ length) (short : length < 64)
    (residue : apart memory (data + 34) length % 65535 = 0) :
    (reply scratch memory data).loadWord (data + 34) length ≠ 0 ↔
      apart memory (data + 34) length = 0 ∨ HasContents memory (data + 34) length := by
  constructor
  · intro nonzero
    by_contra neither
    obtain ⟨follows, empty⟩ := not_or.mp neither
    exact nonzero (reply_zero scratch long short residue follows empty)
  · intro condition zero
    cases condition with
    | inl nothing =>
        have cut := (reply scratch memory data).loadWord_add (data + 34) length (64 - length)
        have rest : (reply scratch memory data).loadWord (data + 34 + length) (64 - length) = 0 :=
          (apart_of_short short _ _).symm.trans ((apart_reply scratch long).trans nothing)
        rw [Nat.add_sub_cancel' (by omega), zero, rest] at cut
        exact (reply_whole scratch memory data).2 cut
    | inr contents =>
        obtain ⟨i, positive, below, notLow, notHigh, present⟩ := contents
        have byte := Memory.loadWord_eq_zero_iff.mp zero i below
        rw [reply_other scratch (by unfold Rewritten; omega)] at byte
        exact present byte

theorem reply_verifies_iff (long : 8 ≤ length) :
    MessageVerifies (reply scratch memory data) (data + 34) length ↔
      apart memory (data + 34) length % 65535 = 0 ∧
        (length < 64 → apart memory (data + 34) length = 0 ∨
          HasContents memory (data + 34) length) := by
  have whole := reply_whole scratch memory data
  rw [messageVerifies_of_whole whole.1 whole.2, apart_reply scratch long]
  apply and_congr_right
  intro residue
  exact forall_congr' fun short => reply_nonzero_iff scratch long short residue

end Checksum

/-! ## The header of the reply -/

section Header

variable (scratch : Scratch) (memory : Memory) (data : Nat)

theorem reply_mac :
    (reply scratch memory data).bytes data 6 = memory.bytes (data + 6) 6 ∧
      (reply scratch memory data).bytes (data + 6) 6 = memory.bytes data 6 := by
  have front (address : Nat) (inside : address + 6 ≤ data + 12) :
      (reply scratch memory data).bytes address 6 = (replyFields memory data).bytes address 6 :=
    Memory.bytes_congr fun candidate _ _ => Memory.storeWord_other _ (by omega)
  rw [front data (by omega), front (data + 6) (by omega)]
  exact replyFields_mac

theorem reply_ip :
    (reply scratch memory data).loadWord (data + 26) 4 = memory.loadWord (data + 30) 4 ∧
      (reply scratch memory data).loadWord (data + 30) 4 = memory.loadWord (data + 26) 4 := by
  rw [reply, Memory.loadWord_storeWord_other _ (by omega),
    Memory.loadWord_storeWord_other _ (by omega)]
  exact replyFields_ip

/-- Two addresses that change places leave the sum of the header. -/
theorem reply_header_sum :
    (regionWords (reply scratch memory data) 2 (data + 14) 10).sum =
      (regionWords memory 2 (data + 14) 10).sum := by
  have swapped := reply_ip scratch memory data
  have halves {target source : Nat}
      (same : (reply scratch memory data).loadWord target 4 = memory.loadWord source 4) :
      (regionWords (reply scratch memory data) 2 target 2).sum =
        (regionWords memory 2 source 2).sum := by
    have bytes := Memory.loadWord_eq_iff.mp same
    have low : (reply scratch memory data).loadWord target 2 = memory.loadWord source 2 :=
      Memory.loadWord_eq_iff.mpr fun index below => bytes index (by omega)
    have high : (reply scratch memory data).loadWord (target + 2) 2 =
        memory.loadWord (source + 2) 2 := by
      apply Memory.loadWord_eq_iff.mpr
      intro index below
      rw [Nat.add_assoc, Nat.add_assoc]
      exact bytes (2 + index) (by omega)
    rw [regionWords, regionWords, regionWords, regionWords, low, high]
    rfl
  have cut (region : Memory) : (regionWords region 2 (data + 14) 10).sum =
      (regionWords region 2 (data + 14) 6).sum +
        ((regionWords region 2 (data + 26) 2).sum + (regionWords region 2 (data + 30) 2).sum) := by
    rw [regionWords_append region 2 (data + 14) 6 4, regionWords_append region 2 _ 2 2,
      List.sum_append, List.sum_append]
  have front : regionWords (reply scratch memory data) 2 (data + 14) 6 =
      regionWords memory 2 (data + 14) 6 :=
    regionWords_congr fun candidate _ _ => reply_other scratch (by unfold Rewritten; omega)
  rw [cut, cut, front, halves swapped.1, halves swapped.2]
  omega

theorem reply_header_verifies :
    RegionVerifies (reply scratch memory data) (data + 14) 10 ↔
      RegionVerifies memory (data + 14) 10 := by
  rw [regionVerifies_iff, regionVerifies_iff, reply_header_sum]

end Header

/-! ## Echo replies -/

/-- `tot_len`. -/
def totalLength (memory : Memory) (data : Nat) : Nat :=
  bpfNtohs (memory.loadWord (data + 16) 2)

/-- A frame that is answered, without IP options, whose total length has room for
an ICMP header and does not go beyond the frame. -/
structure Answered (scratch : Scratch) (context : XdpMdUserspace) (memory : Memory) : Prop where
  sent : (xdpPass scratch context memory).verdict = xdpTx
  noOptions : (memory (context.data + 14)).toNat % 16 = 5
  hasHeader : 28 ≤ totalLength memory context.data
  inFrame : totalLength memory context.data ≤ context.dataEnd - context.data - 14

/-- What the answer is for: an echo reply that verifies over a message of this
length, between the old addresses, with nothing else changed. -/
structure EchoReply (before after : Memory) (data length : Nat) : Prop where
  type : after (data + 34) = icmpEchoreply
  message : MessageVerifies after (data + 34) length
  destinationMac : after.bytes data 6 = before.bytes (data + 6) 6
  sourceMac : after.bytes (data + 6) 6 = before.bytes data 6
  source : after.loadWord (data + 26) 4 = before.loadWord (data + 30) 4
  destination : after.loadWord (data + 30) 4 = before.loadWord (data + 26) 4
  header : RegionVerifies before (data + 14) 10 → RegionVerifies after (data + 14) 10
  unchanged : ∀ candidate, ¬ Rewritten data candidate → after candidate = before candidate

variable {scratch : Scratch} {context : XdpMdUserspace} {memory : Memory}

theorem xdpPass_of_checked (checked : icmpCheck context memory icmpEcho = xdpTx) :
    xdpPass scratch context memory = ⟨xdpTx, reply scratch memory context.data⟩ := by
  unfold xdpPass
  rw [checked]
  exact if_neg (not_not.mpr rfl)

theorem checked_of_sent (sent : (xdpPass scratch context memory).verdict = xdpTx) :
    icmpCheck context memory icmpEcho = xdpTx := by
  by_contra passed
  unfold xdpPass at sent
  rw [if_pos passed] at sent
  exact passed sent

theorem echoReply_iff {data length : Nat} :
    EchoReply memory (reply scratch memory data) data length ↔
      MessageVerifies (reply scratch memory data) (data + 34) length := by
  constructor
  · intro answer
    exact answer.message
  · intro message
    exact
      { type := reply_type scratch
        message
        destinationMac := (reply_mac scratch memory data).1
        sourceMac := (reply_mac scratch memory data).2
        source := (reply_ip scratch memory data).1
        destination := (reply_ip scratch memory data).2
        header := (reply_header_verifies scratch memory data).mpr
        unchanged := fun _ kept => reply_other scratch kept }

/-- The answer is right exactly if the bytes that the 64 bytes of the program and
the message do not share add up to zero modulo 65535, and they are not the only
ones besides the type and the checksum. -/
theorem xdping_replies_soundly_iff (scratch : Scratch) (context : XdpMdUserspace)
    (memory : Memory) (answered : Answered scratch context memory) :
    EchoReply memory (xdpPass scratch context memory).memory context.data
        (totalLength memory context.data - 20) ↔
      apart memory (context.data + 34) (totalLength memory context.data - 20) % 65535 = 0 ∧
        (totalLength memory context.data - 20 < 64 →
          apart memory (context.data + 34) (totalLength memory context.data - 20) = 0 ∨
            HasContents memory (context.data + 34) (totalLength memory context.data - 20)) := by
  have long : 8 ≤ totalLength memory context.data - 20 := by
    have hasHeader := answered.hasHeader
    omega
  rw [xdpPass_of_checked (checked_of_sent answered.sent), echoReply_iff,
    reply_verifies_iff scratch long]

/-! ## Pings -/

/-- A ping in a frame from `0x1000` on, with this total length, whose byte 98 is
one if the frame has it. -/
def pingMemory (length : UInt8) : Memory := fun address =>
  if address = 0x100c then 0x08 else if address = 0x100e then 0x45
  else if address = 0x1011 then length else if address = 0x1017 then 1
  else if address = 0x1022 then 8 else if address = 0x1062 then 1 else 0

def pingContext (frameLength : Nat) : XdpMdUserspace where
  data := 0x1000
  dataEnd := 0x1000 + frameLength
  dataMeta := 0
  ingressIfindex := 0
  rxQueueIndex := 0
  egressIfindex := 0
  bufferStart := 0x1000
  bufferEnd := 0x1800

def emptyScratch : Scratch := ⟨0, fun _ => 0⟩

theorem ping_answered {frameLength : Nat} {length : UInt8}
    (checked : icmpCheck (pingContext frameLength) (pingMemory length) icmpEcho = xdpTx)
    (hasHeader : 28 ≤ totalLength (pingMemory length) 0x1000)
    (inFrame : totalLength (pingMemory length) 0x1000 ≤ 0x1000 + frameLength - 0x1000 - 14) :
    Answered emptyScratch (pingContext frameLength) (pingMemory length) where
  sent := by rw [xdpPass_of_checked checked]
  noOptions := by simp [pingMemory, pingContext]
  hasHeader
  inFrame

theorem ping_of_64_bytes_is_answered :
    EchoReply (pingMemory 84) (xdpPass emptyScratch (pingContext 98) (pingMemory 84)).memory 0x1000
      (totalLength (pingMemory 84) 0x1000 - 20) :=
  (xdping_replies_soundly_iff emptyScratch (pingContext 98) (pingMemory 84)
    (ping_answered (by decide) (by decide) (by decide))).mpr
    ⟨by decide, fun short => absurd short (by decide)⟩

theorem ping_of_65_bytes_fails_checksum :
    Answered emptyScratch (pingContext 99) (pingMemory 85) ∧
      ¬ EchoReply (pingMemory 85) (xdpPass emptyScratch (pingContext 99) (pingMemory 85)).memory
        0x1000 (totalLength (pingMemory 85) 0x1000 - 20) := by
  have answered : Answered emptyScratch (pingContext 99) (pingMemory 85) :=
    ping_answered (by decide) (by decide) (by decide)
  refine ⟨answered, fun answer => ?_⟩
  rw [xdpPass_of_checked (checked_of_sent answered.sent)] at answer
  have length : totalLength (pingMemory 85) 0x1000 - 20 = 65 := by decide
  have message := answer.message
  rw [length] at message
  have condition := (reply_verifies_iff emptyScratch (by decide)).mp message
  exact absurd condition.1 (by decide)

end UserspaceXdp.Programs.Xdping
