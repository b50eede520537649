import UserspaceXdp.Checksum.CsumDiff
import UserspaceXdp.Programs.Packet

/-!
Contract: the load balancer `xdp_lb.bpf.c` and its hand-written inline variant
`xdp_lb.bpf.inline.aot.c`.

Owns: the two programs with the hash, the sum and the checksum they compute, and
the exact frames on which they agree.

Does not own: the checksum helper itself. Both programs call
`bpftime_csum_diff_runtime`, each with a scratchpad of its own.
-/

namespace UserspaceXdp.Programs.XdpLb

open UserspaceXdp.Foundation
open UserspaceXdp.Runtime
open UserspaceXdp.Checksum

/-! ## The functions that the two files share -/

structure IpMacPair where
  mac : Vector UInt8 6
  ip : Nat
deriving DecidableEq

def csumReduceHelper (csum : Nat) : Nat :=
  let csum := csum / 2 ^ 16 + csum % 2 ^ 16
  let csum := csum / 2 ^ 16 + csum % 2 ^ 16
  csum % 2 ^ 16

def calculateChecksum (memory : Memory) (data len : Nat) : UInt32 :=
  (List.range len).foldl (fun sum i => sum + (memory (data + i)).toUInt32) 0

section Xxhash

def prime1 : UInt32 := 0x9E3779B1
def prime2 : UInt32 := 0x85EBCA77
def prime3 : UInt32 := 0xC2B2AE3D
def prime4 : UInt32 := 0x27D4EB2F
def prime5 : UInt32 := 0x165667B1

def rotl (x r : UInt32) : UInt32 :=
  (x <<< r) ||| (x >>> (32 - r))

def roundXxhash (acc input : UInt32) : UInt32 :=
  rotl (acc + input * prime2) 13 * prime1

def avalancheStep (h rshift prime : UInt32) : UInt32 :=
  (h ^^^ (h >>> rshift)) * prime

def avalanche (h : UInt32) : UInt32 :=
  avalancheStep (avalancheStep (avalancheStep h 15 prime2) 13 prime3) 16 1

variable (memory : Memory)

def endian32 (v : Nat) : UInt32 :=
  UInt32.ofNat (memory.loadWord v 4)

def fetch32 (p : Nat) (v : UInt32) : UInt32 :=
  roundXxhash v (endian32 memory p)

/-- The last 0 to 15 bytes. -/
def finalize (h : UInt32) (p : Nat) : Nat → UInt32
  | len + 4 => finalize (rotl (h + endian32 memory p * prime3) 17 * prime4) (p + 4) len
  | len + 1 => finalize (rotl (h + (memory p).toUInt32 * prime5) 11 * prime1) (p + 1) len
  | 0 => avalanche h

def h16bytes4 (p : Nat) (v1 v2 v3 v4 : UInt32) : Nat → UInt32
  | len + 16 =>
      h16bytes4 (p + 16) (fetch32 memory p v1) (fetch32 memory (p + 4) v2)
        (fetch32 memory (p + 8) v3) (fetch32 memory (p + 12) v4) len
  | _ => rotl v1 1 + rotl v2 7 + rotl v3 12 + rotl v4 18

def h16bytes3 (p len : Nat) (seed : UInt32) : UInt32 :=
  h16bytes4 memory p (seed + prime1 + prime2) (seed + prime2) seed (seed - prime1) len

def xxhash32 (input len : Nat) (seed : UInt32) : UInt32 :=
  finalize memory
    ((if 16 ≤ len then h16bytes3 memory input len seed else seed + prime5) + UInt32.ofNat len)
    (input + len / 16 * 16) (len % 16)

end Xxhash

def getTargetKey (srcIp srcPort dstPort : Nat) : Nat :=
  (srcIp ^^^ srcPort ^^^ dstPort) &&& 1

/-- `struct hash_and_sum` of the first 60 bytes of a frame. -/
structure HashAndSum where
  sum : UInt32
  xxhash64Res : UInt32
deriving DecidableEq

def hashAndSum (memory : Memory) (data : Nat) : HashAndSum :=
  let sum := calculateChecksum memory data 60
  { sum, xxhash64Res := xxhash32 memory data 60 sum }

/-- `bpf_csum_diff(0, 0, ip, sizeof(struct iphdr), 0)`, over a scratchpad at some
address with some contents. -/
def headerCsumDiff (address : Nat) (stack memory : Memory) (ip : Nat) : Nat :=
  (bpftimeCsumDiffRuntime memory (.fresh address stack) 0 0 ip 20 0).value.getD 0

/-- From the two `memcpy` of the MAC addresses to the IP checksum. -/
def rewriteHeaders (csumDiff : Memory → Nat → Nat) (memory : Memory) (data : Nat)
    (dst src : IpMacPair) : Memory :=
  let ip := data + 14
  let memory := memory.copyFrom data (fun i => dst.mac.toList.getD i 0) 6
  let memory := memory.copyFrom (data + 6) (fun i => src.mac.toList.getD i 0) 6
  let memory := memory.storeWord (ip + 16) (bpfHtonl dst.ip) 4
  let memory := memory.storeWord (ip + 12) (bpfHtonl src.ip) 4
  let memory := memory.storeWord (ip + 10) 0 2
  memory.storeWord (ip + 10) (2 ^ 16 - 1 - csumReduceHelper (csumDiff memory ip % 2 ^ 32)) 2

/-! ## The base program -/

def maxTargetCount : Nat := 64

/-- A lookup in an array map with these contents. -/
def bpfMapLookupElem (map : Nat → IpMacPair) (key : Nat) : Option IpMacPair :=
  if key < maxTargetCount then some (map key) else none

section Base

variable (targetsMap configMap : Nat → IpMacPair)

/-- The choice of `dst` and `src`; none when a lookup fails. -/
def chooseEnds (memory : Memory) (data : Nat) : Option (IpMacPair × IpMacPair) :=
  let ip := data + 14
  let tcp := ip + 20
  if (hashAndSum memory data).xxhash64Res.toNat / 2 ≠ 0 then do
    let key := getTargetKey (memory.loadWord (ip + 12) 4) (memory.loadWord tcp 2)
      (memory.loadWord (tcp + 2) 2)
    let dst ← bpfMapLookupElem targetsMap key
    let src ← bpfMapLookupElem configMap 0
    return (dst, src)
  else do
    let dst ← bpfMapLookupElem configMap 1
    let src ← bpfMapLookupElem configMap 0
    return (dst, src)

def xdpPass (csumDiff : Memory → Nat → Nat) : XdpProgram := fun context memory =>
  let data := context.data
  let dataEnd := context.dataEnd
  let ip := data + 14
  let tcp := ip + 20
  if dataEnd < data + 14 then { verdict := xdpDrop, context, memory }
  else if dataEnd < ip + 20 then { verdict := xdpDrop, context, memory }
  else if memory (ip + 9) = 6 then
    if dataEnd < tcp + 20 then { verdict := xdpDrop, context, memory }
    else
      match bpfMapLookupElem configMap 1 with
      | none => { verdict := xdpAborted, context, memory }
      | some _ =>
          if data + 1200 < dataEnd then { verdict := Runtime.xdpPass, context, memory }
          else if dataEnd < data + 60 then { verdict := Runtime.xdpPass, context, memory }
          else
            match chooseEnds targetsMap configMap memory data with
            | none => { verdict := xdpAborted, context, memory }
            | some (dst, src) =>
                let memory := rewriteHeaders csumDiff memory data dst src
                if data + 1200 < dataEnd then { verdict := Runtime.xdpPass, context, memory }
                else if dataEnd < data + 60 then
                  { verdict := Runtime.xdpPass, context, memory }
                else
                  let res := hashAndSum memory data
                  -- `memcpy` of the struct, over the start of the TCP header
                  let memory := memory.storeWord (ip + 20) res.sum.toNat 4
                  let memory := memory.storeWord (ip + 24) res.xxhash64Res.toNat 4
                  { verdict := xdpTx, context, memory }
  else { verdict := Runtime.xdpPass, context, memory }

end Base

/-! ## The inline variant -/

namespace InlineAot

def hardCodedMac : Vector UInt8 6 := #v[0xb8, 0x3f, 0xd2, 0x2a, 0xe5, 0x11]

def targetsMap : Nat → IpMacPair
  | 0 => { mac := hardCodedMac, ip := 0xc0a80102 }
  | 1 => { mac := hardCodedMac, ip := 0xc0a80103 }
  | _ => { mac := Vector.replicate 6 0, ip := 0 }

def configMap : Nat → IpMacPair
  | 0 => { mac := hardCodedMac, ip := 0xc0a8010b }
  | 1 => { mac := hardCodedMac, ip := 0xc0a8010d }
  | _ => { mac := Vector.replicate 6 0, ip := 0 }

/-- The address of an element is not null. -/
def bpfMapLookupTargetsMap (key : Nat) : Option IpMacPair :=
  some (targetsMap key)

def bpfMapLookupConfigMap (key : Nat) : Option IpMacPair :=
  some (configMap key)

def chooseEnds (memory : Memory) (data : Nat) : Option (IpMacPair × IpMacPair) :=
  let ip := data + 14
  let tcp := ip + 20
  if (hashAndSum memory data).xxhash64Res.toNat / 2 ≠ 0 then do
    let key := getTargetKey (memory.loadWord (ip + 12) 4) (memory.loadWord tcp 2)
      (memory.loadWord (tcp + 2) 2)
    let dst ← bpfMapLookupTargetsMap key
    let src ← bpfMapLookupConfigMap 0
    return (dst, src)
  else do
    let dst ← bpfMapLookupTargetsMap 1
    let src ← bpfMapLookupConfigMap 0
    return (dst, src)

def bpfMain (csumDiff : Memory → Nat → Nat) : XdpProgram := fun context memory =>
  let data := context.data
  let dataEnd := context.dataEnd
  let ip := data + 14
  let tcp := ip + 20
  if dataEnd < data + 14 then { verdict := xdpDrop, context, memory }
  else if dataEnd < ip + 20 then { verdict := xdpDrop, context, memory }
  else if memory (ip + 9) = 6 then
    if dataEnd < tcp + 20 then { verdict := xdpDrop, context, memory }
    else
      match bpfMapLookupConfigMap 1 with
      | none => { verdict := xdpAborted, context, memory }
      | some _ =>
          if data + 1200 < dataEnd then { verdict := Runtime.xdpPass, context, memory }
          else if dataEnd < data + 60 then { verdict := Runtime.xdpPass, context, memory }
          else
            match chooseEnds memory data with
            | none => { verdict := xdpAborted, context, memory }
            | some (dst, src) =>
                { verdict := xdpTx
                  context
                  memory := rewriteHeaders csumDiff memory data dst src }
  else { verdict := Runtime.xdpPass, context, memory }

end InlineAot

/-! ## The two parts of a frame's treatment -/

/-- A frame that is rewritten: TCP, of 60 to 1200 bytes. -/
structure Balanced (context : XdpMdUserspace) (memory : Memory) : Prop where
  tcp : memory (context.data + 23) = 6
  long : context.data + 60 ≤ context.dataEnd
  short : context.dataEnd ≤ context.data + 1200

/-- What the other frames get. -/
def earlyVerdict (context : XdpMdUserspace) (memory : Memory) : Nat :=
  if context.dataEnd < context.data + 34 then xdpDrop
  else if memory (context.data + 23) = 6 ∧ context.dataEnd < context.data + 54 then xdpDrop
  else Runtime.xdpPass

/-- The target of a rewritten frame, by what the branch for small hashes takes. -/
def destination (targets : Nat → IpMacPair) (small : IpMacPair) (memory : Memory)
    (data : Nat) : IpMacPair :=
  if (hashAndSum memory data).xxhash64Res.toNat / 2 ≠ 0 then
    targets (getTargetKey (memory.loadWord (data + 26) 4) (memory.loadWord (data + 34) 2)
      (memory.loadWord (data + 36) 2))
  else small

theorem getTargetKey_lt (srcIp srcPort dstPort : Nat) :
    getTargetKey srcIp srcPort dstPort < 2 := by
  unfold getTargetKey
  have bound := Nat.and_le_right (n := srcIp ^^^ srcPort ^^^ dstPort) (m := 1)
  omega

theorem chooseEnds_eq (targets config : Nat → IpMacPair) (memory : Memory) (data : Nat) :
    chooseEnds targets config memory data =
      some (destination targets (config 1) memory data, config 0) := by
  have lookup {map : Nat → IpMacPair} {key : Nat} (small : key < 2) :
      bpfMapLookupElem map key = some (map key) :=
    if_pos (small.trans (by decide))
  unfold chooseEnds destination
  dsimp only
  split
  · rw [lookup (getTargetKey_lt _ _ _), lookup (by decide)]
    rfl
  · rw [lookup (by decide), lookup (by decide)]
    rfl

theorem InlineAot.chooseEnds_eq (memory : Memory) (data : Nat) :
    chooseEnds memory data =
      some (destination targetsMap (targetsMap 1) memory data, configMap 0) := by
  unfold chooseEnds destination
  dsimp only
  split
  · rfl
  · rfl

section Cases

variable {context : XdpMdUserspace} {memory : Memory} {csumDiff : Memory → Nat → Nat}

/-- The checks that both programs make before they rewrite a frame. -/
def guarded (context : XdpMdUserspace) (memory : Memory) (rewritten : XdpOutcome) : XdpOutcome :=
  if context.dataEnd < context.data + 14 then { verdict := xdpDrop, context, memory }
  else if context.dataEnd < context.data + 34 then { verdict := xdpDrop, context, memory }
  else if memory (context.data + 23) = 6 then
    if context.dataEnd < context.data + 54 then { verdict := xdpDrop, context, memory }
    else if context.data + 1200 < context.dataEnd then
      { verdict := Runtime.xdpPass, context, memory }
    else if context.dataEnd < context.data + 60 then
      { verdict := Runtime.xdpPass, context, memory }
    else rewritten
  else { verdict := Runtime.xdpPass, context, memory }

theorem guarded_of_not_balanced (other : ¬Balanced context memory) (rewritten : XdpOutcome) :
    guarded context memory rewritten =
      { verdict := earlyVerdict context memory, context, memory } := by
  unfold guarded earlyVerdict
  split
  · rw [if_pos (by omega)]
  split
  · rfl
  split
  case isFalse otherProtocol =>
      rw [if_neg (fun both => otherProtocol both.1)]
  case isTrue tcp =>
      split
      · rw [if_pos ⟨tcp, by omega⟩]
      have whole : ¬(memory (context.data + 23) = 6 ∧ context.dataEnd < context.data + 54) := by
        omega
      rw [if_neg whole]
      split
      · rfl
      split
      · rfl
      · exact absurd ⟨tcp, by omega, by omega⟩ other

theorem xdpPass_eq_guarded (targets config : Nat → IpMacPair)
    (csumDiff : Memory → Nat → Nat) (context : XdpMdUserspace) (memory : Memory) :
    ∃ rewritten, xdpPass targets config csumDiff context memory =
      guarded context memory rewritten := by
  have config1 : bpfMapLookupElem config 1 = some (config 1) := rfl
  unfold xdpPass guarded
  simp only [Nat.add_assoc, Nat.reduceAdd, config1]
  exact ⟨_, rfl⟩

theorem xdpPass_of_not_balanced (targets config : Nat → IpMacPair)
    (other : ¬Balanced context memory) :
    xdpPass targets config csumDiff context memory =
      { verdict := earlyVerdict context memory, context, memory } := by
  have ⟨rewritten, equal⟩ := xdpPass_eq_guarded targets config csumDiff context memory
  rw [equal, guarded_of_not_balanced other]

theorem xdpPass_of_balanced (targets config : Nat → IpMacPair)
    (balanced : Balanced context memory) :
    let rewritten := rewriteHeaders csumDiff memory context.data
      (destination targets (config 1) memory context.data) (config 0)
    let res := hashAndSum rewritten context.data
    xdpPass targets config csumDiff context memory =
      { verdict := xdpTx
        context
        memory := (rewritten.storeWord (context.data + 34) res.sum.toNat 4).storeWord
          (context.data + 38) res.xxhash64Res.toNat 4 } := by
  have ⟨tcp, long, short⟩ := balanced
  have config1 : bpfMapLookupElem config 1 = some (config 1) := rfl
  intro rewritten res
  unfold xdpPass
  simp only [Nat.add_assoc, Nat.reduceAdd, config1, chooseEnds_eq]
  rw [if_neg (by omega), if_neg (by omega), if_pos tcp, if_neg (by omega), if_neg (by omega),
    if_neg (by omega), if_neg (by omega), if_neg (by omega)]

theorem InlineAot.bpfMain_eq_guarded (csumDiff : Memory → Nat → Nat)
    (context : XdpMdUserspace) (memory : Memory) :
    ∃ rewritten, bpfMain csumDiff context memory = guarded context memory rewritten := by
  unfold bpfMain guarded
  simp only [Nat.add_assoc, Nat.reduceAdd, bpfMapLookupConfigMap]
  exact ⟨_, rfl⟩

theorem InlineAot.bpfMain_of_not_balanced (other : ¬Balanced context memory) :
    bpfMain csumDiff context memory =
      { verdict := earlyVerdict context memory, context, memory } := by
  have ⟨rewritten, equal⟩ := bpfMain_eq_guarded csumDiff context memory
  rw [equal, guarded_of_not_balanced other]

theorem InlineAot.bpfMain_of_balanced (balanced : Balanced context memory) :
    bpfMain csumDiff context memory =
      { verdict := xdpTx
        context
        memory := rewriteHeaders csumDiff memory context.data
          (destination targetsMap (targetsMap 1) memory context.data) (configMap 0) } := by
  have ⟨tcp, long, short⟩ := balanced
  unfold bpfMain
  simp only [Nat.add_assoc, Nat.reduceAdd, bpfMapLookupConfigMap, chooseEnds_eq]
  rw [if_neg (by omega), if_neg (by omega), if_pos tcp, if_neg (by omega), if_neg (by omega),
    if_neg (by omega)]

end Cases

/-! ## What the rewriting does -/

/-- The helper returns the sum of the header, wherever its scratchpad is. -/
theorem headerCsumDiff_eq (address : Nat) (stack memory : Memory) (ip : Nat) :
    headerCsumDiff address stack memory ip = csumPartial memory ip 20 0 := by
  have sum : (bpftimeCsumDiffRuntime memory (.fresh address stack) 0 0 ip 20 0).value =
      some (csumPartial memory ip 20 0) :=
    csumDiffRuntime_region (by decide : 5 ≤ 128) memory stack address ip 0
  rw [headerCsumDiff, sum, Option.getD_some]

theorem rewriteHeaders_congr {left right : Memory → Nat → Nat}
    (same : ∀ memory ip, left memory ip = right memory ip) (memory : Memory) (data : Nat)
    (dst src : IpMacPair) :
    rewriteHeaders left memory data dst src = rewriteHeaders right memory data dst src := by
  unfold rewriteHeaders
  dsimp only
  rw [same]

/-- The MAC addresses, the IP checksum and the IP addresses are written. -/
theorem rewriteHeaders_other (csumDiff : Memory → Nat → Nat) (memory : Memory)
    {data candidate : Nat} (dst src : IpMacPair)
    (outside : candidate < data ∨ data + 12 ≤ candidate ∧ candidate < data + 24 ∨
      data + 34 ≤ candidate) :
    rewriteHeaders csumDiff memory data dst src candidate = memory candidate := by
  unfold rewriteHeaders
  rw [Memory.storeWord_other _ (by omega), Memory.storeWord_other _ (by omega),
    Memory.storeWord_other _ (by omega), Memory.storeWord_other _ (by omega),
    Memory.copyFrom_other _ (by omega), Memory.copyFrom_other _ (by omega)]

/-- The destination address. -/
theorem rewriteHeaders_daddr (csumDiff : Memory → Nat → Nat) (memory : Memory) (data : Nat)
    (dst src : IpMacPair) :
    (rewriteHeaders csumDiff memory data dst src).loadWord (data + 30) 4 =
      bpfHtonl dst.ip % 2 ^ 32 := by
  unfold rewriteHeaders
  dsimp only
  rw [Memory.loadWord_storeWord_other _ (by omega), Memory.loadWord_storeWord_other _ (by omega),
    Memory.loadWord_storeWord_other _ (by omega)]
  exact Memory.loadWord_storeWord _ (data + 30) _ 4

/-! ## Agreement -/

/-- The same verdict, and the same bytes in the packet. -/
structure SameResult (context : XdpMdUserspace) (left right : XdpOutcome) : Prop where
  verdict : left.verdict = right.verdict
  packet : left.memory.bytes context.data (context.dataEnd - context.data) =
    right.memory.bytes context.data (context.dataEnd - context.data)

/-- The frame with the addresses of its target and of the load balancer, and the
checksum of its new IP header. -/
def addressed (memory : Memory) (data : Nat) : Memory :=
  rewriteHeaders (fun memory ip => csumPartial memory ip 20 0) memory data
    (InlineAot.targetsMap (getTargetKey (memory.loadWord (data + 26) 4)
      (memory.loadWord (data + 34) 2) (memory.loadWord (data + 36) 2)))
    (InlineAot.configMap 0)

/-- The hash of the frame is not 0 or 1, and its bytes 34 to 41 are the sum and
the hash that the frame has once it is addressed. -/
structure Settled (memory : Memory) (data : Nat) : Prop where
  large : 2 ≤ (hashAndSum memory data).xxhash64Res.toNat
  sum : memory.loadWord (data + 34) 4 = (hashAndSum (addressed memory data) data).sum.toNat
  hash : memory.loadWord (data + 38) 4 =
    (hashAndSum (addressed memory data) data).xxhash64Res.toNat

/-- Two results that are the same have the same words in the packet. -/
theorem SameResult.loadWord {context : XdpMdUserspace} {left right : XdpOutcome}
    (same : SameResult context left right) {offset width : Nat}
    (inside : context.data + offset + width ≤ context.dataEnd) :
    left.memory.loadWord (context.data + offset) width =
      right.memory.loadWord (context.data + offset) width := by
  have bytes := Memory.bytes_eq_iff.mp same.packet
  apply Memory.loadWord_congr
  intro candidate lower upper
  have equal := bytes (candidate - context.data) (by omega)
  have position : context.data + (candidate - context.data) = candidate := by omega
  rwa [position] at equal

section Frames

variable {memory : Memory} {data : Nat}

/-- A frame with a hash of 2 or more is addressed to the target of its key. -/
theorem addressed_of_large (large : 2 ≤ (hashAndSum memory data).xxhash64Res.toNat)
    (address : Nat) (stack : Memory) (small : IpMacPair) :
    rewriteHeaders (headerCsumDiff address stack) memory data
        (destination InlineAot.targetsMap small memory data) (InlineAot.configMap 0) =
      addressed memory data := by
  have taken : (hashAndSum memory data).xxhash64Res.toNat / 2 ≠ 0 := by omega
  rw [destination, if_pos taken]
  exact rewriteHeaders_congr (headerCsumDiff_eq address stack) memory data _ _

/-- What follows the IP header is as received. -/
theorem addressed_payload {offset : Nat} (behind : 34 ≤ offset) (width : Nat) :
    (addressed memory data).loadWord (data + offset) width =
      memory.loadWord (data + offset) width :=
  Memory.loadWord_congr fun _ lower _ => rewriteHeaders_other _ memory _ _ (by omega)

/-- The branch for small hashes addresses the frame to another entry. -/
theorem daddr_of_small (small : (hashAndSum memory data).xxhash64Res.toNat < 2)
    (csumDiff : Memory → Nat → Nat) (other src : IpMacPair) :
    (rewriteHeaders csumDiff memory data
        (destination InlineAot.targetsMap other memory data) src).loadWord (data + 30) 4 =
      bpfHtonl other.ip % 2 ^ 32 := by
  have skipped : ¬(hashAndSum memory data).xxhash64Res.toNat / 2 ≠ 0 := by omega
  rw [destination, if_neg skipped, rewriteHeaders_daddr]

/-- A 32-bit value is read back whole. -/
theorem loadWord_storeWord_toNat (memory : Memory) (address : Nat) (value : UInt32) :
    (memory.storeWord address value.toNat 4).loadWord address 4 = value.toNat := by
  rw [Memory.loadWord_storeWord]
  exact Nat.mod_eq_of_lt value.toNat_lt

end Frames

section Agreement

variable {context : XdpMdUserspace} {memory : Memory}
variable {address inlineAddress : Nat} {stack inlineStack : Memory}

theorem Settled.of_sameResult (balanced : Balanced context memory)
    (same : SameResult context
      (xdpPass InlineAot.targetsMap InlineAot.configMap (headerCsumDiff address stack)
        context memory)
      (InlineAot.bpfMain (headerCsumDiff inlineAddress inlineStack) context memory)) :
    Settled memory context.data := by
  have long := balanced.long
  rw [xdpPass_of_balanced _ _ balanced, InlineAot.bpfMain_of_balanced balanced] at same
  have large : 2 ≤ (hashAndSum memory context.data).xxhash64Res.toNat := by
    by_contra small
    have daddr := same.loadWord (by omega : context.data + 30 + 4 ≤ context.dataEnd)
    dsimp only at daddr
    rw [Memory.loadWord_storeWord_other _ (by omega),
      Memory.loadWord_storeWord_other _ (by omega), daddr_of_small (by omega),
      daddr_of_small (by omega)] at daddr
    exact absurd daddr (by decide)
  rw [addressed_of_large large, addressed_of_large large] at same
  constructor
  · exact large
  · have sum := same.loadWord (by omega : context.data + 34 + 4 ≤ context.dataEnd)
    dsimp only at sum
    rw [Memory.loadWord_storeWord_other _ (by omega), loadWord_storeWord_toNat,
      addressed_payload (by decide)] at sum
    exact sum.symm
  · have hash := same.loadWord (by omega : context.data + 38 + 4 ≤ context.dataEnd)
    dsimp only at hash
    rw [loadWord_storeWord_toNat, addressed_payload (by decide)] at hash
    exact hash.symm

/-- The stores at the end change nothing in a settled frame. -/
theorem Settled.sameResult (balanced : Balanced context memory)
    (settled : Settled memory context.data) :
    SameResult context
      (xdpPass InlineAot.targetsMap InlineAot.configMap (headerCsumDiff address stack)
        context memory)
      (InlineAot.bpfMain (headerCsumDiff inlineAddress inlineStack) context memory) := by
  have ⟨large, sum, hash⟩ := settled
  rw [xdpPass_of_balanced _ _ balanced, InlineAot.bpfMain_of_balanced balanced,
    addressed_of_large large, addressed_of_large large]
  rw [← sum, ← hash, ← addressed_payload (by decide : 34 ≤ 34), Memory.storeWord_loadWord,
    ← addressed_payload (by decide : 34 ≤ 38), Memory.storeWord_loadWord]
  exact ⟨rfl, rfl⟩

end Agreement

/-- The base program, with the hard-coded entries in its maps, and the inline
variant agree on a frame exactly when it is not one that they rewrite, or when it
is settled. -/
theorem xdpLb_variants_agree_iff (address inlineAddress : Nat) (stack inlineStack : Memory)
    (context : XdpMdUserspace) (memory : Memory) :
    SameResult context
        (xdpPass InlineAot.targetsMap InlineAot.configMap (headerCsumDiff address stack)
          context memory)
        (InlineAot.bpfMain (headerCsumDiff inlineAddress inlineStack) context memory) ↔
      ¬Balanced context memory ∨ Settled memory context.data := by
  by_cases balanced : Balanced context memory
  · constructor
    · intro same
      exact Or.inr (Settled.of_sameResult balanced same)
    · intro condition
      exact (condition.resolve_left (absurd balanced)).sameResult balanced
  · constructor
    · intro _
      exact Or.inl balanced
    · intro _
      rw [xdpPass_of_not_balanced _ _ balanced, InlineAot.bpfMain_of_not_balanced balanced]
      exact ⟨rfl, rfl⟩

/-- A TCP frame of 60 bytes that are otherwise zero. -/
theorem xdpLb_variants_differ :
    ¬SameResult ⟨0, 60, 0, 0, 0, 0, 0, 0⟩
      (xdpPass InlineAot.targetsMap InlineAot.configMap (headerCsumDiff 4096 fun _ => 0)
        ⟨0, 60, 0, 0, 0, 0, 0, 0⟩ fun address => if address = 23 then 6 else 0)
      (InlineAot.bpfMain (headerCsumDiff 4096 fun _ => 0) ⟨0, 60, 0, 0, 0, 0, 0, 0⟩
        fun address => if address = 23 then 6 else 0) := by
  intro same
  have settled := Settled.of_sameResult ⟨rfl, by decide, by decide⟩ same
  exact absurd settled.sum (by decide +kernel)

end UserspaceXdp.Programs.XdpLb
