import UserspaceXdp.Checksum.Header
import UserspaceXdp.Programs.XdpHashSum
import UserspaceXdp.Programs.XdpLb

/-!
Contract: what `xdp_lb.bpf.c` makes of the frames it forwards, and where it
sends the frames of one flow.

Owns: the rewritten frame byte by byte, with the sum of its first 60 bytes and their
XXH32 hash, frames that are left alone, and when two frames of one flow go to one entry
of `targets_map`.

Does not own: the inline variant of the program.

A frame whose first 60 bytes hash to 0 or 1 is sent to the second entry of
`config_map`, whatever its flow.
-/

namespace UserspaceXdp.Programs.XdpLb

open UserspaceXdp.Foundation
open UserspaceXdp.Runtime
open UserspaceXdp.Checksum

/-! ## The sum and the hash

`xdp_hash_sum.bpf.c` has the same functions. -/

section Hash

variable (memory : Memory)

theorem endian32_eq (v : Nat) : endian32 memory v = XdpHashSum.endian32 memory v := by
  apply UInt32.toNat_inj.mp
  rw [XdpHashSum.endian32_eq, endian32, UInt32.toNat_ofNat']
  exact Nat.mod_eq_of_lt (memory.loadWord_lt v 4)

theorem finalize_eq (h : UInt32) (p len : Nat) :
    finalize memory h p len = XdpHashSum.finalize memory h p len := by
  fun_induction finalize memory h p len with
  | case1 h p len inductionHypothesis =>
      rw [inductionHypothesis, endian32_eq, XdpHashSum.finalize]
      rfl
  | case2 h p len short inductionHypothesis =>
      rw [inductionHypothesis, XdpHashSum.finalize]
      · rfl
      · exact short
  | case3 h p => rfl

theorem h16bytes4_eq (p : Nat) (v1 v2 v3 v4 : UInt32) (len : Nat) :
    h16bytes4 memory p v1 v2 v3 v4 len = XdpHashSum.h16bytes4 memory v1 v2 v3 v4 p len := by
  have fetch (p : Nat) (v : UInt32) : fetch32 memory p v = XdpHashSum.fetch32 memory p v := by
    rw [fetch32, endian32_eq]
    rfl
  fun_induction h16bytes4 memory p v1 v2 v3 v4 len with
  | case1 p v1 v2 v3 v4 len inductionHypothesis =>
      rw [inductionHypothesis, fetch, fetch, fetch, fetch, XdpHashSum.h16bytes4]
  | case2 p v1 v2 v3 v4 len short =>
      rw [XdpHashSum.h16bytes4]
      · rfl
      · exact short

/-- The program computes XXH32 of the bytes it is given. -/
theorem xxhash32_toBitVec (input len : Nat) (seed : UInt32) :
    (xxhash32 memory input len seed).toBitVec =
      XxHash.hash seed.toBitVec (memory.bytes input len) := by
  rw [← XdpHashSum.xxhash32_toBitVec, xxhash32, finalize_eq, h16bytes3, h16bytes4_eq]
  rfl

/-- The sum of 60 bytes does not overflow. -/
theorem calculateChecksum_toNat (data : Nat) :
    (calculateChecksum memory data 60).toNat = XxHash.byteSum (memory.bytes data 60) := by
  have bound := XxHash.byteSum_le (memory.bytes data 60)
  rw [Memory.length_bytes] at bound
  exact (XdpHashSum.calculateChecksum_toNat memory data 60).trans (Nat.mod_eq_of_lt (by omega))

/-- The hash of the first 60 bytes is seeded with their sum. -/
theorem hashAndSum_hash (data : Nat) :
    (hashAndSum memory data).xxhash64Res.toBitVec =
      XxHash.hash (BitVec.ofNat 32 (calculateChecksum memory data 60).toNat)
        (memory.bytes data 60) := by
  have seed (sum : UInt32) : BitVec.ofNat 32 sum.toNat = sum.toBitVec :=
    (BitVec.ofNat_toNat 32 sum.toBitVec).trans (BitVec.setWidth_eq _)
  rw [hashAndSum, xxhash32_toBitVec, seed]

end Hash

/-! ## Rewritten frames -/

section Headers

variable (address : Nat) (stack memory : Memory) (data : Nat) (dst src : IpMacPair)

theorem csumReduceHelper_eq {csum : Nat} (small : csum < 2 ^ 16) :
    csumReduceHelper csum = csum := by
  unfold csumReduceHelper
  dsimp only
  omega

theorem rewriteHeaders_verifies :
    RegionVerifies (rewriteHeaders (headerCsumDiff address stack) memory data dst src)
      (data + 14) 10 := by
  unfold rewriteHeaders
  dsimp only
  generalize ((((memory.copyFrom data (fun i => dst.mac.toList.getD i 0) 6).copyFrom (data + 6)
      (fun i => src.mac.toList.getD i 0) 6).storeWord (data + 14 + 16) (bpfHtonl dst.ip)
      4).storeWord (data + 14 + 12) (bpfHtonl src.ip) 4) = filled
  have small := csumPartial_zero_lt (filled.storeWord (data + 14 + 10) 0 2) (data + 14) 20
  have cleared : (filled.storeWord (data + 14 + 10) 0 2).loadWord (data + 14 + 2 * 5) 2 = 0 :=
    Memory.loadWord_storeWord ..
  have summed := csumPartial_zero_onesEq (filled.storeWord (data + 14 + 10) 0 2) (data + 14) 10
  rw [headerCsumDiff_eq, Nat.mod_eq_of_lt (by omega), csumReduceHelper_eq small]
  exact regionVerifies_complement (by decide : 5 < 10) cleared small summed

theorem rewriteHeaders_destination (csumDiff : Memory → Nat → Nat) :
    (rewriteHeaders csumDiff memory data dst src).bytes (data + 30) 4 = networkBytes dst.ip := by
  unfold rewriteHeaders
  dsimp only
  refine Eq.trans ?_ (bytes_storeWord_bpfHtonl
    ((memory.copyFrom data (fun i => dst.mac.toList.getD i 0) 6).copyFrom (data + 6)
      (fun i => src.mac.toList.getD i 0) 6) (data + 30) dst.ip)
  apply Memory.bytes_congr
  intro candidate lower upper
  rw [Memory.storeWord_other _ (by omega), Memory.storeWord_other _ (by omega),
    Memory.storeWord_other _ (by omega)]

theorem rewriteHeaders_source (csumDiff : Memory → Nat → Nat) :
    (rewriteHeaders csumDiff memory data dst src).bytes (data + 26) 4 = networkBytes src.ip := by
  unfold rewriteHeaders
  dsimp only
  refine Eq.trans ?_ (bytes_storeWord_bpfHtonl
    (((memory.copyFrom data (fun i => dst.mac.toList.getD i 0) 6).copyFrom (data + 6)
      (fun i => src.mac.toList.getD i 0) 6).storeWord (data + 30) (bpfHtonl dst.ip) 4)
    (data + 26) src.ip)
  apply Memory.bytes_congr
  intro candidate lower upper
  rw [Memory.storeWord_other _ (by omega), Memory.storeWord_other _ (by omega)]

theorem rewriteHeaders_mac (csumDiff : Memory → Nat → Nat) :
    (rewriteHeaders csumDiff memory data dst src).bytes data 6 = dst.mac.toList := by
  apply bytes_eq_toList
  intro index below
  unfold rewriteHeaders
  rw [Memory.storeWord_other _ (by omega), Memory.storeWord_other _ (by omega),
    Memory.storeWord_other _ (by omega), Memory.storeWord_other _ (by omega),
    Memory.copyFrom_other _ (by omega), Memory.copyFrom_inside _ _ _ below]

end Headers

/-- The frame as it was before its bytes 34 to 41 were replaced. -/
def beforeStore (received forwarded : Memory) (data : Nat) : Memory := fun address =>
  if data + 34 ≤ address ∧ address < data + 42 then received address else forwarded address

/-- What is forwarded for a received frame: addressed from `src` to `dst` by a
header that verifies, with the sum and the hash of the rewritten frame behind
it, and otherwise as received. -/
structure Forwarded (received forwarded : Memory) (data : Nat) (dst src : IpMacPair) : Prop where
  header : RegionVerifies forwarded (data + 14) 10
  source : forwarded.bytes (data + 26) 4 = networkBytes src.ip
  destination : forwarded.bytes (data + 30) 4 = networkBytes dst.ip
  sum : forwarded.loadWord (data + 34) 4 =
    XxHash.byteSum ((beforeStore received forwarded data).bytes data 60)
  hash : forwarded.loadWord (data + 38) 4 =
    (XxHash.hash
      (BitVec.ofNat 32 (XxHash.byteSum ((beforeStore received forwarded data).bytes data 60)))
      ((beforeStore received forwarded data).bytes data 60)).toNat
  other : ∀ address, address < data ∨ data + 12 ≤ address ∧ address < data + 24 ∨
    data + 42 ≤ address → forwarded address = received address

section Forwarding

variable (targets config : Nat → IpMacPair) (address : Nat) (stack : Memory)
variable {context : XdpMdUserspace} {memory : Memory}

/-- The last store of the program. -/
def storeResult (rewritten : Memory) (data : Nat) : Memory :=
  (rewritten.storeWord (data + 34) (hashAndSum rewritten data).sum.toNat 4).storeWord (data + 38)
    (hashAndSum rewritten data).xxhash64Res.toNat 4

theorem storeResult_other (rewritten : Memory) {data candidate : Nat}
    (outside : candidate < data + 34 ∨ data + 42 ≤ candidate) :
    storeResult rewritten data candidate = rewritten candidate := by
  unfold storeResult
  rw [Memory.storeWord_other _ (by omega), Memory.storeWord_other _ (by omega)]

theorem beforeStore_storeResult (received : Memory) (data : Nat) (dst src : IpMacPair)
    (csumDiff : Memory → Nat → Nat) :
    beforeStore received
        (storeResult (rewriteHeaders csumDiff received data dst src) data) data =
      rewriteHeaders csumDiff received data dst src := by
  funext candidate
  unfold beforeStore
  split
  · rw [rewriteHeaders_other csumDiff received dst src (by omega)]
  · rw [storeResult_other _ (by omega)]

theorem forwarded_storeResult (received : Memory) (data : Nat) (dst src : IpMacPair) :
    Forwarded received
      (storeResult (rewriteHeaders (headerCsumDiff address stack) received data dst src) data) data
      dst src := by
  have restored := beforeStore_storeResult received data dst src (headerCsumDiff address stack)
  have front {candidate : Nat} (below : candidate < data + 34) :=
    storeResult_other (rewriteHeaders (headerCsumDiff address stack) received data dst src)
      (Or.inl below)
  exact
    { header := (RegionVerifies.congr fun candidate _ upper => front (by omega)).mpr
        (rewriteHeaders_verifies address stack received data dst src)
      source := (Memory.bytes_congr fun candidate _ upper => front (by omega)).trans
        (rewriteHeaders_source received data dst src _)
      destination := (Memory.bytes_congr fun candidate _ upper => front (by omega)).trans
        (rewriteHeaders_destination received data dst src _)
      sum := by
        rw [restored]
        unfold storeResult
        rw [Memory.loadWord_storeWord_other _ (by omega), loadWord_storeWord_toNat]
        exact calculateChecksum_toNat _ _
      hash := by
        rw [restored, ← calculateChecksum_toNat]
        unfold storeResult
        rw [loadWord_storeWord_toNat]
        exact congrArg BitVec.toNat (hashAndSum_hash _ _)
      other := by
        intro candidate outside
        rw [storeResult_other _ (by omega), rewriteHeaders_other _ received dst src (by omega)] }

theorem xdpPass_forwards (balanced : Balanced context memory) :
    xdpPass targets config (headerCsumDiff address stack) context memory =
      { verdict := xdpTx
        context
        memory := storeResult
          (rewriteHeaders (headerCsumDiff address stack) memory context.data
            (destination targets (config 1) memory context.data) (config 0)) context.data } :=
  xdpPass_of_balanced targets config balanced

theorem balanced_of_xdpTx
    (sent : (xdpPass targets config (headerCsumDiff address stack) context memory).verdict =
      xdpTx) : Balanced context memory := by
  by_contra other
  rw [xdpPass_of_not_balanced targets config other] at sent
  unfold earlyVerdict at sent
  dsimp only at sent
  split at sent
  · cases sent
  · split at sent
    · cases sent
    · cases sent

/-- Every frame that is sent is of 60 to 1200 bytes, keeps its length and is
forwarded as it should be; every other frame is left alone. -/
theorem xdpLb_rewrites_soundly (context : XdpMdUserspace) (memory : Memory) :
    let outcome := xdpPass targets config (headerCsumDiff address stack) context memory
    if outcome.verdict = xdpTx then
      outcome.context = context ∧
        context.data + 60 ≤ context.dataEnd ∧ context.dataEnd ≤ context.data + 1200 ∧
        Forwarded memory outcome.memory context.data
          (destination targets (config 1) memory context.data) (config 0)
    else outcome.memory = memory := by
  intro outcome
  by_cases balanced : Balanced context memory
  · have forwards : outcome = _ := xdpPass_forwards targets config address stack balanced
    rw [forwards, if_pos rfl]
    exact ⟨rfl, balanced.long, balanced.short,
      forwarded_storeResult address stack memory context.data _ _⟩
  · have kept : outcome = _ := xdpPass_of_not_balanced targets config balanced
    have unsent : ¬ outcome.verdict = xdpTx :=
      fun sent => balanced (balanced_of_xdpTx targets config address stack sent)
    rw [if_neg unsent, kept]

end Forwarding

/-! ## Flows -/

/-- The frame goes to this entry: its destination MAC and IP address. -/
def SentTo (forwarded : Memory) (data : Nat) (target : IpMacPair) : Prop :=
  forwarded.bytes data 6 = target.mac.toList ∧
    forwarded.bytes (data + 30) 4 = networkBytes target.ip

/-- Two entries that a frame cannot tell apart: the same MAC address and the same
32 bits of an IP address. -/
def SameTarget (left right : IpMacPair) : Prop :=
  left.mac = right.mac ∧ networkBytes left.ip = networkBytes right.ip

theorem SentTo.iff_sameTarget {forwarded : Memory} {data : Nat} {target : IpMacPair}
    (sent : SentTo forwarded data target) (other : IpMacPair) :
    SentTo forwarded data other ↔ SameTarget target other := by
  unfold SentTo SameTarget
  rw [sent.1, sent.2, Vector.toList_inj]

/-- Both frames go to one entry of `targets_map`. -/
def SameBackend (targets : Nat → IpMacPair) (left : Memory) (leftData : Nat) (right : Memory)
    (rightData : Nat) : Prop :=
  ∃ key < maxTargetCount, SentTo left leftData (targets key) ∧ SentTo right rightData (targets key)

/-- The key of the flow that a frame belongs to. -/
def flowKey (memory : Memory) (data : Nat) : Nat :=
  getTargetKey (memory.loadWord (data + 26) 4) (memory.loadWord (data + 34) 2)
    (memory.loadWord (data + 36) 2)

/-- The same source address and the same ports. -/
structure SameFlow (left : Memory) (leftData : Nat) (right : Memory) (rightData : Nat) : Prop where
  sourceAddress : left.loadWord (leftData + 26) 4 = right.loadWord (rightData + 26) 4
  sourcePort : left.loadWord (leftData + 34) 2 = right.loadWord (rightData + 34) 2
  destinationPort : left.loadWord (leftData + 36) 2 = right.loadWord (rightData + 36) 2

/-- The branch for small hashes is taken. -/
def SmallHash (memory : Memory) (data : Nat) : Prop :=
  (hashAndSum memory data).xxhash64Res.toNat < 2

/-- No frame of the two hashes to 0 or 1; or both do and the second entry of
`config_map` is also one of `targets_map`; or one does and that entry is also the
target of the flow. -/
def Undiverted (targets config : Nat → IpMacPair) (left : Memory) (leftData : Nat)
    (right : Memory) (rightData : Nat) : Prop :=
  (¬ SmallHash left leftData ∧ ¬ SmallHash right rightData) ∨
    (SmallHash left leftData ∧ SmallHash right rightData ∧
      ∃ key < maxTargetCount, SameTarget (config 1) (targets key)) ∨
    (¬ (SmallHash left leftData ↔ SmallHash right rightData) ∧
      SameTarget (config 1) (targets (flowKey left leftData)))

section Affinity

variable {targets config : Nat → IpMacPair} {memory : Memory} {data : Nat}

theorem destination_of_large (small : IpMacPair) (large : ¬ SmallHash memory data) :
    destination targets small memory data = targets (flowKey memory data) := by
  have taken : (hashAndSum memory data).xxhash64Res.toNat / 2 ≠ 0 := by
    unfold SmallHash at large
    omega
  rw [destination, if_pos taken]
  rfl

theorem destination_of_small (other : IpMacPair) (small : SmallHash memory data) :
    destination targets other memory data = other := by
  have skipped : ¬ (hashAndSum memory data).xxhash64Res.toNat / 2 ≠ 0 := by
    unfold SmallHash at small
    omega
  rw [destination, if_neg skipped]

/-- A frame that is sent goes to its destination. -/
theorem sentTo_destination {address : Nat} {stack : Memory} {context : XdpMdUserspace}
    (sent : (xdpPass targets config (headerCsumDiff address stack) context memory).verdict =
      xdpTx) :
    SentTo (xdpPass targets config (headerCsumDiff address stack) context memory).memory
      context.data (destination targets (config 1) memory context.data) := by
  have balanced := balanced_of_xdpTx targets config address stack sent
  rw [xdpPass_forwards targets config address stack balanced]
  constructor
  · exact (Memory.bytes_congr fun candidate _ upper => storeResult_other _ (by omega)).trans
      (rewriteHeaders_mac memory context.data _ _ _)
  · exact (Memory.bytes_congr fun candidate _ upper => storeResult_other _ (by omega)).trans
      (rewriteHeaders_destination memory context.data _ _ _)

theorem flowKey_lt (memory : Memory) (data : Nat) : flowKey memory data < maxTargetCount :=
  (getTargetKey_lt _ _ _).trans (by decide)

theorem SameFlow.flowKey_eq {left right : Memory} {leftData rightData : Nat}
    (flow : SameFlow left leftData right rightData) :
    flowKey left leftData = flowKey right rightData := by
  rw [flowKey, flow.sourceAddress, flow.sourcePort, flow.destinationPort]
  rfl

/-- One entry of `targets_map` serves both if and only if it serves the flow's
own entry and the other one. -/
theorem exists_common_target_iff (key : Nat) (within : key < maxTargetCount) (other : IpMacPair) :
    (∃ candidate < maxTargetCount, SameTarget (targets key) (targets candidate) ∧
        SameTarget other (targets candidate)) ↔
      SameTarget other (targets key) := by
  constructor
  · rintro ⟨candidate, -, own, foreign⟩
    exact ⟨foreign.1.trans own.1.symm, foreign.2.trans own.2.symm⟩
  · intro same
    exact ⟨key, within, ⟨rfl, rfl⟩, same⟩

end Affinity

/-- Two frames of one flow that are both sent go to one entry of `targets_map`
exactly if neither is diverted by its hash, or the diversion leads there too. -/
theorem xdpLb_flow_affinity_iff (targets config : Nat → IpMacPair) (address : Nat)
    (stack : Memory) (leftContext rightContext : XdpMdUserspace) (left right : Memory)
    (flow : SameFlow left leftContext.data right rightContext.data)
    (leftSent : (xdpPass targets config (headerCsumDiff address stack) leftContext left).verdict =
      xdpTx)
    (rightSent : (xdpPass targets config (headerCsumDiff address stack) rightContext
      right).verdict = xdpTx) :
    SameBackend targets
        (xdpPass targets config (headerCsumDiff address stack) leftContext left).memory
        leftContext.data
        (xdpPass targets config (headerCsumDiff address stack) rightContext right).memory
        rightContext.data ↔
      Undiverted targets config left leftContext.data right rightContext.data := by
  have within := flowKey_lt left leftContext.data
  unfold SameBackend
  simp only [(sentTo_destination leftSent).iff_sameTarget,
    (sentTo_destination rightSent).iff_sameTarget]
  unfold Undiverted
  by_cases leftSmall : SmallHash left leftContext.data
  · rw [destination_of_small _ leftSmall]
    by_cases rightSmall : SmallHash right rightContext.data
    · rw [destination_of_small _ rightSmall]
      simp only [leftSmall, rightSmall, not_true_eq_false, false_and, true_and, and_self,
        or_false, false_or]
    · rw [destination_of_large _ rightSmall, ← flow.flowKey_eq]
      simp only [leftSmall, rightSmall, not_true_eq_false, false_and, true_and, false_or,
        not_false_eq_true, and_comm (a := SameTarget (config 1) _)]
      rw [exists_common_target_iff _ within]
      simp
  · rw [destination_of_large _ leftSmall]
    by_cases rightSmall : SmallHash right rightContext.data
    · rw [destination_of_small _ rightSmall, exists_common_target_iff _ within]
      simp [leftSmall, rightSmall]
    · rw [destination_of_large _ rightSmall, ← flow.flowKey_eq]
      simp only [leftSmall, rightSmall, not_false_eq_true, and_self, true_or, iff_true]
      exact ⟨_, within, rfl, rfl⟩

/-- A TCP frame of 60 bytes with these last five, and zeros elsewhere. -/
def payloadFrame (payload : List UInt8) : Memory := fun address =>
  if address = 23 then 6 else if address < 55 then 0 else payload.getD (address - 55) 0

def payloadContext : XdpMdUserspace := ⟨0, 60, 0, 0, 0, 0, 0, 60⟩

/-- One backend in `targets_map`, and another host in `config_map`. -/
def backends : Nat → IpMacPair := fun _ => ⟨#v[2, 0, 0, 0, 0, 1], 0x0a000001⟩
def hosts : Nat → IpMacPair := fun _ => ⟨#v[2, 0, 0, 0, 0, 2], 0x0a000002⟩

theorem payloadFrame_sent (payload : List UInt8) :
    (xdpPass backends hosts (headerCsumDiff 4096 fun _ => 0) payloadContext
      (payloadFrame payload)).verdict = xdpTx := by
  have balanced : Balanced payloadContext (payloadFrame payload) :=
    ⟨rfl, Nat.le_refl 60, by decide⟩
  rw [xdpPass_forwards backends hosts 4096 _ balanced]

theorem payloadFrame_sameFlow (left right : List UInt8) :
    SameFlow (payloadFrame left) payloadContext.data (payloadFrame right) payloadContext.data :=
  ⟨rfl, rfl, rfl⟩

/-- Two payloads that are not diverted. -/
theorem plain_payloads_share_backend :
    SameBackend backends
      (xdpPass backends hosts (headerCsumDiff 4096 fun _ => 0) payloadContext
        (payloadFrame [])).memory 0
      (xdpPass backends hosts (headerCsumDiff 4096 fun _ => 0) payloadContext
        (payloadFrame [1])).memory 0 := by
  apply (xdpLb_flow_affinity_iff backends hosts 4096 (fun _ => 0) payloadContext payloadContext
    (payloadFrame []) (payloadFrame [1]) (payloadFrame_sameFlow _ _) (payloadFrame_sent _)
    (payloadFrame_sent _)).mpr
  refine Or.inl ⟨?_, ?_⟩
  · unfold SmallHash
    decide +kernel
  · unfold SmallHash
    decide +kernel

/-- A payload that makes the frame hash to zero leaves its flow. -/
theorem crafted_payload_leaves_flow :
    SameFlow (payloadFrame []) 0 (payloadFrame [1, 117, 235, 118, 75]) 0 ∧
      (∀ payload, (xdpPass backends hosts (headerCsumDiff 4096 fun _ => 0) payloadContext
        (payloadFrame payload)).verdict = xdpTx) ∧
      ¬ SameBackend backends
        (xdpPass backends hosts (headerCsumDiff 4096 fun _ => 0) payloadContext
          (payloadFrame [])).memory 0
        (xdpPass backends hosts (headerCsumDiff 4096 fun _ => 0) payloadContext
          (payloadFrame [1, 117, 235, 118, 75])).memory 0 := by
  have small : SmallHash (payloadFrame [1, 117, 235, 118, 75]) 0 := by
    unfold SmallHash
    decide +kernel
  refine ⟨payloadFrame_sameFlow _ _, payloadFrame_sent, ?_⟩
  rintro ⟨key, -, -, sent⟩
  have diverted := (sentTo_destination (payloadFrame_sent [1, 117, 235, 118, 75])).iff_sameTarget _
    |>.mp sent
  have target : destination backends (hosts 1) (payloadFrame [1, 117, 235, 118, 75]) 0 = hosts 1 :=
    destination_of_small (hosts 1) small
  have mac : (hosts 1).mac = (backends 0).mac := by
    rw [← target]
    exact diverted.1
  exact absurd mac (by decide)

end UserspaceXdp.Programs.XdpLb
