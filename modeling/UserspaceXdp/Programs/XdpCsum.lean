import UserspaceXdp.Programs.XdpAdjustTail

/-!
Contract: `xdp_csum.bpf.c`, which fills in the checksum of an IPv4 header again
and again, each time from the sum before.

Owns: the program, the range of its sum along the loop, and why one fold of that
sum is enough.

Does not own: the sum of `bpftime_csum_diff_runtime`, or the single fold, which
`xdp_adjust_tail.bpf.c` has as well.
-/

namespace UserspaceXdp.Programs.XdpCsum

open UserspaceXdp.Foundation
open UserspaceXdp.Foundation.OnesComplement
open UserspaceXdp.Runtime
open UserspaceXdp.Checksum
open XdpAdjustTail (Scratch)

/-! ## The program -/

def loopLen : Nat := 32
def ethPIp : Nat := 0x0800

def csumFoldHelper (csum : Nat) : Nat :=
  XdpAdjustTail.csumFoldHelper csum

/-- The packet, and `csum`. -/
structure Round where
  memory : Memory
  csum : Nat

section Program

variable (scratch : Scratch)

/-- `*csum` after the call. -/
def ipv4Csum (memory : Memory) (dataStart dataSize csum : Nat) : Nat :=
  csumFoldHelper
    ((bpftimeCsumDiffRuntime memory (.fresh scratch.address scratch.contents) 0 0 dataStart
      dataSize csum).value.getD 0 % 2 ^ 32)

/-- The body of the loop. The lookup in it changes nothing. -/
def round (iph : Nat) (before : Round) : Round :=
  let csum := ipv4Csum scratch before.memory iph 20 before.csum
  { memory := before.memory.storeWord (iph + 10) csum 2, csum }

/-- `count` iterations of the loop. -/
def rounds (iph : Nat) (start : Round) : Nat → Round
  | 0 => start
  | count + 1 => round scratch iph (rounds iph start count)

/-- What a run leaves behind. -/
structure Outcome where
  verdict : Nat
  memory : Memory
  rxcnt : Option Nat

/-- `rxcnt` is the value at key 23, if the lookup finds it. -/
def xdpPass (context : XdpMdUserspace) (memory : Memory) (rxcnt : Option Nat) : Outcome :=
  let data := context.data
  let iph := data + 14
  if context.dataEnd < data + 14 then ⟨Runtime.xdpPass, memory, rxcnt⟩
  else if memory.loadWord (data + 12) 2 ≠ bpfHtons ethPIp then ⟨Runtime.xdpPass, memory, rxcnt⟩
  else if context.dataEnd < iph + 20 then ⟨Runtime.xdpPass, memory, rxcnt⟩
  else
    let last := rounds scratch iph ⟨memory, 0⟩ loopLen
    ⟨xdpTx, swapSrcDstMac last.memory data, rxcnt.map fun value => (value + 1) % 2 ^ 64⟩

end Program

/-! ## One fold -/

variable (scratch : Scratch)

/-- What a fold leaves of a sum of 17 bits fits 16. -/
theorem csumFoldHelper_eq {csum : Nat} (small : csum + 1 < 2 ^ 16 + 2 ^ 16) :
    csumFoldHelper csum = complement16 (endAround 16 csum) := by
  have folded := endAround_lt small
  unfold csumFoldHelper XdpAdjustTail.csumFoldHelper complement16
  unfold endAround at folded ⊢
  omega

/-- `do_csum` returns 16 bits, so that a seed of 16 bits leaves 17 in the sum, and
the carry of `csum_partial` never comes up. -/
theorem csumPartial_seed_lt {seed : Nat} (small : seed < 2 ^ 16) (memory : Memory)
    (buff len : Nat) : csumPartial memory buff len seed + 1 < 2 ^ 16 + 2 ^ 16 := by
  have sum := doCsum_lt memory buff len
  rw [csumPartial_eq (by omega), endAround, Nat.mod_eq_of_lt (by omega),
    Nat.div_eq_of_lt (by omega)]
  omega

theorem ipv4Csum_eq {seed : Nat} (small : seed < 2 ^ 16) (memory : Memory) (iph : Nat) :
    ipv4Csum scratch memory iph 20 seed =
      complement16 (foldToHalf ((regionWords memory 2 iph 10).sum + seed)) := by
  have bounded := csumPartial_seed_lt small memory iph 20
  have summed : OnesEq 65535 (endAround 16 (csumPartial memory iph 20 seed))
      ((regionWords memory 2 iph 10).sum + seed) := by
    have words := loadWord_regionWords memory (by decide : 256 ^ 2 ≡ 1 [MOD 65535]) iph 10
    exact (endAround_onesEq 16 _).trans
      ((csumPartial_onesEq (by omega) memory iph 20).trans (words.add_right seed))
  rw [ipv4Csum, csumDiffRuntime_word (by decide : 5 ≤ 128) (by omega), csumFoldHelper_eq bounded,
    eq_foldToHalf (endAround_lt bounded) summed]

/-! ## The loop -/

theorem complement16_lt (sum : Nat) : complement16 sum < 2 ^ 16 := by
  unfold complement16
  omega

/-- The sum is fed back within 16 bits, whatever the header becomes. -/
theorem rounds_csum_lt (iph : Nat) (memory : Memory) (count : Nat) :
    (rounds scratch iph ⟨memory, 0⟩ count).csum < 2 ^ 16 := by
  induction count with
  | zero => exact Nat.two_pow_pos 16
  | succ count inductionHypothesis =>
      show ipv4Csum scratch _ iph 20 _ < 2 ^ 16
      rw [ipv4Csum_eq scratch inductionHypothesis]
      exact complement16_lt _

/-- In every iteration the single fold loses no carry: the sum is the complement
of the header and the seed, folded until they fit 16 bits. -/
theorem xdpCsum_single_fold_exact (memory : Memory) (iph count : Nat) :
    let before := rounds scratch iph ⟨memory, 0⟩ count
    let after := rounds scratch iph ⟨memory, 0⟩ (count + 1)
    after.csum =
        complement16 (foldToHalf ((regionWords before.memory 2 iph 10).sum + before.csum)) ∧
      after.csum < 2 ^ 16 ∧
      after.memory = before.memory.storeWord (iph + 10) after.csum 2 := by
  intro before after
  have exact : after.csum =
      complement16 (foldToHalf ((regionWords before.memory 2 iph 10).sum + before.csum)) :=
    ipv4Csum_eq scratch (rounds_csum_lt scratch iph memory count) before.memory iph
  exact ⟨exact, rounds_csum_lt scratch iph memory (count + 1), rfl⟩

/-! ## The packet -/

theorem rounds_memory_other {iph candidate : Nat}
    (outside : candidate < iph + 10 ∨ iph + 12 ≤ candidate) (start : Round) (count : Nat) :
    (rounds scratch iph start count).memory candidate = start.memory candidate := by
  induction count with
  | zero => rfl
  | succ count inductionHypothesis =>
      rw [← inductionHypothesis]
      exact Memory.storeWord_other _ (by omega)

/-- A packet that is sent back has the last sum in its checksum field, and
besides it only the MAC addresses have changed. -/
theorem xdpPass_fills_checksum {context : XdpMdUserspace} {memory : Memory} {rxcnt : Option Nat}
    (sent : (xdpPass scratch context memory rxcnt).verdict = xdpTx) :
    (xdpPass scratch context memory rxcnt).memory.loadWord (context.data + 24) 2 =
        (rounds scratch (context.data + 14) ⟨memory, 0⟩ loopLen).csum ∧
      ∀ candidate, (candidate < context.data ∨ context.data + 12 ≤ candidate) →
        (candidate < context.data + 24 ∨ context.data + 26 ≤ candidate) →
        (xdpPass scratch context memory rxcnt).memory candidate = memory candidate := by
  have small := rounds_csum_lt scratch (context.data + 14) memory loopLen
  unfold xdpPass at sent ⊢
  dsimp only at sent ⊢
  split at sent
  · cases sent
  split at sent
  · cases sent
  split at sent
  · cases sent
  rename_i ethernet ipv4 header
  rw [if_neg ethernet, if_neg ipv4, if_neg header]
  constructor
  · have unswapped : (swapSrcDstMac (rounds scratch (context.data + 14) ⟨memory, 0⟩
        loopLen).memory context.data).loadWord (context.data + 24) 2 =
        (rounds scratch (context.data + 14) ⟨memory, 0⟩ loopLen).memory.loadWord
          (context.data + 24) 2 :=
      Memory.loadWord_congr fun candidate lower _ => swapSrcDstMac_other _ (by omega)
    rw [unswapped]
    exact (Memory.loadWord_storeWord _ _ _ 2).trans (Nat.mod_eq_of_lt small)
  · intro candidate addresses check
    exact (swapSrcDstMac_other _ addresses).trans (rounds_memory_other scratch (by omega) _ _)

end UserspaceXdp.Programs.XdpCsum
