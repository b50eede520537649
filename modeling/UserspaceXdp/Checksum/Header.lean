import UserspaceXdp.Checksum.Incremental

/-!
Contract: headers whose checksum field is filled in.

Owns: verification of a region of memory, the sum of a region as
`bpf_csum_diff` returns it for an empty old region, what a sum is once it is
folded into 16 bits, and what the field has to be filled with for the region to
verify.

Does not own: where a header is, or how often a program folds the sum.
-/

namespace UserspaceXdp.Checksum

open UserspaceXdp.Foundation
open UserspaceXdp.Foundation.OnesComplement

/-- The region of `count` 16-bit words from `address` on verifies. -/
def RegionVerifies (memory : Memory) (address count : Nat) : Prop :=
  Verifies (regionWords memory 2 address count)

theorem RegionVerifies.congr {left right : Memory} {address count : Nat}
    (agree : ∀ candidate, address ≤ candidate → candidate < address + 2 * count →
      left candidate = right candidate) :
    RegionVerifies left address count ↔ RegionVerifies right address count := by
  unfold RegionVerifies
  rw [regionWords_congr agree]

theorem regionVerifies_iff (memory : Memory) (address count : Nat) :
    RegionVerifies memory address count ↔
      (regionWords memory 2 address count).sum % 65535 = 0 ∧
        (regionWords memory 2 address count).sum ≠ 0 := by
  have small : ∀ half ∈ regionWords memory 2 address count, half < 2 ^ 16 :=
    fun half member => regionWords_lt member
  unfold RegionVerifies
  rw [verifies_iff small, Ne, List.sum_eq_zero_iff]
  push Not
  rfl

/-- The region with `check` in a field that held zero verifies exactly if the
field is the complement of the sum, up to the two zeros. -/
theorem regionVerifies_store_iff {memory : Memory} {address count index check sum : Nat}
    (inside : index < count) (cleared : memory.loadWord (address + 2 * index) 2 = 0)
    (small : check < 2 ^ 16)
    (summed : OnesEq 65535 sum (regionWords memory 2 address count).sum) :
    RegionVerifies (memory.storeWord (address + 2 * index) check 2) address count ↔
      (sum + check) % 65535 = 0 ∧ sum + check ≠ 0 := by
  have replaced := sum_regionWords_storeWord memory 2 address check inside
  have held : check % 256 ^ 2 = check := Nat.mod_eq_of_lt small
  rw [cleared, held, Nat.add_zero] at replaced
  rw [regionVerifies_iff, replaced]
  have total := summed.add_right check
  have residue : (sum + check) % 65535 =
      ((regionWords memory 2 address count).sum + check) % 65535 := total.congruent
  rw [residue, Ne, Ne, total.zero_iff]

/-- The complement of the sum makes the region verify. -/
theorem regionVerifies_complement {memory : Memory} {address count index sum : Nat}
    (inside : index < count) (cleared : memory.loadWord (address + 2 * index) 2 = 0)
    (small : sum < 2 ^ 16)
    (summed : OnesEq 65535 sum (regionWords memory 2 address count).sum) :
    RegionVerifies (memory.storeWord (address + 2 * index) (complement16 sum) 2) address
      count := by
  have bound : complement16 sum < 2 ^ 16 := by
    unfold complement16
    omega
  apply (regionVerifies_store_iff inside cleared bound summed).mpr
  unfold complement16
  omega

/-! ## The sum of a region -/

theorem csumPartial_zero_lt (memory : Memory) (buff len : Nat) :
    csumPartial memory buff len 0 < 2 ^ 16 := by
  have sum := doCsum_lt memory buff len
  rw [csumPartial_eq (by decide), Nat.add_zero, endAround, Nat.mod_eq_of_lt (by omega),
    Nat.div_eq_of_lt (by omega)]
  exact sum

theorem csumPartial_zero_onesEq (memory : Memory) (buff count : Nat) :
    OnesEq 65535 (csumPartial memory buff (2 * count) 0)
      (regionWords memory 2 buff count).sum :=
  (csumPartial_onesEq (by decide) memory buff (2 * count)).trans
    (loadWord_regionWords memory (by decide) buff count)

/-! ## Folding -/

/-- A total folded until it fits 16 bits. -/
def foldToHalf (total : Nat) : Nat :=
  if total < 2 ^ 16 then total else foldToHalf (endAround 16 total)
termination_by total
decreasing_by
  unfold endAround
  omega

theorem foldToHalf_spec (total : Nat) :
    foldToHalf total < 2 ^ 16 ∧ OnesEq 65535 (foldToHalf total) total := by
  induction total using foldToHalf.induct with
  | case1 total fits =>
      rw [foldToHalf, if_pos fits]
      exact ⟨fits, OnesEq.refl _ _⟩
  | case2 total wide inductionHypothesis =>
      rw [foldToHalf, if_neg wide]
      exact ⟨inductionHypothesis.1, inductionHypothesis.2.trans (endAround_onesEq 16 total)⟩

/-- Any 16-bit number that stands for the total is what folding leaves. -/
theorem eq_foldToHalf {sum total : Nat} (small : sum < 2 ^ 16)
    (summed : OnesEq 65535 sum total) : sum = foldToHalf total := by
  have folded := foldToHalf_spec total
  exact (summed.trans folded.2.symm).eq_of_le (Nat.le_of_lt_succ small)
    (Nat.le_of_lt_succ folded.1)

end UserspaceXdp.Checksum
