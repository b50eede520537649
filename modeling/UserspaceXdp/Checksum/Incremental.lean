import Mathlib.Data.Int.ModEq
import UserspaceXdp.Checksum.CsumDiff

/-!
Contract: what `bpftime_csum_diff_runtime` computes, and the incremental update
of a checksum with it.

Owns: the 16-bit halves of a list of words, the one's-complement sum of halves
and its verification, data with a checksum field and a region that is replaced,
the congruence of `csum_diff`, and when the updated data verifies.

Does not own: byte order. A half is the number the code loads; a receiver that
adds the halves in network order gets the swapped sum, which is 0xffff for the
same data.
-/

namespace UserspaceXdp.Checksum

open UserspaceXdp.Foundation
open UserspaceXdp.Foundation.OnesComplement

/-- The 16-bit halves of 32-bit words. -/
def halves (words : List Nat) : List Nat :=
  words.flatMap fun word => [word % 2 ^ 16, word / 2 ^ 16]

/-- The one's-complement sum of 16-bit halves. -/
def onesSum (parts : List Nat) : Nat :=
  parts.foldl (fun sum half => endAround 16 (sum + half)) 0

/-- Data verifies if its one's-complement sum, the checksum field included, is
all ones. -/
def Verifies (parts : List Nat) : Prop :=
  onesSum parts = 0xffff

/-- What the data has besides the region and the checksum field, in 16-bit
halves, and which of the two comes first. -/
structure Surroundings where
  front : List Nat
  gap : List Nat
  back : List Nat
  checksumFirst : Bool
  small : ∀ half ∈ front ++ gap ++ back, half < 2 ^ 16

/-- The data as a whole. -/
def Surroundings.data (around : Surroundings) (region : List Nat) (checksum : Nat) : List Nat :=
  if around.checksumFirst then
    around.front ++ [checksum] ++ around.gap ++ halves region ++ around.back
  else
    around.front ++ halves region ++ around.gap ++ [checksum] ++ around.back

/-- The complement of a 16-bit number. -/
def complement16 (sum : Nat) : Nat :=
  2 ^ 16 - 1 - sum

/-! ## Sums -/

theorem sum_halves_cons (word : Nat) (rest : List Nat) :
    (halves (word :: rest)).sum = word % 2 ^ 16 + word / 2 ^ 16 + (halves rest).sum := by
  simp [halves, Nat.add_assoc]

/-- A word counts as the sum of its halves. -/
theorem sum_modEq_halves (words : List Nat) : words.sum ≡ (halves words).sum [MOD 65535] := by
  induction words with
  | nil => rfl
  | cons word rest inductionHypothesis =>
      rw [List.sum_cons, sum_halves_cons]
      exact (endAround_onesEq 16 word).congruent.symm.add inductionHypothesis

theorem halves_lt {words : List Nat} (small : ∀ word ∈ words, word < 2 ^ 32) :
    ∀ half ∈ halves words, half < 2 ^ 16 := by
  intro half member
  rw [halves, List.mem_flatMap] at member
  obtain ⟨word, held, part⟩ := member
  have bound := small word held
  simp only [List.mem_cons, List.not_mem_nil, or_false] at part
  omega

/-- A word and its complement cancel out. -/
theorem sum_complements {words : List Nat} (small : ∀ word ∈ words, word < 2 ^ 32) :
    (words.map fun word => 2 ^ 32 - 1 - word).sum + words.sum ≡ 0 [MOD 65535] := by
  induction words with
  | nil => rfl
  | cons word rest inductionHypothesis =>
      have bound := small word List.mem_cons_self
      have later := inductionHypothesis fun candidate member =>
        small candidate (List.mem_cons_of_mem _ member)
      have pair : 2 ^ 32 - 1 - word + word ≡ 0 [MOD 65535] := by
        rw [Nat.sub_add_cancel (by omega)]
        decide
      have regroup : (2 ^ 32 - 1 - word + (rest.map fun word => 2 ^ 32 - 1 - word).sum) +
          (word + rest.sum) =
          (2 ^ 32 - 1 - word + word) +
            ((rest.map fun word => 2 ^ 32 - 1 - word).sum + rest.sum) := by
        omega
      rw [List.map_cons, List.sum_cons, List.sum_cons, regroup]
      exact pair.add later

theorem onesSum_spec {parts : List Nat} (small : ∀ half ∈ parts, half < 2 ^ 16) :
    onesSum parts < 2 ^ 16 ∧ OnesEq 65535 (onesSum parts) parts.sum := by
  induction parts using List.reverseRecOn with
  | nil => exact ⟨by decide, OnesEq.refl _ _⟩
  | append_singleton front half inductionHypothesis =>
      have before := inductionHypothesis fun candidate member =>
        small candidate (List.mem_append_left _ member)
      have last := small half List.mem_concat_self
      have step : onesSum (front ++ [half]) = endAround 16 (onesSum front + half) := by
        simp [onesSum]
      rw [step, List.sum_append, List.sum_singleton]
      exact ⟨endAround_lt (by omega),
        (endAround_onesEq 16 _).trans (before.2.add_right half)⟩

/-- All ones is the zero that data other than all zeros sums to. -/
theorem verifies_iff {parts : List Nat} (small : ∀ half ∈ parts, half < 2 ^ 16) :
    Verifies parts ↔ parts.sum % 65535 = 0 ∧ ∃ half ∈ parts, half ≠ 0 := by
  have summed := onesSum_spec small
  have residue : onesSum parts % 65535 = parts.sum % 65535 := summed.2.congruent
  have zero := summed.2.zero_iff
  have nonzero : (∃ half ∈ parts, half ≠ 0) ↔ parts.sum ≠ 0 := by
    rw [Ne, List.sum_eq_zero_iff]
    push Not
    rfl
  rw [nonzero]
  unfold Verifies
  omega

namespace Surroundings

variable (around : Surroundings)

theorem sum_data (region : List Nat) (checksum : Nat) :
    (around.data region checksum).sum =
      around.front.sum + around.gap.sum + around.back.sum + (halves region).sum + checksum := by
  unfold data
  split
  · simp only [List.sum_append, List.sum_singleton]
    omega
  · simp only [List.sum_append, List.sum_singleton]
    omega

theorem data_lt {region : List Nat} {checksum : Nat} (words : ∀ word ∈ region, word < 2 ^ 32)
    (field : checksum < 2 ^ 16) : ∀ half ∈ around.data region checksum, half < 2 ^ 16 := by
  intro half member
  have outside := around.small half
  have inside := halves_lt words half
  unfold data at member
  split at member <;>
    simp only [List.mem_append, List.mem_singleton] at member outside <;>
    grind

end Surroundings

/-! ## The difference -/

section Difference

variable {memory : Memory} {source target : Nat} {before after : List Nat}

theorem held_lt {words : List Nat} {place : Nat}
    (held : regionWords memory 4 place words.length = words) : ∀ word ∈ words, word < 2 ^ 32 := by
  intro word member
  rw [← held] at member
  exact regionWords_lt member

/-- `csum_diff` of two buffers in memory returns, and its value is the seed with
one buffer added and the other one taken away. -/
theorem csumDiffRuntime_congruent (stack : Memory) (address : Nat) {seed : Nat}
    (beforeHeld : regionWords memory 4 source before.length = before)
    (afterHeld : regionWords memory 4 target after.length = after)
    (fits : 4 * (before.length + after.length) ≤ 512) (seedSmall : seed < 2 ^ 32) :
    ∃ r, (bpftimeCsumDiffRuntime memory (.fresh address stack) source (4 * before.length)
        target (4 * after.length) seed).value = some r ∧ r < 2 ^ 32 ∧
      r + (halves before).sum ≡ seed + (halves after).sum [MOD 65535] := by
  have proper : Proper (4 * before.length) (4 * after.length) := by
    unfold Proper
    omega
  obtain ⟨sp, filled, ran⟩ := csumDiff_of_proper memory stack address source target seed
    (by decide : 512 < 2 ^ 64) proper
  refine ⟨csumPartial sp.memory address (4 * before.length + 4 * after.length) seed, ?_,
    csumPartial_lt seedSmall _ _ _, ?_⟩
  · rw [bpftimeCsumDiffRuntime, Nat.mod_eq_of_lt seedSmall, ran]
    rfl
  · have summed := (csumPartial_onesEq seedSmall sp.memory address
      (4 * before.length + 4 * after.length)).congruent
    have words := (loadWord_regionWords sp.memory (radix_modEq_one (by decide : 4 % 2 = 0))
      address (before.length + after.length)).congruent
    have contents := filled.words
    rw [Nat.mul_div_cancel_left _ (by decide), Nat.mul_div_cancel_left _ (by decide)] at contents
    rw [contents, diffContents, Nat.mul_div_cancel_left _ (by decide),
      Nat.mul_div_cancel_left _ (by decide), beforeHeld, afterHeld, Nat.mul_add,
      List.sum_append] at words
    have cancelled := sum_complements (held_lt beforeHeld)
    have value := (summed.trans (words.add_right seed)).add (sum_modEq_halves before).symm
    have regroup : (before.map fun word => 2 ^ 32 - 1 - word).sum + after.sum + seed +
        before.sum = ((before.map fun word => 2 ^ 32 - 1 - word).sum + before.sum) +
          (seed + after.sum) := by
      omega
    rw [regroup] at value
    have total := cancelled.add ((sum_modEq_halves after).add_left seed)
    rw [Nat.zero_add] at total
    exact value.trans total

/-- The sum of the updated data is a zero. -/
theorem sum_updated {around : Surroundings} {checksum r : Nat} (field : checksum < 2 ^ 16)
    (rSmall : r < 2 ^ 32)
    (difference : r + (halves before).sum ≡
      complement16 checksum + (halves after).sum [MOD 65535])
    (verified : (around.data before checksum).sum % 65535 = 0) :
    (around.data after (complement16 (from32to16 r))).sum % 65535 = 0 := by
  have folded : from32to16 r % 65535 = r % 65535 := (from32to16_onesEq rSmall).congruent
  have small := from32to16_lt r
  unfold Nat.ModEq complement16 at difference
  rw [Surroundings.sum_data] at verified ⊢
  unfold complement16
  omega

end Difference

/-- The checksum-difference law, and the incremental update it is for: data
that verified verifies again, except for data that has become all zeros, whose
sum is the other zero. -/
theorem csumDiffRuntime_law_and_update {memory : Memory} {source target : Nat}
    {before after : List Nat} (stack : Memory) (address : Nat)
    (beforeHeld : regionWords memory 4 source before.length = before)
    (afterHeld : regionWords memory 4 target after.length = after)
    (fits : 4 * (before.length + after.length) ≤ 512) :
    (∀ seed < 2 ^ 32, ∃ r,
      (bpftimeCsumDiffRuntime memory (.fresh address stack) source (4 * before.length)
        target (4 * after.length) seed).value = some r ∧ r < 2 ^ 32 ∧
      (r : Int) ≡ seed + (halves after).sum - (halves before).sum [ZMOD 65535]) ∧
    ∀ (around : Surroundings), ∀ checksum < 2 ^ 16,
      Verifies (around.data before checksum) → ∃ r,
        (bpftimeCsumDiffRuntime memory (.fresh address stack) source (4 * before.length)
          target (4 * after.length) (complement16 checksum)).value = some r ∧
        (Verifies (around.data after (complement16 (from32to16 r))) ↔
          ∃ half ∈ around.data after (complement16 (from32to16 r)), half ≠ 0) := by
  constructor
  · intro seed seedSmall
    obtain ⟨r, returned, small, congruent⟩ :=
      csumDiffRuntime_congruent stack address beforeHeld afterHeld fits seedSmall
    refine ⟨r, returned, small, ?_⟩
    have lifted := Int.natCast_modEq_iff.mpr congruent
    rw [Nat.cast_add, Nat.cast_add] at lifted
    have moved := lifted.sub_right ((halves before).sum : Int)
    rw [add_sub_cancel_right] at moved
    exact moved
  · intro around checksum field verified
    have seedSmall : complement16 checksum < 2 ^ 32 := by
      unfold complement16
      omega
    obtain ⟨r, returned, small, congruent⟩ :=
      csumDiffRuntime_congruent stack address beforeHeld afterHeld fits seedSmall
    refine ⟨r, returned, ?_⟩
    have newField : complement16 (from32to16 r) < 2 ^ 16 := by
      unfold complement16
      omega
    rw [verifies_iff (around.data_lt (held_lt beforeHeld) field)] at verified
    rw [verifies_iff (around.data_lt (held_lt afterHeld) newField)]
    have zero := sum_updated field small congruent verified.1
    exact ⟨fun holds => holds.2, fun nonzero => ⟨zero, nonzero⟩⟩

/-- Memory that holds the word 1 and zeros behind it. -/
def oneThenZeros : Memory :=
  fun address => if address = 0 then 1 else 0

/-- Nothing but a region, and the checksum field behind it. -/
def regionOnly : Surroundings where
  front := []
  gap := []
  back := []
  checksumFirst := false
  small := by simp

/-- The word 1 is replaced by two words, one of which it is. -/
theorem csumDiffRuntime_appends_word :
    ∃ r, (bpftimeCsumDiffRuntime oneThenZeros (.fresh 64 fun _ => 0xff) 0 4 0 8
        (complement16 0xfffe)).value = some r ∧
      (Verifies (regionOnly.data [1, 0] (complement16 (from32to16 r))) ↔
        ∃ half ∈ regionOnly.data [1, 0] (complement16 (from32to16 r)), half ≠ 0) := by
  have law := csumDiffRuntime_law_and_update (fun _ => 0xff) 64
    (by decide : regionWords oneThenZeros 4 0 [1].length = [1])
    (by decide : regionWords oneThenZeros 4 0 [1, 0].length = [1, 0]) (by decide)
  exact law.2 regionOnly 0xfffe (by decide) (by unfold Verifies; decide)

/-- The word 1 with its checksum becomes the word 0 with the checksum 0. -/
theorem csumDiffRuntime_update_of_zeros :
    regionWords oneThenZeros 4 0 1 = [1] ∧ regionWords oneThenZeros 4 4 1 = [0] ∧
      Verifies (regionOnly.data [1] 0xfffe) ∧
      (bpftimeCsumDiffRuntime oneThenZeros (.fresh 64 fun _ => 0) 0 4 4 4
        (complement16 0xfffe)).value = some 0xffff ∧
      ¬Verifies (regionOnly.data [0] (complement16 (from32to16 0xffff))) := by
  unfold Verifies
  decide +kernel

end UserspaceXdp.Checksum
