import Mathlib.Data.Nat.ModEq
import Mathlib.Tactic
import UserspaceXdp.Foundation.Memory

/-!
Contract: one's-complement sums of any width.

Owns: equality of one's-complement numbers with their two zeros kept apart, the
end-around carry, chains of additions with carry, the carry that a comparison
finds, and the sum of the words of a memory region.

Does not own: any checksum routine. A number here is unbounded, and a routine
that keeps its sum in a machine word proves that no carry is lost.
-/

namespace UserspaceXdp.Foundation.OnesComplement

/-- Two totals stand for the same one's-complement number: they are congruent,
and one is zero only together with the other. Positive and negative zero differ. -/
structure OnesEq (modulus left right : Nat) : Prop where
  congruent : left ≡ right [MOD modulus]
  zero_iff : left = 0 ↔ right = 0

namespace OnesEq

variable {modulus left right middle otherLeft otherRight : Nat}

theorem refl (modulus total : Nat) : OnesEq modulus total total :=
  ⟨Nat.ModEq.refl _, Iff.rfl⟩

theorem symm (same : OnesEq modulus left right) : OnesEq modulus right left :=
  ⟨same.congruent.symm, same.zero_iff.symm⟩

theorem trans (first : OnesEq modulus left middle) (second : OnesEq modulus middle right) :
    OnesEq modulus left right :=
  ⟨first.congruent.trans second.congruent, first.zero_iff.trans second.zero_iff⟩

theorem add (first : OnesEq modulus left right)
    (second : OnesEq modulus otherLeft otherRight) :
    OnesEq modulus (left + otherLeft) (right + otherRight) := by
  constructor
  · exact first.congruent.add second.congruent
  · rw [Nat.add_eq_zero_iff, Nat.add_eq_zero_iff, first.zero_iff, second.zero_iff]

theorem add_left (total : Nat) (same : OnesEq modulus left right) :
    OnesEq modulus (total + left) (total + right) :=
  (refl modulus total).add same

theorem add_right (total : Nat) (same : OnesEq modulus left right) :
    OnesEq modulus (left + total) (right + total) :=
  same.add (refl modulus total)

/-- A wide sum may be read at a narrower width. -/
theorem of_dvd {wide : Nat} (divides : modulus ∣ wide) (same : OnesEq wide left right) :
    OnesEq modulus left right :=
  ⟨same.congruent.of_dvd divides, same.zero_iff⟩

/-- A power of the radix counts as one. -/
theorem scale {factor : Nat} (one : factor ≡ 1 [MOD modulus]) (positive : 0 < factor)
    (total : Nat) : OnesEq modulus (factor * total) total := by
  constructor
  · simpa using one.mul_right total
  · rw [Nat.mul_eq_zero]
    omega

theorem mul_left (factor : Nat) (same : OnesEq modulus left right) :
    OnesEq modulus (factor * left) (factor * right) := by
  constructor
  · exact same.congruent.mul_left factor
  · rw [Nat.mul_eq_zero, Nat.mul_eq_zero, same.zero_iff]

/-- Within one word a one's-complement number has one representation. -/
theorem eq_of_le (same : OnesEq modulus left right) (leftSmall : left ≤ modulus)
    (rightSmall : right ≤ modulus) : left = right := by
  have zero := same.zero_iff
  by_cases positive : left = 0
  · omega
  · -- Both lie in `1..modulus`, where the residues are distinct.
    have shifted : left - 1 ≡ right - 1 [MOD modulus] := by
      apply Nat.ModEq.add_right_cancel' 1
      have leftBack : left - 1 + 1 = left := by omega
      have rightBack : right - 1 + 1 = right := by omega
      rw [leftBack, rightBack]
      exact same.congruent
    have equal := shifted.eq_of_lt_of_lt (by omega) (by omega)
    omega

end OnesEq

/-! ## The end-around carry -/

/-- What does not fit the word is added at its low end. -/
def endAround (width total : Nat) : Nat :=
  total % 2 ^ width + total / 2 ^ width

theorem two_pow_modEq_one (width : Nat) : 2 ^ width ≡ 1 [MOD 2 ^ width - 1] := by
  have positive : 0 < 2 ^ width := Nat.two_pow_pos width
  apply Nat.ModEq.symm
  rw [Nat.modEq_iff_dvd' positive]

theorem endAround_onesEq (width total : Nat) :
    OnesEq (2 ^ width - 1) (endAround width total) total := by
  have high := OnesEq.scale (two_pow_modEq_one width) (Nat.two_pow_pos width)
    (total / 2 ^ width)
  have folded := (high.symm).add_left (total % 2 ^ width)
  rw [Nat.mod_add_div] at folded
  exact folded

/-- The carry of two words fits into the word it is added to. -/
theorem endAround_lt {width total : Nat} (bound : total + 1 < 2 ^ width + 2 ^ width) :
    endAround width total < 2 ^ width := by
  unfold endAround
  by_cases fits : total < 2 ^ width
  · rw [Nat.mod_eq_of_lt fits, Nat.div_eq_of_lt fits]
    omega
  · have quotient : total / 2 ^ width = 1 := Nat.div_eq_of_lt_le (by omega) (by omega)
    have split := Nat.mod_add_div total (2 ^ width)
    rw [quotient] at split ⊢
    omega

/-! ## Chains of additions -/

/-- One addition with carry: the word and the carry flag after it. -/
def addCarry (width : Nat) (state : Nat × Nat) (word : Nat) : Nat × Nat :=
  ((state.1 + state.2 + word) % 2 ^ width, (state.1 + state.2 + word) / 2 ^ width)

/-- A chain of additions with carry, the last of which adds nothing but the carry. -/
def addChain (width sum : Nat) (words : List Nat) : Nat :=
  let final := words.foldl (addCarry width) (sum, 0)
  (final.1 + final.2) % 2 ^ width

section Chains

variable {width : Nat}

/-- The word and its carry together stay below the word size, so that the next
addition loses nothing. -/
theorem foldl_addCarry {state : Nat × Nat} {words : List Nat}
    (within : state.1 + state.2 < 2 ^ width) (small : ∀ word ∈ words, word < 2 ^ width) :
    (words.foldl (addCarry width) state).1 + (words.foldl (addCarry width) state).2 <
        2 ^ width ∧
      OnesEq (2 ^ width - 1)
        ((words.foldl (addCarry width) state).1 + (words.foldl (addCarry width) state).2)
        (state.1 + state.2 + words.sum) := by
  induction words generalizing state with
  | nil => exact ⟨within, OnesEq.refl _ _⟩
  | cons word rest inductionHypothesis =>
      have wordSmall := small word List.mem_cons_self
      have stepped : (addCarry width state word).1 + (addCarry width state word).2 =
          endAround width (state.1 + state.2 + word) := rfl
      have nextWithin : (addCarry width state word).1 + (addCarry width state word).2 <
          2 ^ width := by
        rw [stepped]
        exact endAround_lt (by omega)
      have later := inductionHypothesis nextWithin
        fun candidate member => small candidate (List.mem_cons_of_mem _ member)
      have folded := (endAround_onesEq width (state.1 + state.2 + word)).add_right rest.sum
      rw [← stepped] at folded
      rw [List.foldl_cons, List.sum_cons, ← Nat.add_assoc]
      exact ⟨later.1, later.2.trans folded⟩

theorem addChain_lt (sum : Nat) (words : List Nat) : addChain width sum words < 2 ^ width :=
  Nat.mod_lt _ (Nat.two_pow_pos width)

theorem addChain_onesEq {sum : Nat} {words : List Nat} (sumSmall : sum < 2 ^ width)
    (small : ∀ word ∈ words, word < 2 ^ width) :
    OnesEq (2 ^ width - 1) (addChain width sum words) (sum + words.sum) := by
  have within : (sum, 0).1 + (sum, 0).2 < 2 ^ width := sumSmall
  have folded := foldl_addCarry within small
  unfold addChain
  dsimp only
  rw [Nat.mod_eq_of_lt folded.1]
  exact folded.2

/-- The wrapped sum is below a summand exactly if there was a carry. -/
theorem carry_of_compare {running word : Nat} (runningSmall : running < 2 ^ width)
    (wordSmall : word < 2 ^ width) :
    (if (running + word) % 2 ^ width < word then 1 else 0) = (running + word) / 2 ^ width := by
  by_cases fits : running + word < 2 ^ width
  · rw [Nat.mod_eq_of_lt fits, Nat.div_eq_of_lt fits, if_neg (by omega)]
  · have quotient : (running + word) / 2 ^ width = 1 :=
      Nat.div_eq_of_lt_le (by omega) (by omega)
    have split := Nat.mod_add_div (running + word) (2 ^ width)
    rw [quotient] at split ⊢
    rw [if_pos (by omega)]

end Chains

/-! ## Words of a region -/

/-- The `count` words of `width` bytes from `address` on. -/
def regionWords (memory : Memory) (width : Nat) : Nat → Nat → List Nat
  | _, 0 => []
  | address, count + 1 =>
      memory.loadWord address width :: regionWords memory width (address + width) count

theorem regionWords_lt {memory : Memory} {width address count word : Nat}
    (member : word ∈ regionWords memory width address count) : word < 256 ^ width := by
  induction count generalizing address with
  | zero => cases member
  | succ count inductionHypothesis =>
      rcases List.mem_cons.mp member with rfl | member
      · exact memory.loadWord_lt address width
      · exact inductionHypothesis member

theorem regionWords_eq_map (memory : Memory) (width address count : Nat) :
    regionWords memory width address count =
      (List.range count).map fun index => memory.loadWord (address + width * index) width := by
  induction count generalizing address with
  | zero => rfl
  | succ count inductionHypothesis =>
      rw [regionWords, inductionHypothesis, List.range_succ_eq_map, List.map_cons, List.map_map]
      congr 1
      apply List.map_congr_left
      intro index _
      rw [Function.comp_apply, Nat.mul_succ, Nat.add_assoc, Nat.add_comm width]

theorem regionWords_append (memory : Memory) (width address first second : Nat) :
    regionWords memory width address (first + second) =
      regionWords memory width address first ++
        regionWords memory width (address + width * first) second := by
  induction first generalizing address with
  | zero => simp [regionWords]
  | succ first inductionHypothesis =>
      have next : address + width + width * first = address + width * (first + 1) := by ring
      rw [Nat.add_right_comm, regionWords, regionWords, inductionHypothesis, next,
        List.cons_append]

theorem regionWords_congr {left right : Memory} {width address count : Nat}
    (agree : ∀ candidate, address ≤ candidate → candidate < address + width * count →
      left candidate = right candidate) :
    regionWords left width address count = regionWords right width address count := by
  induction count generalizing address with
  | zero => rfl
  | succ count inductionHypothesis =>
      have first : left.loadWord address width = right.loadWord address width := by
        apply Memory.loadWord_congr
        intro candidate lower upper
        exact agree candidate lower (by rw [Nat.mul_succ]; omega)
      have rest : regionWords left width (address + width) count =
          regionWords right width (address + width) count := by
        apply inductionHypothesis
        intro candidate lower upper
        exact agree candidate (by omega) (by rw [Nat.mul_succ]; omega)
      rw [regionWords, regionWords, first, rest]

/-- A store to one of the words replaces its part of the sum. -/
theorem sum_regionWords_storeWord (memory : Memory) (width address value : Nat)
    {count index : Nat} (inside : index < count) :
    (regionWords (memory.storeWord (address + width * index) value width) width address
        count).sum + memory.loadWord (address + width * index) width =
      (regionWords memory width address count).sum + value % 256 ^ width := by
  obtain ⟨after, rfl⟩ := Nat.exists_eq_add_of_le inside
  have cut (region : Memory) :
      (regionWords region width address (index + 1 + after)).sum =
        (regionWords region width address index).sum +
          region.loadWord (address + width * index) width +
          (regionWords region width (address + width * (index + 1)) after).sum := by
    rw [regionWords_append, regionWords_append, List.sum_append, List.sum_append]
    simp only [regionWords, List.sum_cons, List.sum_nil, Nat.add_zero]
  have front : regionWords (memory.storeWord (address + width * index) value width) width
      address index = regionWords memory width address index :=
    regionWords_congr fun candidate _ below => Memory.storeWord_other memory (Or.inl below)
  have back : regionWords (memory.storeWord (address + width * index) value width) width
      (address + width * (index + 1)) after =
      regionWords memory width (address + width * (index + 1)) after := by
    apply regionWords_congr
    intro candidate above _
    rw [Nat.mul_succ, ← Nat.add_assoc] at above
    exact Memory.storeWord_other memory (Or.inr above)
  rw [cut, cut, front, back, Memory.loadWord_storeWord]
  omega

section Regions

variable {modulus : Nat} (memory : Memory)

/-- A region may be cut wherever the radix power counts as one. -/
theorem loadWord_split {low : Nat} (one : 256 ^ low ≡ 1 [MOD modulus]) (address high : Nat) :
    OnesEq modulus (memory.loadWord address (low + high))
      (memory.loadWord address low + memory.loadWord (address + low) high) := by
  rw [Memory.loadWord_add]
  exact (OnesEq.scale one (Nat.pow_pos (by decide)) _).add_left _

/-- A region is the sum of its words. -/
theorem loadWord_regionWords {width : Nat} (one : 256 ^ width ≡ 1 [MOD modulus])
    (address count : Nat) :
    OnesEq modulus (memory.loadWord address (width * count))
      (regionWords memory width address count).sum := by
  induction count generalizing address with
  | zero => exact OnesEq.refl _ _
  | succ count inductionHypothesis =>
      have cut := loadWord_split memory one address (width * count)
      rw [Nat.mul_succ, Nat.add_comm, regionWords, List.sum_cons]
      exact cut.trans ((inductionHypothesis (address + width)).add_left _)

end Regions

end UserspaceXdp.Foundation.OnesComplement
