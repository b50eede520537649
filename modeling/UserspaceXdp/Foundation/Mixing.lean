import Mathlib.Tactic

/-!
Contract: hashes that lose nothing step by step.

Owns: runs of a step that absorbs one word after the other, and the mixing steps on
32-bit words that are one to one: rotations, odd multiples and shifted differences.

Does not own: any hash.
-/

namespace UserspaceXdp.Foundation

/-! ## Absorbing words -/

/-- A step from which, the state or the word known, the other can be told. -/
structure Lossless {State Word : Type} (absorb : State → Word → State) : Prop where
  state : ∀ word, Function.Injective fun state => absorb state word
  word : ∀ state, Function.Injective (absorb state)

namespace Lossless

variable {State Word : Type} {absorb : State → Word → State} (lossless : Lossless absorb)

include lossless

/-- A run tells its start. -/
theorem foldl_injective (words : List Word) :
    Function.Injective fun state => words.foldl absorb state := by
  induction words with
  | nil => exact Function.injective_id
  | cons word words inductionHypothesis =>
      exact inductionHypothesis.comp (lossless.state word)

/-- A run tells each of its words, if the others are known. -/
theorem foldl_middle_injective (front back : List Word) (state : State) :
    Function.Injective fun word => (front ++ word :: back).foldl absorb state := by
  intro left right same
  simp only [List.foldl_append, List.foldl_cons] at same
  exact lossless.word _ (lossless.foldl_injective back same)

end Lossless

/-! ## Mixing steps -/

/-- A multiple by a unit. -/
theorem multiple_injective {factor inverse : UInt32} (unit : factor * inverse = 1) :
    Function.Injective fun word : UInt32 => word * factor := by
  intro left right same
  have undone (word : UInt32) : word * factor * inverse = word := by
    rw [UInt32.mul_assoc, unit, UInt32.mul_one]
  rw [← undone left, ← undone right]
  exact congrArg (· * inverse) same

theorem rotateLeft_injective {width : Nat} {amount : Nat} (below : amount < width) :
    Function.Injective fun word : BitVec width => word.rotateLeft amount := by
  intro left right same
  apply BitVec.eq_of_getLsbD_eq
  intro index inside
  -- The bit is found where it was rotated to.
  by_cases low : index < width - amount
  · have bit := congrArg (fun word => word.getLsbD (index + amount)) same
    have notWrapped : ¬ index + amount < amount := by omega
    have within : index + amount < width := by omega
    simpa only [BitVec.getLsbD_rotateLeft_of_le below, notWrapped, within, decide_false,
      decide_true, cond_false, Bool.true_and, Nat.add_sub_cancel] using bit
  · have bit := congrArg (fun word => word.getLsbD (index - (width - amount))) same
    have wrapped : index - (width - amount) < amount := by omega
    have place : width - amount + (index - (width - amount)) = index := by omega
    simpa only [BitVec.getLsbD_rotateLeft_of_le below, wrapped, place, decide_true, cond_true]
      using bit

/-- A rotation, as C spells it. -/
theorem rotation_toBitVec (word : UInt32) {amount : UInt32} (positive : 0 < amount)
    (below : amount < 32) :
    (word <<< amount ||| word >>> (32 - amount)).toBitVec =
      word.toBitVec.rotateLeft amount.toNat := by
  have fits : amount.toNat < 32 := UInt32.lt_iff_toNat_lt.mp below
  have some : 0 < amount.toNat := UInt32.lt_iff_toNat_lt.mp positive
  have rest : (32 - amount).toNat = 32 - amount.toNat :=
    UInt32.toNat_sub_of_le _ _ (UInt32.le_iff_toNat_le.mpr (Nat.le_of_lt fits))
  have shifted : (amount.toBitVec % 32).toNat = amount.toNat := by
    show amount.toNat % 32 = amount.toNat
    exact Nat.mod_eq_of_lt fits
  have complement : ((32 - amount).toBitVec % 32).toNat = 32 - amount.toNat := by
    show (32 - amount).toNat % 32 = 32 - amount.toNat
    rw [rest]
    exact Nat.mod_eq_of_lt (by omega)
  rw [UInt32.toBitVec_or, UInt32.toBitVec_shiftLeft, UInt32.toBitVec_shiftRight,
    BitVec.shiftLeft_eq', BitVec.ushiftRight_eq', shifted, complement, BitVec.rotateLeft_def,
    Nat.mod_eq_of_lt fits]

theorem rotation_injective {amount : UInt32} (positive : 0 < amount) (below : amount < 32) :
    Function.Injective fun word : UInt32 => word <<< amount ||| word >>> (32 - amount) := by
  have fits : amount.toNat < 32 := UInt32.lt_iff_toNat_lt.mp below
  intro left right same
  have bits : left.toBitVec.rotateLeft amount.toNat = right.toBitVec.rotateLeft amount.toNat := by
    rw [← rotation_toBitVec left positive below, ← rotation_toBitVec right positive below]
    exact congrArg UInt32.toBitVec same
  exact UInt32.toBitVec_inj.mp (rotateLeft_injective fits bits)

theorem shiftedDifference_injective {width amount : Nat} (positive : 0 < amount) :
    Function.Injective fun word : BitVec width => word ^^^ word >>> amount := by
  intro left right same
  -- What the two words differ by is its own shift, which only zero is.
  have stable : left ^^^ right = (left ^^^ right) >>> amount := by
    have exchanged : ∀ a b c d : Bool, (a ^^ b) = (c ^^ d) → (a ^^ c) = (b ^^ d) := by decide
    apply BitVec.eq_of_getLsbD_eq
    intro index _
    have bit := congrArg (fun word => word.getLsbD index) same
    simp only [BitVec.getLsbD_xor] at bit
    rw [BitVec.ushiftRight_xor_distrib, BitVec.getLsbD_xor, BitVec.getLsbD_xor]
    exact exchanged _ _ _ _ bit
  have zero : left ^^^ right = (0 : BitVec width) := by
    apply BitVec.eq_of_toNat_eq
    have number := congrArg BitVec.toNat stable
    rw [BitVec.toNat_ushiftRight, Nat.shiftRight_eq_div_pow] at number
    have wide : 2 ≤ 2 ^ amount := Nat.le_self_pow (by omega) 2
    have halved : (left ^^^ right).toNat / 2 ^ amount ≤ (left ^^^ right).toNat / 2 :=
      Nat.div_le_div_left wide (by decide)
    show (left ^^^ right).toNat = 0 % 2 ^ width
    rw [Nat.zero_mod]
    omega
  exact BitVec.xor_eq_zero_iff.mp zero

/-- A word and its shift to the right. -/
theorem xorShift_toBitVec (word : UInt32) {amount : UInt32} (below : amount < 32) :
    (word ^^^ word >>> amount).toBitVec = word.toBitVec ^^^ word.toBitVec >>> amount.toNat := by
  have fits : amount.toNat < 32 := UInt32.lt_iff_toNat_lt.mp below
  have same : (amount.toBitVec % 32).toNat = amount.toNat := by
    show amount.toNat % 32 = amount.toNat
    exact Nat.mod_eq_of_lt fits
  rw [UInt32.toBitVec_xor, UInt32.toBitVec_shiftRight, BitVec.ushiftRight_eq', same]

theorem xorShift_injective {amount : UInt32} (positive : 0 < amount) (below : amount < 32) :
    Function.Injective fun word : UInt32 => word ^^^ word >>> amount := by
  intro left right same
  have bits : left.toBitVec ^^^ left.toBitVec >>> amount.toNat =
      right.toBitVec ^^^ right.toBitVec >>> amount.toNat := by
    rw [← xorShift_toBitVec left below, ← xorShift_toBitVec right below]
    exact congrArg UInt32.toBitVec same
  exact UInt32.toBitVec_inj.mp
    (shiftedDifference_injective (UInt32.lt_iff_toNat_lt.mp positive) bits)

end UserspaceXdp.Foundation
