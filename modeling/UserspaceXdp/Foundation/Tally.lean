import Mathlib.Tactic

/-!
Contract: sums over an indexed family in which one member changes, and items
shared out among places.

Owns: the exchange laws of such a sum, with a plain family and with
`Function.update`, and that items that are all there once are in one place each.

Does not own: what the amounts count.
-/

namespace UserspaceXdp.Foundation

variable {Index Amount : Type} [DecidableEq Index] [AddCommMonoid Amount]

/-- Families that differ at one index have sums that differ by it. -/
theorem sum_replace {indices : Finset Index} {index : Index} (member : index ∈ indices)
    {left right : Index → Amount}
    (same : ∀ other ∈ indices, other ≠ index → left other = right other) :
    ∑ candidate ∈ indices, left candidate + right index =
      ∑ candidate ∈ indices, right candidate + left index := by
  have others : ∑ candidate ∈ indices.erase index, left candidate =
      ∑ candidate ∈ indices.erase index, right candidate := by
    apply Finset.sum_congr rfl
    intro other present
    exact same other (Finset.mem_of_mem_erase present) (Finset.ne_of_mem_erase present)
  rw [← Finset.add_sum_erase _ left member, ← Finset.add_sum_erase _ right member, others]
  abel

/-- The sum of an amount of each member after one member is replaced. -/
theorem sum_update {Member : Type} {indices : Finset Index} {index : Index}
    (member : index ∈ indices) (family : Index → Member) (value : Member)
    (amount : Member → Amount) :
    ∑ candidate ∈ indices, amount (Function.update family index value candidate) +
        amount (family index) =
      ∑ candidate ∈ indices, amount (family candidate) + amount value := by
  have replaced := sum_replace member
    (fun other _ (different : other ≠ index) =>
      congrArg amount (Function.update_of_ne different value family))
  rw [Function.update_self] at replaced
  exact replaced

/-- Where the places together hold every item once, each item has its place. -/
theorem exists_place {Place Item : Type} [Fintype Place] [DecidableEq Place] [DecidableEq Item]
    {contents : Place → Multiset Item} {whole : Multiset Item}
    (shared : ∑ place, contents place = whole) (once : whole.Nodup) {item : Item}
    (member : item ∈ whole) :
    ∃ place, (contents place).count item = 1 ∧
      ∀ other, other ≠ place → item ∉ contents other := by
  have total : ∑ place, (contents place).count item = 1 := by
    rw [← Multiset.count_sum', shared]
    exact Multiset.count_eq_one_of_mem once member
  obtain ⟨place, -, held⟩ : ∃ place ∈ Finset.univ, (contents place).count item ≠ 0 := by
    apply Finset.exists_ne_zero_of_sum_ne_zero
    rw [total]
    decide
  have split := Finset.add_sum_erase Finset.univ (fun index => (contents index).count item)
    (Finset.mem_univ place)
  have rest : ∑ index ∈ Finset.univ.erase place, (contents index).count item = 0 := by
    omega
  refine ⟨place, by omega, ?_⟩
  intro other different
  have none := Finset.sum_eq_zero_iff.mp rest other
    (Finset.mem_erase.mpr ⟨different, Finset.mem_univ other⟩)
  exact Multiset.count_eq_zero.mp none

end UserspaceXdp.Foundation
