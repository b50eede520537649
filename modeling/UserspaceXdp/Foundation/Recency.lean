import Mathlib.Data.List.Forall2
import Mathlib.Tactic

/-!
Contract: the distinct keys of a log, most recent first.

Keys are compared with `==`, which need not be equality; it has to be an
equivalence.

Owns: the recency list of a log, how one more entry changes it, the law that
filtering a list commutes with cutting it off, and how many distinct keys a list of
keys covers.

Does not own: what the entries of a log are.
-/

namespace UserspaceXdp.Foundation

variable {Key : Type} [BEq Key]

/-- The distinct keys of a log, most recent first. -/
def recency (log : List Key) : List Key :=
  log.reverse.eraseDups

/-- The keys other than `key`. -/
def others (key : Key) (keys : List Key) : List Key :=
  keys.filter fun candidate => !(candidate == key)

/-- Cutting off a list before or after it is filtered. -/
theorem take_length_filter {Item : Type} (keep : Item → Bool) (items : List Item) (count : Nat) :
    (items.filter keep).take ((items.take count).filter keep).length =
      (items.take count).filter keep := by
  conv_lhs => rw [← List.take_append_drop count items, List.filter_append]
  simp

/-- A filter that does not tell equal keys apart can be applied before or after
the duplicates are removed. -/
theorem eraseDups_filter {keep : Key → Bool}
    (respects : ∀ left right, (left == right) = true → keep left = keep right)
    (keys : List Key) : (keys.filter keep).eraseDups = keys.eraseDups.filter keep := by
  induction length : keys.length using Nat.strong_induction_on generalizing keys with
  | _ size inductionHypothesis =>
      cases keys with
      | nil => simp
      | cons key rest =>
          have shorter : (others key rest).length < size := by
            rw [← length]
            exact Nat.lt_succ_of_le (List.length_filter_le _ _)
          have commute := inductionHypothesis _ shorter (others key rest) rfl
          rw [others, List.filter_filter] at commute
          rw [List.eraseDups_cons]
          by_cases kept : keep key = true
          · rw [List.filter_cons_of_pos kept, List.filter_cons_of_pos kept, List.eraseDups_cons]
            rw [← commute, List.filter_filter]
            congr 3
            funext candidate
            exact Bool.and_comm _ _
          · rw [List.filter_cons_of_neg kept, List.filter_cons_of_neg kept, ← commute]
            congr 1
            apply List.filter_congr
            intro candidate _
            by_cases candidateKept : keep candidate = true
            · have different : (candidate == key) = false := by
                by_contra equal
                rw [Bool.not_eq_false] at equal
                rw [respects candidate key equal] at candidateKept
                exact kept candidateKept
              simp [different]
            · simp [candidateKept]

variable [EquivBEq Key]

theorem bne_of_beq {left right key : Key} (same : (left == right) = true)
    (different : (right == key) = false) : (left == key) = false := by
  by_contra equal
  rw [Bool.not_eq_false] at equal
  rw [BEq.trans (BEq.symm same) equal] at different
  cases different

theorem recency_concat (log : List Key) (key : Key) :
    recency (log ++ [key]) = key :: others key (recency log) := by
  have respects (left right : Key) (same : (left == right) = true) :
      (!(left == key)) = !(right == key) := by
    congr 1
    rw [Bool.eq_iff_iff]
    exact ⟨fun equal => BEq.trans (BEq.symm same) equal, fun equal => BEq.trans same equal⟩
  rw [recency, List.reverse_append, List.reverse_singleton, List.singleton_append,
    List.eraseDups_cons, eraseDups_filter respects]
  rfl

/-! ## Counting -/

/-- At most one of several distinct keys is equal to a key. -/
theorem length_le_others {keys : List Key}
    (distinct : keys.Pairwise fun left right => (left == right) = false) (key : Key) :
    keys.length ≤ (others key keys).length + 1 := by
  induction keys with
  | nil => exact Nat.zero_le _
  | cons first rest inductionHypothesis =>
      obtain ⟨away, distinct⟩ := List.pairwise_cons.mp distinct
      have distinctRest := inductionHypothesis distinct
      unfold others at distinctRest ⊢
      rw [List.filter_cons]
      by_cases same : (first == key) = true
      · have all : (rest.filter fun candidate => !(candidate == key)) = rest := by
          rw [List.filter_eq_self]
          intro candidate member
          rw [BEq.comm, bne_of_beq (BEq.symm same) (away candidate member)]
          rfl
        rw [if_neg (by simp [same]), all]
        exact le_rfl
      · rw [if_pos (by simpa using same), List.length_cons, List.length_cons]
        exact Nat.succ_le_succ distinctRest

/-- Distinct keys that are all equal to one of a list are no more than the list is
long. -/
theorem length_le_of_covered {keys covering : List Key}
    (distinct : keys.Pairwise fun left right => (left == right) = false)
    (covered : ∀ key ∈ keys, ∃ other ∈ covering, (key == other) = true) :
    keys.length ≤ covering.length := by
  induction covering generalizing keys with
  | nil =>
      cases keys with
      | nil => exact Nat.le_refl _
      | cons key rest =>
          obtain ⟨other, member, -⟩ := covered key List.mem_cons_self
          cases member
  | cons first rest inductionHypothesis =>
      have fewer : (others first keys).length ≤ rest.length := by
        apply inductionHypothesis (distinct.filter _)
        intro key member
        rw [List.mem_filter, Bool.not_eq_true'] at member
        obtain ⟨other, present, equal⟩ := covered key member.1
        rcases List.mem_cons.mp present with rfl | later
        · rw [member.2] at equal
          cases equal
        · exact ⟨other, later, equal⟩
      have atMostOne := length_le_others distinct first
      rw [List.length_cons]
      omega

end UserspaceXdp.Foundation
