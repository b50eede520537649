import UserspaceXdp.Foundation.Memory

/-!
Contract: `bpf_strncmp` of `tcpclassify.bpf.aot.c`, with its fast path for four
bytes.

Owns: the two loops of the function, what each returns in terms of the first
difference, and when the fast path returns what the other one would.

Does not own: who compares what. A string is a pointer, given by the bytes
behind it.
-/

namespace UserspaceXdp.Programs

open UserspaceXdp.Foundation

/-! ## The function -/

/-- `(unsigned char)left - (unsigned char)right`. -/
def byteDifference (left right : UInt8) : Int :=
  (left.toNat : Int) - right.toNat

/-- A loop over the bytes from `i` on that returns the difference of two that
differ, and stops after two equal bytes that `stop` accepts. -/
def compareBytes (stop : UInt8 → Bool) (s1 s2 : Nat → UInt8) : Nat → Nat → Int
  | 0, _ => 0
  | count + 1, i =>
      if s1 i ≠ s2 i then byteDifference (s1 i) (s2 i)
      else if stop (s1 i) then 0
      else compareBytes stop s1 s2 count (i + 1)

/-- `find the first differing character`. -/
def firstDiffering (s1 : Nat → UInt8) (n : UInt32) (s2 : Nat → UInt8) : Int :=
  compareBytes (fun _ => false) s1 s2 n.toNat 0

/-- `normal comparison for other lengths`, which is C's `strncmp`. -/
def normalComparison (s1 : Nat → UInt8) (n : UInt32) (s2 : Nat → UInt8) : Int :=
  compareBytes (fun byte => byte = 0) s1 s2 n.toNat 0

def bpfStrncmp (s1 : Nat → UInt8) (n : UInt32) (s2 : Nat → UInt8) : Int :=
  if n = 4 then
    let i1 := Memory.loadWord s1 0 4
    let i2 := Memory.loadWord s2 0 4
    if i1 ≠ i2 then firstDiffering s1 n s2 else 0
  else normalComparison s1 n s2

/-! ## The loops -/

section Loops

variable {stop : UInt8 → Bool} {s1 s2 : Nat → UInt8} {count start distance : Nat}

theorem compareBytes_of_equal (same : ∀ l < count, s1 (start + l) = s2 (start + l)) :
    compareBytes stop s1 s2 count start = 0 := by
  induction count generalizing start with
  | zero => rfl
  | succ count inductionHypothesis =>
      have here : s1 start = s2 start := same 0 (Nat.succ_pos count)
      have rest : ∀ l < count, s1 (start + 1 + l) = s2 (start + 1 + l) := by
        intro l below
        rw [Nat.add_assoc, Nat.add_comm 1]
        exact same (l + 1) (by omega)
      rw [compareBytes, if_neg (not_not.mpr here), inductionHypothesis rest, ite_self]

/-- The first difference is returned if the loop gets there. -/
theorem compareBytes_of_difference (below : distance < count)
    (same : ∀ l < distance, s1 (start + l) = s2 (start + l))
    (goesOn : ∀ l < distance, stop (s1 (start + l)) = false)
    (differs : s1 (start + distance) ≠ s2 (start + distance)) :
    compareBytes stop s1 s2 count start =
      byteDifference (s1 (start + distance)) (s2 (start + distance)) := by
  induction distance generalizing start count with
  | zero =>
      obtain ⟨count, rfl⟩ := Nat.exists_eq_succ_of_ne_zero (Nat.ne_of_gt below)
      exact if_pos differs
  | succ distance inductionHypothesis =>
      obtain ⟨count, rfl⟩ := Nat.exists_eq_succ_of_ne_zero (Nat.ne_of_gt (by omega : 0 < count))
      have shift (l : Nat) : start + 1 + l = start + (l + 1) := by omega
      have here : s1 start = s2 start := same 0 (Nat.succ_pos distance)
      have silent : stop (s1 start) = false := goesOn 0 (Nat.succ_pos distance)
      have later := @inductionHypothesis count (start + 1) (by omega)
      simp only [shift] at later
      rw [compareBytes, if_neg (not_not.mpr here), silent]
      exact later (fun l before => same (l + 1) (by omega))
        (fun l before => goesOn (l + 1) (by omega)) differs

/-- Behind a byte that stops the loop nothing counts. -/
theorem compareBytes_of_stop (below : distance < count)
    (same : ∀ l ≤ distance, s1 (start + l) = s2 (start + l))
    (stops : stop (s1 (start + distance)) = true) :
    compareBytes stop s1 s2 count start = 0 := by
  induction distance generalizing start count with
  | zero =>
      obtain ⟨count, rfl⟩ := Nat.exists_eq_succ_of_ne_zero (Nat.ne_of_gt below)
      have here : s1 start = s2 start := same 0 (le_refl 0)
      have now : stop (s1 start) = true := stops
      rw [compareBytes, if_neg (not_not.mpr here), if_pos now]
  | succ distance inductionHypothesis =>
      obtain ⟨count, rfl⟩ := Nat.exists_eq_succ_of_ne_zero (Nat.ne_of_gt (by omega : 0 < count))
      have shift (l : Nat) : start + 1 + l = start + (l + 1) := by omega
      have here : s1 start = s2 start := same 0 (Nat.zero_le _)
      have later := @inductionHypothesis count (start + 1) (by omega)
      simp only [shift] at later
      rw [compareBytes, if_neg (not_not.mpr here),
        later (fun l before => same (l + 1) (by omega)) stops, ite_self]

/-- Either the strings agree, or there is a first difference. -/
theorem equal_or_first_difference (s1 s2 : Nat → UInt8) (count : Nat) :
    (∀ l < count, s1 l = s2 l) ∨
      ∃ distance < count, s1 distance ≠ s2 distance ∧ ∀ l < distance, s1 l = s2 l := by
  by_cases equal : ∀ l < count, s1 l = s2 l
  · exact Or.inl equal
  · have differs : ∃ l, l < count ∧ s1 l ≠ s2 l := by simpa using equal
    obtain ⟨below, here⟩ := Nat.find_spec differs
    refine Or.inr ⟨Nat.find differs, below, here, fun l before => ?_⟩
    by_contra other
    exact Nat.find_min differs before ⟨by omega, other⟩

theorem byteDifference_ne_zero {left right : UInt8} (differs : left ≠ right) :
    byteDifference left right ≠ 0 := by
  intro zero
  unfold byteDifference at zero
  apply differs
  rw [← UInt8.toNat_inj]
  omega

/-- Where no byte stops it, the loop returns zero for equal bytes only. -/
theorem compareBytes_eq_zero_iff (goesOn : ∀ l < count, stop (s2 l) = false) :
    compareBytes stop s1 s2 count 0 = 0 ↔ ∀ l < count, s1 l = s2 l := by
  constructor
  · intro zero
    rcases equal_or_first_difference s1 s2 count with equal | ⟨distance, below, differs, same⟩
    · exact equal
    · have silent : ∀ l < distance, stop (s1 (0 + l)) = false := by
        intro l before
        rw [Nat.zero_add, same l before]
        exact goesOn l (by omega)
      have returned := compareBytes_of_difference below (by simpa using same) silent
        (by simpa using differs)
      rw [Nat.zero_add, zero] at returned
      exact absurd returned.symm (byteDifference_ne_zero differs)
  · intro equal
    exact compareBytes_of_equal (by simpa using equal)

end Loops

/-! ## The two paths -/

variable {s1 s2 : Nat → UInt8} {n : UInt32}

/-- The strings differ within `n` bytes, and before the first difference they end. -/
def EndBeforeDifference (s1 : Nat → UInt8) (n : UInt32) (s2 : Nat → UInt8) : Prop :=
  ∃ distance < n.toNat, s1 distance ≠ s2 distance ∧ (∀ l < distance, s1 l = s2 l) ∧
    ∃ l < distance, s1 l = 0

/-- On four bytes the function returns the first difference. -/
theorem bpfStrncmp_four (s1 s2 : Nat → UInt8) :
    bpfStrncmp s1 4 s2 = firstDiffering s1 4 s2 := by
  unfold bpfStrncmp
  dsimp only
  rw [if_pos rfl]
  by_cases words : Memory.loadWord s1 0 4 = Memory.loadWord s2 0 4
  · have same := Memory.loadWord_eq_iff.mp words
    rw [if_neg (not_not.mpr words)]
    exact (compareBytes_of_equal same).symm
  · rw [if_pos words]

theorem firstDiffering_eq_normalComparison_iff (s1 : Nat → UInt8) (n : UInt32)
    (s2 : Nat → UInt8) :
    firstDiffering s1 n s2 = normalComparison s1 n s2 ↔ ¬ EndBeforeDifference s1 n s2 := by
  unfold firstDiffering normalComparison
  rcases equal_or_first_difference s1 s2 n.toNat with equal | ⟨distance, below, differs, same⟩
  · have shifted : ∀ l < n.toNat, s1 (0 + l) = s2 (0 + l) := by simpa using equal
    rw [compareBytes_of_equal shifted, compareBytes_of_equal shifted]
    exact ⟨fun _ ⟨distance, below, differs, _⟩ => differs (equal distance below), fun _ => rfl⟩
  · have shifted : ∀ l < distance, s1 (0 + l) = s2 (0 + l) := by simpa using same
    rw [compareBytes_of_difference below shifted (fun _ _ => rfl) (by simpa using differs),
      Nat.zero_add]
    by_cases ends : ∃ l < distance, s1 l = 0
    · -- The loop stops at the end of the strings.
      obtain ⟨l, before, nul⟩ := ends
      have stopped : compareBytes (fun byte => byte = 0) s1 s2 n.toNat 0 = 0 :=
        compareBytes_of_stop (by omega : l < n.toNat) (fun j upTo => shifted j (by omega))
          (by simpa using nul)
      rw [stopped]
      exact ⟨fun zero => absurd zero (byteDifference_ne_zero differs),
        fun never => absurd ⟨distance, below, differs, same, l, before, nul⟩ never⟩
    · -- It gets to the first difference, which is the only one there is.
      have goesOn : ∀ l < distance, decide (s1 (0 + l) = 0) = false := by simpa using ends
      rw [compareBytes_of_difference below shifted goesOn (by simpa using differs), Nat.zero_add]
      refine ⟨fun _ ⟨other, _, otherDiffers, otherSame, l, before, nul⟩ => ?_, fun _ => rfl⟩
      rcases Nat.lt_or_ge distance other with later | upTo
      · exact differs (otherSame distance later)
      · exact ends ⟨l, by omega, nul⟩

/-- The fast path returns what the loop would unless the strings end before they
differ. -/
theorem bpfStrncmp_eq_normalComparison_iff (s1 : Nat → UInt8) (n : UInt32) (s2 : Nat → UInt8) :
    bpfStrncmp s1 n s2 = normalComparison s1 n s2 ↔
      (n = 4 → ¬ EndBeforeDifference s1 n s2) := by
  by_cases four : n = 4
  · subst four
    rw [bpfStrncmp_four, firstDiffering_eq_normalComparison_iff]
    simp
  · simp [bpfStrncmp, four]

/-- `"a\0bc"` and `"a\0xy"` are equal strings. -/
theorem bpfStrncmp_compares_past_end :
    ¬ bpfStrncmp (fun i => [0x61, 0, 0x62, 0x63].getD i 0) 4
        (fun i => [0x61, 0, 0x78, 0x79].getD i 0) =
      normalComparison (fun i => [0x61, 0, 0x62, 0x63].getD i 0) 4
        (fun i => [0x61, 0, 0x78, 0x79].getD i 0) := by
  decide

/-! ## A literal without NUL -/

theorem normalComparison_eq_zero_iff (noNul : ∀ l < n.toNat, s2 l ≠ 0) :
    normalComparison s1 n s2 = 0 ↔ ∀ l < n.toNat, s1 l = s2 l :=
  compareBytes_eq_zero_iff (by simpa using noNul)

theorem bpfStrncmp_four_eq_zero_iff : bpfStrncmp s1 4 s2 = 0 ↔ ∀ l < 4, s1 l = s2 l := by
  rw [bpfStrncmp_four]
  exact compareBytes_eq_zero_iff fun _ _ => rfl

end UserspaceXdp.Programs
