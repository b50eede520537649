import UserspaceXdp.Checksum.Csum
import UserspaceXdp.Runtime.Helpers

/-!
Contract: `bpf_csum_diff` as `module/helpers.c` and
`xdp_progs/includes/inline_csum.h` implement it.

Owns: the scratchpad and the two loops that fill it, the admission test, and
the two functions, which differ in the width of the sum of the sizes: when a
call is rejected, when it stores outside the scratchpad, and what
`csum_partial` is given otherwise.

Does not own: the caller's memory. The scratchpad is a local of the function, a
region apart from the two buffers it is filled from; its address and what it
holds at entry are arbitrary.
-/

namespace UserspaceXdp.Checksum

open UserspaceXdp.Foundation
open UserspaceXdp.Foundation.OnesComplement
open UserspaceXdp.Runtime

/-- The number of words of `sp->diff`: `MAX_BPF_STACK / sizeof(__be32)`. -/
def diffWords : Nat := 512 / 4

/-- `struct bpf_scratchpad`, with a record of the indices stored to. -/
structure Scratchpad where
  address : Nat
  memory : Memory
  stored : List Nat

def Scratchpad.fresh (address : Nat) (memory : Memory) : Scratchpad :=
  { address, memory, stored := [] }

/-- `sp->diff[j] = word`, for an index inside the array. -/
def Scratchpad.store (sp : Scratchpad) (j word : Nat) : Scratchpad :=
  { sp with
    memory := sp.memory.storeWord (sp.address + 4 * j) word 4
    stored := sp.stored ++ [j] }

/-- A loop `for (i = 0; i < count; i++, j++) sp->diff[j] = word(i);` from `i`
on: the value of `j` after it, or none once a store is outside the array. -/
def copyWords (word : Nat → Nat) : Nat → Nat → Nat → Scratchpad → Option (Nat × Scratchpad)
  | 0, _, j, sp => some (j, sp)
  | count + 1, i, j, sp =>
      if j < diffWords then copyWords word count (i + 1) (j + 1) (sp.store j (word i))
      else none

/-- How a call ends: with `-EINVAL`, with a store outside the scratchpad, or
with the value of `csum_partial` on so many bytes of the scratchpad. -/
inductive Outcome where
  | rejected
  | overrun
  | summed (sp : Scratchpad) (len value : Nat)

/-- The 64-bit value returned, if the function returns. -/
def Outcome.value : Outcome → Option Nat
  | .rejected => some negEinval
  | .overrun => none
  | .summed _ _ value => some value

section Functions

variable (memory : Memory) (sp : Scratchpad)

/-- The body that both functions have, with `diff_size` as each computes it. -/
def csumDiff (source fromSize target toSize diffSize seed : Nat) : Outcome :=
  if (fromSize ||| toSize) &&& 3 ≠ 0 ∨ 4 * diffWords < diffSize then .rejected
  else
    match copyWords (fun i => 2 ^ 32 - 1 - memory.loadWord (source + 4 * i) 4)
        (fromSize / 4) 0 0 sp with
    | none => .overrun
    | some (j, sp) =>
        match copyWords (fun i => memory.loadWord (target + 4 * i) 4) (toSize / 4) 0 j sp with
        | none => .overrun
        | some (_, sp) =>
            .summed sp diffSize (csumPartial sp.memory sp.address diffSize seed)

/-- The sizes are 64-bit numbers; `csum_partial` takes the low half of the seed. -/
def bpftimeCsumDiffRuntime (r1 fromSize r3 toSize seed : Nat) : Outcome :=
  csumDiff memory sp r1 fromSize r3 toSize ((fromSize + toSize) % 2 ^ 64) (seed % 2 ^ 32)

/-- `_bpf_helper_ext_0028`. The sum of the two `__u32` is one, too. -/
def bpfHelperExt0028 (source fromSize target toSize seed : Nat) : Outcome :=
  csumDiff memory sp source fromSize target toSize ((fromSize + toSize) % 2 ^ 32) seed

end Functions

/-! ## The scratchpad -/

theorem regionWords_store_last (sp : Scratchpad) (j word : Nat) :
    (sp.store j word).memory.loadWord (sp.address + 4 * j) 4 = word % 2 ^ 32 :=
  Memory.loadWord_storeWord _ _ _ _

/-- A loop that stays inside the array fills the words from `j` on. -/
theorem copyWords_spec (word : Nat → Nat) {count i j : Nat} (sp : Scratchpad)
    (fits : j + count ≤ diffWords) :
    ∃ final, copyWords word count i j sp = some (j + count, final) ∧
      final.address = sp.address ∧
      final.stored = sp.stored ++ List.range' j count ∧
      (∀ address < sp.address + 4 * j, final.memory address = sp.memory address) ∧
      regionWords final.memory 4 (sp.address + 4 * j) count =
        (List.range' i count).map fun index => word index % 2 ^ 32 := by
  induction count generalizing i j sp with
  | zero => exact ⟨sp, rfl, rfl, by simp, fun _ _ => rfl, rfl⟩
  | succ count inductionHypothesis =>
      obtain ⟨final, ran, address, stored, frame, words⟩ :=
        inductionHypothesis (sp.store j (word i)) (by omega : j + 1 + count ≤ diffWords)
      refine ⟨final, ?_, address, ?_, ?_, ?_⟩
      · rw [copyWords, if_pos (by omega), ran, Nat.add_right_comm, Nat.add_assoc]
      · rw [stored, Scratchpad.store, List.append_assoc, List.range'_succ]
        rfl
      · intro candidate below
        rw [frame candidate (by simp only [Scratchpad.store]; omega)]
        exact Memory.storeWord_other _ (Or.inl below)
      · have kept : final.memory.loadWord (sp.address + 4 * j) 4 = word i % 2 ^ 32 := by
          rw [← regionWords_store_last sp j (word i)]
          apply Memory.loadWord_congr
          intro candidate _ below
          exact frame candidate (by simp only [Scratchpad.store]; omega)
        have next : sp.address + 4 * j + 4 = (sp.store j (word i)).address + 4 * (j + 1) := by
          simp only [Scratchpad.store]
          omega
        rw [regionWords, List.range'_succ, List.map_cons, kept, next, words]

/-- A loop that is to store more words than the array has does so. -/
theorem copyWords_overrun {word : Nat → Nat} {count i j : Nat} (sp : Scratchpad)
    (inside : j ≤ diffWords) (long : diffWords < j + count) :
    copyWords word count i j sp = none := by
  induction count generalizing i j sp with
  | zero => omega
  | succ count inductionHypothesis =>
      rw [copyWords]
      split
      · exact inductionHypothesis _ (by omega) (by omega)
      · rfl

/-! ## One call -/

/-- The admission test, with the sizes one by one. -/
structure Admitted (fromSize toSize diffSize : Nat) : Prop where
  source : fromSize % 4 = 0
  target : toSize % 4 = 0
  total : diffSize ≤ 4 * diffWords

theorem low_bits_iff (fromSize toSize : Nat) :
    (fromSize ||| toSize) &&& 3 = 0 ↔ fromSize % 4 = 0 ∧ toSize % 4 = 0 := by
  have bits (size : Nat) : size &&& 3 = size % 4 := Nat.and_two_pow_sub_one_eq_mod size 2
  rw [Nat.and_or_distrib_right, Nat.or_eq_zero_iff, bits, bits]

theorem admitted_iff {fromSize toSize diffSize : Nat} :
    Admitted fromSize toSize diffSize ↔
      ¬((fromSize ||| toSize) &&& 3 ≠ 0 ∨ 4 * diffWords < diffSize) := by
  rw [not_or, not_not, low_bits_iff, Nat.not_lt]
  constructor
  · intro admitted
    exact ⟨⟨admitted.source, admitted.target⟩, admitted.total⟩
  · intro ⟨sizes, total⟩
    exact ⟨sizes.1, sizes.2, total⟩

/-- What the two loops are to store. -/
def diffContents (memory : Memory) (source fromSize target toSize : Nat) : List Nat :=
  (regionWords memory 4 source (fromSize / 4)).map (fun word => 2 ^ 32 - 1 - word) ++
    regionWords memory 4 target (toSize / 4)

section Calls

variable {memory stack : Memory} {address source fromSize target toSize diffSize seed : Nat}

theorem csumDiff_rejected (refused : ¬Admitted fromSize toSize diffSize) (sp : Scratchpad) :
    csumDiff memory sp source fromSize target toSize diffSize seed = .rejected := by
  rw [admitted_iff, not_not] at refused
  rw [csumDiff, if_pos refused]

theorem csumDiff_overrun (admitted : Admitted fromSize toSize diffSize)
    (long : diffWords < fromSize / 4 + toSize / 4) (sp : Scratchpad) :
    csumDiff memory sp source fromSize target toSize diffSize seed = .overrun := by
  rw [csumDiff, if_neg (admitted_iff.mp admitted)]
  by_cases first : 0 + fromSize / 4 ≤ diffWords
  · obtain ⟨final, ran, -⟩ := copyWords_spec _ (i := 0) sp first
    rw [ran]
    dsimp only
    rw [copyWords_overrun final (by omega) (by omega)]
  · rw [copyWords_overrun sp (Nat.zero_le _) (by omega)]

/-- The scratchpad once both loops have run inside it. -/
structure Filled (memory : Memory) (source fromSize target toSize base : Nat)
    (sp : Scratchpad) : Prop where
  address : sp.address = base
  stored : sp.stored = List.range (fromSize / 4 + toSize / 4)
  words : regionWords sp.memory 4 base (fromSize / 4 + toSize / 4) =
    diffContents memory source fromSize target toSize

/-- The first loop stores the complements of the words it reads. -/
theorem map_complement (memory : Memory) (source count : Nat) :
    ((List.range' 0 count).map fun i =>
        (2 ^ 32 - 1 - memory.loadWord (source + 4 * i) 4) % 2 ^ 32) =
      (regionWords memory 4 source count).map fun word => 2 ^ 32 - 1 - word := by
  rw [regionWords_eq_map, List.map_map, List.range_eq_range']
  apply List.map_congr_left
  intro i _
  exact Nat.mod_eq_of_lt (by omega)

/-- The second loop stores the words it reads. -/
theorem map_words (memory : Memory) (target count : Nat) :
    ((List.range' 0 count).map fun i => memory.loadWord (target + 4 * i) 4 % 2 ^ 32) =
      regionWords memory 4 target count := by
  rw [regionWords_eq_map, List.range_eq_range']
  apply List.map_congr_left
  intro i _
  exact Nat.mod_eq_of_lt (memory.loadWord_lt _ 4)

theorem csumDiff_summed (admitted : Admitted fromSize toSize diffSize)
    (fits : fromSize / 4 + toSize / 4 ≤ diffWords) :
    ∃ sp, Filled memory source fromSize target toSize address sp ∧
      csumDiff memory (.fresh address stack) source fromSize target toSize diffSize seed =
        .summed sp diffSize (csumPartial sp.memory address diffSize seed) := by
  obtain ⟨half, firstRan, halfAddress, halfStored, -, halfWords⟩ :=
    copyWords_spec (fun i => 2 ^ 32 - 1 - memory.loadWord (source + 4 * i) 4) (i := 0)
      (.fresh address stack) (by omega : 0 + fromSize / 4 ≤ diffWords)
  obtain ⟨sp, secondRan, spAddress, spStored, frame, spWords⟩ :=
    copyWords_spec (fun i => memory.loadWord (target + 4 * i) 4) (i := 0) half
      (by omega : 0 + fromSize / 4 + toSize / 4 ≤ diffWords)
  have whole : sp.address = address := spAddress.trans halfAddress
  refine ⟨sp, ⟨whole, ?_, ?_⟩, ?_⟩
  · rw [spStored, halfStored, List.range_eq_range', ← List.range'_append_1]
    rfl
  · have base : half.address = address := halfAddress
    have middle : address + 4 * (fromSize / 4) = half.address + 4 * (0 + fromSize / 4) := by
      omega
    have kept : regionWords sp.memory 4 address (fromSize / 4) =
        regionWords half.memory 4 address (fromSize / 4) := by
      apply regionWords_congr
      intro candidate _ below
      exact frame candidate (by omega)
    have first : regionWords half.memory 4 address (fromSize / 4) =
        (regionWords memory 4 source (fromSize / 4)).map fun word => 2 ^ 32 - 1 - word :=
      halfWords.trans (map_complement memory source _)
    rw [regionWords_append, kept, first, middle, spWords, map_words, diffContents]
  · rw [csumDiff, if_neg (admitted_iff.mp admitted), firstRan]
    dsimp only
    rw [secondRan]
    dsimp only
    rw [whole]

end Calls

/-! ## The width of the sum -/

/-- Both sizes are whole words, and their sum leaves `modulus` and comes back
below the limit. -/
def WrapsBelow (modulus fromSize toSize : Nat) : Prop :=
  fromSize % 4 = 0 ∧ toSize % 4 = 0 ∧ modulus ≤ fromSize + toSize ∧
    (fromSize + toSize) % modulus ≤ 512

/-- The test the code is after: whole words, and not too many. -/
def Proper (fromSize toSize : Nat) : Prop :=
  fromSize % 4 = 0 ∧ toSize % 4 = 0 ∧ fromSize + toSize ≤ 512

section Widths

variable {memory stack : Memory} {address source fromSize target toSize seed modulus : Nat}

theorem csumDiff_of_wrapsBelow (wide : 512 < modulus)
    (wraps : WrapsBelow modulus fromSize toSize) (sp : Scratchpad) :
    csumDiff memory sp source fromSize target toSize ((fromSize + toSize) % modulus) seed =
      .overrun := by
  obtain ⟨sourceWords, targetWords, leaves, small⟩ := wraps
  apply csumDiff_overrun ⟨sourceWords, targetWords, small⟩
  show 128 < fromSize / 4 + toSize / 4
  omega

theorem csumDiff_of_proper (memory stack : Memory) (address source target seed : Nat)
    (wide : 512 < modulus) (proper : Proper fromSize toSize) :
    ∃ sp, Filled memory source fromSize target toSize address sp ∧
      csumDiff memory (.fresh address stack) source fromSize target toSize
          ((fromSize + toSize) % modulus) seed =
        .summed sp (fromSize + toSize)
          (csumPartial sp.memory address (fromSize + toSize) seed) := by
  obtain ⟨sourceWords, targetWords, small⟩ := proper
  rw [Nat.mod_eq_of_lt (Nat.lt_of_le_of_lt small wide)]
  apply csumDiff_summed ⟨sourceWords, targetWords, small⟩
  show fromSize / 4 + toSize / 4 ≤ 128
  omega

/-- `bpf_csum_diff(0, 0, buff, size, seed)`, for whole words: the sum of the
buffer, wherever the scratchpad is and whatever it held. -/
theorem csumDiffRuntime_region {count : Nat} (few : count ≤ 128) (memory stack : Memory)
    (address buff seed : Nat) :
    (bpftimeCsumDiffRuntime memory (.fresh address stack) 0 0 buff (4 * count) seed).value =
      some (csumPartial memory buff (4 * count) (seed % 2 ^ 32)) := by
  have proper : Proper 0 (4 * count) := ⟨rfl, Nat.mul_mod_right 4 count, by omega⟩
  have ⟨sp, filled, summed⟩ := csumDiff_of_proper memory stack address 0 buff (seed % 2 ^ 32)
    (by decide : 512 < 2 ^ 64) proper
  have words := filled.words
  have sizes : 0 / 4 + 4 * count / 4 = count := by omega
  have contents : diffContents memory 0 0 buff (4 * count) = regionWords memory 4 buff count := by
    rw [diffContents, Nat.mul_div_cancel_left count (by decide)]
    rfl
  rw [sizes, contents] at words
  rw [bpftimeCsumDiffRuntime, summed, Outcome.value, Nat.zero_add, csumPartial_of_words words]

/-- What is left of the result in the 32 bits that the programs keep. -/
theorem csumDiffRuntime_word {count seed : Nat} (few : count ≤ 128) (small : seed < 2 ^ 32)
    (memory stack : Memory) (address buff : Nat) :
    (bpftimeCsumDiffRuntime memory (.fresh address stack) 0 0 buff (4 * count) seed).value.getD 0 %
        2 ^ 32 =
      csumPartial memory buff (4 * count) seed := by
  rw [csumDiffRuntime_region few, Nat.mod_eq_of_lt small, Option.getD_some]
  exact Nat.mod_eq_of_lt (csumPartial_lt small memory buff (4 * count))

theorem csumDiff_of_improper (improper : ¬Proper fromSize toSize)
    (stays : ¬WrapsBelow modulus fromSize toSize) (sp : Scratchpad) :
    csumDiff memory sp source fromSize target toSize ((fromSize + toSize) % modulus) seed =
      .rejected := by
  apply csumDiff_rejected
  intro ⟨sourceWords, targetWords, total⟩
  by_cases leaves : modulus ≤ fromSize + toSize
  · exact stays ⟨sourceWords, targetWords, leaves, total⟩
  · rw [Nat.mod_eq_of_lt (Nat.lt_of_not_le leaves)] at total
    exact improper ⟨sourceWords, targetWords, total⟩

end Widths

/-! ## Admission -/

/-- A call is rejected for its sizes alone, and a call that is not rejected
stores the words of both buffers inside the scratchpad, each once, and hands
exactly these to `csum_partial`. -/
structure AdmissionExact (memory : Memory) (source fromSize target toSize address seed : Nat)
    (outcome : Outcome) : Prop where
  rejected_iff : outcome = .rejected ↔
    fromSize % 4 ≠ 0 ∨ toSize % 4 ≠ 0 ∨ 512 < fromSize + toSize
  accepted : outcome ≠ .rejected → ∃ sp,
    outcome = .summed sp (4 * sp.stored.length)
        (csumPartial sp.memory address (4 * sp.stored.length) seed) ∧
      (∀ j ∈ sp.stored, j < 128) ∧
      sp.stored.length = (fromSize + toSize) / 4 ∧
      Filled memory source fromSize target toSize address sp

theorem AdmissionExact.of_proper {memory stack : Memory}
    {address source fromSize target toSize seed modulus : Nat} (wide : 512 < modulus)
    (proper : Proper fromSize toSize) :
    AdmissionExact memory source fromSize target toSize address seed
      (csumDiff memory (.fresh address stack) source fromSize target toSize
        ((fromSize + toSize) % modulus) seed) := by
  obtain ⟨sp, filled, ran⟩ :=
    csumDiff_of_proper memory stack address source target seed wide proper
  obtain ⟨sourceWords, targetWords, small⟩ := proper
  have length : sp.stored.length = (fromSize + toSize) / 4 := by
    rw [filled.stored, List.length_range]
    omega
  have bytes : 4 * sp.stored.length = fromSize + toSize := by omega
  rw [ran]
  constructor
  · constructor
    · nofun
    · omega
  · intro _
    refine ⟨sp, by rw [bytes], ?_, length, filled⟩
    intro j member
    rw [filled.stored, List.mem_range] at member
    omega

/-- A sum of sizes that wraps in 64 bits is the one thing the test misses. -/
theorem csumDiffRuntime_admission_exact_iff (memory stack : Memory)
    (address source fromSize target toSize seed : Nat) :
    AdmissionExact memory source fromSize target toSize address (seed % 2 ^ 32)
        (bpftimeCsumDiffRuntime memory (.fresh address stack) source fromSize target toSize
          seed) ↔
      ¬WrapsBelow (2 ^ 64) fromSize toSize := by
  unfold bpftimeCsumDiffRuntime
  constructor
  · intro exact wraps
    rw [csumDiff_of_wrapsBelow (by decide) wraps] at exact
    obtain ⟨sp, summed, -⟩ := exact.accepted nofun
    cases summed
  · intro stays
    by_cases proper : Proper fromSize toSize
    · exact AdmissionExact.of_proper (by decide) proper
    · rw [csumDiff_of_improper proper stays]
      constructor
      · have reasons : fromSize % 4 ≠ 0 ∨ toSize % 4 ≠ 0 ∨ 512 < fromSize + toSize := by
          unfold Proper at proper
          omega
        exact ⟨fun _ => reasons, fun _ => rfl⟩
      · intro impossible
        exact absurd rfl impossible

/-- Four bytes short of 2^64, and eight more. -/
theorem csumDiffRuntime_overruns_scratchpad :
    ¬AdmissionExact (fun _ => 0) 0 (2 ^ 64 - 4) 0 8 0 0
      (bpftimeCsumDiffRuntime (fun _ => 0) (.fresh 0 fun _ => 0) 0 (2 ^ 64 - 4) 0 8 0) := by
  intro exact
  have wraps : WrapsBelow (2 ^ 64) (2 ^ 64 - 4) 8 := by
    unfold WrapsBelow
    decide
  have overrun : bpftimeCsumDiffRuntime (fun _ => 0) (.fresh 0 fun _ => 0) 0 (2 ^ 64 - 4) 0 8 0 =
      .overrun :=
    csumDiff_of_wrapsBelow (by decide) wraps _
  rw [overrun] at exact
  obtain ⟨sp, summed, -⟩ := exact.accepted nofun
  cases summed

/-! ## The two functions -/

/-- The inlined function does what the runtime does: the value, the rejections,
and stores inside the scratchpad only. -/
structure Agrees (inline runtime : Outcome) : Prop where
  value : inline.value = runtime.value
  rejected_iff : inline = .rejected ↔ runtime = .rejected
  inlineInside : inline ≠ .overrun
  runtimeInside : runtime ≠ .overrun

/-- The narrower sum of the inlined function wraps where the other one does not. -/
theorem csumDiff_inline_agrees_iff {fromSize toSize seed : Nat}
    (memory inlineStack runtimeStack : Memory)
    (inlineAddress runtimeAddress source target : Nat)
    (fromSmall : fromSize < 2 ^ 32) (toSmall : toSize < 2 ^ 32) (seedSmall : seed < 2 ^ 32) :
    Agrees
        (bpfHelperExt0028 memory (.fresh inlineAddress inlineStack) source fromSize target
          toSize seed)
        (bpftimeCsumDiffRuntime memory (.fresh runtimeAddress runtimeStack) source fromSize
          target toSize seed) ↔
      ¬WrapsBelow (2 ^ 32) fromSize toSize := by
  have stays : ¬WrapsBelow (2 ^ 64) fromSize toSize := by
    intro ⟨_, _, leaves, _⟩
    omega
  unfold bpfHelperExt0028 bpftimeCsumDiffRuntime
  rw [Nat.mod_eq_of_lt seedSmall]
  constructor
  · intro agrees wraps
    exact agrees.inlineInside (csumDiff_of_wrapsBelow (by decide) wraps _)
  · intro inlineStays
    by_cases proper : Proper fromSize toSize
    · obtain ⟨inline, inlineFilled, inlineRan⟩ :=
        csumDiff_of_proper memory inlineStack inlineAddress source target seed
          (by decide : 512 < 2 ^ 32) proper
      obtain ⟨runtime, runtimeFilled, runtimeRan⟩ :=
        csumDiff_of_proper memory runtimeStack runtimeAddress source target seed
          (by decide : 512 < 2 ^ 64) proper
      have bytes : 4 * (fromSize / 4 + toSize / 4) = fromSize + toSize := by
        unfold Proper at proper
        omega
      have values := csumPartial_of_words
        (inlineFilled.words.trans runtimeFilled.words.symm) seed
      rw [bytes] at values
      rw [inlineRan, runtimeRan]
      constructor
      · exact congrArg some values
      · exact ⟨nofun, nofun⟩
      · nofun
      · nofun
    · rw [csumDiff_of_improper proper inlineStays, csumDiff_of_improper proper stays]
      constructor
      · rfl
      · exact Iff.rfl
      · nofun
      · nofun

theorem csumDiff_inline_agrees_on_one_word :
    Agrees
      (bpfHelperExt0028 (fun address => UInt8.ofNat address) (.fresh 0x1000 fun _ => 0)
        16 4 32 4 0xfffe)
      (bpftimeCsumDiffRuntime (fun address => UInt8.ofNat address) (.fresh 0x2002 fun _ => 1)
        16 4 32 4 0xfffe) := by
  apply (csumDiff_inline_agrees_iff _ _ _ _ _ _ _ (by decide) (by decide) (by decide)).mpr
  intro ⟨_, _, leaves, _⟩
  exact absurd leaves (by decide)

/-- Four bytes short of 2^32, and eight more. -/
theorem csumDiff_inline_overruns_scratchpad :
    ¬Agrees
      (bpfHelperExt0028 (fun _ => 0) (.fresh 0 fun _ => 0) 0 (2 ^ 32 - 4) 0 8 0)
      (bpftimeCsumDiffRuntime (fun _ => 0) (.fresh 0 fun _ => 0) 0 (2 ^ 32 - 4) 0 8 0) := by
  intro agrees
  have wraps : WrapsBelow (2 ^ 32) (2 ^ 32 - 4) 8 := by
    unfold WrapsBelow
    decide
  exact agrees.inlineInside (csumDiff_of_wrapsBelow (by decide) wraps _)

end UserspaceXdp.Checksum
