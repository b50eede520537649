import Mathlib.Data.List.Infix
import Mathlib.Tactic

/-!
Contract: tables with words for keys, searched for the longest prefix.

Owns: the longest match of a word as one pass over its prefixes, what that pass
returns in terms of prefixes, the two ways a log of writes determines a table
(the first write of a key counts, or the last one), and which write of the log a
search in such a table finds.

Does not own: how a table is stored.
-/

namespace UserspaceXdp.Foundation

variable {Symbol Value : Type}

/-! ## Longest match -/

/-- One more symbol: the prefix grows, and its value replaces the one found. -/
def matchStep (table : List Symbol → Option Value) (scan : List Symbol × Option Value)
    (symbol : Symbol) : List Symbol × Option Value :=
  (scan.1 ++ [symbol], (table (scan.1 ++ [symbol])).or scan.2)

/-- The value of the longest prefix that has one. -/
def longestMatch (table : List Symbol → Option Value) (word : List Symbol) : Option Value :=
  (word.foldl (matchStep table) ([], table [])).2

theorem foldl_matchStep_fst (table : List Symbol → Option Value) (word : List Symbol)
    (scan : List Symbol × Option Value) :
    (word.foldl (matchStep table) scan).1 = scan.1 ++ word := by
  induction word generalizing scan with
  | nil => simp
  | cons symbol rest inductionHypothesis => simp [inductionHypothesis, matchStep]

@[simp] theorem longestMatch_nil (table : List Symbol → Option Value) :
    longestMatch table [] = table [] := rfl

theorem longestMatch_concat (table : List Symbol → Option Value) (word : List Symbol)
    (symbol : Symbol) :
    longestMatch table (word ++ [symbol]) =
      (table (word ++ [symbol])).or (longestMatch table word) := by
  have seen := foldl_matchStep_fst table word ([], table [])
  simp only [List.nil_append] at seen
  simp only [longestMatch, List.foldl_append, List.foldl_cons, List.foldl_nil, matchStep, seen]

theorem longestMatch_eq_none_iff {table : List Symbol → Option Value} {word : List Symbol} :
    longestMatch table word = none ↔ ∀ key, key <+: word → table key = none := by
  induction word using List.reverseRecOn with
  | nil => simp
  | append_singleton word symbol inductionHypothesis =>
      rw [longestMatch_concat, Option.or_eq_none_iff, inductionHypothesis]
      constructor
      · rintro ⟨whole, shorter⟩ key within
        rcases List.prefix_concat_iff.mp within with rfl | within
        · exact whole
        · exact shorter key within
      · intro nothing
        refine ⟨nothing _ (List.prefix_refl _), fun key within => nothing key ?_⟩
        exact within.trans (List.prefix_append word [symbol])

theorem longestMatch_eq_some_iff {table : List Symbol → Option Value} {word : List Symbol}
    {value : Value} :
    longestMatch table word = some value ↔
      ∃ key, key <+: word ∧ table key = some value ∧
        ∀ longer, longer <+: word → key.length < longer.length → table longer = none := by
  induction word using List.reverseRecOn with
  | nil =>
      rw [longestMatch_nil]
      constructor
      · intro held
        refine ⟨[], List.prefix_refl [], held, fun longer within => ?_⟩
        rw [List.prefix_nil.mp within]
        exact fun longer => absurd longer (lt_irrefl _)
      · rintro ⟨key, within, held, -⟩
        rwa [List.prefix_nil.mp within] at held
  | append_singleton word symbol inductionHypothesis =>
      rw [longestMatch_concat]
      cases whole : table (word ++ [symbol]) with
      | some found =>
          rw [Option.some_or]
          constructor
          · rintro same
            refine ⟨word ++ [symbol], List.prefix_refl _, whole.trans same, ?_⟩
            intro longer within longerLength
            exact absurd (within.length_le) (Nat.not_le.mpr longerLength)
          · rintro ⟨key, within, held, maximal⟩
            rcases List.prefix_concat_iff.mp within with rfl | shorter
            · exact whole.symm.trans held
            · have below : key.length < (word ++ [symbol]).length := by
                have := shorter.length_le
                rw [List.length_append, List.length_singleton]
                omega
              exact absurd (maximal _ (List.prefix_refl _) below) (by rw [whole]; exact nofun)
      | none =>
          rw [Option.none_or, inductionHypothesis]
          constructor
          · rintro ⟨key, within, held, maximal⟩
            refine ⟨key, within.trans (List.prefix_append _ _), held, ?_⟩
            intro longer longerWithin longerLength
            rcases List.prefix_concat_iff.mp longerWithin with rfl | shorter
            · exact whole
            · exact maximal longer shorter longerLength
          · rintro ⟨key, within, held, maximal⟩
            rcases List.prefix_concat_iff.mp within with rfl | shorter
            · exact absurd (whole.symm.trans held) nofun
            · refine ⟨key, shorter, held, fun longer longerWithin => ?_⟩
              exact maximal longer (longerWithin.trans (List.prefix_append _ _))

/-- Only the prefixes of the word count. -/
theorem longestMatch_congr {left right : List Symbol → Option Value} {word : List Symbol}
    (same : ∀ key, key <+: word → left key = right key) :
    longestMatch left word = longestMatch right word := by
  induction word using List.reverseRecOn with
  | nil => exact same [] (List.prefix_refl _)
  | append_singleton word symbol inductionHypothesis =>
      rw [longestMatch_concat, longestMatch_concat, same _ (List.prefix_refl _)]
      rw [inductionHypothesis fun key within => same key (within.trans (List.prefix_append _ _))]

/-- If all keys have one length, only one prefix can match. -/
theorem longestMatch_of_length {table : List Symbol → Option Value} {length : Nat}
    (uniform : ∀ key, table key ≠ none → key.length = length) {word : List Symbol}
    (within : length ≤ word.length) :
    longestMatch table word = table (word.take length) := by
  cases held : table (word.take length) with
  | some value =>
      rw [longestMatch_eq_some_iff]
      refine ⟨word.take length, List.take_prefix _ _, held, fun longer _ longerLength => ?_⟩
      by_contra defined
      rw [uniform longer defined, List.length_take, Nat.min_eq_left within] at longerLength
      exact lt_irrefl _ longerLength
  | none =>
      rw [longestMatch_eq_none_iff]
      intro key keyWithin
      by_contra defined
      have exactly := List.prefix_iff_eq_take.mp keyWithin
      rw [uniform key defined] at exactly
      exact defined (exactly ▸ held)

/-! ## Longest keys -/

section Keys

variable {Item : Type} {key : Item → List Symbol} {items : List Item} {word : List Symbol}

/-- The first of the items with the longest key that the word begins with. -/
structure EarliestLongest (key : Item → List Symbol) (items : List Item) (word : List Symbol)
    (winner : Item) : Prop where
  fits : key winner <+: word
  longest : ∀ item ∈ items, key item <+: word → (key item).length ≤ (key winner).length
  earliest : ∃ before after, items = before ++ winner :: after ∧
    ∀ item ∈ before, key item <+: word → (key item).length ≠ (key winner).length

/-- The last of the items with the longest key that the word begins with. -/
structure LatestLongest (key : Item → List Symbol) (items : List Item) (word : List Symbol)
    (winner : Item) : Prop where
  fits : key winner <+: word
  longest : ∀ item ∈ items, key item <+: word → (key item).length ≤ (key winner).length
  latest : ∃ before after, items = before ++ winner :: after ∧
    ∀ item ∈ after, key item <+: word → (key item).length ≠ (key winner).length

theorem earliestLongest_reverse_iff {winner : Item} :
    EarliestLongest key items.reverse word winner ↔ LatestLongest key items word winner := by
  constructor
  · intro selected
    obtain ⟨after, before, split, others⟩ := selected.earliest
    refine ⟨selected.fits, fun item member => ?_, before.reverse, after.reverse, ?_, ?_⟩
    · exact selected.longest item (List.mem_reverse.mpr member)
    · rw [← List.reverse_reverse items, split]
      simp
    · intro item member
      exact others item (List.mem_reverse.mp member)
  · intro selected
    obtain ⟨before, after, split, others⟩ := selected.latest
    refine ⟨selected.fits, fun item member => ?_, after.reverse, before.reverse, ?_, ?_⟩
    · exact selected.longest item (List.mem_reverse.mp member)
    · rw [split]
      simp
    · intro item member
      exact others item (List.mem_reverse.mp member)

end Keys

/-! ## Logs of writes -/

variable [DecidableEq Symbol]

/-- The first write of a key counts. -/
def firstStored (log : List (List Symbol × Value)) (key : List Symbol) : Option Value :=
  (log.find? fun write => write.1 = key).map Prod.snd

/-- The last write of a key counts. -/
def lastStored (log : List (List Symbol × Value)) (key : List Symbol) : Option Value :=
  firstStored log.reverse key

theorem firstStored_concat (log : List (List Symbol × Value)) (write : List Symbol × Value)
    (key : List Symbol) :
    firstStored (log ++ [write]) key =
      (firstStored log key).or (if write.1 = key then some write.2 else none) := by
  unfold firstStored
  rw [List.find?_append]
  cases log.find? fun write => write.1 = key with
  | some found => rfl
  | none =>
      by_cases same : write.1 = key
      · simp [same]
      · simp [same]

theorem firstStored_eq_none_iff {log : List (List Symbol × Value)} {key : List Symbol} :
    firstStored log key = none ↔ ∀ write ∈ log, write.1 ≠ key := by
  simp [firstStored]

theorem firstStored_eq_some_iff {log : List (List Symbol × Value)} {key : List Symbol}
    {value : Value} :
    firstStored log key = some value ↔
      ∃ before after, log = before ++ (key, value) :: after ∧ ∀ write ∈ before, write.1 ≠ key := by
  unfold firstStored
  rw [Option.map_eq_some_iff]
  constructor
  · rintro ⟨write, found, rfl⟩
    obtain ⟨same, before, after, split, others⟩ := List.find?_eq_some_iff_append.mp found
    have same : write.1 = key := by simpa using same
    subst same
    exact ⟨before, after, split, fun other member => by simpa using others other member⟩
  · rintro ⟨before, after, rfl, others⟩
    refine ⟨(key, value), ?_, rfl⟩
    rw [List.find?_eq_some_iff_append]
    refine ⟨by simp, before, after, rfl, fun write member => ?_⟩
    simpa using others write member

/-! ## Which write is found -/

section Selection

variable {Item : Type} {key : Item → List Symbol} {value : Item → Value}
  {items : List Item} {word : List Symbol}

theorem longestMatch_firstStored_eq_none_iff :
    longestMatch (firstStored (items.map fun item => (key item, value item))) word = none ↔
      ∀ item ∈ items, ¬ key item <+: word := by
  rw [longestMatch_eq_none_iff]
  constructor
  · intro nothing item member within
    have absent := firstStored_eq_none_iff.mp (nothing (key item) within)
    exact absent _ (List.mem_map_of_mem member) rfl
  · intro nothing found within
    rw [firstStored_eq_none_iff]
    intro write member same
    obtain ⟨item, known, rfl⟩ := List.mem_map.mp member
    change key item = found at same
    exact nothing item known (same ▸ within)

theorem longestMatch_firstStored_eq_some_iff {result : Value} :
    longestMatch (firstStored (items.map fun item => (key item, value item))) word =
        some result ↔
      ∃ winner, EarliestLongest key items word winner ∧ value winner = result := by
  rw [longestMatch_eq_some_iff]
  constructor
  · intro ⟨found, within, stored, maximal⟩
    obtain ⟨before, after, split, earlier⟩ := firstStored_eq_some_iff.mp stored
    obtain ⟨earlierItems, rest, rfl, rfl, restEq⟩ := List.map_eq_append_iff.mp split
    obtain ⟨winner, following, rfl, same, -⟩ := List.map_eq_cons_iff.mp restEq
    obtain ⟨rfl, rfl⟩ := Prod.mk.inj same
    refine ⟨winner, ⟨within, ?_, earlierItems, following, rfl, ?_⟩, rfl⟩
    · intro item member itemWithin
      by_contra beyond
      have absent := firstStored_eq_none_iff.mp
        (maximal (key item) itemWithin (Nat.lt_of_not_le beyond))
      exact absent _ (List.mem_map_of_mem member) rfl
    · intro item member itemWithin equally
      -- Two prefixes of one word are equal if they are equally long.
      have sameKey : key item = key winner := by
        rw [List.prefix_iff_eq_take.mp itemWithin, List.prefix_iff_eq_take.mp within, equally]
      exact earlier _ (List.mem_map_of_mem member) sameKey
  · intro ⟨winner, selected, valueEq⟩
    obtain ⟨before, after, split, earlier⟩ := selected.earliest
    refine ⟨key winner, selected.fits, ?_, ?_⟩
    · rw [firstStored_eq_some_iff, split, ← valueEq]
      refine ⟨_, _, List.map_append, ?_⟩
      intro write member same
      obtain ⟨item, known, rfl⟩ := List.mem_map.mp member
      change key item = key winner at same
      exact earlier item known (same ▸ selected.fits) (congrArg List.length same)
    · intro longer within beyond
      rw [firstStored_eq_none_iff]
      intro write member same
      obtain ⟨item, known, rfl⟩ := List.mem_map.mp member
      change key item = longer at same
      have atMost := selected.longest item known (same ▸ within)
      rw [same] at atMost
      exact Nat.not_lt.mpr atMost beyond

theorem longestMatch_lastStored_eq_none_iff :
    longestMatch (lastStored (items.map fun item => (key item, value item))) word = none ↔
      ∀ item ∈ items, ¬ key item <+: word := by
  have reversed : lastStored (items.map fun item => (key item, value item)) =
      firstStored (items.reverse.map fun item => (key item, value item)) := by
    funext found
    rw [lastStored, List.map_reverse]
  rw [reversed, longestMatch_firstStored_eq_none_iff]
  simp

theorem longestMatch_lastStored_eq_some_iff {result : Value} :
    longestMatch (lastStored (items.map fun item => (key item, value item))) word =
        some result ↔
      ∃ winner, LatestLongest key items word winner ∧ value winner = result := by
  have reversed : lastStored (items.map fun item => (key item, value item)) =
      firstStored (items.reverse.map fun item => (key item, value item)) := by
    funext found
    rw [lastStored, List.map_reverse]
  rw [reversed, longestMatch_firstStored_eq_some_iff]
  simp only [earliestLongest_reverse_iff]

end Selection

end UserspaceXdp.Foundation
