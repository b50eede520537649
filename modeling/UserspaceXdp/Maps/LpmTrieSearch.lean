import UserspaceXdp.Maps.LpmTrieContents

/-!
Contract: the bit trie of `module/lpm_trie.h` as a longest prefix table.

Owns: the trie after `trie_init` and any puts of at least one bit, what a search
returns in terms of these puts, and that a put concerns the addresses it matches
only.

Does not own: the keys that the `LPM_TRIE` map puts and searches.
-/

namespace UserspaceXdp.Maps

open UserspaceXdp.Foundation

/-! ## Puts -/

/-- The arguments of a call of `trie_node_put`. -/
structure TriePut where
  ip : Nat → UInt8
  cidr : Nat
  as : Int
  cidr_pos : 0 < cidr
  cidr_lt : cidr < 2 ^ 8

def TriePut.apply (t : TrieT) (put : TriePut) : TrieT :=
  trieNodePut t put.ip put.cidr put.as

/-- The trie after `trie_init` and a sequence of puts. -/
def triePuts (start : TrieT) (puts : List TriePut) : TrieT :=
  puts.foldl TriePut.apply (trieInit start)

/-- The prefix is not longer than the address, and the address begins with it. -/
def TriePut.Matches (put : TriePut) (ip : Nat → UInt8) (ln : Nat) : Prop :=
  put.cidr ≤ 8 * ln ∧ ∀ i < put.cidr, addressBit put.ip i = addressBit ip i

/-- The put whose value a search stores: the first one of the longest prefix
that matches. -/
structure FirstLongest (puts : List TriePut) (ip : Nat → UInt8) (ln : Nat)
    (winner : TriePut) : Prop where
  fits : winner.Matches ip ln
  longest : ∀ put ∈ puts, put.Matches ip ln → put.cidr ≤ winner.cidr
  first : ∃ before after, puts = before ++ winner :: after ∧
    ∀ put ∈ before, put.Matches ip ln → put.cidr ≠ winner.cidr

variable {puts : List TriePut} {ip : Nat → UInt8} {ln : Nat}

/-! ## Paths of puts -/

def TriePut.path (put : TriePut) : List Bool :=
  putPath put.ip put.cidr

def TriePut.write (put : TriePut) : List Bool × Int :=
  (put.path, put.as)

theorem TriePut.length_path (put : TriePut) : put.path.length = put.cidr := by
  rw [TriePut.path, putPath, List.length_map, List.length_range]

theorem TriePut.matches_iff {put : TriePut} :
    put.Matches ip ln ↔ put.path <+: addressBits ip ln := by
  have bits : (∀ i < put.cidr, addressBit put.ip i = addressBit ip i) ↔
      put.path = putPath ip put.cidr := by
    simp [TriePut.path, putPath, List.map_inj_left]
  rw [TriePut.Matches, bits]
  constructor
  · rintro ⟨within, same⟩
    rw [same, ← take_addressBits ip within]
    exact List.take_prefix _ _
  · intro leading
    have within : put.cidr ≤ 8 * ln := by
      have shorter := leading.length_le
      rwa [put.length_path, length_addressBits] at shorter
    refine ⟨within, ?_⟩
    rw [← take_addressBits ip within, ← put.length_path]
    exact List.prefix_iff_eq_take.mp leading

theorem firstLongest_iff {winner : TriePut} :
    FirstLongest puts ip ln winner ↔
      EarliestLongest TriePut.path puts (addressBits ip ln) winner := by
  constructor
  · intro selected
    obtain ⟨before, after, split, earlier⟩ := selected.first
    refine ⟨TriePut.matches_iff.mp selected.fits, fun put member leading => ?_, before, after,
      split, ?_⟩
    · rw [put.length_path, winner.length_path]
      exact selected.longest put member (TriePut.matches_iff.mpr leading)
    · intro put member leading
      rw [put.length_path, winner.length_path]
      exact earlier put member (TriePut.matches_iff.mpr leading)
  · intro selected
    obtain ⟨before, after, split, earlier⟩ := selected.earliest
    refine ⟨TriePut.matches_iff.mpr selected.fits, fun put member matched => ?_, before, after,
      split, ?_⟩
    · rw [← put.length_path, ← winner.length_path]
      exact selected.longest put member (TriePut.matches_iff.mp matched)
    · intro put member matched
      rw [← put.length_path, ← winner.length_path]
      exact earlier put member (TriePut.matches_iff.mp matched)

/-- A put whose path is a prefix of the address matches it. -/
theorem TriePut.matches_of_path {put : TriePut} {key : List Bool} (same : put.path = key)
    (within : key <+: addressBits ip ln) : put.Matches ip ln :=
  matches_iff.mpr (same ▸ within)

theorem triePuts_concat (start : TrieT) (puts : List TriePut) (put : TriePut) :
    triePuts start (puts ++ [put]) = put.apply (triePuts start puts) := by
  simp [triePuts]

/-- The log of the trie is the sequence of puts. -/
theorem triePuts_stores (start : TrieT) (puts : List TriePut) :
    Stores (triePuts start puts) (puts.map TriePut.write) := by
  induction puts using List.reverseRecOn with
  | nil => exact stores_trieInit start
  | append_singleton puts put inductionHypothesis =>
      rw [triePuts_concat, List.map_append]
      exact inductionHypothesis.put put.ip put.cidr_pos put.as

/-! ## Matches of an address -/

theorem longestMatch_writes_eq_none_iff :
    longestMatch (firstStored (puts.map TriePut.write)) (addressBits ip ln) = none ↔
      ∀ put ∈ puts, ¬ put.Matches ip ln := by
  simp only [TriePut.matches_iff]
  exact longestMatch_firstStored_eq_none_iff

theorem longestMatch_writes_eq_some_iff {value : Int} :
    longestMatch (firstStored (puts.map TriePut.write)) (addressBits ip ln) = some value ↔
      ∃ winner, FirstLongest puts ip ln winner ∧ winner.as = value := by
  simp only [firstLongest_iff]
  exact longestMatch_firstStored_eq_some_iff

/-- A put changes the match of the addresses it matches only. -/
theorem longestMatch_writes_concat {put : TriePut} (misses : ¬ put.Matches ip ln) :
    longestMatch (firstStored ((puts ++ [put]).map TriePut.write)) (addressBits ip ln) =
      longestMatch (firstStored (puts.map TriePut.write)) (addressBits ip ln) := by
  have kept (key : List Bool) (within : key <+: addressBits ip ln) :
      firstStored ((puts ++ [put]).map TriePut.write) key =
        firstStored (puts.map TriePut.write) key := by
    have different : put.write.1 ≠ key := fun same =>
      misses (TriePut.matches_of_path same within)
    rw [List.map_append, List.map_singleton, firstStored_concat, if_neg different, Option.or_none]
  exact longestMatch_congr kept

/-! ## Search after puts -/

theorem trieNodeSearch_triePuts (start : TrieT) (puts : List TriePut) (ip : Nat → UInt8)
    (ln : Nat) (as : Int) :
    trieNodeSearch (triePuts start puts) ip ln as =
      ((longestMatch (firstStored (puts.map TriePut.write)) (addressBits ip ln)).isSome,
        (longestMatch (firstStored (puts.map TriePut.write)) (addressBits ip ln)).getD as) :=
  (triePuts_stores start puts).search ip ln as

/-- A search finds the longest prefix put that matches, with the value of its
first put. It writes `*as` only then, and the puts that do not match the address
do not matter. -/
theorem trieNodeSearch_longest_match (start : TrieT) (puts : List TriePut) (ip : Nat → UInt8)
    (ln : Nat) (as : Int) :
    ((trieNodeSearch (triePuts start puts) ip ln as).1 = true ↔
        ∃ put ∈ puts, put.Matches ip ln) ∧
      ((trieNodeSearch (triePuts start puts) ip ln as).1 = true →
        ∃ winner, FirstLongest puts ip ln winner ∧
          (trieNodeSearch (triePuts start puts) ip ln as).2 = winner.as) ∧
      ((trieNodeSearch (triePuts start puts) ip ln as).1 = false →
        (trieNodeSearch (triePuts start puts) ip ln as).2 = as) ∧
      ∀ put : TriePut, ¬ put.Matches ip ln →
        trieNodeSearch (triePuts start (puts ++ [put])) ip ln as =
          trieNodeSearch (triePuts start puts) ip ln as := by
  have search := trieNodeSearch_triePuts start puts ip ln as
  have missed (put : TriePut) (misses : ¬ put.Matches ip ln) :
      trieNodeSearch (triePuts start (puts ++ [put])) ip ln as =
        trieNodeSearch (triePuts start puts) ip ln as := by
    rw [search, trieNodeSearch_triePuts, longestMatch_writes_concat misses]
  cases found : longestMatch (firstStored (puts.map TriePut.write)) (addressBits ip ln) with
  | none =>
      have nothing := longestMatch_writes_eq_none_iff.mp found
      have result : trieNodeSearch (triePuts start puts) ip ln as = (false, as) := by
        rw [search, found]
        rfl
      refine ⟨⟨fun hit => ?_, ?_⟩, fun hit => ?_, fun _ => ?_, missed⟩
      · rw [result] at hit
        cases hit
      · rintro ⟨put, member, matched⟩
        exact absurd matched (nothing put member)
      · rw [result] at hit
        cases hit
      · rw [result]
  | some value =>
      obtain ⟨winner, selected, rfl⟩ := longestMatch_writes_eq_some_iff.mp found
      obtain ⟨before, after, split, -⟩ := selected.first
      have member : winner ∈ puts := by
        rw [split]
        simp
      have result : trieNodeSearch (triePuts start puts) ip ln as = (true, winner.as) := by
        rw [search, found]
        rfl
      refine ⟨⟨fun _ => ⟨winner, member, selected.fits⟩, fun _ => ?_⟩,
        fun _ => ⟨winner, selected, ?_⟩, fun missing => ?_, missed⟩
      · rw [result]
      · rw [result]
      · rw [result] at missing
        cases missing

example :
    trieNodeSearch
      (triePuts zeroTrie
        [⟨fun _ => 10, 8, 1, by decide, by decide⟩, ⟨fun _ => 10, 15, 2, by decide, by decide⟩,
          ⟨fun _ => 10, 8, 3, by decide, by decide⟩])
      (fun i => if i = 0 then 10 else 200) 4 0 = (true, 1) := by
  decide +kernel

end UserspaceXdp.Maps
