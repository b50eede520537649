import UserspaceXdp.Maps.LpmTrieContents

/-!
Contract: the `LPM_TRIE` map of `module/maps.cpp` against longest prefix match.

The map operations hand the whole key to the trie, the four bytes of `prefixlen`
included, with `key_size` for the number of bits to put and for the number of
bytes to search. Every update therefore puts the same number of bits, most often
bits of `prefixlen` only, and the first value put on a path stays.

Owns: `lpm_alloc_map`, `lpm_elem_lookup`, `lpm_elem_update` and
`lpm_elem_delete`, what a lookup returns after any updates, and when that is the
longest prefix match.

Does not own: maps that share the trie.
-/

namespace UserspaceXdp.Maps

open UserspaceXdp.Foundation

/-! ## The map operations -/

/-- The globals `trie`, `trie_attr` (only its `key_size` is read) and `as`. -/
structure LpmMap where
  trie : TrieT
  keySize : Nat
  as : Int

/-- Reads through a pointer to `key`. -/
def keyByte (key : List UInt8) (i : Nat) : UInt8 :=
  key.getD i 0

def lpmAllocMap (map : LpmMap) (keySize : Nat) : LpmMap :=
  { map with trie := trieInit map.trie, keySize := keySize }

def lpmElemDelete : Int := -1

/-- What the returned pointer designates, `none` for `NULL`. -/
def lpmElemLookup (map : LpmMap) (key : List UInt8) : Option Int × LpmMap :=
  let res := trieNodeSearch map.trie (keyByte key) (map.keySize % 2 ^ 8) map.as
  (if res.1 then some res.2 else none, { map with as := res.2 })

def lpmElemUpdate (map : LpmMap) (key : List UInt8) (value : Int) : LpmMap :=
  { map with trie := trieNodePut map.trie (keyByte key) (map.keySize % 2 ^ 8) value }

/-! ## Keys in the BPF layout -/

/-- `{u32 prefixlen; address}` in memory. -/
def lpmKey (prefixlen : Nat) (address : List UInt8) : List UInt8 :=
  [UInt8.ofNat prefixlen, UInt8.ofNat (prefixlen / 2 ^ 8), UInt8.ofNat (prefixlen / 2 ^ 16),
    UInt8.ofNat (prefixlen / 2 ^ 24)] ++ address

/-- An update with `n` address bytes. -/
structure LpmUpdate (n : Nat) where
  prefixlen : Nat
  address : List UInt8
  value : Int
  prefixlen_le : prefixlen ≤ 8 * n
  address_length : address.length = n

variable {n : Nat}

def LpmUpdate.apply (map : LpmMap) (update : LpmUpdate n) : LpmMap :=
  lpmElemUpdate map (lpmKey update.prefixlen update.address) update.value

/-- The map after `lpm_alloc_map` and a sequence of updates. -/
def updated (start : LpmMap) (updates : List (LpmUpdate n)) : LpmMap :=
  updates.foldl LpmUpdate.apply (lpmAllocMap start (4 + n))

/-! ## Longest prefix match -/

/-- The prefix that an update stores a value for. -/
def LpmUpdate.leading (update : LpmUpdate n) : List Bool :=
  (addressBits (keyByte update.address) n).take update.prefixlen

/-- The prefix matches the leading bits of the address. -/
def LpmUpdate.Matches (update : LpmUpdate n) (address : List UInt8) : Prop :=
  update.leading <+: addressBits (keyByte address) n

/-- What an LPM map is for: the value most recently stored for the longest
stored prefix that matches. -/
def longestPrefixMatch (updates : List (LpmUpdate n)) (address : List UInt8) : Option Int :=
  longestMatch (lastStored (updates.map fun update => (update.leading, update.value)))
    (addressBits (keyByte address) n)

/-- The update whose value longest prefix match returns. -/
structure Selected (updates : List (LpmUpdate n)) (address : List UInt8)
    (winner : LpmUpdate n) : Prop where
  fits : winner.Matches address
  longest : ∀ update ∈ updates, update.Matches address → update.prefixlen ≤ winner.prefixlen
  latest : ∃ before after, updates = before ++ winner :: after ∧
    ∀ update ∈ after, update.Matches address → update.prefixlen ≠ winner.prefixlen

theorem LpmUpdate.length_leading (update : LpmUpdate n) :
    update.leading.length = update.prefixlen := by
  rw [LpmUpdate.leading, List.length_take, length_addressBits,
    Nat.min_eq_left update.prefixlen_le]

theorem selected_iff {updates : List (LpmUpdate n)} {address : List UInt8}
    {winner : LpmUpdate n} :
    Selected updates address winner ↔
      LatestLongest LpmUpdate.leading updates (addressBits (keyByte address) n) winner := by
  constructor
  · intro selected
    obtain ⟨before, after, split, later⟩ := selected.latest
    refine ⟨selected.fits, fun update member matched => ?_, before, after, split, ?_⟩
    · rw [update.length_leading, winner.length_leading]
      exact selected.longest update member matched
    · intro update member matched
      rw [update.length_leading, winner.length_leading]
      exact later update member matched
  · intro selected
    obtain ⟨before, after, split, later⟩ := selected.latest
    refine ⟨selected.fits, fun update member matched => ?_, before, after, split, ?_⟩
    · rw [← update.length_leading, ← winner.length_leading]
      exact selected.longest update member matched
    · intro update member matched
      rw [← update.length_leading, ← winner.length_leading]
      exact later update member matched

theorem longestPrefixMatch_eq_none_iff {updates : List (LpmUpdate n)} {address : List UInt8} :
    longestPrefixMatch updates address = none ↔
      ∀ update ∈ updates, ¬ update.Matches address :=
  longestMatch_lastStored_eq_none_iff

theorem longestPrefixMatch_eq_some_iff {updates : List (LpmUpdate n)} {address : List UInt8}
    {value : Int} :
    longestPrefixMatch updates address = some value ↔
      ∃ winner, Selected updates address winner ∧ winner.value = value := by
  rw [longestPrefixMatch, longestMatch_lastStored_eq_some_iff]
  simp only [selected_iff]

/-! ## What a lookup returns -/

/-- The bits of a key that an update puts: as many as the key has bytes. -/
def putBits (n prefixlen : Nat) (address : List UInt8) : List Bool :=
  putPath (keyByte (lpmKey prefixlen address)) ((4 + n) % 2 ^ 8)

/-- The update puts its value on the path of the lookup key. -/
def LpmUpdate.collides (address : List UInt8) (update : LpmUpdate n) : Bool :=
  (4 + n) % 2 ^ 8 ≠ 0 ∧ putBits n update.prefixlen update.address = putBits n (8 * n) address

/-- The log of the trie after the updates. -/
def putLog (updates : List (LpmUpdate n)) : List (List Bool × Int) :=
  updates.map fun update => (putBits n update.prefixlen update.address, update.value)

theorem updated_stores (start : LpmMap) (updates : List (LpmUpdate n)) :
    (updated start updates).keySize = 4 + n ∧
      (0 < (4 + n) % 2 ^ 8 → Stores (updated start updates).trie (putLog updates)) := by
  induction updates using List.reverseRecOn with
  | nil => exact ⟨rfl, fun _ => stores_trieInit start.trie⟩
  | append_singleton updates update inductionHypothesis =>
      obtain ⟨keySize, stores⟩ := inductionHypothesis
      have next : updated start (updates ++ [update]) = update.apply (updated start updates) := by
        simp [updated]
      rw [next]
      refine ⟨keySize, fun positive => ?_⟩
      have put := (stores positive).put (keyByte (lpmKey update.prefixlen update.address))
        positive update.value
      simpa only [LpmUpdate.apply, lpmElemUpdate, keySize, putLog, putBits, List.map_append,
        List.map_cons, List.map_nil] using put

/-- A lookup returns the value of the first update that collides with it. -/
theorem lpmElemLookup_updated (start : LpmMap) (updates : List (LpmUpdate n))
    (address : List UInt8) :
    (lpmElemLookup (updated start updates) (lpmKey (8 * n) address)).1 =
      (updates.find? (LpmUpdate.collides address)).map LpmUpdate.value := by
  obtain ⟨keySize, stores⟩ := updated_stores start updates
  rw [lpmElemLookup, keySize]
  by_cases none : (4 + n) % 2 ^ 8 = 0
  · have nothing : updates.find? (LpmUpdate.collides address) = Option.none := by
      rw [List.find?_eq_none]
      intro update _ collides
      exact (of_decide_eq_true collides).1 none
    rw [nothing, none]
    rfl
  · have positive := Nat.pos_of_ne_zero none
    have uniform (key : List Bool) (held : firstStored (putLog updates) key ≠ Option.none) :
        key.length = (4 + n) % 2 ^ 8 := by
      by_contra different
      apply held
      rw [firstStored_eq_none_iff]
      intro write member same
      obtain ⟨update, -, rfl⟩ := List.mem_map.mp member
      apply different
      rw [← same, putBits, putPath, List.length_map, List.length_range]
    have within : (4 + n) % 2 ^ 8 ≤
        (addressBits (keyByte (lpmKey (8 * n) address)) ((4 + n) % 2 ^ 8)).length := by
      rw [length_addressBits]
      omega
    rw [(stores positive).search, longestMatch_of_length uniform within,
      take_addressBits _ (by omega)]
    have found : firstStored (putLog updates)
        (putPath (keyByte (lpmKey (8 * n) address)) ((4 + n) % 2 ^ 8)) =
        (updates.find? (LpmUpdate.collides address)).map LpmUpdate.value := by
      have same : ((fun write : List Bool × Int => decide (write.1 =
          putPath (keyByte (lpmKey (8 * n) address)) ((4 + n) % 2 ^ 8))) ∘
            fun update : LpmUpdate n =>
              (putBits n update.prefixlen update.address, update.value)) =
          LpmUpdate.collides address := by
        funext update
        rw [Function.comp_apply, LpmUpdate.collides, decide_eq_decide]
        exact ⟨fun same => ⟨none, same⟩, fun collides => collides.2⟩
      rw [firstStored, putLog, List.find?_map, same, Option.map_map]
      rfl
    rw [found]
    cases updates.find? (LpmUpdate.collides address) <;> rfl

/-- In the first four bytes of a key there is no address. -/
theorem putPath_lpmKey (prefixlen : Nat) (address : List UInt8) {bits : Nat}
    (within : bits ≤ 32) :
    putPath (keyByte (lpmKey prefixlen address)) bits =
      putPath (keyByte (lpmKey prefixlen [])) bits := by
  apply List.map_congr_left
  intro i member
  have inside : i / 8 < 4 := by
    have below := List.mem_range.mp member
    omega
  rw [addressBit, addressBit]
  congr 1
  rw [keyByte, keyByte, lpmKey, lpmKey, List.getD_eq_getElem?_getD, List.getD_eq_getElem?_getD,
    List.getElem?_append_left inside, List.append_nil]

/-- The leading bits of `prefixlen` in memory tell a full length from a shorter one. -/
private theorem putPath_full_iff : ∀ n ≤ 28, ∀ prefixlen ≤ 8 * n,
    (putPath (keyByte (lpmKey prefixlen [])) (4 + n) =
      putPath (keyByte (lpmKey (8 * n) [])) (4 + n) ↔ prefixlen = 8 * n) := by
  decide +kernel

/-- With at most 28 address bytes an update collides exactly if it stores a full
address, whatever the address is. -/
theorem LpmUpdate.collides_iff (small : n ≤ 28) (address : List UInt8) (update : LpmUpdate n) :
    update.collides address = true ↔ update.prefixlen = 8 * n := by
  have bits : (4 + n) % 2 ^ 8 = 4 + n := Nat.mod_eq_of_lt (by omega)
  have full := putPath_full_iff n small update.prefixlen update.prefixlen_le
  rw [LpmUpdate.collides, decide_eq_true_iff, putBits, putBits, bits,
    putPath_lpmKey _ update.address (by omega), putPath_lpmKey _ address (by omega), full]
  exact ⟨fun collides => collides.2, fun same => ⟨by omega, same⟩⟩

/-- After any updates, a lookup returns the longest prefix match exactly if the
first update that collides with the lookup key stores the value of the update
that longest prefix match selects, or there is neither. -/
theorem lpmElemLookup_longest_match_iff (n : Nat) (start : LpmMap)
    (updates : List (LpmUpdate n)) (address : List UInt8) :
    (lpmElemLookup (updated start updates) (lpmKey (8 * n) address)).1 =
        longestPrefixMatch updates address ↔
      match updates.find? (LpmUpdate.collides address) with
      | none => ∀ update ∈ updates, ¬ update.Matches address
      | some first => ∃ winner, Selected updates address winner ∧ winner.value = first.value := by
  rw [lpmElemLookup_updated]
  cases updates.find? (LpmUpdate.collides address) with
  | none =>
      rw [Option.map_none, eq_comm]
      exact longestPrefixMatch_eq_none_iff
  | some first =>
      rw [Option.map_some, eq_comm]
      exact longestPrefixMatch_eq_some_iff

/-- The globals before the first `lpm_alloc_map`. -/
def zeroLpmMap : LpmMap :=
  { trie := zeroTrie, keySize := 0, as := 0 }

/-- The rule 10.0.0.0/24. -/
def classRule : LpmUpdate 4 :=
  { prefixlen := 24
    address := [10, 0, 0, 0]
    value := 7
    prefixlen_le := by decide
    address_length := rfl }

/-- 10.0.0.1 is in 10.0.0.0/24, and the lookup does not find the rule. -/
theorem lpmElemLookup_misses_shorter_prefix :
    longestPrefixMatch [classRule] [10, 0, 0, 1] = some 7 ∧
      (lpmElemLookup (updated zeroLpmMap [classRule]) (lpmKey 32 [10, 0, 0, 1])).1 = none := by
  decide +kernel

end UserspaceXdp.Maps
