import UserspaceXdp.Foundation.LinearProbing
import UserspaceXdp.InlineMap.HashMap

/-!
Contract: the byte buffer of an inline hash map, read as a probing table.

Owns: the slot arithmetic without wrap-around, the table that the buffer
represents, the effect of a bucket store on it, and the outcome of the three
probe loops in terms of where the probe of a key first stops.

Does not own: which tables are reachable.
-/

namespace UserspaceXdp.InlineMap

open UserspaceXdp.Foundation
open UserspaceXdp.Foundation.LinearProbing

/-- The bytes that identify a key. -/
def keyBytes (map : HashMapDef) (key : Nat → UInt8) : List UInt8 :=
  Memory.bytes key 0 map.keySize

/-- The bytes of a value argument. -/
def valueBytes (map : HashMapDef) (value : Nat → UInt8) : List UInt8 :=
  Memory.bytes value 0 map.valueSize

/-- `hash_func` on the bytes it reads. -/
def hashBytes (bytes : List UInt8) : Nat :=
  bytes.foldl (fun hash byte => (hash * 31 + byte.toNat) % 2 ^ 32) 0

/-- The bucket where the probe for a key starts. -/
def homeBucket (map : HashMapDef) (key : List UInt8) : Nat :=
  hashBytes key % map.numBuckets

theorem hashFunc_eq_hashBytes (key : Nat → UInt8) (count : Nat) :
    hashFunc key count = hashBytes (Memory.bytes key 0 count) := by
  induction count with
  | zero => rfl
  | succ count inductionHypothesis =>
      unfold hashFunc hashBytes Memory.bytes
      rw [inductionHypothesis, List.range_succ, List.map_append, List.foldl_append]
      simp [hashBytes, Memory.bytes]

theorem startIndex_eq (map : HashMapDef) (key : Nat → UInt8) :
    startIndex map key = homeBucket map (keyBytes map key) := by
  unfold startIndex homeBucket keyBytes
  rw [hashFunc_eq_hashBytes]

/-! ## Slot arithmetic -/

section Layout

variable {map : HashMapDef}

/-- Bytes of one bucket: flag, key, value. -/
def slotSize (map : HashMapDef) : Nat :=
  4 + map.keySize + map.valueSize

theorem slotSize_lt (map : HashMapDef) : slotSize map < 2 ^ 32 := by
  have fits := map.fits
  have grow : 1 * slotSize map ≤ map.numBuckets * slotSize map :=
    Nat.mul_le_mul_right _ map.numBuckets_pos
  unfold slotSize at *
  omega

theorem numBuckets_lt (map : HashMapDef) : map.numBuckets < 2 ^ 32 := by
  have fits := map.fits
  have grow : map.numBuckets * 1 ≤ map.numBuckets * (4 + map.keySize + map.valueSize) :=
    Nat.mul_le_mul_left _ (by omega)
  omega

/-- A bucket ends inside the buffer. -/
theorem bucket_end_le {index : Nat} (below : index < map.numBuckets) :
    index * slotSize map + slotSize map ≤ map.numBuckets * slotSize map := by
  have grow : (index + 1) * slotSize map ≤ map.numBuckets * slotSize map :=
    Nat.mul_le_mul_right _ below
  rwa [Nat.add_mul, Nat.one_mul] at grow

/-- The end of a bucket fits an `unsigned int`. -/
theorem bucket_end_lt {index : Nat} (below : index < map.numBuckets) :
    index * slotSize map + (4 + map.keySize + map.valueSize) < 2 ^ 32 :=
  lt_of_le_of_lt (bucket_end_le below) map.fits

/-- Distinct buckets do not overlap. -/
theorem bucket_apart (map : HashMapDef) {left right : Nat} (different : left ≠ right) :
    left * slotSize map + slotSize map ≤ right * slotSize map ∨
      right * slotSize map + slotSize map ≤ left * slotSize map := by
  rcases Nat.lt_or_gt_of_ne different with before | after
  · have grow : (left + 1) * slotSize map ≤ right * slotSize map :=
      Nat.mul_le_mul_right _ before
    rw [Nat.add_mul, Nat.one_mul] at grow
    exact Or.inl grow
  · have grow : (right + 1) * slotSize map ≤ left * slotSize map :=
      Nat.mul_le_mul_right _ after
    rw [Nat.add_mul, Nat.one_mul] at grow
    exact Or.inr grow

theorem getElemOffset_eq {index : Nat} (below : index < map.numBuckets) :
    getElemOffset map index = index * slotSize map := by
  have fits := bucket_end_lt below
  have slot := slotSize_lt map
  unfold getElemOffset
  unfold slotSize at *
  rw [Nat.mod_eq_of_lt slot, Nat.mod_eq_of_lt (by omega)]

theorem getKey_eq {index : Nat} (below : index < map.numBuckets) :
    getKey map index = index * slotSize map + 4 := by
  have fits := bucket_end_lt below
  unfold getKey
  rw [getElemOffset_eq below, Nat.mod_eq_of_lt (by omega)]

theorem getValue_eq {index : Nat} (below : index < map.numBuckets) :
    getValue map index = index * slotSize map + 4 + map.keySize := by
  have fits := bucket_end_lt below
  unfold getValue
  rw [getElemOffset_eq below, Nat.mod_eq_of_lt (by omega)]

theorem nextIndex_eq {index : Nat} (below : index < map.numBuckets) :
    nextIndex map index = (index + 1) % map.numBuckets := by
  have small := numBuckets_lt map
  unfold nextIndex
  rw [Nat.mod_eq_of_lt (by omega : index + 1 < 2 ^ 32)]

end Layout

/-! ## The represented table -/

/-- The entry of each bucket; there is none past the last bucket. -/
def bucketTable (map : HashMapDef) (buffer : Memory) (index : Nat) :
    Option (List UInt8 × List UInt8) :=
  if index < map.numBuckets then
    if isEmpty map buffer index then none
    else some (buffer.bytes (getKey map index) map.keySize,
      buffer.bytes (getValue map index) map.valueSize)
  else none

section Represented

variable {map : HashMapDef} {buffer : Memory}

theorem bucketTable_zeroBuffer : bucketTable map zeroBuffer = fun _ => none := by
  funext index
  simp [bucketTable, isEmpty, Memory.loadWord, zeroBuffer]

/-- A bucket of the table depends only on the bytes of the bucket. -/
theorem bucketTable_congr {other : Memory} {index : Nat}
    (agree : ∀ candidate, index * slotSize map ≤ candidate →
      candidate < index * slotSize map + slotSize map → buffer candidate = other candidate) :
    bucketTable map buffer index = bucketTable map other index := by
  unfold bucketTable
  by_cases below : index < map.numBuckets
  · have width : slotSize map = 4 + map.keySize + map.valueSize := rfl
    have flag : isEmpty map buffer index = isEmpty map other index := by
      unfold isEmpty
      rw [getElemOffset_eq below, Memory.loadWord_congr
        fun candidate lower upper => agree candidate (by omega) (by omega)]
    have keys : buffer.bytes (getKey map index) map.keySize =
        other.bytes (getKey map index) map.keySize := by
      rw [getKey_eq below]
      exact Memory.bytes_congr fun candidate lower upper =>
        agree candidate (by omega) (by omega)
    have values : buffer.bytes (getValue map index) map.valueSize =
        other.bytes (getValue map index) map.valueSize := by
      rw [getValue_eq below]
      exact Memory.bytes_congr fun candidate lower upper =>
        agree candidate (by omega) (by omega)
    rw [if_pos below, if_pos below, flag, keys, values]
  · rw [if_neg below, if_neg below]

theorem isEmpty_iff {index : Nat} (below : index < map.numBuckets) :
    isEmpty map buffer index = true ↔ bucketTable map buffer index = none := by
  unfold bucketTable
  rw [if_pos below]
  split <;> simp_all

theorem keyMatch_iff {index : Nat} {key : Nat → UInt8} :
    keyMatch map buffer index key = true ↔
      buffer.bytes (getKey map index) map.keySize = keyBytes map key := by
  unfold keyMatch keyBytes
  rw [Memory.bytes_eq_iff]
  simp

/-- A bucket that holds an entry has its bytes at the bucket's pointers. -/
theorem bucketTable_some {index : Nat} {key value : List UInt8}
    (held : bucketTable map buffer index = some (key, value)) :
    isEmpty map buffer index = false ∧
      buffer.bytes (getKey map index) map.keySize = key ∧
      buffer.bytes (getValue map index) map.valueSize = value := by
  unfold bucketTable at held
  split at held
  · split at held
    · cases held
    · next notEmpty =>
        have entry := Prod.mk.inj (Option.some.inj held)
        exact ⟨by simpa using notEmpty, entry.1, entry.2⟩
  · cases held

/-- The probe for a key stops at an empty bucket or at one that holds it. -/
theorem stopsAt_iff {index : Nat} (below : index < map.numBuckets) (key : Nat → UInt8) :
    StopsAt (bucketTable map buffer) (keyBytes map key) index ↔
      (isEmpty map buffer index || keyMatch map buffer index key) = true := by
  rw [Bool.or_eq_true, keyMatch_iff]
  cases held : bucketTable map buffer index with
  | none =>
      have empty := (isEmpty_iff below).mpr held
      simp [StopsAt, held, empty]
  | some entry =>
      obtain ⟨storedKey, storedValue⟩ := entry
      obtain ⟨notEmpty, keys, _⟩ := bucketTable_some held
      simp [StopsAt, held, notEmpty, keys]

end Represented

/-! ## Bucket stores -/

section Stores

variable {map : HashMapDef} {buffer : Memory} {index : Nat}

/-- `elem_update` writes inside the bucket it chose. -/
theorem fillBucket_other (below : index < map.numBuckets) (key value : Nat → UInt8)
    {candidate : Nat} (outside : candidate < index * slotSize map ∨
      index * slotSize map + slotSize map ≤ candidate) :
    fillBucket map buffer index key value candidate = buffer candidate := by
  have width : slotSize map = 4 + map.keySize + map.valueSize := rfl
  unfold fillBucket setFilled
  rw [getElemOffset_eq below, getKey_eq below, getValue_eq below,
    Memory.storeWord_other _ (by omega), Memory.copyFrom_other _ (by omega),
    Memory.copyFrom_other _ (by omega)]

/-- `elem_delete` writes inside the bucket it chose. -/
theorem setEmpty_other (below : index < map.numBuckets) {candidate : Nat}
    (outside : candidate < index * slotSize map ∨
      index * slotSize map + slotSize map ≤ candidate) :
    setEmpty map buffer index candidate = buffer candidate := by
  have width : slotSize map = 4 + map.keySize + map.valueSize := rfl
  unfold setEmpty
  rw [getElemOffset_eq below, Memory.storeWord_other _ (by omega)]

/-- A store inside one bucket changes the table at that bucket only. -/
theorem bucketTable_eq_update {other : Memory} {entry : Option (List UInt8 × List UInt8)}
    (frame : ∀ candidate, candidate < index * slotSize map ∨
      index * slotSize map + slotSize map ≤ candidate → other candidate = buffer candidate)
    (written : bucketTable map other index = entry) :
    bucketTable map other = Function.update (bucketTable map buffer) index entry := by
  funext candidate
  by_cases same : candidate = index
  · rw [same, Function.update_self, written]
  · rw [Function.update_of_ne same]
    apply bucketTable_congr
    intro address lower upper
    apply frame
    rcases bucket_apart map same with before | after
    · exact Or.inl (by omega)
    · exact Or.inr (by omega)

theorem bucketTable_fillBucket (below : index < map.numBuckets) (key value : Nat → UInt8) :
    bucketTable map (fillBucket map buffer index key value) =
      Function.update (bucketTable map buffer) index
        (some (keyBytes map key, valueBytes map value)) := by
  apply bucketTable_eq_update fun candidate => fillBucket_other below key value
  have flag : isEmpty map (fillBucket map buffer index key value) index = false := by
    unfold isEmpty fillBucket setFilled
    rw [Memory.loadWord_storeWord]
    decide
  -- The flag lies before the key, and the value after it.
  have keys : (fillBucket map buffer index key value).bytes (getKey map index) map.keySize =
      keyBytes map key := by
    unfold keyBytes
    rw [← Memory.bytes_copyFrom buffer (getKey map index) key map.keySize]
    apply Memory.bytes_congr
    intro candidate lower upper
    unfold fillBucket setFilled
    rw [getElemOffset_eq below, getValue_eq below]
    rw [getKey_eq below] at lower upper
    rw [Memory.storeWord_other _ (by omega), Memory.copyFrom_other _ (by omega)]
  have values : (fillBucket map buffer index key value).bytes (getValue map index)
      map.valueSize = valueBytes map value := by
    unfold valueBytes
    rw [← Memory.bytes_copyFrom (buffer.copyFrom (getKey map index) key map.keySize)
      (getValue map index) value map.valueSize]
    apply Memory.bytes_congr
    intro candidate lower upper
    unfold fillBucket setFilled
    rw [getElemOffset_eq below]
    rw [getValue_eq below] at lower upper
    rw [Memory.storeWord_other _ (by omega)]
  unfold bucketTable
  rw [if_pos below, flag, keys, values]
  rfl

theorem bucketTable_setEmpty (below : index < map.numBuckets) :
    bucketTable map (setEmpty map buffer index) =
      Function.update (bucketTable map buffer) index none := by
  apply bucketTable_eq_update fun candidate => setEmpty_other below
  rw [← isEmpty_iff below]
  unfold isEmpty setEmpty
  rw [Memory.loadWord_storeWord]
  decide

end Stores

/-! ## The probe loops -/

section Loops

variable {map : HashMapDef}

/-- After `distance` turns the loop is at position `distance` of the key. -/
theorem iterate_nextIndex (map : HashMapDef) (key : Nat → UInt8) (distance : Nat) :
    (nextIndex map)^[distance] (startIndex map key) =
      position map.numBuckets (homeBucket map) (keyBytes map key) distance := by
  have positive : 0 < map.numBuckets := map.numBuckets_pos
  induction distance with
  | zero =>
      rw [Function.iterate_zero, id, startIndex_eq]
      unfold position homeBucket
      rw [Nat.add_zero, Nat.mod_mod]
  | succ distance inductionHypothesis =>
      rw [Function.iterate_succ', Function.comp, inductionHypothesis,
        nextIndex_eq (position_lt positive _ _ _)]
      unfold position
      rw [Nat.mod_add_mod, Nat.add_assoc]

/-- Every turn of the first round is at a fresh bucket. -/
theorem orbit_nodup (map : HashMapDef) (key : Nat → UInt8) {count : Nat}
    (atMost : count ≤ map.numBuckets) :
    (DoWhile.orbit (nextIndex map) (startIndex map key) count).Nodup := by
  unfold DoWhile.orbit
  refine List.Nodup.map_on ?_ List.nodup_range
  intro left leftMember right rightMember same
  rw [iterate_nextIndex, iterate_nextIndex] at same
  have leftBelow := List.mem_range.mp leftMember
  have rightBelow := List.mem_range.mp rightMember
  exact position_injective (by omega) (by omega) same

private theorem goesOn (key : Nat → UInt8) {index : Nat} (within : index + 1 < map.numBuckets) :
    ((nextIndex map)^[index + 1] (startIndex map key) != startIndex map key) = true := by
  rw [bne_iff_ne]
  intro back
  have first : startIndex map key =
      position map.numBuckets (homeBucket map) (keyBytes map key) 0 :=
    iterate_nextIndex map key 0
  rw [iterate_nextIndex, first] at back
  have same := position_injective within (by omega) back
  omega

/-- The loop returns from the first bucket whose body returns. -/
theorem probe_returns {Result : Type} {body : Nat → Option Result} {key : Nat → UInt8}
    {distance : Nat} {result : Result} (below : distance < map.numBuckets)
    (silent : ∀ earlier < distance,
      body (position map.numBuckets (homeBucket map) (keyBytes map key) earlier) = none)
    (returns : body (position map.numBuckets (homeBucket map) (keyBytes map key) distance) =
      some result) :
    probe map key body = some ⟨some result,
      DoWhile.orbit (nextIndex map) (startIndex map key) (distance + 1)⟩ := by
  unfold probe
  apply DoWhile.loop_returns below
  · intro earlier before
    rw [iterate_nextIndex]
    exact silent earlier before
  · intro earlier before
    exact goesOn key (by omega)
  · rw [iterate_nextIndex]
    exact returns

/-- When no bucket returns, the loop ends after one round. -/
theorem probe_falls_through {Result : Type} {body : Nat → Option Result} {key : Nat → UInt8}
    (silent : ∀ distance < map.numBuckets,
      body (position map.numBuckets (homeBucket map) (keyBytes map key) distance) = none) :
    probe map key body = some ⟨none,
      DoWhile.orbit (nextIndex map) (startIndex map key) map.numBuckets⟩ := by
  have positive := map.numBuckets_pos
  obtain ⟨last, size⟩ : ∃ last, map.numBuckets = last + 1 := ⟨map.numBuckets - 1, by omega⟩
  unfold probe
  rw [size]
  apply DoWhile.loop_falls_through (by omega)
  · intro distance atMost
    rw [iterate_nextIndex]
    exact silent distance (by omega)
  · intro distance before
    exact goesOn key (by omega)
  · rw [bne_eq_false_iff_eq, ← size, iterate_nextIndex, startIndex_eq]
    unfold position homeBucket
    rw [Nat.add_mod_right, Nat.mod_mod]

/-- Every probe loop ends, and visits no bucket twice. -/
theorem probe_ends (map : HashMapDef) {Result : Type} (body : Nat → Option Result) (key : Nat → UInt8) :
    ∃ run, probe map key body = some run ∧ run.visited.Nodup ∧
      run.visited.length ≤ map.numBuckets ∧ ∀ index ∈ run.visited, index < map.numBuckets := by
  have inside : ∀ count, ∀ index ∈ DoWhile.orbit (nextIndex map) (startIndex map key) count,
      index < map.numBuckets := by
    intro count index member
    unfold DoWhile.orbit at member
    rw [List.mem_map] at member
    obtain ⟨distance, _, rfl⟩ := member
    rw [iterate_nextIndex]
    exact position_lt map.numBuckets_pos _ _ _
  have length : ∀ count,
      (DoWhile.orbit (nextIndex map) (startIndex map key) count).length = count := by
    intro count
    simp [DoWhile.orbit]
  by_cases returns : ∃ distance, distance < map.numBuckets ∧
      body (position map.numBuckets (homeBucket map) (keyBytes map key) distance) ≠ none
  · have spec := Nat.find_spec returns
    obtain ⟨result, found⟩ := Option.ne_none_iff_exists'.mp spec.2
    refine ⟨_, probe_returns spec.1 ?_ found, orbit_nodup map key spec.1, ?_, inside _⟩
    · intro earlier before
      by_contra early
      exact Nat.find_min returns before ⟨lt_trans before spec.1, early⟩
    · rw [length]
      exact spec.1
  · refine ⟨_, probe_falls_through ?_, orbit_nodup map key le_rfl, (length _).le, inside _⟩
    intro distance below
    by_contra early
    exact returns ⟨distance, below, early⟩

end Loops

end UserspaceXdp.InlineMap
