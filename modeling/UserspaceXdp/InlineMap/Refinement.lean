import UserspaceXdp.InlineMap.Table

/-!
Contract: `elem_update` and `elem_lookup` implement a bounded finite map.

Owns: the outcome of each operation at the first stop of its probe, the
invariant of every buffer that updates can produce, and the refinement of the
bounded map by the flat buffer.

Does not own: deletion.
-/

namespace UserspaceXdp.InlineMap

open UserspaceXdp.Foundation
open UserspaceXdp.Foundation.LinearProbing

/-- The probe of a key in the buffer first stops at `distance`. -/
abbrev StopsFirst (map : HashMapDef) (buffer : Memory) (key : Nat → UInt8) (distance : Nat) :
    Prop :=
  FirstStop map.numBuckets (homeBucket map) (bucketTable map buffer) (keyBytes map key) distance

/-- The probe of a key in the buffer meets only other keys. -/
abbrev NeverStops (map : HashMapDef) (buffer : Memory) (key : Nat → UInt8) : Prop :=
  ∀ distance < map.numBuckets, ¬ StopsAt (bucketTable map buffer) (keyBytes map key)
    (position map.numBuckets (homeBucket map) (keyBytes map key) distance)

/-- Bucket number `distance` on the probe path of a key. -/
abbrev probed (map : HashMapDef) (key : Nat → UInt8) (distance : Nat) : Nat :=
  position map.numBuckets (homeBucket map) (keyBytes map key) distance

/-- What `elem_lookup` designates: the value bytes behind the pointer. -/
def lookupBytes (map : HashMapDef) (buffer : Memory) (key : Nat → UInt8) :
    Option (List UInt8) :=
  (elemLookup map buffer key).map fun pointer => buffer.bytes pointer map.valueSize

/-! ## Outcomes at the first stop -/

section Outcomes

variable {map : HashMapDef} {buffer : Memory} {key : Nat → UInt8} {distance : Nat}

theorem probed_lt (map : HashMapDef) (key : Nat → UInt8) (distance : Nat) :
    probed map key distance < map.numBuckets :=
  position_lt map.numBuckets_pos _ _ _

/-- A bucket the probe does not stop at is filled with another key. -/
theorem body_silent {index : Nat} (below : index < map.numBuckets)
    (silent : ¬ StopsAt (bucketTable map buffer) (keyBytes map key) index) :
    isEmpty map buffer index = false ∧ keyMatch map buffer index key = false := by
  rw [stopsAt_iff below] at silent
  simpa using silent

theorem elemLookup_of_stop (stop : StopsFirst map buffer key distance) :
    elemLookup map buffer key =
      (bucketTable map buffer (probed map key distance)).map
        fun _ => getValue map (probed map key distance) := by
  have below := probed_lt map key distance
  have silent : ∀ earlier < distance,
      lookupBody map buffer key (probed map key earlier) = none := by
    intro earlier before
    have filled := body_silent (probed_lt map key earlier) (stop.silent earlier before)
    simp [lookupBody, filled]
  have stops := (stopsAt_iff below key).mp stop.stops
  unfold elemLookup
  cases held : bucketTable map buffer (probed map key distance) with
  | none =>
      have empty := (isEmpty_iff below).mpr held
      have returns : lookupBody map buffer key (probed map key distance) = some none := by
        simp [lookupBody, empty]
      rw [probe_returns stop.below silent returns]
      rfl
  | some entry =>
      have notEmpty := (bucketTable_some held).1
      have returns : lookupBody map buffer key (probed map key distance) =
          some (some (getValue map (probed map key distance))) := by
        rw [notEmpty, Bool.false_or] at stops
        simp [lookupBody, notEmpty, stops]
      rw [probe_returns stop.below silent returns]
      rfl

theorem elemLookup_of_never (never : NeverStops map buffer key) :
    elemLookup map buffer key = none := by
  have silent : ∀ distance < map.numBuckets,
      lookupBody map buffer key (probed map key distance) = none := by
    intro distance below
    have filled := body_silent (probed_lt map key distance) (never distance below)
    simp [lookupBody, filled]
  unfold elemLookup
  rw [probe_falls_through silent]
  rfl

theorem elemUpdate_of_stop (stop : StopsFirst map buffer key distance) (value : Nat → UInt8) :
    elemUpdate map buffer key value =
      (1, fillBucket map buffer (probed map key distance) key value) := by
  have silent : ∀ earlier < distance,
      updateBody map buffer key value (probed map key earlier) = none := by
    intro earlier before
    have filled := body_silent (probed_lt map key earlier) (stop.silent earlier before)
    simp [updateBody, filled]
  have stops := (stopsAt_iff (probed_lt map key distance) key).mp stop.stops
  have returns : updateBody map buffer key value (probed map key distance) =
      some (fillBucket map buffer (probed map key distance) key value) := by
    unfold updateBody
    rw [if_pos stops]
  unfold elemUpdate
  rw [probe_returns stop.below silent returns]
  rfl

theorem elemUpdate_of_never (never : NeverStops map buffer key) (value : Nat → UInt8) :
    elemUpdate map buffer key value = (0, buffer) := by
  have silent : ∀ distance < map.numBuckets,
      updateBody map buffer key value (probed map key distance) = none := by
    intro distance below
    have filled := body_silent (probed_lt map key distance) (never distance below)
    simp [updateBody, filled]
  unfold elemUpdate
  rw [probe_falls_through silent]
  rfl

end Outcomes

/-! ## Chained buffers -/

/-- The buffer keeps the probing invariant. -/
abbrev ChainedBuffer (map : HashMapDef) (buffer : Memory) : Prop :=
  Chained map.numBuckets (homeBucket map) (bucketTable map buffer)

/-- The buffer holds a value under a key in some bucket. -/
abbrev Holds (map : HashMapDef) (buffer : Memory) (key value : List UInt8) : Prop :=
  Stored map.numBuckets (bucketTable map buffer) key value

section Chains

variable {map : HashMapDef} {buffer : Memory}

theorem chained_zeroBuffer (map : HashMapDef) : ChainedBuffer map zeroBuffer := by
  unfold ChainedBuffer
  rw [bucketTable_zeroBuffer]
  exact Chained.empty

theorem not_holds_zeroBuffer (map : HashMapDef) (key value : List UInt8) :
    ¬ Holds map zeroBuffer key value := by
  unfold Holds
  rw [bucketTable_zeroBuffer]
  rintro ⟨_, _, held⟩
  cases held

/-- In a chained buffer `elem_lookup` designates exactly the stored value. -/
theorem lookupBytes_eq_some_iff (chained : ChainedBuffer map buffer) (key : Nat → UInt8)
    (value : List UInt8) :
    lookupBytes map buffer key = some value ↔ Holds map buffer (keyBytes map key) value := by
  unfold lookupBytes Holds
  rcases firstStop_or_full map.numBuckets (homeBucket map) (bucketTable map buffer)
    (keyBytes map key) with ⟨distance, stop⟩ | never
  · rw [elemLookup_of_stop stop, chained.stored_iff stop]
    cases held : bucketTable map buffer (probed map key distance) with
    | none => simp
    | some entry =>
        obtain ⟨storedKey, storedValue⟩ := entry
        have values := (bucketTable_some held).2.2
        have sameKey := stop.stops storedKey storedValue held
        simp [values, sameKey]
  · rw [elemLookup_of_never never]
    have absent := not_stored_of_full never value
    simp [absent]

theorem lookupBytes_eq_none_iff (chained : ChainedBuffer map buffer) (key : Nat → UInt8) :
    lookupBytes map buffer key = none ↔
      ∀ value, ¬ Holds map buffer (keyBytes map key) value := by
  rw [Option.eq_none_iff_forall_ne_some]
  exact forall_congr' fun value => not_congr (lookupBytes_eq_some_iff chained key value)

/-- `elem_update` either stores its pair and leaves every other key alone, or
finds the table full of other keys and changes nothing. -/
theorem elemUpdate_cases (chained : ChainedBuffer map buffer) (key value : Nat → UInt8) :
    (∃ filled, elemUpdate map buffer key value = (1, filled) ∧ ChainedBuffer map filled ∧
      (∀ candidate, Holds map filled (keyBytes map key) candidate ↔
        candidate = valueBytes map value) ∧
      ∀ other candidate, other ≠ keyBytes map key →
        (Holds map filled other candidate ↔ Holds map buffer other candidate)) ∨
    (elemUpdate map buffer key value = (0, buffer) ∧ NeverStops map buffer key) := by
  rcases firstStop_or_full map.numBuckets (homeBucket map) (bucketTable map buffer)
    (keyBytes map key) with ⟨distance, stop⟩ | never
  · refine Or.inl ⟨_, elemUpdate_of_stop stop value, ?_⟩
    unfold ChainedBuffer Holds
    rw [bucketTable_fillBucket (probed_lt map key distance)]
    exact ⟨chained.fill stop _, stored_fill_self stop chained _,
      fun other candidate different => stored_fill_other stop different _ candidate⟩
  · exact Or.inr ⟨elemUpdate_of_never never value, never⟩

end Chains

/-! ## Element count -/

section Count

variable {map : HashMapDef} {buffer : Memory}

private theorem foldl_count (empty : Nat → Bool) (count : Nat) (small : count < 2 ^ 32) :
    (List.range count).foldl
        (fun total index => if empty index then total else (total + 1) % 2 ^ 32) 0 =
      ((Finset.range count).filter fun index => empty index = false).card := by
  induction count with
  | zero => rfl
  | succ count inductionHypothesis =>
      have bound : ((Finset.range count).filter fun index => empty index = false).card ≤ count := by
        simpa using Finset.card_filter_le (Finset.range count) fun index => empty index = false
      rw [List.range_succ, List.foldl_append, inductionHypothesis (by omega),
        Finset.range_add_one, Finset.filter_insert]
      cases flag : empty count with
      | true => simp [flag]
      | false =>
          rw [if_pos rfl, Finset.card_insert_of_notMem (by simp)]
          simp only [List.foldl_cons, List.foldl_nil, flag, Bool.false_eq_true, if_false]
          exact Nat.mod_eq_of_lt (by omega)

/-- `get_elem_count` counts the filled buckets. -/
theorem getElemCount_eq_card (map : HashMapDef) (buffer : Memory) :
    getElemCount map buffer = (filled map.numBuckets (bucketTable map buffer)).card := by
  unfold getElemCount
  rw [foldl_count _ _ (numBuckets_lt map)]
  congr 1
  apply Finset.filter_congr
  intro index member
  have flag : isEmpty map buffer index = true ↔ bucketTable map buffer index = none :=
    isEmpty_iff (Finset.mem_range.mp member)
  rw [← Option.ne_none_iff_isSome, ne_eq, ← flag, Bool.not_eq_true]

end Count

/-! ## Runs of updates and lookups -/

inductive StoreCall where
  | update (key value : Nat → UInt8)
  | lookup (key : Nat → UInt8)

/-- The buffer, with the pairs whose `elem_update` succeeded, latest first. -/
structure StoreTrace where
  buffer : Memory
  stored : List (List UInt8 × List UInt8)

def StoreTrace.perform (map : HashMapDef) (trace : StoreTrace) : StoreCall → StoreTrace
  | .update key value =>
      match elemUpdate map trace.buffer key value with
      | (0, buffer) => ⟨buffer, trace.stored⟩
      | (_, buffer) => ⟨buffer, (keyBytes map key, valueBytes map value) :: trace.stored⟩
  | .lookup _ => trace

def StoreTrace.run (map : HashMapDef) (calls : List StoreCall) : StoreTrace :=
  calls.foldl (StoreTrace.perform map) ⟨zeroBuffer, []⟩

/-- The keys that some successful update stored. -/
def StoreTrace.keys (trace : StoreTrace) : Finset (List UInt8) :=
  (trace.stored.map Prod.fst).toFinset

/-- The buffer is chained and holds the last stored value of every key. -/
structure StoreTrace.Represents (map : HashMapDef) (trace : StoreTrace) : Prop where
  chained : ChainedBuffer map trace.buffer
  holds : ∀ key value,
    Holds map trace.buffer key value ↔ trace.stored.lookup key = some value

theorem lookup_ne_none_iff {key : List UInt8} {stored : List (List UInt8 × List UInt8)} :
    (∃ value, stored.lookup key = some value) ↔ key ∈ (stored.map Prod.fst).toFinset := by
  induction stored with
  | nil => simp
  | cons entry rest inductionHypothesis =>
      obtain ⟨entryKey, entryValue⟩ := entry
      by_cases same : key = entryKey
      · simp [same]
      · have differs : (key == entryKey) = false := by simpa using same
        simp only [List.lookup_cons, differs, List.map_cons, List.toFinset_cons,
          Finset.mem_insert, same, false_or]
        exact inductionHypothesis

section Runs

variable {map : HashMapDef} {trace : StoreTrace}

theorem StoreTrace.Represents.keys_holds (represents : trace.Represents map)
    (key : List UInt8) :
    key ∈ trace.keys ↔ ∃ value, Holds map trace.buffer key value := by
  unfold StoreTrace.keys
  rw [← lookup_ne_none_iff]
  exact exists_congr fun value => (represents.holds key value).symm

theorem StoreTrace.Represents.count (represents : trace.Represents map) :
    getElemCount map trace.buffer = trace.keys.card := by
  rw [getElemCount_eq_card]
  exact represents.chained.card_filled represents.keys_holds

theorem StoreTrace.Represents.lookup (represents : trace.Represents map)
    (key : Nat → UInt8) :
    lookupBytes map trace.buffer key = trace.stored.lookup (keyBytes map key) := by
  apply Option.ext
  intro value
  rw [lookupBytes_eq_some_iff represents.chained, represents.holds]

/-- A probe that never stops has a full table of other keys before it. -/
theorem StoreTrace.Represents.full (represents : trace.Represents map) {key : Nat → UInt8}
    (never : NeverStops map trace.buffer key) :
    trace.keys.card = map.numBuckets ∧ keyBytes map key ∉ trace.keys := by
  refine ⟨?_, ?_⟩
  · rw [← represents.count, getElemCount_eq_card]
    have all : filled map.numBuckets (bucketTable map trace.buffer) =
        Finset.range map.numBuckets := by
      apply Finset.filter_true_of_mem
      intro slot member
      obtain ⟨distance, below, rfl⟩ := exists_position (homeBucket map) (keyBytes map key)
        (Finset.mem_range.mp member)
      obtain ⟨other, value, held, _⟩ := not_stopsAt.mp (never distance below)
      rw [held]
      rfl
    rw [all, Finset.card_range]
  · intro member
    obtain ⟨value, held⟩ := (represents.keys_holds _).mp member
    exact not_stored_of_full never value held

/-- A full table of other keys makes `elem_update` fail. -/
theorem StoreTrace.Represents.fails_of_full (represents : trace.Represents map)
    {key : Nat → UInt8} (value : Nat → UInt8) (size : trace.keys.card = map.numBuckets)
    (fresh : keyBytes map key ∉ trace.keys) :
    elemUpdate map trace.buffer key value = (0, trace.buffer) := by
  rcases elemUpdate_cases represents.chained key value with
    ⟨filledBuffer, _, chained, self, others⟩ | ⟨failed, _⟩
  · -- Otherwise the table would hold one key more than it has buckets.
    have grown : ∀ candidate, candidate ∈ insert (keyBytes map key) trace.keys ↔
        ∃ entry, Holds map filledBuffer candidate entry := by
      intro candidate
      rw [Finset.mem_insert]
      by_cases same : candidate = keyBytes map key
      · rw [same]
        exact ⟨fun _ => ⟨_, (self _).mpr rfl⟩, fun _ => Or.inl rfl⟩
      · rw [or_iff_right same, represents.keys_holds]
        exact exists_congr fun entry => (others candidate entry same).symm
    have count := chained.card_filled grown
    have bound := Finset.card_filter_le (Finset.range map.numBuckets)
      fun slot => (bucketTable map filledBuffer slot).isSome = true
    rw [Finset.card_insert_of_notMem fresh, size] at count
    unfold filled at count
    rw [Finset.card_range] at bound
    omega
  · exact failed

/-- One call keeps the representation. -/
theorem StoreTrace.Represents.perform (represents : trace.Represents map) (call : StoreCall) :
    (trace.perform map call).Represents map := by
  cases call with
  | lookup key => exact represents
  | update key value =>
      rcases elemUpdate_cases represents.chained key value with
        ⟨filledBuffer, stored, chained, self, others⟩ | ⟨failed, _⟩
      · have after : trace.perform map (.update key value) =
            ⟨filledBuffer, (keyBytes map key, valueBytes map value) :: trace.stored⟩ := by
          simp [StoreTrace.perform, stored]
        rw [after]
        refine ⟨chained, ?_⟩
        intro other candidate
        by_cases same : other = keyBytes map key
        · rw [same, self, List.lookup_cons_self, Option.some_inj]
          exact eq_comm
        · have differs : (other == keyBytes map key) = false := by simpa using same
          rw [others other candidate same, represents.holds, List.lookup_cons, differs]
      · have after : trace.perform map (.update key value) = trace := by
          simp [StoreTrace.perform, failed]
        rw [after]
        exact represents

theorem StoreTrace.perform_buffer (map : HashMapDef) (trace : StoreTrace)
    (key value : Nat → UInt8) :
    (trace.perform map (.update key value)).buffer =
      (elemUpdate map trace.buffer key value).2 := by
  unfold StoreTrace.perform
  dsimp only
  split
  · rename_i outcome
    rw [outcome]
  · rename_i outcome
    rw [outcome]

/-- An update is recorded, or the table is full of other keys. -/
theorem StoreTrace.Represents.update_cases (represents : trace.Represents map)
    (key value : Nat → UInt8) :
    (trace.perform map (.update key value)).stored =
        (keyBytes map key, valueBytes map value) :: trace.stored ∨
      ((trace.perform map (.update key value)).stored = trace.stored ∧
        trace.keys.card = map.numBuckets ∧ keyBytes map key ∉ trace.keys) := by
  rcases elemUpdate_cases represents.chained key value with
    ⟨filledBuffer, stored, _⟩ | ⟨failed, never⟩
  · left
    simp [StoreTrace.perform, stored]
  · right
    refine ⟨?_, represents.full never⟩
    simp [StoreTrace.perform, failed]

theorem StoreTrace.Represents.card_keys_le (represents : trace.Represents map) :
    trace.keys.card ≤ map.numBuckets := by
  rw [← represents.count, getElemCount_eq_card]
  have bound := Finset.card_filter_le (Finset.range map.numBuckets)
    fun slot => (bucketTable map trace.buffer slot).isSome = true
  rw [Finset.card_range] at bound
  exact bound

theorem StoreTrace.run_represents (map : HashMapDef) (calls : List StoreCall) :
    (StoreTrace.run map calls).Represents map := by
  have start : (⟨zeroBuffer, []⟩ : StoreTrace).Represents map := by
    refine ⟨chained_zeroBuffer map, ?_⟩
    intro key value
    simp [not_holds_zeroBuffer map key value]
  unfold StoreTrace.run
  generalize (⟨zeroBuffer, []⟩ : StoreTrace) = trace at start
  induction calls generalizing trace with
  | nil => exact start
  | cons call rest inductionHypothesis =>
      exact inductionHypothesis _ (start.perform call)

end Runs

/-- After every run of updates and lookups the flat buffer is the bounded map of
the last successful updates: lookups return their bytes, an update fails exactly
on a full table without its key and then changes nothing, keys occupy one bucket
each, the count is the number of keys, and every probe loop ends within one
round. -/
theorem elemUpdate_elemLookup_refine_bounded_map (map : HashMapDef) (calls : List StoreCall) :
    let trace := StoreTrace.run map calls
    (∀ key, lookupBytes map trace.buffer key = trace.stored.lookup (keyBytes map key)) ∧
    (∀ key value,
      ((elemUpdate map trace.buffer key value).1 = 0 ↔
        trace.keys.card = map.numBuckets ∧ keyBytes map key ∉ trace.keys) ∧
      ((elemUpdate map trace.buffer key value).1 = 0 →
        (elemUpdate map trace.buffer key value).2 = trace.buffer)) ∧
    (∀ left < map.numBuckets, ∀ right < map.numBuckets,
      isEmpty map trace.buffer left = false → isEmpty map trace.buffer right = false →
      trace.buffer.bytes (getKey map left) map.keySize =
        trace.buffer.bytes (getKey map right) map.keySize → left = right) ∧
    getElemCount map trace.buffer = trace.keys.card ∧
    ∀ key value,
      (∃ run, probe map key (lookupBody map trace.buffer key) = some run ∧
        run.visited.Nodup ∧ ∀ index ∈ run.visited, index < map.numBuckets) ∧
      ∃ run, probe map key (updateBody map trace.buffer key value) = some run ∧
        run.visited.Nodup ∧ ∀ index ∈ run.visited, index < map.numBuckets := by
  intro trace
  have represents : trace.Represents map := StoreTrace.run_represents map calls
  refine ⟨represents.lookup, ?_, ?_, represents.count, ?_⟩
  · intro key value
    rcases elemUpdate_cases represents.chained key value with
      ⟨filledBuffer, stored, _⟩ | ⟨failed, never⟩
    · rw [stored]
      refine ⟨⟨fun impossible => ?_, fun full => ?_⟩, fun impossible => ?_⟩
      · exact absurd impossible one_ne_zero
      · rw [represents.fails_of_full value full.1 full.2] at stored
        exact (Prod.mk.inj stored).1.symm
      · exact absurd impossible one_ne_zero
    · rw [failed]
      exact ⟨⟨fun _ => represents.full never, fun _ => rfl⟩, fun _ => rfl⟩
  · intro left leftBelow right rightBelow leftFilled rightFilled same
    have entry : ∀ index < map.numBuckets, isEmpty map trace.buffer index = false →
        bucketTable map trace.buffer index =
          some (trace.buffer.bytes (getKey map index) map.keySize,
            trace.buffer.bytes (getValue map index) map.valueSize) := by
      intro index below filledAt
      simp [bucketTable, below, filledAt]
    have leftHeld := entry left leftBelow leftFilled
    rw [same] at leftHeld
    exact represents.chained.slot_unique leftBelow rightBelow leftHeld
      (entry right rightBelow rightFilled)
  · intro key value
    obtain ⟨lookupRun, lookupEnds, lookupNodup, _, lookupInside⟩ :=
      probe_ends map (lookupBody map trace.buffer key) key
    obtain ⟨updateRun, updateEnds, updateNodup, _, updateInside⟩ :=
      probe_ends map (updateBody map trace.buffer key value) key
    exact ⟨⟨lookupRun, lookupEnds, lookupNodup, lookupInside⟩,
      ⟨updateRun, updateEnds, updateNodup, updateInside⟩⟩

end UserspaceXdp.InlineMap
