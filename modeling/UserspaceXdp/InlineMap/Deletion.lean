import UserspaceXdp.InlineMap.Refinement

/-!
Contract: `elem_delete` and the probe paths it cuts.

`elem_delete` only clears the flag of the bucket it finds. A key that was
pushed past that bucket when it was stored is no longer found: its probe stops
at the hole. This module says exactly when that happens.

Owns: the outcome of `elem_delete`, the deletion contract over whole runs of
updates and deletes, and the condition on the deletes of a run under which the
contract holds.
-/

namespace UserspaceXdp.InlineMap

open UserspaceXdp.Foundation
open UserspaceXdp.Foundation.LinearProbing

/-! ## Outcomes -/

section Outcomes

variable {map : HashMapDef} {buffer : Memory} {key : Nat → UInt8} {distance : Nat}

theorem elemDelete_of_stop (stop : StopsFirst map buffer key distance) :
    elemDelete map buffer key =
      if bucketTable map buffer (probed map key distance) = none then (0, buffer)
      else (1, setEmpty map buffer (probed map key distance)) := by
  have below := probed_lt map key distance
  have silent : ∀ earlier < distance,
      deleteBody map buffer key (probed map key earlier) = none := by
    intro earlier before
    have filled := body_silent (probed_lt map key earlier) (stop.silent earlier before)
    simp [deleteBody, filled]
  have stops := (stopsAt_iff below key).mp stop.stops
  unfold elemDelete
  by_cases hole : bucketTable map buffer (probed map key distance) = none
  · have empty := (isEmpty_iff below).mpr hole
    have returns : deleteBody map buffer key (probed map key distance) = some (0, buffer) := by
      simp [deleteBody, empty]
    rw [probe_returns stop.below silent returns, if_pos hole]
    rfl
  · have notEmpty : isEmpty map buffer (probed map key distance) = false := by
      rw [← Bool.not_eq_true, isEmpty_iff below]
      exact hole
    have returns : deleteBody map buffer key (probed map key distance) =
        some (1, setEmpty map buffer (probed map key distance)) := by
      rw [notEmpty, Bool.false_or] at stops
      simp [deleteBody, notEmpty, stops]
    rw [probe_returns stop.below silent returns, if_neg hole]
    rfl

theorem elemDelete_of_never (never : NeverStops map buffer key) :
    elemDelete map buffer key = (0, buffer) := by
  have silent : ∀ distance < map.numBuckets,
      deleteBody map buffer key (probed map key distance) = none := by
    intro distance below
    have filled := body_silent (probed_lt map key distance) (never distance below)
    simp [deleteBody, filled]
  unfold elemDelete
  rw [probe_falls_through silent]
  rfl

/-- In a chained buffer `elem_lookup` points to the value of the bucket that
holds the key. -/
theorem elemLookup_eq_some_iff (chained : ChainedBuffer map buffer) (pointer : Nat) :
    elemLookup map buffer key = some pointer ↔
      ∃ index < map.numBuckets, ∃ value,
        bucketTable map buffer index = some (keyBytes map key, value) ∧
          getValue map index = pointer := by
  rcases firstStop_or_full map.numBuckets (homeBucket map) (bucketTable map buffer)
    (keyBytes map key) with ⟨distance, stop⟩ | never
  · rw [elemLookup_of_stop stop]
    refine ⟨fun found => ?_, fun stored => ?_⟩
    · rw [Option.map_eq_some_iff] at found
      obtain ⟨⟨storedKey, value⟩, held, points⟩ := found
      have sameKey := stop.stops storedKey value held
      rw [sameKey] at held
      exact ⟨_, probed_lt map key distance, value, held, points⟩
    · obtain ⟨index, below, value, held, points⟩ := stored
      have here := (chained.stored_iff stop value).mp ⟨index, below, held⟩
      have same := chained.slot_unique below (probed_lt map key distance) held here
      rw [here, ← same]
      simp [points]
  · rw [elemLookup_of_never never]
    refine ⟨fun found => (by cases found), fun stored => ?_⟩
    obtain ⟨index, below, value, held, _⟩ := stored
    exact absurd ⟨index, below, held⟩ (not_stored_of_full never value)

theorem elemLookup_eq_none_iff (chained : ChainedBuffer map buffer) :
    elemLookup map buffer key = none ↔
      ∀ value, ¬ Holds map buffer (keyBytes map key) value := by
  rw [← lookupBytes_eq_none_iff chained]
  unfold lookupBytes
  rw [Option.map_eq_none_iff]

/-- `elem_delete` of a chained buffer: it empties the bucket of the key, or the
key is not stored and nothing changes. -/
theorem elemDelete_cases (chained : ChainedBuffer map buffer) (key : Nat → UInt8) :
    (∃ index < map.numBuckets, ∃ value,
      bucketTable map buffer index = some (keyBytes map key, value) ∧
        elemDelete map buffer key = (1, setEmpty map buffer index)) ∨
    (elemDelete map buffer key = (0, buffer) ∧
      ∀ value, ¬ Holds map buffer (keyBytes map key) value) := by
  rcases firstStop_or_full map.numBuckets (homeBucket map) (bucketTable map buffer)
    (keyBytes map key) with ⟨distance, stop⟩ | never
  · have outcome := elemDelete_of_stop stop
    cases held : bucketTable map buffer (probed map key distance) with
    | none =>
        rw [if_pos held] at outcome
        refine Or.inr ⟨outcome, fun value stored => ?_⟩
        have here := (chained.stored_iff stop value).mp stored
        rw [held] at here
        cases here
    | some entry =>
        obtain ⟨storedKey, value⟩ := entry
        have sameKey := stop.stops storedKey value held
        rw [if_neg (by rw [held]; simp)] at outcome
        rw [sameKey] at held
        exact Or.inl ⟨_, probed_lt map key distance, value, held, outcome⟩
  · exact Or.inr ⟨elemDelete_of_never never, fun value => not_stored_of_full never value⟩

end Outcomes

/-! ## The contract of one delete -/

/-- What `elem_delete` owes its caller in one call. -/
structure DeleteContract (map : HashMapDef) (buffer : Memory) (key : Nat → UInt8) : Prop where
  returns : (elemDelete map buffer key).1 = 1 ↔ elemLookup map buffer key ≠ none
  forgets : elemLookup map (elemDelete map buffer key).2 key = none
  frame : ∀ other, keyBytes map other ≠ keyBytes map key →
    elemLookup map (elemDelete map buffer key).2 other = elemLookup map buffer other ∧
      lookupBytes map (elemDelete map buffer key).2 other = lookupBytes map buffer other
  drops : (elemDelete map buffer key).1 = 1 →
    getElemCount map (elemDelete map buffer key).2 + 1 = getElemCount map buffer
  keeps : (elemDelete map buffer key).1 ≠ 1 →
    getElemCount map (elemDelete map buffer key).2 = getElemCount map buffer

/-- No other stored key's probe path, from its home bucket to the bucket that
holds it, runs through the bucket of `key`. -/
def SafeDelete (map : HashMapDef) (buffer : Memory) (key : Nat → UInt8) : Prop :=
  ∀ index < map.numBuckets, ∀ value,
    bucketTable map buffer index = some (keyBytes map key, value) →
      ¬ Crossed map.numBuckets (homeBucket map) (bucketTable map buffer) index

section OneDelete

variable {map : HashMapDef} {buffer : Memory} {key : Nat → UInt8}

/-- A safe delete keeps the chains. -/
theorem chained_elemDelete (chained : ChainedBuffer map buffer)
    (safe : SafeDelete map buffer key) :
    ChainedBuffer map (elemDelete map buffer key).2 := by
  rcases elemDelete_cases chained key with ⟨index, below, value, held, outcome⟩ | ⟨outcome, _⟩
  · rw [outcome]
    unfold ChainedBuffer
    rw [bucketTable_setEmpty below]
    exact chained.empty_iff.mpr (safe index below value held)
  · rw [outcome]
    exact chained

/-- A delete removes entries only. -/
theorem holds_of_elemDelete (chained : ChainedBuffer map buffer) {other value : List UInt8}
    (held : Holds map (elemDelete map buffer key).2 other value) :
    Holds map buffer other value := by
  rcases elemDelete_cases chained key with ⟨index, below, _, _, outcome⟩ | ⟨outcome, _⟩
  · rw [outcome] at held
    unfold Holds at held
    rw [bucketTable_setEmpty below] at held
    obtain ⟨slot, slotBelow, entry⟩ := held
    have apart : slot ≠ index := by
      intro same
      rw [same, Function.update_self] at entry
      cases entry
    rw [Function.update_of_ne apart] at entry
    exact ⟨slot, slotBelow, entry⟩
  · rw [outcome] at held
    exact held

theorem filled_setEmpty {index : Nat} (below : index < map.numBuckets) :
    filled map.numBuckets (bucketTable map (setEmpty map buffer index)) =
      (filled map.numBuckets (bucketTable map buffer)).erase index := by
  rw [bucketTable_setEmpty below]
  ext slot
  rw [Finset.mem_erase, mem_filled, mem_filled]
  by_cases same : slot = index
  · rw [same, Function.update_self]
    simp
  · rw [Function.update_of_ne same]
    simp [same]

/-- Under the chain invariant a safe delete meets its contract. -/
theorem SafeDelete.contract (chained : ChainedBuffer map buffer)
    (safe : SafeDelete map buffer key) : DeleteContract map buffer key := by
  have after := chained_elemDelete chained safe
  rcases elemDelete_cases chained key with ⟨index, below, value, held, outcome⟩ | ⟨outcome, absent⟩
  · have emptied : bucketTable map (elemDelete map buffer key).2 =
        Function.update (bucketTable map buffer) index none := by
      rw [outcome, bucketTable_setEmpty below]
    have before : elemLookup map buffer key = some (getValue map index) :=
      (elemLookup_eq_some_iff chained _).mpr ⟨index, below, value, held, rfl⟩
    refine ⟨?_, ?_, ?_, ?_, ?_⟩
    · rw [outcome, before]
      simp
    · rw [elemLookup_eq_none_iff after]
      intro candidate
      unfold Holds
      rw [emptied]
      exact chained.not_stored_empty below held candidate
    · intro other different
      refine ⟨?_, ?_⟩
      · apply Option.ext
        intro pointer
        rw [elemLookup_eq_some_iff after, elemLookup_eq_some_iff chained, emptied]
        refine exists_congr fun slot => and_congr_right fun _ => exists_congr fun entry => ?_
        by_cases same : slot = index
        · rw [same, Function.update_self, held]
          have keyDiffers : keyBytes map key ≠ keyBytes map other := fun equal =>
            different equal.symm
          simp [keyDiffers]
        · rw [Function.update_of_ne same]
      · apply Option.ext
        intro candidate
        rw [lookupBytes_eq_some_iff after, lookupBytes_eq_some_iff chained]
        unfold Holds
        rw [emptied]
        exact stored_empty_other held different candidate
    · intro _
      rw [outcome, getElemCount_eq_card, getElemCount_eq_card, filled_setEmpty below]
      exact Finset.card_erase_add_one
        (mem_filled.mpr ⟨below, keyBytes map key, value, held⟩)
    · intro notOne
      rw [outcome] at notOne
      exact absurd rfl notOne
  · have before : elemLookup map buffer key = none :=
      (elemLookup_eq_none_iff chained).mpr absent
    rw [outcome] at after
    refine ⟨?_, ?_, ?_, ?_, ?_⟩
    · rw [outcome, before]
      simp
    · rw [outcome]
      exact before
    · intro other _
      rw [outcome]
      exact ⟨rfl, rfl⟩
    · intro isOne
      rw [outcome] at isOne
      cases isOne
    · intro _
      rw [outcome]

/-- The bytes of a stored key, as a pointer to them. -/
theorem exists_key_of_held {index : Nat} {stored value : List UInt8}
    (held : bucketTable map buffer index = some (stored, value)) :
    ∃ pointer : Nat → UInt8, keyBytes map pointer = stored := by
  have keys := (bucketTable_some held).2.1
  refine ⟨fun offset => buffer (getKey map index + offset), ?_⟩
  rw [← keys]
  exact Memory.bytes_eq_iff.mpr fun offset _ => by rw [Nat.zero_add]

/-- A crossed bucket breaks the contract: the crossing key is lost. -/
theorem DeleteContract.safe (chained : ChainedBuffer map buffer)
    (contract : DeleteContract map buffer key) : SafeDelete map buffer key := by
  intro index below value held crossed
  obtain ⟨stored, storedValue, distance, earlier, before, distanceBelow, storedHeld, crosses⟩ :=
    crossed
  obtain ⟨other, rfl⟩ := exists_key_of_held storedHeld
  have different : keyBytes map other ≠ keyBytes map key := by
    obtain ⟨_, _, filledAt, notOther⟩ :=
      chained (keyBytes map other) storedValue distance distanceBelow storedHeld earlier before
    rw [crosses, held] at filledAt
    intro same
    exact notOther ((Prod.mk.inj (Option.some.inj filledAt)).1.symm.trans same.symm)
  have found : elemLookup map buffer other =
      some (getValue map (probed map other distance)) :=
    (elemLookup_eq_some_iff chained _).mpr
      ⟨_, probed_lt map other distance, storedValue, storedHeld, rfl⟩
  have outcome : elemDelete map buffer key = (1, setEmpty map buffer index) := by
    rcases elemDelete_cases chained key with ⟨place, placeBelow, entry, placeHeld, outcome⟩ |
      ⟨_, absent⟩
    · rw [outcome, chained.slot_unique placeBelow below placeHeld held]
    · exact absurd ⟨index, below, held⟩ (absent value)
  -- After the delete the probe of the crossing key stops at the hole.
  have stop : StopsFirst map (setEmpty map buffer index) other earlier := by
    have emptied : bucketTable map (setEmpty map buffer index) =
        Function.update (bucketTable map buffer) index none := bucketTable_setEmpty below
    have original := chained.firstStop_of_held distanceBelow storedHeld
    refine ⟨by omega, ?_, ?_⟩
    · intro candidate candidateValue filledAt
      rw [emptied, crosses, Function.update_self] at filledAt
      cases filledAt
    · intro sooner soonerBefore
      have missed : probed map other sooner ≠ index := by
        intro same
        rw [← crosses] at same
        exact Nat.ne_of_lt soonerBefore (position_injective (by omega) (by omega) same)
      have silent := original.silent sooner (by omega)
      rw [not_stopsAt] at silent ⊢
      rw [emptied, Function.update_of_ne missed]
      exact silent
  have lost := elemLookup_of_stop stop
  rw [bucketTable_setEmpty below, probed, crosses, Function.update_self] at lost
  have kept := (contract.frame other different).1
  rw [outcome, found] at kept
  rw [lost] at kept
  cases kept

end OneDelete

/-! ## Runs of updates and deletes -/

inductive EditCall where
  | update (key value : Nat → UInt8)
  | delete (key : Nat → UInt8)

def editStep (map : HashMapDef) (buffer : Memory) : EditCall → Memory
  | .update key value => (elemUpdate map buffer key value).2
  | .delete key => (elemDelete map buffer key).2

/-- The buffer after a run of updates and deletes from the zeroed buffer. -/
def editRun (map : HashMapDef) (calls : List EditCall) : Memory :=
  calls.foldl (editStep map) zeroBuffer

/-- The calls contain no update of the key. -/
def NoUpdateOf (map : HashMapDef) (key : Nat → UInt8) (calls : List EditCall) : Prop :=
  ∀ updated value, EditCall.update updated value ∈ calls →
    keyBytes map updated ≠ keyBytes map key

/-- Every delete of the run meets its contract, and its key stays absent until
the key's next update. -/
def DeletesMeetContract (map : HashMapDef) (calls : List EditCall) : Prop :=
  ∀ earlier key later, calls = earlier ++ .delete key :: later →
    DeleteContract map (editRun map earlier) key ∧
      ∀ between rest, later = between ++ rest → NoUpdateOf map key between →
        elemLookup map (editRun map (earlier ++ .delete key :: between)) key = none

/-- Every delete of the run is safe in the state it meets. -/
def DeletesSafe (map : HashMapDef) (calls : List EditCall) : Prop :=
  ∀ earlier key later, calls = earlier ++ .delete key :: later →
    SafeDelete map (editRun map earlier) key

section Runs

variable {map : HashMapDef}

theorem editRun_append (map : HashMapDef) (calls : List EditCall) (call : EditCall) :
    editRun map (calls ++ [call]) = editStep map (editRun map calls) call := by
  simp [editRun]

theorem DeletesSafe.of_append {calls more : List EditCall}
    (safe : DeletesSafe map (calls ++ more)) : DeletesSafe map calls := by
  intro earlier key later split
  apply safe earlier key (later ++ more)
  rw [split]
  simp

/-- A run of safe deletes keeps the chains. -/
theorem DeletesSafe.chained {calls : List EditCall} (safe : DeletesSafe map calls) :
    ChainedBuffer map (editRun map calls) := by
  induction calls using List.reverseRecOn with
  | nil => exact chained_zeroBuffer map
  | append_singleton calls call inductionHypothesis =>
      have before := inductionHypothesis safe.of_append
      rw [editRun_append]
      cases call with
      | update key value =>
          change ChainedBuffer map (elemUpdate map (editRun map calls) key value).2
          rcases elemUpdate_cases before key value with ⟨_, stored, chained, _⟩ | ⟨failed, _⟩
          · rw [stored]
            exact chained
          · rw [failed]
            exact before
      | delete key => exact chained_elemDelete before (safe calls key [] rfl)

/-- An absent key stays absent through calls that do not update it. -/
theorem DeletesSafe.stays_absent {calls between : List EditCall} {key : Nat → UInt8}
    (safe : DeletesSafe map (calls ++ between)) (untouched : NoUpdateOf map key between)
    (absent : ∀ value, ¬ Holds map (editRun map calls) (keyBytes map key) value) :
    ∀ value, ¬ Holds map (editRun map (calls ++ between)) (keyBytes map key) value := by
  induction between using List.reverseRecOn with
  | nil => simpa using absent
  | append_singleton between call inductionHypothesis =>
      rw [← List.append_assoc] at safe ⊢
      have before := inductionHypothesis safe.of_append
        fun updated value member => untouched updated value (List.mem_append_left _ member)
      have chained := safe.of_append.chained
      rw [editRun_append]
      intro value held
      cases call with
      | update updated stored =>
          have different := untouched updated stored (by simp)
          change Holds map (elemUpdate map (editRun map (calls ++ between)) updated stored).2
            (keyBytes map key) value at held
          rcases elemUpdate_cases chained updated stored with
            ⟨_, outcome, _, _, others⟩ | ⟨outcome, _⟩
          · rw [outcome] at held
            exact before value ((others _ value different.symm).mp held)
          · rw [outcome] at held
            exact before value held
      | delete deleted => exact before value (holds_of_elemDelete chained held)

/-- When the deletes of a run meet their contract, they are safe. -/
theorem DeletesMeetContract.safe {calls : List EditCall}
    (contract : DeletesMeetContract map calls) : DeletesSafe map calls := by
  induction calls using List.reverseRecOn with
  | nil =>
      intro earlier key later split
      simp at split
  | append_singleton calls call inductionHypothesis =>
      have restricted : DeletesMeetContract map calls := by
        intro earlier key later split
        obtain ⟨one, stays⟩ := contract earlier key (later ++ [call]) (by rw [split]; simp)
        refine ⟨one, fun between rest cut => stays between (rest ++ [call]) ?_⟩
        rw [cut, List.append_assoc]
      have safe := inductionHypothesis restricted
      intro earlier key later split
      rcases List.eq_nil_or_concat later with last | ⟨middle, final, last⟩
      · rw [last] at split
        obtain ⟨same, final⟩ := List.append_inj split (by
          have lengths := congrArg List.length split
          simp at lengths
          exact lengths)
        rw [← same]
        have one := (contract calls key [] (by rw [final])).1
        exact one.safe safe.chained
      · rw [last, List.concat_eq_append] at split
        rw [← List.cons_append, ← List.append_assoc] at split
        exact safe earlier key middle (List.append_inj_left' split rfl)

end Runs

/-- The deletes of a run of updates and deletes meet the deletion contract
exactly when none of them empties a bucket that lies on another stored key's
probe path. -/
theorem deletes_meet_contract_iff_safe (map : HashMapDef) (calls : List EditCall) :
    DeletesMeetContract map calls ↔ DeletesSafe map calls := by
  refine ⟨DeletesMeetContract.safe, fun safe => ?_⟩
  intro earlier key later split
  have safeEarlier : DeletesSafe map earlier := by
    rw [split] at safe
    exact safe.of_append
  have contract := (safe earlier key later split).contract safeEarlier.chained
  refine ⟨contract, ?_⟩
  intro between rest cut untouched
  have regroup : earlier ++ EditCall.delete key :: between =
      (earlier ++ [.delete key]) ++ between := by simp
  have safeBetween : DeletesSafe map ((earlier ++ [.delete key]) ++ between) := by
    rw [split, cut, ← List.cons_append, ← List.append_assoc, regroup] at safe
    exact safe.of_append
  have gone : ∀ value, ¬ Holds map (editRun map (earlier ++ [.delete key]))
      (keyBytes map key) value := by
    rw [← elemLookup_eq_none_iff safeBetween.of_append.chained, editRun_append]
    exact contract.forgets
  rw [regroup, elemLookup_eq_none_iff safeBetween.chained]
  exact safeBetween.stays_absent untouched gone

/-- Two buckets, one-byte keys and values. -/
def twoBuckets : HashMapDef where
  numBuckets := 2
  keySize := 1
  valueSize := 1
  numBuckets_pos := by decide
  fits := by decide

/-- The keys 0 and 2 share a home bucket; deleting the first loses the second. -/
theorem delete_loses_colliding_key :
    ¬ DeletesMeetContract twoBuckets
      [.update (fun _ => 0) (fun _ => 7), .update (fun _ => 2) (fun _ => 9),
        .delete (fun _ => 0)] := by
  intro contract
  have one := (contract [.update (fun _ => 0) (fun _ => 7), .update (fun _ => 2) (fun _ => 9)]
    (fun _ => 0) [] rfl).1
  have kept := (one.frame (fun _ => 2) (by decide)).1
  exact absurd kept (by decide)

end UserspaceXdp.InlineMap
