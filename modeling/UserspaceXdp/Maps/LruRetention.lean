import UserspaceXdp.Maps.LruRecency

/-!
Contract: how long an entry of the cache stays.

Owns: the keys that have been touched since an entry was, and that the entry is there
as long as these are fewer than the capacity.

Does not own: the order of all entries.
-/

namespace UserspaceXdp.Maps

open UserspaceXdp.Foundation

namespace Cache

variable {Key Value : Type} [BEq Key]

/-- A key is equal to one of these. -/
def Among (others : List Key) (key : Key) : Prop :=
  ∃ other ∈ others, (key == other) = true

/-- The node of a key is there with a good value, and the nodes in front of it are of
other keys. -/
def Keeps (cache : Cache Key Value) (others : List Key) (key : Key) (good : Value → Prop) : Prop :=
  ∃ before node after, cache.keys = before ++ node :: after ∧ (node.key == key) = true ∧
    good node.value ∧ ∀ ahead ∈ before, Among others ahead.key

variable {cache : Cache Key Value} {others : List Key} {key touched : Key} {good : Value → Prop}

/-- A key that is touched comes to the front. -/
theorem keeps_front {front : CacheNode Key Value} {rest : List (CacheNode Key Value)}
    (keys : cache.keys = front :: rest) (equal : (front.key == key) = true)
    (value : good front.value) : cache.Keeps [] key good :=
  ⟨[], front, rest, keys, equal, value, fun _ member => absurd member List.not_mem_nil⟩

theorem Keeps.mono {wider : List Key} (keeps : cache.Keeps others key good)
    (sub : ∀ other ∈ others, other ∈ wider) : cache.Keeps wider key good := by
  obtain ⟨before, node, after, keys, same, value, covered⟩ := keeps
  refine ⟨before, node, after, keys, same, value, fun ahead member => ?_⟩
  obtain ⟨other, present, equal⟩ := covered ahead member
  exact ⟨other, sub other present, equal⟩

variable [EquivBEq Key]

/-- The entry is found. -/
theorem Keeps.found (keeps : cache.Keeps others key good) (valid : cache.Valid)
    (equal : (touched == key) = true) :
    ∃ value, good value ∧ (cache.tryGetRef touched).1 = some value := by
  obtain ⟨before, node, after, keys, same, value, -⟩ := keeps
  refine ⟨node.value, value, ?_⟩
  rw [(valid.tryGetRef_spec touched).2.2]
  exact ⟨node, by simp [keys], BEq.trans same (BEq.symm equal), rfl⟩

/-- After a hit, the node of the key is in front. -/
theorem Valid.keeps_of_hit (valid : cache.Valid) {value : Value}
    (hit : (cache.tryGetRef key).1 = some value) (goodValue : good value) :
    (cache.tryGetRef key).2.Keeps [] key good := by
  cases found : cache.find key with
  | none =>
      rw [tryGetRef_miss found] at hit
      cases hit
  | some number =>
      obtain ⟨node, member, equal, after⟩ := valid.tryGetRef_hit found
      rw [after] at hit ⊢
      refine keeps_front rfl equal ?_
      rw [Option.some.inj hit]
      exact goodValue

/-- After an update, the node of the key is in front with the value. -/
theorem Valid.keeps_insert (valid : cache.Valid) (positive : 0 < cache.maxSize) {value : Value}
    (goodValue : good value) : (cache.insert key value).Keeps [] key good := by
  cases found : cache.find key with
  | none =>
      have keys := ((valid.push found value).prune_spec positive).2
      rw [insert_miss found]
      have front : (cache.push key value).keys = ⟨cache.nextNumber, key, value⟩ :: cache.keys := rfl
      rw [front] at keys
      split at keys
      · exact keeps_front keys BEq.rfl goodValue
      · obtain ⟨size, positive⟩ := Nat.exists_eq_add_of_lt positive
        have room : (cache.push key value).maxSize = size + 1 := by
          show cache.maxSize = size + 1
          omega
        rw [room, List.take_succ_cons] at keys
        exact keeps_front keys BEq.rfl goodValue
  | some number =>
      obtain ⟨node, member, equal, after⟩ := valid.insert_hit found value
      rw [after]
      exact keeps_front rfl equal goodValue

/-- A touch of another key leaves one more key in front. -/
theorem Keeps.touch (keeps : cache.Keeps others key good) (moved : CacheNode Key Value)
    (apartKey : (touched == key) = false) (among : Among others moved.key) :
    ∃ before node after, moved :: apart touched cache.keys = before ++ node :: after ∧
      (node.key == key) = true ∧ good node.value ∧ ∀ ahead ∈ before, Among others ahead.key := by
  obtain ⟨before, node, after, keys, same, value, covered⟩ := keeps
  have different : (node.key == touched) = false := by
    rw [BEq.comm]
    by_contra equal
    rw [Bool.not_eq_false] at equal
    rw [BEq.trans equal same] at apartKey
    cases apartKey
  refine ⟨moved :: apart touched before, node, apart touched after, ?_, same, value, ?_⟩
  · rw [keys]
    unfold apart
    rw [List.filter_append, List.filter_cons_of_pos (by simp [different])]
    rfl
  · intro ahead member
    rcases List.mem_cons.mp member with rfl | earlier
    · exact among
    · exact covered ahead (List.mem_of_mem_filter earlier)

/-- A lookup of the key or of one of the others. -/
theorem Keeps.tryGetRef (keeps : cache.Keeps others key good) (valid : cache.Valid)
    (allowed : (touched == key) = true ∨ Among others touched) :
    (cache.tryGetRef touched).2.Keeps others key good := by
  cases found : cache.find touched with
  | none =>
      rw [tryGetRef_miss found]
      exact keeps
  | some number =>
      obtain ⟨moved, member, equal, after⟩ := valid.tryGetRef_hit found
      by_cases same : (touched == key) = true
      · obtain ⟨value, goodValue, hit⟩ := keeps.found valid same
        rw [after, Option.some.injEq] at hit
        have front : (cache.tryGetRef touched).2.Keeps [] key good := by
          rw [after]
          exact keeps_front rfl (BEq.trans equal same) (hit ▸ goodValue)
        exact front.mono fun other member => absurd member List.not_mem_nil
      · obtain ⟨other, present, equalOther⟩ := allowed.resolve_left same
        rw [after]
        exact keeps.touch _ (Bool.eq_false_iff.mpr same)
          ⟨other, present, BEq.trans equal equalOther⟩

/-- The entry is among the first, if there are not more other keys. -/
theorem Keeps.take (valid : cache.Valid) (keeps : cache.Keeps others key good) {size : Nat}
    (few : others.length < size) :
    ∃ before node after, cache.keys.take size = before ++ node :: after ∧
      (node.key == key) = true ∧ good node.value ∧ ∀ ahead ∈ before, Among others ahead.key := by
  obtain ⟨before, node, after, keys, same, value, covered⟩ := keeps
  have distinct : (before.map CacheNode.key).Pairwise fun left right => (left == right) = false := by
    have all := valid.distinct
    rw [keys] at all
    exact List.pairwise_map.mpr (List.pairwise_append.mp all).1
  have short : before.length ≤ others.length := by
    have covers : ∀ item ∈ before.map CacheNode.key, ∃ other ∈ others, (item == other) = true := by
      intro item member
      obtain ⟨ahead, present, rfl⟩ := List.mem_map.mp member
      exact covered ahead present
    have length := length_le_of_covered distinct covers
    rwa [List.length_map] at length
  refine ⟨before, node, after.take (size - before.length - 1), ?_, same, value, covered⟩
  rw [keys, List.take_append, List.take_of_length_le (by omega)]
  obtain ⟨room, rest⟩ := Nat.exists_eq_add_of_lt (lt_of_le_of_lt short few)
  have left : size - before.length = room + 1 := by
    omega
  rw [left, List.take_succ_cons]
  rfl

/-- An update of one of the others, if they are fewer than the capacity. -/
theorem Keeps.insert (keeps : cache.Keeps others key good) (valid : cache.Valid)
    (few : others.length < cache.maxSize) (apartKey : (touched == key) = false)
    (among : Among others touched) (value : Value) :
    (cache.insert touched value).Keeps others key good := by
  have positive : 0 < cache.maxSize := Nat.zero_lt_of_lt few
  cases found : cache.find touched with
  | none =>
      have pushed := valid.push found value
      have keys := (pushed.prune_spec positive).2
      have different : apart touched cache.keys = cache.keys := by
        unfold apart
        rw [List.filter_eq_self]
        intro node member
        rw [valid.find_none found member]
        rfl
      have front : (cache.push touched value).Keeps others key good := by
        have moved := keeps.touch ⟨cache.nextNumber, touched, value⟩ apartKey among
        rw [different] at moved
        exact moved
      rw [insert_miss found]
      unfold Keeps
      rw [keys]
      split
      · exact front
      · exact front.take pushed few
  | some number =>
      obtain ⟨node, member, equal, after⟩ := valid.insert_hit found value
      obtain ⟨other, present, equalOther⟩ := among
      rw [after]
      exact keeps.touch _ apartKey ⟨other, present, BEq.trans equal equalOther⟩

end Cache

end UserspaceXdp.Maps
