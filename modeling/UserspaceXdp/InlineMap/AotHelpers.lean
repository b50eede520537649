import UserspaceXdp.InlineMap.Deletion

/-!
Contract: the map helpers of the inline AOT headers of `xdp_firewall` and
`xdp-maps`, held against the documented contract of the BPF map helpers.

Owns: `bpf_map_lookup_elem_aot`, `bpf_map_update_elem_aot` and
`bpf_map_delete_elem_aot` of the two headers, the contract that
`linux_includes/bpf.h` documents for the helpers they stand for, and how far
they keep it in every state that their calls can reach.

Does not own: the helpers `_bpf_helper_ext_0001` to `_bpf_helper_ext_0003` of
the runtime, to which a header passes the maps it does not inline.
-/

namespace UserspaceXdp.InlineMap

open UserspaceXdp.Foundation
open UserspaceXdp.Foundation.LinearProbing

def bpfAny : Nat := 0
def bpfNoexist : Nat := 1
def bpfExist : Nat := 2

/-- The runtime's helpers, for the maps a header does not inline. -/
structure ExtHelpers where
  lookupElem : Nat → (Nat → UInt8) → Option Nat
  updateElem : Nat → (Nat → UInt8) → (Nat → UInt8) → Nat → Int
  deleteElem : Nat → (Nat → UInt8) → Int

/-- What a lookup points to: an element of the inline hash map by its offset, a
cell of the inline array by its index, or memory of the runtime. -/
inductive ElemPointer where
  | element (offset : Nat)
  | cell (index : Nat)
  | external (address : Nat)
deriving DecidableEq, Repr

/-! ## The header of `xdp_firewall` -/

namespace XdpFirewall

def l3FilterId : Nat := 4 * 2 ^ 32
def vrrpVridFilterId : Nat := 5 * 2 ^ 32

/-- `__l3_filter`: `sizeof(struct flow_key)` is 24 and `sizeof(__u64)` is 8. -/
def l3Filter : HashMapDef where
  numBuckets := 32768
  keySize := 24
  valueSize := 8
  numBuckets_pos := by decide
  fits := by decide

def bpfMapLookupElemAot (ext : ExtHelpers) (buffer : Memory) (map : Nat) (key : Nat → UInt8) :
    Option ElemPointer :=
  if map = l3FilterId then (elemLookup l3Filter buffer key).map .element
  else if map = vrrpVridFilterId then some (.cell (Memory.loadWord key 0 4))
  else (ext.lookupElem map key).map .external

def bpfMapDeleteElemAot (ext : ExtHelpers) (buffer : Memory) (map : Nat) (key : Nat → UInt8) :
    Int × Memory :=
  if map = l3FilterId then
    let deleted := elemDelete l3Filter buffer key
    (deleted.1, deleted.2)
  else if map = vrrpVridFilterId then (0, buffer)
  else (ext.deleteElem map key, buffer)

def bpfMapUpdateElemAot (ext : ExtHelpers) (buffer : Memory) (map : Nat)
    (key value : Nat → UInt8) (flags : Nat) : Int × Memory :=
  if map = l3FilterId then
    let updated := elemUpdate l3Filter buffer key value
    (updated.1, updated.2)
  else (ext.updateElem map key value flags, buffer)

end XdpFirewall

/-! ## The header of `xdp-maps` -/

namespace XdpMaps

def packetSizeDistributeId : Nat := 4 * 2 ^ 32

/-- `__packet_size_distribute`. -/
def packetSizeDistribute : HashMapDef where
  numBuckets := 128
  keySize := 16
  valueSize := 32
  numBuckets_pos := by decide
  fits := by decide

def bpfMapLookupElemAot (ext : ExtHelpers) (buffer : Memory) (map : Nat) (key : Nat → UInt8) :
    Option ElemPointer :=
  if map = packetSizeDistributeId then
    (elemLookup packetSizeDistribute buffer key).map .element
  else (ext.lookupElem map key).map .external

def bpfMapDeleteElemAot (ext : ExtHelpers) (buffer : Memory) (map : Nat) (key : Nat → UInt8) :
    Int × Memory :=
  if map = packetSizeDistributeId then
    let deleted := elemDelete packetSizeDistribute buffer key
    (deleted.1, deleted.2)
  else (ext.deleteElem map key, buffer)

def bpfMapUpdateElemAot (ext : ExtHelpers) (buffer : Memory) (map : Nat)
    (key value : Nat → UInt8) (flags : Nat) : Int × Memory :=
  if map = packetSizeDistributeId then
    let updated := elemUpdate packetSizeDistribute buffer key value
    (updated.1, updated.2)
  else (ext.updateElem map key value flags, buffer)

end XdpMaps

/-! ## The two inline hash maps -/

/-- A header, for the hash map it inlines. -/
inductive Header where
  | xdpFirewall
  | xdpMaps

namespace Header

def definition : Header → HashMapDef
  | .xdpFirewall => XdpFirewall.l3Filter
  | .xdpMaps => XdpMaps.packetSizeDistribute

/-- `bpf_map_lookup_elem_aot` of the header on its hash map. -/
def lookup (header : Header) (ext : ExtHelpers) (buffer : Memory) (key : Nat → UInt8) :
    Option ElemPointer :=
  match header with
  | .xdpFirewall => XdpFirewall.bpfMapLookupElemAot ext buffer XdpFirewall.l3FilterId key
  | .xdpMaps => XdpMaps.bpfMapLookupElemAot ext buffer XdpMaps.packetSizeDistributeId key

def delete (header : Header) (ext : ExtHelpers) (buffer : Memory) (key : Nat → UInt8) :
    Int × Memory :=
  match header with
  | .xdpFirewall => XdpFirewall.bpfMapDeleteElemAot ext buffer XdpFirewall.l3FilterId key
  | .xdpMaps => XdpMaps.bpfMapDeleteElemAot ext buffer XdpMaps.packetSizeDistributeId key

def update (header : Header) (ext : ExtHelpers) (buffer : Memory) (key value : Nat → UInt8)
    (flags : Nat) : Int × Memory :=
  match header with
  | .xdpFirewall =>
      XdpFirewall.bpfMapUpdateElemAot ext buffer XdpFirewall.l3FilterId key value flags
  | .xdpMaps =>
      XdpMaps.bpfMapUpdateElemAot ext buffer XdpMaps.packetSizeDistributeId key value flags

theorem lookup_eq (header : Header) (ext : ExtHelpers) (buffer : Memory) (key : Nat → UInt8) :
    header.lookup ext buffer key = (elemLookup header.definition buffer key).map .element := by
  cases header <;> rfl

theorem delete_eq (header : Header) (ext : ExtHelpers) (buffer : Memory) (key : Nat → UInt8) :
    header.delete ext buffer key =
      (((elemDelete header.definition buffer key).1 : Int),
        (elemDelete header.definition buffer key).2) := by
  cases header <;> rfl

/-- The flags play no part. -/
theorem update_eq (header : Header) (ext : ExtHelpers) (buffer : Memory)
    (key value : Nat → UInt8) (flags : Nat) :
    header.update ext buffer key value flags =
      (((elemUpdate header.definition buffer key value).1 : Int),
        (elemUpdate header.definition buffer key value).2) := by
  cases header <;> rfl

end Header

inductive AotCall where
  | update (key value : Nat → UInt8) (flags : Nat)
  | delete (key : Nat → UInt8)

def aotStep (header : Header) (ext : ExtHelpers) (buffer : Memory) : AotCall → Memory
  | .update key value flags => (header.update ext buffer key value flags).2
  | .delete key => (header.delete ext buffer key).2

/-- The buffer after a run of helper calls on the hash map. -/
def aotRun (header : Header) (ext : ExtHelpers) (calls : List AotCall) : Memory :=
  calls.foldl (aotStep header ext) zeroBuffer

/-! ## The contract of the helpers -/

/-- A bucket of the table holds the key. -/
def Present (map : HashMapDef) (buffer : Memory) (key : Nat → UInt8) : Prop :=
  ∃ value, Holds map buffer (keyBytes map key) value

/-- 0 and the value is stored, or negative and nothing is; never stored against
the flags. -/
structure UpdateContract (map : HashMapDef) (buffer : Memory) (key value : Nat → UInt8)
    (flags : Nat) (outcome : Int × Memory) : Prop where
  zero_or_negative : (outcome.1 = 0 ∧ lookupBytes map outcome.2 key = some (valueBytes map value)) ∨
    (outcome.1 < 0 ∧ outcome.2 = buffer)
  noexist : flags = bpfNoexist → Present map buffer key → outcome.1 < 0 ∧ outcome.2 = buffer
  exist : flags = bpfExist → ¬Present map buffer key → outcome.1 < 0 ∧ outcome.2 = buffer

/-- 0 for a key that was present, negative for one that was not. -/
def DeleteReturns (map : HashMapDef) (buffer : Memory) (key : Nat → UInt8) (returned : Int) :
    Prop :=
  (returned = 0 ∧ Present map buffer key) ∨ (returned < 0 ∧ ¬Present map buffer key)

/-- A null pointer for an absent key only. -/
def LookupReturns (map : HashMapDef) (buffer : Memory) (key : Nat → UInt8)
    (pointer : Option ElemPointer) : Prop :=
  pointer = none ↔ ¬Present map buffer key

/-- The contract of the three helpers in one state, for one key, value and flag. -/
structure HelperContract (header : Header) (ext : ExtHelpers) (buffer : Memory)
    (key value : Nat → UInt8) (flags : Nat) : Prop where
  update : UpdateContract header.definition buffer key value flags
    (header.update ext buffer key value flags)
  delete : DeleteReturns header.definition buffer key (header.delete ext buffer key).1
  lookup : LookupReturns header.definition buffer key (header.lookup ext buffer key)

section Contract

variable {map : HashMapDef} {buffer : Memory} {key : Nat → UInt8}

/-- In any buffer `elem_update` returns 1 and the key is found with its value,
or it returns 0 and the key is not found. -/
theorem elemUpdate_found (map : HashMapDef) (buffer : Memory) (key value : Nat → UInt8) :
    ((elemUpdate map buffer key value).1 = 1 ∧
        lookupBytes map (elemUpdate map buffer key value).2 key =
          some (valueBytes map value)) ∨
      ((elemUpdate map buffer key value).1 = 0 ∧
        lookupBytes map (elemUpdate map buffer key value).2 key = none) := by
  rcases firstStop_or_full map.numBuckets (homeBucket map) (bucketTable map buffer)
    (keyBytes map key) with ⟨distance, stop⟩ | never
  · have below := probed_lt map key distance
    have table : bucketTable map (fillBucket map buffer (probed map key distance) key value) =
        Function.update (bucketTable map buffer) (probed map key distance)
          (some (keyBytes map key, valueBytes map value)) :=
      bucketTable_fillBucket below key value
    have filled : StopsFirst map (fillBucket map buffer (probed map key distance) key value)
        key distance := by
      unfold StopsFirst
      rw [table]
      exact stop.fill _
    have held : bucketTable map (fillBucket map buffer (probed map key distance) key value)
        (probed map key distance) = some (keyBytes map key, valueBytes map value) := by
      rw [table, Function.update_self]
    have values := (bucketTable_some held).2.2
    rw [elemUpdate_of_stop stop value, lookupBytes, elemLookup_of_stop filled, held]
    exact Or.inl ⟨rfl, congrArg some values⟩
  · rw [elemUpdate_of_never never value, lookupBytes, elemLookup_of_never never]
    exact Or.inr ⟨rfl, rfl⟩

/-- In any buffer `elem_delete` returns 1 for the keys that `elem_lookup` finds,
and those are present. -/
theorem elemDelete_found (map : HashMapDef) (buffer : Memory) (key : Nat → UInt8) :
    ((elemDelete map buffer key).1 = 1 ∧ elemLookup map buffer key ≠ none ∧
        Present map buffer key) ∨
      ((elemDelete map buffer key).1 = 0 ∧ elemLookup map buffer key = none) := by
  rcases firstStop_or_full map.numBuckets (homeBucket map) (bucketTable map buffer)
    (keyBytes map key) with ⟨distance, stop⟩ | never
  · rw [elemDelete_of_stop stop, elemLookup_of_stop stop]
    cases held : bucketTable map buffer (probed map key distance) with
    | none => exact Or.inr ⟨rfl, rfl⟩
    | some entry =>
        have sameKey := stop.stops entry.1 entry.2 held
        rw [if_neg nofun]
        refine Or.inl ⟨rfl, nofun, entry.2, probed map key distance,
          probed_lt map key distance, ?_⟩
        rw [held, ← sameKey]
  · rw [elemDelete_of_never never, elemLookup_of_never never]
    exact Or.inr ⟨rfl, rfl⟩

/-- The key is in the table and its probe does not reach it. -/
def Lost (map : HashMapDef) (buffer : Memory) (key : Nat → UInt8) : Prop :=
  Present map buffer key ∧ elemLookup map buffer key = none

/-- The return values of `elem_update` are the wrong way around for a helper. -/
theorem not_updateContract (header : Header) (ext : ExtHelpers) (buffer : Memory)
    (key value : Nat → UInt8) (flags : Nat) :
    ¬UpdateContract header.definition buffer key value flags
      (header.update ext buffer key value flags) := by
  intro contract
  have outcome := contract.zero_or_negative
  rw [header.update_eq] at outcome
  rcases elemUpdate_found header.definition buffer key value with ⟨one, _⟩ | ⟨zero, missing⟩
  · rw [one] at outcome
    omega
  · rcases outcome with ⟨_, found⟩ | ⟨negative, _⟩
    · rw [missing] at found
      cases found
    · rw [zero] at negative
      omega

theorem deleteReturns_iff_lost (header : Header) (ext : ExtHelpers) (buffer : Memory)
    (key : Nat → UInt8) :
    DeleteReturns header.definition buffer key (header.delete ext buffer key).1 ↔
      Lost header.definition buffer key := by
  rw [header.delete_eq]
  unfold DeleteReturns Lost
  rcases elemDelete_found header.definition buffer key with ⟨one, found, _⟩ | ⟨zero, missing⟩
  · rw [one]
    simp [found]
  · rw [zero]
    simp [missing]

theorem lookupReturns_iff_not_lost (header : Header) (ext : ExtHelpers) (buffer : Memory)
    (key : Nat → UInt8) :
    LookupReturns header.definition buffer key (header.lookup ext buffer key) ↔
      ¬Lost header.definition buffer key := by
  rw [header.lookup_eq]
  unfold LookupReturns Lost
  rw [Option.map_eq_none_iff]
  rcases elemDelete_found header.definition buffer key with ⟨_, found, present⟩ | ⟨_, missing⟩
  · simp [found, present]
  · simp [missing]

end Contract

/-- In every state that helper calls can reach and for every key, value and
flag: the update breaks its contract, the delete keeps its own only for a key
that an earlier delete made unreachable, and the lookup for all other keys. -/
theorem aot_helpers_break_contract (header : Header) (ext : ExtHelpers) (calls : List AotCall)
    (key value : Nat → UInt8) (flags : Nat) :
    let buffer := aotRun header ext calls
    ¬HelperContract header ext buffer key value flags ∧
      ¬UpdateContract header.definition buffer key value flags
        (header.update ext buffer key value flags) ∧
      (DeleteReturns header.definition buffer key (header.delete ext buffer key).1 ↔
        Lost header.definition buffer key) ∧
      (LookupReturns header.definition buffer key (header.lookup ext buffer key) ↔
        ¬Lost header.definition buffer key) := by
  intro buffer
  have update := not_updateContract header ext buffer key value flags
  exact ⟨fun contract => update contract.update, update,
    deleteReturns_iff_lost header ext buffer key, lookupReturns_iff_not_lost header ext buffer key⟩

/-- The first update of an empty table. -/
theorem first_update_breaks_contract :
    ¬HelperContract .xdpFirewall ⟨fun _ _ => none, fun _ _ _ _ => 0, fun _ _ => 0⟩
      (aotRun .xdpFirewall ⟨fun _ _ => none, fun _ _ _ _ => 0, fun _ _ => 0⟩ [])
      (fun _ => 0) (fun _ => 0) bpfAny :=
  fun contract => not_updateContract _ _ _ _ _ _ contract.update

end UserspaceXdp.InlineMap
