import UserspaceXdp.Foundation.Memory
import UserspaceXdp.Foundation.DoWhile

/-!
Contract: the inline hash map of `xdp_progs/includes/hash_map.h`.

Owns: the descriptor built by `DEFINE_BPFTIME_HASH_MAP`, the 32-bit slot
arithmetic, the three probe loops and the element count, as the header
computes them on a flat byte buffer.

Does not own: any invariant of the buffer. A key or a value is a pointer, given
by the bytes behind it; only the first `key_size` or `value_size` of them are
ever read. A pointer into the buffer is its offset from `data_buffer`, and the
key and value pointers of a call do not point into the buffer.
-/

namespace UserspaceXdp.InlineMap

open UserspaceXdp.Foundation

/-- A `bpftime_hash_map_t` as `DEFINE_BPFTIME_HASH_MAP` builds it, without the
buffer it points to. The macro sizes the buffer with the same product that the
slot arithmetic uses, so the product fits an `unsigned int`. -/
structure HashMapDef where
  numBuckets : Nat
  keySize : Nat
  valueSize : Nat
  numBuckets_pos : 1 ≤ numBuckets
  fits : numBuckets * (4 + keySize + valueSize) < 2 ^ 32

/-- The buffer right after the definition: `= {0}`. -/
def zeroBuffer : Memory := fun _ => 0

def getElemOffset (map : HashMapDef) (index : Nat) : Nat :=
  index * ((4 + map.keySize + map.valueSize) % 2 ^ 32) % 2 ^ 32

/-- The value of `hash` after `count` turns of the loop in `hash_func`. -/
def hashFunc (key : Nat → UInt8) : Nat → Nat
  | 0 => 0
  | count + 1 => (hashFunc key count * 31 + (key count).toNat) % 2 ^ 32

def isEmpty (map : HashMapDef) (buffer : Memory) (index : Nat) : Bool :=
  buffer.loadWord (getElemOffset map index) 4 == 0

def setEmpty (map : HashMapDef) (buffer : Memory) (index : Nat) : Memory :=
  buffer.storeWord (getElemOffset map index) 0 4

def setFilled (map : HashMapDef) (buffer : Memory) (index : Nat) : Memory :=
  buffer.storeWord (getElemOffset map index) 1 4

def getKey (map : HashMapDef) (index : Nat) : Nat :=
  (getElemOffset map index + 4) % 2 ^ 32

def getValue (map : HashMapDef) (index : Nat) : Nat :=
  (getElemOffset map index + 4 + map.keySize) % 2 ^ 32

/-- The comparison loop: `match` stays 1 until a byte differs. -/
def keyMatch (map : HashMapDef) (buffer : Memory) (index : Nat) (key : Nat → UInt8) : Bool :=
  (List.range map.keySize).all fun offset => buffer (getKey map index + offset) == key offset

/-! ## The probe loops -/

/-- `index = hash_func(key, map->key_size) % map->num_buckets`. -/
def startIndex (map : HashMapDef) (key : Nat → UInt8) : Nat :=
  hashFunc key map.keySize % map.numBuckets

/-- `index = (index + 1) % map->num_buckets`. -/
def nextIndex (map : HashMapDef) (index : Nat) : Nat :=
  (index + 1) % 2 ^ 32 % map.numBuckets

/-- The loop all three operations share, one turn for each bucket at most. -/
def probe {Result : Type} (map : HashMapDef) (key : Nat → UInt8) (body : Nat → Option Result) :
    Option (DoWhile.Run Nat Result) :=
  DoWhile.loop body (nextIndex map) (fun index => index != startIndex map key)
    map.numBuckets (startIndex map key)

/-- The value a probe loop returned, if it returned from its body. -/
def returned {Result : Type} (run : Option (DoWhile.Run Nat Result)) : Option Result :=
  run.bind DoWhile.Run.result

/-- The body of `elem_lookup`: a null pointer, a value pointer, or the next
bucket. -/
def lookupBody (map : HashMapDef) (buffer : Memory) (key : Nat → UInt8) (index : Nat) :
    Option (Option Nat) :=
  if isEmpty map buffer index then some none
  else if keyMatch map buffer index key then some (some (getValue map index))
  else none

/-- `elem_lookup`: the pointer it returns, `none` for a null pointer. -/
def elemLookup (map : HashMapDef) (buffer : Memory) (key : Nat → UInt8) : Option Nat :=
  (returned (probe map key (lookupBody map buffer key))).join

/-- The stores of `elem_update` into the bucket it chose: key, value, flag. -/
def fillBucket (map : HashMapDef) (buffer : Memory) (index : Nat) (key value : Nat → UInt8) :
    Memory :=
  setFilled map
    ((buffer.copyFrom (getKey map index) key map.keySize).copyFrom
      (getValue map index) value map.valueSize)
    index

/-- The body of `elem_update`: the new buffer, or the next bucket. -/
def updateBody (map : HashMapDef) (buffer : Memory) (key value : Nat → UInt8) (index : Nat) :
    Option Memory :=
  if isEmpty map buffer index || keyMatch map buffer index key then
    some (fillBucket map buffer index key value)
  else none

/-- `elem_update`: its return value and the buffer it leaves. -/
def elemUpdate (map : HashMapDef) (buffer : Memory) (key value : Nat → UInt8) : Nat × Memory :=
  match returned (probe map key (updateBody map buffer key value)) with
  | some filled => (1, filled)
  | none => (0, buffer)

/-- The body of `elem_delete`: key not found, the emptied buffer, or the next
bucket. -/
def deleteBody (map : HashMapDef) (buffer : Memory) (key : Nat → UInt8) (index : Nat) :
    Option (Nat × Memory) :=
  if isEmpty map buffer index then some (0, buffer)
  else if keyMatch map buffer index key then some (1, setEmpty map buffer index)
  else none

/-- `elem_delete`: its return value and the buffer it leaves. -/
def elemDelete (map : HashMapDef) (buffer : Memory) (key : Nat → UInt8) : Nat × Memory :=
  (returned (probe map key (deleteBody map buffer key))).getD (0, buffer)

def getElemCount (map : HashMapDef) (buffer : Memory) : Nat :=
  (List.range map.numBuckets).foldl
    (fun count index => if isEmpty map buffer index then count else (count + 1) % 2 ^ 32) 0

end UserspaceXdp.InlineMap
