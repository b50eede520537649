import Mathlib.Tactic

/-!
Contract: byte-addressed memory with little-endian accesses.

Owns: single-byte stores, fixed-width little-endian loads and stores, forward
copy loops, the byte list of a region, and the frame laws of each of them.

Does not own: allocation, alignment, or any particular data structure. An
address is a plain natural number; a caller that works in a wrapping address
space proves that its addresses do not wrap.
-/

namespace UserspaceXdp.Foundation

/-- Byte-addressed memory. A pointer into it is an address. -/
abbrev Memory := Nat → UInt8

namespace Memory

/-- Store one byte. -/
def store (memory : Memory) (address : Nat) (byte : UInt8) : Memory :=
  fun candidate => if candidate = address then byte else memory candidate

@[simp] theorem store_same (memory : Memory) (address : Nat) (byte : UInt8) :
    memory.store address byte address = byte := by
  simp [store]

theorem store_other (memory : Memory) {address candidate : Nat} {byte : UInt8}
    (different : candidate ≠ address) :
    memory.store address byte candidate = memory candidate := by
  simp [store, different]

/-! ## Regions -/

/-- The bytes of the region of `length` bytes that starts at `address`. -/
def bytes (memory : Memory) (address length : Nat) : List UInt8 :=
  (List.range length).map fun index => memory (address + index)

@[simp] theorem length_bytes (memory : Memory) (address length : Nat) :
    (memory.bytes address length).length = length := by
  simp [bytes]

theorem bytes_succ (memory : Memory) (address length : Nat) :
    memory.bytes address (length + 1) = memory address :: memory.bytes (address + 1) length := by
  simp [bytes, List.range_succ_eq_map, Nat.add_assoc, Nat.add_comm 1]

theorem bytes_eq_iff {left right : Memory} {leftAddress rightAddress length : Nat} :
    left.bytes leftAddress length = right.bytes rightAddress length ↔
      ∀ index < length, left (leftAddress + index) = right (rightAddress + index) := by
  constructor
  · intro same index below
    have selected := congrArg (fun region => region[index]?) same
    simpa [bytes, below] using selected
  · intro same
    exact List.map_congr_left fun index member => same index (List.mem_range.mp member)

/-- Two memories that agree on a region have the same bytes there. -/
theorem bytes_congr {left right : Memory} {address length : Nat}
    (agree : ∀ candidate, address ≤ candidate → candidate < address + length →
      left candidate = right candidate) :
    left.bytes address length = right.bytes address length :=
  bytes_eq_iff.mpr fun index below => agree _ (by omega) (by omega)

/-! ## Little-endian words -/

/-- The little-endian value of `width` bytes. -/
def loadWord (memory : Memory) (address : Nat) : Nat → Nat
  | 0 => 0
  | width + 1 => (memory address).toNat + 256 * loadWord memory (address + 1) width

/-- Store the `width` low bytes of `value`, least significant first. -/
def storeWord (memory : Memory) (address value : Nat) : Nat → Memory
  | 0 => memory
  | width + 1 =>
      (storeWord memory (address + 1) (value / 256) width).store address
        (UInt8.ofNat value)

theorem loadWord_lt (memory : Memory) (address width : Nat) :
    memory.loadWord address width < 256 ^ width := by
  induction width generalizing address with
  | zero => simp [loadWord]
  | succ width inductionHypothesis =>
      have low : (memory address).toNat < 256 := (memory address).toNat_lt
      have high := inductionHypothesis (address + 1)
      rw [loadWord, pow_succ]
      omega

/-- A wide load is two narrow ones. -/
theorem loadWord_add (memory : Memory) (address low high : Nat) :
    memory.loadWord address (low + high) =
      memory.loadWord address low + 256 ^ low * memory.loadWord (address + low) high := by
  induction low generalizing address with
  | zero => simp [loadWord]
  | succ low inductionHypothesis =>
      have next : address + 1 + low = address + (low + 1) := by omega
      rw [Nat.add_right_comm, loadWord, loadWord, inductionHypothesis, next, pow_succ]
      ring

/-- A load depends only on the bytes it reads. -/
theorem loadWord_congr {left right : Memory} {address width : Nat}
    (agree : ∀ candidate, address ≤ candidate → candidate < address + width →
      left candidate = right candidate) :
    left.loadWord address width = right.loadWord address width := by
  induction width generalizing address with
  | zero => rfl
  | succ width inductionHypothesis =>
      rw [loadWord, loadWord, agree address (by omega) (by omega),
        inductionHypothesis fun candidate lower upper =>
          agree candidate (by omega) (by omega)]

/-- Two words are equal exactly if their bytes are. -/
theorem loadWord_eq_iff {left right : Memory} {leftAddress rightAddress width : Nat} :
    left.loadWord leftAddress width = right.loadWord rightAddress width ↔
      ∀ index < width, left (leftAddress + index) = right (rightAddress + index) := by
  induction width generalizing leftAddress rightAddress with
  | zero => simp [loadWord]
  | succ width inductionHypothesis =>
      have leftByte : (left leftAddress).toNat < 256 := (left leftAddress).toNat_lt
      have rightByte : (right rightAddress).toNat < 256 := (right rightAddress).toNat_lt
      have digits : left.loadWord leftAddress (width + 1) =
            right.loadWord rightAddress (width + 1) ↔
          left leftAddress = right rightAddress ∧
            left.loadWord (leftAddress + 1) width = right.loadWord (rightAddress + 1) width := by
        rw [loadWord, loadWord, ← UInt8.toNat_inj]
        omega
      have shift (base index : Nat) : base + 1 + index = base + (index + 1) := by omega
      rw [digits, inductionHypothesis]
      simp only [shift]
      constructor
      · intro ⟨first, rest⟩ index below
        cases index with
        | zero => exact first
        | succ index => exact rest index (by omega)
      · intro same
        exact ⟨same 0 (Nat.succ_pos width), fun index below => same (index + 1) (by omega)⟩

theorem loadWord_eq_zero_iff {memory : Memory} {address width : Nat} :
    memory.loadWord address width = 0 ↔ ∀ index < width, memory (address + index) = 0 := by
  have zero (start : Nat) : loadWord (fun _ => 0) start width = 0 := by
    induction width generalizing start with
    | zero => rfl
    | succ width inductionHypothesis =>
        rw [loadWord, inductionHypothesis]
        rfl
  rw [← zero 0]
  exact loadWord_eq_iff

/-- A load from a pointer is a load from the bytes behind it. -/
theorem loadWord_shift (memory : Memory) (base address width : Nat) :
    memory.loadWord (base + address) width =
      loadWord (fun offset => memory (base + offset)) address width := by
  induction width generalizing address with
  | zero => rfl
  | succ width inductionHypothesis =>
      rw [loadWord, loadWord, Nat.add_assoc, inductionHypothesis]

/-- A load from the front of a region, by the bytes of the region. -/
theorem loadWord_bytes (memory : Memory) (address : Nat) {length width : Nat}
    (within : width ≤ length) :
    loadWord (fun offset => (memory.bytes address length).getD offset 0) 0 width =
      memory.loadWord address width := by
  have shifted := loadWord_shift memory address 0 width
  rw [Nat.add_zero] at shifted
  rw [shifted]
  apply loadWord_congr
  intro offset _ below
  have inside : offset < length := by omega
  simp [bytes, inside]

theorem storeWord_other (memory : Memory) {address value width candidate : Nat}
    (outside : candidate < address ∨ address + width ≤ candidate) :
    memory.storeWord address value width candidate = memory candidate := by
  induction width generalizing address value with
  | zero => rfl
  | succ width inductionHypothesis =>
      rw [storeWord, store_other _ (by omega), inductionHypothesis (by omega)]

/-- The bytes of a word that was stored. -/
theorem storeWord_inside (memory : Memory) (address value : Nat) {width index : Nat}
    (below : index < width) :
    memory.storeWord address value width (address + index) = UInt8.ofNat (value / 256 ^ index) := by
  induction width generalizing address value index with
  | zero => omega
  | succ width inductionHypothesis =>
      cases index with
      | zero => simp [storeWord]
      | succ index =>
          have place : address + (index + 1) = address + 1 + index := by omega
          rw [storeWord, store_other _ (by omega), place,
            inductionHypothesis (address + 1) (value / 256) (by omega), Nat.div_div_eq_div_mul,
            pow_succ, Nat.mul_comm 256]

/-- A word that was stored is read back. -/
theorem loadWord_storeWord (memory : Memory) (address value width : Nat) :
    (memory.storeWord address value width).loadWord address width = value % 256 ^ width := by
  induction width generalizing memory address value with
  | zero => simp [loadWord, Nat.mod_one]
  | succ width inductionHypothesis =>
      have tail : ((memory.storeWord (address + 1) (value / 256) width).store address
            (UInt8.ofNat value)).loadWord (address + 1) width =
          (memory.storeWord (address + 1) (value / 256) width).loadWord (address + 1) width :=
        loadWord_congr fun candidate lower _ => store_other _ (by omega)
      rw [loadWord, storeWord, store_same, tail, inductionHypothesis, pow_succ,
        Nat.mul_comm (256 ^ width), Nat.mod_mul]
      simp

/-- A word is not disturbed by a store beside it. -/
theorem loadWord_storeWord_other (memory : Memory) {address value width target size : Nat}
    (apart : target + size ≤ address ∨ address + width ≤ target) :
    (memory.storeWord address value width).loadWord target size = memory.loadWord target size :=
  loadWord_congr fun candidate lower upper => storeWord_other memory (by omega)

theorem loadWord_store_other (memory : Memory) {address target size : Nat} {byte : UInt8}
    (apart : address < target ∨ target + size ≤ address) :
    (memory.store address byte).loadWord target size = memory.loadWord target size :=
  loadWord_congr fun candidate lower upper => store_other memory (by omega)

/-- Storing the word that is there changes nothing. -/
theorem storeWord_loadWord (memory : Memory) (address width : Nat) :
    memory.storeWord address (memory.loadWord address width) width = memory := by
  induction width generalizing address with
  | zero => rfl
  | succ width inductionHypothesis =>
      have low : (memory address).toNat < 256 := (memory address).toNat_lt
      have high : ((memory address).toNat + 256 * memory.loadWord (address + 1) width) / 256 =
          memory.loadWord (address + 1) width := by omega
      rw [loadWord, storeWord, high, inductionHypothesis]
      funext candidate
      by_cases same : candidate = address
      · rw [same, store_same]
        apply UInt8.toNat_inj.mp
        rw [UInt8.toNat_ofNat']
        omega
      · exact store_other _ same

/-! ## Copy loops -/

/-- `for (i = 0; i < count; i++) target[i] = source[i]`, with `source` a
pointer given by the bytes behind it. -/
def copyFrom (memory : Memory) (target : Nat) (source : Nat → UInt8) : Nat → Memory
  | 0 => memory
  | count + 1 => (copyFrom memory target source count).store (target + count) (source count)

theorem copyFrom_inside (memory : Memory) (target : Nat) (source : Nat → UInt8)
    {count index : Nat} (below : index < count) :
    memory.copyFrom target source count (target + index) = source index := by
  induction count with
  | zero => omega
  | succ count inductionHypothesis =>
      rw [copyFrom]
      by_cases last : index = count
      · rw [last, store_same]
      · rw [store_other _ (by omega), inductionHypothesis (by omega)]

theorem copyFrom_other (memory : Memory) {target count candidate : Nat}
    {source : Nat → UInt8} (outside : candidate < target ∨ target + count ≤ candidate) :
    memory.copyFrom target source count candidate = memory candidate := by
  induction count with
  | zero => rfl
  | succ count inductionHypothesis =>
      rw [copyFrom, store_other _ (by omega), inductionHypothesis (by omega)]

/-- The copied region holds the source bytes. -/
theorem bytes_copyFrom (memory : Memory) (target : Nat) (source : Nat → UInt8)
    (count : Nat) :
    (memory.copyFrom target source count).bytes target count = bytes source 0 count :=
  bytes_eq_iff.mpr fun index below => by
    rw [copyFrom_inside _ _ _ below, Nat.zero_add]

end Memory

end UserspaceXdp.Foundation
