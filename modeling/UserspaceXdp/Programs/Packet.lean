import UserspaceXdp.Runtime.Context

/-!
Contract: what the programs of `xdp_progs` share in their treatment of a packet.

Owns: byte order conversions, the two halves of the first byte of an IPv4 header,
and the swap of the two MAC addresses that the programs send a packet back with.

Does not own: any program. A packet is the region of memory between `data` and
`data_end`; a program proves that it stays inside.
-/

namespace UserspaceXdp.Programs

open UserspaceXdp.Foundation

def bpfNtohs (value : Nat) : Nat :=
  value % 2 ^ 8 * 2 ^ 8 + value / 2 ^ 8 % 2 ^ 8

def bpfHtons (value : Nat) : Nat :=
  bpfNtohs value

def bpfHtonl (value : Nat) : Nat :=
  bpfNtohs (value % 2 ^ 16) * 2 ^ 16 + bpfNtohs (value / 2 ^ 16)

/-- The four bytes of an address in network order. -/
def networkBytes (address : Nat) : List UInt8 :=
  [UInt8.ofNat (address / 2 ^ 24), UInt8.ofNat (address / 2 ^ 16), UInt8.ofNat (address / 2 ^ 8),
    UInt8.ofNat address]

theorem bpfHtonl_eq (address : Nat) :
    bpfHtonl address =
      address / 2 ^ 24 % 2 ^ 8 + 2 ^ 8 * (address / 2 ^ 16 % 2 ^ 8) +
        2 ^ 16 * (address / 2 ^ 8 % 2 ^ 8) + 2 ^ 24 * (address % 2 ^ 8) := by
  have first : address % 2 ^ 16 % 2 ^ 8 = address % 2 ^ 8 := by omega
  have second : address % 2 ^ 16 / 2 ^ 8 % 2 ^ 8 = address / 2 ^ 8 % 2 ^ 8 := by omega
  have fourth : address / 2 ^ 16 / 2 ^ 8 = address / 2 ^ 24 := Nat.div_div_eq_div_mul ..
  rw [bpfHtonl, bpfNtohs, bpfNtohs, first, second, fourth]
  ring

/-- A table entry's MAC address where a program has copied it. -/
theorem bytes_eq_toList {memory : Memory} {address count : Nat} {mac : Vector UInt8 count}
    (copied : ∀ index < count, memory (address + index) = mac.toList.getD index 0) :
    memory.bytes address count = mac.toList := by
  apply List.ext_getElem
  · simp
  · intro index below _
    rw [Memory.length_bytes] at below
    simpa [Memory.bytes, below] using copied index below

/-- What a store of a converted address leaves in memory. -/
theorem bytes_storeWord_bpfHtonl (memory : Memory) (target address : Nat) :
    (memory.storeWord target (bpfHtonl address) 4).bytes target 4 = networkBytes address := by
  have inside (index : Nat) (below : index < 4) :=
    Memory.storeWord_inside memory target (bpfHtonl address) below
  have byte (shift : Nat) : address / 2 ^ shift % 2 ^ 8 < 2 ^ 8 := Nat.mod_lt _ (by decide)
  have low : address % 2 ^ 8 < 2 ^ 8 := Nat.mod_lt _ (by decide)
  show [_, _, _, _] = networkBytes address
  beta_reduce
  rw [inside 0 (by decide), inside 1 (by decide), inside 2 (by decide), inside 3 (by decide),
    bpfHtonl_eq]
  simp only [networkBytes, List.cons.injEq, and_true, ← UInt8.toNat_inj, UInt8.toNat_ofNat']
  have first := byte 24
  have second := byte 16
  have third := byte 8
  generalize address / 2 ^ 24 % 2 ^ 8 = a at *
  generalize address / 2 ^ 16 % 2 ^ 8 = b at *
  generalize address / 2 ^ 8 % 2 ^ 8 = c at *
  generalize address % 2 ^ 8 = d at *
  exact ⟨by omega, by omega, by omega, by omega⟩

/-- `iph->version = version`: the high half of the byte. -/
def setVersion (byte : UInt8) (version : Nat) : UInt8 :=
  UInt8.ofNat (byte.toNat % 16 + 16 * version)

/-- `iph->ihl = ihl`: the low half of the byte. -/
def setIhl (byte : UInt8) (ihl : Nat) : UInt8 :=
  UInt8.ofNat (byte.toNat / 16 * 16 + ihl)

/-- Whatever the byte was, both halves are set. -/
theorem setIhl_setVersion (byte : UInt8) : setIhl (setVersion byte 4) 5 = 0x45 := by
  apply UInt8.toNat_inj.mp
  show (UInt8.ofNat ((UInt8.ofNat (byte.toNat % 16 + 16 * 4)).toNat / 16 * 16 + 5)).toNat = 0x45
  rw [UInt8.toNat_ofNat', UInt8.toNat_ofNat']
  omega

/-- `swap_src_dst_mac`, in its 16-bit steps. -/
def swapSrcDstMac (memory : Memory) (data : Nat) : Memory :=
  let p (index : Nat) : Nat := memory.loadWord (data + 2 * index) 2
  let destination :=
    ((memory.storeWord data (p 3) 2).storeWord (data + 2) (p 4) 2).storeWord (data + 4) (p 5) 2
  ((destination.storeWord (data + 6) (p 0) 2).storeWord (data + 8) (p 1) 2).storeWord
    (data + 10) (p 2) 2

/-- The swap writes the two addresses only. -/
theorem swapSrcDstMac_other (memory : Memory) {data candidate : Nat}
    (outside : candidate < data ∨ data + 12 ≤ candidate) :
    swapSrcDstMac memory data candidate = memory candidate := by
  unfold swapSrcDstMac
  dsimp only
  rw [Memory.storeWord_other _ (by omega), Memory.storeWord_other _ (by omega),
    Memory.storeWord_other _ (by omega), Memory.storeWord_other _ (by omega),
    Memory.storeWord_other _ (by omega), Memory.storeWord_other _ (by omega)]

theorem swapSrcDstMac_bytes (memory : Memory) (data : Nat) :
    (swapSrcDstMac memory data).bytes data 6 = memory.bytes (data + 6) 6 ∧
      (swapSrcDstMac memory data).bytes (data + 6) 6 = memory.bytes data 6 := by
  have small (address : Nat) : memory.loadWord address 2 % 256 ^ 2 = memory.loadWord address 2 :=
    Nat.mod_eq_of_lt (memory.loadWord_lt address 2)
  -- The swap goes by halves, each of which is read back as it was stored.
  have destination (half : Nat) (below : half < 3) :
      (swapSrcDstMac memory data).loadWord (data + 2 * half) 2 =
        memory.loadWord (data + 6 + 2 * half) 2 := by
    unfold swapSrcDstMac
    interval_cases half <;>
      simp (disch := omega) only [Memory.loadWord_storeWord_other, Memory.loadWord_storeWord,
        small, Nat.mul_zero, Nat.add_zero, Nat.reduceMul, Nat.add_assoc, Nat.reduceAdd]
  have source (half : Nat) (below : half < 3) :
      (swapSrcDstMac memory data).loadWord (data + 6 + 2 * half) 2 =
        memory.loadWord (data + 2 * half) 2 := by
    unfold swapSrcDstMac
    interval_cases half <;>
      simp (disch := omega) only [Memory.loadWord_storeWord_other, Memory.loadWord_storeWord,
        small, Nat.mul_zero, Nat.add_zero, Nat.reduceMul, Nat.add_assoc, Nat.reduceAdd]
  have place (base index : Nat) : base + 2 * (index / 2) + index % 2 = base + index := by omega
  constructor
  · apply Memory.bytes_eq_iff.mpr
    intro index below
    have byte := Memory.loadWord_eq_iff.mp (destination (index / 2) (by omega)) (index % 2)
      (by omega)
    rwa [place, place] at byte
  · apply Memory.bytes_eq_iff.mpr
    intro index below
    have byte := Memory.loadWord_eq_iff.mp (source (index / 2) (by omega)) (index % 2)
      (by omega)
    rwa [place, place] at byte

end UserspaceXdp.Programs
