import UserspaceXdp.Foundation.Lockstep
import UserspaceXdp.Maps.LpmMap
import UserspaceXdp.Programs.Packet

/-!
Contract: `xdp-acl/standard_acl.bpf.c` over the `LPM_TRIE` map of
`module/maps.cpp`.

The two rule maps of the program are one trie, created with the key size of the
map that comes last. A key size in bytes is at once the number of bits that a
rule puts, and these are bits of `prefixlen`.

Owns: the program, rule updates as its loader makes them, the simulation of the
access list by two cells, each of which is written once, and what the program
sees of the context of the drivers.

Does not own: the loader's list of addresses. Rules come in any order, before
and between packets.
-/

namespace UserspaceXdp.Programs.StandardAcl

open UserspaceXdp.Foundation
open UserspaceXdp.Foundation.Lockstep
open UserspaceXdp.Maps
open UserspaceXdp.Runtime

/-! ## The program -/

def ethPIp : Nat := 0x0800
def ethPIpv6 : Nat := 0x86DD

def myMac : List UInt8 := [0x90, 0xe2, 0xba, 0xf7, 0x32, 0x69]
def sourceMac : List UInt8 := [0x90, 0xe2, 0xba, 0xf7, 0x30, 0x1d]
def targetMac : List UInt8 := [0x90, 0xe2, 0xba, 0xf7, 0x31, 0xcd]

/-- `struct xdp_md` of `linux/bpf.h`, which the program is compiled with: the
addresses have 32 bits. -/
structure XdpMd where
  data : UInt32
  dataEnd : UInt32
deriving DecidableEq, Repr

/-- What the program sees of the context of a driver, which begins with `data` of
64 bits: the lower half for `data`, and the upper half for `data_end`. -/
def driverView (context : XdpMdUserspace) : XdpMd where
  data := UInt32.ofNat context.data
  dataEnd := UInt32.ofNat (context.data / 2 ^ 32)

/-- `_strcmp` on two buffers of `size` bytes. -/
def strcmp : List UInt8 → List UInt8 → Int
  | c1 :: buf1, c2 :: buf2 =>
      if c1 ≠ c2 then if c1 < c2 then -1 else 1
      else if c1 = 0 then 0
      else strcmp buf1 buf2
  | _, _ => 0

/-- `permitted_src && *permitted_src`: the map returns a pointer to an `int`, of
which the program reads the first byte. -/
def permitted : Option Int → Bool
  | none => false
  | some as => as % 2 ^ 8 ≠ 0

/-- `__builtin_memcpy` from one of the constants. -/
def memcpyMac (memory : Memory) (target : Nat) (mac : List UInt8) : Memory :=
  memory.copyFrom target (fun index => mac.getD index 0) 6

/-- The rule for the source address, and the map after the lookup, or none if the
packet cuts its header off. -/
def permittedSrc (context : XdpMd) (memory : Memory) (rules : LpmMap) :
    Option (Option Int × LpmMap) :=
  let data := context.data.toNat
  let dataEnd := context.dataEnd.toNat
  if memory.loadWord (data + 12) 2 = bpfHtons ethPIp then
    let iph := data + 14
    if dataEnd < iph + 20 then none
    else some (lpmElemLookup rules (lpmKey 32 (memory.bytes (iph + 12) 4)))
  else
    let ipv6h := data + 14
    if dataEnd < ipv6h + 40 then none
    else some (lpmElemLookup rules (lpmKey 128 (memory.bytes (ipv6h + 8) 16)))

/-- The verdict, the packet and the rules. -/
def xdpStandardAcl (context : XdpMd) (memory : Memory) (rules : LpmMap) :
    (Nat × Memory) × LpmMap :=
  let data := context.data.toNat
  let dataEnd := context.dataEnd.toNat
  if dataEnd < data + 14 then ((xdpDrop, memory), rules)
  else
    let hProto := memory.loadWord (data + 12) 2
    if hProto = bpfHtons ethPIp ∨ hProto = bpfHtons ethPIpv6 then
      match permittedSrc context memory rules with
      | none => ((xdpDrop, memory), rules)
      | some (found, rules) =>
          if permitted found then
            if strcmp (memory.bytes (data + 6) 6) sourceMac ≠ 0 ∨
                strcmp (memory.bytes data 6) myMac ≠ 0 then
              ((xdpPass, memory), rules)
            else
              ((xdpTx, memcpyMac (memcpyMac memory (data + 6) myMac) data targetMac), rules)
          else ((xdpDrop, memory), rules)
    else ((xdpPass, memory), rules)

/-! ## Runs -/

inductive RulesTrie where
  | ipv4
  | ipv6
deriving DecidableEq, Repr

/-- The size of the key type of a rule map. -/
def RulesTrie.keySize : RulesTrie → Nat
  | .ipv4 => 8
  | .ipv6 => 20

/-- The arguments of `bpf_map__update_elem` on one of the rule maps: a prefix of
an address, and the `int` that the map reads at the value. -/
structure Rule where
  prefixlen : UInt32
  data : List UInt8
  value : Int

/-- The bytes of a rule's key. -/
def Rule.key (rule : Rule) : List UInt8 :=
  lpmKey rule.prefixlen.toNat rule.data

inductive Input where
  | rule (rule : Rule)
  | packet (context : XdpMd) (memory : Memory)

/-- A packet gives a verdict and a packet, a rule nothing. -/
abbrev Output := Option (Nat × Memory)

def aclStep (rules : LpmMap) : Input → Output × LpmMap
  | .rule rule => (none, lpmElemUpdate rules rule.key rule.value)
  | .packet context memory =>
      let (result, rules) := xdpStandardAcl context memory rules
      (some result, rules)

/-! ## Two cells -/

/-- What the access list comes to: a decision on all IPv4 packets, and one on all
IPv6 packets. -/
structure Decisions where
  ipv4 : Option Int
  ipv6 : Option Int
deriving DecidableEq, Repr

/-- The trie takes two lengths for the same: the bits of `prefixlen` are the same
that come first in memory, eight of the first byte and with keys of 20 bytes also
eight of the second and the upper four of the third. -/
def RulesTrie.SameLength (last : RulesTrie) (left right : Nat) : Prop :=
  match last with
  | .ipv4 => left % 2 ^ 8 = right % 2 ^ 8
  | .ipv6 => left % 2 ^ 16 = right % 2 ^ 16 ∧ left / 2 ^ 20 % 2 ^ 4 = right / 2 ^ 20 % 2 ^ 4

instance (last : RulesTrie) (left right : Nat) : Decidable (last.SameLength left right) :=
  match last with
  | .ipv4 => inferInstanceAs (Decidable (_ = _))
  | .ipv6 => inferInstanceAs (Decidable (_ ∧ _))

/-- A rule whose length is taken for that of a single address decides, if nothing
has yet. A rule for 32 bits of an IPv6 address is taken for one of a single IPv4
address. -/
def Decisions.record (last : RulesTrie) (decisions : Decisions) (rule : Rule) : Decisions where
  ipv4 := decisions.ipv4.or
    (if last.SameLength rule.prefixlen.toNat 32 then some rule.value else none)
  ipv6 := decisions.ipv6.or
    (if last.SameLength rule.prefixlen.toNat 128 then some rule.value else none)

/-- The decision on a packet that is long enough for its addresses. -/
def Decisions.onPacket (decisions : Decisions) (context : XdpMd) (memory : Memory) :
    Option Int :=
  let data := context.data.toNat
  let version4 := memory.loadWord (data + 12) 2 = bpfHtons ethPIp
  if context.dataEnd.toNat < data + (if version4 then 34 else 54) then none
  else if version4 then decisions.ipv4 else decisions.ipv6

def Decisions.filterPacket (decisions : Decisions) (context : XdpMd)
    (memory : Memory) : Nat × Memory :=
  let data := context.data.toNat
  let hProto := memory.loadWord (data + 12) 2
  if context.dataEnd.toNat < data + 14 then (xdpDrop, memory)
  else if hProto ≠ bpfHtons ethPIp ∧ hProto ≠ bpfHtons ethPIpv6 then (xdpPass, memory)
  else if permitted (decisions.onPacket context memory) = false then (xdpDrop, memory)
  else if memory.bytes (data + 6) 6 = sourceMac ∧ memory.bytes data 6 = myMac then
    (xdpTx, memcpyMac (memcpyMac memory (data + 6) myMac) data targetMac)
  else (xdpPass, memory)

def decisionsStep (last : RulesTrie) (decisions : Decisions) : Input → Output × Decisions
  | .rule rule => (none, decisions.record last rule)
  | .packet context memory => (some (decisions.filterPacket context memory), decisions)

/-! ## The paths that the rules are put on -/

/-- The bits of a key that reach the trie do not get past `prefixlen`. -/
def lengthPath (keySize prefixlen : Nat) : List Bool :=
  putPath (keyByte (lpmKey prefixlen [])) keySize

theorem length_lengthPath (keySize prefixlen : Nat) :
    (lengthPath keySize prefixlen).length = keySize := by
  simp [lengthPath, putPath]

theorem putPath_eq_lengthPath (last : RulesTrie) (prefixlen : Nat) (data : List UInt8) :
    putPath (keyByte (lpmKey prefixlen data)) last.keySize =
      lengthPath last.keySize prefixlen := by
  apply putPath_lpmKey
  cases last <;> decide

/-- The bits of a byte are put from the highest one down. -/
theorem addressBit_lpmKey (prefixlen : Nat) {i : Nat} (within : i < 32) :
    addressBit (keyByte (lpmKey prefixlen [])) i =
      prefixlen.testBit (7 - i % 8 + 8 * (i / 8)) := by
  have byte : keyByte (lpmKey prefixlen []) (i / 8) =
      UInt8.ofNat (prefixlen / 2 ^ (8 * (i / 8))) := by
    have inside : i / 8 = 0 ∨ i / 8 = 1 ∨ i / 8 = 2 ∨ i / 8 = 3 := by omega
    rcases inside with first | second | third | fourth
    · rw [first, Nat.mul_zero, Nat.pow_zero, Nat.div_one]
      rfl
    · rw [second]
      rfl
    · rw [third]
      rfl
    · rw [fourth]
      rfl
  have low : 7 - i % 8 < 8 := by omega
  rw [addressBit, byteBit, byte, UInt8.toNat_ofNat', Nat.testBit_mod_two_pow, decide_eq_true low,
    Bool.true_and, Nat.testBit_div_two_pow]

theorem lengthPath_eq_iff {keySize : Nat} (within : keySize ≤ 32) (left right : Nat) :
    lengthPath keySize left = lengthPath keySize right ↔
      ∀ i < keySize, left.testBit (7 - i % 8 + 8 * (i / 8)) =
        right.testBit (7 - i % 8 + 8 * (i / 8)) := by
  unfold lengthPath putPath
  rw [List.map_inj_left]
  constructor
  · intro same i below
    have bit := same i (List.mem_range.mpr below)
    rwa [addressBit_lpmKey left (by omega), addressBit_lpmKey right (by omega)] at bit
  · intro same i member
    have below := List.mem_range.mp member
    rw [addressBit_lpmKey left (by omega), addressBit_lpmKey right (by omega)]
    exact same i below

theorem segment_eq_iff (left right offset width : Nat) :
    left / 2 ^ offset % 2 ^ width = right / 2 ^ offset % 2 ^ width ↔
      ∀ bit < width, left.testBit (bit + offset) = right.testBit (bit + offset) := by
  rw [Nat.eq_iff_testBit_eq]
  simp only [Nat.testBit_mod_two_pow, Nat.testBit_div_two_pow]
  constructor
  · intro same bit below
    have equal := same bit
    rwa [decide_eq_true below, Bool.true_and, Bool.true_and] at equal
  · intro same bit
    by_cases below : bit < width
    · rw [same bit below]
    · rw [decide_eq_false below, Bool.false_and, Bool.false_and]

theorem lengthPath_sameLength (last : RulesTrie) (left right : Nat) :
    lengthPath last.keySize left = lengthPath last.keySize right ↔ last.SameLength left right := by
  cases last with
  | ipv4 =>
      have first := segment_eq_iff left right 0 8
      rw [Nat.pow_zero, Nat.div_one, Nat.div_one] at first
      rw [RulesTrie.SameLength, first, RulesTrie.keySize, lengthPath_eq_iff (by decide)]
      constructor
      · intro same bit below
        have equal := same (7 - bit) (by omega)
        rwa [show 7 - (7 - bit) % 8 + 8 * ((7 - bit) / 8) = bit + 0 by omega] at equal
      · intro same i below
        rw [show 7 - i % 8 + 8 * (i / 8) = 7 - i + 0 by omega]
        exact same (7 - i) (by omega)
  | ipv6 =>
      have first := segment_eq_iff left right 0 16
      rw [Nat.pow_zero, Nat.div_one, Nat.div_one] at first
      rw [RulesTrie.SameLength, first, segment_eq_iff, RulesTrie.keySize,
        lengthPath_eq_iff (by decide)]
      constructor
      · intro same
        refine ⟨fun bit below => ?_, fun bit below => ?_⟩
        · have equal := same (7 - bit % 8 + 8 * (bit / 8)) (by omega)
          rwa [show 7 - (7 - bit % 8 + 8 * (bit / 8)) % 8 +
            8 * ((7 - bit % 8 + 8 * (bit / 8)) / 8) = bit + 0 by omega] at equal
        · have equal := same (19 - bit) (by omega)
          rwa [show 7 - (19 - bit) % 8 + 8 * ((19 - bit) / 8) = bit + 20 by omega] at equal
      · rintro ⟨low, high⟩ i below
        by_cases third : i < 16
        · exact low (7 - i % 8 + 8 * (i / 8)) (by omega)
        · rw [show 7 - i % 8 + 8 * (i / 8) = 19 - i + 20 by omega]
          exact high (19 - i) (by omega)

/-! ## The trie against the cells -/

/-- The trie stores rules of one length only, and at the two lengths that are
searched what the cells say. -/
structure Represents (last : RulesTrie) (rules : LpmMap) (decisions : Decisions) : Prop where
  keySize : rules.keySize = last.keySize
  stored : ∃ log, Stores rules.trie log ∧ (∀ write ∈ log, write.1.length = last.keySize) ∧
    firstStored log (lengthPath last.keySize 32) = decisions.ipv4 ∧
    firstStored log (lengthPath last.keySize 128) = decisions.ipv6

variable {last : RulesTrie} {rules : LpmMap} {decisions : Decisions}

theorem RulesTrie.keySize_mod (last : RulesTrie) : last.keySize % 2 ^ 8 = last.keySize := by
  cases last <;> rfl

theorem represents_allocated (start : LpmMap) (last : RulesTrie) :
    Represents last (lpmAllocMap start last.keySize) ⟨none, none⟩ where
  keySize := rfl
  stored := ⟨[], stores_trieInit start.trie, nofun, rfl, rfl⟩

theorem Represents.update (held : Represents last rules decisions) (rule : Rule) :
    Represents last (lpmElemUpdate rules rule.key rule.value) (decisions.record last rule) where
  keySize := held.keySize
  stored := by
    obtain ⟨log, stores, uniform, version4, version6⟩ := held.stored
    have positive : 0 < last.keySize := by cases last <;> decide
    have put := stores.put (keyByte rule.key) positive rule.value
    rw [Rule.key, putPath_eq_lengthPath] at put
    refine ⟨log ++ [(lengthPath last.keySize rule.prefixlen.toNat, rule.value)], ?_, ?_, ?_, ?_⟩
    · rw [lpmElemUpdate, held.keySize, last.keySize_mod]
      exact put
    · intro write member
      rcases List.mem_append.mp member with old | new
      · exact uniform write old
      · rw [List.mem_singleton.mp new, length_lengthPath]
    · simp only [firstStored_concat, version4, Decisions.record, lengthPath_sameLength]
    · simp only [firstStored_concat, version6, Decisions.record, lengthPath_sameLength]

/-- A search finds what is stored at the length it is for, whatever the address. -/
theorem Represents.search (held : Represents last rules decisions) {searched : Nat}
    {log : List (List Bool × Int)} (stores : Stores rules.trie log)
    (uniform : ∀ write ∈ log, write.1.length = last.keySize) (address : List UInt8) :
    (lpmElemLookup rules (lpmKey searched address)).1 =
      firstStored log (lengthPath last.keySize searched) := by
  have lengths (key : List Bool) (defined : firstStored log key ≠ none) :
      key.length = last.keySize := by
    by_contra other
    apply defined
    rw [firstStored_eq_none_iff]
    rintro write member rfl
    exact other (uniform write member)
  have within : last.keySize ≤
      (addressBits (keyByte (lpmKey searched address)) last.keySize).length := by
    rw [length_addressBits]
    omega
  rw [lpmElemLookup, held.keySize, last.keySize_mod, stores.search,
    longestMatch_of_length lengths within, take_addressBits _ (by omega), putPath_eq_lengthPath]
  cases firstStored log (lengthPath last.keySize searched) <;> rfl

theorem Represents.lookup (held : Represents last rules decisions) (address : List UInt8) :
    (lpmElemLookup rules (lpmKey 32 address)).1 = decisions.ipv4 ∧
      (lpmElemLookup rules (lpmKey 128 address)).1 = decisions.ipv6 := by
  obtain ⟨log, stores, uniform, version4, version6⟩ := held.stored
  rw [held.search stores uniform, held.search stores uniform, version4, version6]
  exact ⟨rfl, rfl⟩

/-- A lookup changes `as` only, which stores no rule. -/
theorem Represents.searched (held : Represents last rules decisions) (key : List UInt8) :
    Represents last (lpmElemLookup rules key).2 decisions where
  keySize := held.keySize
  stored := held.stored

/-! ## The program against the cells -/

theorem strcmp_eq_zero_iff {buf1 buf2 : List UInt8} (same : buf1.length = buf2.length)
    (noZero : 0 ∉ buf2) : strcmp buf1 buf2 = 0 ↔ buf1 = buf2 := by
  induction buf1 generalizing buf2 with
  | nil =>
      rw [List.length_nil, eq_comm, List.length_eq_zero_iff] at same
      simp [same, strcmp]
  | cons c1 buf1 inductionHypothesis =>
      cases buf2 with
      | nil => simp at same
      | cons c2 buf2 =>
          rw [List.mem_cons, not_or] at noZero
          have later := inductionHypothesis (Nat.succ_inj.mp same) noZero.2
          by_cases equal : c1 = c2
          · subst equal
            simp [strcmp, Ne.symm noZero.1, later]
          · have differs : strcmp (c1 :: buf1) (c2 :: buf2) ≠ 0 := by
              rw [strcmp, if_pos equal]
              split <;> decide
            simp [differs, equal]

theorem bytes_strcmp_iff (memory : Memory) (address : Nat) :
    (strcmp (memory.bytes address 6) sourceMac = 0 ↔ memory.bytes address 6 = sourceMac) ∧
      (strcmp (memory.bytes address 6) myMac = 0 ↔ memory.bytes address 6 = myMac) :=
  ⟨strcmp_eq_zero_iff (by simp [sourceMac]) (by decide),
    strcmp_eq_zero_iff (by simp [myMac]) (by decide)⟩

/-- The lookup for a packet, with the map after it. -/
theorem Represents.permittedSrc (held : Represents last rules decisions)
    (context : XdpMd) (memory : Memory) :
    match permittedSrc context memory rules with
    | none => decisions.onPacket context memory = none
    | some (found, next) =>
        decisions.onPacket context memory = found ∧ Represents last next decisions := by
  unfold StandardAcl.permittedSrc Decisions.onPacket
  dsimp only
  by_cases version4 : memory.loadWord (context.data.toNat + 12) 2 = bpfHtons ethPIp
  · simp only [if_pos version4, Nat.add_assoc, Nat.reduceAdd]
    by_cases short : context.dataEnd.toNat < context.data.toNat + 34
    · simp only [if_pos short]
    · simp only [if_neg short]
      exact ⟨(held.lookup _).1.symm, held.searched _⟩
  · simp only [if_neg version4, Nat.add_assoc, Nat.reduceAdd]
    by_cases short : context.dataEnd.toNat < context.data.toNat + 54
    · simp only [if_pos short]
    · simp only [if_neg short]
      exact ⟨(held.lookup _).2.symm, held.searched _⟩

/-- One packet. -/
theorem Represents.packet (held : Represents last rules decisions) (context : XdpMd)
    (memory : Memory) :
    (xdpStandardAcl context memory rules).1 = decisions.filterPacket context memory ∧
      Represents last (xdpStandardAcl context memory rules).2 decisions := by
  have looked := held.permittedSrc context memory
  unfold xdpStandardAcl Decisions.filterPacket
  dsimp only
  by_cases short : context.dataEnd.toNat < context.data.toNat + 14
  · rw [if_pos short, if_pos short]
    exact ⟨rfl, held⟩
  rw [if_neg short, if_neg short]
  by_cases inspected : memory.loadWord (context.data.toNat + 12) 2 = bpfHtons ethPIp ∨
      memory.loadWord (context.data.toNat + 12) 2 = bpfHtons ethPIpv6
  · rw [if_pos inspected, if_neg (not_and_or.mpr (inspected.imp not_not.mpr not_not.mpr))]
    cases search : StandardAcl.permittedSrc context memory rules with
    | none =>
        rw [search] at looked
        rw [looked]
        exact ⟨rfl, held⟩
    | some pair =>
        obtain ⟨found, next⟩ := pair
        rw [search] at looked
        obtain ⟨decision, nextHeld⟩ := looked
        rw [decision]
        dsimp only
        cases permits : permitted found with
        | false => exact ⟨rfl, nextHeld⟩
        | true =>
            simp only [ne_eq, (bytes_strcmp_iff memory _).1, (bytes_strcmp_iff memory _).2,
              Bool.true_eq_false, if_true, if_false, ← not_and_or, ite_not]
            split
            · exact ⟨rfl, nextHeld⟩
            · exact ⟨rfl, nextHeld⟩
  · rw [if_neg inspected, if_pos (not_or.mp inspected)]
    exact ⟨rfl, held⟩

theorem simulation (last : RulesTrie) :
    Simulation aclStep (decisionsStep last) (Represents last) := by
  intro rules decisions input held
  cases input with
  | rule rule => exact ⟨rfl, held.update rule⟩
  | packet context memory =>
      obtain ⟨result, next⟩ := held.packet context memory
      exact ⟨congrArg some result, next⟩

/-- Where the upper half of the address is not past the Ethernet header at the lower
half, no rule is looked up. -/
theorem xdpStandardAcl_driverView (context : XdpMdUserspace) (memory : Memory) (rules : LpmMap)
    (short : context.data / 2 ^ 32 % 2 ^ 32 < context.data % 2 ^ 32 + 14) :
    xdpStandardAcl (driverView context) memory rules = ((xdpDrop, memory), rules) := by
  unfold xdpStandardAcl driverView
  dsimp only
  rw [UInt32.toNat_ofNat', UInt32.toNat_ofNat', if_pos short]

/-- Whichever of the two rule maps is created last, and whatever rules and packets
follow in whatever order, each packet is treated as the first rule says whose length
is taken for that of a single address of its version. The addresses do not matter.
Under the drivers the bounds that the program compares are the halves of one address. -/
theorem acl_is_two_cells (start : LpmMap) (last : RulesTrie) (inputs : List Input) :
    (trace aclStep (lpmAllocMap start last.keySize) inputs).map Prod.fst =
        (trace (decisionsStep last) ⟨none, none⟩ inputs).map Prod.fst ∧
      ∀ (context : XdpMdUserspace) (memory : Memory) (rules : LpmMap),
        context.data / 2 ^ 32 % 2 ^ 32 < context.data % 2 ^ 32 + 14 →
          xdpStandardAcl (driverView context) memory rules = ((xdpDrop, memory), rules) := by
  have related := (simulation last).trace (represents_allocated start last) inputs
  have outputs := List.forall₂_map_left_iff.mpr
    (List.forall₂_map_right_iff.mpr (related.imp fun _ _ step => step.1))
  exact ⟨List.forall₂_eq_eq_eq ▸ outputs, xdpStandardAcl_driverView⟩

/-- A rule whose length has its first byte in common with 32, a rule for one address,
and an IPv4 packet from another address. -/
def longRuleFirst : List Input :=
  [.rule ⟨288, [10, 0, 0, 1], 1⟩, .rule ⟨32, [10, 0, 0, 2], 0⟩,
    .packet ⟨100, 160⟩ fun address => if address = 112 then 8 else 0]

def driverContext : XdpMdUserspace :=
  ⟨0x7f1280001000, 0x7f128000103c, 0, 0, 0, 0, 0x7f1280000f00, 0x7f1280001f00⟩

theorem long_rule_decides :
    ((trace aclStep (lpmAllocMap zeroLpmMap 8) longRuleFirst).map Prod.fst).map
          (Option.map Prod.fst) = [none, none, some xdpPass] ∧
      ∀ memory rules, xdpStandardAcl (driverView driverContext) memory rules =
        ((xdpDrop, memory), rules) :=
  ⟨(congrArg (List.map (Option.map Prod.fst))
      (acl_is_two_cells zeroLpmMap .ipv4 longRuleFirst).1).trans (by decide),
    fun memory rules =>
      (acl_is_two_cells zeroLpmMap .ipv4 []).2 driverContext memory rules (by decide)⟩

end UserspaceXdp.Programs.StandardAcl
