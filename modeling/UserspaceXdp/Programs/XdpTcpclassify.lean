import UserspaceXdp.Programs.BpfStrncmp
import UserspaceXdp.Programs.Packet
import UserspaceXdp.Runtime.PacketWindow

/-!
Contract: the event that `xdp-tcpclassify.bpf.c` and `tcpclassify.bpf.aot.c`
report for a TCP packet.

Owns: the record and its layout, the two programs, which parts of the record
they leave as the stack had them, and when the record is right.

Does not own: the ring buffer, which takes the bytes of the record. The helper
`bpf_strncmp` of the first program is a parameter; the other program has its own.
-/

namespace UserspaceXdp.Programs.XdpTcpclassify

open UserspaceXdp.Foundation
open UserspaceXdp.Runtime

/-! ## The record -/

/-- `struct event`. It has no padding, so its bytes are those of its fields. -/
structure Event where
  sport : UInt32
  dport : UInt32
  sip : UInt32
  dip : UInt32
  syn : UInt32
  fin : UInt32
  rst : UInt32
  psh : UInt32
  ack : UInt32
  http : UInt32
  len : UInt32
  data : Vector UInt8 256

def wordBytes (word : UInt32) : List UInt8 :=
  [UInt8.ofNat word.toNat, UInt8.ofNat (word.toNat / 2 ^ 8), UInt8.ofNat (word.toNat / 2 ^ 16),
    UInt8.ofNat (word.toNat / 2 ^ 24)]

def Event.words (event : Event) : List UInt32 :=
  [event.sport, event.dport, event.sip, event.dip, event.syn, event.fin, event.rst, event.psh,
    event.ack, event.http, event.len]

/-- The record in memory. -/
def Event.bytes (event : Event) : List UInt8 :=
  event.words.flatMap wordBytes ++ event.data.toList

/-! ## The programs -/

def ethPIp : Nat := 0x0800
def ipprotoTcp : UInt8 := 6

/-- The string `"HTTP"`. -/
def httpLiteral (i : Nat) : UInt8 :=
  [0x48, 0x54, 0x54, 0x50, 0].getD i 0

/-- A flag of the TCP header. -/
def tcpFlag (memory : Memory) (tcph bit : Nat) : UInt32 :=
  UInt32.ofNat ((memory (tcph + 13)).toNat / 2 ^ bit % 2)

def doff (memory : Memory) (tcph : Nat) : Nat :=
  (memory (tcph + 12)).toNat / 16

/-- `tcp_paload`. -/
def tcpPayload (xdp : Window) : Nat :=
  xdp.context.data + 34 + doff xdp.memory (xdp.context.data + 34) * 4

/-- The assignments that are always made. -/
def headerFields (xdp : Window) (stack : Event) : Event :=
  let memory := xdp.memory
  let iph := xdp.context.data + 14
  let tcph := xdp.context.data + 34
  { stack with
    sip := UInt32.ofNat (memory.loadWord (iph + 12) 4)
    dip := UInt32.ofNat (memory.loadWord (iph + 16) 4)
    sport := UInt32.ofNat (bpfNtohs (memory.loadWord tcph 2))
    dport := UInt32.ofNat (bpfNtohs (memory.loadWord (tcph + 2) 2))
    syn := tcpFlag memory tcph 1
    fin := tcpFlag memory tcph 0
    rst := tcpFlag memory tcph 2
    psh := tcpFlag memory tcph 3
    ack := tcpFlag memory tcph 4
    len := UInt32.ofNat (xdp.context.dataEnd - xdp.context.data) }

/-- What a run leaves behind, and the event it put into the ring buffer. -/
structure Outcome where
  verdict : Nat
  memory : Memory
  event : Option Event

section Program

-- What the two files do not share: where `bpf_xdp_load_bytes` copies from and
-- how much, `none` if it fails, and `bpf_strncmp`.
variable (loadBytes : Window → UInt32 → UInt32 → Option (Nat × Nat))
  (strncmp : (Nat → UInt8) → UInt32 → (Nat → UInt8) → Int)

/-- `bpf_xdp_load_bytes(ctx, offset, e.data, len)`. -/
def loadData (xdp : Window) (offset len : UInt32) (data : Vector UInt8 256) : Vector UInt8 256 :=
  match loadBytes xdp offset len with
  | none => data
  | some (source, length) =>
      Vector.ofFn fun i => if i.val < length then xdp.memory (source + i.val) else data[i]

/-- `help indetify http packets`. -/
def identify (xdp : Window) (e : Event) : Event :=
  if tcpPayload xdp + 4 < xdp.context.dataEnd then
    let data := loadData loadBytes xdp 0 4 e.data
    if strncmp (fun i => data.toList.getD i 0) 4 httpLiteral = 0 then
      { e with data, http := 1 }
    else { e with data, http := 0 }
  else e

/-- `cpoy the buffer`. -/
def copyBuffer (xdp : Window) (e : Event) : Event :=
  if xdp.context.data + 60 < xdp.context.dataEnd then
    { e with data := loadData loadBytes xdp 0 60 e.data }
  else e

/-- `stack` is what the stack has where `e` is. -/
def classify (xdp : Window) (stack : Event) : Outcome :=
  let data := xdp.context.data
  let dataEnd := xdp.context.dataEnd
  let memory := xdp.memory
  let iph := data + 14
  if dataEnd < data + 14 then ⟨Runtime.xdpPass, memory, none⟩
  else if bpfNtohs (memory.loadWord (data + 12) 2) ≠ ethPIp then ⟨Runtime.xdpPass, memory, none⟩
  else if dataEnd < data + 14 + 20 then ⟨Runtime.xdpPass, memory, none⟩
  else if memory (iph + 9) ≠ ipprotoTcp then ⟨Runtime.xdpPass, memory, none⟩
  else if dataEnd < data + 14 + 20 + 20 then ⟨Runtime.xdpPass, memory, none⟩
  else
    let e := copyBuffer loadBytes xdp (identify loadBytes strncmp xdp (headerFields xdp stack))
    ⟨xdpTx, swapSrcDstMac memory data, some e⟩

end Program

/-- The helper compares with `data_end`. -/
def helperLoadBytes (xdp : Window) (offset len : UInt32) : Option (Nat × Nat) :=
  (bpftimeXdpLoadBytesRuntime xdp offset 0 len).copied

/-- `xdp_pass` of `xdp-tcpclassify.bpf.c`. -/
def xdpPass (strncmp : (Nat → UInt8) → UInt32 → (Nat → UInt8) → Int) (xdp : Window)
    (stack : Event) : Outcome :=
  classify helperLoadBytes strncmp xdp stack

/-- `bpf_xdp_load_bytes` of `tcpclassify.bpf.aot.c`, which checks nothing. -/
def bpfXdpLoadBytes (xdpMd : Window) (offset len : UInt32) : Option (Nat × Nat) :=
  some (xdpMd.context.data + offset.toNat, len.toNat)

/-- `bpf_main` of `tcpclassify.bpf.aot.c`. -/
def bpfMain (xdp : Window) (stack : Event) : Outcome :=
  classify bpfXdpLoadBytes bpfStrncmp xdp stack

/-! ## The layout -/

@[simp] theorem length_wordBytes (word : UInt32) : (wordBytes word).length = 4 := rfl

theorem wordBytes_injective {left right : UInt32} (same : wordBytes left = wordBytes right) :
    left = right := by
  have leftSmall := left.toNat_lt
  have rightSmall := right.toNat_lt
  simp only [wordBytes, List.cons.injEq, and_true, ← UInt8.toNat_inj, UInt8.toNat_ofNat'] at same
  apply UInt32.toNat_inj.mp
  omega

theorem flatMap_wordBytes_injective {left right : List UInt32}
    (same : left.flatMap wordBytes = right.flatMap wordBytes) : left = right := by
  induction left generalizing right with
  | nil =>
      cases right with
      | nil => rfl
      | cons word rest => cases same
  | cons word rest inductionHypothesis =>
      cases right with
      | nil => cases same
      | cons other others =>
          rw [List.flatMap_cons, List.flatMap_cons] at same
          obtain ⟨first, later⟩ := List.append_inj same rfl
          rw [wordBytes_injective first, inductionHypothesis later]

theorem Event.length_bytes (event : Event) : event.bytes.length = 300 := by
  simp [Event.bytes, Event.words]

theorem Event.bytes_inj {left right : Event} : left.bytes = right.bytes ↔ left = right := by
  constructor
  · intro same
    obtain ⟨words, data⟩ := List.append_inj same rfl
    have words := flatMap_wordBytes_injective words
    have data := Vector.toList_inj.mp data
    cases left
    cases right
    simp only [Event.words, List.cons.injEq, and_true] at words
    obtain ⟨rfl, rfl, rfl, rfl, rfl, rfl, rfl, rfl, rfl, rfl, rfl⟩ := words
    exact congrArg _ data
  · rintro rfl
    rfl

/-! ## What is recorded -/

/-- The frame is reported: it has an Ethernet, an IPv4 and a TCP header. -/
structure Emits (xdp : Window) : Prop where
  ipv4 : bpfNtohs (xdp.memory.loadWord (xdp.context.data + 12) 2) = ethPIp
  tcp : xdp.memory (xdp.context.data + 14 + 9) = ipprotoTcp
  headers : xdp.context.data + 54 ≤ xdp.context.dataEnd

/-- More than four bytes follow the TCP header. -/
def LongPayload (xdp : Window) : Prop :=
  tcpPayload xdp + 4 < xdp.context.dataEnd

/-- The frame has more than 60 bytes. -/
def LongFrame (xdp : Window) : Prop :=
  xdp.context.data + 60 < xdp.context.dataEnd

/-- No load writes byte `i` of `data`. -/
def Unwritten (xdp : Window) (i : Nat) : Prop :=
  60 ≤ i ∨ ¬ LongFrame xdp ∧ (4 ≤ i ∨ ¬ LongPayload xdp)

def StartsWithHttp (memory : Memory) (address : Nat) : Prop :=
  ∀ i < 4, memory (address + i) = httpLiteral i

instance (xdp : Window) : Decidable (LongPayload xdp) :=
  inferInstanceAs (Decidable (_ < _))

instance (xdp : Window) : Decidable (LongFrame xdp) :=
  inferInstanceAs (Decidable (_ < _))

instance (xdp : Window) (i : Nat) : Decidable (Unwritten xdp i) :=
  inferInstanceAs (Decidable (_ ∨ _))

instance (memory : Memory) (address : Nat) : Decidable (StartsWithHttp memory address) :=
  inferInstanceAs (Decidable (∀ i < 4, _))

/-- The data with the first bytes of the frame over its own. -/
def frontCopied (xdp : Window) (count : Nat) (data : Vector UInt8 256) : Vector UInt8 256 :=
  Vector.ofFn fun i =>
    if i.val < count then xdp.memory (xdp.context.data + i.val) else data[i]

/-- The data after both loads. -/
def recordedData (xdp : Window) (data : Vector UInt8 256) : Vector UInt8 256 :=
  Vector.ofFn fun i =>
    if Unwritten xdp i.val then data[i] else xdp.memory (xdp.context.data + i.val)

/-- The record as both programs make it. -/
def recorded (xdp : Window) (stack : Event) : Event :=
  { headerFields xdp stack with
    http :=
      if LongPayload xdp then
        if StartsWithHttp xdp.memory xdp.context.data then 1 else 0
      else stack.http
    data := recordedData xdp stack.data }

/-- What the programs need of the two helpers. -/
structure HelpersWork (loadBytes : Window → UInt32 → UInt32 → Option (Nat × Nat))
    (strncmp : (Nat → UInt8) → UInt32 → (Nat → UInt8) → Int) (xdp : Window) : Prop where
  loads : ∀ len : UInt32, xdp.context.data + len.toNat ≤ xdp.context.dataEnd →
    loadBytes xdp 0 len = some (xdp.context.data, len.toNat)
  compares : ∀ s, strncmp s 4 httpLiteral = 0 ↔ ∀ i < 4, s i = httpLiteral i

section Recorded

variable {loadBytes : Window → UInt32 → UInt32 → Option (Nat × Nat)}
  {strncmp : (Nat → UInt8) → UInt32 → (Nat → UInt8) → Int} {xdp : Window} {stack : Event}

theorem getElem_frontCopied (xdp : Window) (count : Nat) (data : Vector UInt8 256) {i : Nat}
    (below : i < 256) :
    (frontCopied xdp count data)[i] =
      if i < count then xdp.memory (xdp.context.data + i) else data[i] := by
  simp [frontCopied]

theorem getElem_recordedData (xdp : Window) (data : Vector UInt8 256) {i : Nat}
    (below : i < 256) :
    (recordedData xdp data)[i] =
      if Unwritten xdp i then data[i] else xdp.memory (xdp.context.data + i) := by
  simp [recordedData]

theorem HelpersWork.loadData_eq (work : HelpersWork loadBytes strncmp xdp) (len : UInt32)
    (within : xdp.context.data + len.toNat ≤ xdp.context.dataEnd) (data : Vector UInt8 256) :
    loadData loadBytes xdp 0 len data = frontCopied xdp len.toNat data := by
  unfold loadData
  rw [work.loads len within]
  rfl

/-- The comparison is with the front of the frame, not with the payload. -/
theorem HelpersWork.identify_eq (work : HelpersWork loadBytes strncmp xdp)
    (long : LongPayload xdp) (e : Event) :
    identify loadBytes strncmp xdp e =
      { e with
        data := frontCopied xdp 4 e.data
        http := if StartsWithHttp xdp.memory xdp.context.data then 1 else 0 } := by
  have beyond : tcpPayload xdp + 4 < xdp.context.dataEnd := long
  have within : xdp.context.data + 4 ≤ xdp.context.dataEnd := by
    unfold tcpPayload at beyond
    omega
  have loaded : loadData loadBytes xdp 0 4 e.data = frontCopied xdp 4 e.data :=
    work.loadData_eq 4 within e.data
  have starts : (∀ i < 4, (frontCopied xdp 4 e.data).toList.getD i 0 = httpLiteral i) ↔
      StartsWithHttp xdp.memory xdp.context.data := by
    apply forall₂_congr
    intro i below
    have inside : i < 256 := by omega
    simp [frontCopied, List.getD, inside, below]
  unfold identify
  rw [if_pos beyond, loaded]
  dsimp only
  by_cases http : StartsWithHttp xdp.memory xdp.context.data
  · rw [if_pos ((work.compares _).mpr (starts.mpr http)), if_pos http]
  · rw [if_neg fun equal => http (starts.mp ((work.compares _).mp equal)), if_neg http]

theorem HelpersWork.copyBuffer_eq (work : HelpersWork loadBytes strncmp xdp)
    (long : LongFrame xdp) (e : Event) :
    copyBuffer loadBytes xdp e = { e with data := frontCopied xdp 60 e.data } := by
  have beyond : xdp.context.data + 60 < xdp.context.dataEnd := long
  have loaded : loadData loadBytes xdp 0 60 e.data = frontCopied xdp 60 e.data :=
    work.loadData_eq 60 (Nat.le_of_lt beyond) e.data
  unfold copyBuffer
  rw [if_pos beyond, loaded]

theorem recordedData_of_longFrame (long : LongFrame xdp) (data : Vector UInt8 256) :
    recordedData xdp data = frontCopied xdp 60 data := by
  apply Vector.ext
  intro i below
  rw [getElem_recordedData xdp data below, getElem_frontCopied xdp 60 data below]
  by_cases early : i < 60
  · have written : ¬ Unwritten xdp i := by simp [Unwritten, long, early]
    rw [if_neg written, if_pos early]
  · have unwritten : Unwritten xdp i := Or.inl (by omega)
    rw [if_pos unwritten, if_neg early]

theorem recordedData_of_longPayload (short : ¬ LongFrame xdp) (long : LongPayload xdp)
    (data : Vector UInt8 256) : recordedData xdp data = frontCopied xdp 4 data := by
  apply Vector.ext
  intro i below
  rw [getElem_recordedData xdp data below, getElem_frontCopied xdp 4 data below]
  by_cases early : i < 4
  · have written : ¬ Unwritten xdp i := by
      unfold Unwritten
      simp only [long, not_true, or_false]
      omega
    rw [if_neg written, if_pos early]
  · have unwritten : Unwritten xdp i := Or.inr ⟨short, Or.inl (by omega)⟩
    rw [if_pos unwritten, if_neg early]

theorem recordedData_of_short (short : ¬ LongFrame xdp) (none : ¬ LongPayload xdp)
    (data : Vector UInt8 256) : recordedData xdp data = data := by
  apply Vector.ext
  intro i below
  have unwritten : Unwritten xdp i := Or.inr ⟨short, Or.inr none⟩
  rw [getElem_recordedData xdp data below, if_pos unwritten]

/-- The second load covers the first. -/
theorem frontCopied_frontCopied (xdp : Window) (data : Vector UInt8 256) :
    frontCopied xdp 60 (frontCopied xdp 4 data) = frontCopied xdp 60 data := by
  apply Vector.ext
  intro i below
  simp only [getElem_frontCopied xdp _ _ below]
  split
  · rfl
  · exact if_neg (by omega)

/-- The two loads, by the lengths of the frame and of the payload. -/
theorem HelpersWork.recorded_eq (work : HelpersWork loadBytes strncmp xdp) (stack : Event) :
    copyBuffer loadBytes xdp (identify loadBytes strncmp xdp (headerFields xdp stack)) =
      recorded xdp stack := by
  have noComparison (none : ¬ LongPayload xdp) (e : Event) :
      identify loadBytes strncmp xdp e = e := if_neg none
  have noCopy (short : ¬ LongFrame xdp) (e : Event) : copyBuffer loadBytes xdp e = e :=
    if_neg short
  unfold recorded
  by_cases payload : LongPayload xdp
  · rw [work.identify_eq payload, if_pos payload]
    by_cases frame : LongFrame xdp
    · rw [work.copyBuffer_eq frame, recordedData_of_longFrame frame]
      dsimp only
      rw [frontCopied_frontCopied]
      rfl
    · rw [noCopy frame, recordedData_of_longPayload frame payload]
      rfl
  · rw [noComparison payload, if_neg payload]
    by_cases frame : LongFrame xdp
    · rw [work.copyBuffer_eq frame, recordedData_of_longFrame frame]
      rfl
    · rw [noCopy frame, recordedData_of_short frame payload]
      rfl

/-! ## The reported frames -/

theorem classify_emits (emits : Emits xdp) (stack : Event) :
    classify loadBytes strncmp xdp stack =
      ⟨xdpTx, swapSrcDstMac xdp.memory xdp.context.data,
        some (copyBuffer loadBytes xdp
          (identify loadBytes strncmp xdp (headerFields xdp stack)))⟩ := by
  have headers := emits.headers
  unfold classify
  dsimp only
  rw [if_neg (by omega), if_neg (not_not.mpr emits.ipv4), if_neg (by omega),
    if_neg (not_not.mpr emits.tcp), if_neg (by omega)]

theorem emits_of_event (reported : (classify loadBytes strncmp xdp stack).event ≠ none) :
    Emits xdp := by
  unfold classify at reported
  dsimp only at reported
  split at reported
  · exact absurd rfl reported
  split at reported
  · exact absurd rfl reported
  split at reported
  · exact absurd rfl reported
  split at reported
  · exact absurd rfl reported
  split at reported
  · exact absurd rfl reported
  rename_i ipv4 _ tcp headers
  exact ⟨not_not.mp ipv4, not_not.mp tcp, by omega⟩

theorem HelpersWork.classify_eq (work : HelpersWork loadBytes strncmp xdp) (emits : Emits xdp)
    (stack : Event) :
    classify loadBytes strncmp xdp stack =
      ⟨xdpTx, swapSrcDstMac xdp.memory xdp.context.data, some (recorded xdp stack)⟩ := by
  rw [classify_emits emits, work.recorded_eq]

end Recorded

section Sources

variable {strncmp : (Nat → UInt8) → UInt32 → (Nat → UInt8) → Int} {xdp : Window}

theorem helpersWork_xdpPass (addressed : xdp.context.dataEnd < 2 ^ 64)
    (documented : ∀ s1 n s2, strncmp s1 n s2 = 0 ↔ normalComparison s1 n s2 = 0) :
    HelpersWork helperLoadBytes strncmp xdp := by
  constructor
  · intro len within
    have zero : (0 : UInt32).toNat = 0 := rfl
    have start : xdp.context.data % 2 ^ 64 = xdp.context.data := Nat.mod_eq_of_lt (by omega)
    have stop : (xdp.context.data + len.toNat) % 2 ^ 64 = xdp.context.data + len.toNat :=
      Nat.mod_eq_of_lt (by omega)
    unfold helperLoadBytes bpftimeXdpLoadBytesRuntime
    dsimp only
    rw [zero, Nat.add_zero, start, stop, if_neg (by omega)]
  · intro s
    have noNul : ∀ i < 4, httpLiteral i ≠ 0 := by decide
    rw [documented]
    exact normalComparison_eq_zero_iff noNul

theorem helpersWork_bpfMain (xdp : Window) : HelpersWork bpfXdpLoadBytes bpfStrncmp xdp := by
  constructor
  · intro len _
    rfl
  · intro s
    exact bpfStrncmp_four_eq_zero_iff

end Sources

/-! ## The right record -/

/-- The frame has four bytes of TCP payload, and they are `"HTTP"`. -/
def CarriesHttp (xdp : Window) : Prop :=
  tcpPayload xdp + 4 ≤ xdp.context.dataEnd ∧ StartsWithHttp xdp.memory (tcpPayload xdp)

instance (xdp : Window) : Decidable (CarriesHttp xdp) :=
  inferInstanceAs (Decidable (_ ∧ _))

/-- What the field `http` is for. -/
def httpFlag (xdp : Window) : UInt32 :=
  if CarriesHttp xdp then 1 else 0

/-- What the event is for, over two contents of the stack: neither program shows
which of them it found, the field `http` is right, and the two programs do the
same. -/
structure EventContract (strncmp : (Nat → UInt8) → UInt32 → (Nat → UInt8) → Int) (xdp : Window)
    (left right : Event) : Prop where
  xdpPass_noStale : (xdpPass strncmp xdp left).event.map Event.bytes =
    (xdpPass strncmp xdp right).event.map Event.bytes
  bpfMain_noStale : (bpfMain xdp left).event.map Event.bytes =
    (bpfMain xdp right).event.map Event.bytes
  xdpPass_http : ∀ stack ∈ [left, right], ∀ event,
    (xdpPass strncmp xdp stack).event = some event → event.http = httpFlag xdp
  bpfMain_http : ∀ stack ∈ [left, right], ∀ event,
    (bpfMain xdp stack).event = some event → event.http = httpFlag xdp
  sources : ∀ stack ∈ [left, right], xdpPass strncmp xdp stack = bpfMain xdp stack

/-- The condition: the stacks agree where the record is not written, the frame
and the payload begin with `"HTTP"` together, and where nothing is compared the
stack has the flag already. -/
structure StackSettled (xdp : Window) (left right : Event) : Prop where
  data : ∀ i (below : i < 256), Unwritten xdp i → left.data[i] = right.data[i]
  compared : LongPayload xdp → (StartsWithHttp xdp.memory xdp.context.data ↔
    StartsWithHttp xdp.memory (tcpPayload xdp))
  uncompared : ¬ LongPayload xdp → left.http = httpFlag xdp ∧ right.http = httpFlag xdp

section Contract

variable {xdp : Window} {left right stack : Event}

theorem recorded_bytes_eq_iff :
    (recorded xdp left).bytes = (recorded xdp right).bytes ↔
      (∀ i (below : i < 256), Unwritten xdp i → left.data[i] = right.data[i]) ∧
        (¬ LongPayload xdp → left.http = right.http) := by
  rw [Event.bytes_inj]
  constructor
  · intro same
    constructor
    · intro i below unwritten
      have data := congrArg (fun event => event.data[i]) same
      simp only [recorded, getElem_recordedData xdp _ below, if_pos unwritten] at data
      exact data
    · intro short
      have http := congrArg Event.http same
      simp only [recorded, if_neg short] at http
      exact http
  · intro ⟨dataSame, httpSame⟩
    have data : recordedData xdp left.data = recordedData xdp right.data := by
      apply Vector.ext
      intro i below
      rw [getElem_recordedData xdp _ below, getElem_recordedData xdp _ below]
      split
      · rename_i unwritten
        exact dataSame i below unwritten
      · rfl
    unfold recorded
    rw [data]
    by_cases long : LongPayload xdp
    · rw [if_pos long, if_pos long]
      rfl
    · rw [if_neg long, if_neg long, httpSame long]
      rfl

/-- The flag is right if the front of the frame can stand for the payload. -/
theorem recorded_http_of_long (long : LongPayload xdp) :
    (recorded xdp stack).http = httpFlag xdp ↔
      (StartsWithHttp xdp.memory xdp.context.data ↔
        StartsWithHttp xdp.memory (tcpPayload xdp)) := by
  have carries : CarriesHttp xdp ↔ StartsWithHttp xdp.memory (tcpPayload xdp) :=
    and_iff_right (Nat.le_of_lt long)
  have flag : (recorded xdp stack).http =
      if StartsWithHttp xdp.memory xdp.context.data then 1 else 0 := if_pos long
  rw [flag, httpFlag, if_congr carries rfl rfl]
  by_cases front : StartsWithHttp xdp.memory xdp.context.data <;>
    by_cases payload : StartsWithHttp xdp.memory (tcpPayload xdp) <;>
    simp [front, payload]

theorem recorded_http_of_short (short : ¬ LongPayload xdp) :
    (recorded xdp stack).http = stack.http := if_neg short

/-- Whatever the frame, 196 bytes of the record are the stack's. -/
theorem bpfMain_shows_stack (emits : Emits xdp)
    (same : (bpfMain xdp left).event.map Event.bytes = (bpfMain xdp right).event.map Event.bytes) :
    ∀ i (below : i < 256), 60 ≤ i → left.data[i] = right.data[i] := by
  intro i below late
  have work := helpersWork_bpfMain xdp
  unfold bpfMain at same
  rw [work.classify_eq emits, work.classify_eq emits] at same
  exact (recorded_bytes_eq_iff.mp (Option.some.inj same)).1 i below (Or.inl late)

end Contract

/-- An event is right exactly if its record does not depend on the stack there:
both programs leave some of it as they found it, and both look for `"HTTP"` at
the front of the frame. -/
theorem tcp_event_is_right_iff (strncmp : (Nat → UInt8) → UInt32 → (Nat → UInt8) → Int)
    (documented : ∀ s1 n s2, strncmp s1 n s2 = 0 ↔ normalComparison s1 n s2 = 0) (xdp : Window)
    (addressed : xdp.context.dataEnd < 2 ^ 64) (left right : Event)
    (reported : (xdpPass strncmp xdp left).event ≠ none) :
    EventContract strncmp xdp left right ↔ StackSettled xdp left right := by
  have emits : Emits xdp := emits_of_event reported
  have pass (stack : Event) : xdpPass strncmp xdp stack = _ :=
    (helpersWork_xdpPass addressed documented).classify_eq emits stack
  have main (stack : Event) : bpfMain xdp stack = _ :=
    (helpersWork_bpfMain xdp).classify_eq emits stack
  constructor
  · intro contract
    have noStale := contract.bpfMain_noStale
    rw [main, main] at noStale
    have same := recorded_bytes_eq_iff.mp (Option.some.inj noStale)
    have http (stack : Event) (member : stack ∈ [left, right]) :
        (recorded xdp stack).http = httpFlag xdp := by
      apply contract.bpfMain_http stack member
      rw [main]
    constructor
    · exact same.1
    · intro long
      exact (recorded_http_of_long long).mp (http left (by simp))
    · intro short
      have leftHttp := http left (by simp)
      have rightHttp := http right (by simp)
      rw [recorded_http_of_short short] at leftHttp rightHttp
      exact ⟨leftHttp, rightHttp⟩
  · intro settled
    have bytes : (recorded xdp left).bytes = (recorded xdp right).bytes := by
      apply recorded_bytes_eq_iff.mpr
      refine ⟨settled.data, fun short => ?_⟩
      have flags := settled.uncompared short
      exact flags.1.trans flags.2.symm
    have http (stack : Event) (member : stack ∈ [left, right]) :
        (recorded xdp stack).http = httpFlag xdp := by
      by_cases long : LongPayload xdp
      · exact (recorded_http_of_long long).mpr (settled.compared long)
      · have flags := settled.uncompared long
        rw [recorded_http_of_short long]
        rcases List.mem_pair.mp member with rfl | rfl
        · exact flags.1
        · exact flags.2
    exact
      { xdpPass_noStale := by
          rw [pass, pass]
          exact congrArg some bytes
        bpfMain_noStale := by
          rw [main, main]
          exact congrArg some bytes
        xdpPass_http := by
          intro stack member event emitted
          rw [pass] at emitted
          cases emitted
          exact http stack member
        bpfMain_http := by
          intro stack member event emitted
          rw [main] at emitted
          cases emitted
          exact http stack member
        sources := by
          intro stack _
          rw [pass, main] }

/-! ## A TCP frame of 64 bytes -/

def plainFrame : Window where
  context :=
    { data := 0x1000
      dataEnd := 0x1040
      dataMeta := 0
      ingressIfindex := 0
      rxQueueIndex := 0
      egressIfindex := 0
      bufferStart := 0x1000
      bufferEnd := 0x1800 }
  memory := fun address =>
    if address = 0x100c then 0x08 else if address = 0x1017 then 6
    else if address = 0x102e then 0x50 else 0

/-- A stack whose bytes under `data` are all `byte`. -/
def plainStack (byte : UInt8) : Event where
  sport := 0
  dport := 0
  sip := 0
  dip := 0
  syn := 0
  fin := 0
  rst := 0
  psh := 0
  ack := 0
  http := 0
  len := 0
  data := Vector.replicate 256 byte

theorem plainFrame_emits : Emits plainFrame :=
  ⟨by decide, by decide, by decide⟩

/-- A stack with other bytes where the record of the frame is written. -/
def usedStack : Event where
  sport := 80
  dport := 443
  sip := 0x0201a8c0
  dip := 0x0301a8c0
  syn := 1
  fin := 0
  rst := 1
  psh := 1
  ack := 1
  http := 1
  len := 1500
  data := Vector.ofFn fun i => if i.val < 60 then 0xff else 0

theorem plainFrame_reported :
    EventContract normalComparison plainFrame (plainStack 0) usedStack := by
  have reported : (xdpPass normalComparison plainFrame (plainStack 0)).event ≠ none := by
    rw [xdpPass, classify_emits plainFrame_emits]
    exact Option.some_ne_none _
  apply (tcp_event_is_right_iff normalComparison (fun _ _ _ => Iff.rfl) plainFrame (by decide)
    (plainStack 0) usedStack reported).mpr
  refine ⟨fun i below unwritten => ?_, fun _ => by decide, fun short => absurd (by decide) short⟩
  have late : 60 ≤ i := unwritten.resolve_right fun short => absurd (by decide) short.1
  simp [plainStack, usedStack, Nat.not_lt.mpr late]

theorem tcp_event_shows_stack :
    ¬ EventContract normalComparison plainFrame (plainStack 0) (plainStack 0xff) := by
  intro contract
  have same := bpfMain_shows_stack plainFrame_emits contract.bpfMain_noStale 255 (by decide)
    (by decide)
  simp only [plainStack, Vector.getElem_replicate] at same
  exact absurd same (by decide)

end UserspaceXdp.Programs.XdpTcpclassify
