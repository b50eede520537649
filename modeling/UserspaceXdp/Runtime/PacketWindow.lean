import UserspaceXdp.Foundation.Runs
import UserspaceXdp.Runtime.Helpers

/-!
Contract: a program that moves the head of its packet and loads bytes from it
stays in the buffer of the packet.

Owns: `bpftime_xdp_load_bytes_runtime` of `module/helpers.c`, runs of it and of
`bpftime_xdp_adjust_head_runtime`, the contract of one call, and which runs keep
it at every call.

Does not own: the tail of the packet. `bpftime_xdp_adjust_head_runtime` checks
nothing; `bpftime_xdp_load_bytes_runtime` compares with `data_end` only, on
addresses that wrap.
-/

namespace UserspaceXdp.Runtime

open UserspaceXdp.Foundation

/-- What a load leaves behind: the return value, the source and the length of
its `memcpy` if there is one, and the window. -/
structure LoadOutcome where
  code : Nat
  copied : Option (Nat × Nat)
  window : Window

def bpftimeXdpLoadBytesRuntime (xdpMd : Window) (offset : UInt32) (buf : Nat) (len : UInt32) :
    LoadOutcome :=
  let data := (xdpMd.context.data + offset.toNat) % 2 ^ 64
  if xdpMd.context.dataEnd < (data + len.toNat) % 2 ^ 64 then ⟨negEinval, none, xdpMd⟩
  else
    { code := 0
      copied := some (data, len.toNat)
      window :=
        { xdpMd with
          memory := xdpMd.memory.copyFrom buf (fun index => xdpMd.memory (data + index))
            len.toNat } }

/-! ## Runs -/

inductive WindowCall where
  | adjustHead (offset : Int32)
  | loadBytes (offset : UInt32) (buf : Nat) (len : UInt32)

def WindowCall.run (xdp : Window) : WindowCall → Window
  | .adjustHead offset => (bpftimeXdpAdjustHeadRuntime xdp offset.toInt).2
  | .loadBytes offset buf len => (bpftimeXdpLoadBytesRuntime xdp offset buf len).window

/-- The packet has an Ethernet header and lies in the buffer. -/
structure Window.InBuffer (xdp : Window) : Prop where
  start : xdp.context.bufferStart ≤ xdp.context.data
  header : xdp.context.data + ethHlen ≤ xdp.context.dataEnd
  finish : xdp.context.dataEnd ≤ xdp.context.bufferEnd
  addressed : xdp.context.bufferEnd < 2 ^ 64

/-- The address is in the packet and in the buffer. -/
structure Window.Covers (xdp : Window) (address : Nat) : Prop where
  data : xdp.context.data ≤ address
  dataEnd : address < xdp.context.dataEnd
  bufferStart : xdp.context.bufferStart ≤ address
  bufferEnd : address < xdp.context.bufferEnd

/-- What a call may do: a head adjustment succeeds and leaves the packet with its
header in the buffer, or fails and leaves the context alone; a load copies bytes
of the packet only, and a load that fails leaves the memory alone. -/
def WindowCall.Keeps (xdp : Window) : WindowCall → Prop
  | .adjustHead offset =>
      let result := bpftimeXdpAdjustHeadRuntime xdp offset.toInt
      (result.1 = 0 ∧ result.2.context.bufferStart ≤ result.2.context.data ∧
          result.2.context.data + ethHlen ≤ result.2.context.dataEnd) ∨
        (result.1 ≠ 0 ∧ result.2.context = xdp.context)
  | .loadBytes offset buf len =>
      let result := bpftimeXdpLoadBytesRuntime xdp offset buf len
      (∀ copy ∈ result.copied, ∀ index < copy.2, xdp.Covers (copy.1 + index)) ∧
        (result.code ≠ 0 → result.window.memory = xdp.memory)

/-- The condition on a call: the address that the offset leads to has room for a
header in front of `data_end` and lies in the buffer, and a load of some bytes
ends in the address space. -/
def WindowCall.InRange (xdp : Window) : WindowCall → Prop
  | .adjustHead offset =>
      (xdp.context.bufferStart : Int) ≤ (xdp.context.data + offset.toInt) % 2 ^ 64 ∧
        (xdp.context.data + offset.toInt) % 2 ^ 64 + ethHlen ≤ (xdp.context.dataEnd : Int)
  | .loadBytes offset _ len =>
      len.toNat = 0 ∨ xdp.context.data + offset.toNat + len.toNat < 2 ^ 64

/-! ## One call -/

variable {xdp : Window}

theorem adjustHead_keeps_iff (xdp : Window) (offset : Int32) :
    (WindowCall.adjustHead offset).Keeps xdp ↔ (WindowCall.adjustHead offset).InRange xdp := by
  simp only [WindowCall.Keeps, WindowCall.InRange, bpftimeXdpAdjustHeadRuntime, ne_eq,
    not_true_eq_false, false_and, or_false, true_and]
  omega

/-- A load whose end wraps is taken for one inside the packet. -/
theorem loadBytes_accepts_wrapped (inBuffer : xdp.InBuffer) (offset len : UInt32)
    (wraps : 2 ^ 64 ≤ xdp.context.data + offset.toNat + len.toNat) :
    ((xdp.context.data + offset.toNat) % 2 ^ 64 + len.toNat) % 2 ^ 64 ≤ xdp.context.dataEnd := by
  obtain ⟨start, header, finish, addressed⟩ := inBuffer
  have offsetSmall := offset.toNat_lt
  have lenSmall := len.toNat_lt
  omega

theorem loadBytes_keeps_iff (inBuffer : xdp.InBuffer) (offset : UInt32) (buf : Nat)
    (len : UInt32) :
    (WindowCall.loadBytes offset buf len).Keeps xdp ↔
      (WindowCall.loadBytes offset buf len).InRange xdp := by
  have offsetSmall := offset.toNat_lt
  have lenSmall := len.toNat_lt
  have accepts := loadBytes_accepts_wrapped inBuffer offset len
  obtain ⟨start, header, finish, addressed⟩ := inBuffer
  simp only [WindowCall.Keeps, WindowCall.InRange, bpftimeXdpLoadBytesRuntime]
  by_cases rejected : xdp.context.dataEnd <
      ((xdp.context.data + offset.toNat) % 2 ^ 64 + len.toNat) % 2 ^ 64
  · rw [if_pos rejected]
    have ends : xdp.context.data + offset.toNat + len.toNat < 2 ^ 64 := by
      by_contra wraps
      have accepted := accepts (Nat.le_of_not_lt wraps)
      omega
    exact ⟨fun _ => Or.inr ends, fun _ => ⟨by simp, fun _ => rfl⟩⟩
  · rw [if_neg rejected]
    simp only [Option.mem_def, Option.some.injEq, forall_eq', ne_eq, not_true_eq_false,
      false_implies, and_true]
    constructor
    · intro covered
      by_contra outOfRange
      obtain ⟨some_bytes, wraps⟩ := not_or.mp outOfRange
      -- The first byte lies below the packet, or the last one behind it.
      by_cases wrapsFirst : 2 ^ 64 ≤ xdp.context.data + offset.toNat
      · have first := (covered 0 (by omega)).data
        omega
      · have last := (covered (len.toNat - 1) (by omega)).dataEnd
        omega
    · rintro (nothing | ends) index below
      · omega
      · exact ⟨by omega, by omega, by omega, by omega⟩

theorem WindowCall.keeps_iff_inRange (inBuffer : xdp.InBuffer) (call : WindowCall) :
    call.Keeps xdp ↔ call.InRange xdp := by
  cases call with
  | adjustHead offset => exact adjustHead_keeps_iff xdp offset
  | loadBytes offset buf len => exact loadBytes_keeps_iff inBuffer offset buf len

theorem loadBytes_context (xdp : Window) (offset : UInt32) (buf : Nat) (len : UInt32) :
    (bpftimeXdpLoadBytesRuntime xdp offset buf len).window.context = xdp.context := by
  unfold bpftimeXdpLoadBytesRuntime
  dsimp only
  split
  · rfl
  · rfl

theorem WindowCall.run_inBuffer (inBuffer : xdp.InBuffer) (call : WindowCall)
    (inRange : call.InRange xdp) : (call.run xdp).InBuffer := by
  cases call with
  | adjustHead offset =>
      obtain ⟨lower, upper⟩ := inRange
      refine ⟨?_, ?_, inBuffer.finish, inBuffer.addressed⟩
      · show xdp.context.bufferStart ≤ ((xdp.context.data + offset.toInt) % 2 ^ 64).toNat
        omega
      · show ((xdp.context.data + offset.toInt) % 2 ^ 64).toNat + ethHlen ≤ xdp.context.dataEnd
        omega
  | loadBytes offset buf len =>
      have same := loadBytes_context xdp offset buf len
      obtain ⟨start, header, finish, addressed⟩ := inBuffer
      refine ⟨?_, ?_, ?_, ?_⟩ <;> rw [WindowCall.run, same] <;> assumption

/-! ## Every run -/

/-- Every call of a run keeps the contract exactly if every call is in range in
the window it is made on. -/
theorem window_calls_keep_buffer_iff (xdp : Window) (inBuffer : xdp.InBuffer)
    (calls : List WindowCall) :
    AtEveryStep WindowCall.run (fun window call => call.Keeps window) xdp calls ↔
      AtEveryStep WindowCall.run (fun window call => call.InRange window) xdp calls :=
  atEveryStep_iff_of_invariant Window.InBuffer
    (fun _ call placed => call.keeps_iff_inRange placed)
    (fun _ call placed inRange => call.run_inBuffer placed inRange) inBuffer calls

/-- A packet of 60 bytes with a headroom, in a buffer of 2048 bytes. -/
def packetWindow (headroom : Nat) : Window :=
  ⟨⟨4096 + headroom, 4156 + headroom, 0, 0, 0, 0, 4096, 6144⟩, fun _ => 0⟩

/-- With enough headroom a header can be put in front and read. -/
theorem window_calls_keep_headroom :
    AtEveryStep WindowCall.run (fun window call => call.Keeps window) (packetWindow 128)
      [.adjustHead (-20), .loadBytes 14 1024 20] := by
  have inBuffer : (packetWindow 128).InBuffer :=
    ⟨by decide, by decide, by decide, by decide⟩
  apply (window_calls_keep_buffer_iff (packetWindow 128) inBuffer _).mpr
  have moved : (WindowCall.adjustHead (-20)).InRange (packetWindow 128) :=
    ⟨by decide, by decide⟩
  have loaded : (WindowCall.loadBytes 14 1024 20).InRange
      ((WindowCall.adjustHead (-20)).run (packetWindow 128)) := Or.inr (by decide)
  exact atEveryStep_cons.mpr ⟨moved, atEveryStep_cons.mpr ⟨loaded, atEveryStep_nil _⟩⟩

/-- Without headroom the call succeeds as well, and the packet begins in front of
its buffer. -/
theorem adjustHead_leaves_buffer :
    (packetWindow 0).InBuffer ∧
      ¬ AtEveryStep WindowCall.run (fun window call => call.Keeps window) (packetWindow 0)
        [.adjustHead (-20)] := by
  refine ⟨⟨by decide, by decide, by decide, by decide⟩, fun every => ?_⟩
  have kept := (atEveryStep_cons.mp every).1
  have inRange := (adjustHead_keeps_iff (packetWindow 0) (-20)).mp kept
  exact absurd inRange.1 (by decide)

end UserspaceXdp.Runtime
