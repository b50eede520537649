import UserspaceXdp.AfXdp.Xdpsock
import UserspaceXdp.Dpdk.L2fwd
import UserspaceXdp.Runtime.XdpBuff

/-!
Contract: `bpf_xdp_adjust_tail` moves the end of a packet anywhere in the buffer
that the driver hands over, and nowhere else.

The helper reads a context through the layout of `struct xdp_buff`. Its limit is
therefore not `buffer_end`: it is made of `rx_queue_index` and `egress_ifindex`,
which no driver sets, and of four bytes behind the context.

Owns: the contract on the contexts of both drivers, and when it holds.

Does not own: the contract on a `struct xdp_buff`.
-/

namespace UserspaceXdp.Drivers

open UserspaceXdp.Foundation
open UserspaceXdp.Runtime

/-- The packet lies in the buffer, which lies in the address space. -/
structure PacketInBuffer (context : XdpMdUserspace) : Prop where
  start : context.bufferStart ≤ context.data
  packet : context.data ≤ context.dataEnd
  finish : context.dataEnd ≤ context.bufferEnd
  addressed : context.bufferEnd < 2 ^ 64

/-- The new end is behind the Ethernet header and in the buffer. -/
abbrev EndInBuffer (context : XdpMdUserspace) (offset : Int) : Prop :=
  TailInside context.data context.dataEnd context.bufferEnd offset

/-- What a call may leave behind. It has to return, with success exactly if the
new end is in the buffer, and `data_end` stays in the buffer. -/
def BufferTailContract (context : XdpMdUserspace) (offset : Int) : Option (Nat × Window) → Prop
  | none => False
  | some (code, next) =>
      (code = 0 ↔ EndInBuffer context offset) ∧
        context.bufferStart ≤ next.context.dataEnd ∧
        next.context.dataEnd ≤ context.bufferEnd

/-- The limit that the helper reads out of the context decides as `buffer_end`
does: it admits a new end in the buffer, which must be no shrink, and its checks
turn down every other. -/
def LimitAgrees (context : XdpMdUserspace) (frameSz : Nat) (offset : Int32) : Prop :=
  (EndInBuffer context offset.toInt ∧ 0 ≤ offset.toInt ∧
      (context.dataEnd : Int) + offset.toInt ≤ xdpDataHardEnd context frameSz) ∨
    (¬ EndInBuffer context offset.toInt ∧
      ¬ (context.asXdpBuff frameSz 0).Accepts (signExtend offset))

variable {frameSz : Nat} {xdp : Window} {offset : Int32}

theorem adjustTail_unchanged
    (rejected : ¬ (xdp.context.asXdpBuff frameSz 0).Accepts (signExtend offset)) :
    bpftimeXdpAdjustTailRuntime frameSz xdp (signExtend offset) = some (negEinval, xdp) := by
  rw [bpftimeXdpAdjustTailRuntime_eq_asXdpBuff frameSz 0, XdpBuff.adjustTail_of_not_accepts rejected]
  rfl

theorem adjustTail_moved
    (accepted : (xdp.context.asXdpBuff frameSz 0).Accepts (signExtend offset)) :
    bpftimeXdpAdjustTailRuntime frameSz xdp (signExtend offset) =
      if 2 ^ 64 ≤ xdp.context.dataEnd + signExtend offset then none
      else
        some (0,
          ⟨{ xdp.context with dataEnd := (xdp.context.dataEnd + signExtend offset) % 2 ^ 64 },
            xdp.memory.copyFrom xdp.context.dataEnd (fun _ => 0) (signExtend offset)⟩) := by
  rw [bpftimeXdpAdjustTailRuntime_eq_asXdpBuff frameSz 0, XdpBuff.adjustTail_of_accepts accepted,
    apply_ite (Option.map _)]
  rfl

/-- An end behind the Ethernet header and up to the limit passes the checks. -/
theorem accepts_of_limit (inside : EndInBuffer xdp.context offset.toInt)
    (limit : (xdp.context.dataEnd : Int) + offset.toInt ≤ xdpDataHardEnd xdp.context frameSz) :
    (xdp.context.asXdpBuff frameSz 0).Accepts (signExtend offset) :=
  XdpBuff.accepts_of_inside ⟨inside.header, limit⟩

theorem bufferTailContract_iff (xdp : Window) (placed : PacketInBuffer xdp.context) :
    BufferTailContract xdp.context offset.toInt
        (bpftimeXdpAdjustTailRuntime frameSz xdp (signExtend offset)) ↔
      LimitAgrees xdp.context frameSz offset := by
  obtain ⟨start, packet, finish, addressed⟩ := placed
  have hardEnd : xdpDataHardEnd xdp.context frameSz < 2 ^ 64 := Nat.mod_lt _ (by decide)
  by_cases accepted : (xdp.context.asXdpBuff frameSz 0).Accepts (signExtend offset)
  · have upper : (xdp.context.dataEnd + signExtend offset) % 2 ^ 64 ≤
        xdpDataHardEnd xdp.context frameSz := accepted.hardEnd
    rw [adjustTail_moved accepted]
    by_cases runsOff : 2 ^ 64 ≤ xdp.context.dataEnd + signExtend offset
    · rw [if_pos runsOff]
      refine ⟨False.elim, ?_⟩
      rintro (⟨-, grows, limit⟩ | ⟨-, rejected⟩)
      · have extended := signExtend_of_nonneg grows
        omega
      · exact rejected accepted
    · rw [if_neg runsOff]
      have sum := Nat.mod_eq_of_lt (Nat.lt_of_not_le runsOff)
      rw [sum] at upper ⊢
      by_cases grows : 0 ≤ offset.toInt
      · have extended := signExtend_of_nonneg grows
        constructor
        · rintro ⟨success, -, -⟩
          exact Or.inl ⟨success.mp rfl, grows, by omega⟩
        · rintro (⟨inside, -, -⟩ | ⟨-, rejected⟩)
          · have lower := inside.header
            have within := inside.limit
            refine ⟨⟨fun _ => inside, fun _ => rfl⟩, ?_, ?_⟩
            · show xdp.context.bufferStart ≤ xdp.context.dataEnd + signExtend offset
              omega
            · show xdp.context.dataEnd + signExtend offset ≤ xdp.context.bufferEnd
              omega
          · exact absurd accepted rejected
      · -- The sum did not wrap, so the shrink goes below the address zero.
        have extended := signExtend_of_neg (Int.not_le.mp grows)
        constructor
        · rintro ⟨success, -, -⟩
          have lower := (success.mp rfl).header
          omega
        · rintro (⟨-, nonneg, -⟩ | ⟨-, rejected⟩)
          · exact absurd nonneg grows
          · exact absurd accepted rejected
  · rw [adjustTail_unchanged accepted]
    constructor
    · rintro ⟨success, -, -⟩
      exact Or.inr ⟨fun inside => negEinval_ne_zero (success.mpr inside), accepted⟩
    · rintro (⟨inside, -, limit⟩ | ⟨outside, -⟩)
      · exact absurd (accepts_of_limit inside limit) accepted
      · refine ⟨⟨fun zero => absurd zero negEinval_ne_zero, fun inside => absurd inside outside⟩,
          ?_, finish⟩
        exact start.trans packet

/-! ## Both drivers -/

/-- DPDK keeps the data of a mbuf inside its buffer. -/
structure MbufPlaced (m : Dpdk.Mbuf) : Prop where
  data : m.dataOff + m.dataLen ≤ m.bufLen
  addressed : m.bufAddr + m.bufLen < 2 ^ 64

theorem MbufPlaced.packetInBuffer {m : Dpdk.Mbuf} (placed : MbufPlaced m)
    (residue : ContextResidue) : PacketInBuffer (m.context residue) := by
  have data := placed.data
  exact
    { start := Nat.le_refl _
      packet := Nat.le_add_right _ _
      finish := by
        show m.bufAddr + m.dataOff + m.dataLen ≤ m.bufAddr + m.bufLen
        omega
      addressed := placed.addressed }

theorem packetContext_packetInBuffer (residue : ContextResidue) {pkt len : Nat}
    (addressed : pkt + len < 2 ^ 64) : PacketInBuffer (AfXdp.packetContext residue pkt len) where
  start := Nat.le_refl _
  packet := Nat.le_add_right _ _
  finish := Nat.le_refl _
  addressed := addressed

/-- On the contexts of both drivers, whatever is in the unset fields and behind
the context: the helper moves the end exactly within the buffer if and only if
the limit it reads decides as `buffer_end` does. -/
theorem drivers_adjustTail_in_buffer_iff (residue : ContextResidue) (frameSz : Nat)
    (offset : Int32) (memory : Memory) :
    (∀ m : Dpdk.Mbuf, MbufPlaced m →
      (BufferTailContract (m.context residue) offset.toInt
          (bpftimeXdpAdjustTailRuntime frameSz ⟨m.context residue, memory⟩ (signExtend offset)) ↔
        LimitAgrees (m.context residue) frameSz offset)) ∧
    (∀ pkt len : Nat, pkt + len < 2 ^ 64 →
      (BufferTailContract (AfXdp.packetContext residue pkt len) offset.toInt
          (bpftimeXdpAdjustTailRuntime frameSz ⟨AfXdp.packetContext residue pkt len, memory⟩
            (signExtend offset)) ↔
        LimitAgrees (AfXdp.packetContext residue pkt len) frameSz offset)) := by
  constructor
  · intro m placed
    exact bufferTailContract_iff ⟨m.context residue, memory⟩
      (placed.packetInBuffer residue)
  · intro pkt len addressed
    exact bufferTailContract_iff ⟨AfXdp.packetContext residue pkt len, memory⟩
      (packetContext_packetInBuffer residue addressed)

/-- A mbuf of 60 bytes in a buffer of 2048, on a cleared stack. -/
def tailMbuf : Dpdk.Mbuf := ⟨1, 4096, 128, 2048, 60⟩

def clearResidue : ContextResidue := ⟨0, 0, 0, 0⟩

/-- With all unset bytes zero the limit is the end of the address space, and a
packet can be grown by 100 bytes; a call that does not move the end succeeds on
AF_XDP too. -/
theorem adjustTail_grows_in_buffer :
    BufferTailContract (tailMbuf.context clearResidue) (Int32.toInt 100)
        (bpftimeXdpAdjustTailRuntime 0 ⟨tailMbuf.context clearResidue, fun _ => 0⟩
          (signExtend 100)) ∧
      BufferTailContract (AfXdp.packetContext clearResidue 8192 60) (Int32.toInt 0)
        (bpftimeXdpAdjustTailRuntime 0 ⟨AfXdp.packetContext clearResidue 8192 60, fun _ => 0⟩
          (signExtend 0)) := by
  refine ⟨?_, ?_⟩
  · apply ((drivers_adjustTail_in_buffer_iff clearResidue 0 100 fun _ => 0).1 tailMbuf
      ⟨by decide, by decide⟩).mpr
    exact Or.inl ⟨⟨by decide, by decide⟩, by decide, by decide⟩
  · apply ((drivers_adjustTail_in_buffer_iff clearResidue 0 0 fun _ => 0).2 8192 60
      (by decide)).mpr
    exact Or.inl ⟨⟨by decide, by decide⟩, by decide, by decide⟩

/-- The same call with 4000 bytes succeeds, and the packet ends behind its
buffer. -/
theorem adjustTail_leaves_buffer :
    MbufPlaced tailMbuf ∧
      ¬ BufferTailContract (tailMbuf.context clearResidue) (Int32.toInt 4000)
        (bpftimeXdpAdjustTailRuntime 0 ⟨tailMbuf.context clearResidue, fun _ => 0⟩
          (signExtend 4000)) := by
  have placed : MbufPlaced tailMbuf := ⟨by decide, by decide⟩
  refine ⟨placed, ?_⟩
  rw [bufferTailContract_iff ⟨tailMbuf.context clearResidue, fun _ => 0⟩
    (placed.packetInBuffer clearResidue)]
  rintro (⟨inside, -, -⟩ | ⟨-, rejected⟩)
  · exact absurd inside.limit (by decide)
  · exact rejected ⟨by decide, by decide⟩

end UserspaceXdp.Drivers
