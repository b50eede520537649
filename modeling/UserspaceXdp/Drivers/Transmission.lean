import UserspaceXdp.AfXdp.Xdpsock
import UserspaceXdp.Dpdk.Ownership
import UserspaceXdp.Runtime.Helpers

/-!
Contract: the frame that a driver queues for a packet is the window the program
left in its context.

Neither driver reads `data` and `data_end` back: `l2fwd_simple_forward` sends
the mbuf with the `data_off` and `data_len` it arrived with, and `l2fwd` copies
`addr` and `len` of the RX descriptor. A program that moves the window therefore
has a different frame sent than the one it made.

Owns: the contract for both drivers, and when it holds.

Does not own: packets the program does not transmit.
-/

namespace UserspaceXdp.Drivers

open UserspaceXdp.Foundation
open UserspaceXdp.Runtime

/-- The frame is the packet between `data` and `data_end`: same start, same
length, same bytes. -/
structure Carries (frame : TxFrame) (final : Window) : Prop where
  start : frame.start = final.context.data
  finish : frame.start + frame.length = final.context.dataEnd
  bytes : frame.bytes =
    final.memory.bytes final.context.data (final.context.dataEnd - final.context.data)

/-- On this window the program makes these edits and returns `XDP_TX`. -/
structure Transmits (program : XdpProgram) (frameSz : Nat) (xdp : Window) (edits : List Edit)
    (final : Window) : Prop where
  ran : runEdits frameSz xdp edits = some final
  outcome : program xdp.context xdp.memory = ⟨xdpTx, final.context, final.memory⟩

/-- The edits leave both ends of the window where they were. -/
structure Unmoved (frameSz : Nat) (xdp : Window) (edits : List Edit) : Prop where
  head : headMovement edits % 2 ^ 64 = 0
  tail : tailMovement frameSz xdp edits = 0

variable {program : XdpProgram} {frameSz : Nat} {xdp final : Window} {edits : List Edit}

/-- A frame cut out of the final memory at the ends of the first window. -/
theorem carries_iff_unmoved (length : Nat) (addressed : xdp.Addressed)
    (ran : runEdits frameSz xdp edits = some final)
    (ends : xdp.context.dataEnd = xdp.context.data + length) :
    Carries ⟨xdp.context.data, length, final.memory.bytes xdp.context.data length⟩ final ↔
      Unmoved frameSz xdp edits := by
  have unmoved := runEdits_unmoved_iff addressed ran
  constructor
  · intro carries
    obtain ⟨head, tail⟩ := unmoved.mp ⟨carries.start, ends.trans carries.finish⟩
    exact ⟨head, tail⟩
  · intro still
    obtain ⟨start, finish⟩ := unmoved.mpr ⟨still.head, still.tail⟩
    have size : final.context.dataEnd - final.context.data = length := by omega
    exact
      { start := start
        finish := ends.symm.trans finish
        bytes := by rw [size, ← start] }

/-! ## DPDK -/

/-- The frame that `rte_eth_tx_buffer` takes is the mbuf as it is. -/
theorem sendOut_queued (config : Dpdk.Config) (m : Dpdk.Mbuf) (dstPort : Nat)
    (state : Dpdk.State) :
    (Dpdk.sendOut config m dstPort state).queued =
      if config.enabled dstPort then
        state.queued ++ [⟨m.mtod, m.dataLen, state.memory.bytes m.mtod m.dataLen⟩]
      else state.queued := by
  unfold Dpdk.sendOut
  by_cases enabled : config.enabled dstPort = true
  · rw [if_pos enabled, if_pos enabled]
    rcases Dpdk.rteEthTxBuffer_cases config dstPort m state with stored | flushing
    · rw [stored]
      rfl
    · rw [flushing]
      obtain ⟨sent, -, flushed⟩ := Dpdk.flush_spec config dstPort (state.append dstPort m)
      exact flushed.queued
  · rw [if_neg enabled, if_neg enabled]
    rfl

theorem l2fwdSimpleForward_queued {config : Dpdk.Config} {m : Dpdk.Mbuf}
    {stack : Dpdk.StackResidue} {state : Dpdk.State} (portid : Nat)
    (loaded : config.entryProg = some program) (running : state.faulted = false)
    (transmits : Transmits program frameSz ⟨m.context stack.context, state.memory⟩ edits final) :
    (Dpdk.l2fwdSimpleForward config (some m) portid stack state).queued =
      if config.enabled stack.dstPort then
        state.queued ++ [⟨m.mtod, m.dataLen, final.memory.bytes m.mtod m.dataLen⟩]
      else state.queued := by
  have outcome := transmits.outcome
  have ended : ¬ state.faulted = true := by rw [running]; decide
  unfold Dpdk.l2fwdSimpleForward
  rw [if_neg ended, loaded]
  dsimp only [ebpfModuleRunAtHandler] at outcome ⊢
  rw [outcome]
  exact sendOut_queued config m stack.dstPort _

/-! ## AF_XDP -/

/-- The frame of a slot of the TX ring. -/
def txFrame {Sock : Type} (state : AfXdp.State Sock) (sock : Sock) (idxTx : Nat) : TxFrame :=
  let desc := (state.socks sock).tx.entry idxTx
  ⟨desc.addr, desc.len, state.buffer.bytes desc.addr desc.len⟩

theorem forwardBody_txFrame {Sock : Type} [DecidableEq Sock] {options : AfXdp.Options}
    {residue : ContextResidue} {state : AfXdp.State Sock} {sock : Sock}
    {loop : AfXdp.ForwardLoop} {desc : AfXdp.XdpDesc}
    (loaded : options.entryProg = some program) (first : state.nbFrags = 0)
    (received : (state.socks sock).rx.entry loop.idxRx = desc)
    (transmits : Transmits program frameSz
      ⟨AfXdp.packetContext residue desc.addr desc.len, state.buffer⟩ edits final) :
    txFrame (AfXdp.forwardBody options residue state sock loop) sock loop.idxTx =
      ⟨desc.addr, desc.len, final.memory.bytes desc.addr desc.len⟩ := by
  have outcome := transmits.outcome
  have processed : (AfXdp.ebpfProcessPacket options.entryProg residue state.buffer desc.addr
      desc.len).2 = final.memory := by
    dsimp only at outcome
    rw [loaded, AfXdp.ebpfProcessPacket, ebpfModuleRunAtHandler, outcome]
  subst received
  simp only [txFrame, AfXdp.forwardBody, AfXdp.State.setHistory_socks, AfXdp.State.setSock_socks,
    SharedRing.entry_put_same, AfXdp.txDesc, if_pos first, processed]

/-! ## Both drivers -/

/-- Whatever the program edits before it returns `XDP_TX`: the driver queues the
frame that the program left exactly if the edits leave both ends of the window
where they were. On DPDK there also has to be a TX buffer for `dst_port`. -/
theorem drivers_queue_window_iff_unmoved (program : XdpProgram) (frameSz : Nat)
    (edits : List Edit) (final : Window) :
    (∀ (config : Dpdk.Config) (m : Dpdk.Mbuf) (portid : Nat) (stack : Dpdk.StackResidue)
        (state : Dpdk.State),
      let xdp : Window := ⟨m.context stack.context, state.memory⟩
      config.entryProg = some program → state.faulted = false → xdp.Addressed →
      Transmits program frameSz xdp edits final →
        ((∃ frame, (Dpdk.l2fwdSimpleForward config (some m) portid stack state).queued =
            state.queued ++ [frame] ∧ Carries frame final) ↔
          config.enabled stack.dstPort = true ∧ Unmoved frameSz xdp edits)) ∧
    (∀ (Sock : Type) [DecidableEq Sock] (options : AfXdp.Options) (residue : ContextResidue)
        (state : AfXdp.State Sock) (sock : Sock) (loop : AfXdp.ForwardLoop),
      let desc := (state.socks sock).rx.entry loop.idxRx
      let xdp : Window := ⟨AfXdp.packetContext residue desc.addr desc.len, state.buffer⟩
      options.entryProg = some program → state.nbFrags = 0 → xdp.Addressed →
      Transmits program frameSz xdp edits final →
        (Carries (txFrame (AfXdp.forwardBody options residue state sock loop) sock loop.idxTx)
            final ↔
          Unmoved frameSz xdp edits)) := by
  constructor
  · intro config m portid stack state xdp loaded running addressed transmits
    have queued := l2fwdSimpleForward_queued portid loaded running transmits
    have carries := carries_iff_unmoved m.dataLen addressed transmits.ran rfl
    rw [queued, ← carries]
    by_cases enabled : config.enabled stack.dstPort = true
    · rw [if_pos enabled]
      constructor
      · rintro ⟨frame, same, carried⟩
        have equal := List.append_cancel_left same
        rw [List.cons.injEq] at equal
        exact ⟨enabled, equal.1 ▸ carried⟩
      · rintro ⟨-, carried⟩
        exact ⟨_, rfl, carried⟩
    · rw [if_neg enabled]
      constructor
      · rintro ⟨frame, same, -⟩
        exact absurd (congrArg List.length same) (by simp)
      · rintro ⟨contradiction, -⟩
        exact absurd contradiction enabled
  · intro Sock _ options residue state sock loop desc xdp loaded first addressed transmits
    rw [forwardBody_txFrame loaded first rfl transmits]
    exact carries_iff_unmoved desc.len addressed transmits.ran rfl

/-- A program that makes the same edits on every packet and returns `XDP_TX`. -/
def editProgram (frameSz : Nat) (edits : List Edit) : XdpProgram :=
  fun context memory =>
    match runEdits frameSz ⟨context, memory⟩ edits with
    | some final => ⟨xdpTx, final.context, final.memory⟩
    | none => ⟨xdpAborted, context, memory⟩

theorem transmits_editProgram (ran : runEdits frameSz xdp edits = some final) :
    Transmits (editProgram frameSz edits) frameSz xdp edits final where
  ran := ran
  outcome := by rw [editProgram, ran]

/-- A mbuf of 60 bytes with the usual headroom. -/
def smallMbuf : Dpdk.Mbuf := ⟨1, 4096, 128, 2048, 60⟩

def emptyStack : Dpdk.StackResidue := ⟨0, 0, 0, 0, 0⟩

/-- One port, and a program that makes these edits. -/
def editPort (edits : List Edit) : Dpdk.Config :=
  { Dpdk.onePort xdpTx with entryProg := some (editProgram 0 edits) }

/-- The window that a move of the head by `distance` leaves of `smallMbuf`. -/
def movedWindow (distance : Nat) : Window :=
  ⟨{ smallMbuf.context emptyStack.context with data := smallMbuf.mtod + distance }, fun _ => 0⟩

/-- A program that moves the head forth and back has its frame sent. -/
theorem l2fwd_queues_restored_window :
    ∃ frame, (Dpdk.l2fwdSimpleForward (editPort [.adjustHead (-20), .adjustHead 20])
        (some smallMbuf) 0 emptyStack (Dpdk.initial fun _ => 0)).queued = [] ++ [frame] ∧
      Carries frame (movedWindow 0) := by
  have ran : runEdits 0 (movedWindow 0) [.adjustHead (-20), .adjustHead 20] =
      some (movedWindow 0) := rfl
  exact ((drivers_queue_window_iff_unmoved _ 0 _ (movedWindow 0)).1
    (editPort [.adjustHead (-20), .adjustHead 20]) smallMbuf 0 emptyStack
    (Dpdk.initial fun _ => 0) rfl rfl ⟨by decide, by decide⟩ (transmits_editProgram ran)).mpr
    ⟨rfl, by decide, rfl⟩

/-- A program that takes the Ethernet header off stays inside the buffer, and
the frame is sent with the header. -/
theorem l2fwd_queues_removed_header :
    Transmits (editProgram 0 [.adjustHead 14]) 0 (movedWindow 0) [.adjustHead 14]
        (movedWindow 14) ∧
      (movedWindow 14).context.bufferStart ≤ (movedWindow 14).context.data ∧
      (movedWindow 14).context.dataEnd ≤ (movedWindow 14).context.bufferEnd ∧
      ¬ ∃ frame, (Dpdk.l2fwdSimpleForward (editPort [.adjustHead 14]) (some smallMbuf) 0
          emptyStack (Dpdk.initial fun _ => 0)).queued = [] ++ [frame] ∧
        Carries frame (movedWindow 14) := by
  have ran : runEdits 0 (movedWindow 0) [.adjustHead 14] = some (movedWindow 14) := rfl
  have transmits := transmits_editProgram ran
  refine ⟨transmits, by decide, by decide, ?_⟩
  rintro ⟨frame, queued, carries⟩
  have loaded : (editPort [.adjustHead 14]).entryProg =
      some (editProgram 0 [.adjustHead 14]) := rfl
  have sent := (l2fwdSimpleForward_queued 0 loaded rfl transmits).symm.trans queued
  have start := congrArg (fun frames => frames.map TxFrame.start) sent
  have equal : smallMbuf.mtod = frame.start := List.head_eq_of_cons_eq start
  exact absurd (equal.trans carries.start) (by decide)

end UserspaceXdp.Drivers
