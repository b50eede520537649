import UserspaceXdp.AfXdp.Invariant

/-!
Contract: what `l2fwd` on one socket does with the frames and the packets it is
given, in every interleaving with the kernel.

Owns: the contract of a run on one socket, at any time and between two calls,
and the theorem that every run keeps it.

Does not own: what the XDP program decides.
-/

namespace UserspaceXdp.AfXdp

open UserspaceXdp.Foundation
open UserspaceXdp.Foundation.Fragments

/-- A TX descriptor passes an RX descriptor on: same buffer, same length, and
the packet continues after the one where it continues after the other. -/
structure PassesOn (tx rx : XdpDesc) : Prop where
  addr : tx.addr = rx.addr
  len : tx.len = rx.len
  continues : isEopDesc tx.options = isEopDesc rx.options

theorem txDesc_passesOn (desc : XdpDesc) : PassesOn (txDesc desc) desc := by
  refine ⟨rfl, rfl, ?_⟩
  unfold txDesc
  cases ends : isEopDesc desc.options <;> simp [isEopDesc, xdpPktContd]

/-- What holds at any time. `sent` RX descriptors have been submitted and
the loop has processed `seen`. -/
structure ForwardsPackets (options : Options) (state : State Unit) (sent seen : Nat) : Prop where
  /-- Every chunk is in one place, once. -/
  frames : allChunks options state = Multiset.range numFrames
  /-- Whole packets are submitted, in arrival order. -/
  inOrder : List.Forall₂ PassesOn ((state.history ()).submitted.map Frame.desc)
    (((state.history ()).arrived.take sent).map Frame.desc)
  whole : openCount Frame.ends ((state.history ()).arrived.take sent) = 0
  /-- The program ran once for each packet, on its first buffer. -/
  oneRun : (state.history ()).runs.map (fun run => run.frame.desc) =
    (heads Frame.ends ((state.history ()).arrived.take seen)).map Frame.desc
  /-- `outstanding_tx` never wraps: with the frames submitted and not yet
  counted it is what was submitted and not reaped. -/
  outstanding : (state.socks ()).outstandingTx + (state.pc.stage ()).pending +
    state.reaped.length = (state.history ()).submitted.length

/-- What holds between two calls of `l2fwd`. -/
structure BetweenCalls (state : State Unit) : Prop where
  /-- All peeked descriptors have been processed. -/
  processed : written state.nbFrags (state.pc.stage ()) (state.socks ()) =
    (state.socks ()).rx.cached
  /-- All complete packets that were peeked have been submitted. -/
  complete : (state.history ()).arrived.take (state.socks ()).tx.producer =
    completed Frame.ends ((state.history ()).arrived.take (state.socks ()).rx.cached)
  /-- What is peeked and not released is the open packet, and so is what is
  reserved and not submitted. -/
  unreleased : (state.socks ()).rx.consumer + state.nbFrags = (state.socks ()).rx.cached
  unsubmitted : (state.socks ()).tx.producer + state.nbFrags = (state.socks ()).tx.cached
  openPacket : state.nbFrags =
    openCount Frame.ends ((state.history ()).arrived.take (state.socks ()).rx.cached)
  reapable : (state.socks ()).outstandingTx + state.reaped.length =
    (state.history ()).submitted.length

theorem SockInv.inOrder {nbFrags : Nat} {stage : Stage} {info : XskSocketInfo}
    {history : History} (held : SockInv nbFrags stage info history) :
    List.Forall₂ PassesOn (history.submitted.map Frame.desc)
      ((history.arrived.take info.tx.producer).map Frame.desc) := by
  rw [held.submitted, List.forall₂_map_left_iff, List.forall₂_map_right_iff, List.forall₂_same]
  intro frame _
  exact txDesc_passesOn frame.desc

/-- At the end of a call the complete packets among the peeked descriptors are
those that were submitted. -/
theorem SockInv.completed {nbFrags : Nat} {info : XskSocketInfo} {history : History}
    (held : SockInv nbFrags .quiet info history) :
    history.arrived.take info.tx.producer =
      completed Frame.ends (history.arrived.take info.rx.cached) := by
  have peeked : info.rx.cached = info.tx.producer + 0 + nbFrags := held.peeked
  have within : info.rx.cached ≤ history.arrived.length := held.received ▸ held.consuming.available
  have openFrags : nbFrags = openCount Frame.ends (history.arrived.take info.rx.cached) :=
    peeked ▸ held.openFrags
  have length : (history.arrived.take info.rx.cached).length = info.rx.cached :=
    List.length_take_of_le within
  unfold Fragments.completed
  rw [← openFrags, length, List.take_take]
  congr 1
  omega

theorem SockInv.length_submitted {nbFrags : Nat} {stage : Stage} {info : XskSocketInfo}
    {history : History} (held : SockInv nbFrags stage info history) :
    history.submitted.length = info.tx.producer := by
  have length := congrArg List.length held.submitted
  have within := held.written_le
  unfold written at within
  simp only [List.length_map, List.length_take] at length
  omega

theorem Invariant.forwardsPackets {options : Options} {state : State Unit}
    (held : Invariant options state) :
    ForwardsPackets options state (state.socks ()).tx.producer
      (written state.nbFrags (state.pc.stage ()) (state.socks ())) where
  frames := held.conserved
  inOrder := (held.sockets ()).inOrder
  whole := (held.sockets ()).whole
  oneRun := (held.sockets ()).runs
  outstanding := by
    have balance : (state.socks ()).outstandingTx + (state.pc.stage ()).pending +
        state.cq.consumer = (state.socks ()).tx.producer := by
      simpa using held.outstanding
    rw [held.umem.reapedCount, (held.sockets ()).length_submitted, balance]

theorem Invariant.betweenCalls {options : Options} {state : State Unit}
    (held : Invariant options state) (idle : state.pc = .idle) : BetweenCalls state := by
  have socket : SockInv state.nbFrags .quiet (state.socks ()) (state.history ()) := by
    have socket := held.sockets ()
    rwa [idle] at socket
  have released : (state.socks ()).rx.consumer + 0 = (state.socks ()).tx.producer := socket.released
  have peeked : (state.socks ()).rx.cached = (state.socks ()).tx.producer + 0 + state.nbFrags :=
    socket.peeked
  have reserved : (state.socks ()).tx.cached = (state.socks ()).tx.producer + 0 + state.nbFrags :=
    socket.reserved
  have balance := held.forwardsPackets.outstanding
  rw [idle] at balance
  exact
    { processed := by rw [idle]; exact peeked.symm
      complete := socket.completed
      unreleased := by omega
      unsubmitted := by omega
      openPacket := peeked ▸ socket.openFrags
      reapable := balance }

/-- Frame conservation on one socket: in every interleaving of calls, steps of
the driver and kernel moves, for every batch size and every packet shape. -/
theorem l2fwd_conserves_frames_and_packets (options : Options) (buffer : Memory)
    (moves : List (Move Unit)) :
    let state := exec options (initial options Unit buffer) moves
    ForwardsPackets options state (state.socks ()).tx.producer
        (written state.nbFrags (state.pc.stage ()) (state.socks ())) ∧
      (state.pc = .idle → BetweenCalls state) := by
  have held : Invariant options (exec options (initial options Unit buffer) moves) :=
    reachable_invariant options (Or.inl inferInstance) buffer moves
  exact ⟨held.forwardsPackets, held.betweenCalls⟩

/-! ## The first packet of a run -/

/-- The frame size of the runs below. -/
theorem pageSize_pos : 0 < 4096 := by decide

section FirstPacket

variable {Sock : Type} [DecidableEq Sock]

theorem exec_append (options : Options) (state : State Sock) (first second : List (Move Sock)) :
    exec options state (first ++ second) = exec options (exec options state first) second :=
  List.foldl_append

/-- The kernel takes the first frame and delivers a packet of 60 bytes in it. -/
def firstPacket (sock : Sock) : List (Move Sock) :=
  [.takeFill, .deliver sock 0 ⟨256, 60, 0⟩ fun _ => 0]

/-- A delivery that the kernel can make. -/
private theorem step_deliver {options : Options}
    {state : State Sock} (sock : Sock) {address : Nat} {desc : XdpDesc} (content : Nat → UInt8)
    (enabled : address ∈ state.receiving ∧
      desc.addr / options.frameSize = address / options.frameSize ∧
      desc.addr % options.frameSize + desc.len ≤ options.frameSize ∧
      (options.frags = true ∨ isEopDesc desc.options = true))
    (room : (state.socks sock).rx.producer <
      (state.socks sock).rx.consumer + (state.socks sock).rx.size) :
    (step options state (.deliver sock address desc content)).pc = state.pc ∧
      (step options state (.deliver sock address desc content)).nbFrags = state.nbFrags ∧
      (step options state (.deliver sock address desc content)).socks =
        Function.update state.socks sock
          { state.socks sock with
            rx := { (state.socks sock).rx.put (state.socks sock).rx.producer desc with
              producer := (state.socks sock).rx.producer + 1 } } := by
  simp only [step, SharedRing.offer, if_pos enabled, if_pos room]
  exact ⟨rfl, rfl, rfl⟩

theorem exec_firstPacket (options : Options) (wide : 316 ≤ options.frameSize) (buffer : Memory)
    (sock : Sock) :
    (exec options (initial options Sock buffer) (firstPacket sock)).pc = .idle ∧
      (exec options (initial options Sock buffer) (firstPacket sock)).nbFrags = 0 ∧
      (exec options (initial options Sock buffer) (firstPacket sock)).socks =
        Function.update (fun _ => freshSock) sock
          { freshSock with
            rx := { freshSock.rx.put 0 ⟨256, 60, 0⟩ with producer := 1 } } := by
  obtain ⟨-, producer, consumer, -⟩ := xskPopulateFillRing_spec options.frameSize
  have entry : (xskPopulateFillRing options.frameSize (emptyRing numFrames 0)).entry 0 = 0 :=
    (xskPopulateFillRing_entry options.frameSize numFrames_pos).trans (Nat.zero_mul _)
  have taken : ∃ fq, (initial options Sock buffer).fq.take = some (0, fq) := by
    show ∃ fq, (xskPopulateFillRing options.frameSize (emptyRing numFrames 0)).take =
      some (0, fq)
    unfold SharedRing.take
    rw [producer, consumer, if_pos numFrames_pos, entry]
    exact ⟨_, rfl⟩
  obtain ⟨fq, taken⟩ := taken
  let start : State Sock := { initial options Sock buffer with fq := fq, receiving := [0] }
  have first : step options (initial options Sock buffer) .takeFill = start := by
    simp only [step, taken]
    rfl
  have enabled : 0 ∈ [0] ∧ 256 / options.frameSize = 0 / options.frameSize ∧
      256 % options.frameSize + 60 ≤ options.frameSize ∧
      (options.frags = true ∨ isEopDesc 0 = true) := by
    have low : 256 < options.frameSize := by omega
    rw [Nat.div_eq_of_lt low, Nat.zero_div, Nat.mod_eq_of_lt low]
    exact ⟨List.mem_singleton_self 0, rfl, wide, Or.inr (by decide)⟩
  have room : freshSock.rx.producer < freshSock.rx.consumer + freshSock.rx.size := by decide
  unfold firstPacket exec
  rw [List.foldl_cons, List.foldl_cons, List.foldl_nil, first]
  exact step_deliver sock (fun _ => 0) enabled room

end FirstPacket

end UserspaceXdp.AfXdp
