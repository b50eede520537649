import UserspaceXdp.Foundation.SharedRing
import UserspaceXdp.Runtime.Context

/-!
Contract: the AF_XDP driver of `afxdp/l2fwd/xdpsock.c` in `l2fwd` mode, one
thread serving any number of sockets on one UMEM, interleaved with the kernel.

Owns: `ebpf_process_packet`, `xsk_populate_fill_ring`, `complete_tx_l2fwd` and
`l2fwd` as a machine whose steps are the single ring operations and loop bodies
of the source, and the kernel moves between the rings. The ring operations are
those that libxdp documents: `peek` and `reserve` move a private index,
`release` and `submit` a shared one, and `reserve` is all or nothing.

Does not own: the system calls that wake the kernel up and their counters, or
the other two modes of the tool. An address is an offset into the UMEM buffer
(aligned chunks, so `xsk_umem__add_offset_to_addr` is the identity).
-/

namespace UserspaceXdp.AfXdp

open UserspaceXdp.Foundation
open UserspaceXdp.Runtime

/-! ## Packets -/

/-- The switch of `ebpf_process_packet` on the verdict. -/
def forwarded (verdict : Nat) : Bool :=
  match verdict with
  | xdpDrop => false
  | xdpPass => true
  | xdpTx => true
  | xdpRedirect => true
  | _ => false

/-- The context that `ebpf_process_packet` builds. -/
def packetContext (residue : ContextResidue) (pkt len : Nat) : XdpMdUserspace :=
  { data := pkt
    dataEnd := pkt + len
    dataMeta := residue.dataMeta
    ingressIfindex := residue.ingressIfindex
    rxQueueIndex := residue.rxQueueIndex
    egressIfindex := residue.egressIfindex
    bufferStart := pkt
    bufferEnd := pkt + len }

def ebpfProcessPacket (entryProg : Option XdpProgram) (residue : ContextResidue)
    (memory : Memory) (pkt len : Nat) : Bool × Memory :=
  let outcome := ebpfModuleRunAtHandler entryProg (packetContext residue pkt len) memory 0
  (forwarded outcome.verdict, outcome.memory)

structure XdpDesc where
  addr : Nat
  len : Nat
  options : Nat
deriving DecidableEq, Repr, Inhabited

def xdpPktContd : Nat := 1

def isEopDesc (options : Nat) : Bool :=
  options &&& xdpPktContd == 0

/-- The TX descriptor that `l2fwd` writes for an RX descriptor. -/
def txDesc (desc : XdpDesc) : XdpDesc :=
  { addr := desc.addr
    len := desc.len
    options := if isEopDesc desc.options then 0 else xdpPktContd }

/-! ## Configuration -/

def xskRingProdDefaultNumDescs : Nat := 2048
def xskRingConsDefaultNumDescs : Nat := 2048

/-- Frames that `xsk_populate_fill_ring` puts into the fill ring. -/
def numFrames : Nat := xskRingProdDefaultNumDescs * 2

/-- The command line options the forwarding loop reads. Without `--frags` the
socket is not bound with `XDP_USE_SG` and the kernel delivers single-buffer
packets only. -/
structure Options where
  batchSize : Nat
  frameSize : Nat
  frags : Bool
  entryProg : Option XdpProgram
  frameSize_pos : 0 < frameSize

/-! ## State -/

structure RingStats where
  rxNpkts : Nat
  txNpkts : Nat
  rxFrags : Nat
  txFrags : Nat
deriving DecidableEq, Repr

structure XskSocketInfo where
  rx : SharedRing XdpDesc
  tx : SharedRing XdpDesc
  outstandingTx : Nat
  ringStats : RingStats

/-- A descriptor with the bytes of its frame. -/
structure Frame where
  desc : XdpDesc
  bytes : List UInt8
deriving DecidableEq, Repr, Inhabited

/-- One run of the program: the buffer with the bytes the program left in it,
and whether the packet is to be forwarded. -/
structure ProgramRun where
  frame : Frame
  forward : Bool
deriving DecidableEq, Repr

/-- What happened on a socket so far. No step reads it. -/
structure History where
  arrived : List Frame
  runs : List ProgramRun
  submitted : List Frame

/-- The locals of the descriptor loop of `l2fwd`. -/
structure ForwardLoop where
  rcvd : Nat
  i : Nat
  idxRx : Nat
  idxTx : Nat
  fragsDone : Nat
  eopCnt : Nat
deriving DecidableEq, Repr

/-- Where `complete_tx_l2fwd` returns to. -/
inductive Resume where
  | receive
  | reserve (rcvd idxRx : Nat)
deriving DecidableEq, Repr

/-- Where the driver is inside `complete_tx_l2fwd`. -/
inductive CompletePhase where
  | peek
  | reserve (rcvd idxCq : Nat)
  | copy (rcvd i idxCq idxFq : Nat)
  | submit (rcvd : Nat)
  | release (rcvd : Nat)
deriving DecidableEq, Repr

/-- Where the driver thread is. -/
inductive Pc (Sock : Type) where
  | idle
  | completing (sock : Sock) (resume : Resume) (phase : CompletePhase)
  | receive (sock : Sock)
  | reserve (sock : Sock) (rcvd idxRx : Nat)
  | forward (sock : Sock) (loop : ForwardLoop)
  | submit (sock : Sock) (loop : ForwardLoop)
  | release (sock : Sock) (loop : ForwardLoop)

def Resume.pc {Sock : Type} (sock : Sock) : Resume → Pc Sock
  | .receive => .receive sock
  | .reserve rcvd idxRx => .reserve sock rcvd idxRx

/-- The rings, the UMEM, the driver's position and the `static nb_frags`, and
the frames the kernel holds between a fill and an RX ring (`receiving`) and
between a TX and the completion ring (`sending`). The last three fields only
record what the driver did: addresses it released from the completion ring and
addresses it submitted to the fill ring after the start. -/
structure State (Sock : Type) where
  fq : SharedRing Nat
  cq : SharedRing Nat
  buffer : Memory
  socks : Sock → XskSocketInfo
  nbFrags : Nat
  pc : Pc Sock
  receiving : List Nat
  sending : List Nat
  history : Sock → History
  reaped : List Nat
  refilled : List Nat

/-! ## Start -/

def emptyRing {Entry : Type} (size : Nat) (entry : Entry) : SharedRing Entry :=
  { size := size, slots := fun _ => entry, producer := 0, consumer := 0, cached := 0 }

/-- The fill loop: entry `i` gets address `i * opt_xsk_frame_size`. -/
def populateLoop (frameSize : Nat) (ring : SharedRing Nat) : Nat → SharedRing Nat
  | 0 => ring
  | count + 1 => (populateLoop frameSize ring count).put count (count * frameSize)

def xskPopulateFillRing (frameSize : Nat) (fq : SharedRing Nat) : SharedRing Nat :=
  let reserved := (fq.reserve numFrames).2
  (populateLoop frameSize reserved numFrames).submit numFrames

/-- A socket as `xsk_configure_socket` leaves it. -/
def freshSock : XskSocketInfo :=
  { rx := emptyRing xskRingConsDefaultNumDescs default
    tx := emptyRing xskRingProdDefaultNumDescs default
    outstandingTx := 0
    ringStats := ⟨0, 0, 0, 0⟩ }

def initial (options : Options) (Sock : Type) (buffer : Memory) : State Sock :=
  { fq := xskPopulateFillRing options.frameSize (emptyRing numFrames 0)
    cq := emptyRing xskRingConsDefaultNumDescs 0
    buffer := buffer
    socks := fun _ => freshSock
    nbFrags := 0
    pc := .idle
    receiving := []
    sending := []
    history := fun _ => ⟨[], [], []⟩
    reaped := []
    refilled := [] }

/-! ## The driver thread -/

section Driver

variable {Sock : Type} [DecidableEq Sock]

/-- Replace one socket. -/
def State.setSock (state : State Sock) (sock : Sock) (info : XskSocketInfo) : State Sock :=
  { state with socks := Function.update state.socks sock info }

def State.setHistory (state : State Sock) (sock : Sock) (history : History) : State Sock :=
  { state with history := Function.update state.history sock history }

@[simp] theorem State.setSock_socks (state : State Sock) (sock : Sock) (info : XskSocketInfo) :
    (state.setSock sock info).socks sock = info := Function.update_self ..

@[simp] theorem State.setHistory_socks (state : State Sock) (sock : Sock) (history : History) :
    (state.setHistory sock history).socks = state.socks := rfl

@[simp] theorem State.setHistory_history (state : State Sock) (sock : Sock) (history : History) :
    (state.setHistory sock history).history sock = history := Function.update_self ..

/-- One step of `complete_tx_l2fwd`. `seen` bounds what a peek sees. -/
def completeStep (options : Options) (state : State Sock) (sock : Sock) (resume : Resume)
    (seen : Nat) : CompletePhase → State Sock
  | .peek =>
      let outstanding := (state.socks sock).outstandingTx
      if outstanding = 0 then { state with pc := resume.pc sock }
      else
        let ndescs := if options.batchSize < outstanding then options.batchSize else outstanding
        let peeked := state.cq.peek ndescs seen
        if peeked.1 = 0 then { state with cq := peeked.2, pc := resume.pc sock }
        else
          { state with
            cq := peeked.2
            pc := .completing sock resume (.reserve peeked.1 state.cq.cached) }
  | .reserve rcvd idxCq =>
      let reserved := state.fq.reserve rcvd
      if reserved.1 = rcvd then
        { state with
          fq := reserved.2
          pc := .completing sock resume (.copy rcvd 0 idxCq state.fq.cached) }
      else state
  | .copy rcvd i idxCq idxFq =>
      if i < rcvd then
        { state with
          fq := state.fq.put idxFq (state.cq.entry idxCq)
          pc := .completing sock resume (.copy rcvd (i + 1) (idxCq + 1) (idxFq + 1)) }
      else { state with pc := .completing sock resume (.submit rcvd) }
  | .submit rcvd =>
      { state with
        fq := state.fq.submit rcvd
        pc := .completing sock resume (.release rcvd)
        refilled := state.refilled ++
          state.fq.window state.fq.producer (state.fq.producer + rcvd) }
  | .release rcvd =>
      let info := state.socks sock
      { state.setSock sock
          { info with outstandingTx := (info.outstandingTx + 2 ^ 32 - rcvd) % 2 ^ 32 } with
        cq := state.cq.release rcvd
        pc := resume.pc sock
        reaped := state.reaped ++
          state.cq.window state.cq.consumer (state.cq.consumer + rcvd) }

/-- The body of the descriptor loop. -/
def forwardBody (options : Options) (residue : ContextResidue) (state : State Sock)
    (sock : Sock) (loop : ForwardLoop) : State Sock :=
  let info := state.socks sock
  let history := state.history sock
  let desc := info.rx.entry loop.idxRx
  let eop := isEopDesc desc.options
  -- `if (!nb_frags++)`: only the first buffer of a packet is processed.
  let processed := ebpfProcessPacket options.entryProg residue state.buffer desc.addr desc.len
  let buffer := if state.nbFrags = 0 then processed.2 else state.buffer
  let runs :=
    if state.nbFrags = 0 then
      history.runs ++ [⟨⟨desc, buffer.bytes desc.addr desc.len⟩, processed.1⟩]
    else history.runs
  let nbFrags := state.nbFrags + 1
  { (state.setSock sock { info with tx := info.tx.put loop.idxTx (txDesc desc) }).setHistory
      sock { history with runs := runs } with
    buffer := buffer
    nbFrags := if eop then 0 else nbFrags
    pc := .forward sock
      { loop with
        i := loop.i + 1
        idxRx := loop.idxRx + 1
        idxTx := loop.idxTx + 1
        fragsDone := if eop then loop.fragsDone + nbFrags else loop.fragsDone
        eopCnt := if eop then loop.eopCnt + 1 else loop.eopCnt } }

/-- One step of the driver thread inside `l2fwd`. -/
def driverStep (options : Options) (state : State Sock) (seen : Nat)
    (residue : ContextResidue) : State Sock :=
  match state.pc with
  | .idle => state
  | .completing sock resume phase => completeStep options state sock resume seen phase
  | .receive sock =>
      let info := state.socks sock
      let peeked := info.rx.peek options.batchSize seen
      if peeked.1 = 0 then { state.setSock sock { info with rx := peeked.2 } with pc := .idle }
      else
        { state.setSock sock { info with rx := peeked.2 } with
          pc := .reserve sock peeked.1 info.rx.cached }
  | .reserve sock rcvd idxRx =>
      let info := state.socks sock
      let reserved := info.tx.reserve rcvd
      if reserved.1 = rcvd then
        { state.setSock sock { info with tx := reserved.2 } with
          pc := .forward sock
            { rcvd := rcvd, i := 0, idxRx := idxRx, idxTx := info.tx.cached,
              fragsDone := 0, eopCnt := 0 } }
      else { state with pc := .completing sock (.reserve rcvd idxRx) .peek }
  | .forward sock loop =>
      if loop.i < loop.rcvd then forwardBody options residue state sock loop
      else { state with pc := .submit sock loop }
  | .submit sock loop =>
      let info := state.socks sock
      let history := state.history sock
      let frames := info.tx.window info.tx.producer (info.tx.producer + loop.fragsDone)
      { (state.setSock sock { info with tx := info.tx.submit loop.fragsDone }).setHistory sock
          { history with
            submitted := history.submitted ++
              frames.map fun desc => ⟨desc, state.buffer.bytes desc.addr desc.len⟩ } with
        pc := .release sock loop }
  | .release sock loop =>
      let info := state.socks sock
      { state.setSock sock
          { info with
            rx := info.rx.release loop.fragsDone
            outstandingTx := (info.outstandingTx + loop.fragsDone) % 2 ^ 32
            ringStats :=
              { rxNpkts := info.ringStats.rxNpkts + loop.eopCnt
                txNpkts := info.ringStats.txNpkts + loop.eopCnt
                rxFrags := info.ringStats.rxFrags + loop.rcvd
                txFrags := info.ringStats.txFrags + loop.rcvd } } with
        pc := .idle }

/-! ## Interleavings -/

/-- A choice of the scheduler: a call of `l2fwd` by the main loop, a step of the
driver thread, or a move of the kernel. -/
inductive Move (Sock : Type) where
  | call (sock : Sock)
  | driver (seen : Nat) (residue : ContextResidue)
  | takeFill
  | deliver (sock : Sock) (address : Nat) (desc : XdpDesc) (content : Nat → UInt8)
  | transmit (sock : Sock)
  | complete (address : Nat)

/-- A move that is not enabled leaves the state alone. -/
def step (options : Options) (state : State Sock) : Move Sock → State Sock
  | .call sock =>
      match state.pc with
      | .idle => { state with pc := .completing sock .receive .peek }
      | _ => state
  | .driver seen residue => driverStep options state seen residue
  | .takeFill =>
      match state.fq.take with
      | some (address, fq) => { state with fq := fq, receiving := state.receiving ++ [address] }
      | none => state
  | .deliver sock address desc content =>
      -- The kernel fills a frame it holds and stays inside its chunk.
      if address ∈ state.receiving ∧ desc.addr / options.frameSize = address / options.frameSize ∧
          desc.addr % options.frameSize + desc.len ≤ options.frameSize ∧
          (options.frags = true ∨ isEopDesc desc.options = true) then
        let info := state.socks sock
        let history := state.history sock
        match info.rx.offer desc with
        | some rx =>
            let buffer := state.buffer.copyFrom desc.addr content desc.len
            let frame := ⟨desc, buffer.bytes desc.addr desc.len⟩
            { (state.setSock sock { info with rx := rx }).setHistory sock
                { history with arrived := history.arrived ++ [frame] } with
              buffer := buffer
              receiving := state.receiving.erase address }
        | none => state
      else state
  | .transmit sock =>
      let info := state.socks sock
      match info.tx.take with
      | some (desc, tx) =>
          { state.setSock sock { info with tx := tx } with
            sending := state.sending ++ [desc.addr] }
      | none => state
  | .complete address =>
      if address ∈ state.sending then
        match state.cq.offer address with
        | some cq => { state with cq := cq, sending := state.sending.erase address }
        | none => state
      else state

/-- The state after a sequence of moves. -/
def exec (options : Options) (state : State Sock) (moves : List (Move Sock)) : State Sock :=
  moves.foldl (step options) state

end Driver

end UserspaceXdp.AfXdp
