import UserspaceXdp.AfXdp.SocketRings
import UserspaceXdp.AfXdp.UmemRings
import UserspaceXdp.Foundation.Tally

/-!
Contract: the invariant of the AF_XDP driver over every interleaving with the
kernel.

A frame is named by its chunk number. The invariant places every chunk exactly
once among the rings and the kernel, and balances `outstanding_tx` against the
TX and completion rings. It holds for one socket with packets of any number of
buffers, and for any number of sockets with single-buffer packets: only then is
the `static nb_frags` the count of one socket.

Owns: the invariant, the rule that a step on one socket preserves it, and its
preservation by each move.

Does not own: what the invariant says about a finished call.
-/

namespace UserspaceXdp.AfXdp

open UserspaceXdp.Foundation
open UserspaceXdp.Runtime

/-! ## The driver's position -/

def Resume.stage : Resume → Stage
  | .receive => .quiet
  | .reserve rcvd idxRx => .reserving rcvd idxRx

section Positions

variable {Sock : Type} [DecidableEq Sock]

/-- The stage of `l2fwd` on socket `sock`. -/
def Pc.stage (pc : Pc Sock) (sock : Sock) : Stage :=
  match pc with
  | .idle => .quiet
  | .completing active resume _ => if sock = active then resume.stage else .quiet
  | .receive _ => .quiet
  | .reserve active rcvd idxRx => if sock = active then .reserving rcvd idxRx else .quiet
  | .forward active loop => if sock = active then .forwarding loop else .quiet
  | .submit active loop => if sock = active then .submitting loop else .quiet
  | .release active loop => if sock = active then .releasing loop else .quiet

omit [DecidableEq Sock] in
/-- The phase of `complete_tx_l2fwd`; outside it nothing is peeked. -/
def Pc.phase : Pc Sock → CompletePhase
  | .completing _ _ phase => phase
  | _ => .peek

omit [DecidableEq Sock] in
/-- A call of `complete_tx_l2fwd` takes no more completions than are
outstanding on its socket. -/
def Pc.Clamped (pc : Pc Sock) (socks : Sock → XskSocketInfo) : Prop :=
  match pc with
  | .completing active _ phase => phase.peekedCount ≤ (socks active).outstandingTx
  | _ => True

@[simp] theorem Pc.stage_completing (active : Sock) (resume : Resume) (phase : CompletePhase) :
    (Pc.completing active resume phase).stage active = resume.stage := if_pos rfl

@[simp] theorem Pc.stage_reserve (active : Sock) (rcvd idxRx : Nat) :
    (Pc.reserve active rcvd idxRx).stage active = .reserving rcvd idxRx := if_pos rfl

@[simp] theorem Pc.stage_forward (active : Sock) (loop : ForwardLoop) :
    (Pc.forward active loop).stage active = .forwarding loop := if_pos rfl

@[simp] theorem Pc.stage_submit (active : Sock) (loop : ForwardLoop) :
    (Pc.submit active loop).stage active = .submitting loop := if_pos rfl

@[simp] theorem Pc.stage_release (active : Sock) (loop : ForwardLoop) :
    (Pc.release active loop).stage active = .releasing loop := if_pos rfl

theorem Pc.Clamped.update {pc : Pc Sock} {socks : Sock → XskSocketInfo} {sock : Sock}
    {info : XskSocketInfo} (clamped : pc.Clamped socks)
    (same : info.outstandingTx = (socks sock).outstandingTx) :
    pc.Clamped (Function.update socks sock info) := by
  cases pc with
  | completing active resume phase =>
      unfold Pc.Clamped at clamped ⊢
      rcases eq_or_ne active sock with rfl | different
      · simpa [same] using clamped
      · simpa [Function.update_of_ne different] using clamped
  | _ => trivial

@[simp] theorem Resume.stage_pc (resume : Resume) (active sock : Sock) :
    (resume.pc active).stage sock = if sock = active then resume.stage else .quiet := by
  cases resume <;> simp [Resume.pc, Resume.stage, Pc.stage]

omit [DecidableEq Sock] in
@[simp] theorem Resume.phase_pc (resume : Resume) (active : Sock) :
    (resume.pc active).phase = .peek := by
  cases resume <;> rfl

omit [DecidableEq Sock] in
theorem Resume.clamped_pc (resume : Resume) (active : Sock) (socks : Sock → XskSocketInfo) :
    (resume.pc active).Clamped socks := by
  cases resume <;> trivial

end Positions

/-! ## Chunks -/

/-- The chunk numbers of addresses, counted with multiplicity. -/
def chunks (options : Options) (addresses : List Nat) : Multiset Nat :=
  ↑(addresses.map (· / options.frameSize))

theorem chunks_append (options : Options) (left right : List Nat) :
    chunks options (left ++ right) = chunks options left + chunks options right := by
  simp [chunks]

theorem chunks_cons (options : Options) (head : Nat) (tail : List Nat) :
    chunks options (head :: tail) = {head / options.frameSize} + chunks options tail := by
  simp [chunks]

@[simp] theorem chunks_nil (options : Options) : chunks options [] = 0 := rfl

@[simp] theorem card_chunks (options : Options) (addresses : List Nat) :
    (chunks options addresses).card = addresses.length := by
  simp [chunks]

theorem chunks_erase (options : Options) {address : Nat} {addresses : List Nat}
    (member : address ∈ addresses) :
    chunks options addresses =
      {address / options.frameSize} + chunks options (addresses.erase address) := by
  rw [← chunks_cons]
  exact Multiset.coe_eq_coe.mpr ((List.perm_cons_erase member).map _)

/-- The chunks a socket holds: received and not submitted, submitted and not
taken by the kernel. -/
def sockChunks (options : Options) (stage : Stage) (info : XskSocketInfo) : Multiset Nat :=
  chunks options ((info.rx.window (info.rx.consumer + stage.pending) info.rx.producer).map
    XdpDesc.addr) +
  chunks options ((info.tx.window info.tx.consumer info.tx.producer).map XdpDesc.addr)

section States

variable {Sock : Type}

/-- The chunks in the fill ring, in the completion ring and with the kernel. -/
def umemChunks (options : Options) (state : State Sock) : Multiset Nat :=
  chunks options (state.fq.window state.fq.consumer state.fq.producer) +
  chunks options state.receiving + chunks options state.sending +
  chunks options (state.cq.window (state.cq.consumer + state.pc.phase.pending) state.cq.producer)

/-- What the kernel guarantees of a delivered descriptor. -/
def Delivered (options : Options) (history : History) : Prop :=
  ∀ frame ∈ history.arrived,
    frame.desc.addr % options.frameSize + frame.desc.len ≤ options.frameSize ∧
      (options.frags = true ∨ frame.ends = true)

variable [DecidableEq Sock] [Fintype Sock]

/-- Every chunk, wherever it is. -/
def allChunks (options : Options) (state : State Sock) : Multiset Nat :=
  umemChunks options state +
    ∑ sock, sockChunks options (state.pc.stage sock) (state.socks sock)

structure Invariant (options : Options) (state : State Sock) : Prop where
  sockets : ∀ sock, SockInv state.nbFrags (state.pc.stage sock) (state.socks sock)
    (state.history sock)
  delivered : ∀ sock, Delivered options (state.history sock)
  umem : UmemInv state.pc.phase state.fq state.cq state.reaped state.refilled
  conserved : allChunks options state = Multiset.range numFrames
  transmitted : ∑ sock, (state.socks sock).tx.consumer =
    state.sending.length + state.cq.producer
  outstanding : ∑ sock, ((state.socks sock).outstandingTx + (state.pc.stage sock).pending) +
    state.cq.consumer = ∑ sock, (state.socks sock).tx.producer
  clamped : state.pc.Clamped state.socks

/-! ## Steps on one socket -/

/-- A step that touches one socket at most, with its local balance. -/
structure LocalStep (options : Options) (state next : State Sock) (sock : Sock) : Prop where
  others : ∀ other, other ≠ sock → next.socks other = state.socks other ∧
    next.history other = state.history other ∧ next.pc.stage other = state.pc.stage other ∧
    next.nbFrags = state.nbFrags
  socket : SockInv next.nbFrags (next.pc.stage sock) (next.socks sock) (next.history sock)
  delivered : Delivered options (next.history sock)
  umem : UmemInv next.pc.phase next.fq next.cq next.reaped next.refilled
  conserved : umemChunks options next +
      sockChunks options (next.pc.stage sock) (next.socks sock) =
    umemChunks options state + sockChunks options (state.pc.stage sock) (state.socks sock)
  transmitted : (next.socks sock).tx.consumer + (state.sending.length + state.cq.producer) =
    (state.socks sock).tx.consumer + (next.sending.length + next.cq.producer)
  outstanding : (next.socks sock).outstandingTx + (next.pc.stage sock).pending +
      next.cq.consumer + (state.socks sock).tx.producer =
    (state.socks sock).outstandingTx + (state.pc.stage sock).pending + state.cq.consumer +
      (next.socks sock).tx.producer
  clamped : next.pc.Clamped next.socks

/-- A sum over the sockets changes by what changes at the one socket. -/
private theorem LocalStep.sum_replace {Amount : Type} [AddCommMonoid Amount] {options : Options}
    {state next : State Sock} {sock : Sock} (moved : LocalStep options state next sock)
    (amount : Stage → XskSocketInfo → Amount) :
    ∑ index, amount (next.pc.stage index) (next.socks index) +
        amount (state.pc.stage sock) (state.socks sock) =
      ∑ index, amount (state.pc.stage index) (state.socks index) +
        amount (next.pc.stage sock) (next.socks sock) := by
  apply Foundation.sum_replace (Finset.mem_univ sock)
  intro other _ different
  obtain ⟨sameSock, -, sameStage, -⟩ := moved.others other different
  rw [sameSock, sameStage]

theorem Invariant.of_localStep {options : Options} {state next : State Sock}
    (held : Invariant options state) (sock : Sock) (moved : LocalStep options state next sock) :
    Invariant options next := by
  have sameSock : ∀ other, other ≠ sock → next.socks other = state.socks other :=
    fun other different => (moved.others other different).1
  have sameHistory : ∀ other, other ≠ sock → next.history other = state.history other :=
    fun other different => (moved.others other different).2.1
  have sameStage : ∀ other, other ≠ sock → next.pc.stage other = state.pc.stage other :=
    fun other different => (moved.others other different).2.2.1
  refine
    { sockets := ?_
      delivered := ?_
      umem := moved.umem
      conserved := ?_
      transmitted := ?_
      outstanding := ?_
      clamped := moved.clamped }
  · intro other
    rcases eq_or_ne other sock with rfl | different
    · exact moved.socket
    · rw [sameSock other different, sameHistory other different, sameStage other different,
        (moved.others other different).2.2.2]
      exact held.sockets other
  · intro other
    rcases eq_or_ne other sock with rfl | different
    · exact moved.delivered
    · rw [sameHistory other different]
      exact held.delivered other
  · rw [← held.conserved]
    have replaced := moved.sum_replace (sockChunks options)
    unfold allChunks
    apply add_right_cancel (b := sockChunks options (state.pc.stage sock) (state.socks sock))
    rw [add_assoc, replaced, add_comm (∑ index, _), ← add_assoc, moved.conserved]
    abel
  · have before := held.transmitted
    have balance := moved.transmitted
    have replaced := moved.sum_replace fun _ info => info.tx.consumer
    omega
  · have before := held.outstanding
    have balance := moved.outstanding
    have replacedOutstanding := moved.sum_replace fun stage info =>
      info.outstandingTx + stage.pending
    have replacedProducer := moved.sum_replace fun _ info => info.tx.producer
    omega

/-- A step that leaves the sockets alone. -/
theorem Invariant.of_umemStep {options : Options} {state next : State Sock}
    (held : Invariant options state) (sameSocks : next.socks = state.socks)
    (sameHistory : next.history = state.history) (sameFrags : next.nbFrags = state.nbFrags)
    (sameStage : ∀ sock, next.pc.stage sock = state.pc.stage sock)
    (umem : UmemInv next.pc.phase next.fq next.cq next.reaped next.refilled)
    (conserved : umemChunks options next = umemChunks options state)
    (transmitted : next.sending.length + next.cq.producer =
      state.sending.length + state.cq.producer)
    (sameConsumer : next.cq.consumer = state.cq.consumer)
    (clamped : next.pc.Clamped next.socks) : Invariant options next where
  sockets := by
    intro sock
    rw [sameSocks, sameHistory, sameFrags, sameStage]
    exact held.sockets sock
  delivered := by
    rw [sameHistory]
    exact held.delivered
  umem := umem
  conserved := by
    rw [← held.conserved, allChunks, conserved, sameSocks]
    simp only [sameStage, allChunks]
  transmitted := by
    rw [sameSocks, transmitted, held.transmitted]
  outstanding := by
    simp only [sameSocks, sameStage, sameConsumer]
    exact held.outstanding
  clamped := clamped

/-- A step of `l2fwd` on the socket it serves. -/
theorem Invariant.of_sockStep {options : Options} {state : State Sock} {pc : Pc Sock}
    (held : Invariant options { state with pc := pc }) (active : Sock) (next : Pc Sock)
    (info : XskSocketInfo) (history : History) (nbFrags : Nat) (buffer : Memory)
    (others : ∀ other, other ≠ active → next.stage other = pc.stage other ∧
      nbFrags = state.nbFrags)
    (samePhase : next.phase = pc.phase)
    (socket : SockInv nbFrags (next.stage active) info history)
    (sameArrived : history.arrived = (state.history active).arrived)
    (conserved : sockChunks options (next.stage active) info =
      sockChunks options (pc.stage active) (state.socks active))
    (sameConsumer : info.tx.consumer = (state.socks active).tx.consumer)
    (outstanding : info.outstandingTx + (next.stage active).pending +
        (state.socks active).tx.producer =
      (state.socks active).outstandingTx + (pc.stage active).pending + info.tx.producer)
    (clamped : next.Clamped (Function.update state.socks active info)) :
    Invariant options
      { (state.setSock active info).setHistory active history with
        pc := next, nbFrags := nbFrags, buffer := buffer } := by
  have current : Function.update state.socks active info active = info := Function.update_self ..
  have currentHistory : Function.update state.history active history active = history :=
    Function.update_self ..
  have moved : LocalStep options { state with pc := pc }
      { (state.setSock active info).setHistory active history with
        pc := next, nbFrags := nbFrags, buffer := buffer } active := by
    refine
      { others := ?_
        socket := ?_
        delivered := ?_
        umem := ?_
        conserved := ?_
        transmitted := ?_
        outstanding := ?_
        clamped := clamped }
    all_goals simp only [State.setSock, State.setHistory, current, currentHistory]
    · intro other different
      obtain ⟨sameStage, sameFrags⟩ := others other different
      exact ⟨Function.update_of_ne different .., Function.update_of_ne different .., sameStage,
        sameFrags⟩
    · exact socket
    · unfold Delivered
      rw [sameArrived]
      exact held.delivered active
    · rw [samePhase]
      exact held.umem
    · unfold umemChunks
      simp only [samePhase, conserved]
    · rw [sameConsumer]
    · omega
  exact held.of_localStep active moved

/-! ## `complete_tx_l2fwd` -/

section Complete

variable {options : Options} {state : State Sock} {active : Sock} {resume : Resume}

/-- The call is over and the driver goes on where it was. -/
private theorem Invariant.resumed
    (held : Invariant options { state with pc := .completing active resume .peek }) :
    Invariant options { state with pc := resume.pc active } := by
  refine held.of_umemStep rfl rfl rfl (resume.stage_pc active) ?_ ?_ rfl rfl
    (resume.clamped_pc active state.socks)
  · rw [resume.phase_pc]
    exact held.umem
  · unfold umemChunks
    rw [resume.phase_pc]
    rfl

private theorem Invariant.peek
    (held : Invariant options { state with pc := .completing active resume .peek }) (seen : Nat) :
    Invariant options (completeStep options
      { state with pc := .completing active resume .peek } active resume seen .peek) := by
  simp only [completeStep]
  split
  · exact held.resumed
  · generalize limit_eq : (if options.batchSize < (state.socks active).outstandingTx
      then options.batchSize else (state.socks active).outstandingTx) = limit
    have limit_le : limit ≤ (state.socks active).outstandingTx := by
      rw [← limit_eq]
      split <;> omega
    split
    · rename_i nothing
      rw [SharedRing.peek_of_zero nothing]
      exact held.resumed
    · have umem : UmemInv .peek state.fq state.cq state.reaped state.refilled := held.umem
      refine held.of_umemStep rfl rfl rfl (fun _ => rfl) ?_ rfl rfl rfl ?_
      · exact umem.peek (SharedRing.peek_available limit seen umem.consuming.available)
      · exact Nat.le_trans (state.cq.peek_le limit seen) limit_le

private theorem Invariant.reserveFill {rcvd idxCq : Nat} (held : Invariant options
      { state with pc := .completing active resume (.reserve rcvd idxCq) }) (seen : Nat) :
    Invariant options (completeStep options
      { state with pc := .completing active resume (.reserve rcvd idxCq) } active resume seen
      (.reserve rcvd idxCq)) := by
  have umem : UmemInv (.reserve rcvd idxCq) state.fq state.cq state.reaped state.refilled :=
    held.umem
  simp only [completeStep]
  rcases state.fq.reserve_cases rcvd with ⟨fits, reserved⟩ | ⟨full, reserved⟩
  · simp only [reserved, if_true]
    refine held.of_umemStep rfl rfl rfl (fun _ => rfl) ?_ rfl rfl rfl held.clamped
    exact umem.reserve fits
  · simp only [reserved]
    split
    · rename_i nothing
      subst nothing
      have bounded := umem.producing.bounded
      omega
    · exact held

private theorem Invariant.copyFill {rcvd i idxCq idxFq : Nat} (held : Invariant options
      { state with pc := .completing active resume (.copy rcvd i idxCq idxFq) }) (seen : Nat) :
    Invariant options (completeStep options
      { state with pc := .completing active resume (.copy rcvd i idxCq idxFq) } active resume seen
      (.copy rcvd i idxCq idxFq)) := by
  have umem : UmemInv (.copy rcvd i idxCq idxFq) state.fq state.cq state.reaped state.refilled :=
    held.umem
  simp only [completeStep]
  split
  · rename_i unfinished
    refine held.of_umemStep rfl rfl rfl (fun _ => rfl) (umem.copy unfinished) ?_ rfl rfl
      held.clamped
    -- The slot is reserved: it lies after the published ones.
    have atFq : idxFq = state.fq.producer + i := umem.aligned.2.1
    have reserved : state.fq.cached = state.fq.producer + rcvd := umem.reserved
    have bounded := umem.producing.bounded
    have published := umem.producing.published
    have kept : (state.fq.put idxFq (state.cq.entry idxCq)).window state.fq.consumer
        state.fq.producer = state.fq.window state.fq.consumer state.fq.producer :=
      state.fq.window_put (by omega) (by omega) (by omega)
    unfold umemChunks
    simp only [SharedRing.put_consumer, SharedRing.put_producer, kept]
    rfl
  · rename_i finished
    exact held.of_umemStep rfl rfl rfl (fun _ => rfl) (umem.exit finished) rfl rfl rfl
      held.clamped

private theorem Invariant.submitFill {rcvd : Nat} (held : Invariant options
      { state with pc := .completing active resume (.submit rcvd) }) (seen : Nat) :
    Invariant options (completeStep options
      { state with pc := .completing active resume (.submit rcvd) } active resume seen
      (.submit rcvd)) := by
  have umem : UmemInv (.submit rcvd) state.fq state.cq state.reaped state.refilled := held.umem
  have published := umem.producing.published
  have available := umem.consuming.available
  have peeked : state.cq.cached = state.cq.consumer + rcvd := umem.peeked
  simp only [completeStep]
  refine held.of_umemStep rfl rfl rfl (fun _ => rfl) umem.submit ?_ rfl rfl held.clamped
  -- The frames change over from the completion ring to the fill ring.
  have fill : state.fq.window state.fq.consumer (state.fq.producer + rcvd) =
      state.fq.window state.fq.consumer state.fq.producer ++
        state.cq.window state.cq.consumer (state.cq.consumer + rcvd) := by
    rw [← umem.submitting_window]
    exact state.fq.window_append published (Nat.le_add_right _ _)
  have completion : state.cq.window state.cq.consumer state.cq.producer =
      state.cq.window state.cq.consumer (state.cq.consumer + rcvd) ++
        state.cq.window (state.cq.consumer + rcvd) state.cq.producer :=
    state.cq.window_append (Nat.le_add_right _ _) (by omega)
  change chunks options (state.fq.window state.fq.consumer (state.fq.producer + rcvd)) +
      chunks options state.receiving + chunks options state.sending +
      chunks options (state.cq.window (state.cq.consumer + rcvd) state.cq.producer) =
    chunks options (state.fq.window state.fq.consumer state.fq.producer) +
      chunks options state.receiving + chunks options state.sending +
      chunks options (state.cq.window state.cq.consumer state.cq.producer)
  rw [fill, completion, chunks_append, chunks_append]
  abel

/-- No more descriptors wait in the TX rings, with the kernel and in the
completion ring than there are chunks. -/
private theorem Invariant.waiting_le (held : Invariant options state) :
    ∑ sock, (state.socks sock).tx.producer + state.sending.length + state.cq.producer ≤
      numFrames + ∑ sock, (state.socks sock).tx.consumer + state.cq.consumer +
        state.pc.phase.pending := by
  have counted : ∑ sock, ((state.socks sock).tx.producer - (state.socks sock).tx.consumer) +
      state.sending.length + (state.cq.producer - (state.cq.consumer + state.pc.phase.pending)) ≤
        numFrames := by
    have total := congrArg Multiset.card held.conserved
    rw [Multiset.card_range] at total
    simp only [allChunks, umemChunks, sockChunks, Multiset.card_add, card_chunks,
      Multiset.card_sum, List.length_map, SharedRing.length_window, Finset.sum_add_distrib] at total
    omega
  have split : ∑ sock, (state.socks sock).tx.producer ≤
      ∑ sock, (state.socks sock).tx.consumer +
        ∑ sock, ((state.socks sock).tx.producer - (state.socks sock).tx.consumer) := by
    rw [← Finset.sum_add_distrib]
    apply Finset.sum_le_sum
    intro sock _
    omega
  omega

/-- The counters stay far below the wrap-around of `u32`. -/
theorem Invariant.outstanding_le (held : Invariant options state) (sock : Sock) :
    (state.socks sock).outstandingTx + (state.pc.stage sock).pending ≤
      numFrames + xskRingConsDefaultNumDescs := by
  have balance := held.outstanding
  have transmitted := held.transmitted
  have waiting := held.waiting_le
  have pending : state.pc.phase.pending ≤ xskRingConsDefaultNumDescs := by
    rw [← held.umem.cqSize]
    exact state.pc.phase.pending_le.trans held.umem.peekedCount_le
  have single : (state.socks sock).outstandingTx + (state.pc.stage sock).pending ≤
      ∑ index, ((state.socks index).outstandingTx + (state.pc.stage index).pending) :=
    Finset.single_le_sum (f := fun index =>
      (state.socks index).outstandingTx + (state.pc.stage index).pending)
      (fun _ _ => Nat.zero_le _) (Finset.mem_univ sock)
  omega

theorem Invariant.outstanding_lt (held : Invariant options state) (sock : Sock) :
    (state.socks sock).outstandingTx + (state.pc.stage sock).pending < 2 ^ 32 :=
  Nat.lt_of_le_of_lt (held.outstanding_le sock) (by decide)

private theorem Invariant.releaseFill {rcvd : Nat} (held : Invariant options
      { state with pc := .completing active resume (.release rcvd) }) (seen : Nat) :
    Invariant options (completeStep options
      { state with pc := .completing active resume (.release rcvd) } active resume seen
      (.release rcvd)) := by
  have umem : UmemInv (.release rcvd) state.fq state.cq state.reaped state.refilled := held.umem
  have clamped : rcvd ≤ (state.socks active).outstandingTx := held.clamped
  have bound : (state.socks active).outstandingTx < 2 ^ 32 :=
    Nat.lt_of_le_of_lt (Nat.le_add_right _ _) (held.outstanding_lt active)
  have decremented : ((state.socks active).outstandingTx + 2 ^ 32 - rcvd) % 2 ^ 32 =
      (state.socks active).outstandingTx - rcvd := by omega
  have socket : SockInv state.nbFrags resume.stage (state.socks active) (state.history active) :=
    Pc.stage_completing active resume (.release rcvd) ▸ held.sockets active
  simp only [completeStep, decremented]
  apply held.of_localStep active
  have current := Function.update_self active
    { state.socks active with outstandingTx := (state.socks active).outstandingTx - rcvd }
    state.socks
  refine
    { others := ?_
      socket := ?_
      delivered := held.delivered active
      umem := ?_
      conserved := ?_
      transmitted := ?_
      outstanding := ?_
      clamped := resume.clamped_pc active _ }
  all_goals simp only [State.setSock, current, Resume.stage_pc, Resume.phase_pc, ↓reduceIte,
    Pc.stage_completing]
  · intro other different
    simp [Function.update_of_ne different, Pc.stage]
  · exact socket.counters _ _
  · exact umem.release
  · unfold umemChunks
    simp only [Resume.phase_pc]
    rfl
  · rfl
  · change _ + (state.cq.consumer + rcvd) + _ = _
    omega

end Complete

/-! ## `l2fwd` -/

section Forward

variable {options : Options} {state : State Sock} {active : Sock}

omit [Fintype Sock] in
theorem State.setSock_self (state : State Sock) (sock : Sock) :
    state.setSock sock (state.socks sock) = state := by
  simp [State.setSock]

omit [Fintype Sock] in
theorem State.setHistory_self (state : State Sock) (sock : Sock) :
    state.setHistory sock (state.history sock) = state := by
  simp [State.setHistory]

/-- A step of `l2fwd` that leaves the history alone. -/
private theorem Invariant.of_infoStep {pc : Pc Sock}
    (held : Invariant options { state with pc := pc }) (active : Sock) (next : Pc Sock)
    (info : XskSocketInfo)
    (others : ∀ other, other ≠ active → next.stage other = pc.stage other)
    (samePhase : next.phase = pc.phase)
    (socket : SockInv state.nbFrags (next.stage active) info (state.history active))
    (conserved : sockChunks options (next.stage active) info =
      sockChunks options (pc.stage active) (state.socks active))
    (sameConsumer : info.tx.consumer = (state.socks active).tx.consumer)
    (outstanding : info.outstandingTx + (next.stage active).pending +
        (state.socks active).tx.producer =
      (state.socks active).outstandingTx + (pc.stage active).pending + info.tx.producer)
    (clamped : next.Clamped (Function.update state.socks active info)) :
    Invariant options { state.setSock active info with pc := next } := by
  have moved := held.of_sockStep active next info (state.history active) state.nbFrags state.buffer
    (fun other different => ⟨others other different, rfl⟩) samePhase socket rfl conserved
    sameConsumer outstanding clamped
  have unchanged := (state.setSock active info).setHistory_self active
  exact unchanged ▸ moved

/-- A step of `l2fwd` that moves private indices only. -/
private theorem Invariant.of_ringStep {pc : Pc Sock}
    (held : Invariant options { state with pc := pc }) (active : Sock) (next : Pc Sock)
    (rx tx : SharedRing XdpDesc)
    (others : ∀ other, other ≠ active → next.stage other = pc.stage other)
    (samePhase : next.phase = pc.phase)
    (samePending : (next.stage active).pending = (pc.stage active).pending)
    (socket : SockInv state.nbFrags (next.stage active)
      { state.socks active with rx := rx, tx := tx } (state.history active))
    (sameRx : ∀ index, rx.entry index = (state.socks active).rx.entry index)
    (sameTx : ∀ index, tx.entry index = (state.socks active).tx.entry index)
    (rxIndices : rx.producer = (state.socks active).rx.producer ∧
      rx.consumer = (state.socks active).rx.consumer)
    (txIndices : tx.producer = (state.socks active).tx.producer ∧
      tx.consumer = (state.socks active).tx.consumer)
    (clamped : ∀ socks, next.Clamped socks) :
    Invariant options
      { state.setSock active { state.socks active with rx := rx, tx := tx } with pc := next } := by
  refine held.of_infoStep active next _ others samePhase socket ?_ txIndices.2 ?_ (clamped _)
  · unfold sockChunks
    simp only [samePending, rxIndices, txIndices]
    rw [SharedRing.window_congr fun index _ _ => sameRx index,
      SharedRing.window_congr fun index _ _ => sameTx index]
  · simp only [samePending, txIndices]

private theorem Invariant.receive (held : Invariant options { state with pc := .receive active })
    (seen : Nat) (residue : ContextResidue) :
    Invariant options (driverStep options { state with pc := .receive active } seen residue) := by
  have socket : SockInv state.nbFrags .quiet (state.socks active) (state.history active) :=
    held.sockets active
  simp only [driverStep]
  split
  · rename_i nothing
    rw [SharedRing.peek_of_zero nothing]
    exact held.of_ringStep active .idle (state.socks active).rx (state.socks active).tx
      (fun _ _ => rfl) rfl rfl socket (fun _ => rfl) (fun _ => rfl) ⟨rfl, rfl⟩ ⟨rfl, rfl⟩
      fun _ => trivial
  · refine held.of_ringStep active (.reserve active _ _) _ (state.socks active).tx
      (fun other different => if_neg different) rfl ?_ ?_ (fun _ => rfl) (fun _ => rfl)
      ⟨rfl, rfl⟩ ⟨rfl, rfl⟩ fun _ => trivial
    · simp [Pc.stage, Stage.pending]
    · simp only [Pc.stage, ↓reduceIte]
      exact socket.receive
        (SharedRing.peek_available options.batchSize seen socket.consuming.available)

private theorem Invariant.reserve {rcvd idxRx : Nat}
    (held : Invariant options { state with pc := .reserve active rcvd idxRx }) (seen : Nat)
    (residue : ContextResidue) :
    Invariant options
      (driverStep options { state with pc := .reserve active rcvd idxRx } seen residue) := by
  have socket : SockInv state.nbFrags (.reserving rcvd idxRx) (state.socks active)
      (state.history active) := Pc.stage_reserve active rcvd idxRx ▸ held.sockets active
  simp only [driverStep]
  rcases (state.socks active).tx.reserve_cases rcvd with ⟨fits, reserved⟩ | ⟨full, reserved⟩
  · simp only [reserved, if_true]
    refine held.of_ringStep active (.forward active _) (state.socks active).rx _
      (fun other different => ?_) rfl ?_ ?_ (fun _ => rfl) (fun _ => rfl) ⟨rfl, rfl⟩ ⟨rfl, rfl⟩
      fun _ => trivial
    · simp [Pc.stage, different]
    · simp [Pc.stage, Stage.pending]
    · simp only [Pc.stage, ↓reduceIte]
      exact socket.reserve fits
  · simp only [reserved]
    split
    · rename_i nothing
      subst nothing
      have bounded := socket.producing.bounded
      omega
    · exact held.of_umemStep rfl rfl rfl (fun _ => rfl) held.umem rfl rfl rfl (Nat.zero_le _)

omit [Fintype Sock] in
/-- The body of the descriptor loop, where `nb_frags` is the socket's own count. -/
theorem SockInv.forwardBody {loop : ForwardLoop}
    (socket : SockInv state.nbFrags (.forwarding loop) (state.socks active)
      (state.history active))
    (unfinished : loop.i < loop.rcvd) (options : Options) (residue : ContextResidue) :
    let next := AfXdp.forwardBody options residue state active loop
    SockInv next.nbFrags (next.pc.stage active) (next.socks active) (next.history active) := by
  let desc := (state.socks active).rx.entry loop.idxRx
  let processed := ebpfProcessPacket options.entryProg residue state.buffer desc.addr desc.len
  let buffer := if state.nbFrags = 0 then processed.2 else state.buffer
  let runs :=
    if state.nbFrags = 0 then
      (state.history active).runs ++ [⟨⟨desc, buffer.bytes desc.addr desc.len⟩, processed.1⟩]
    else (state.history active).runs
  have processedDescs : runs.map (fun run => run.frame.desc) =
      (state.history active).runs.map (fun run => run.frame.desc) ++
        if state.nbFrags = 0 then [desc] else [] := by
    simp only [runs]
    split <;> simp
  have next := socket.forward unfinished (rfl : desc = (state.socks active).rx.entry loop.idxRx)
    processedDescs
  simp only [AfXdp.forwardBody, Pc.stage_forward, State.setHistory_socks, State.setSock_socks,
    State.setHistory_history]
  exact next

/-- The body of the descriptor loop. The other sockets are not affected by
`nb_frags`: either there are none, or it stays zero. -/
private theorem Invariant.forwardBody {loop : ForwardLoop}
    (alone : Subsingleton Sock ∨ options.frags = false)
    (held : Invariant options { state with pc := .forward active loop })
    (unfinished : loop.i < loop.rcvd) (residue : ContextResidue) :
    Invariant options
      (forwardBody options residue { state with pc := .forward active loop } active loop) := by
  have socket : SockInv state.nbFrags (.forwarding loop) (state.socks active)
      (state.history active) := Pc.stage_forward active loop ▸ held.sockets active
  have next := socket.forwardBody unfinished options residue
  simp only [AfXdp.forwardBody, Pc.stage_forward, State.setHistory_socks, State.setSock_socks,
    State.setHistory_history] at next
  let desc := (state.socks active).rx.entry loop.idxRx
  unfold AfXdp.forwardBody
  refine held.of_sockStep active (.forward active _) _ _ _ _ ?_ rfl ?_ rfl ?_ rfl ?_ trivial
  · intro other different
    refine ⟨?_, ?_⟩
    · simp [Pc.stage, different]
    · rcases alone with single | noFrags
      · exact absurd (single.elim other active) different
      · have allEnd : ∀ frame ∈ (state.history active).arrived, frame.ends = true := by
          intro frame member
          exact (held.delivered active frame member).2.resolve_left (by simp [noFrags])
        exact (next.nbFrags_eq_zero allEnd).trans (socket.nbFrags_eq_zero allEnd).symm
  · simp only [Pc.stage, ↓reduceIte]
    exact next
  · -- The slot is reserved: it lies after the published ones.
    have atTx : loop.idxTx = (state.socks active).tx.producer + loop.fragsDone + state.nbFrags :=
      socket.aligned.2.1
    have reserved : (state.socks active).tx.cached =
        (state.socks active).tx.producer + loop.fragsDone + state.nbFrags +
          (loop.rcvd - loop.i) := socket.reserved
    have bounded := socket.producing.bounded
    have published := socket.producing.published
    have kept : ((state.socks active).tx.put loop.idxTx (txDesc desc)).window
          (state.socks active).tx.consumer (state.socks active).tx.producer =
        (state.socks active).tx.window (state.socks active).tx.consumer
          (state.socks active).tx.producer :=
      (state.socks active).tx.window_put (by omega) (by omega) (by omega)
    simp only [Pc.stage, ↓reduceIte, sockChunks, Stage.pending, SharedRing.put_consumer,
      SharedRing.put_producer]
    rw [kept]
  · simp [Pc.stage, Stage.pending]

private theorem Invariant.forward {loop : ForwardLoop}
    (alone : Subsingleton Sock ∨ options.frags = false)
    (held : Invariant options { state with pc := .forward active loop }) (seen : Nat)
    (residue : ContextResidue) :
    Invariant options
      (driverStep options { state with pc := .forward active loop } seen residue) := by
  simp only [driverStep]
  split
  · rename_i unfinished
    exact held.forwardBody alone unfinished residue
  · rename_i finished
    have socket : SockInv state.nbFrags (.forwarding loop) (state.socks active)
        (state.history active) := Pc.stage_forward active loop ▸ held.sockets active
    have moved := held.of_ringStep active (.submit active loop) (state.socks active).rx
      (state.socks active).tx (fun other different => by simp [Pc.stage, different]) rfl
      (by simp [Pc.stage, Stage.pending]) (by simpa [Pc.stage] using socket.exit finished)
      (fun _ => rfl) (fun _ => rfl) ⟨rfl, rfl⟩ ⟨rfl, rfl⟩ fun _ => trivial
    rwa [State.setSock_self] at moved

private theorem Invariant.submit {loop : ForwardLoop}
    (held : Invariant options { state with pc := .submit active loop }) (seen : Nat)
    (residue : ContextResidue) :
    Invariant options
      (driverStep options { state with pc := .submit active loop } seen residue) := by
  have socket : SockInv state.nbFrags (.submitting loop) (state.socks active)
      (state.history active) := Pc.stage_submit active loop ▸ held.sockets active
  have released : (state.socks active).rx.consumer + 0 = (state.socks active).tx.producer :=
    socket.released
  have peeked : (state.socks active).rx.cached =
      (state.socks active).tx.producer + loop.fragsDone + state.nbFrags + 0 := socket.peeked
  have available := socket.consuming.available
  have published := socket.producing.published
  simp only [driverStep]
  refine held.of_sockStep active (.release active loop) _ _ _ _ ?_ rfl ?_ rfl ?_ rfl ?_ trivial
  · intro other different
    exact ⟨by simp [Pc.stage, different], rfl⟩
  · simp only [Pc.stage, ↓reduceIte]
    exact socket.submit _ (by simp [Function.comp_def])
  · -- The frames change over from the RX ring to the TX ring.
    have receive : (state.socks active).rx.window (state.socks active).rx.consumer
          (state.socks active).rx.producer =
        (state.socks active).rx.window (state.socks active).rx.consumer
            ((state.socks active).rx.consumer + loop.fragsDone) ++
          (state.socks active).rx.window ((state.socks active).rx.consumer + loop.fragsDone)
            (state.socks active).rx.producer :=
      SharedRing.window_append _ (Nat.le_add_right _ _) (by omega)
    have transmit : (state.socks active).tx.window (state.socks active).tx.consumer
          ((state.socks active).tx.producer + loop.fragsDone) =
        (state.socks active).tx.window (state.socks active).tx.consumer
            (state.socks active).tx.producer ++
          (state.socks active).tx.window (state.socks active).tx.producer
            ((state.socks active).tx.producer + loop.fragsDone) :=
      SharedRing.window_append _ published (Nat.le_add_right _ _)
    simp only [Pc.stage, ↓reduceIte, sockChunks, Stage.pending, Nat.add_zero]
    rw [receive, List.map_append, chunks_append]
    change _ + chunks options (((state.socks active).tx.window (state.socks active).tx.consumer
      ((state.socks active).tx.producer + loop.fragsDone)).map XdpDesc.addr) = _
    rw [transmit, List.map_append, chunks_append, socket.submitting_addresses]
    abel
  · simp only [Pc.stage, ↓reduceIte, Stage.pending, SharedRing.submit]
    omega

private theorem Invariant.release {loop : ForwardLoop}
    (held : Invariant options { state with pc := .release active loop }) (seen : Nat)
    (residue : ContextResidue) :
    Invariant options
      (driverStep options { state with pc := .release active loop } seen residue) := by
  have socket : SockInv state.nbFrags (.releasing loop) (state.socks active)
      (state.history active) := Pc.stage_release active loop ▸ held.sockets active
  have bound : (state.socks active).outstandingTx + loop.fragsDone < 2 ^ 32 := by
    have small := held.outstanding_lt active
    simpa only [Pc.stage_release, Stage.pending] using small
  simp only [driverStep, Nat.mod_eq_of_lt bound]
  refine held.of_infoStep active .idle _ (fun other different => ?_) rfl
    (socket.release.counters _ _) ?_ rfl ?_ trivial
  · simp [Pc.stage, different]
  · rw [Pc.stage_release]
    rfl
  · rw [Pc.stage_release]
    rfl

theorem Invariant.driverStep (alone : Subsingleton Sock ∨ options.frags = false)
    (held : Invariant options state) (seen : Nat) (residue : ContextResidue) :
    Invariant options (driverStep options state seen residue) := by
  have located : ∀ pc, state.pc = pc → { state with pc := pc } = state := by
    intro pc position
    rw [← position]
  cases position : state.pc with
  | idle =>
      rw [← located _ position] at held ⊢
      exact held
  | completing active resume phase =>
      rw [← located _ position] at held ⊢
      cases phase with
      | peek => exact held.peek seen
      | reserve rcvd idxCq => exact held.reserveFill seen
      | copy rcvd i idxCq idxFq => exact held.copyFill seen
      | submit rcvd => exact held.submitFill seen
      | release rcvd => exact held.releaseFill seen
  | receive active =>
      rw [← located _ position] at held ⊢
      exact held.receive seen residue
  | reserve active rcvd idxRx =>
      rw [← located _ position] at held ⊢
      exact held.reserve seen residue
  | forward active loop =>
      rw [← located _ position] at held ⊢
      exact held.forward alone seen residue
  | submit active loop =>
      rw [← located _ position] at held ⊢
      exact held.submit seen residue
  | release active loop =>
      rw [← located _ position] at held ⊢
      exact held.release seen residue

end Forward

/-! ## The kernel -/

section Kernel

variable {options : Options} {state : State Sock}

private theorem Invariant.takeFill (held : Invariant options state) :
    Invariant options (step options state .takeFill) := by
  simp only [step, SharedRing.take]
  split
  · rename_i address fq taken
    split at taken
    · rename_i published
      simp only [Option.some.injEq, Prod.mk.injEq] at taken
      obtain ⟨rfl, rfl⟩ := taken
      refine held.of_umemStep rfl rfl rfl (fun _ => rfl) (held.umem.takeFill published) ?_ rfl rfl
        held.clamped
      have first := state.fq.window_cons published
      unfold umemChunks
      rw [first, chunks_append, chunks_cons, chunks_cons, chunks_nil]
      change chunks options (state.fq.window (state.fq.consumer + 1) state.fq.producer) + _ + _ + _ =
        _
      abel
    · cases taken
  · exact held

private theorem Invariant.complete (held : Invariant options state) (address : Nat) :
    Invariant options (step options state (.complete address)) := by
  simp only [step, SharedRing.offer]
  split
  · rename_i member
    split
    · rename_i cq offered
      split at offered
      · rename_i room
        cases offered
        have umem := held.umem
        have available := umem.consuming.available
        have peeked := umem.peeked
        have pending := state.pc.phase.pending_le
        refine held.of_umemStep rfl rfl rfl (fun _ => rfl) (umem.complete address room) ?_ ?_ rfl
          held.clamped
        · have kept : (state.cq.put state.cq.producer address).window
              (state.cq.consumer + state.pc.phase.pending) (state.cq.producer + 1) =
              state.cq.window (state.cq.consumer + state.pc.phase.pending) state.cq.producer ++
                [address] := by
            rw [SharedRing.window_succ _ (by omega), SharedRing.entry_put_same,
              state.cq.window_put (by omega) (by omega) (by omega)]
          unfold umemChunks
          rw [chunks_erase options member]
          change _ + _ + _ + chunks options ((state.cq.put state.cq.producer address).window
            (state.cq.consumer + state.pc.phase.pending) (state.cq.producer + 1)) = _
          rw [kept, chunks_append, chunks_cons, chunks_nil]
          abel
        · have length := List.length_erase_of_mem member
          have positive := List.length_pos_of_mem member
          change (state.sending.erase address).length + (state.cq.producer + 1) = _
          omega
      · cases offered
    · exact held
  · exact held

/-- A move of the kernel between one socket and the frames it holds. -/
private theorem Invariant.of_kernelStep (held : Invariant options state) (sock : Sock)
    (info : XskSocketInfo) (history : History) (receiving sending : List Nat) (buffer : Memory)
    (socket : SockInv state.nbFrags (state.pc.stage sock) info history)
    (delivered : Delivered options history)
    (conserved : chunks options receiving + chunks options sending +
        sockChunks options (state.pc.stage sock) info =
      chunks options state.receiving + chunks options state.sending +
        sockChunks options (state.pc.stage sock) (state.socks sock))
    (transmitted : info.tx.consumer + state.sending.length =
      (state.socks sock).tx.consumer + sending.length)
    (sameOutstanding : info.outstandingTx = (state.socks sock).outstandingTx)
    (sameProducer : info.tx.producer = (state.socks sock).tx.producer) :
    Invariant options
      { (state.setSock sock info).setHistory sock history with
        receiving := receiving, sending := sending, buffer := buffer } := by
  have current : Function.update state.socks sock info sock = info := Function.update_self ..
  have currentHistory : Function.update state.history sock history sock = history :=
    Function.update_self ..
  apply held.of_localStep sock
  refine
    { others := ?_
      socket := ?_
      delivered := ?_
      umem := held.umem
      conserved := ?_
      transmitted := ?_
      outstanding := ?_
      clamped := held.clamped.update sameOutstanding }
  all_goals simp only [State.setSock, State.setHistory, current, currentHistory]
  · intro other different
    simp [Function.update_of_ne different]
  · exact socket
  · exact delivered
  · unfold umemChunks
    simp only
    generalize chunks options (state.fq.window _ _) = fill
    generalize chunks options (state.cq.window _ _) = completion
    have regroup : ∀ held sent kept : Multiset Nat,
        fill + held + sent + completion + kept = fill + completion + (held + sent + kept) := by
      intro held sent kept
      abel
    rw [regroup, regroup, conserved]
  · omega
  · rw [sameOutstanding, sameProducer]

private theorem Invariant.transmit (held : Invariant options state) (sock : Sock) :
    Invariant options (step options state (.transmit sock)) := by
  simp only [step, SharedRing.take]
  split
  · rename_i desc tx taken
    split at taken
    · rename_i published
      simp only [Option.some.injEq, Prod.mk.injEq] at taken
      obtain ⟨rfl, rfl⟩ := taken
      have first := (state.socks sock).tx.window_cons published
      have moved := held.of_kernelStep sock _ (state.history sock) state.receiving
        (state.sending ++ [((state.socks sock).tx.entry (state.socks sock).tx.consumer).addr])
        state.buffer ((held.sockets sock).transmit published) (held.delivered sock) ?_ ?_ rfl rfl
      · have unchanged := (state.setSock sock { state.socks sock with
          tx := { (state.socks sock).tx with
            consumer := (state.socks sock).tx.consumer + 1 } }).setHistory_self sock
        exact unchanged ▸ moved
      · unfold sockChunks
        rw [first, List.map_cons, chunks_cons, chunks_append, chunks_cons, chunks_nil]
        change _ + _ + (_ + chunks options (((state.socks sock).tx.window
          ((state.socks sock).tx.consumer + 1) (state.socks sock).tx.producer).map XdpDesc.addr)) =
          _
        abel
      · simp only [List.length_append, List.length_singleton]
        omega
    · cases taken
  · exact held

private theorem Invariant.deliver (held : Invariant options state) (sock : Sock) (address : Nat)
    (desc : XdpDesc) (content : Nat → UInt8) :
    Invariant options (step options state (.deliver sock address desc content)) := by
  simp only [step, SharedRing.offer]
  split
  · rename_i enabled
    obtain ⟨member, sameChunk, inside, buffers⟩ := enabled
    split
    · rename_i rx offered
      split at offered
      · rename_i room
        cases offered
        have socket := held.sockets sock
        have peeked := socket.consuming.peeked
        have available := socket.consuming.available
        refine held.of_kernelStep sock _ _ _ state.sending _ (socket.deliver ⟨desc, _⟩ room) ?_ ?_
          rfl rfl rfl
        · intro frame present
          rcases List.mem_append.mp present with old | new
          · exact held.delivered sock frame old
          · rw [List.mem_singleton] at new
            subst new
            exact ⟨inside, buffers⟩
        · have start : (state.socks sock).rx.consumer + (state.pc.stage sock).pending ≤
              (state.socks sock).rx.cached := by
            have released := socket.released
            have cached := socket.peeked
            unfold written at cached
            omega
          have kept : ((state.socks sock).rx.put (state.socks sock).rx.producer desc).window
              ((state.socks sock).rx.consumer + (state.pc.stage sock).pending)
              ((state.socks sock).rx.producer + 1) =
              (state.socks sock).rx.window
                ((state.socks sock).rx.consumer + (state.pc.stage sock).pending)
                (state.socks sock).rx.producer ++ [desc] := by
            rw [SharedRing.window_succ _ (by omega), SharedRing.entry_put_same,
              (state.socks sock).rx.window_put (by omega) (by omega) (by omega)]
          rw [chunks_erase options member, ← sameChunk]
          unfold sockChunks
          change _ + _ + (chunks options
            ((((state.socks sock).rx.put (state.socks sock).rx.producer desc).window
              ((state.socks sock).rx.consumer + (state.pc.stage sock).pending)
              ((state.socks sock).rx.producer + 1)).map XdpDesc.addr) + _) = _
          rw [kept, List.map_append, List.map_singleton, chunks_append, chunks_cons, chunks_nil]
          abel
      · cases offered
    · exact held
  · exact held

theorem Invariant.step (alone : Subsingleton Sock ∨ options.frags = false)
    (held : Invariant options state) (move : Move Sock) :
    Invariant options (step options state move) := by
  cases move with
  | call sock =>
      simp only [AfXdp.step]
      split
      · rename_i idle
        refine held.of_umemStep rfl rfl rfl (fun other => ?_) ?_ ?_ rfl rfl (Nat.zero_le _)
        · simp [Pc.stage, idle, Resume.stage]
        · have umem := held.umem
          rw [idle] at umem
          exact umem
        · unfold umemChunks
          rw [idle]
          rfl
      · exact held
  | driver seen residue => exact held.driverStep alone seen residue
  | takeFill => exact held.takeFill
  | deliver sock address desc content => exact held.deliver sock address desc content
  | transmit sock => exact held.transmit sock
  | complete address => exact held.complete address

theorem Invariant.exec (alone : Subsingleton Sock ∨ options.frags = false)
    (held : Invariant options state) (moves : List (Move Sock)) :
    Invariant options (exec options state moves) := by
  unfold AfXdp.exec
  induction moves generalizing state with
  | nil => exact held
  | cons move rest inductionHypothesis => exact inductionHypothesis (held.step alone move)

end Kernel

/-! ## Start -/

theorem SockInv.fresh : SockInv 0 .quiet freshSock ⟨[], [], []⟩ where
  consuming := emptyRing_consuming default xskRingConsDefaultNumDescs_pos
  producing := emptyRing_producing default xskRingConsDefaultNumDescs_pos
  sameSize := rfl
  released := rfl
  peeked := rfl
  reserved := rfl
  aligned := trivial
  received := rfl
  rxEntries := fun index _ upper => absurd upper (Nat.not_lt_zero index)
  txEntries := fun index _ upper => absurd upper (Nat.not_lt_zero index)
  openFrags := rfl
  boundary := rfl
  whole := rfl
  submitted := rfl
  runs := rfl

theorem Invariant.initial (options : Options) (buffer : Memory) :
    Invariant options (initial options Sock buffer) where
  sockets := fun _ => SockInv.fresh
  delivered := fun _ frame member => absurd member List.not_mem_nil
  umem := UmemInv.initial options.frameSize
  conserved := by
    obtain ⟨-, producer, consumer, -, entries⟩ := xskPopulateFillRing_spec options.frameSize
    have empty : sockChunks options .quiet freshSock = 0 := by
      simp [sockChunks, freshSock, emptyRing, Stage.pending]
    have numbered : ((List.range numFrames).map (· * options.frameSize)).map
        (· / options.frameSize) = List.range numFrames := by
      rw [List.map_map]
      refine (List.map_congr_left fun index _ => ?_).trans (List.map_id _)
      exact Nat.mul_div_cancel index options.frameSize_pos
    simp only [allChunks, AfXdp.initial, umemChunks, Pc.stage, Pc.phase, empty,
      Finset.sum_const_zero, producer, consumer, entries]
    simp only [chunks, numbered, emptyRing, CompletePhase.pending]
    simp [Multiset.range]
  transmitted := by simp [AfXdp.initial, freshSock, emptyRing]
  outstanding := by simp [AfXdp.initial, freshSock, emptyRing, Pc.stage, Stage.pending]
  clamped := trivial

/-- The invariant holds after every sequence of moves. -/
theorem reachable_invariant (options : Options)
    (alone : Subsingleton Sock ∨ options.frags = false) (buffer : Memory)
    (moves : List (Move Sock)) :
    Invariant options (exec options (initial options Sock buffer) moves) :=
  (Invariant.initial options buffer).exec alone moves

end States

end UserspaceXdp.AfXdp
