import UserspaceXdp.AfXdp.Conservation
import UserspaceXdp.Foundation.Runs

/-!
Contract: what one socket's stream decides about the forwarding on it, when
`l2fwd` serves several sockets in any order.

Owns: forwarding as a function of the descriptors that arrived on the socket,
and the theorem that a run forwards so on every socket exactly if no call
processes a descriptor while a packet is open on another socket. The reason is
the `static nb_frags` of `l2fwd`, which counts the open packet of any socket.

Does not own: the frames behind the descriptors.
-/

namespace UserspaceXdp.AfXdp

open UserspaceXdp.Foundation
open UserspaceXdp.Foundation.Fragments
open UserspaceXdp.Runtime

/-! ## The stream of one socket -/

def XdpDesc.ends (desc : XdpDesc) : Bool :=
  isEopDesc desc.options

/-- The descriptors that arrived. -/
def History.descs (history : History) : List XdpDesc :=
  history.arrived.map Frame.desc

/-- How many descriptors the loop has processed on the socket. -/
def processed (stage : Stage) (info : XskSocketInfo) : Nat :=
  info.rx.cached - stage.unread

/-- Forwarding that the arrived descriptors decide, given how many of them have
been processed. A call that has not submitted yet is counted with what it will
submit, and one that has not released yet with what it will release. -/
structure ForwardsOwn (arrived : List XdpDesc) (stage : Stage) (info : XskSocketInfo)
    (history : History) : Prop where
  /-- The program ran on the first buffer of each packet. -/
  runs : history.runs.map (fun run => run.frame.desc) =
    heads XdpDesc.ends (arrived.take (processed stage info))
  /-- TX slot by TX slot, the descriptors passed on. -/
  writes : ∀ index, info.tx.consumer ≤ index → index < processed stage info →
    info.tx.entry index = txDesc (arrived.getD index default)
  submitted : history.submitted.map Frame.desc = (arrived.take info.tx.producer).map txDesc
  /-- Submits and releases add up to the complete packets. -/
  submits : info.tx.producer + stage.done =
    (completed XdpDesc.ends (arrived.take (processed stage info))).length
  releases : info.rx.consumer + (stage.pending + stage.done) =
    (completed XdpDesc.ends (arrived.take (processed stage info))).length
  withinReserved : info.tx.producer + stage.done ≤ info.tx.cached
  withinPeeked : info.rx.consumer + (stage.pending + stage.done) ≤ info.rx.cached

/-- Two runs that agree on the arrivals and on how many of them have been
processed agree on the runs of the program and on what is submitted and
released, whatever happens on other sockets. -/
theorem ForwardsOwn.agree {arrived : List XdpDesc} {leftStage rightStage : Stage}
    {leftInfo rightInfo : XskSocketInfo} {leftHistory rightHistory : History}
    (left : ForwardsOwn arrived leftStage leftInfo leftHistory)
    (right : ForwardsOwn arrived rightStage rightInfo rightHistory)
    (sameProgress : processed leftStage leftInfo = processed rightStage rightInfo) :
    leftHistory.runs.map (fun run => run.frame.desc) =
        rightHistory.runs.map (fun run => run.frame.desc) ∧
      leftInfo.tx.producer + leftStage.done = rightInfo.tx.producer + rightStage.done ∧
      leftInfo.rx.consumer + (leftStage.pending + leftStage.done) =
        rightInfo.rx.consumer + (rightStage.pending + rightStage.done) := by
  refine ⟨?_, ?_, ?_⟩
  · rw [left.runs, right.runs, sameProgress]
  · rw [left.submits, right.submits, sameProgress]
  · rw [left.releases, right.releases, sameProgress]

section Stream

variable {nbFrags : Nat} {stage : Stage} {info : XskSocketInfo} {history : History}

theorem SockInv.processed_eq (held : SockInv nbFrags stage info history) :
    processed stage info = written nbFrags stage info := by
  have peeked := held.peeked
  unfold processed
  omega

/-- The count of the invariant is the open packet of the socket's own stream. -/
theorem SockInv.openFrags_eq (held : SockInv nbFrags stage info history) :
    nbFrags = openCount XdpDesc.ends (history.descs.take (processed stage info)) := by
  rw [held.processed_eq, History.descs, ← List.map_take, openCount_map]
  exact held.openFrags

theorem SockInv.forwardsOwn (held : SockInv nbFrags stage info history) :
    ForwardsOwn history.descs stage info history := by
  have position := held.processed_eq
  have within := held.written_le
  have length : (history.descs.take (written nbFrags stage info)).length =
      written nbFrags stage info := by
    rw [List.length_take, History.descs, List.length_map]
    omega
  have whole : info.tx.producer + stage.done =
      (Fragments.completed XdpDesc.ends (history.descs.take (processed stage info))).length := by
    rw [length_completed, ← held.openFrags_eq, position, length]
    unfold written
    omega
  have released := held.released
  refine
    { runs := ?_
      writes := ?_
      submitted := ?_
      submits := whole
      releases := ?_
      withinReserved := ?_
      withinPeeked := ?_ }
  · rw [held.runs, position, History.descs, ← List.map_take, heads_map]
    rfl
  · intro index lower upper
    rw [position] at upper
    rw [held.txEntries index lower upper, History.desc, History.descs]
    simp only [List.getD_eq_getElem?_getD, List.getElem?_map]
    cases history.arrived[index]? <;> rfl
  · rw [held.submitted, History.descs, ← List.map_take, List.map_map]
    rfl
  · rw [← whole]
    omega
  · have reserved := held.reserved
    unfold written at reserved
    omega
  · have peeked := held.peeked
    unfold written at peeked
    omega

end Stream

/-! ## Open packets -/

/-- `count` is the open count of the one socket that has an open packet. -/
structure OneOpen {Sock : Type} (count : Nat) (openFrags : Sock → Nat) : Prop where
  alone : ∀ sock, (∀ other, other ≠ sock → openFrags other = 0) → openFrags sock = count
  others : ∀ sock other, other ≠ sock → openFrags other ≠ 0 → openFrags sock = 0 ∧ count ≠ 0

section States

variable {Sock : Type} [DecidableEq Sock]

/-- No packet is open but on the socket that counts. -/
theorem OneOpen.update {openFrags : Sock → Nat} (sock : Sock) (count : Nat)
    (noOther : ∀ other, other ≠ sock → openFrags other = 0) :
    OneOpen count (Function.update openFrags sock count) := by
  refine ⟨?_, ?_⟩
  · intro current noneElse
    rcases eq_or_ne current sock with rfl | different
    · exact Function.update_self ..
    · have empty := noneElse sock different.symm
      rw [Function.update_self] at empty
      rw [Function.update_of_ne different, noOther current different, empty]
  · intro current other different isOpen
    rcases eq_or_ne other sock with rfl | apart
    · rw [Function.update_self] at isOpen
      rw [Function.update_of_ne different.symm]
      exact ⟨noOther current different.symm, isOpen⟩
    · rw [Function.update_of_ne apart] at isOpen
      exact absurd (noOther other apart) isOpen

/-- The buffers of the socket's open packet that were processed. -/
def State.openFrags (state : State Sock) (sock : Sock) : Nat :=
  openCount XdpDesc.ends ((state.history sock).descs.take
    (processed (state.pc.stage sock) (state.socks sock)))

/-- The arrivals on each socket decide the forwarding on it. -/
def SocketsIndependent (state : State Sock) : Prop :=
  ∀ sock, ForwardsOwn (state.history sock).descs (state.pc.stage sock) (state.socks sock)
    (state.history sock)

/-- A call processes a descriptor only while no packet is open on another
socket. -/
def ServesAlone (state : State Sock) : Move Sock → Prop
  | .driver _ _ =>
      match state.pc with
      | .forward sock loop =>
          loop.i < loop.rcvd → ∀ other, other ≠ sock → state.openFrags other = 0
      | _ => True
  | _ => True

/-- Every socket is served by its own count, and `nb_frags` is the count of the
one with an open packet. -/
structure Separate (state : State Sock) : Prop where
  sockets : ∀ sock, SockInv (state.openFrags sock) (state.pc.stage sock) (state.socks sock)
    (state.history sock)
  shared : OneOpen state.nbFrags state.openFrags

theorem Separate.independent {state : State Sock} (held : Separate state) :
    SocketsIndependent state :=
  fun sock => (held.sockets sock).forwardsOwn

theorem Separate.socket {state : State Sock} (held : Separate state) (sock : Sock) {stage : Stage}
    (current : state.pc.stage sock = stage) :
    SockInv (state.openFrags sock) stage (state.socks sock) (state.history sock) :=
  current ▸ held.sockets sock

theorem Separate.of_sockets {state : State Sock} (openFrags : Sock → Nat)
    (sockets : ∀ sock, SockInv (openFrags sock) (state.pc.stage sock) (state.socks sock)
      (state.history sock))
    (shared : OneOpen state.nbFrags openFrags) : Separate state := by
  have same : state.openFrags = openFrags := by
    funext sock
    exact (sockets sock).openFrags_eq.symm
  exact ⟨same ▸ sockets, same ▸ shared⟩

/-! ## Steps beside the streams -/

/-- A step that touches no stream: counters, UMEM rings and the position of the
driver outside the forwarding may change. -/
structure Aside (state next : State Sock) : Prop where
  history : next.history = state.history
  nbFrags : next.nbFrags = state.nbFrags
  stage : ∀ sock, next.pc.stage sock = state.pc.stage sock
  socks : ∀ sock, ∃ outstandingTx,
    next.socks sock = { state.socks sock with outstandingTx := outstandingTx }

theorem Aside.of_same {state next : State Sock} (history : next.history = state.history)
    (nbFrags : next.nbFrags = state.nbFrags)
    (stage : ∀ sock, next.pc.stage sock = state.pc.stage sock)
    (socks : next.socks = state.socks) : Aside state next :=
  ⟨history, nbFrags, stage, fun sock => ⟨(state.socks sock).outstandingTx, by rw [socks]⟩⟩

theorem Separate.aside {state next : State Sock} (held : Separate state)
    (moved : Aside state next) : Separate next := by
  apply Separate.of_sockets state.openFrags
  · intro sock
    obtain ⟨outstandingTx, changed⟩ := moved.socks sock
    rw [moved.stage, moved.history, changed]
    exact (held.sockets sock).counters outstandingTx _
  · rw [moved.nbFrags]
    exact held.shared

/-- `complete_tx_l2fwd` works on the UMEM rings and one counter. -/
theorem completeStep_aside (options : Options) {state : State Sock} {active : Sock}
    {resume : Resume} {phase : CompletePhase} (seen : Nat)
    (position : state.pc = .completing active resume phase) :
    Aside state (completeStep options state active resume seen phase) := by
  have resumed : ∀ sock, (resume.pc active).stage sock = state.pc.stage sock := by
    intro sock
    rw [Resume.stage_pc, position]
    rfl
  have remains : ∀ later sock,
      (Pc.completing active resume later).stage sock = state.pc.stage sock := by
    intro later sock
    rw [position]
    rfl
  cases phase with
  | peek =>
      simp only [completeStep]
      split
      · exact Aside.of_same rfl rfl resumed rfl
      · generalize (if options.batchSize < (state.socks active).outstandingTx
          then options.batchSize else (state.socks active).outstandingTx) = limit
        split
        · exact Aside.of_same rfl rfl resumed rfl
        · exact Aside.of_same rfl rfl (remains _) rfl
  | reserve rcvd idxCq =>
      simp only [completeStep]
      split
      · exact Aside.of_same rfl rfl (remains _) rfl
      · exact Aside.of_same rfl rfl (fun _ => rfl) rfl
  | copy rcvd i idxCq idxFq =>
      simp only [completeStep]
      split
      · exact Aside.of_same rfl rfl (remains _) rfl
      · exact Aside.of_same rfl rfl (remains _) rfl
  | submit rcvd => exact Aside.of_same rfl rfl (remains _) rfl
  | release rcvd =>
      refine ⟨rfl, rfl, resumed, ?_⟩
      intro sock
      rcases eq_or_ne sock active with rfl | different
      · exact ⟨_, Function.update_self ..⟩
      · exact ⟨(state.socks sock).outstandingTx, Function.update_of_ne different ..⟩

/-! ## Steps on one socket -/

/-- A step on one socket that leaves `nb_frags` alone. -/
theorem Separate.onSock {state next : State Sock} (held : Separate state) (active : Sock)
    (others : ∀ other, other ≠ active → next.socks other = state.socks other ∧
      next.history other = state.history other ∧ next.pc.stage other = state.pc.stage other)
    (sameFrags : next.nbFrags = state.nbFrags)
    (socket : SockInv (state.openFrags active) (next.pc.stage active) (next.socks active)
      (next.history active)) : Separate next := by
  apply Separate.of_sockets state.openFrags
  · intro sock
    rcases eq_or_ne sock active with rfl | different
    · exact socket
    · obtain ⟨sameSock, sameHistory, sameStage⟩ := others sock different
      rw [sameSock, sameHistory, sameStage]
      exact held.sockets sock
  · rw [sameFrags]
    exact held.shared

section Driver

variable {options : Options} {state : State Sock} {active : Sock}

private theorem Separate.receive (held : Separate state) (position : state.pc = .receive active)
    (seen : Nat) (residue : ContextResidue) :
    Separate (driverStep options state seen residue) := by
  have socket : SockInv (state.openFrags active) .quiet (state.socks active)
      (state.history active) := held.socket active (by rw [position]; rfl)
  simp only [driverStep, position]
  split
  · rename_i nothing
    rw [SharedRing.peek_of_zero nothing]
    apply held.aside
    refine Aside.of_same rfl rfl (fun sock => ?_) ?_
    · rw [position]
      rfl
    · exact Function.update_eq_self active state.socks
  · apply held.onSock active
    · intro other different
      refine ⟨Function.update_of_ne different .., rfl, ?_⟩
      simp [position, Pc.stage, different]
    · rfl
    · rw [Pc.stage_reserve, State.setSock_socks]
      exact socket.receive
        (SharedRing.peek_available options.batchSize seen socket.consuming.available)

private theorem Separate.reserve {rcvd idxRx : Nat} (held : Separate state)
    (position : state.pc = .reserve active rcvd idxRx) (seen : Nat) (residue : ContextResidue) :
    Separate (driverStep options state seen residue) := by
  have socket := held.socket active (by rw [position, Pc.stage_reserve])
  simp only [driverStep, position]
  rcases (state.socks active).tx.reserve_cases rcvd with ⟨fits, reserved⟩ | ⟨full, reserved⟩
  · simp only [reserved, if_true]
    apply held.onSock active
    · intro other different
      refine ⟨Function.update_of_ne different .., rfl, ?_⟩
      simp [position, Pc.stage, different]
    · rfl
    · rw [Pc.stage_forward, State.setSock_socks]
      exact socket.reserve fits
  · simp only [reserved]
    split
    · rename_i nothing
      subst nothing
      have bounded := socket.producing.bounded
      omega
    · apply held.aside
      refine Aside.of_same rfl rfl (fun sock => ?_) rfl
      rw [position]
      rfl

private theorem Separate.submit {loop : ForwardLoop} (held : Separate state)
    (position : state.pc = .submit active loop) (seen : Nat) (residue : ContextResidue) :
    Separate (driverStep options state seen residue) := by
  have socket := held.socket active (by rw [position, Pc.stage_submit])
  simp only [driverStep, position]
  apply held.onSock active
  · intro other different
    refine ⟨Function.update_of_ne different .., Function.update_of_ne different .., ?_⟩
    simp [position, Pc.stage, different]
  · rfl
  · simp only [Pc.stage_release, State.setHistory_socks, State.setSock_socks,
      State.setHistory_history]
    exact socket.submit _ (by simp [Function.comp_def])

private theorem Separate.release {loop : ForwardLoop} (held : Separate state)
    (position : state.pc = .release active loop) (seen : Nat) (residue : ContextResidue) :
    Separate (driverStep options state seen residue) := by
  have socket := held.socket active (by rw [position, Pc.stage_release])
  simp only [driverStep, position]
  apply held.onSock active
  · intro other different
    refine ⟨Function.update_of_ne different .., rfl, ?_⟩
    simp [position, Pc.stage, different]
  · rfl
  · simp only [State.setSock_socks]
    exact socket.release.counters _ _

/-! ## The loop body -/

/-- With no other packet open, `nb_frags` is the socket's own count. -/
private theorem Separate.forwardBody {loop : ForwardLoop} (held : Separate state)
    (position : state.pc = .forward active loop) (unfinished : loop.i < loop.rcvd)
    (noOther : ∀ other, other ≠ active → state.openFrags other = 0) (residue : ContextResidue) :
    Separate (forwardBody options residue state active loop) := by
  have own : state.openFrags active = state.nbFrags := held.shared.alone active noOther
  have socket := held.socket active (by rw [position, Pc.stage_forward])
  rw [own] at socket
  have next := socket.forwardBody unfinished options residue
  apply Separate.of_sockets (Function.update state.openFrags active
    (AfXdp.forwardBody options residue state active loop).nbFrags)
  · intro sock
    rcases eq_or_ne sock active with rfl | different
    · rw [Function.update_self]
      exact next
    · have others := held.sockets sock
      simpa [AfXdp.forwardBody, Pc.stage, position, different, State.setSock, State.setHistory,
        Function.update_of_ne different] using others
  · exact OneOpen.update active _ noOther

/-- With another packet open, the program does not see the first buffer of the
packet that the socket is served next. -/
private theorem Separate.forwardBody_misses {loop : ForwardLoop} (held : Separate state)
    (options : Options) (position : state.pc = .forward active loop) (unfinished : loop.i < loop.rcvd)
    {other : Sock} (different : other ≠ active) (isOpen : state.openFrags other ≠ 0)
    (residue : ContextResidue) :
    ¬ SocketsIndependent (AfXdp.forwardBody options residue state active loop) := by
  intro independent
  obtain ⟨noneOwn, counted⟩ := held.shared.others active other different isOpen
  have socket := held.socket active (by rw [position, Pc.stage_forward])
  rw [noneOwn] at socket
  have within := (socket.current unfinished).1
  have peeked : (state.socks active).rx.cached =
      written 0 (.forwarding loop) (state.socks active) + (loop.rcvd - loop.i) := socket.peeked
  have before := socket.forwardsOwn.runs
  have fresh := socket.openFrags_eq
  rw [socket.processed_eq] at before fresh
  -- The body moves on by one descriptor, and the runs stay as they are.
  have after : (state.history active).runs.map (fun run => run.frame.desc) =
      heads XdpDesc.ends ((state.history active).descs.take
        (written 0 (.forwarding loop) (state.socks active) + 1)) := by
    have moved : (state.socks active).rx.cached - (loop.rcvd - (loop.i + 1)) =
        written 0 (.forwarding loop) (state.socks active) + 1 := by omega
    have runs := (independent active).runs
    simp only [AfXdp.forwardBody, if_neg counted, Pc.stage_forward, State.setHistory_socks,
      State.setSock_socks, State.setHistory_history, processed, Stage.unread, moved] at runs
    exact runs
  have bound : written 0 (.forwarding loop) (state.socks active) <
      (state.history active).descs.length := by
    rw [History.descs, List.length_map]
    exact within
  rw [List.take_add_one, List.getElem?_eq_getElem bound, Option.toList_some, heads_concat,
    if_pos fresh.symm, ← before] at after
  exact List.append_right_eq_self.not.mpr (List.cons_ne_nil _ _) after.symm

private theorem Separate.exit {loop : ForwardLoop} (held : Separate state)
    (position : state.pc = .forward active loop) (finished : ¬ loop.i < loop.rcvd) :
    Separate { state with pc := .submit active loop } := by
  have socket := held.socket active (by rw [position, Pc.stage_forward])
  apply held.onSock active
  · intro other different
    refine ⟨rfl, rfl, ?_⟩
    simp [position, Pc.stage, different]
  · rfl
  · rw [Pc.stage_submit]
    exact socket.exit finished

theorem Separate.driverStep (held : Separate state) (seen : Nat) (residue : ContextResidue)
    (alone : ServesAlone state (.driver seen residue)) :
    Separate (driverStep options state seen residue) := by
  cases position : state.pc with
  | idle =>
      simp only [AfXdp.driverStep, position]
      exact held
  | completing active resume phase =>
      simp only [AfXdp.driverStep, position]
      exact held.aside (completeStep_aside options seen position)
  | receive active => exact held.receive position seen residue
  | reserve active rcvd idxRx => exact held.reserve position seen residue
  | forward active loop =>
      simp only [ServesAlone, position] at alone
      simp only [AfXdp.driverStep, position]
      split
      · rename_i unfinished
        exact held.forwardBody position unfinished (alone unfinished) residue
      · rename_i finished
        exact held.exit position finished
  | submit active loop => exact held.submit position seen residue
  | release active loop => exact held.release position seen residue

end Driver

/-! ## The kernel -/

section Kernel

variable {options : Options} {state : State Sock}

private theorem Separate.deliver (held : Separate state) (sock : Sock) (address : Nat)
    (desc : XdpDesc) (content : Nat → UInt8) :
    Separate (step options state (.deliver sock address desc content)) := by
  simp only [step, SharedRing.offer]
  split
  · split
    · rename_i rx offered
      split at offered
      · rename_i room
        cases offered
        apply held.onSock sock
        · intro other different
          exact ⟨Function.update_of_ne different .., Function.update_of_ne different .., rfl⟩
        · rfl
        · simp only [State.setHistory_socks, State.setSock_socks, State.setHistory_history]
          exact (held.sockets sock).deliver ⟨desc, _⟩ room
      · cases offered
    · exact held
  · exact held

private theorem Separate.transmit (held : Separate state) (sock : Sock) :
    Separate (step options state (.transmit sock)) := by
  simp only [step, SharedRing.take]
  split
  · rename_i desc tx taken
    split at taken
    · rename_i published
      simp only [Option.some.injEq, Prod.mk.injEq] at taken
      obtain ⟨rfl, rfl⟩ := taken
      apply held.onSock sock
      · intro other different
        exact ⟨Function.update_of_ne different .., rfl, rfl⟩
      · rfl
      · simp only [State.setSock_socks]
        exact (held.sockets sock).transmit published
    · cases taken
  · exact held

theorem Separate.step (held : Separate state) (move : Move Sock) (alone : ServesAlone state move) :
    Separate (step options state move) := by
  cases move with
  | call sock =>
      simp only [AfXdp.step]
      split
      · rename_i idle
        apply held.aside
        refine Aside.of_same rfl rfl (fun other => ?_) rfl
        simp [Pc.stage, idle, Resume.stage]
      · exact held
  | driver seen residue => exact held.driverStep seen residue alone
  | takeFill =>
      simp only [AfXdp.step]
      split
      · exact held.aside (Aside.of_same rfl rfl (fun _ => rfl) rfl)
      · exact held
  | deliver sock address desc content => exact held.deliver sock address desc content
  | transmit sock => exact held.transmit sock
  | complete address =>
      simp only [AfXdp.step]
      split
      · split
        · exact held.aside (Aside.of_same rfl rfl (fun _ => rfl) rfl)
        · exact held
      · exact held

/-- A step keeps the sockets independent exactly if it serves one alone. -/
theorem Separate.step_iff (held : Separate state) (move : Move Sock) :
    SocketsIndependent (AfXdp.step options state move) ↔ ServesAlone state move := by
  refine ⟨?_, fun alone => (held.step move alone).independent⟩
  intro independent
  cases move with
  | driver seen residue =>
      cases position : state.pc with
      | forward sock loop =>
          simp only [ServesAlone, position]
          intro unfinished other different
          by_contra isOpen
          apply held.forwardBody_misses options position unfinished different isOpen residue
          simpa only [AfXdp.step, AfXdp.driverStep, position, if_pos unfinished] using independent
      | _ => simp only [ServesAlone, position]
  | _ => trivial

end Kernel

/-! ## Every run -/

theorem Separate.initial (options : Options) (buffer : Memory) :
    Separate (initial options Sock buffer) := by
  apply Separate.of_sockets fun _ => 0
  · exact fun _ => SockInv.fresh
  · exact ⟨fun _ _ => rfl, fun _ _ _ isOpen => absurd rfl isOpen⟩

/-- Any number of sockets, any streams, batch boundaries and interleaving: the
arrivals on each socket decide its forwarding throughout a run exactly if the
run never processes a descriptor while a packet is open on another socket. -/
theorem l2fwd_sockets_independent_iff (options : Options) (buffer : Memory)
    (moves : List (Move Sock)) :
    InEveryState (step options) SocketsIndependent (initial options Sock buffer) moves ↔
      AtEveryStep (step options) ServesAlone (initial options Sock buffer) moves := by
  have start : Separate (initial options Sock buffer) := Separate.initial options buffer
  rw [inEveryState_iff, and_iff_right start.independent]
  exact atEveryStep_iff_of_invariant Separate (fun _ move held => held.step_iff move)
    (fun _ move held alone => held.step move alone) start moves

end States

/-! ## A packet cut by the call on another socket -/

def fragsOptions : Options where
  batchSize := 64
  frameSize := 4096
  frags := true
  entryProg := some fun context memory => ⟨xdpTx, context, memory⟩
  frameSize_pos := pageSize_pos

/-- The kernel holds two frames. -/
def twoFrames : List (Move Bool) :=
  [.takeFill, .takeFill]

/-- The first buffer of a packet arrives on one socket and a call forwards it. -/
def firstFragment : List (Move Bool) :=
  .deliver false 0 ⟨256, 60, xdpPktContd⟩ (fun _ => 0) :: .call false ::
    List.replicate 7 (.driver 1 ⟨0, 0, 0, 0⟩)

/-- A packet of one buffer arrives on the other socket, and a call on it comes as
far as the submit. -/
def otherPacket : List (Move Bool) :=
  .deliver true 4096 ⟨4352, 60, 0⟩ (fun _ => 0) :: .call true ::
    List.replicate 5 (.driver 1 ⟨0, 0, 0, 0⟩)

private theorem exec_takeFill_twice {Sock : Type} [DecidableEq Sock] (options : Options)
    (state : State Sock) (filled : state.fq.consumer + 1 < state.fq.producer) :
    exec options state [.takeFill, .takeFill] =
      { state with
        fq := { state.fq with consumer := state.fq.consumer + 1 + 1 }
        receiving := state.receiving ++ [state.fq.entry state.fq.consumer] ++
          [state.fq.entry (state.fq.consumer + 1)] } := by
  have first : state.fq.consumer < state.fq.producer := Nat.lt_of_succ_lt filled
  simp only [exec, List.foldl_cons, List.foldl_nil, step, SharedRing.take, if_pos first,
    if_pos filled]
  rfl

private def holdingTwo : State Bool :=
  let start := initial fragsOptions Bool fun _ => 0
  { start with
    fq := { start.fq with consumer := start.fq.consumer + 1 + 1 }
    receiving := [0, 4096] }

private theorem exec_twoFrames :
    exec fragsOptions (initial fragsOptions Bool fun _ => 0) twoFrames = holdingTwo := by
  obtain ⟨-, producer, consumer, -⟩ := xskPopulateFillRing_spec fragsOptions.frameSize
  have filled : (xskPopulateFillRing fragsOptions.frameSize (emptyRing numFrames 0)).consumer + 1 <
      (xskPopulateFillRing fragsOptions.frameSize (emptyRing numFrames 0)).producer := by
    rw [producer, consumer]
    decide
  have taken := exec_takeFill_twice fragsOptions (initial fragsOptions Bool fun _ => 0) filled
  have first := xskPopulateFillRing_entry fragsOptions.frameSize (by decide : 0 < numFrames)
  have second := xskPopulateFillRing_entry fragsOptions.frameSize (by decide : 1 < numFrames)
  rw [twoFrames, taken]
  simp only [initial, holdingTwo, consumer, first, second]
  simp only [fragsOptions, List.nil_append]
  rfl

/-- The same arrival on one socket, with and without an open packet on the other:
the program misses the packet, and the call is about to submit two slots where
it has reserved one. -/
theorem l2fwd_couples_sockets :
    let start := initial fragsOptions Bool fun _ => 0
    let alone := exec fragsOptions start (twoFrames ++ otherPacket)
    let coupled := exec fragsOptions start (twoFrames ++ (firstFragment ++ otherPacket))
    (alone.history true).descs = (coupled.history true).descs ∧
      ((alone.history true).runs.map fun run => run.frame.desc) = [⟨4352, 60, 0⟩] ∧
      (coupled.history true).runs = [] ∧
      (alone.pc.stage true).done = 1 ∧
      (coupled.pc.stage true).done = 2 ∧ (coupled.socks true).tx.cached = 1 ∧
      ¬ InEveryState (step fragsOptions) SocketsIndependent start
        (twoFrames ++ (firstFragment ++ otherPacket)) := by
  intro start alone coupled
  have alone_eq : alone = exec fragsOptions holdingTwo otherPacket := by
    rw [← exec_twoFrames, ← exec_append]
  have coupled_eq : coupled = exec fragsOptions holdingTwo (firstFragment ++ otherPacket) := by
    rw [← exec_twoFrames, ← exec_append]
  have submits : (coupled.pc.stage true).done = 2 := by
    rw [coupled_eq]
    decide +kernel
  have reserved : (coupled.socks true).tx.cached = 1 := by
    rw [coupled_eq]
    decide +kernel
  refine ⟨?_, ?_, ?_, ?_, submits, reserved, ?_⟩
  · rw [alone_eq, coupled_eq]
    decide +kernel
  · rw [alone_eq]
    decide +kernel
  · rw [coupled_eq]
    decide +kernel
  · rw [alone_eq]
    decide +kernel
  · intro every
    have independent : SocketsIndependent coupled := every _ [] (List.append_nil _).symm
    have within := (independent true).withinReserved
    rw [submits, reserved] at within
    exact absurd (Nat.le_trans (Nat.le_add_left 2 _) within) (by decide)

end UserspaceXdp.AfXdp
