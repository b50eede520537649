import UserspaceXdp.AfXdp.Conservation

/-!
Contract: what the AF_XDP driver does with the verdict of the XDP program.

`l2fwd` calls `ebpf_process_packet` and drops its result: every frame is
submitted, whatever the program decided.

Owns: the isolation of frames in the UMEM, the bytes that are submitted for
single-buffer packets on one socket, the contract that verdicts are enforced,
and the condition under which the driver keeps it.

Does not own: packets of several buffers, or programs that move the packet.
-/

namespace UserspaceXdp.AfXdp

open UserspaceXdp.Foundation
open UserspaceXdp.Runtime

/-! ## Isolation -/

section Isolation

variable {options : Options}

/-- A buffer that stays inside its chunk has all its bytes there. -/
theorem chunk_of_inside {address length candidate : Nat}
    (inside : address % options.frameSize + length ≤ options.frameSize)
    (lower : address ≤ candidate) (upper : candidate < address + length) :
    candidate / options.frameSize = address / options.frameSize := by
  have divided := Nat.div_add_mod address options.frameSize
  apply Nat.div_eq_of_lt_le
  · rw [Nat.mul_comm]
    omega
  · rw [Nat.mul_comm, Nat.mul_add, Nat.mul_one]
    omega

/-- Memories that agree outside one chunk agree on a buffer in another. -/
theorem bytes_of_other_chunk {before after : Memory} {chunk address length : Nat}
    (changed : ∀ candidate, candidate / options.frameSize ≠ chunk →
      after candidate = before candidate)
    (inside : address % options.frameSize + length ≤ options.frameSize)
    (different : address / options.frameSize ≠ chunk) :
    after.bytes address length = before.bytes address length := by
  apply Memory.bytes_congr
  intro candidate lower upper
  apply changed
  rw [chunk_of_inside inside lower upper]
  exact different

variable {state : State Unit}

/-- The chunks of the stream from index `low` on. -/
private def streamChunks (options : Options) (history : History) (low : Nat) : List Nat :=
  (List.range' low (history.arrived.length - low)).map fun index =>
    (history.desc index).addr / options.frameSize

private theorem mem_streamChunks {history : History} {low index : Nat} (lower : low ≤ index)
    (upper : index < history.arrived.length) :
    (history.desc index).addr / options.frameSize ∈ streamChunks options history low :=
  List.mem_map_of_mem (List.mem_range'_1.mpr ⟨lower, by omega⟩)

/-- What the kernel may write to and what the socket holds are disjoint, and the
socket holds every frame once. -/
private theorem Invariant.nodup_chunks (held : Invariant options state) :
    (chunks options state.receiving +
      ↑(streamChunks options (state.history ()) (state.socks ()).tx.producer)).Nodup := by
  have socket := held.sockets ()
  have rxChunks : chunks options (((state.socks ()).rx.window
      ((state.socks ()).rx.consumer + (state.pc.stage ()).pending)
      (state.socks ()).rx.producer).map XdpDesc.addr) =
      ↑(streamChunks options (state.history ()) (state.socks ()).tx.producer) := by
    have entries : ∀ index, (state.socks ()).tx.producer ≤ index →
        index < (state.socks ()).rx.producer →
        (state.socks ()).rx.entry index = (state.history ()).desc index := by
      intro index lower upper
      exact socket.rxEntries index (by have released := socket.released; omega) upper
    rw [socket.released, SharedRing.window_eq_map _ entries, socket.received, chunks, streamChunks,
      List.map_map, List.map_map]
    rfl
  have total : umemChunks options state +
      sockChunks options (state.pc.stage ()) (state.socks ()) = Multiset.range numFrames := by
    simpa [allChunks] using held.conserved
  have bounded : chunks options state.receiving +
      ↑(streamChunks options (state.history ()) (state.socks ()).tx.producer) ≤
        Multiset.range numFrames := by
    rw [← rxChunks, ← total, umemChunks, sockChunks]
    generalize chunks options (state.fq.window _ _) = fill
    generalize chunks options (state.cq.window _ _) = completion
    generalize chunks options (((state.socks ()).tx.window _ _).map XdpDesc.addr) = transmitting
    refine Multiset.le_iff_exists_add.mpr
      ⟨fill + chunks options state.sending + completion + transmitting, ?_⟩
    abel
  exact Multiset.nodup_of_le bounded (Multiset.nodup_range numFrames)

theorem Invariant.chunk_injective (held : Invariant options state) {left right : Nat}
    (leftLower : (state.socks ()).tx.producer ≤ left)
    (leftUpper : left < (state.history ()).arrived.length)
    (rightLower : (state.socks ()).tx.producer ≤ right)
    (rightUpper : right < (state.history ()).arrived.length)
    (same : ((state.history ()).desc left).addr / options.frameSize =
      ((state.history ()).desc right).addr / options.frameSize) : left = right := by
  have nodup : (streamChunks options (state.history ()) (state.socks ()).tx.producer).Nodup :=
    Multiset.coe_nodup.mp (Multiset.nodup_of_le (Multiset.le_add_left _ _) held.nodup_chunks)
  refine List.inj_on_of_nodup_map nodup ?_ ?_ same
  · exact List.mem_range'_1.mpr ⟨leftLower, by omega⟩
  · exact List.mem_range'_1.mpr ⟨rightLower, by omega⟩

theorem Invariant.chunk_not_receiving (held : Invariant options state) {address index : Nat}
    (member : address ∈ state.receiving) (lower : (state.socks ()).tx.producer ≤ index)
    (upper : index < (state.history ()).arrived.length) :
    ((state.history ()).desc index).addr / options.frameSize ≠ address / options.frameSize := by
  intro same
  have disjoint := (Multiset.nodup_add.mp held.nodup_chunks).2.2
  have receiving : address / options.frameSize ∈ chunks options state.receiving :=
    Multiset.mem_coe.mpr (List.mem_map_of_mem member)
  exact Multiset.disjoint_left.mp disjoint receiving
    (Multiset.mem_coe.mpr (same ▸ mem_streamChunks lower upper))

end Isolation

/-! ## Steps that matter -/

section Quiet

variable {Sock : Type} [DecidableEq Sock]

/-- A step that leaves the packets of `sock` alone. -/
structure Quiet (state next : State Sock) (sock : Sock) : Prop where
  history : next.history sock = state.history sock
  buffer : next.buffer = state.buffer
  sent : (next.socks sock).tx.producer = (state.socks sock).tx.producer
  seen : written next.nbFrags (next.pc.stage sock) (next.socks sock) =
    written state.nbFrags (state.pc.stage sock) (state.socks sock)

private theorem Quiet.refl (state : State Sock) (sock : Sock) : Quiet state state sock :=
  ⟨rfl, rfl, rfl, rfl⟩

private theorem Quiet.of_done {state next : State Sock} {sock : Sock}
    (history : next.history sock = state.history sock) (buffer : next.buffer = state.buffer)
    (frags : next.nbFrags = state.nbFrags)
    (sent : (next.socks sock).tx.producer = (state.socks sock).tx.producer)
    (done : (next.pc.stage sock).done = (state.pc.stage sock).done) : Quiet state next sock := by
  refine ⟨history, buffer, sent, ?_⟩
  unfold written
  rw [sent, done, frags]

private theorem completeStep_quiet (options : Options) (state : State Sock) (active : Sock)
    (resume : Resume) (seen : Nat) (phase : CompletePhase)
    (position : state.pc = .completing active resume phase) :
    Quiet state (completeStep options state active resume seen phase) active := by
  have stage : state.pc.stage active = resume.stage := by simp [position]
  cases phase with
  | peek =>
      simp only [completeStep]
      split
      · exact Quiet.of_done rfl rfl rfl rfl (by simp [stage])
      · generalize (if options.batchSize < (state.socks active).outstandingTx
          then options.batchSize else (state.socks active).outstandingTx) = limit
        split <;> exact Quiet.of_done rfl rfl rfl rfl (by simp [stage])
  | reserve rcvd idxCq =>
      simp only [completeStep]
      split
      · exact Quiet.of_done rfl rfl rfl rfl (by simp [stage])
      · exact Quiet.refl state active
  | copy rcvd i idxCq idxFq =>
      simp only [completeStep]
      split <;> exact Quiet.of_done rfl rfl rfl rfl (by simp [stage])
  | submit rcvd => exact Quiet.of_done rfl rfl rfl rfl (by simp [completeStep, stage])
  | release rcvd =>
      simp only [completeStep]
      exact Quiet.of_done rfl rfl rfl (by simp) (by simp [stage])

/-- The driver touches a packet in the loop body and at the submit only. -/
private theorem driverStep_cases [Subsingleton Sock] (options : Options) (state : State Sock)
    (sock : Sock) (seen : Nat) (residue : ContextResidue) :
    Quiet state (driverStep options state seen residue) sock ∨
      (∃ loop, state.pc = .forward sock loop ∧ loop.i < loop.rcvd ∧
        driverStep options state seen residue = forwardBody options residue state sock loop) ∨
      ∃ loop, state.pc = .submit sock loop := by
  have only : ∀ active, active = sock := fun active => Subsingleton.elim active sock
  cases position : state.pc with
  | idle =>
      left
      simp only [driverStep, position]
      exact Quiet.refl state sock
  | completing active resume phase =>
      obtain rfl := only active
      left
      simp only [driverStep, position]
      exact completeStep_quiet options state active resume seen phase position
  | receive active =>
      obtain rfl := only active
      left
      simp only [driverStep, position]
      split <;> exact Quiet.of_done rfl rfl rfl (by simp)
        (by simp [position, Pc.stage, Stage.done])
  | reserve active rcvd idxRx =>
      obtain rfl := only active
      left
      simp only [driverStep, position]
      rcases (state.socks active).tx.reserve_cases rcvd with ⟨fits, reserved⟩ | ⟨full, reserved⟩
      · simp only [reserved, if_true]
        exact Quiet.of_done rfl rfl rfl (by simp) (by simp [position, Stage.done])
      · simp only [reserved]
        split <;> exact Quiet.of_done rfl rfl rfl (by simp)
          (by simp [position, Resume.stage, Stage.done])
  | forward active loop =>
      obtain rfl := only active
      simp only [driverStep, position]
      split
      · rename_i unfinished
        exact Or.inr (Or.inl ⟨loop, rfl, unfinished, rfl⟩)
      · exact Or.inl (Quiet.of_done rfl rfl rfl rfl (by simp [position, Stage.done]))
  | submit active loop =>
      obtain rfl := only active
      exact Or.inr (Or.inr ⟨loop, rfl⟩)
  | release active loop =>
      obtain rfl := only active
      left
      simp only [driverStep, position]
      exact Quiet.of_done rfl rfl rfl (by simp) (by simp [position, Pc.stage, Stage.done])

/-- Of the kernel's moves only a delivery touches a packet. -/
private theorem step_quiet (options : Options) (state : State Sock) (sock : Sock)
    (move : Move Sock) (kernel : ∀ seen residue, move ≠ .driver seen residue)
    (noDelivery : ∀ target address desc content, move ≠ .deliver target address desc content) :
    Quiet state (step options state move) sock := by
  cases move with
  | call target =>
      simp only [step]
      split
      · rename_i position
        exact Quiet.of_done rfl rfl rfl rfl
          (by simp [position, Pc.stage, Resume.stage, Stage.done])
      · exact Quiet.refl state sock
  | driver seen residue => exact absurd rfl (kernel seen residue)
  | takeFill =>
      simp only [step]
      split <;> exact Quiet.of_done rfl rfl rfl rfl rfl
  | deliver target address desc content => exact absurd rfl (noDelivery target address desc content)
  | transmit target =>
      simp only [step, SharedRing.take]
      split
      · rename_i desc tx taken
        split at taken
        · cases taken
          refine Quiet.of_done rfl rfl rfl ?_ rfl
          rcases eq_or_ne sock target with rfl | different
          · simp
          · simp [State.setSock, Function.update_of_ne different]
        · cases taken
      · exact Quiet.refl state sock
  | complete address =>
      simp only [step]
      split
      · split <;> exact Quiet.of_done rfl rfl rfl rfl rfl
      · exact Quiet.refl state sock

end Quiet

/-! ## Bytes -/

section Contents

variable (rewrite : List UInt8 → Nat × List UInt8)

/-- What the program makes of a frame. -/
def programRun (frame : Frame) : ProgramRun :=
  { frame := ⟨frame.desc, overwrite frame.bytes (rewrite frame.bytes).2⟩
    forward := forwarded (rewrite frame.bytes).1 }

/-- The TX frame of a run. -/
def ProgramRun.txFrame (run : ProgramRun) : Frame :=
  ⟨txDesc run.frame.desc, run.frame.bytes⟩

/-- Of the single-buffer packets of the stream, `sent` are submitted and `seen`
are processed: the bytes of the frames that the socket still holds. -/
structure Contents (sent seen : Nat) (history : History) (buffer : Memory) : Prop where
  runs : history.runs = (history.arrived.take seen).map (programRun rewrite)
  submitted : history.submitted =
    (history.arrived.take sent).map fun frame => (programRun rewrite frame).txFrame
  processed : ∀ index, sent ≤ index → index < seen →
    buffer.bytes (history.desc index).addr (history.desc index).len =
      (programRun rewrite (history.arrived.getD index default)).frame.bytes
  fresh : ∀ index, seen ≤ index → index < history.arrived.length →
    buffer.bytes (history.desc index).addr (history.desc index).len =
      (history.arrived.getD index default).bytes

variable {rewrite}
variable {sent seen : Nat} {history : History} {buffer : Memory}

/-- The program runs on the next frame and leaves the others alone. -/
theorem Contents.process (held : Contents rewrite sent seen history buffer)
    (within : seen < history.arrived.length) (ordered : sent ≤ seen) {after : Memory}
    {run : ProgramRun} (current : run = programRun rewrite (history.arrived.getD seen default))
    (left : after.bytes (history.desc seen).addr (history.desc seen).len = run.frame.bytes)
    (others : ∀ index, sent ≤ index → index < history.arrived.length → index ≠ seen →
      after.bytes (history.desc index).addr (history.desc index).len =
        buffer.bytes (history.desc index).addr (history.desc index).len) :
    Contents rewrite sent (seen + 1) { history with runs := history.runs ++ [run] } after where
  runs := by
    change history.runs ++ [run] = (history.arrived.take (seen + 1)).map _
    rw [history.take_succ within, List.map_append, held.runs, current]
    rfl
  submitted := held.submitted
  processed := by
    intro index lower upper
    rcases Nat.lt_succ_iff_lt_or_eq.mp upper with earlier | last
    · exact (others index lower (by omega) (by omega)).trans (held.processed index lower earlier)
    · subst last
      exact left.trans (congrArg (fun run => run.frame.bytes) current)
  fresh := by
    intro index lower upper
    exact (others index (by omega) upper (by omega)).trans
      (held.fresh index (by omega) upper)

/-- A submit records the bytes that the program left. -/
theorem Contents.submit (held : Contents rewrite sent seen history buffer) {count : Nat}
    (processed : sent + count ≤ seen) (within : seen ≤ history.arrived.length) :
    Contents rewrite (sent + count) seen
      { history with
        submitted := history.submitted ++
          ((List.range' sent count).map fun index => txDesc (history.desc index)).map fun desc =>
            ⟨desc, buffer.bytes desc.addr desc.len⟩ } buffer where
  runs := held.runs
  submitted := by
    change history.submitted ++ _ = (history.arrived.take (sent + count)).map _
    rw [history.map_take_add _ (by omega), held.submitted, List.map_map]
    congr 1
    apply List.map_congr_left
    intro index member
    rw [List.mem_range'_1] at member
    have bytes := held.processed index member.1 (by omega)
    unfold ProgramRun.txFrame
    rw [← bytes]
    rfl
  processed := fun index lower upper => held.processed index (by omega) upper
  fresh := held.fresh

/-- A delivery writes the bytes of the new frame and leaves the others alone. -/
theorem Contents.deliver (held : Contents rewrite sent seen history buffer)
    (ordered : sent ≤ seen) (within : seen ≤ history.arrived.length) {after : Memory}
    {frame : Frame} (stored : after.bytes frame.desc.addr frame.desc.len = frame.bytes)
    (others : ∀ index, sent ≤ index → index < history.arrived.length →
      after.bytes (history.desc index).addr (history.desc index).len =
        buffer.bytes (history.desc index).addr (history.desc index).len) :
    Contents rewrite sent seen { history with arrived := history.arrived ++ [frame] } after := by
  have kept : ∀ index < history.arrived.length,
      (history.arrived ++ [frame]).getD index default = history.arrived.getD index default := by
    intro index below
    simp [List.getElem?_append_left below]
  have keptDesc : ∀ index < history.arrived.length,
      History.desc { history with arrived := history.arrived ++ [frame] } index =
        history.desc index := by
    intro index below
    exact congrArg Frame.desc (kept index below)
  refine ⟨?_, ?_, ?_, ?_⟩
  · exact held.runs.trans (congrArg _ (List.take_append_of_le_length within).symm)
  · exact held.submitted.trans
      (congrArg _ (List.take_append_of_le_length (ordered.trans within)).symm)
  · intro index lower upper
    rw [keptDesc index (by omega), kept index (by omega), others index lower (by omega)]
    exact held.processed index lower upper
  · intro index lower upper
    replace upper : index < history.arrived.length + 1 := by simpa using upper
    rcases Nat.lt_succ_iff_lt_or_eq.mp upper with earlier | last
    · rw [keptDesc index earlier, kept index earlier, others index (by omega) earlier]
      exact held.fresh index lower earlier
    · have new : (history.arrived ++ [frame]).getD index default = frame := by
        simp [last]
      unfold History.desc
      rw [new]
      exact stored

end Contents

/-! ## Runs -/

section Runs

variable {rewrite : List UInt8 → Nat × List UInt8}

theorem ebpfProcessPacket_packetProgram (residue : ContextResidue) (memory : Memory)
    (pkt len : Nat) :
    let outcome := ebpfProcessPacket (some (packetProgram rewrite)) residue memory pkt len
    outcome.1 = forwarded (rewrite (memory.bytes pkt len)).1 ∧
      outcome.2.bytes pkt len =
        overwrite (memory.bytes pkt len) (rewrite (memory.bytes pkt len)).2 ∧
      ∀ candidate, candidate < pkt ∨ pkt + len ≤ candidate →
        outcome.2 candidate = memory candidate := by
  let context := packetContext residue pkt len
  have length : context.dataEnd - context.data = len := Nat.add_sub_cancel_left pkt len
  refine ⟨?_, ?_, ?_⟩
  · change forwarded (rewrite (memory.bytes pkt (context.dataEnd - context.data))).1 = _
    rw [length]
  · have bytes := packetProgram_bytes rewrite context memory
    rw [length] at bytes
    exact bytes
  · intro candidate outside
    exact packetProgram_memory_other rewrite context memory (by rw [length]; exact outside)

variable {options : Options} {state : State Unit}

/-- The bytes of a state's packets, at its position in the stream. -/
def State.Contents (rewrite : List UInt8 → Nat × List UInt8) (state : State Unit) : Prop :=
  AfXdp.Contents rewrite (state.socks ()).tx.producer
    (written state.nbFrags (state.pc.stage ()) (state.socks ())) (state.history ()) state.buffer

private theorem State.Contents.quiet {next : State Unit} (held : state.Contents rewrite)
    (unchanged : Quiet state next ()) : next.Contents rewrite := by
  unfold State.Contents
  rw [unchanged.sent, unchanged.seen, unchanged.history, unchanged.buffer]
  exact held

private theorem State.Contents.forwardBody {loop : ForwardLoop}
    (program : options.entryProg = some (packetProgram rewrite))
    (singleBuffer : options.frags = false) (valid : Invariant options state)
    (held : state.Contents rewrite) (position : state.pc = .forward () loop)
    (unfinished : loop.i < loop.rcvd) (residue : ContextResidue) :
    (forwardBody options residue state () loop).Contents rewrite := by
  have socket : SockInv state.nbFrags (.forwarding loop) (state.socks ()) (state.history ()) := by
    have socket := valid.sockets ()
    rwa [position, Pc.stage_forward] at socket
  have allEnd : ∀ frame ∈ (state.history ()).arrived, frame.ends = true := by
    intro frame member
    exact (valid.delivered () frame member).2.resolve_left (by simp [singleBuffer])
  have noneOpen : state.nbFrags = 0 := socket.nbFrags_eq_zero allEnd
  have seen_eq : written state.nbFrags (state.pc.stage ()) (state.socks ()) =
      (state.socks ()).tx.producer + loop.fragsDone := by
    rw [position, Pc.stage_forward, written, noneOpen]
    rfl
  obtain ⟨within, current⟩ := socket.current unfinished
  rw [position, Pc.stage_forward] at seen_eq
  rw [seen_eq] at within current
  generalize streamPosition : (state.socks ()).tx.producer + loop.fragsDone = seen at *
  unfold State.Contents at held
  rw [position, Pc.stage_forward, seen_eq] at held
  have member := (state.history ()).getD_mem within
  have ended : isEopDesc ((state.history ()).desc seen).options = true := allEnd _ member
  have fresh := held.fresh seen (Nat.le_refl seen) within
  obtain ⟨verdict, bytes, elsewhere⟩ :=
    ebpfProcessPacket_packetProgram residue state.buffer ((state.history ()).desc seen).addr
      ((state.history ()).desc seen).len
  rw [fresh] at verdict bytes
  -- The program writes inside the chunk of its frame; the other frames the
  -- socket holds are in other chunks.
  have processed := held.process within (by omega) rfl bytes ?_
  · unfold State.Contents
    have next : (state.socks ()).tx.producer + (loop.fragsDone + (0 + 1)) + 0 = seen + 1 := by
      omega
    simp only [AfXdp.forwardBody, current, noneOpen, ended, program, if_true,
      State.setHistory_socks, State.setSock_socks, State.setHistory_history,
      SharedRing.put_producer, Pc.stage_forward, written, Stage.done, next, verdict, bytes]
    exact processed
  · intro index lower upper different
    have outside : ∀ candidate,
        candidate / options.frameSize ≠ ((state.history ()).desc seen).addr / options.frameSize →
        candidate < ((state.history ()).desc seen).addr ∨
          ((state.history ()).desc seen).addr + ((state.history ()).desc seen).len ≤ candidate := by
      intro candidate other
      by_contra between
      push Not at between
      exact other (chunk_of_inside (valid.delivered () _ member).1 between.1 between.2)
    refine bytes_of_other_chunk (fun candidate other => elsewhere candidate (outside candidate other))
      (valid.delivered () _ ((state.history ()).getD_mem upper)).1 ?_
    · intro same
      exact different (valid.chunk_injective lower upper (by omega) within same)

private theorem State.Contents.submit {loop : ForwardLoop} (valid : Invariant options state)
    (held : state.Contents rewrite) (position : state.pc = .submit () loop) (seen : Nat)
    (residue : ContextResidue) :
    (driverStep options state seen residue).Contents rewrite := by
  have socket : SockInv state.nbFrags (.submitting loop) (state.socks ()) (state.history ()) := by
    have socket := valid.sockets ()
    rwa [position, Pc.stage_submit] at socket
  have within : (state.socks ()).tx.producer + loop.fragsDone + state.nbFrags + 0 ≤
      (state.history ()).arrived.length := socket.written_le
  unfold State.Contents at held ⊢
  rw [position, Pc.stage_submit] at held
  have processed : (state.socks ()).tx.producer + loop.fragsDone ≤
      written state.nbFrags (.submitting loop) (state.socks ()) := Nat.le_add_right _ state.nbFrags
  have submitted := held.submit processed within
  rw [← socket.submitting_window] at submitted
  simp only [driverStep, position, State.setHistory_socks, State.setSock_socks,
    State.setHistory_history, Pc.stage_release]
  exact submitted

private theorem State.Contents.deliver (valid : Invariant options state)
    (held : state.Contents rewrite) (address : Nat) (desc : XdpDesc) (content : Nat → UInt8) :
    (step options state (.deliver () address desc content)).Contents rewrite := by
  have socket := valid.sockets ()
  have within := socket.written_le
  simp only [AfXdp.step, SharedRing.offer]
  split
  · rename_i enabled
    obtain ⟨receiving, sameChunk, inside, -⟩ := enabled
    split
    · rename_i rx offered
      split at offered
      · cases offered
        let frame : Frame :=
          ⟨desc, (state.buffer.copyFrom desc.addr content desc.len).bytes desc.addr desc.len⟩
        have stored : (state.buffer.copyFrom desc.addr content desc.len).bytes frame.desc.addr
            frame.desc.len = frame.bytes := rfl
        have ordered : (state.socks ()).tx.producer ≤
            written state.nbFrags (state.pc.stage ()) (state.socks ()) := by
          unfold written
          omega
        have delivered := AfXdp.Contents.deliver held ordered (by omega) stored ?_
        · unfold State.Contents
          simp only [State.setHistory_socks, State.setSock_socks, State.setHistory_history]
          exact delivered
        · -- The kernel writes inside the chunk of a frame it holds.
          intro index lower upper
          refine bytes_of_other_chunk ?_ (valid.delivered () _ ((state.history ()).getD_mem upper)).1
            (valid.chunk_not_receiving receiving lower upper)
          intro candidate other
          apply Memory.copyFrom_other
          by_contra between
          push Not at between
          exact other ((chunk_of_inside inside between.1 between.2).trans sameChunk)
      · cases offered
    · exact held
  · exact held

theorem State.Contents.step (program : options.entryProg = some (packetProgram rewrite))
    (singleBuffer : options.frags = false) (valid : Invariant options state)
    (held : state.Contents rewrite) (move : Move Unit) :
    (step options state move).Contents rewrite := by
  cases move with
  | driver seen residue =>
      rcases driverStep_cases options state () seen residue with
        unchanged | ⟨loop, position, unfinished, next⟩ | ⟨loop, position⟩
      · exact held.quiet unchanged
      · simp only [AfXdp.step, next]
        exact held.forwardBody program singleBuffer valid position unfinished residue
      · exact held.submit valid position seen residue
  | deliver sock address desc content => exact held.deliver valid address desc content
  | call sock =>
      exact held.quiet (step_quiet options state () _ (by simp) (by simp))
  | takeFill =>
      exact held.quiet (step_quiet options state () _ (by simp) (by simp))
  | transmit sock =>
      exact held.quiet (step_quiet options state () _ (by simp) (by simp))
  | complete address =>
      exact held.quiet (step_quiet options state () _ (by simp) (by simp))

theorem State.Contents.exec (program : options.entryProg = some (packetProgram rewrite))
    (singleBuffer : options.frags = false) (valid : Invariant options state)
    (held : state.Contents rewrite) (moves : List (Move Unit)) :
    (exec options state moves).Contents rewrite := by
  unfold AfXdp.exec
  induction moves generalizing state with
  | nil => exact held
  | cons move rest inductionHypothesis =>
      exact inductionHypothesis (valid.step (Or.inr singleBuffer) move)
        (held.step program singleBuffer valid move)

theorem State.Contents.initial (buffer : Memory) :
    (initial options Unit buffer).Contents rewrite where
  runs := rfl
  submitted := rfl
  processed := fun index _ upper => absurd upper (Nat.not_lt_zero index)
  fresh := fun index _ upper => absurd upper (Nat.not_lt_zero index)

end Runs

/-! ## Enforcement -/

/-- The verdicts are enforced: exactly the frames whose run said so are
submitted, in order and with the bytes the program left, and beside the
completed frames it is the refused ones that went back to the fill ring. -/
structure VerdictsEnforced (state : State Unit) : Prop where
  submitted : (state.history ()).submitted =
    ((state.history ()).runs.filter ProgramRun.forward).map ProgramRun.txFrame
  refilled : state.refilled.Perm (state.reaped ++
    ((state.history ()).runs.filter fun run => !run.forward).map fun run => run.frame.desc.addr)

/-- The program lets every packet through that the driver peeked. -/
def AllForwarded (rewrite : List UInt8 → Nat × List UInt8) (state : State Unit) : Prop :=
  ∀ frame ∈ (state.history ()).arrived.take (state.socks ()).rx.cached,
    forwarded (rewrite frame.bytes).1 = true

section Enforcement

variable {rewrite : List UInt8 → Nat × List UInt8} {options : Options} {state : State Unit}

/-- Between two calls every processed frame has been submitted. -/
private theorem State.Contents.submitted_eq_runs (singleBuffer : options.frags = false)
    (valid : Invariant options state) (held : state.Contents rewrite)
    (idle : state.pc = .idle) :
    (state.history ()).runs =
        ((state.history ()).arrived.take (state.socks ()).rx.cached).map (programRun rewrite) ∧
      (state.history ()).submitted = (state.history ()).runs.map ProgramRun.txFrame := by
  have between := valid.betweenCalls idle
  have noneOpen : state.nbFrags = 0 := by
    refine (valid.sockets ()).nbFrags_eq_zero fun frame member => ?_
    exact (valid.delivered () frame member).2.resolve_left (by simp [singleBuffer])
  have reached : (state.socks ()).tx.producer = (state.socks ()).rx.cached := by
    have processed := between.processed
    have unsubmitted := between.unsubmitted
    rw [idle] at processed
    simp only [written, Pc.stage, Stage.done] at processed
    omega
  have runs := held.runs
  rw [between.processed] at runs
  refine ⟨runs, ?_⟩
  rw [held.submitted, runs, reached, List.map_map]
  rfl

private theorem State.Contents.verdictsEnforced_iff (singleBuffer : options.frags = false)
    (valid : Invariant options state) (held : state.Contents rewrite)
    (idle : state.pc = .idle) : VerdictsEnforced state ↔ AllForwarded rewrite state := by
  obtain ⟨runs, submitted⟩ := held.submitted_eq_runs singleBuffer valid idle
  have allRuns : (∀ run ∈ (state.history ()).runs, run.forward = true) ↔
      AllForwarded rewrite state := by
    rw [runs, List.forall_mem_map]
    rfl
  rw [← allRuns]
  constructor
  · intro enforced
    have lengths := congrArg List.length (submitted.symm.trans enforced.submitted)
    rw [List.length_map, List.length_map] at lengths
    exact List.length_filter_eq_length_iff.mp lengths.symm
  · intro all
    have refused : (state.history ()).runs.filter (fun run => !run.forward) = [] := by
      rw [List.filter_eq_nil_iff]
      intro run member
      simp [all run member]
    have recycled : state.refilled = state.reaped := by
      have recycled := valid.umem.recycled
      rw [idle] at recycled
      simpa [Pc.phase, CompletePhase.pending] using recycled
    refine ⟨?_, ?_⟩
    · rw [submitted, List.filter_eq_self.mpr all]
    · rw [refused, recycled]
      simp

end Enforcement

/-! ## A run with one packet -/

/-- A program that returns one verdict and leaves the packet alone. -/
def constantVerdict (verdict : Nat) (packet : List UInt8) : Nat × List UInt8 :=
  (verdict, packet)

def constantOptions (verdict : Nat) : Options :=
  { batchSize := 64
    frameSize := 4096
    frags := false
    entryProg := some (packetProgram (constantVerdict verdict))
    frameSize_pos := pageSize_pos }

/-- The kernel delivers a packet of 60 bytes and the driver makes one call. -/
def onePacket : List (Move Unit) :=
  .takeFill :: .deliver () 0 ⟨256, 60, 0⟩ (fun _ => 0) :: .call () ::
    List.replicate 7 (.driver 1 ⟨0, 0, 0, 0⟩)

/-- A call on a fresh socket whose RX ring holds one descriptor. -/
private theorem oneCall (verdict : Nat) {state : State Unit} (slots : Nat → XdpDesc)
    (idle : state.pc = .idle)
    (socks : state.socks = fun _ =>
      { freshSock with rx := { freshSock.rx with slots := slots, producer := 1 } }) :
    let final := exec (constantOptions verdict) state
      (.call () :: List.replicate 7 (.driver 1 ⟨0, 0, 0, 0⟩))
    final.pc = .idle ∧ (final.socks ()).rx.cached = 1 := by
  obtain ⟨fq, cq, buffer, current, nbFrags, pc, receiving, sending, history, reaped, refilled⟩ :=
    state
  replace idle : pc = .idle := idle
  replace socks : current = _ := socks
  subst idle socks
  exact ⟨rfl, rfl⟩

private theorem onePacket_run (verdict : Nat) :
    let final := exec (constantOptions verdict)
      (initial (constantOptions verdict) Unit fun _ => 0) onePacket
    final.pc = .idle ∧ (final.socks ()).rx.cached = 1 := by
  have wide : 316 ≤ (constantOptions verdict).frameSize := by
    show 316 ≤ 4096
    decide
  have delivered := exec_firstPacket (constantOptions verdict) wide (fun _ => 0) ()
  have call := oneCall verdict _ delivered.1
    (delivered.2.2.trans (funext fun _ => Function.update_self ..))
  have split : onePacket = firstPacket () ++
      (.call () :: List.replicate 7 (.driver 1 ⟨0, 0, 0, 0⟩)) := rfl
  rw [split, exec_append]
  exact call

/-- After every run of single-buffer packets on one socket that ends between two
calls: the driver has enforced the verdicts exactly if the program let every
packet through. -/
theorem l2fwd_enforces_verdicts_iff_all_forwarded
    (rewrite : List UInt8 → Nat × List UInt8) (options : Options)
    (program : options.entryProg = some (packetProgram rewrite))
    (singleBuffer : options.frags = false) (buffer : Memory) (moves : List (Move Unit))
    (idle : (exec options (initial options Unit buffer) moves).pc = .idle) :
    VerdictsEnforced (exec options (initial options Unit buffer) moves) ↔
      AllForwarded rewrite (exec options (initial options Unit buffer) moves) :=
  ((State.Contents.initial buffer).exec program singleBuffer (Invariant.initial options buffer)
    moves).verdictsEnforced_iff singleBuffer
    (reachable_invariant options (Or.inr singleBuffer) buffer moves) idle

theorem l2fwd_enforces_transmit_verdict :
    VerdictsEnforced (exec (constantOptions xdpTx)
      (initial (constantOptions xdpTx) Unit fun _ => 0) onePacket) := by
  have idle := (onePacket_run xdpTx).1
  exact (l2fwd_enforces_verdicts_iff_all_forwarded (constantVerdict xdpTx) _ rfl rfl _ _ idle).mpr
    fun _ _ => rfl

/-- A packet that the program drops is submitted to the TX ring. -/
theorem l2fwd_transmits_dropped_packet :
    ¬ VerdictsEnforced (exec (constantOptions xdpDrop)
      (initial (constantOptions xdpDrop) Unit fun _ => 0) onePacket) := by
  obtain ⟨idle, cached⟩ := onePacket_run xdpDrop
  have singleBuffer : (constantOptions xdpDrop).frags = false := rfl
  have program : (constantOptions xdpDrop).entryProg =
      some (packetProgram (constantVerdict xdpDrop)) := rfl
  have contents := (State.Contents.initial fun _ => 0).exec program singleBuffer
    (Invariant.initial _ _) onePacket
  have valid := reachable_invariant (constantOptions xdpDrop) (Or.inr singleBuffer) (fun _ => 0)
    onePacket
  have socket := valid.sockets ()
  have peeked : 1 ≤ ((exec (constantOptions xdpDrop)
      (initial (constantOptions xdpDrop) Unit fun _ => 0) onePacket).history ()).arrived.length := by
    rw [← socket.received, ← cached]
    exact socket.consuming.available
  obtain ⟨frame, member⟩ := List.exists_mem_of_length_pos
    (Nat.lt_of_lt_of_eq Nat.one_pos (List.length_take_of_le peeked).symm)
  intro enforced
  have all := (contents.verdictsEnforced_iff singleBuffer valid idle).mp enforced
  have refused : forwarded xdpDrop = true := all frame (by rw [cached]; exact member)
  exact absurd refused (by decide)

end UserspaceXdp.AfXdp
