import UserspaceXdp.AfXdp.Xdpsock
import UserspaceXdp.Foundation.Fragments

/-!
Contract: what the RX and the TX ring of one socket hold while `l2fwd` serves
it, relative to the stream of descriptors the kernel delivered.

Owns: the stages of `l2fwd` on one socket, the socket invariant, and one lemma
for each ring operation of the driver and of the kernel.

Does not own: the fill and completion rings, or which socket is served when.
-/

namespace UserspaceXdp.AfXdp

open UserspaceXdp.Foundation
open UserspaceXdp.Foundation.Fragments

/-- Where `l2fwd` is on one socket. -/
inductive Stage where
  | quiet
  | reserving (rcvd idxRx : Nat)
  | forwarding (loop : ForwardLoop)
  | submitting (loop : ForwardLoop)
  | releasing (loop : ForwardLoop)

namespace Stage

/-- Peeked RX descriptors that the loop has not reached. -/
def unread : Stage → Nat
  | .reserving rcvd _ => rcvd
  | .forwarding loop => loop.rcvd - loop.i
  | _ => 0

/-- Reserved TX slots that the loop has not reached. -/
def unwritten : Stage → Nat
  | .forwarding loop => loop.rcvd - loop.i
  | _ => 0

/-- Descriptors of complete packets that wait for the submit. -/
def done : Stage → Nat
  | .forwarding loop => loop.fragsDone
  | .submitting loop => loop.fragsDone
  | _ => 0

/-- Descriptors already submitted whose RX slots wait for the release. -/
def pending : Stage → Nat
  | .releasing loop => loop.fragsDone
  | _ => 0

/-- The loop indices point at descriptor `written` of the stream. -/
def Aligned (written : Nat) : Stage → Prop
  | .reserving _ idxRx => idxRx = written
  | .forwarding loop => loop.idxRx = written ∧ loop.idxTx = written ∧ loop.i ≤ loop.rcvd
  | _ => True

end Stage

/-- The last buffer of a packet. -/
def Frame.ends (frame : Frame) : Bool :=
  isEopDesc frame.desc.options

/-- How many descriptors of the stream the loop has processed. -/
def written (nbFrags : Nat) (stage : Stage) (info : XskSocketInfo) : Nat :=
  info.tx.producer + stage.done + nbFrags

/-- Entry `index` of the stream of delivered descriptors. -/
def History.desc (history : History) (index : Nat) : XdpDesc :=
  (history.arrived.getD index default).desc

structure SockInv (nbFrags : Nat) (stage : Stage) (info : XskSocketInfo)
    (history : History) : Prop where
  consuming : info.rx.Consuming
  producing : info.tx.Producing
  sameSize : info.rx.size = info.tx.size
  released : info.rx.consumer + stage.pending = info.tx.producer
  peeked : info.rx.cached = written nbFrags stage info + stage.unread
  reserved : info.tx.cached = written nbFrags stage info + stage.unwritten
  aligned : stage.Aligned (written nbFrags stage info)
  received : info.rx.producer = history.arrived.length
  rxEntries : ∀ index, info.rx.consumer ≤ index → index < info.rx.producer →
    info.rx.entry index = history.desc index
  txEntries : ∀ index, info.tx.consumer ≤ index → index < written nbFrags stage info →
    info.tx.entry index = txDesc (history.desc index)
  openFrags : nbFrags =
    openCount Frame.ends (history.arrived.take (written nbFrags stage info))
  boundary : openCount Frame.ends
    (history.arrived.take (info.tx.producer + stage.done)) = 0
  whole : openCount Frame.ends (history.arrived.take info.tx.producer) = 0
  submitted : history.submitted.map Frame.desc =
    (history.arrived.take info.tx.producer).map fun frame => txDesc frame.desc
  runs : history.runs.map (fun run => run.frame.desc) =
    (heads Frame.ends (history.arrived.take (written nbFrags stage info))).map Frame.desc

/-! ## The stream -/

theorem History.take_succ (history : History) {index : Nat}
    (below : index < history.arrived.length) :
    history.arrived.take (index + 1) =
      history.arrived.take index ++ [history.arrived.getD index default] := by
  rw [List.take_add_one, List.getElem?_eq_getElem below]
  simp [List.getElem?_eq_getElem below]

theorem History.getD_mem (history : History) {index : Nat}
    (below : index < history.arrived.length) :
    history.arrived.getD index default ∈ history.arrived := by
  rw [List.getD_eq_getElem?_getD, List.getElem?_eq_getElem below]
  exact List.getElem_mem below

theorem History.map_take_add {Value : Type} (history : History) (select : Frame → Value)
    {low count : Nat} (within : low + count ≤ history.arrived.length) :
    (history.arrived.take (low + count)).map select =
      (history.arrived.take low).map select ++
        (List.range' low count).map fun index => select (history.arrived.getD index default) := by
  induction count with
  | zero => simp
  | succ count inductionHypothesis =>
      rw [← Nat.add_assoc, history.take_succ (by omega), List.map_append,
        inductionHypothesis (by omega), List.range'_concat]
      simp

section Steps

variable {nbFrags : Nat} {stage : Stage} {info : XskSocketInfo} {history : History}

theorem SockInv.written_le (held : SockInv nbFrags stage info history) :
    written nbFrags stage info + stage.unread ≤ history.arrived.length := by
  have available := held.consuming.available
  have peeked := held.peeked
  have received := held.received
  omega

/-- No packet is open where every buffer ends one. -/
theorem SockInv.nbFrags_eq_zero (held : SockInv nbFrags stage info history)
    (allEnd : ∀ frame ∈ history.arrived, frame.ends = true) : nbFrags = 0 :=
  held.openFrags.trans
    (openCount_of_all_end fun frame member => allEnd frame (List.mem_of_mem_take member))

/-- The invariant does not depend on the counters. -/
theorem SockInv.counters (held : SockInv nbFrags stage info history) (outstandingTx : Nat)
    (ringStats : RingStats) :
    SockInv nbFrags stage
      { info with outstandingTx := outstandingTx, ringStats := ringStats } history :=
  ⟨held.consuming, held.producing, held.sameSize, held.released, held.peeked, held.reserved,
    held.aligned, held.received, held.rxEntries, held.txEntries, held.openFrags, held.boundary,
    held.whole, held.submitted, held.runs⟩

/-- `peek` on the RX ring. -/
theorem SockInv.receive (held : SockInv nbFrags .quiet info history) {count : Nat}
    (available : info.rx.cached + count ≤ info.rx.producer) :
    SockInv nbFrags (.reserving count info.rx.cached)
      { info with rx := { info.rx with cached := info.rx.cached + count } } history := by
  have peeked : info.rx.cached = info.tx.producer + 0 + nbFrags := held.peeked
  exact
    { held with
      consuming := held.consuming.advance available
      peeked := congrArg (· + count) peeked
      aligned := peeked }

/-- A successful `reserve` on the TX ring. -/
theorem SockInv.reserve {rcvd idxRx : Nat}
    (held : SockInv nbFrags (.reserving rcvd idxRx) info history)
    (fits : info.tx.cached + rcvd ≤ info.tx.consumer + info.tx.size) :
    SockInv nbFrags
      (.forwarding ⟨rcvd, 0, idxRx, info.tx.cached, 0, 0⟩)
      { info with tx := { info.tx with cached := info.tx.cached + rcvd } } history := by
  have producing := held.producing
  have reserved : info.tx.cached = info.tx.producer + 0 + nbFrags := held.reserved
  have aligned : idxRx = info.tx.producer + 0 + nbFrags := held.aligned
  exact
    { held with
      producing :=
        ⟨producing.positive, producing.published, Nat.le_add_right_of_le producing.reserved, fits⟩
      reserved := congrArg (· + rcvd) reserved
      aligned := ⟨aligned, reserved, Nat.zero_le rcvd⟩ }

/-- The loop is at the next descriptor of the stream. -/
theorem SockInv.current {loop : ForwardLoop}
    (held : SockInv nbFrags (.forwarding loop) info history) (unfinished : loop.i < loop.rcvd) :
    written nbFrags (.forwarding loop) info < history.arrived.length ∧
      info.rx.entry loop.idxRx = history.desc (written nbFrags (.forwarding loop) info) := by
  have peeked : info.rx.cached =
      written nbFrags (.forwarding loop) info + (loop.rcvd - loop.i) := held.peeked
  have released : info.rx.consumer + 0 = info.tx.producer := held.released
  have position_eq : written nbFrags (.forwarding loop) info =
      info.tx.producer + loop.fragsDone + nbFrags := rfl
  have available := held.consuming.available
  have received := held.received
  refine ⟨by omega, ?_⟩
  rw [held.aligned.1]
  exact held.rxEntries _ (by omega) (by omega)

/-- The loop body writes the TX descriptor of the next RX descriptor. -/
theorem SockInv.forward {loop : ForwardLoop}
    (held : SockInv nbFrags (.forwarding loop) info history) (unfinished : loop.i < loop.rcvd)
    {desc : XdpDesc} (current : desc = info.rx.entry loop.idxRx) {runs : List ProgramRun}
    (processed : runs.map (fun run => run.frame.desc) =
      history.runs.map (fun run => run.frame.desc) ++ if nbFrags = 0 then [desc] else []) :
    SockInv (if isEopDesc desc.options then 0 else nbFrags + 1)
      (.forwarding
        { loop with
          i := loop.i + 1
          idxRx := loop.idxRx + 1
          idxTx := loop.idxTx + 1
          fragsDone :=
            if isEopDesc desc.options then loop.fragsDone + (nbFrags + 1) else loop.fragsDone
          eopCnt := if isEopDesc desc.options then loop.eopCnt + 1 else loop.eopCnt })
      { info with tx := info.tx.put loop.idxTx (txDesc desc) } { history with runs := runs } := by
  let position := written nbFrags (.forwarding loop) info
  obtain ⟨within, atCurrent⟩ := held.current unfinished
  have atRx : loop.idxRx = position := held.aligned.1
  have atTx : loop.idxTx = position := held.aligned.2.1
  have peeked : info.rx.cached = position + (loop.rcvd - loop.i) := held.peeked
  have reserved : info.tx.cached = position + (loop.rcvd - loop.i) := held.reserved
  have released : info.rx.consumer + 0 = info.tx.producer := held.released
  have position_eq : position = info.tx.producer + loop.fragsDone + nbFrags := rfl
  have bounded := held.producing.bounded
  have published := held.producing.published
  have currentDesc : desc = history.desc position := current.trans atCurrent
  have taken := history.take_succ within
  have lastEnds : (history.arrived.getD position default).ends = isEopDesc desc.options := by
    rw [currentDesc]
    rfl
  -- The end of a packet moves the open fragments over to `frags_done`.
  have next : info.tx.producer +
      (if isEopDesc desc.options then loop.fragsDone + (nbFrags + 1) else loop.fragsDone) +
      (if isEopDesc desc.options then 0 else nbFrags + 1) = position + 1 := by
    split <;> omega
  have remaining : loop.rcvd - loop.i = loop.rcvd - (loop.i + 1) + 1 := by omega
  refine
    { consuming := held.consuming
      producing := held.producing.put _ _
      sameSize := held.sameSize
      released := released
      peeked := ?_
      reserved := ?_
      aligned := ?_
      received := held.received
      rxEntries := held.rxEntries
      txEntries := ?_
      openFrags := ?_
      boundary := ?_
      whole := held.whole
      submitted := held.submitted
      runs := ?_ }
  all_goals simp only [written, Stage.done, Stage.unread, Stage.unwritten, Stage.Aligned,
    SharedRing.put_producer, SharedRing.put_cached, SharedRing.put_consumer, next]
  · omega
  · omega
  · omega
  · intro index lower upper
    rcases Nat.lt_or_ge index position with earlier | later
    · rw [SharedRing.entry_put_other _ (by omega) (by omega) (by omega)]
      exact held.txEntries index lower earlier
    · have same : index = loop.idxTx := by omega
      rw [same, SharedRing.entry_put_same, currentDesc, atTx]
      rfl
  · rw [taken, openCount_concat, lastEnds, ← held.openFrags]
  · have boundary := held.boundary
    cases ended : isEopDesc desc.options with
    | false => exact boundary
    | true =>
        have reached : info.tx.producer + (loop.fragsDone + (nbFrags + 1)) = position + 1 := by
          omega
        rw [if_pos rfl, reached, taken, openCount_concat, lastEnds, ended, if_pos rfl]
  · rw [processed, held.runs, taken, heads_concat, ← held.openFrags, List.map_append, currentDesc]
    split <;> rfl

/-- The loop is left. -/
theorem SockInv.exit {loop : ForwardLoop}
    (held : SockInv nbFrags (.forwarding loop) info history) (finished : ¬ loop.i < loop.rcvd) :
    SockInv nbFrags (.submitting loop) info history := by
  have none : loop.rcvd - loop.i = 0 := by omega
  have peeked := held.peeked
  have reserved := held.reserved
  simp only [Stage.unread, Stage.unwritten, none] at peeked reserved
  exact { held with peeked := peeked, reserved := reserved, aligned := trivial }

/-- The descriptors that a submit publishes are those of the stream. -/
theorem SockInv.submitting_window {loop : ForwardLoop}
    (held : SockInv nbFrags (.submitting loop) info history) :
    info.tx.window info.tx.producer (info.tx.producer + loop.fragsDone) =
      (List.range' info.tx.producer loop.fragsDone).map fun index =>
        txDesc (history.desc index) := by
  have entries : ∀ index, info.tx.producer ≤ index → index < info.tx.producer + loop.fragsDone →
      info.tx.entry index = txDesc (history.desc index) := by
    intro index lower upper
    exact held.txEntries index (Nat.le_trans held.producing.published lower)
      (Nat.lt_add_right nbFrags upper)
  rw [info.tx.window_eq_map entries, Nat.add_sub_cancel_left]

/-- A submit moves addresses from the RX ring to the TX ring. -/
theorem SockInv.submitting_addresses {loop : ForwardLoop}
    (held : SockInv nbFrags (.submitting loop) info history) :
    (info.tx.window info.tx.producer (info.tx.producer + loop.fragsDone)).map XdpDesc.addr =
      (info.rx.window info.rx.consumer (info.rx.consumer + loop.fragsDone)).map XdpDesc.addr := by
  have released : info.rx.consumer + 0 = info.tx.producer := held.released
  have peeked : info.rx.cached = info.tx.producer + loop.fragsDone + nbFrags + 0 := held.peeked
  have available := held.consuming.available
  rw [held.submitting_window, ← released, Nat.add_zero, SharedRing.window, Nat.add_sub_cancel_left,
    List.map_map, List.map_map]
  apply List.map_congr_left
  intro index member
  rw [List.mem_range'_1] at member
  have entry := held.rxEntries index (by omega) (by omega)
  simp [txDesc, entry]

/-- `submit` on the TX ring: complete packets become visible to the kernel. -/
theorem SockInv.submit {loop : ForwardLoop}
    (held : SockInv nbFrags (.submitting loop) info history)
    (frames : List Frame)
    (descs : frames.map Frame.desc =
      info.tx.window info.tx.producer (info.tx.producer + loop.fragsDone)) :
    SockInv nbFrags (.releasing loop)
      { info with tx := info.tx.submit loop.fragsDone }
      { history with submitted := history.submitted ++ frames } := by
  have released : info.rx.consumer + 0 = info.tx.producer := held.released
  have reserved : info.tx.cached = info.tx.producer + loop.fragsDone + nbFrags + 0 := held.reserved
  have length : info.tx.producer + loop.fragsDone ≤ history.arrived.length := by
    have within : info.tx.producer + loop.fragsDone + nbFrags + 0 ≤ history.arrived.length :=
      held.written_le
    omega
  exact
    { held with
      producing := held.producing.submit (by omega)
      released := congrArg (· + loop.fragsDone) released
      whole := held.boundary
      submitted := by
        change (history.submitted ++ frames).map Frame.desc = _
        rw [List.map_append, held.submitted, descs, held.submitting_window]
        exact (history.map_take_add (fun frame => txDesc frame.desc) length).symm }

/-- `release` on the RX ring. -/
theorem SockInv.release {loop : ForwardLoop}
    (held : SockInv nbFrags (.releasing loop) info history) :
    SockInv nbFrags .quiet { info with rx := info.rx.release loop.fragsDone } history := by
  have released : info.rx.consumer + loop.fragsDone = info.tx.producer := held.released
  have peeked : info.rx.cached = info.tx.producer + 0 + nbFrags + 0 := held.peeked
  exact
    { held with
      consuming := held.consuming.release (by omega)
      released := released
      aligned := trivial
      rxEntries := fun index lower upper =>
        held.rxEntries index (Nat.le_of_add_right_le lower) upper }

/-- The kernel delivers one RX descriptor. -/
theorem SockInv.deliver (held : SockInv nbFrags stage info history) (frame : Frame)
    (room : info.rx.producer < info.rx.consumer + info.rx.size) :
    SockInv nbFrags stage
      { info with
        rx := { info.rx.put info.rx.producer frame.desc with producer := info.rx.producer + 1 } }
      { history with arrived := history.arrived ++ [frame] } := by
  have within := held.written_le
  have received := held.received
  have peeked := held.consuming.peeked
  have available := held.consuming.available
  have kept : ∀ count ≤ history.arrived.length,
      (history.arrived ++ [frame]).take count = history.arrived.take count :=
    fun count bound => List.take_append_of_le_length bound
  have sameDesc : ∀ index < history.arrived.length,
      History.desc { history with arrived := history.arrived ++ [frame] } index =
        history.desc index := by
    intro index below
    simp [History.desc, List.getElem?_append_left below]
  refine
    { held with
      consuming := held.consuming.offer frame.desc room
      received := ?_
      rxEntries := ?_
      txEntries := ?_
      openFrags := ?_
      boundary := ?_
      whole := ?_
      submitted := ?_
      runs := ?_ }
  · simpa using received
  · intro index lower upper
    replace lower : info.rx.consumer ≤ index := lower
    rcases Nat.lt_succ_iff_lt_or_eq.mp upper with earlier | last
    · have other : (info.rx.put info.rx.producer frame.desc).entry index = info.rx.entry index :=
        info.rx.entry_put_other (by omega) (by omega) (by omega)
      rw [sameDesc index (by omega), ← held.rxEntries index lower earlier]
      exact other
    · rw [last]
      have stored : (info.rx.put info.rx.producer frame.desc).entry info.rx.producer = frame.desc :=
        info.rx.entry_put_same _ _
      refine Eq.trans stored ?_
      simp [History.desc, received]
  · intro index lower upper
    rw [sameDesc index (Nat.lt_of_lt_of_le upper (Nat.le_of_add_right_le within))]
    exact held.txEntries index lower upper
  · refine held.openFrags.trans (congrArg _ (kept _ ?_).symm)
    exact Nat.le_of_add_right_le within
  · refine (congrArg _ (kept _ ?_)).trans held.boundary
    exact Nat.le_of_add_right_le (Nat.le_of_add_right_le within)
  · refine (congrArg _ (kept _ ?_)).trans held.whole
    exact Nat.le_of_add_right_le (Nat.le_of_add_right_le (Nat.le_of_add_right_le within))
  · refine held.submitted.trans (congrArg _ (kept _ ?_).symm)
    exact Nat.le_of_add_right_le (Nat.le_of_add_right_le (Nat.le_of_add_right_le within))
  · refine held.runs.trans (congrArg (fun seen => (heads Frame.ends seen).map Frame.desc)
      (kept _ ?_).symm)
    exact Nat.le_of_add_right_le within

/-- The kernel takes one TX descriptor. -/
theorem SockInv.transmit (held : SockInv nbFrags stage info history)
    (published : info.tx.consumer < info.tx.producer) :
    SockInv nbFrags stage
      { info with tx := { info.tx with consumer := info.tx.consumer + 1 } } history :=
  { held with
    producing := held.producing.take published
    txEntries := fun index lower upper =>
      held.txEntries index (Nat.le_of_succ_le lower) upper }

end Steps

end UserspaceXdp.AfXdp
