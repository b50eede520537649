import UserspaceXdp.Dpdk.L2fwd
import UserspaceXdp.Foundation.Tally

/-!
Contract: who owns a received mbuf, and where it is counted.

`l2fwd_simple_forward` returns on `XDP_DROP`, on `XDP_PASS` and on any other
verdict without `rte_pktmbuf_free`, so those mbufs belong to nobody; the last
kind is not counted either.

Owns: the contract that no mbuf is lost and every packet is counted once, the
books that every run keeps, and the condition under which the contract holds.

Does not own: whether a packet leaves through the right port.
-/

namespace UserspaceXdp.Dpdk

open UserspaceXdp.Foundation
open UserspaceXdp.Runtime

/-! ## The contract -/

/-- The mbufs in the TX buffers. -/
def buffered (config : Config) (state : State) : Multiset Mbuf :=
  ∑ port ∈ Finset.range config.rteMaxEthports, (state.txBuffer port : Multiset Mbuf)

/-- The packets counted in exactly one of `tx`, `dropped`, `xdp_drop` and
`xdp_pass` of some port. -/
def counted (config : Config) (state : State) : Nat :=
  ∑ port ∈ Finset.range config.rteMaxEthports,
    ((state.portStatistics port).tx + (state.portStatistics port).dropped +
      ((state.portStatistics port).xdpDrop + (state.portStatistics port).xdpPass))

/-- Every received mbuf was handed over once, to a TX buffer or to the pool, and
what has left the TX buffers is counted once. -/
structure Accounted (config : Config) (state : State) : Prop where
  running : state.faulted = false
  owned : (state.received : Multiset Mbuf) =
    state.transmitted + state.freed + buffered config state
  countedOnce : counted config state + (buffered config state).card = state.received.length

/-! ## The books -/

/-- The verdicts that hand the mbuf to a TX buffer. -/
def Decision.transmits (decision : Decision) : Bool :=
  decision.verdict == xdpTx || decision.verdict == xdpRedirect

/-- The verdicts that only count the packet. -/
def Decision.refuses (decision : Decision) : Bool :=
  decision.verdict == xdpDrop || decision.verdict == xdpPass

/-- The decision leads to a TX buffer that exists. -/
def Decision.Delivers (config : Config) (decision : Decision) : Prop :=
  decision.transmits = true ∧ config.enabled decision.dstPort = true

/-- What the books say of the mbufs that decisions have sent on their way. -/
structure Outgoing (config : Config) (state : State) (mbufs : List Mbuf) : Prop where
  owned : (mbufs : Multiset Mbuf) = state.transmitted + state.freed + buffered config state
  sent : ∑ port ∈ Finset.range config.rteMaxEthports,
      ((state.portStatistics port).tx + (state.portStatistics port).dropped) +
      (buffered config state).card = mbufs.length

/-- The books of a run, with `pending` mbufs of the current burst still to be
processed. -/
structure Books (config : Config) (state : State) (pending : List Mbuf) : Prop where
  received : state.received = state.decided.map Decision.mbuf ++ pending
  outgoing : Outgoing config state
    ((state.decided.filter Decision.transmits).map Decision.mbuf)
  refused : ∑ port ∈ Finset.range config.rteMaxEthports,
      ((state.portStatistics port).xdpDrop + (state.portStatistics port).xdpPass) =
    (state.decided.filter Decision.refuses).length
  enabled : ∀ decision ∈ state.decided, decision.transmits = true →
    config.enabled decision.dstPort = true

/-- A run keeps its books until it faults, and it faults on a bad decision. -/
structure Run (config : Config) (state : State) (pending : List Mbuf) : Prop where
  books : state.faulted = false → Books config state pending
  fault : state.faulted = true → ∃ decision ∈ state.decided, ¬ decision.Delivers config

variable {config : Config} {state : State} {pending : List Mbuf}

/-! ## TX buffers -/

/-- What a flush of `port` does, when the port accepts `sent` mbufs. -/
structure Flushed (port sent : Nat) (before after : State) : Prop where
  txBuffer : after.txBuffer = Function.update before.txBuffer port []
  transmitted : after.transmitted = before.transmitted ++ (before.txBuffer port).take sent
  freed : after.freed = before.freed ++ (before.txBuffer port).drop sent
  statistics : after.portStatistics = Function.update before.portStatistics port
    { before.portStatistics port with
      tx := (before.portStatistics port).tx + sent
      dropped := (before.portStatistics port).dropped + ((before.txBuffer port).length - sent) }
  faulted : after.faulted = before.faulted
  received : after.received = before.received
  decided : after.decided = before.decided
  queued : after.queued = before.queued

theorem flush_spec (config : Config) (port : Nat) (state : State) :
    ∃ sent ≤ (state.txBuffer port).length,
      Flushed port sent state (countSent port (rteEthTxBufferFlush config port state)) := by
  unfold rteEthTxBufferFlush
  by_cases empty : (state.txBuffer port).length = 0
  · have nothing : state.txBuffer port = [] := List.eq_nil_of_length_eq_zero empty
    refine ⟨0, Nat.zero_le _, ?_⟩
    rw [if_pos empty]
    exact
      { txBuffer := by simp [countSent, ← nothing]
        transmitted := by simp [countSent]
        freed := by simp [countSent, nothing]
        statistics := by simp [countSent, empty]
        faulted := rfl
        received := rfl
        decided := rfl
        queued := rfl }
  · refine ⟨min (config.txBurst state.txCalls port) (state.txBuffer port).length,
      Nat.min_le_right _ _, ?_⟩
    rw [if_neg empty]
    generalize min (config.txBurst state.txCalls port) (state.txBuffer port).length = sent
    by_cases all : sent = (state.txBuffer port).length
    · subst all
      rw [if_pos rfl]
      simp only [countSent, if_neg empty]
      exact
        { txBuffer := rfl
          transmitted := rfl
          freed := by simp [State.setStatistics]
          statistics := by simp [State.setStatistics]
          faulted := rfl
          received := rfl
          decided := rfl
          queued := rfl }
    · rw [if_neg all]
      by_cases none : sent = 0
      · subst none
        exact
          { txBuffer := rfl
            transmitted := rfl
            freed := rfl
            statistics := rfl
            faulted := rfl
            received := rfl
            decided := rfl
            queued := rfl }
      · simp only [countSent, if_neg none]
        exact
          { txBuffer := rfl
            transmitted := rfl
            freed := rfl
            statistics := by simp [State.setStatistics]
            faulted := rfl
            received := rfl
            decided := rfl
            queued := rfl }

/-- Replacing a TX buffer replaces its mbufs among the buffered ones. -/
private theorem buffered_update {port : Nat} (within : port < config.rteMaxEthports)
    (state : State) {after : State} {pkts : List Mbuf}
    (replaced : after.txBuffer = Function.update state.txBuffer port pkts) :
    buffered config after + (state.txBuffer port : Multiset Mbuf) =
      buffered config state + (pkts : Multiset Mbuf) := by
  unfold buffered
  rw [replaced]
  exact sum_update (Finset.mem_range.mpr within) state.txBuffer pkts fun pkts =>
    (pkts : Multiset Mbuf)

/-- A flush moves mbufs from the buffer to the port or to the pool. -/
theorem Outgoing.flush {after : State} {mbufs : List Mbuf} {port sent : Nat}
    (held : Outgoing config state mbufs) (within : port < config.rteMaxEthports)
    (atMost : sent ≤ (state.txBuffer port).length) (flushed : Flushed port sent state after) :
    Outgoing config after mbufs := by
  have emptied := buffered_update within state flushed.txBuffer
  rw [Multiset.coe_nil, add_zero] at emptied
  refine ⟨?_, ?_⟩
  · rw [held.owned, ← emptied, flushed.transmitted, flushed.freed]
    nth_rewrite 1 [← List.take_append_drop sent (state.txBuffer port)]
    simp only [← Multiset.coe_add]
    abel
  · have statistics := sum_update (Finset.mem_range.mpr within) state.portStatistics
      { state.portStatistics port with
        tx := (state.portStatistics port).tx + sent
        dropped := (state.portStatistics port).dropped + ((state.txBuffer port).length - sent) }
      fun statistics => statistics.tx + statistics.dropped
    have balance := held.sent
    have count := congrArg Multiset.card emptied
    rw [Multiset.card_add, Multiset.coe_card] at count
    rw [flushed.statistics]
    simp only at statistics ⊢
    omega

theorem rteEthTxBuffer_cases (config : Config) (port : Nat) (m : Mbuf) (state : State) :
    countSent port (rteEthTxBuffer config port m state) = state.append port m ∨
      countSent port (rteEthTxBuffer config port m state) =
        countSent port (rteEthTxBufferFlush config port (state.append port m)) := by
  unfold rteEthTxBuffer
  by_cases room : (state.txBuffer port).length + 1 < maxPktBurst
  · left
    rw [if_pos room]
    rfl
  · right
    rw [if_neg room]

/-- `rte_eth_tx_buffer` takes one more mbuf. -/
theorem Outgoing.transmit {mbufs : List Mbuf} {port : Nat} (held : Outgoing config state mbufs)
    (within : port < config.rteMaxEthports) (m : Mbuf) :
    Outgoing config (countSent port (rteEthTxBuffer config port m state)) (mbufs ++ [m]) := by
  have grown : buffered config (state.append port m) = buffered config state + {m} := by
    have replaced : buffered config (state.append port m) + (state.txBuffer port : Multiset Mbuf) =
        buffered config state + ((state.txBuffer port ++ [m] : List Mbuf) : Multiset Mbuf) :=
      buffered_update within state rfl
    rw [← Multiset.coe_add, ← add_assoc, add_right_comm] at replaced
    exact add_right_cancel replaced
  have taken : Outgoing config (state.append port m) (mbufs ++ [m]) := by
    refine ⟨?_, ?_⟩
    · rw [← Multiset.coe_add, held.owned, grown, ← add_assoc]
      rfl
    · have balance := held.sent
      rw [grown, Multiset.card_add, Multiset.card_singleton, List.length_append,
        List.length_singleton, ← balance]
      exact (Nat.add_assoc _ _ _).symm
  rcases rteEthTxBuffer_cases config port m state with stored | flushing
  · rw [stored]
    exact taken
  · rw [flushing]
    obtain ⟨sent, atMost, flushed⟩ := flush_spec config port (state.append port m)
    exact taken.flush within atMost flushed

/-- The parts of the state that the TX buffer functions leave alone. -/
structure Untouched (before after : State) : Prop where
  faulted : after.faulted = before.faulted
  received : after.received = before.received
  decided : after.decided = before.decided
  refusals : ∀ port, (after.portStatistics port).xdpDrop + (after.portStatistics port).xdpPass =
    (before.portStatistics port).xdpDrop + (before.portStatistics port).xdpPass

theorem Flushed.untouched {before after : State} {port sent : Nat}
    (flushed : Flushed port sent before after) : Untouched before after where
  faulted := flushed.faulted
  received := flushed.received
  decided := flushed.decided
  refusals := by
    intro candidate
    rw [flushed.statistics]
    rcases eq_or_ne candidate port with rfl | different
    · simp
    · rw [Function.update_of_ne different]

theorem transmit_untouched (config : Config) (port : Nat) (m : Mbuf) (state : State) :
    Untouched state (countSent port (rteEthTxBuffer config port m state)) := by
  rcases rteEthTxBuffer_cases config port m state with stored | flushing
  · rw [stored]
    exact ⟨rfl, rfl, rfl, fun _ => rfl⟩
  · rw [flushing]
    obtain ⟨sent, -, flushed⟩ := flush_spec config port (state.append port m)
    have untouched := flushed.untouched
    exact ⟨untouched.faulted, untouched.received, untouched.decided, untouched.refusals⟩

/-! ## One packet -/

/-- Sum of the refusal counters. -/
private def refusals (config : Config) (state : State) : Nat :=
  ∑ port ∈ Finset.range config.rteMaxEthports,
    ((state.portStatistics port).xdpDrop + (state.portStatistics port).xdpPass)

/-- One more decision in the books. -/
private theorem Books.decide {after : State} {m : Mbuf} {rest : List Mbuf}
    (held : Books config state (m :: rest)) (decision : Decision) (own : decision.mbuf = m)
    (received : after.received = state.received)
    (decided : after.decided = state.decided ++ [decision])
    (outgoing : Outgoing config after
      ((state.decided.filter Decision.transmits).map Decision.mbuf ++
        if decision.transmits then [decision.mbuf] else []))
    (refused : refusals config after =
      refusals config state + if decision.refuses then 1 else 0)
    (enabled : decision.transmits = true → config.enabled decision.dstPort = true) :
    Books config after rest where
  received := by simp [received, decided, held.received, own]
  outgoing := by
    rw [decided, List.filter_append, List.map_append]
    cases transmits : decision.transmits <;> simpa [transmits] using outgoing
  refused := by
    have before := held.refused
    rw [decided, List.filter_append, List.length_append, ← before]
    refine refused.trans ?_
    cases refuses : decision.refuses <;> simp [refuses, refusals]
  enabled := by
    intro candidate member transmits
    rw [decided, List.mem_append, List.mem_singleton] at member
    rcases member with old | rfl
    · exact held.enabled candidate old transmits
    · exact enabled transmits

/-- A refusal counter of one port goes up. -/
private theorem refusals_setStatistics {port : Nat} (within : port < config.rteMaxEthports)
    (state : State) {change : PortStatistics → PortStatistics}
    (counted : ∀ statistics, (change statistics).xdpDrop + (change statistics).xdpPass =
      statistics.xdpDrop + statistics.xdpPass + 1) :
    refusals config (state.setStatistics port change) = refusals config state + 1 := by
  have updated := sum_update (Finset.mem_range.mpr within) state.portStatistics
    (change (state.portStatistics port)) fun statistics => statistics.xdpDrop + statistics.xdpPass
  have grown := counted (state.portStatistics port)
  unfold refusals State.setStatistics
  simp only at updated ⊢
  omega

/-- A statistics change that keeps `tx` and `dropped` keeps the outgoing books. -/
private theorem Outgoing.setStatistics {mbufs : List Mbuf} {port : Nat}
    {change : PortStatistics → PortStatistics} (held : Outgoing config state mbufs)
    (kept : ∀ statistics, (change statistics).tx + (change statistics).dropped =
      statistics.tx + statistics.dropped) :
    Outgoing config (state.setStatistics port change) mbufs := by
  refine ⟨held.owned, ?_⟩
  rw [← held.sent]
  congr 1
  apply Finset.sum_congr rfl
  intro candidate _
  rcases eq_or_ne candidate port with rfl | different
  · simp [State.setStatistics, kept]
  · simp [State.setStatistics, Function.update_of_ne different]

/-- A run that goes on has its books in order. -/
private theorem Run.of_books (running : state.faulted = false)
    (books : Books config state pending) : Run config state pending :=
  ⟨fun _ => books, fun faulted => absurd (running.symm.trans faulted) (by decide)⟩

private theorem Run.of_fault {decision : Decision} (faulted : state.faulted = true)
    (member : decision ∈ state.decided) (bad : ¬ decision.Delivers config) :
    Run config state pending :=
  ⟨fun running => absurd (running.symm.trans faulted) (by decide), fun _ => ⟨decision, member, bad⟩⟩

section Switch

variable {m : Mbuf} {rest : List Mbuf} {dstPort verdict : Nat} {memory : Memory}

/-- The state once the program has decided about `m`. -/
private def logged (state : State) (memory : Memory) (decision : Decision) : State :=
  { state with memory := memory, decided := state.decided ++ [decision] }

private theorem mem_logged (state : State) (memory : Memory) (decision : Decision) :
    decision ∈ (logged state memory decision).decided :=
  List.mem_append_right _ (List.mem_singleton_self _)

private theorem Books.outgoing_logged (held : Books config state pending) (memory : Memory)
    (decision : Decision) :
    Outgoing config (logged state memory decision)
      ((state.decided.filter Decision.transmits).map Decision.mbuf) :=
  ⟨held.outgoing.owned, held.outgoing.sent⟩

/-- `XDP_DROP` and `XDP_PASS`: the packet is counted and forgotten. -/
private theorem Run.refuse (held : Books config state (m :: rest))
    (running : state.faulted = false) (change : PortStatistics → PortStatistics)
    (refuses : (⟨m, verdict, dstPort⟩ : Decision).refuses = true)
    (keepsSent : (⟨m, verdict, dstPort⟩ : Decision).transmits = false)
    (sameSent : ∀ statistics, (change statistics).tx + (change statistics).dropped =
      statistics.tx + statistics.dropped)
    (oneMore : ∀ statistics, (change statistics).xdpDrop + (change statistics).xdpPass =
      statistics.xdpDrop + statistics.xdpPass + 1) :
    Run config
      (if dstPort < config.rteMaxEthports then
        (logged state memory ⟨m, verdict, dstPort⟩).setStatistics dstPort change
      else (logged state memory ⟨m, verdict, dstPort⟩).fault) rest := by
  split
  · rename_i within
    refine Run.of_books running (held.decide ⟨m, verdict, dstPort⟩ rfl rfl rfl ?_ ?_ ?_)
    · rw [keepsSent, if_neg (by decide), List.append_nil]
      exact (held.outgoing_logged memory _).setStatistics sameSent
    · rw [refuses, if_pos rfl]
      exact refusals_setStatistics within (logged state memory _) oneMore
    · rw [keepsSent]
      exact nofun
  · refine Run.of_fault rfl (mem_logged state memory ⟨m, verdict, dstPort⟩) fun delivers => ?_
    exact absurd (keepsSent.symm.trans delivers.1) (by decide)

/-- `XDP_TX` and `XDP_REDIRECT`: the mbuf goes to the TX buffer of `dst_port`. -/
private theorem Run.sendOut (held : Books config state (m :: rest))
    (running : state.faulted = false)
    (transmits : (⟨m, verdict, dstPort⟩ : Decision).transmits = true) :
    Run config (sendOut config m dstPort (logged state memory ⟨m, verdict, dstPort⟩)) rest := by
  unfold Dpdk.sendOut
  split
  · rename_i enabled
    have untouched := transmit_untouched config dstPort m (logged state memory ⟨m, verdict, dstPort⟩)
    refine Run.of_books (untouched.faulted.trans running)
      (held.decide ⟨m, verdict, dstPort⟩ rfl untouched.received untouched.decided ?_ ?_ ?_)
    · rw [if_pos transmits]
      exact (held.outgoing_logged memory _).transmit (config.enabled_lt dstPort enabled) m
    · have refuses : (⟨m, verdict, dstPort⟩ : Decision).refuses = false := by
        simp only [Decision.transmits, Bool.or_eq_true, beq_iff_eq] at transmits
        rcases transmits with rfl | rfl <;> rfl
      rw [refuses]
      exact Finset.sum_congr rfl fun port _ => untouched.refusals port
    · exact fun _ => enabled
  · rename_i disabled
    exact Run.of_fault rfl (mem_logged state memory ⟨m, verdict, dstPort⟩)
      fun delivers => disabled delivers.2

private theorem Run.switchVerdict (held : Books config state (m :: rest))
    (running : state.faulted = false) :
    Run config
      (switchVerdict config m dstPort verdict (logged state memory ⟨m, verdict, dstPort⟩))
      rest := by
  unfold Dpdk.switchVerdict
  split
  · exact Run.refuse held running _ rfl rfl (fun _ => rfl) fun _ => Nat.succ_add _ _
  · exact Run.sendOut held running rfl
  · exact Run.refuse held running _ rfl rfl (fun _ => rfl) fun _ => rfl
  · exact Run.sendOut held running rfl
  · rename_i notDrop notTx notPass notRedirect
    have transmits : (⟨m, verdict, dstPort⟩ : Decision).transmits = false := by
      rw [Decision.transmits, Bool.or_eq_false_iff, beq_eq_false_iff_ne, beq_eq_false_iff_ne]
      exact ⟨notTx, notRedirect⟩
    have refuses : (⟨m, verdict, dstPort⟩ : Decision).refuses = false := by
      rw [Decision.refuses, Bool.or_eq_false_iff, beq_eq_false_iff_ne, beq_eq_false_iff_ne]
      exact ⟨notDrop, notPass⟩
    refine Run.of_books running (held.decide ⟨m, verdict, dstPort⟩ rfl rfl rfl ?_ ?_ ?_)
    · rw [transmits, if_neg (by decide), List.append_nil]
      exact held.outgoing_logged memory _
    · rw [refuses]
      rfl
    · rw [transmits]
      exact nofun

end Switch

theorem Run.simpleForward {m : Mbuf} {rest : List Mbuf} (held : Run config state (m :: rest))
    (portid : Nat) (stack : StackResidue) :
    Run config (l2fwdSimpleForward config (some m) portid stack state) rest := by
  unfold l2fwdSimpleForward
  by_cases faulted : state.faulted = true
  · rw [if_pos faulted]
    exact ⟨fun running => absurd (running.symm.trans faulted) (by decide), held.fault⟩
  · rw [if_neg faulted]
    have running := Bool.eq_false_of_not_eq_true faulted
    exact Run.switchVerdict (held.books running) running

/-! ## The main loop -/

theorem Run.forwardBurst {burst : List Arrival} {rest : List Mbuf} {portid : Nat}
    (held : Run config state (burst.map Arrival.mbuf ++ rest)) :
    Run config
      (burst.foldl
        (fun state arrival =>
          l2fwdSimpleForward config (some arrival.mbuf) portid arrival.stack state)
        state) rest := by
  induction burst generalizing state with
  | nil => exact held
  | cons arrival remaining inductionHypothesis =>
      exact inductionHypothesis (held.simpleForward portid arrival.stack)

/-- A burst is received: `rx` is not part of the books. -/
private theorem Books.receive (held : Books config state []) (port : Nat) (burst : List Arrival) :
    Books config
      { state.setStatistics port fun statistics =>
          { statistics with rx := statistics.rx + burst.length } with
        memory := receiveContents state.memory burst
        received := state.received ++ burst.map Arrival.mbuf }
      (burst.map Arrival.mbuf ++ []) := by
  have outgoing : Outgoing config
      (state.setStatistics port fun statistics =>
        { statistics with rx := statistics.rx + burst.length })
      ((state.decided.filter Decision.transmits).map Decision.mbuf) :=
    held.outgoing.setStatistics fun _ => rfl
  refine
    { received := ?_
      outgoing := ⟨outgoing.owned, outgoing.sent⟩
      refused := ?_
      enabled := held.enabled }
  · simp [held.received, State.setStatistics]
  · refine Eq.trans (Finset.sum_congr rfl fun candidate _ => ?_) held.refused
    rcases eq_or_ne candidate port with rfl | different
    · simp [State.setStatistics]
    · simp [State.setStatistics, Function.update_of_ne different]

theorem Run.receivePort (held : Run config state []) (bursts : Nat → List Arrival)
    (rxPort : Nat × Nat) : Run config (receivePort config bursts state rxPort) [] := by
  unfold Dpdk.receivePort
  by_cases faulted : state.faulted = true
  · rw [if_pos faulted]
    exact held
  · rw [if_neg faulted]
    have running := Bool.eq_false_of_not_eq_true faulted
    dsimp only
    split
    · exact held
    · apply Run.forwardBurst
      exact Run.of_books running ((held.books running).receive rxPort.1 _)

theorem Run.drainPort (held : Run config state []) {rxPort : Nat}
    (member : rxPort ∈ config.rxPortList) : Run config (drainPort config state rxPort) [] := by
  unfold Dpdk.drainPort
  by_cases faulted : state.faulted = true
  · rw [if_pos faulted]
    exact held
  · rw [if_neg faulted]
    have running := Bool.eq_false_of_not_eq_true faulted
    have books := held.books running
    have enabled := config.dstPort_enabled rxPort (config.rxPortList_enabled rxPort member)
    obtain ⟨sent, atMost, flushed⟩ := flush_spec config (config.l2fwdDstPorts rxPort) state
    have untouched := flushed.untouched
    refine Run.of_books (untouched.faulted.trans running) ?_
    have outgoing := books.outgoing.flush (config.enabled_lt _ enabled) atMost flushed
    exact
      { received := by rw [untouched.received, untouched.decided, books.received]
        outgoing := by rw [untouched.decided]; exact outgoing
        refused := by
          rw [untouched.decided, ← books.refused]
          exact Finset.sum_congr rfl fun port _ => untouched.refusals port
        enabled := by rw [untouched.decided]; exact books.enabled }

/-- A fold of steps that keep the books keeps them. -/
private theorem Run.foldl {Item : Type} {next : State → Item → State} {items : List Item}
    (held : Run config state [])
    (kept : ∀ item ∈ items, ∀ state, Run config state [] → Run config (next state item) []) :
    Run config (items.foldl next state) [] := by
  induction items generalizing state with
  | nil => exact held
  | cons item rest inductionHypothesis =>
      apply inductionHypothesis (kept item (by simp) state held)
      intro later member
      exact kept later (by simp [member])

theorem Run.turn (held : Run config state []) (choice : Turn) :
    Run config (turn config state choice) [] := by
  unfold Dpdk.turn
  apply Run.foldl
  · split
    · exact held.foldl fun rxPort member _ before => before.drainPort member
    · exact held
  · exact fun rxPort _ _ before => before.receivePort choice.bursts rxPort

theorem Run.initial (config : Config) (memory : Memory) : Run config (initial memory) [] := by
  refine Run.of_books rfl ?_
  exact
    { received := rfl
      outgoing := ⟨by simp [Dpdk.initial, buffered], by simp [Dpdk.initial, buffered]⟩
      refused := by simp [Dpdk.initial]
      enabled := fun decision member => absurd member List.not_mem_nil }

theorem run_mainLoop (config : Config) (memory : Memory) (turns : List Turn) :
    Run config (l2fwdMainLoop config (Dpdk.initial memory) turns) [] :=
  (Run.initial config memory).foldl fun choice _ _ before => before.turn choice

/-! ## When the contract holds -/

private theorem Run.accounted_iff (held : Run config state []) :
    Accounted config state ↔ ∀ decision ∈ state.decided, decision.Delivers config := by
  constructor
  · intro accounted decision member
    have books := held.books accounted.running
    -- As many mbufs were handed over as were received, so no decision kept one.
    have handedOver := congrArg Multiset.card (books.outgoing.owned.trans accounted.owned.symm)
    rw [Multiset.coe_card, Multiset.coe_card, books.received, List.append_nil, List.length_map,
      List.length_map] at handedOver
    have transmits := List.length_filter_eq_length_iff.mp handedOver decision member
    exact ⟨transmits, books.enabled decision member transmits⟩
  · intro delivers
    have running : state.faulted = false := by
      by_contra faulted
      obtain ⟨decision, member, bad⟩ := held.fault (Bool.eq_true_of_not_eq_false faulted)
      exact bad (delivers decision member)
    have books := held.books running
    have all : state.decided.filter Decision.transmits = state.decided :=
      List.filter_eq_self.mpr fun decision member => (delivers decision member).1
    have none : state.decided.filter Decision.refuses = [] := by
      rw [List.filter_eq_nil_iff]
      intro decision member
      have transmits := (delivers decision member).1
      simp only [Decision.transmits, Bool.or_eq_true, beq_iff_eq] at transmits
      rcases transmits with verdict | verdict <;> simp [Decision.refuses, verdict]
    have owned := books.outgoing.owned
    have sent := books.outgoing.sent
    have refused := books.refused
    have received : state.received = state.decided.map Decision.mbuf := by
      simpa using books.received
    rw [all] at owned sent
    rw [none, List.length_nil] at refused
    refine ⟨running, by rw [received, owned], ?_⟩
    unfold counted
    rw [Finset.sum_add_distrib, refused, Nat.add_zero, sent, received]

/-- After every run of the main loop: every mbuf is owned and every packet
counted once exactly if the program sent every packet on, and to a port that is
in use. -/
theorem l2fwd_accounts_for_mbufs_iff_all_delivered (config : Config) (memory : Memory)
    (turns : List Turn) :
    let final := l2fwdMainLoop config (initial memory) turns
    Accounted config final ↔ ∀ decision ∈ final.decided, decision.Delivers config :=
  (run_mainLoop config memory turns).accounted_iff

/-- One port, and a program with one verdict. -/
def onePort (verdict : Nat) : Config :=
  { rteMaxEthports := 32
    enabled := fun port => port == 0
    l2fwdDstPorts := fun _ => 0
    rxPortList := [0]
    entryProg := some fun context memory => ⟨verdict, context, memory⟩
    txBurst := fun _ _ => 0
    enabled_lt := by
      intro port enabled
      rw [beq_iff_eq] at enabled
      omega
    rxPortList_enabled := by decide
    dstPort_enabled := fun _ _ => rfl }

/-- One packet arrives. -/
def onePacket : List Turn :=
  [{ drain := false
     bursts := fun _ => [⟨⟨1, 4096, 128, 2048, 60⟩, fun _ => 0, ⟨0, ⟨0, 0, 0, 0⟩⟩⟩] }]

/-- The mbuf of a packet that the program drops belongs to nobody. -/
theorem l2fwd_leaks_dropped_mbuf :
    ¬ Accounted (onePort xdpDrop) (l2fwdMainLoop (onePort xdpDrop) (initial fun _ => 0) onePacket) := by
  rw [(run_mainLoop (onePort xdpDrop) (fun _ => 0) onePacket).accounted_iff]
  intro delivers
  have dropped := delivers ⟨⟨1, 4096, 128, 2048, 60⟩, xdpDrop, 0⟩ (List.mem_singleton_self _)
  exact absurd dropped.1 (by decide)

end UserspaceXdp.Dpdk
