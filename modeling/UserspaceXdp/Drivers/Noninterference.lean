import UserspaceXdp.AfXdp.Xdpsock
import UserspaceXdp.Dpdk.Ownership

/-!
Contract: what a driver does with a packet does not depend on what its stack
held before.

Both drivers build the context in a local variable and leave `data_meta`,
`ingress_ifindex`, `rx_queue_index` and `egress_ifindex` unset.
`l2fwd_simple_forward` also uses `dst_port` without assigning it.

Owns: what can be observed of one packet on each driver, the two-run property,
and exactly which pairs of stack contents have it.

Does not own: what a program does with the fields.
-/

namespace UserspaceXdp.Drivers

open UserspaceXdp.Foundation
open UserspaceXdp.Runtime

/-! ## DPDK -/

/-- The counters of `struct l2fwd_port_statistics`. -/
inductive Counter where
  | tx
  | rx
  | dropped
  | xdpPass
  | xdpDrop
deriving DecidableEq, Repr

def Counter.read (statistics : Dpdk.PortStatistics) : Counter → Nat
  | .tx => statistics.tx
  | .rx => statistics.rx
  | .dropped => statistics.dropped
  | .xdpPass => statistics.xdpPass
  | .xdpDrop => statistics.xdpDrop

/-- The counters, each with its port, that a step changes. -/
def changedCounters (before after : Dpdk.State) : Set (Nat × Counter) :=
  {counter | counter.2.read (after.portStatistics counter.1) ≠
    counter.2.read (before.portStatistics counter.1)}

/-- What is observed of one call of `l2fwd_simple_forward`. -/
structure ForwardObservation where
  context : XdpMdUserspace
  verdict : Option Nat
  outputPort : Option Nat
  counters : Set (Nat × Counter)
  faulted : Bool

def observeForward (config : Dpdk.Config) (m : Dpdk.Mbuf) (portid : Nat) (state : Dpdk.State)
    (stack : Dpdk.StackResidue) : ForwardObservation :=
  let after := Dpdk.l2fwdSimpleForward config (some m) portid stack state
  let decision := after.decided[state.decided.length]?
  { context := m.context stack.context
    verdict := decision.map Dpdk.Decision.verdict
    outputPort := (decision.filter Dpdk.Decision.transmits).map Dpdk.Decision.dstPort
    counters := changedCounters state after
    faulted := after.faulted }

/-- Two runs that differ in the stack are observed to be the same, stay inside
the arrays, and send to the port configured for the ingress port. -/
structure ForwardNoninterference (config : Dpdk.Config) (m : Dpdk.Mbuf) (portid : Nat)
    (state : Dpdk.State) (left right : Dpdk.StackResidue) : Prop where
  same : observeForward config m portid state left = observeForward config m portid state right
  inside : (observeForward config m portid state left).faulted = false
  port : ∀ port ∈ (observeForward config m portid state left).outputPort,
    port = config.l2fwdDstPorts portid

/-- The verdict of the program on the context of this stack. -/
def programVerdict (entryProg : Option XdpProgram) (context : XdpMdUserspace) (memory : Memory) :
    Nat :=
  (ebpfModuleRunAtHandler entryProg context memory 0).verdict

/-- The unset fields agree, and so does `dst_port` where the verdict uses it: as
an index of the statistics, or as the output port, which has to be the
configured one. -/
structure StackHarmless (config : Dpdk.Config) (m : Dpdk.Mbuf) (portid : Nat)
    (state : Dpdk.State) (left right : Dpdk.StackResidue) : Prop where
  context : left.context = right.context
  counted : ∀ verdict,
    programVerdict config.entryProg (m.context left.context) state.memory = verdict →
    verdict = xdpDrop ∨ verdict = xdpPass →
      left.dstPort = right.dstPort ∧ left.dstPort < config.rteMaxEthports
  sent : ∀ verdict,
    programVerdict config.entryProg (m.context left.context) state.memory = verdict →
    verdict = xdpTx ∨ verdict = xdpRedirect →
      left.dstPort = config.l2fwdDstPorts portid ∧ right.dstPort = config.l2fwdDstPorts portid

variable {config : Dpdk.Config} {m : Dpdk.Mbuf} {portid : Nat} {state : Dpdk.State}
variable {stack left right : Dpdk.StackResidue}

theorem mbufContext_injective (m : Dpdk.Mbuf) : Function.Injective m.context := by
  rintro ⟨dataMeta, ingress, queue, egress⟩ ⟨dataMeta', ingress', queue', egress'⟩ same
  simp only [Dpdk.Mbuf.context, XdpMdUserspace.mk.injEq] at same
  obtain ⟨-, -, rfl, rfl, rfl, rfl, -, -⟩ := same
  rfl

/-- The state in which the verdict is acted on. -/
def decidedState (config : Dpdk.Config) (m : Dpdk.Mbuf) (state : Dpdk.State)
    (stack : Dpdk.StackResidue) : Dpdk.State :=
  let outcome := ebpfModuleRunAtHandler config.entryProg (m.context stack.context) state.memory 0
  { state with
    memory := outcome.memory
    decided := state.decided ++ [⟨m, outcome.verdict, stack.dstPort⟩] }

theorem l2fwdSimpleForward_eq (portid : Nat) (running : state.faulted = false) :
    Dpdk.l2fwdSimpleForward config (some m) portid stack state =
      Dpdk.switchVerdict config m stack.dstPort
        (programVerdict config.entryProg (m.context stack.context) state.memory)
        (decidedState config m state stack) := by
  have ended : ¬ state.faulted = true := by rw [running]; decide
  unfold Dpdk.l2fwdSimpleForward
  rw [if_neg ended]
  rfl

theorem switchVerdict_decided (config : Dpdk.Config) (m : Dpdk.Mbuf) (dstPort verdict : Nat)
    (state : Dpdk.State) :
    (Dpdk.switchVerdict config m dstPort verdict state).decided = state.decided := by
  have sent : (Dpdk.sendOut config m dstPort state).decided = state.decided := by
    unfold Dpdk.sendOut
    split
    · exact (Dpdk.transmit_untouched config dstPort m state).decided
    · rfl
  unfold Dpdk.switchVerdict
  split
  · split
    · rfl
    · rfl
  · exact sent
  · split
    · rfl
    · rfl
  · exact sent
  · rfl

/-- The decision that a call records. -/
theorem decision_eq (config : Dpdk.Config) (m : Dpdk.Mbuf) (portid : Nat)
    (stack : Dpdk.StackResidue) (running : state.faulted = false) :
    (Dpdk.l2fwdSimpleForward config (some m) portid stack state).decided[state.decided.length]? =
      some ⟨m, programVerdict config.entryProg (m.context stack.context) state.memory,
        stack.dstPort⟩ := by
  rw [l2fwdSimpleForward_eq portid running, switchVerdict_decided]
  exact List.getElem?_concat_length

/-- A statistics update of one counter. -/
theorem changedCounters_setStatistics {before logged : Dpdk.State}
    (same : logged.portStatistics = before.portStatistics) (port : Nat) (counter : Counter)
    {change : Dpdk.PortStatistics → Dpdk.PortStatistics}
    (changes : ∀ statistics candidate,
      candidate.read (change statistics) ≠ candidate.read statistics ↔ candidate = counter) :
    changedCounters before (logged.setStatistics port change) = {(port, counter)} := by
  funext ⟨candidatePort, candidate⟩
  apply propext
  show candidate.read (Function.update logged.portStatistics port
      (change (logged.portStatistics port)) candidatePort) ≠
    candidate.read (before.portStatistics candidatePort) ↔
      (candidatePort, candidate) = (port, counter)
  rw [same, Prod.mk.injEq]
  by_cases here : candidatePort = port
  · subst here
    rw [Function.update_self, changes]
    exact ⟨fun equal => ⟨rfl, equal⟩, fun both => both.2⟩
  · rw [Function.update_of_ne here]
    exact ⟨fun different => absurd rfl different, fun both => absurd both.1 here⟩

theorem xdpDrop_changes (statistics : Dpdk.PortStatistics) (candidate : Counter) :
    candidate.read { statistics with xdpDrop := statistics.xdpDrop + 1 } ≠
      candidate.read statistics ↔ candidate = .xdpDrop := by
  cases candidate <;> simp [Counter.read]

theorem xdpPass_changes (statistics : Dpdk.PortStatistics) (candidate : Counter) :
    candidate.read { statistics with xdpPass := statistics.xdpPass + 1 } ≠
      candidate.read statistics ↔ candidate = .xdpPass := by
  cases candidate <;> simp [Counter.read]

/-- A verdict that only counts the packet: the index has to be in the array, and
the counter at that index is the one that changes. -/
theorem observeForward_counted (portid : Nat) (running : state.faulted = false)
    (refuses : programVerdict config.entryProg (m.context stack.context) state.memory = xdpDrop ∨
      programVerdict config.entryProg (m.context stack.context) state.memory = xdpPass)
    (inside : (observeForward config m portid state stack).faulted = false) :
    stack.dstPort < config.rteMaxEthports ∧
      ∃ counter, (observeForward config m portid state stack).counters =
        {(stack.dstPort, counter)} := by
  simp only [observeForward, l2fwdSimpleForward_eq portid running] at inside ⊢
  rcases refuses with drops | passes
  · rw [drops] at inside ⊢
    simp only [Dpdk.switchVerdict] at inside ⊢
    by_cases within : stack.dstPort < config.rteMaxEthports
    · rw [if_pos within]
      exact ⟨within, .xdpDrop,
        changedCounters_setStatistics rfl stack.dstPort .xdpDrop xdpDrop_changes⟩
    · rw [if_neg within] at inside
      exact absurd inside (by simp [Dpdk.State.fault])
  · rw [passes] at inside ⊢
    simp only [Dpdk.switchVerdict] at inside ⊢
    by_cases within : stack.dstPort < config.rteMaxEthports
    · rw [if_pos within]
      exact ⟨within, .xdpPass,
        changedCounters_setStatistics rfl stack.dstPort .xdpPass xdpPass_changes⟩
    · rw [if_neg within] at inside
      exact absurd inside (by simp [Dpdk.State.fault])

/-- A verdict that sends the packet: the output port is `dst_port`. -/
theorem observeForward_outputPort (portid : Nat) (running : state.faulted = false)
    (sends : programVerdict config.entryProg (m.context stack.context) state.memory = xdpTx ∨
      programVerdict config.entryProg (m.context stack.context) state.memory = xdpRedirect) :
    (observeForward config m portid state stack).outputPort = some stack.dstPort := by
  simp only [observeForward, decision_eq config m portid stack running]
  rcases sends with transmits | redirects
  · rw [transmits]
    rfl
  · rw [redirects]
    rfl

/-- The verdicts that use `dst_port`. -/
def UsesDstPort (verdict : Nat) : Prop :=
  (verdict = xdpDrop ∨ verdict = xdpPass) ∨ (verdict = xdpTx ∨ verdict = xdpRedirect)

/-- Any other verdict leaves no trace of `dst_port`. -/
theorem observeForward_inert (portid : Nat) (running : state.faulted = false)
    (inert : ¬ UsesDstPort
      (programVerdict config.entryProg (m.context stack.context) state.memory)) :
    observeForward config m portid state stack =
      { context := m.context stack.context
        verdict := some (programVerdict config.entryProg (m.context stack.context) state.memory)
        outputPort := none
        counters := ∅
        faulted := false } := by
  obtain ⟨refusing, sending⟩ := not_or.mp inert
  obtain ⟨notDrop, notPass⟩ := not_or.mp refusing
  obtain ⟨notTx, notRedirect⟩ := not_or.mp sending
  have stays : Dpdk.l2fwdSimpleForward config (some m) portid stack state =
      decidedState config m state stack := by
    rw [l2fwdSimpleForward_eq portid running]
    unfold Dpdk.switchVerdict
    split
    · exact absurd ‹_› notDrop
    · exact absurd ‹_› notTx
    · exact absurd ‹_› notPass
    · exact absurd ‹_› notRedirect
    · rfl
  have silent : Dpdk.Decision.transmits
      ⟨m, programVerdict config.entryProg (m.context stack.context) state.memory,
        stack.dstPort⟩ = false := by
    simp only [Dpdk.Decision.transmits, Bool.or_eq_false_iff, beq_eq_false_iff_ne]
    exact ⟨notTx, notRedirect⟩
  have unchanged : changedCounters state (decidedState config m state stack) = ∅ :=
    Set.eq_empty_of_forall_notMem fun _ changed => changed rfl
  have still : (decidedState config m state stack).faulted = false := running
  have recorded := decision_eq config m portid stack running
  rw [stays] at recorded
  simp only [observeForward, stays, recorded, Option.map_some, Option.filter_some, silent,
    Bool.false_eq_true, if_false, Option.map_none, unchanged, still]

/-- With one stack content for both runs there is nothing to compare: what is
left is that the run stays inside the arrays. -/
theorem observeForward_inside (portid : Nat) (running : state.faulted = false)
    (counted : programVerdict config.entryProg (m.context stack.context) state.memory = xdpDrop ∨
        programVerdict config.entryProg (m.context stack.context) state.memory = xdpPass →
      stack.dstPort < config.rteMaxEthports)
    (sent : programVerdict config.entryProg (m.context stack.context) state.memory = xdpTx ∨
        programVerdict config.entryProg (m.context stack.context) state.memory = xdpRedirect →
      config.enabled stack.dstPort = true) :
    (observeForward config m portid state stack).faulted = false := by
  have sends (enabled : config.enabled stack.dstPort = true) :
      (Dpdk.sendOut config m stack.dstPort (decidedState config m state stack)).faulted =
        false := by
    rw [Dpdk.sendOut, if_pos enabled]
    exact (Dpdk.transmit_untouched config stack.dstPort m _).faulted.trans running
  simp only [observeForward, l2fwdSimpleForward_eq portid running]
  unfold Dpdk.switchVerdict
  split
  · rw [if_pos (counted (Or.inl ‹_›))]
    exact running
  · exact sends (sent (Or.inl ‹_›))
  · rw [if_pos (counted (Or.inr ‹_›))]
    exact running
  · exact sends (sent (Or.inr ‹_›))
  · exact running

/-- A verdict that does not send the packet has no output port. -/
theorem outputPort_sends (portid : Nat) (running : state.faulted = false) {port : Nat}
    (output : port ∈ (observeForward config m portid state stack).outputPort) :
    (programVerdict config.entryProg (m.context stack.context) state.memory = xdpTx ∨
        programVerdict config.entryProg (m.context stack.context) state.memory = xdpRedirect) ∧
      port = stack.dstPort := by
  simp only [observeForward, decision_eq config m portid stack running, Option.mem_def, Option.map_eq_some_iff,
    Option.filter_eq_some_iff, Option.some.injEq] at output
  obtain ⟨decision, ⟨rfl, transmits⟩, rfl⟩ := output
  simp only [Dpdk.Decision.transmits, Bool.or_eq_true, beq_iff_eq] at transmits
  exact ⟨transmits, rfl⟩

theorem ForwardNoninterference.stackHarmless (running : state.faulted = false)
    (noninterference : ForwardNoninterference config m portid state left right) :
    StackHarmless config m portid state left right := by
  obtain ⟨same, inside, port⟩ := noninterference
  have context : left.context = right.context :=
    mbufContext_injective m (congrArg ForwardObservation.context same)
  have insideRight : (observeForward config m portid state right).faulted = false := by
    rw [← same]
    exact inside
  refine ⟨context, ?_, ?_⟩
  · rintro verdict rfl refuses
    obtain ⟨within, counter, counters⟩ := observeForward_counted portid running refuses inside
    rw [context] at refuses
    obtain ⟨-, counter', counters'⟩ :=
      observeForward_counted portid running refuses insideRight
    rw [same, counters', Set.singleton_eq_singleton_iff, Prod.mk.injEq] at counters
    exact ⟨counters.1.symm, within⟩
  · rintro verdict rfl sends
    have output := observeForward_outputPort portid running sends
    rw [context] at sends
    have output' := observeForward_outputPort portid running sends
    have equal := output
    rw [same, output', Option.some.injEq] at equal
    have configured := port left.dstPort output
    exact ⟨configured, equal.trans configured⟩

theorem StackHarmless.forwardNoninterference (running : state.faulted = false)
    (polled : config.enabled portid = true)
    (harmless : StackHarmless config m portid state left right) :
    ForwardNoninterference config m portid state left right := by
  obtain ⟨context, counted, sent⟩ := harmless
  have enabled := config.dstPort_enabled portid polled
  have inside : (observeForward config m portid state left).faulted = false :=
    observeForward_inside portid running (fun refuses => (counted _ rfl refuses).2)
      (fun sends => by rw [(sent _ rfl sends).1]; exact enabled)
  have port : ∀ port ∈ (observeForward config m portid state left).outputPort,
      port = config.l2fwdDstPorts portid := by
    intro port output
    obtain ⟨sends, equal⟩ := outputPort_sends portid running output
    exact equal.trans (sent _ rfl sends).1
  refine ⟨?_, inside, port⟩
  by_cases uses : UsesDstPort
      (programVerdict config.entryProg (m.context left.context) state.memory)
  · have dstPort : left.dstPort = right.dstPort := by
      rcases uses with refuses | sends
      · exact (counted _ rfl refuses).1
      · exact (sent _ rfl sends).1.trans (sent _ rfl sends).2.symm
    have equal : left = right := by
      cases left
      cases right
      exact (Dpdk.StackResidue.mk.injEq ..).mpr ⟨dstPort, context⟩
    rw [equal]
  · have inert := uses
    rw [context] at inert
    rw [observeForward_inert portid running uses, observeForward_inert portid running inert,
      context]

/-! ## AF_XDP -/

/-- What is observed of one call of `ebpf_process_packet`. -/
structure ProcessObservation where
  context : XdpMdUserspace
  verdict : Nat
  forward : Bool
  memory : Memory

def observeProcess (entryProg : Option XdpProgram) (memory : Memory) (pkt len : Nat)
    (residue : ContextResidue) : ProcessObservation :=
  let result := AfXdp.ebpfProcessPacket entryProg residue memory pkt len
  { context := AfXdp.packetContext residue pkt len
    verdict := programVerdict entryProg (AfXdp.packetContext residue pkt len) memory
    forward := result.1
    memory := result.2 }

theorem packetContext_injective (pkt len : Nat) :
    Function.Injective fun residue => AfXdp.packetContext residue pkt len := by
  rintro ⟨dataMeta, ingress, queue, egress⟩ ⟨dataMeta', ingress', queue', egress'⟩ same
  simp only [AfXdp.packetContext, XdpMdUserspace.mk.injEq] at same
  obtain ⟨-, -, rfl, rfl, rfl, rfl, -, -⟩ := same
  rfl

/-! ## Both drivers -/

/-- Whatever the program, the packet and the port: two runs on different stack
contents are observed to be the same exactly if the unset context fields agree
and, on DPDK, `dst_port` does where the verdict uses it. -/
theorem drivers_noninterference_iff (config : Dpdk.Config) (m : Dpdk.Mbuf) (portid : Nat)
    (state : Dpdk.State) (left right : Dpdk.StackResidue) (entryProg : Option XdpProgram)
    (memory : Memory) (pkt len : Nat) (leftResidue rightResidue : ContextResidue) :
    (config.enabled portid = true → state.faulted = false →
      (ForwardNoninterference config m portid state left right ↔
        StackHarmless config m portid state left right)) ∧
    (observeProcess entryProg memory pkt len leftResidue =
        observeProcess entryProg memory pkt len rightResidue ↔
      leftResidue = rightResidue) := by
  constructor
  · intro polled running
    exact ⟨fun noninterference => noninterference.stackHarmless running,
      fun harmless => harmless.forwardNoninterference running polled⟩
  · refine ⟨fun same => ?_, fun equal => by rw [equal]⟩
    exact packetContext_injective pkt len (congrArg ProcessObservation.context same)

/-- A program that decides on the ingress port, as `xdp_fw` does. -/
def ingressProgram : XdpProgram :=
  fun context memory => ⟨if context.ingressIfindex = 6 then xdpTx else xdpDrop, context, memory⟩

def ingressConfig : Dpdk.Config := { Dpdk.onePort xdpTx with entryProg := some ingressProgram }

/-- A mbuf of 60 bytes. -/
def observedMbuf : Dpdk.Mbuf := ⟨1, 4096, 128, 2048, 60⟩

/-- A program that sends what one port receives, and aborts otherwise. -/
def abortingConfig : Dpdk.Config :=
  { Dpdk.onePort xdpTx with
    entryProg := some fun context memory =>
      ⟨if context.ingressIfindex = 6 then xdpTx else xdpAborted, context, memory⟩ }

/-- The verdict is neither counted nor sent, and the stacks hold other output ports. -/
theorem ingress_program_noninterference :
    ForwardNoninterference abortingConfig observedMbuf 0 (Dpdk.initial fun _ => 0)
      ⟨0, 0, 5, 0, 0⟩ ⟨9, 0, 5, 0, 0⟩ := by
  have sameContext := drivers_noninterference_iff abortingConfig observedMbuf 0
    (Dpdk.initial fun _ => 0) ⟨0, 0, 5, 0, 0⟩ ⟨9, 0, 5, 0, 0⟩ abortingConfig.entryProg (fun _ => 0)
    4096 60 ⟨0, 5, 0, 0⟩ ⟨0, 5, 0, 0⟩
  apply (sameContext.1 rfl rfl).mpr
  refine ⟨rfl, ?_, ?_⟩
  · rintro verdict rfl counted
    exact absurd counted (by decide)
  · rintro verdict rfl sent
    exact absurd sent (by decide)

/-- One packet on one port: what was on the stack decides whether the program
sends it, on both drivers. -/
theorem stack_decides_verdict :
    ¬ ForwardNoninterference ingressConfig observedMbuf 0 (Dpdk.initial fun _ => 0)
        ⟨0, 0, 6, 0, 0⟩ ⟨0, 0, 7, 0, 0⟩ ∧
      (observeProcess (some ingressProgram) (fun _ => 0) 4096 60 ⟨0, 6, 0, 0⟩).forward ≠
        (observeProcess (some ingressProgram) (fun _ => 0) 4096 60 ⟨0, 7, 0, 0⟩).forward := by
  refine ⟨fun noninterference => ?_, by decide⟩
  have harmless := noninterference.stackHarmless rfl
  exact absurd harmless.context (by decide)

end UserspaceXdp.Drivers
