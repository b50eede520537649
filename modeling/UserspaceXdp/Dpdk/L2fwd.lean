import UserspaceXdp.Runtime.Context

/-!
Contract: the DPDK driver of `dpdk/main.c`: `l2fwd_simple_forward` and
`l2fwd_main_loop` of one lcore.

Owns: the per-port TX buffers and statistics, the forwarding of one packet with
every verdict, the drain of the TX buffers and the receive bursts, and the
record of what happened to each mbuf. The TX buffer functions are those that
DPDK documents: a full buffer is flushed, and what the port does not accept goes
to the error callback, which here is `rte_eth_tx_buffer_count_callback`: it
frees the mbufs and counts them.

Does not own: the set-up of the ports. `dst_port` is not assigned before its
uses (the assignment is commented out), so its value is whatever the stack held.
An access outside an array or through an unset TX buffer ends the run.
-/

namespace UserspaceXdp.Dpdk

open UserspaceXdp.Foundation
open UserspaceXdp.Runtime

def maxPktBurst : Nat := 32

/-- The fields of `struct rte_mbuf` that the driver reads, with an identity. -/
structure Mbuf where
  id : Nat
  bufAddr : Nat
  dataOff : Nat
  bufLen : Nat
  dataLen : Nat
deriving DecidableEq, Repr

/-- `rte_pktmbuf_mtod`. -/
def Mbuf.mtod (m : Mbuf) : Nat := m.bufAddr + m.dataOff

structure PortStatistics where
  tx : Nat
  rx : Nat
  dropped : Nat
  xdpPass : Nat
  xdpDrop : Nat
deriving DecidableEq, Repr

/-- What an uninitialised stack frame of `l2fwd_simple_forward` holds. -/
structure StackResidue where
  dstPort : Nat
  context : ContextResidue
deriving DecidableEq, Repr

/-- The ports as `main` leaves them, and the port hardware: `txBurst call port`
is how many packets `rte_eth_tx_burst` is ready to accept. -/
structure Config where
  rteMaxEthports : Nat
  enabled : Nat → Bool
  l2fwdDstPorts : Nat → Nat
  rxPortList : List Nat
  entryProg : Option XdpProgram
  txBurst : Nat → Nat → Nat
  enabled_lt : ∀ port, enabled port = true → port < rteMaxEthports
  rxPortList_enabled : ∀ port ∈ rxPortList, enabled port = true
  dstPort_enabled : ∀ port, enabled port = true → enabled (l2fwdDstPorts port) = true

/-- A packet that `rte_eth_rx_burst` hands over. -/
structure Arrival where
  mbuf : Mbuf
  content : Nat → UInt8
  stack : StackResidue

/-- What the program decided about a packet, and where it was to go. -/
structure Decision where
  mbuf : Mbuf
  verdict : Nat
  dstPort : Nat
deriving DecidableEq, Repr

/-- The last five fields are records that no step reads. `queued` has every frame
as `rte_eth_tx_buffer` took it. -/
structure State where
  memory : Memory
  txBuffer : Nat → List Mbuf
  portStatistics : Nat → PortStatistics
  txCalls : Nat
  faulted : Bool
  received : List Mbuf
  transmitted : List Mbuf
  freed : List Mbuf
  decided : List Decision
  queued : List TxFrame

def initial (memory : Memory) : State :=
  { memory := memory
    txBuffer := fun _ => []
    portStatistics := fun _ => ⟨0, 0, 0, 0, 0⟩
    txCalls := 0
    faulted := false
    received := []
    transmitted := []
    freed := []
    decided := []
    queued := [] }

def State.fault (state : State) : State :=
  { state with faulted := true }

def State.setStatistics (state : State) (port : Nat)
    (change : PortStatistics → PortStatistics) : State :=
  { state with
    portStatistics :=
      Function.update state.portStatistics port (change (state.portStatistics port)) }

/-! ## TX buffers -/

def rteEthTxBufferFlush (config : Config) (port : Nat) (state : State) : Nat × State :=
  let pkts := state.txBuffer port
  if pkts.length = 0 then (0, state)
  else
    let sent := min (config.txBurst state.txCalls port) pkts.length
    let flushed :=
      { state with
        txBuffer := Function.update state.txBuffer port []
        txCalls := state.txCalls + 1
        transmitted := state.transmitted ++ pkts.take sent }
    if sent = pkts.length then (sent, flushed)
    else
      -- `rte_eth_tx_buffer_count_callback`
      (sent,
        { flushed.setStatistics port fun statistics =>
            { statistics with dropped := statistics.dropped + (pkts.length - sent) } with
          freed := state.freed ++ pkts.drop sent })

/-- The state with one more mbuf in a TX buffer. -/
def State.append (state : State) (port : Nat) (m : Mbuf) : State :=
  { state with
    txBuffer := Function.update state.txBuffer port (state.txBuffer port ++ [m])
    queued := state.queued ++ [⟨m.mtod, m.dataLen, state.memory.bytes m.mtod m.dataLen⟩] }

def rteEthTxBuffer (config : Config) (port : Nat) (m : Mbuf) (state : State) : Nat × State :=
  if (state.txBuffer port).length + 1 < maxPktBurst then (0, state.append port m)
  else rteEthTxBufferFlush config port (state.append port m)

/-- `if (sent) port_statistics[port].tx += sent;` -/
def countSent (port : Nat) (result : Nat × State) : State :=
  if result.1 = 0 then result.2
  else result.2.setStatistics port fun statistics =>
    { statistics with tx := statistics.tx + result.1 }

/-! ## One packet -/

/-- The end of `l2fwd_simple_forward`: the mbuf goes to the TX buffer of
`dst_port`, if there is one. -/
def sendOut (config : Config) (m : Mbuf) (dstPort : Nat) (state : State) : State :=
  if config.enabled dstPort then countSent dstPort (rteEthTxBuffer config dstPort m state)
  else state.fault

/-- The switch of `l2fwd_simple_forward` on the verdict. -/
def switchVerdict (config : Config) (m : Mbuf) (dstPort verdict : Nat) (state : State) : State :=
  match verdict with
  | xdpDrop =>
      if dstPort < config.rteMaxEthports then
        state.setStatistics dstPort fun statistics =>
          { statistics with xdpDrop := statistics.xdpDrop + 1 }
      else state.fault
  | xdpTx => sendOut config m dstPort state
  | xdpPass =>
      if dstPort < config.rteMaxEthports then
        state.setStatistics dstPort fun statistics =>
          { statistics with xdpPass := statistics.xdpPass + 1 }
      else state.fault
  | xdpRedirect => sendOut config m dstPort state
  | _ => state

/-- The context that `l2fwd_simple_forward` builds. -/
def Mbuf.context (m : Mbuf) (residue : ContextResidue) : XdpMdUserspace :=
  { data := m.mtod
    dataEnd := m.mtod + m.dataLen
    dataMeta := residue.dataMeta
    ingressIfindex := residue.ingressIfindex
    rxQueueIndex := residue.rxQueueIndex
    egressIfindex := residue.egressIfindex
    bufferStart := m.mtod
    bufferEnd := m.bufAddr + m.bufLen }

def l2fwdSimpleForward (config : Config) (packet : Option Mbuf) (_portid : Nat)
    (stack : StackResidue) (state : State) : State :=
  if state.faulted then state
  else
    match packet with
    | none => state
    | some m =>
        let dstPort := stack.dstPort
        let outcome := ebpfModuleRunAtHandler config.entryProg (m.context stack.context) state.memory 0
        switchVerdict config m dstPort outcome.verdict
          { state with
            memory := outcome.memory
            decided := state.decided ++ [⟨m, outcome.verdict, dstPort⟩] }

/-! ## The main loop -/

/-- The choices of the environment in one turn of the main loop: whether the
drain interval is over, and what each polled port received. -/
structure Turn where
  drain : Bool
  bursts : Nat → List Arrival

/-- One turn of the TX drain loop. -/
def drainPort (config : Config) (state : State) (rxPort : Nat) : State :=
  if state.faulted then state
  else
    let portid := config.l2fwdDstPorts rxPort
    countSent portid (rteEthTxBufferFlush config portid state)

/-- The port writes the packets of a burst into their buffers. -/
def receiveContents (memory : Memory) (burst : List Arrival) : Memory :=
  burst.foldl
    (fun memory arrival =>
      memory.copyFrom arrival.mbuf.mtod arrival.content arrival.mbuf.dataLen)
    memory

/-- One turn of the receive loop. -/
def receivePort (config : Config) (bursts : Nat → List Arrival) (state : State)
    (rxPort : Nat × Nat) : State :=
  if state.faulted then state
  else
    let burst := (bursts rxPort.2).take maxPktBurst
    if burst.length = 0 then state
    else
      let portid := rxPort.1
      let state :=
        { state.setStatistics portid fun statistics =>
            { statistics with rx := statistics.rx + burst.length } with
          memory := receiveContents state.memory burst
          received := state.received ++ burst.map Arrival.mbuf }
      burst.foldl
        (fun state arrival =>
          l2fwdSimpleForward config (some arrival.mbuf) portid arrival.stack state)
        state

def turn (config : Config) (state : State) (choice : Turn) : State :=
  let drained :=
    if choice.drain then config.rxPortList.foldl (drainPort config) state else state
  config.rxPortList.zipIdx.foldl (receivePort config choice.bursts) drained

/-- `l2fwd_main_loop` until `force_quit`. -/
def l2fwdMainLoop (config : Config) (state : State) (turns : List Turn) : State :=
  turns.foldl (turn config) state

end UserspaceXdp.Dpdk
