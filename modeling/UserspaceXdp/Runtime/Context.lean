import UserspaceXdp.Foundation.Memory

/-!
Contract: the context a driver hands to an XDP program, and the verdicts.

Owns: `struct xdp_md_userspace` of `module/xdp-runtime.h`, the verdicts of
`enum xdp_action`, XDP programs as functions of the context and of memory, and
the part of `ebpf_module_run_at_handler` that does not depend on how bpftime
executes a program.

Does not own: how a program is loaded or compiled.
-/

namespace UserspaceXdp.Runtime

open UserspaceXdp.Foundation

@[match_pattern] abbrev xdpAborted : Nat := 0
@[match_pattern] abbrev xdpDrop : Nat := 1
@[match_pattern] abbrev xdpPass : Nat := 2
@[match_pattern] abbrev xdpTx : Nat := 3
@[match_pattern] abbrev xdpRedirect : Nat := 4

structure XdpMdUserspace where
  data : Nat
  dataEnd : Nat
  dataMeta : Nat
  ingressIfindex : Nat
  rxQueueIndex : Nat
  egressIfindex : Nat
  bufferStart : Nat
  bufferEnd : Nat
deriving DecidableEq, Repr

/-- The context fields that both drivers leave unset: whatever the stack held. -/
structure ContextResidue where
  dataMeta : Nat
  ingressIfindex : Nat
  rxQueueIndex : Nat
  egressIfindex : Nat
deriving DecidableEq, Repr

/-- What a program leaves behind: its return value, the context, the memory. -/
structure XdpOutcome where
  verdict : Nat
  context : XdpMdUserspace
  memory : Memory

abbrev XdpProgram := XdpMdUserspace → Memory → XdpOutcome

/-- `ebpf_module_run_at_handler`: without an entry program `*ret` keeps the
value it had. -/
def ebpfModuleRunAtHandler (entryProg : Option XdpProgram) (context : XdpMdUserspace)
    (memory : Memory) (ret : Nat) : XdpOutcome :=
  match entryProg with
  | none => ⟨ret, context, memory⟩
  | some program => program context memory

/-- A frame on a TX queue: where it starts, how long it is, its bytes. -/
structure TxFrame where
  start : Nat
  length : Nat
  bytes : List UInt8
deriving DecidableEq, Repr

/-- The packet after new bytes are written over its front. -/
def overwrite (packet new : List UInt8) : List UInt8 :=
  packet.mapIdx fun index byte => new.getD index byte

/-- A program that is a function from the packet's bytes to a verdict and new
bytes: it rewrites the packet in place and leaves the context alone. -/
def packetProgram (rewrite : List UInt8 → Nat × List UInt8) : XdpProgram :=
  fun context memory =>
    let length := context.dataEnd - context.data
    let result := rewrite (memory.bytes context.data length)
    { verdict := result.1
      context := context
      memory := memory.copyFrom context.data
        (fun offset => result.2.getD offset (memory (context.data + offset))) length }

/-- A packet program writes inside the packet only. -/
theorem packetProgram_memory_other (rewrite : List UInt8 → Nat × List UInt8)
    (context : XdpMdUserspace) (memory : Memory) {address : Nat}
    (outside : address < context.data ∨
      context.data + (context.dataEnd - context.data) ≤ address) :
    (packetProgram rewrite context memory).memory address = memory address :=
  Memory.copyFrom_other _ outside

/-- A packet program leaves the rewritten bytes in the packet. -/
theorem packetProgram_bytes (rewrite : List UInt8 → Nat × List UInt8)
    (context : XdpMdUserspace) (memory : Memory) :
    let length := context.dataEnd - context.data
    let packet := memory.bytes context.data length
    (packetProgram rewrite context memory).memory.bytes context.data length =
      overwrite packet (rewrite packet).2 := by
  intro length packet
  apply List.ext_getElem
  · simp [overwrite, packet]
  · intro index below _
    rw [Memory.length_bytes] at below
    have inside := Memory.copyFrom_inside memory context.data
      (fun offset => (rewrite packet).2.getD offset (memory (context.data + offset))) below
    simpa [packetProgram, overwrite, packet, length, Memory.bytes] using inside

end UserspaceXdp.Runtime
