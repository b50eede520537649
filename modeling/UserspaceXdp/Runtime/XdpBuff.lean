import UserspaceXdp.Runtime.Helpers

/-!
Contract: `bpftime_xdp_adjust_tail_runtime` on the structure it is declared for.

Owns: `struct xdp_buff` of `module/helpers.c`, the helper on it with its two
pointer checks and its `memset`, the documented contract of
`bpf_xdp_adjust_tail`, exactly when the helper keeps it, and the view of a
driver's context through the layout of `struct xdp_buff`.

Does not own: what a driver leaves in its context.

The documented offset is an `int`. The helper takes it as an unsigned 64-bit
value: its `offset > 0` also holds of a shrink, and the `memset` of a shrink
that passes the checks is almost as long as the address space.
-/

namespace UserspaceXdp.Runtime

open UserspaceXdp.Foundation

structure XdpBuff where
  data : Nat
  dataEnd : Nat
  dataMeta : Nat
  dataHardStart : Nat
  rxq : Nat
  txq : Nat
  frameSz : Nat
  flags : Nat
deriving DecidableEq, Repr

/-- An `int` argument in a 64-bit register. -/
def signExtend (offset : Int32) : Nat := (offset.toInt % 2 ^ 64).toNat

namespace XdpBuff

def xdpDataHardEnd (xdp : XdpBuff) : Nat :=
  (xdp.dataHardStart + xdp.frameSz + (2 ^ 64 - sharedInfoSize)) % 2 ^ 64

/-- The return value, the buffer and the memory after it. There is none if the
`memset` runs off the address space. -/
def bpftimeXdpAdjustTailRuntime (xdp : XdpBuff) (memory : Memory) (offset : Nat) :
    Option (Nat × XdpBuff × Memory) :=
  let dataHardEnd := xdp.xdpDataHardEnd
  let dataEnd := (xdp.dataEnd + offset) % 2 ^ 64
  if dataHardEnd < dataEnd then some (negEinval, xdp, memory)
  else if dataEnd < (xdp.data + ethHlen) % 2 ^ 64 then some (negEinval, xdp, memory)
  else if 2 ^ 64 ≤ xdp.dataEnd + offset then none
  else
    -- `memset(xdp->data_end, 0, offset)` writes nothing if `offset` is zero.
    some (0, { xdp with dataEnd := dataEnd },
      memory.copyFrom xdp.dataEnd (fun _ => 0) offset)

/-- The two pointer checks of the helper, on wrapping addresses. -/
structure Accepts (xdp : XdpBuff) (offset : Nat) : Prop where
  hardEnd : (xdp.dataEnd + offset) % 2 ^ 64 ≤ xdp.xdpDataHardEnd
  header : (xdp.data + ethHlen) % 2 ^ 64 ≤ (xdp.dataEnd + offset) % 2 ^ 64

variable {xdp : XdpBuff} {memory : Memory} {offset : Nat}

theorem adjustTail_of_not_accepts (rejected : ¬ xdp.Accepts offset) :
    xdp.bpftimeXdpAdjustTailRuntime memory offset = some (negEinval, xdp, memory) := by
  unfold bpftimeXdpAdjustTailRuntime
  dsimp only
  by_cases beyond : xdp.xdpDataHardEnd < (xdp.dataEnd + offset) % 2 ^ 64
  · rw [if_pos beyond]
  · rw [if_neg beyond]
    have short : (xdp.dataEnd + offset) % 2 ^ 64 < (xdp.data + ethHlen) % 2 ^ 64 := by
      by_contra long
      exact rejected ⟨Nat.le_of_not_lt beyond, Nat.le_of_not_lt long⟩
    rw [if_pos short]

theorem adjustTail_of_accepts (accepted : xdp.Accepts offset) :
    xdp.bpftimeXdpAdjustTailRuntime memory offset =
      if 2 ^ 64 ≤ xdp.dataEnd + offset then none
      else
        some (0, { xdp with dataEnd := (xdp.dataEnd + offset) % 2 ^ 64 },
          memory.copyFrom xdp.dataEnd (fun _ => 0) offset) := by
  unfold bpftimeXdpAdjustTailRuntime
  dsimp only
  rw [if_neg (Nat.not_lt.mpr accepted.hardEnd), if_neg (Nat.not_lt.mpr accepted.header)]

end XdpBuff

/-! ## The documented contract -/

/-- The new end lies between the end of the Ethernet header and the limit. -/
structure TailInside (data dataEnd limit : Nat) (offset : Int) : Prop where
  header : (data : Int) + ethHlen ≤ dataEnd + offset
  limit : (dataEnd : Int) + offset ≤ limit

/-- What a call may leave behind. It has to return: zero if the new end is
inside, and then only `data_end` moves and only a grown area is cleared; an
error otherwise, and then nothing changes. -/
def XdpBuff.TailContract (xdp : XdpBuff) (memory : Memory) (offset : Int) :
    Option (Nat × XdpBuff × Memory) → Prop
  | none => False
  | some (code, next, after) =>
      (code = 0 ↔ TailInside xdp.data xdp.dataEnd xdp.xdpDataHardEnd offset) ∧
      (code = 0 →
        next = { xdp with dataEnd := next.dataEnd } ∧
        (next.dataEnd : Int) = xdp.dataEnd + offset ∧
        ∀ address, after address =
          if xdp.dataEnd ≤ address ∧ address < next.dataEnd then 0 else memory address) ∧
      (code ≠ 0 → next = xdp ∧ after = memory)

/-- The offset is no shrink, and neither sum of the checks leaves 64 bits. -/
structure XdpBuff.Plain (xdp : XdpBuff) (offset : Int) : Prop where
  grows : 0 ≤ offset
  header : xdp.data + ethHlen < 2 ^ 64
  dataEnd : (xdp.dataEnd : Int) + offset < 2 ^ 64

theorem signExtend_of_nonneg {offset : Int32} (nonneg : 0 ≤ offset.toInt) :
    (signExtend offset : Int) = offset.toInt := by
  have upper := offset.toInt_lt
  unfold signExtend
  omega

theorem signExtend_of_neg {offset : Int32} (negative : offset.toInt < 0) :
    (signExtend offset : Int) = offset.toInt + 2 ^ 64 := by
  have lower := offset.le_toInt
  unfold signExtend
  omega

/-- After a fill with zeros. -/
theorem copyFrom_zero (memory : Memory) (target count address : Nat) :
    memory.copyFrom target (fun _ => 0) count address =
      if target ≤ address ∧ address < target + count then 0 else memory address := by
  by_cases inside : target ≤ address ∧ address < target + count
  · obtain ⟨index, rfl⟩ := Nat.exists_eq_add_of_le inside.1
    rw [if_pos inside, Memory.copyFrom_inside _ _ _ (by omega)]
  · rw [if_neg inside, Memory.copyFrom_other _ (by omega)]

section Contract

variable {xdp : XdpBuff} {memory : Memory} {offset : Int32}

/-- The end that the helper computes is the documented one, if that is an
address. -/
theorem wrapped_eq (dataEnd : Nat) (offset : Int32)
    (nonneg : 0 ≤ (dataEnd : Int) + offset.toInt)
    (below : (dataEnd : Int) + offset.toInt < 2 ^ 64) :
    (((dataEnd + signExtend offset) % 2 ^ 64 : Nat) : Int) = dataEnd + offset.toInt := by
  by_cases grows : 0 ≤ offset.toInt
  · have extended := signExtend_of_nonneg grows
    omega
  · have extended := signExtend_of_neg (Int.not_le.mp grows)
    omega

/-- A call that is documented to succeed passes the checks. -/
theorem XdpBuff.accepts_of_inside
    (inside : TailInside xdp.data xdp.dataEnd xdp.xdpDataHardEnd offset.toInt) :
    xdp.Accepts (signExtend offset) := by
  have limit : xdp.xdpDataHardEnd < 2 ^ 64 := Nat.mod_lt _ (by decide)
  have lower := inside.header
  have upper := inside.limit
  have wrapped := wrapped_eq xdp.dataEnd offset (by omega) (by omega)
  refine ⟨by omega, ?_⟩
  rw [Nat.mod_eq_of_lt (by omega : xdp.data + ethHlen < 2 ^ 64)]
  omega

theorem XdpBuff.tailContract_of_not_accepts (rejected : ¬ xdp.Accepts (signExtend offset)) :
    xdp.TailContract memory offset.toInt
      (xdp.bpftimeXdpAdjustTailRuntime memory (signExtend offset)) := by
  rw [XdpBuff.adjustTail_of_not_accepts rejected]
  refine ⟨⟨fun zero => ?_, fun inside => ?_⟩, fun zero => ?_, fun _ => ⟨rfl, rfl⟩⟩
  · exact absurd zero negEinval_ne_zero
  · exact absurd (XdpBuff.accepts_of_inside inside) rejected
  · exact absurd zero negEinval_ne_zero

/-- A plain call that passes the checks is one that is documented to succeed. -/
theorem XdpBuff.inside_of_accepts (plain : xdp.Plain offset.toInt)
    (accepted : xdp.Accepts (signExtend offset)) :
    TailInside xdp.data xdp.dataEnd xdp.xdpDataHardEnd offset.toInt := by
  have grows := plain.grows
  have wrapped := wrapped_eq xdp.dataEnd offset (by omega) plain.dataEnd
  have upper := accepted.hardEnd
  have lower := accepted.header
  rw [Nat.mod_eq_of_lt plain.header] at lower
  exact ⟨by omega, by omega⟩

theorem XdpBuff.tailContract_of_plain (plain : xdp.Plain offset.toInt)
    (accepted : xdp.Accepts (signExtend offset)) :
    xdp.TailContract memory offset.toInt
      (xdp.bpftimeXdpAdjustTailRuntime memory (signExtend offset)) := by
  have extended := signExtend_of_nonneg plain.grows
  have finish := plain.dataEnd
  have sum : (xdp.dataEnd + signExtend offset) % 2 ^ 64 = xdp.dataEnd + signExtend offset :=
    Nat.mod_eq_of_lt (by omega)
  rw [XdpBuff.adjustTail_of_accepts accepted, if_neg (by omega), sum]
  refine ⟨⟨fun _ => XdpBuff.inside_of_accepts plain accepted, fun _ => rfl⟩,
    fun _ => ⟨rfl, ?_, ?_⟩, fun failed => absurd rfl failed⟩
  · show ((xdp.dataEnd + signExtend offset : Nat) : Int) = xdp.dataEnd + offset.toInt
    omega
  · intro address
    exact copyFrom_zero memory xdp.dataEnd (signExtend offset) address

/-- A call that is not plain and passes the checks breaks the contract: a shrink
does not come back from the `memset`, and a wrapped address is taken for one
that is in bounds. -/
theorem XdpBuff.not_tailContract_of_accepts (accepted : xdp.Accepts (signExtend offset))
    (notPlain : ¬ xdp.Plain offset.toInt) :
    ¬ xdp.TailContract memory offset.toInt
      (xdp.bpftimeXdpAdjustTailRuntime memory (signExtend offset)) := by
  rw [XdpBuff.adjustTail_of_accepts accepted]
  by_cases runsOff : 2 ^ 64 ≤ xdp.dataEnd + signExtend offset
  · rw [if_pos runsOff]
    exact id
  · rw [if_neg runsOff]
    rintro ⟨success, -, -⟩
    obtain ⟨lower, -⟩ := success.mp rfl
    by_cases nonneg : 0 ≤ offset.toInt
    · have extended := signExtend_of_nonneg nonneg
      exact notPlain ⟨nonneg, by omega, by omega⟩
    · have extended := signExtend_of_neg (Int.not_le.mp nonneg)
      omega

/-- The helper keeps the documented contract exactly if one of its checks
rejects the call, or the call is no shrink and stays within 64 bits. -/
theorem adjustTail_keeps_contract_iff (xdp : XdpBuff) (memory : Memory) (offset : Int32) :
    xdp.TailContract memory offset.toInt
        (xdp.bpftimeXdpAdjustTailRuntime memory (signExtend offset)) ↔
      (xdp.Accepts (signExtend offset) → xdp.Plain offset.toInt) := by
  constructor
  · intro contract accepted
    by_contra notPlain
    exact XdpBuff.not_tailContract_of_accepts accepted notPlain contract
  · intro condition
    by_cases accepted : xdp.Accepts (signExtend offset)
    · exact XdpBuff.tailContract_of_plain (condition accepted) accepted
    · exact XdpBuff.tailContract_of_not_accepts accepted

/-- A buffer of 2048 bytes with a packet of 100 bytes in it. -/
def packetBuff : XdpBuff := ⟨4352, 4452, 4352, 4096, 0, 0, 2048, 0⟩

/-- Ten bytes off a packet of 100 bytes. -/
theorem adjustTail_shrink_breaks_contract :
    packetBuff.data ≤ packetBuff.dataEnd ∧ packetBuff.dataEnd ≤ packetBuff.xdpDataHardEnd ∧
      TailInside packetBuff.data packetBuff.dataEnd packetBuff.xdpDataHardEnd
        (Int32.toInt (-10)) ∧
      ¬ packetBuff.TailContract (fun _ => 0) (Int32.toInt (-10))
        (packetBuff.bpftimeXdpAdjustTailRuntime (fun _ => 0) (signExtend (-10))) := by
  have accepted : packetBuff.Accepts (signExtend (-10)) := ⟨by decide, by decide⟩
  have shrinks : ¬ packetBuff.Plain (Int32.toInt (-10)) :=
    fun plain => absurd plain.grows (by decide)
  exact ⟨by decide, by decide, ⟨by decide, by decide⟩,
    XdpBuff.not_tailContract_of_accepts accepted shrinks⟩

end Contract

/-! ## A context as a buffer -/

/-- The bytes of a context through the layout of `struct xdp_buff`. The last two
fields lie behind the context. -/
def XdpMdUserspace.asXdpBuff (context : XdpMdUserspace) (frameSz flags : Nat) : XdpBuff :=
  { data := context.data
    dataEnd := context.dataEnd
    dataMeta := context.dataMeta % 2 ^ 32 + context.ingressIfindex % 2 ^ 32 * 2 ^ 32
    dataHardStart := dataHardStart context
    rxq := context.bufferStart
    txq := context.bufferEnd
    frameSz := frameSz % 2 ^ 32
    flags := flags }

/-- On a context the helper works on that buffer, and `data_end` is all it
writes back. -/
theorem bpftimeXdpAdjustTailRuntime_eq_asXdpBuff (frameSz flags : Nat) (xdp : Window)
    (offset : Nat) :
    bpftimeXdpAdjustTailRuntime frameSz xdp offset =
      ((xdp.context.asXdpBuff frameSz flags).bpftimeXdpAdjustTailRuntime xdp.memory offset).map
        fun result =>
          (result.1, ⟨{ xdp.context with dataEnd := result.2.1.dataEnd }, result.2.2⟩) := by
  unfold bpftimeXdpAdjustTailRuntime XdpBuff.bpftimeXdpAdjustTailRuntime
  show (if xdpDataHardEnd xdp.context frameSz < _ then _ else _) =
    Option.map _ (if xdpDataHardEnd xdp.context frameSz < _ then _ else _)
  rw [apply_ite (Option.map _), apply_ite (Option.map _), apply_ite (Option.map _)]
  rfl

end UserspaceXdp.Runtime
