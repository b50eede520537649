import Mathlib.Tactic.NormNum
import UserspaceXdp.Runtime.Context

/-!
Contract: the helpers of `module/helpers.c` that move the packet window, and
programs as sequences of their calls and of packet writes.

Owns: `bpftime_xdp_adjust_head_runtime` and `bpftime_xdp_adjust_tail_runtime`
with their 64-bit pointer arithmetic, and how far a sequence of edits moves the
two ends of the window.

Does not own: which edits a program makes. `bpftime_xdp_adjust_tail_runtime`
reads its argument through the layout of `struct xdp_buff`: where that layout
has `data_hard_start`, the context has `rx_queue_index` and `egress_ifindex`,
and `frame_sz` lies behind the context.
-/

namespace UserspaceXdp.Runtime

open UserspaceXdp.Foundation

def ethHlen : Nat := 14

/-- `-EINVAL` as the helper returns it. -/
def negEinval : Nat := 2 ^ 64 - 22

theorem negEinval_ne_zero : negEinval ≠ 0 := by
  norm_num [negEinval]

/-- `SKB_DATA_ALIGN(sizeof(struct skb_shared_info))`: 48 bytes, aligned to 32. -/
def sharedInfoSize : Nat := 64

/-- The context as `struct xdp_buff` has it. -/
def dataHardStart (context : XdpMdUserspace) : Nat :=
  context.rxQueueIndex % 2 ^ 32 + context.egressIfindex % 2 ^ 32 * 2 ^ 32

def xdpDataHardEnd (context : XdpMdUserspace) (frameSz : Nat) : Nat :=
  (dataHardStart context + frameSz % 2 ^ 32 + (2 ^ 64 - sharedInfoSize)) % 2 ^ 64

/-- The window a program works on: the context and the memory. -/
structure Window where
  context : XdpMdUserspace
  memory : Memory

/-- The return value and the window after it. There is none if the `memset`
runs off the address space: `offset` is unsigned, so a shrink does. -/
def bpftimeXdpAdjustTailRuntime (frameSz : Nat) (xdp : Window) (offset : Nat) :
    Option (Nat × Window) :=
  let dataHardEnd := xdpDataHardEnd xdp.context frameSz
  let dataEnd := (xdp.context.dataEnd + offset) % 2 ^ 64
  if dataHardEnd < dataEnd then some (negEinval, xdp)
  else if dataEnd < (xdp.context.data + ethHlen) % 2 ^ 64 then some (negEinval, xdp)
  else if 2 ^ 64 ≤ xdp.context.dataEnd + offset then none
  else
    some (0,
      { context := { xdp.context with dataEnd := dataEnd }
        memory := xdp.memory.copyFrom xdp.context.dataEnd (fun _ => 0) offset })

def bpftimeXdpAdjustHeadRuntime (xdp : Window) (offset : Int) : Nat × Window :=
  (0,
    { xdp with
      context := { xdp.context with data := ((xdp.context.data + offset) % 2 ^ 64).toNat } })

/-! ## Edits -/

/-- What a program does to the packet: it writes a byte or calls a helper. -/
inductive Edit where
  | store (address : Nat) (byte : UInt8)
  | adjustHead (offset : Int)
  | adjustTail (offset : Nat)

def Edit.run (frameSz : Nat) (xdp : Window) : Edit → Option Window
  | .store address byte => some { xdp with memory := xdp.memory.store address byte }
  | .adjustHead offset => some (bpftimeXdpAdjustHeadRuntime xdp offset).2
  | .adjustTail offset => (bpftimeXdpAdjustTailRuntime frameSz xdp offset).map Prod.snd

/-- The window after a sequence of edits. -/
def runEdits (frameSz : Nat) (xdp : Window) (edits : List Edit) : Option Window :=
  edits.foldlM (Edit.run frameSz) xdp

/-! ## Movement -/

/-- The offsets of all head adjustments, added up. -/
def headMovement (edits : List Edit) : Int :=
  (edits.map fun edit =>
    match edit with
    | .adjustHead offset => offset
    | _ => 0).sum

/-- The offset of a tail adjustment, if it succeeds. -/
def offsetIfSuccess (offset : Nat) : Option (Nat × Window) → Nat
  | some (code, _) => if code = 0 then offset else 0
  | none => 0

def Edit.growth (frameSz : Nat) (xdp : Window) : Edit → Nat
  | .adjustTail offset => offsetIfSuccess offset (bpftimeXdpAdjustTailRuntime frameSz xdp offset)
  | _ => 0

/-- The offsets of all tail adjustments that succeed, added up. -/
def tailMovement (frameSz : Nat) (xdp : Window) : List Edit → Nat
  | [] => 0
  | edit :: rest =>
      edit.growth frameSz xdp +
        match edit.run frameSz xdp with
        | some next => tailMovement frameSz next rest
        | none => 0

/-- A window whose ends are 64-bit addresses. -/
structure Window.Addressed (xdp : Window) : Prop where
  data : xdp.context.data < 2 ^ 64
  dataEnd : xdp.context.dataEnd < 2 ^ 64

/-- A tail adjustment that returns either fails and leaves the window alone, or
moves `data_end` up by its offset. -/
theorem bpftimeXdpAdjustTailRuntime_cases {frameSz offset code : Nat} {xdp next : Window}
    (ran : bpftimeXdpAdjustTailRuntime frameSz xdp offset = some (code, next)) :
    (code = negEinval ∧ next = xdp) ∨
      (code = 0 ∧ next.context.data = xdp.context.data ∧
        next.context.dataEnd = xdp.context.dataEnd + offset ∧
        xdp.context.dataEnd + offset < 2 ^ 64) := by
  unfold bpftimeXdpAdjustTailRuntime at ran
  dsimp only at ran
  split at ran
  · simp only [Option.some.injEq, Prod.mk.injEq] at ran
    exact Or.inl ⟨ran.1.symm, ran.2.symm⟩
  · split at ran
    · simp only [Option.some.injEq, Prod.mk.injEq] at ran
      exact Or.inl ⟨ran.1.symm, ran.2.symm⟩
    · split at ran
      · cases ran
      · rename_i within
        have below := Nat.lt_of_not_le within
        simp only [Option.some.injEq, Prod.mk.injEq] at ran
        obtain ⟨rfl, rfl⟩ := ran
        exact Or.inr ⟨rfl, rfl, Nat.mod_eq_of_lt below, below⟩

/-- What one edit does to the two ends. -/
theorem Edit.run_ends {frameSz : Nat} {xdp next : Window} {edit : Edit}
    (addressed : xdp.Addressed) (ran : edit.run frameSz xdp = some next) :
    next.Addressed ∧
      (next.context.data : Int) = (xdp.context.data + headMovement [edit]) % 2 ^ 64 ∧
      next.context.dataEnd = xdp.context.dataEnd + edit.growth frameSz xdp := by
  have small := addressed.data
  cases edit with
  | store address byte =>
      simp only [Edit.run, Option.some.injEq] at ran
      subst ran
      refine ⟨⟨addressed.data, addressed.dataEnd⟩, ?_, rfl⟩
      simp only [headMovement, List.map_cons, List.map_nil, List.sum_cons, List.sum_nil]
      omega
  | adjustHead offset =>
      simp only [Edit.run, bpftimeXdpAdjustHeadRuntime, Option.some.injEq] at ran
      subst ran
      have nonneg := Int.emod_nonneg ((xdp.context.data : Int) + offset)
        (by decide : (2 ^ 64 : Int) ≠ 0)
      have below := Int.emod_lt_of_pos ((xdp.context.data : Int) + offset)
        (by decide : (0 : Int) < 2 ^ 64)
      refine ⟨⟨by dsimp only; omega, addressed.dataEnd⟩, ?_, rfl⟩
      simp only [headMovement, List.map_cons, List.map_nil, List.sum_cons, List.sum_nil]
      omega
  | adjustTail offset =>
      simp only [Edit.run, Option.map_eq_some_iff, Prod.exists, exists_eq_right] at ran
      obtain ⟨code, ran⟩ := ran
      simp only [headMovement, List.map_cons, List.map_nil, List.sum_cons, List.sum_nil]
      obtain ⟨rfl, rfl⟩ | ⟨rfl, data, dataEnd, below⟩ :=
        bpftimeXdpAdjustTailRuntime_cases ran
      · have nothing : (Edit.adjustTail offset).growth frameSz next = 0 := by
          rw [Edit.growth, ran, offsetIfSuccess, if_neg negEinval_ne_zero]
        exact ⟨addressed, by omega, by omega⟩
      · have grown : (Edit.adjustTail offset).growth frameSz xdp = offset := by
          rw [Edit.growth, ran, offsetIfSuccess, if_pos rfl]
        exact ⟨⟨by omega, by omega⟩, by omega, by omega⟩

theorem headMovement_cons (edit : Edit) (rest : List Edit) :
    headMovement (edit :: rest) = headMovement [edit] + headMovement rest := by
  simp [headMovement]

/-- What a sequence of edits does to the two ends. -/
theorem runEdits_ends {frameSz : Nat} {xdp final : Window} {edits : List Edit}
    (addressed : xdp.Addressed) (ran : runEdits frameSz xdp edits = some final) :
    (final.context.data : Int) = (xdp.context.data + headMovement edits) % 2 ^ 64 ∧
      final.context.dataEnd = xdp.context.dataEnd + tailMovement frameSz xdp edits := by
  induction edits generalizing xdp with
  | nil =>
      have small := addressed.data
      cases ran
      simp only [headMovement, tailMovement, List.map_nil, List.sum_nil]
      omega
  | cons edit rest inductionHypothesis =>
      simp only [runEdits, List.foldlM_cons, Option.bind_eq_bind, Option.bind_eq_some_iff] at ran
      obtain ⟨next, first, later⟩ := ran
      obtain ⟨nextAddressed, data, dataEnd⟩ := Edit.run_ends addressed first
      obtain ⟨finalData, finalEnd⟩ := inductionHypothesis nextAddressed later
      rw [headMovement_cons, tailMovement, first]
      dsimp only
      omega

/-- The ends are where they were exactly if the movements cancel out. -/
theorem runEdits_unmoved_iff {frameSz : Nat} {xdp final : Window} {edits : List Edit}
    (addressed : xdp.Addressed) (ran : runEdits frameSz xdp edits = some final) :
    (xdp.context.data = final.context.data ∧ xdp.context.dataEnd = final.context.dataEnd) ↔
      headMovement edits % 2 ^ 64 = 0 ∧ tailMovement frameSz xdp edits = 0 := by
  obtain ⟨data, dataEnd⟩ := runEdits_ends addressed ran
  have small := addressed.data
  omega

end UserspaceXdp.Runtime
