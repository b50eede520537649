import UserspaceXdp.AfXdp.Conservation

/-!
Contract: what several sockets on one UMEM do with its frames, in every
interleaving of `l2fwd` calls on any of them and kernel moves.

Owns: the places a frame can be in, and the theorem that with single-buffer
packets every run keeps each frame in one place, never takes more from an
`outstanding_tx` than it holds, and keeps their sum in step with the rings.

Does not own: which socket a completion belongs to. The completion ring is
shared, and a call reaps what it finds there.
-/

namespace UserspaceXdp.AfXdp

open UserspaceXdp.Foundation

/-! ## Places -/

/-- Places that the sockets share: the fill ring, the kernel's hands on the way
in and on the way out, the completion ring. -/
inductive UmemPlace where
  | fill
  | receiving
  | sending
  | completion
deriving DecidableEq

instance : Fintype UmemPlace where
  elems := {.fill, .receiving, .sending, .completion}
  complete := by intro place; cases place <;> decide

/-- Places of one socket: its RX ring, the driver's hands, its TX ring. -/
inductive SockPlace where
  | rx
  | peeked
  | tx
deriving DecidableEq

instance : Fintype SockPlace where
  elems := {.rx, .peeked, .tx}
  complete := by intro place; cases place <;> decide

abbrev Place (Sock : Type) := UmemPlace ⊕ Sock × SockPlace

section Places

variable {Sock : Type} [DecidableEq Sock] (options : Options) (state : State Sock)

/-- The chunks in a place. Descriptors that a call has passed on and not yet
released are where they went. -/
def chunksAt : Place Sock → Multiset Nat
  | .inl .fill => chunks options (state.fq.window state.fq.consumer state.fq.producer)
  | .inl .receiving => chunks options state.receiving
  | .inl .sending => chunks options state.sending
  | .inl .completion =>
      chunks options
        (state.cq.window (state.cq.consumer + state.pc.phase.pending) state.cq.producer)
  | .inr (sock, .rx) =>
      let info := state.socks sock
      chunks options ((info.rx.window info.rx.cached info.rx.producer).map XdpDesc.addr)
  | .inr (sock, .peeked) =>
      let info := state.socks sock
      chunks options ((info.rx.window (info.rx.consumer + (state.pc.stage sock).pending)
        info.rx.cached).map XdpDesc.addr)
  | .inr (sock, .tx) =>
      let info := state.socks sock
      chunks options ((info.tx.window info.tx.consumer info.tx.producer).map XdpDesc.addr)

end Places

section SeveralSockets

variable {Sock : Type} [DecidableEq Sock] [Fintype Sock] {options : Options} {state : State Sock}

theorem sum_umemPlace {Amount : Type} [AddCommMonoid Amount] (amount : UmemPlace → Amount) :
    ∑ place, amount place = amount .fill + amount .receiving + amount .sending +
      amount .completion := by
  have places : (Finset.univ : Finset UmemPlace) = {.fill, .receiving, .sending, .completion} :=
    rfl
  rw [places]
  simp [add_assoc]

theorem sum_sockPlace {Amount : Type} [AddCommMonoid Amount] (amount : SockPlace → Amount) :
    ∑ place, amount place = amount .rx + amount .peeked + amount .tx := by
  have places : (Finset.univ : Finset SockPlace) = {.rx, .peeked, .tx} := rfl
  rw [places]
  simp [add_assoc]

/-- The RX ring and the driver's hands hold what was received and not passed on. -/
theorem Invariant.sockChunks_eq (held : Invariant options state) (sock : Sock) :
    ∑ place, chunksAt options state (.inr (sock, place)) =
      sockChunks options (state.pc.stage sock) (state.socks sock) := by
  have socket := held.sockets sock
  have released := socket.released
  have peeked := socket.peeked
  have available := socket.consuming.available
  have passed : (state.socks sock).rx.consumer + (state.pc.stage sock).pending ≤
      (state.socks sock).rx.cached := by
    unfold written at peeked
    omega
  rw [sum_sockPlace, sockChunks, SharedRing.window_append _ passed available, List.map_append,
    chunks_append]
  simp only [chunksAt]
  abel

/-- The places together are all there is. -/
theorem Invariant.sum_chunksAt (held : Invariant options state) :
    ∑ place, chunksAt options state place = Multiset.range numFrames := by
  rw [← held.conserved, Fintype.sum_sum_type, Fintype.sum_prod_type, sum_umemPlace, allChunks,
    umemChunks]
  congr 1
  apply Finset.sum_congr rfl
  intro sock _
  exact held.sockChunks_eq sock

/-! ## Counters -/

/-- What holds at any time. -/
structure SharesUmem (options : Options) (state : State Sock) : Prop where
  /-- Every frame is in one place, once. -/
  everyFrame : ∀ chunk < numFrames, ∃ place, (chunksAt options state place).count chunk = 1 ∧
    ∀ other, other ≠ place → chunk ∉ chunksAt options state other
  noOther : ∀ place, ∀ chunk ∈ chunksAt options state place, chunk < numFrames
  /-- A decrement of `outstanding_tx` finds enough in it. -/
  noUnderflow : ∀ sock resume rcvd, state.pc = .completing sock resume (.release rcvd) →
    rcvd ≤ (state.socks sock).outstandingTx
  noOverflow : ∀ sock, (state.socks sock).outstandingTx + (state.pc.stage sock).pending < 2 ^ 32
  /-- The counters and what a call has submitted and not yet counted are what
  was submitted and not reaped. -/
  balance : ∑ sock, (state.socks sock).outstandingTx +
      ∑ sock, (state.pc.stage sock).pending + state.reaped.length =
    ∑ sock, (state.history sock).submitted.length
  /-- Outside the last lines of a call the counters alone are. -/
  exact : (∀ sock loop, state.pc ≠ .release sock loop) →
    ∑ sock, (state.socks sock).outstandingTx + state.reaped.length =
      ∑ sock, (state.history sock).submitted.length

omit [Fintype Sock] in
theorem Pc.pending_of_not_release {pc : Pc Sock} (outside : ∀ sock loop, pc ≠ .release sock loop)
    (sock : Sock) : (pc.stage sock).pending = 0 := by
  cases pc with
  | idle => rfl
  | completing active resume phase =>
      cases resume <;> simp only [Pc.stage, Resume.stage] <;> split <;> rfl
  | receive active => rfl
  | reserve active rcvd idxRx => simp only [Pc.stage]; split <;> rfl
  | forward active loop => simp only [Pc.stage]; split <;> rfl
  | submit active loop => simp only [Pc.stage]; split <;> rfl
  | release active loop => exact absurd rfl (outside active loop)

/-- Both sides count descriptors. -/
theorem Invariant.balance (held : Invariant options state) :
    ∑ sock, (state.socks sock).outstandingTx +
        ∑ sock, (state.pc.stage sock).pending + state.reaped.length =
      ∑ sock, (state.history sock).submitted.length := by
  have lengths : ∑ sock, (state.history sock).submitted.length =
      ∑ sock, (state.socks sock).tx.producer := by
    apply Finset.sum_congr rfl
    intro sock _
    exact (held.sockets sock).length_submitted
  rw [lengths, held.umem.reapedCount, ← Finset.sum_add_distrib]
  exact held.outstanding

theorem Invariant.sharesUmem (held : Invariant options state) : SharesUmem options state where
  everyFrame := by
    intro chunk below
    exact exists_place held.sum_chunksAt (Multiset.nodup_range numFrames)
      (Multiset.mem_range.mpr below)
  noOther := by
    intro place chunk member
    rw [← Multiset.mem_range, ← held.sum_chunksAt]
    exact Multiset.mem_sum.mpr ⟨place, Finset.mem_univ place, member⟩
  noUnderflow := by
    intro sock resume rcvd position
    have clamped := held.clamped
    rw [position] at clamped
    exact clamped
  noOverflow := held.outstanding_lt
  balance := held.balance
  exact := by
    intro outside
    have balance := held.balance
    rw [Finset.sum_eq_zero fun sock _ => Pc.pending_of_not_release outside sock] at balance
    exact balance

/-- Any number of sockets on one UMEM, served in any order and interleaved with
the kernel in any way, for every batch size. -/
theorem l2fwd_shares_umem (options : Options) (singleBuffer : options.frags = false)
    (buffer : Memory) (moves : List (Move Sock)) :
    SharesUmem options (exec options (initial options Sock buffer) moves) :=
  (reachable_invariant options (Or.inr singleBuffer) buffer moves).sharesUmem

end SeveralSockets

/-! ## Two sockets -/

def twoSocketOptions : Options where
  batchSize := 64
  frameSize := 4096
  frags := false
  entryProg := none
  frameSize_pos := pageSize_pos

/-- One socket gets a packet and forwards it, up to the counters. -/
def submitOnly : List (Move Bool) :=
  firstPacket true ++ (.call true :: List.replicate 6 (.driver 1 ⟨0, 0, 0, 0⟩))

theorem l2fwd_shares_umem_of_two_sockets :
    SharesUmem twoSocketOptions
      (exec twoSocketOptions (initial twoSocketOptions Bool fun _ => 0) submitOnly) :=
  l2fwd_shares_umem twoSocketOptions rfl _ _

/-- A call on a socket whose RX ring holds the first packet, before it counts. -/
private theorem callBeforeCounting {state : State Bool} (idle : state.pc = .idle)
    (noneOpen : state.nbFrags = 0)
    (socks : state.socks = Function.update (fun _ => freshSock) true
      { freshSock with rx := { freshSock.rx.put 0 ⟨256, 60, 0⟩ with producer := 1 } }) :
    ∃ loop, loop.fragsDone = 1 ∧
      (exec twoSocketOptions state
        (.call true :: List.replicate 6 (.driver 1 ⟨0, 0, 0, 0⟩))).pc = .release true loop := by
  obtain ⟨fq, cq, buffer, current, nbFrags, pc, receiving, sending, history, reaped, refilled⟩ :=
    state
  replace idle : pc = .idle := idle
  replace noneOpen : nbFrags = 0 := noneOpen
  replace socks : current = _ := socks
  subst idle noneOpen socks
  refine ⟨⟨1, 1, 1, 1, 1, 1⟩, rfl, ?_⟩
  with_unfolding_all rfl

/-- Between the submit of a call and its last line the frame is submitted and
counted nowhere. -/
theorem l2fwd_counts_after_submit :
    let state := exec twoSocketOptions (initial twoSocketOptions Bool fun _ => 0) submitOnly
    ∑ sock, (state.socks sock).outstandingTx ≠
      ∑ sock, (state.history sock).submitted.length - state.reaped.length := by
  intro state balanced
  have wide : 316 ≤ twoSocketOptions.frameSize := by decide
  have delivered := exec_firstPacket twoSocketOptions wide (fun _ => 0) true
  obtain ⟨loop, counted, position⟩ :=
    callBeforeCounting delivered.1 delivered.2.1 delivered.2.2
  rw [← exec_append] at position
  have held : Invariant twoSocketOptions state :=
    reachable_invariant twoSocketOptions (Or.inr rfl) (fun _ => 0) submitOnly
  have balance := held.balance
  have counting : state.pc = .release true loop := position
  have pending : ∑ sock, (state.pc.stage sock).pending = 1 := by
    rw [counting]
    simp [Pc.stage, Stage.pending, counted]
  omega

end UserspaceXdp.AfXdp
