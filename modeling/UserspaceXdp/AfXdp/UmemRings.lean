import UserspaceXdp.AfXdp.Xdpsock

/-!
Contract: what the fill and the completion ring hold while `complete_tx_l2fwd`
moves completed frames from the one to the other.

Owns: the UMEM invariant, relative to the phase of `complete_tx_l2fwd`, one
lemma for each of its steps and of the two kernel moves on these rings, and the
fill ring that `xsk_populate_fill_ring` leaves.

Does not own: the rings of a socket.
-/

namespace UserspaceXdp.AfXdp

open UserspaceXdp.Foundation

namespace CompletePhase

/-- Completions peeked and not released. -/
def peekedCount : CompletePhase → Nat
  | .peek => 0
  | .reserve rcvd _ => rcvd
  | .copy rcvd _ _ _ => rcvd
  | .submit rcvd => rcvd
  | .release rcvd => rcvd

/-- Fill slots reserved and not submitted. -/
def reservedCount : CompletePhase → Nat
  | .copy rcvd _ _ _ => rcvd
  | .submit rcvd => rcvd
  | _ => 0

/-- Fill slots written and not submitted. -/
def copiedCount : CompletePhase → Nat
  | .copy _ i _ _ => i
  | .submit rcvd => rcvd
  | _ => 0

/-- Completions already submitted to the fill ring and not released. -/
def pending : CompletePhase → Nat
  | .release rcvd => rcvd
  | _ => 0

/-- The indices of the copy loop, from the two shared indices. -/
def Aligned (fqProducer cqConsumer : Nat) : CompletePhase → Prop
  | .reserve _ idxCq => idxCq = cqConsumer
  | .copy rcvd i idxCq idxFq => idxCq = cqConsumer + i ∧ idxFq = fqProducer + i ∧ i ≤ rcvd
  | _ => True

theorem copiedCount_le {fqProducer cqConsumer : Nat} {phase : CompletePhase}
    (aligned : phase.Aligned fqProducer cqConsumer) : phase.copiedCount ≤ phase.peekedCount := by
  cases phase with
  | copy rcvd i idxCq idxFq => exact aligned.2.2
  | submit rcvd => exact le_rfl
  | _ => exact Nat.zero_le _

theorem pending_le (phase : CompletePhase) : phase.pending ≤ phase.peekedCount := by
  cases phase <;> simp [pending, peekedCount]

end CompletePhase

structure UmemInv (phase : CompletePhase) (fq cq : SharedRing Nat)
    (reaped refilled : List Nat) : Prop where
  producing : fq.Producing
  consuming : cq.Consuming
  cqSize : cq.size = xskRingConsDefaultNumDescs
  reserved : fq.cached = fq.producer + phase.reservedCount
  peeked : cq.cached = cq.consumer + phase.peekedCount
  aligned : phase.Aligned fq.producer cq.consumer
  copied : ∀ index < phase.copiedCount,
    fq.entry (fq.producer + index) = cq.entry (cq.consumer + index)
  filled : fq.producer = numFrames + cq.consumer + phase.pending
  reapedCount : reaped.length = cq.consumer
  recycled : refilled = reaped ++ cq.window cq.consumer (cq.consumer + phase.pending)

section Steps

variable {phase : CompletePhase} {fq cq : SharedRing Nat} {reaped refilled : List Nat}

/-- The peeked completions fit into the ring. -/
theorem UmemInv.peekedCount_le (held : UmemInv phase fq cq reaped refilled) :
    phase.peekedCount ≤ cq.size := by
  have available := held.consuming.available
  have bounded := held.consuming.bounded
  have peeked := held.peeked
  omega

theorem UmemInv.peek (held : UmemInv .peek fq cq reaped refilled) {count : Nat}
    (available : cq.cached + count ≤ cq.producer) :
    UmemInv (.reserve count cq.cached) fq { cq with cached := cq.cached + count } reaped
      refilled := by
  have peeked : cq.cached = cq.consumer + 0 := held.peeked
  exact
    { held with
      consuming := held.consuming.advance available
      peeked := congrArg (· + count) peeked
      aligned := peeked }

theorem UmemInv.reserve {rcvd idxCq : Nat}
    (held : UmemInv (.reserve rcvd idxCq) fq cq reaped refilled)
    (fits : fq.cached + rcvd ≤ fq.consumer + fq.size) :
    UmemInv (.copy rcvd 0 idxCq fq.cached) { fq with cached := fq.cached + rcvd } cq reaped
      refilled := by
  have producing := held.producing
  have reserved : fq.cached = fq.producer + 0 := held.reserved
  have aligned : idxCq = cq.consumer := held.aligned
  exact
    { held with
      producing :=
        ⟨producing.positive, producing.published, Nat.le_add_right_of_le producing.reserved, fits⟩
      reserved := congrArg (· + rcvd) reserved
      aligned := ⟨aligned, reserved, Nat.zero_le rcvd⟩ }

/-- One turn of the copy loop. -/
theorem UmemInv.copy {rcvd i idxCq idxFq : Nat}
    (held : UmemInv (.copy rcvd i idxCq idxFq) fq cq reaped refilled) (unfinished : i < rcvd) :
    UmemInv (.copy rcvd (i + 1) (idxCq + 1) (idxFq + 1)) (fq.put idxFq (cq.entry idxCq)) cq
      reaped refilled := by
  have atCq : idxCq = cq.consumer + i := held.aligned.1
  have atFq : idxFq = fq.producer + i := held.aligned.2.1
  have reserved : fq.cached = fq.producer + rcvd := held.reserved
  have bounded := held.producing.bounded
  have published := held.producing.published
  refine
    { held with
      producing := held.producing.put _ _
      aligned := ⟨congrArg (· + 1) atCq, congrArg (· + 1) atFq, unfinished⟩
      copied := ?_ }
  intro index below
  replace below : index < i + 1 := below
  rcases Nat.lt_succ_iff_lt_or_eq.mp below with earlier | last
  · have other : (fq.put idxFq (cq.entry idxCq)).entry (fq.producer + index) =
        fq.entry (fq.producer + index) :=
      fq.entry_put_other (by omega) (by omega) (by omega)
    exact other.trans (held.copied index earlier)
  · subst last
    change (fq.put idxFq (cq.entry idxCq)).entry (fq.producer + index) = _
    rw [← atFq, ← atCq]
    exact fq.entry_put_same _ _

theorem UmemInv.exit {rcvd i idxCq idxFq : Nat}
    (held : UmemInv (.copy rcvd i idxCq idxFq) fq cq reaped refilled) (finished : ¬ i < rcvd) :
    UmemInv (.submit rcvd) fq cq reaped refilled := by
  have bound : i ≤ rcvd := held.aligned.2.2
  have all : i = rcvd := by omega
  exact
    { held with
      aligned := trivial
      copied := fun index below => held.copied index (by rw [all]; exact below) }

/-- What a submit to the fill ring publishes is what the peek returned. -/
theorem UmemInv.submitting_window {rcvd : Nat}
    (held : UmemInv (.submit rcvd) fq cq reaped refilled) :
    fq.window fq.producer (fq.producer + rcvd) = cq.window cq.consumer (cq.consumer + rcvd) := by
  unfold SharedRing.window
  rw [Nat.add_sub_cancel_left, Nat.add_sub_cancel_left, List.range'_eq_map_range,
    List.range'_eq_map_range, List.map_map, List.map_map]
  apply List.map_congr_left
  intro index member
  exact held.copied index (List.mem_range.mp member)

theorem UmemInv.submit {rcvd : Nat} (held : UmemInv (.submit rcvd) fq cq reaped refilled) :
    UmemInv (.release rcvd) (fq.submit rcvd) cq reaped
      (refilled ++ fq.window fq.producer (fq.producer + rcvd)) := by
  have reserved : fq.cached = fq.producer + rcvd := held.reserved
  have filled : fq.producer = numFrames + cq.consumer + 0 := held.filled
  have recycled : refilled = reaped := by simpa [CompletePhase.pending] using held.recycled
  exact
    { held with
      producing := held.producing.submit reserved.ge
      reserved := reserved
      aligned := trivial
      copied := fun index below => absurd below (Nat.not_lt_zero index)
      filled := congrArg (· + rcvd) filled
      recycled := by
        rw [held.submitting_window, recycled]
        rfl }

theorem UmemInv.release {rcvd : Nat} (held : UmemInv (.release rcvd) fq cq reaped refilled) :
    UmemInv .peek fq (cq.release rcvd)
      (reaped ++ cq.window cq.consumer (cq.consumer + rcvd)) refilled := by
  have peeked : cq.cached = cq.consumer + rcvd := held.peeked
  have filled : fq.producer = numFrames + cq.consumer + rcvd := held.filled
  have recycled : refilled = reaped ++ cq.window cq.consumer (cq.consumer + rcvd) := held.recycled
  have reapedCount := held.reapedCount
  exact
    { held with
      consuming := held.consuming.release peeked.ge
      peeked := peeked
      aligned := trivial
      copied := fun index below => absurd below (Nat.not_lt_zero index)
      filled := filled.trans (Nat.add_assoc _ _ _)
      reapedCount := by simp [reapedCount, SharedRing.release]
      recycled := by simpa [CompletePhase.pending] using recycled }

/-- The kernel takes one frame from the fill ring. -/
theorem UmemInv.takeFill (held : UmemInv phase fq cq reaped refilled)
    (published : fq.consumer < fq.producer) :
    UmemInv phase { fq with consumer := fq.consumer + 1 } cq reaped refilled :=
  { held with producing := held.producing.take published }

/-- The kernel puts one frame into the completion ring. -/
theorem UmemInv.complete (held : UmemInv phase fq cq reaped refilled) (address : Nat)
    (room : cq.producer < cq.consumer + cq.size) :
    UmemInv phase fq { cq.put cq.producer address with producer := cq.producer + 1 } reaped
      refilled := by
  have available := held.consuming.available
  have peeked := held.peeked
  have copiedCount := CompletePhase.copiedCount_le held.aligned
  have pending := phase.pending_le
  refine
    { held with
      consuming := held.consuming.offer address room
      copied := ?_
      recycled := ?_ }
  · intro index below
    have other : (cq.put cq.producer address).entry (cq.consumer + index) =
        cq.entry (cq.consumer + index) :=
      cq.entry_put_other (by omega) (by omega) (by omega)
    exact (held.copied index below).trans other.symm
  · have kept : (cq.put cq.producer address).window cq.consumer (cq.consumer + phase.pending) =
        cq.window cq.consumer (cq.consumer + phase.pending) :=
      cq.window_put (by omega) (by omega) (by omega)
    exact held.recycled.trans (congrArg _ kept.symm)

end Steps

/-! ## Start -/

private theorem populateLoop_fields (frameSize : Nat) (ring : SharedRing Nat) (count : Nat) :
    let filled := populateLoop frameSize ring count
    filled.size = ring.size ∧ filled.producer = ring.producer ∧
      filled.consumer = ring.consumer ∧ filled.cached = ring.cached := by
  induction count with
  | zero => exact ⟨rfl, rfl, rfl, rfl⟩
  | succ count inductionHypothesis => exact inductionHypothesis

private theorem populateLoop_entry (frameSize : Nat) (ring : SharedRing Nat) {count index : Nat}
    (below : index < count) (fits : count ≤ ring.size) :
    (populateLoop frameSize ring count).entry index = index * frameSize := by
  induction count with
  | zero => omega
  | succ count inductionHypothesis =>
      have size := (populateLoop_fields frameSize ring count).1
      change ((populateLoop frameSize ring count).put count (count * frameSize)).entry index = _
      rcases Nat.lt_succ_iff_lt_or_eq.mp below with earlier | last
      · rw [SharedRing.entry_put_other _ (by omega) (by omega) (by omega)]
        exact inductionHypothesis earlier (by omega)
      · rw [last, SharedRing.entry_put_same]

private theorem populated (frameSize count : Nat) :
    let fq :=
      (populateLoop frameSize ((emptyRing count 0).reserve count).2 count).submit count
    fq.size = count ∧ fq.producer = count ∧ fq.consumer = 0 ∧ fq.cached = count ∧
      fq.window 0 count = (List.range count).map (· * frameSize) := by
  have reserved : ((emptyRing count 0).reserve count).2 =
      { emptyRing count 0 with cached := count } := by
    simp [SharedRing.reserve, emptyRing]
  have fields := populateLoop_fields frameSize { emptyRing count 0 with cached := count } count
  rw [reserved]
  refine ⟨fields.1, ?_, fields.2.2.1, fields.2.2.2, ?_⟩
  · change (populateLoop _ _ _).producer + count = count
    rw [fields.2.1]
    exact Nat.zero_add count
  · unfold SharedRing.window
    rw [Nat.sub_zero, List.range_eq_range']
    apply List.map_congr_left
    intro index member
    rw [List.mem_range'_1] at member
    exact populateLoop_entry frameSize _ (by omega) (Nat.le_refl count)

/-- The fill ring after `xsk_populate_fill_ring` holds every frame once, and its
indices say so. -/
theorem xskPopulateFillRing_spec (frameSize : Nat) :
    let fq := xskPopulateFillRing frameSize (emptyRing numFrames 0)
    fq.size = numFrames ∧ fq.producer = numFrames ∧ fq.consumer = 0 ∧ fq.cached = numFrames ∧
      fq.window 0 numFrames = (List.range numFrames).map (· * frameSize) :=
  populated frameSize numFrames

theorem xskPopulateFillRing_entry (frameSize : Nat) {index : Nat} (below : index < numFrames) :
    (xskPopulateFillRing frameSize (emptyRing numFrames 0)).entry index = index * frameSize := by
  obtain ⟨-, -, -, -, entries⟩ := xskPopulateFillRing_spec frameSize
  have nth := congrArg (fun addresses => addresses[index]?) entries
  simpa [SharedRing.window, below] using nth

theorem numFrames_pos : 0 < numFrames := by decide

theorem xskRingConsDefaultNumDescs_pos : 0 < xskRingConsDefaultNumDescs := by decide

theorem emptyRing_consuming {Entry : Type} {size : Nat} (entry : Entry) (positive : 0 < size) :
    (emptyRing size entry).Consuming :=
  ⟨positive, Nat.le_refl 0, Nat.le_refl 0, Nat.zero_le _⟩

theorem emptyRing_producing {Entry : Type} {size : Nat} (entry : Entry) (positive : 0 < size) :
    (emptyRing size entry).Producing :=
  ⟨positive, Nat.le_refl 0, Nat.le_refl 0, Nat.zero_le _⟩

theorem UmemInv.initial (frameSize : Nat) :
    UmemInv .peek (xskPopulateFillRing frameSize (emptyRing numFrames 0))
      (emptyRing xskRingConsDefaultNumDescs 0) [] [] := by
  obtain ⟨size, producer, consumer, cached, -⟩ := xskPopulateFillRing_spec frameSize
  exact
    { producing :=
        { positive := size.symm ▸ numFrames_pos
          published := consumer.symm ▸ Nat.zero_le _
          reserved := (producer.trans cached.symm).le
          bounded := (cached.trans (by rw [consumer, size, Nat.zero_add])).le }
      consuming := emptyRing_consuming 0 xskRingConsDefaultNumDescs_pos
      cqSize := rfl
      reserved := by simp [cached, producer, CompletePhase.reservedCount]
      peeked := rfl
      aligned := trivial
      copied := fun index below => absurd below (Nat.not_lt_zero index)
      filled := producer
      reapedCount := rfl
      recycled := by simp [CompletePhase.pending] }

end UserspaceXdp.AfXdp
