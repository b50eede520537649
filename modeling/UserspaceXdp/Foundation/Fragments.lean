import Mathlib.Tactic

/-!
Contract: streams of buffers in which some buffers end a packet.

Owns: the number of buffers after the last ending one, the buffers of complete
packets, the first buffers of all packets, how each of them grows when one
buffer is appended, and that descriptions of the buffers decide them.

Does not own: what a buffer is or how its end is marked.
-/

namespace UserspaceXdp.Foundation.Fragments

variable {Buffer : Type} (ends : Buffer → Bool)

/-- How many buffers follow the last one that ends a packet. -/
def openCount (buffers : List Buffer) : Nat :=
  (buffers.reverse.takeWhile fun buffer => !ends buffer).length

/-- The buffers up to the last one that ends a packet. -/
def completed (buffers : List Buffer) : List Buffer :=
  buffers.take (buffers.length - openCount ends buffers)

/-- The buffers that start a packet; `fresh` says whether the first one does. -/
def headsFrom (fresh : Bool) : List Buffer → List Buffer
  | [] => []
  | buffer :: rest =>
      if fresh then buffer :: headsFrom (ends buffer) rest
      else headsFrom (ends buffer) rest

def heads (buffers : List Buffer) : List Buffer :=
  headsFrom ends true buffers

variable {ends}

@[simp] theorem openCount_nil : openCount ends [] = 0 := rfl

theorem openCount_concat (buffers : List Buffer) (buffer : Buffer) :
    openCount ends (buffers ++ [buffer]) =
      if ends buffer then 0 else openCount ends buffers + 1 := by
  unfold openCount
  rw [List.reverse_append, List.reverse_singleton, List.singleton_append, List.takeWhile_cons]
  cases ends buffer <;> simp

theorem length_completed (buffers : List Buffer) :
    (completed ends buffers).length = buffers.length - openCount ends buffers := by
  unfold completed
  rw [List.length_take]
  omega

/-- Where every buffer ends a packet, no packet is open. -/
theorem openCount_of_all_end {buffers : List Buffer}
    (allEnd : ∀ buffer ∈ buffers, ends buffer = true) : openCount ends buffers = 0 := by
  induction buffers using List.reverseRecOn with
  | nil => rfl
  | append_singleton buffers buffer inductionHypothesis =>
      rw [openCount_concat, if_pos (allEnd buffer (by simp))]

/-- Whether the next buffer starts a packet. -/
private def freshAfter (ends : Buffer → Bool) (fresh : Bool) : List Buffer → Bool
  | [] => fresh
  | buffer :: rest => freshAfter ends (ends buffer) rest

private theorem freshAfter_concat (fresh : Bool) (buffers : List Buffer) (buffer : Buffer) :
    freshAfter ends fresh (buffers ++ [buffer]) = ends buffer := by
  induction buffers generalizing fresh with
  | nil => rfl
  | cons head rest inductionHypothesis => exact inductionHypothesis (ends head)

private theorem headsFrom_concat (fresh : Bool) (buffers : List Buffer) (buffer : Buffer) :
    headsFrom ends fresh (buffers ++ [buffer]) =
      headsFrom ends fresh buffers ++ if freshAfter ends fresh buffers then [buffer] else [] := by
  induction buffers generalizing fresh with
  | nil => cases fresh <;> rfl
  | cons head rest inductionHypothesis =>
      have tail := inductionHypothesis (ends head)
      cases fresh with
      | false => exact tail
      | true => exact congrArg (head :: ·) tail

private theorem freshAfter_iff_openCount (buffers : List Buffer) :
    freshAfter ends true buffers = true ↔ openCount ends buffers = 0 := by
  induction buffers using List.reverseRecOn with
  | nil => simp [freshAfter]
  | append_singleton buffers buffer inductionHypothesis =>
      rw [freshAfter_concat, openCount_concat]
      cases ends buffer <;> simp

/-- An appended buffer starts a packet when none is open. -/
theorem heads_concat (buffers : List Buffer) (buffer : Buffer) :
    heads ends (buffers ++ [buffer]) =
      heads ends buffers ++ if openCount ends buffers = 0 then [buffer] else [] := by
  unfold heads
  rw [headsFrom_concat]
  simp only [freshAfter_iff_openCount]

/-! ## Other descriptions of the buffers -/

section Map

variable {Description : Type} {ends : Description → Bool} (describe : Buffer → Description)

theorem openCount_map (buffers : List Buffer) :
    openCount ends (buffers.map describe) =
      openCount (fun buffer => ends (describe buffer)) buffers := by
  unfold openCount
  rw [← List.map_reverse, List.takeWhile_map, List.length_map]
  rfl

private theorem headsFrom_map (fresh : Bool) (buffers : List Buffer) :
    headsFrom ends fresh (buffers.map describe) =
      (headsFrom (fun buffer => ends (describe buffer)) fresh buffers).map describe := by
  induction buffers generalizing fresh with
  | nil => rfl
  | cons head rest inductionHypothesis =>
      have tail := inductionHypothesis (ends (describe head))
      cases fresh with
      | false => exact tail
      | true => exact congrArg (describe head :: ·) tail

theorem heads_map (buffers : List Buffer) :
    heads ends (buffers.map describe) =
      (heads (fun buffer => ends (describe buffer)) buffers).map describe :=
  headsFrom_map describe true buffers

end Map

end UserspaceXdp.Foundation.Fragments
