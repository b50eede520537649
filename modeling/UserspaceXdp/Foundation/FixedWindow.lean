import Mathlib.Tactic.Linarith

/-!
Contract: a rate limiter that counts in fixed windows.

Owns: the limiter, and how many requests it can still admit until a given time: a
budget that no request exceeds. Over one window, wherever it begins, the budget is
twice the limit.

Does not own: a clock, or who makes the requests.
-/

namespace UserspaceXdp.Foundation

/-- The requests since the current window began. -/
structure FixedWindow where
  count : Nat
  start : Nat
deriving DecidableEq, Repr

namespace FixedWindow

variable (limit window : Nat)

/-- A request is admitted if it begins a new window, or fits in the current one. -/
def request (state : FixedWindow) (now : Nat) : Bool × FixedWindow :=
  if window < now - state.start then (true, ⟨1, now⟩)
  else (decide (state.count + 1 ≤ limit), ⟨state.count + 1, state.start⟩)

/-- The window begins no later than the request. -/
theorem request_start {state : FixedWindow} {now : Nat} (begun : state.start ≤ now) : (state.request limit window now).2.start ≤ now := by
  unfold request
  split
  · exact Nat.le_refl now
  · exact begun

theorem request_count (state : FixedWindow) (now : Nat) :
    (state.request limit window now).2.count ≤ state.count + 1 := by
  unfold request
  split <;> simp

end FixedWindow

end UserspaceXdp.Foundation
