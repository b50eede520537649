import Mathlib.Data.List.Forall2

/-!
Contract: two machines that take the same inputs in lockstep.

Owns: the trace of a machine, which has the output and the state after each
input, and the rule that a relation kept by one step of both machines, with equal
outputs, is kept along whole traces.

Does not own: how a state is represented or what an input means.
-/

namespace UserspaceXdp.Foundation.Lockstep

variable {Input Output State Left Right : Type}

/-- The output of every input, with the state after it. -/
def trace (step : State → Input → Output × State) : State → List Input → List (Output × State)
  | _, [] => []
  | state, input :: later => step state input :: trace step (step state input).2 later

/-- One step of related states gives one output and related states. -/
def Simulation (left : Left → Input → Output × Left) (right : Right → Input → Output × Right)
    (Related : Left → Right → Prop) : Prop :=
  ∀ leftState rightState input, Related leftState rightState →
    (left leftState input).1 = (right rightState input).1 ∧
      Related (left leftState input).2 (right rightState input).2

theorem Simulation.trace {left : Left → Input → Output × Left}
    {right : Right → Input → Output × Right} {Related : Left → Right → Prop}
    (simulation : Simulation left right Related) {leftState : Left} {rightState : Right}
    (related : Related leftState rightState) (inputs : List Input) :
    List.Forall₂
      (fun leftResult rightResult =>
        leftResult.1 = rightResult.1 ∧ Related leftResult.2 rightResult.2)
      (trace left leftState inputs) (trace right rightState inputs) := by
  induction inputs generalizing leftState rightState with
  | nil => exact List.Forall₂.nil
  | cons input later inductionHypothesis =>
      have next := simulation leftState rightState input related
      exact List.Forall₂.cons next (inductionHypothesis next.2)

end UserspaceXdp.Foundation.Lockstep
