import Mathlib.Data.List.Basic

/-!
Contract: properties of every step of a run.

Owns: what it means that each action of a run meets a property in the state it
is taken in, and the rule that carries an equivalence of two such properties
from single steps to runs by an invariant; a property of all states of a run as
one of its steps.

Does not own: any particular machine.
-/

namespace UserspaceXdp.Foundation

variable {State Action : Type*}

/-- Every action meets the property in the state in which it is taken. -/
def AtEveryStep (step : State → Action → State) (property : State → Action → Prop)
    (start : State) (actions : List Action) : Prop :=
  ∀ done action rest, actions = done ++ action :: rest →
    property (done.foldl step start) action

section Rules

variable {step : State → Action → State} {property condition : State → Action → Prop}

theorem atEveryStep_nil (start : State) : AtEveryStep step property start [] := by
  intro done action rest cut
  simp at cut

theorem atEveryStep_cons {start : State} {action : Action} {rest : List Action} :
    AtEveryStep step property start (action :: rest) ↔
      property start action ∧ AtEveryStep step property (step start action) rest := by
  constructor
  · intro every
    refine ⟨every [] action rest rfl, ?_⟩
    intro done next later cut
    exact every (action :: done) next later (by rw [cut, List.cons_append])
  · rintro ⟨first, later⟩ done next remaining cut
    cases done with
    | nil =>
        rw [List.nil_append, List.cons.injEq] at cut
        rw [← cut.1]
        exact first
    | cons head done =>
        rw [List.cons_append, List.cons.injEq] at cut
        rw [List.foldl_cons, ← cut.1]
        exact later done next remaining cut.2

/-- If, under an invariant, a property of a step is a condition on it, and the
condition keeps the invariant, then a run has the property at every step exactly
if it meets the condition at every step. -/
theorem atEveryStep_iff_of_invariant (invariant : State → Prop)
    (local_iff : ∀ state action, invariant state →
      (property state action ↔ condition state action))
    (kept : ∀ state action, invariant state → condition state action →
      invariant (step state action))
    {start : State} (established : invariant start) (actions : List Action) :
    AtEveryStep step property start actions ↔ AtEveryStep step condition start actions := by
  induction actions generalizing start with
  | nil => exact ⟨fun _ => atEveryStep_nil start, fun _ => atEveryStep_nil start⟩
  | cons action rest inductionHypothesis =>
      rw [atEveryStep_cons, atEveryStep_cons, local_iff start action established]
      exact and_congr_right fun meets => inductionHypothesis (kept start action established meets)

/-- The property holds in every state of the run. -/
def InEveryState (step : State → Action → State) (holds : State → Prop) (start : State)
    (actions : List Action) : Prop :=
  ∀ done rest, actions = done ++ rest → holds (done.foldl step start)

theorem inEveryState_cons {holds : State → Prop} {start : State} {action : Action}
    {rest : List Action} :
    InEveryState step holds start (action :: rest) ↔
      holds start ∧ InEveryState step holds (step start action) rest := by
  constructor
  · intro every
    refine ⟨every [] (action :: rest) rfl, ?_⟩
    intro done later cut
    exact every (action :: done) later (by rw [cut, List.cons_append])
  · rintro ⟨first, every⟩ done later cut
    cases done with
    | nil => exact first
    | cons head done =>
        rw [List.cons_append, List.cons.injEq] at cut
        rw [List.foldl_cons, ← cut.1]
        exact every done later cut.2

theorem inEveryState_iff {holds : State → Prop} {start : State} {actions : List Action} :
    InEveryState step holds start actions ↔
      holds start ∧ AtEveryStep step (fun state action => holds (step state action)) start
        actions := by
  constructor
  · intro every
    refine ⟨every [] actions rfl, ?_⟩
    intro done action rest cut
    have reached := every (done ++ [action]) rest (by rw [cut, List.append_assoc]; rfl)
    rwa [List.foldl_append] at reached
  · rintro ⟨first, every⟩ done rest cut
    rcases List.eq_nil_or_concat done with rfl | ⟨earlier, action, rfl⟩
    · exact first
    · rw [List.concat_eq_append, List.append_assoc] at cut
      rw [List.concat_eq_append, List.foldl_append]
      exact every earlier action rest cut

end Rules

end UserspaceXdp.Foundation
