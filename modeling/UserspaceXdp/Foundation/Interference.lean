import Mathlib.Data.List.Basic
import Mathlib.Tactic

/-!
Contract: when the users of one store do not notice each other.

Owns: interleaved operations of several users on a store, the results one user
sees, and the rule that these results are the same without the other users if
the operations of the others leave the store, up to what no result shows, as it
was.

Does not own: what is in the store.
-/

namespace UserspaceXdp.Foundation

variable {User State Op Result : Type} [DecidableEq User]

/-- The results of one user's operations in an interleaving. -/
def resultsOf (apply : State → Op → Result × State) (user : User) :
    State → List (User × Op) → List Result
  | _, [] => []
  | state, (actor, operation) :: rest =>
      let (result, next) := apply state operation
      if actor = user then result :: resultsOf apply user next rest
      else resultsOf apply user next rest

/-- Every operation of another user is harmless in the state it meets. -/
def Undisturbing (apply : State → Op → Result × State) (harmless : State → Op → Prop)
    (user : User) : State → List (User × Op) → Prop
  | _, [] => True
  | state, (actor, operation) :: rest =>
      (actor ≠ user → harmless state operation) ∧
        Undisturbing apply harmless user (apply state operation).2 rest

/-- One user's operations alone. -/
def alone (user : User) (events : List (User × Op)) : List (User × Op) :=
  events.filter fun event => event.1 = user

/-- `same` relates states that no operation tells apart, and a harmless
operation stays in relation. -/
structure Unwinding (apply : State → Op → Result × State) (harmless : State → Op → Prop)
    (same : State → State → Prop) : Prop where
  result : ∀ {left right}, same left right → ∀ operation,
    (apply left operation).1 = (apply right operation).1
  step : ∀ {left right}, same left right → ∀ operation,
    same (apply left operation).2 (apply right operation).2
  silent : ∀ {left right}, same left right → ∀ operation, harmless left operation →
    same (apply left operation).2 right

/-- A user sees the results it would see alone. -/
theorem Unwinding.resultsOf_alone {apply : State → Op → Result × State}
    {harmless : State → Op → Prop} {same : State → State → Prop}
    (unwinding : Unwinding apply harmless same) {user : User} {events : List (User × Op)}
    {left right : State} (related : same left right)
    (undisturbed : Undisturbing apply harmless user left events) :
    resultsOf apply user left events = resultsOf apply user right (alone user events) := by
  induction events generalizing left right with
  | nil => rfl
  | cons event rest inductionHypothesis =>
      obtain ⟨actor, operation⟩ := event
      obtain ⟨quiet, later⟩ := undisturbed
      rw [alone, List.filter_cons]
      by_cases own : actor = user
      · rw [if_pos (decide_eq_true own), resultsOf, resultsOf]
        simp only [if_pos own]
        rw [unwinding.result related operation]
        congr 1
        exact inductionHypothesis (unwinding.step related operation) later
      · rw [if_neg (by simpa using own), resultsOf]
        simp only [if_neg own]
        exact inductionHypothesis (unwinding.silent related operation (quiet own)) later

end UserspaceXdp.Foundation
