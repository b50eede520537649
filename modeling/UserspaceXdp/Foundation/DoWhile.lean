import Mathlib.Tactic

/-!
Contract: the `do { … } while (…)` loop whose body may return.

Owns: an executable, fuelled interpretation that also records the states it
visits, and the two rules that say how it ends: by the first body that
returns, or by the condition once every body has fallen through.

Does not own: any particular body. A caller that picks the fuel proves by
these rules that the loop ends before the fuel does.
-/

namespace UserspaceXdp.Foundation.DoWhile

variable {State Result : Type}

/-- How a loop ended: the value its body returned, or `none` when the
condition stopped it, with the states whose body ran, in order. -/
structure Run (State Result : Type) where
  result : Option Result
  visited : List State

/-- `do { if (body(s)) return …; s = next(s); } while (again(s));`. The answer
is `none` when the fuel is spent while the loop is still going. -/
def loop (body : State → Option Result) (next : State → State) (again : State → Bool) :
    Nat → State → Option (Run State Result)
  | 0, _ => none
  | fuel + 1, state =>
      match body state with
      | some result => some ⟨some result, [state]⟩
      | none =>
          if again (next state) then
            (loop body next again fuel (next state)).map fun run =>
              ⟨run.result, state :: run.visited⟩
          else
            some ⟨none, [state]⟩

/-- The states of the first `count` iterations from `start`. -/
def orbit (next : State → State) (start : State) (count : Nat) : List State :=
  (List.range count).map fun index => next^[index] start

theorem orbit_succ (next : State → State) (start : State) (count : Nat) :
    orbit next start (count + 1) = start :: orbit next (next start) count := by
  simp [orbit, List.range_succ_eq_map, Function.comp_def]

section Rules

variable {body : State → Option Result} {next : State → State} {again : State → Bool}

/-- The loop returns what the first returning body returns. -/
theorem loop_returns {start : State} {distance fuel : Nat} {result : Result}
    (enough : distance < fuel)
    (silent : ∀ index < distance, body (next^[index] start) = none)
    (goesOn : ∀ index < distance, again (next^[index + 1] start) = true)
    (returns : body (next^[distance] start) = some result) :
    loop body next again fuel start =
      some ⟨some result, orbit next start (distance + 1)⟩ := by
  induction distance generalizing start fuel with
  | zero =>
      obtain ⟨fuel, rfl⟩ := Nat.exists_eq_succ_of_ne_zero (Nat.ne_of_gt enough)
      have now : body start = some result := returns
      simp [loop, now, orbit]
  | succ distance inductionHypothesis =>
      obtain ⟨fuel, rfl⟩ := Nat.exists_eq_succ_of_ne_zero (Nat.ne_of_gt (by omega : 0 < fuel))
      have now : body start = none := silent 0 (by omega)
      have on : again (next start) = true := goesOn 0 (by omega)
      have rest : loop body next again fuel (next start) =
          some ⟨some result, orbit next (next start) (distance + 1)⟩ :=
        inductionHypothesis (by omega)
          (fun index below => silent (index + 1) (by omega))
          (fun index below => goesOn (index + 1) (by omega)) returns
      rw [orbit_succ next start]
      simp only [loop, now, on, rest, if_true, Option.map_some]

/-- When no body returns, the condition ends the loop. -/
theorem loop_falls_through {start : State} {count fuel : Nat}
    (enough : count < fuel)
    (silent : ∀ index ≤ count, body (next^[index] start) = none)
    (goesOn : ∀ index < count, again (next^[index + 1] start) = true)
    (stops : again (next^[count + 1] start) = false) :
    loop body next again fuel start = some ⟨none, orbit next start (count + 1)⟩ := by
  induction count generalizing start fuel with
  | zero =>
      obtain ⟨fuel, rfl⟩ := Nat.exists_eq_succ_of_ne_zero (Nat.ne_of_gt enough)
      have now : body start = none := silent 0 (by omega)
      have off : again (next start) = false := stops
      simp [loop, now, off, orbit]
  | succ count inductionHypothesis =>
      obtain ⟨fuel, rfl⟩ := Nat.exists_eq_succ_of_ne_zero (Nat.ne_of_gt (by omega : 0 < fuel))
      have now : body start = none := silent 0 (by omega)
      have on : again (next start) = true := goesOn 0 (by omega)
      have rest : loop body next again fuel (next start) =
          some ⟨none, orbit next (next start) (count + 1)⟩ :=
        inductionHypothesis (by omega)
          (fun index below => silent (index + 1) (by omega))
          (fun index below => goesOn (index + 1) (by omega)) stops
      rw [orbit_succ next start]
      simp only [loop, now, on, rest, if_true, Option.map_some]

end Rules

end UserspaceXdp.Foundation.DoWhile
