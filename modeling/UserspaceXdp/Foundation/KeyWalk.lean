import Mathlib.Data.List.Induction
import Mathlib.Order.Lattice
import UserspaceXdp.Foundation.Runs

/-!
Contract: a walk over the keys of a store that changes while it is walked.

Owns: stores that answer which key comes next, walks with any changes of the store
between the answers, and what a walk visits: keys in their order, keys that were
there, and by its end every key that was there all the time.

Does not own: how a store finds the next key, or what its changes are.
-/

namespace UserspaceXdp.Foundation

variable {Store Key Change : Type} [LinearOrder Key]

/-- `next` gives the least key above one, if there is any. -/
structure KeyStore (Store Key : Type) [LinearOrder Key] where
  Has : Store → Key → Prop
  next : Store → Key → Option Key
  next_some : ∀ {store key later}, next store key = some later →
    key < later ∧ Has store later ∧ ∀ other, Has store other → key < other → later ≤ other
  next_none : ∀ {store key}, next store key = none → ∀ other, Has store other → other ≤ key

inductive WalkEvent (Change : Type) where
  | change (change : Change)
  | next
deriving DecidableEq, Repr

/-- The walk asks for the key after `cursor`. It has ended when there was none. -/
structure Walk (Store Key : Type) where
  store : Store
  cursor : Key
  visited : List Key
  ended : Bool

namespace KeyStore

variable (keys : KeyStore Store Key) (apply : Store → Change → Store)

def walkStep (walk : Walk Store Key) : WalkEvent Change → Walk Store Key
  | .change change => { walk with store := apply walk.store change }
  | .next =>
      match keys.next walk.store walk.cursor with
      | none => { walk with ended := true }
      | some key => { walk with cursor := key, visited := walk.visited ++ [key] }

variable {keys apply} {walk : Walk Store Key}

/-- The keys visited since `start`, the last of which is the cursor. -/
structure Ordered (start : Key) (walk : Walk Store Key) : Prop where
  increasing : walk.visited.Pairwise (· < ·)
  above : ∀ key ∈ walk.visited, start < key ∧ key ≤ walk.cursor
  fromStart : start ≤ walk.cursor

theorem Ordered.step {start : Key} (held : Ordered start walk) (event : WalkEvent Change) :
    Ordered start (keys.walkStep apply walk event) := by
  cases event with
  | change change => exact ⟨held.increasing, held.above, held.fromStart⟩
  | next =>
      rw [walkStep]
      cases found : keys.next walk.store walk.cursor with
      | none => exact ⟨held.increasing, held.above, held.fromStart⟩
      | some key =>
          have after := (keys.next_some found).1
          refine ⟨?_, ?_, held.fromStart.trans after.le⟩
          · rw [List.pairwise_append]
            refine ⟨held.increasing, List.pairwise_singleton _ _, ?_⟩
            intro earlier member later single
            rw [List.mem_singleton.mp single]
            exact (held.above earlier member).2.trans_lt after
          · intro visited member
            rcases List.mem_append.mp member with old | new
            · exact ⟨(held.above visited old).1, (held.above visited old).2.trans after.le⟩
            · rw [List.mem_singleton.mp new]
              exact ⟨held.fromStart.trans_lt after, le_rfl⟩

/-- What the walk owes a key that stays. -/
structure Covered (key : Key) (walk : Walk Store Key) : Prop where
  passed : key ≤ walk.cursor → key ∈ walk.visited
  ended : walk.ended = true → key ≤ walk.cursor

theorem Covered.step {key : Key} (held : Covered key walk) (there : keys.Has walk.store key)
    (event : WalkEvent Change) : Covered key (keys.walkStep apply walk event) := by
  cases event with
  | change change => exact ⟨held.passed, held.ended⟩
  | next =>
      rw [walkStep]
      cases found : keys.next walk.store walk.cursor with
      | none => exact ⟨held.passed, fun _ => keys.next_none found key there⟩
      | some later =>
          obtain ⟨after, -, least⟩ := keys.next_some found
          refine ⟨fun reached => ?_, fun ended => (held.ended ended).trans after.le⟩
          rw [List.mem_append, List.mem_singleton]
          by_cases behind : key ≤ walk.cursor
          · exact .inl (held.passed behind)
          · exact .inr (le_antisymm reached (least key there (not_le.mp behind)))

/-! ## Whole walks -/

theorem Ordered.run {start : Key} (held : Ordered start walk)
    (events : List (WalkEvent Change)) :
    Ordered start (events.foldl (keys.walkStep apply) walk) := by
  induction events generalizing walk with
  | nil => exact held
  | cons event rest inductionHypothesis => exact inductionHypothesis (held.step event)

theorem Covered.run {key : Key} (held : Covered key walk) {events : List (WalkEvent Change)}
    (stays : InEveryState (keys.walkStep apply) (fun walk => keys.Has walk.store key) walk
      events) :
    Covered key (events.foldl (keys.walkStep apply) walk) := by
  induction events generalizing walk with
  | nil => exact held
  | cons event rest inductionHypothesis =>
      obtain ⟨there, later⟩ := inEveryState_cons.mp stays
      exact inductionHypothesis (held.step there event) later

/-- A visited key was in the store when the call was made that visited it. -/
theorem visited_there (events : List (WalkEvent Change)) {key : Key}
    (visited : key ∈ (events.foldl (keys.walkStep apply) walk).visited)
    (new : key ∉ walk.visited) :
    ∃ done rest, events = done ++ .next :: rest ∧
      keys.Has (done.foldl (keys.walkStep apply) walk).store key ∧
      ((done ++ [.next]).foldl (keys.walkStep apply) walk).visited =
        (done.foldl (keys.walkStep apply) walk).visited ++ [key] := by
  induction events using List.reverseRecOn with
  | nil => exact absurd visited new
  | append_singleton events event inductionHypothesis =>
      rw [List.foldl_concat] at visited
      by_cases earlier : key ∈ (events.foldl (keys.walkStep apply) walk).visited
      · obtain ⟨done, rest, rfl, there, call⟩ := inductionHypothesis earlier
        refine ⟨done, rest ++ [event], ?_, there, call⟩
        rw [List.append_assoc, List.cons_append]
      · cases event with
        | change change => exact absurd visited earlier
        | next =>
            refine ⟨events, [], rfl, ?_⟩
            rw [List.foldl_concat]
            rw [walkStep] at visited ⊢
            cases found : keys.next (events.foldl (keys.walkStep apply) walk).store
                (events.foldl (keys.walkStep apply) walk).cursor with
            | none =>
                rw [found] at visited
                exact absurd visited earlier
            | some later =>
                rw [found] at visited
                have here := (List.mem_append.mp visited).resolve_left earlier
                rw [List.mem_singleton.mp here]
                exact ⟨(keys.next_some found).2.1, rfl⟩

end KeyStore

end UserspaceXdp.Foundation
