import Mathlib.Data.Option.Basic

/-!
# Runs of moves

Every system here is played alike: a move makes a step or cannot be made, and a run makes its moves
one after the other and collects what happens. What each step keeps a run keeps. The induction
for this is made once, over the moves of any system that is played so.
-/

namespace Standby

variable {State Move Event : Type}

/-- A run makes its moves one after the other, if each of them can be made, and collects what
happens in their order. -/
structure Plays (step : State → Move → Option (State × List Event))
    (play : State → List Move → Option (State × List Event)) : Prop where
  nil : ∀ state, play state [] = some (state, [])
  cons : ∀ state move moves, play state (move :: moves) =
    (step state move).bind fun first =>
      (play first.1 moves).bind fun last => some (last.1, first.2 ++ last.2)

namespace Plays

variable {step : State → Move → Option (State × List Event)}
  {play : State → List Move → Option (State × List Event)} (plays : Plays step play)
include plays

/-- A run is its first move and a run of what that leaves. -/
theorem cons_eq_some_iff {state : State} {move : Move} {moves : List Move}
    {result : State × List Event} : play state (move :: moves) = some result ↔
      ∃ first last, step state move = some first ∧ play first.1 moves = some last ∧
        (last.1, first.2 ++ last.2) = result := by
  rw [plays.cons]
  constructor
  · intro run
    obtain ⟨first, made, rest⟩ := Option.bind_eq_some_iff.mp run
    obtain ⟨last, played, same⟩ := Option.bind_eq_some_iff.mp rest
    exact ⟨first, last, made, played, Option.some.inj same⟩
  · rintro ⟨first, last, made, played, rfl⟩
    rw [made, Option.bind_some, played, Option.bind_some]

/-- What every move of a run keeps, the whole run keeps. The property may speak of the moves
that were made and of what has happened so far. -/
theorem run_induction (invariant : List Move → State → List Event → Prop) {moves : List Move}
    (kept : ∀ move ∈ moves, ∀ made state events result, invariant made state events →
      step state move = some result → invariant (made ++ [move]) result.1 (events ++ result.2))
    (made : List Move) {state : State} {events : List Event} (start : invariant made state events)
    {result : State × List Event} (run : play state moves = some result) :
    invariant (made ++ moves) result.1 (events ++ result.2) := by
  -- Every run is taken from its first move on, so what has happened before it varies.
  induction moves generalizing state made events result with
  | nil =>
    rw [plays.nil] at run
    obtain rfl := Option.some.inj run
    simpa using start
  | cons move moves inductionHypothesis =>
    obtain ⟨first, last, stepped, played, rfl⟩ := plays.cons_eq_some_iff.mp run
    have next : invariant (made ++ [move]) first.1 (events ++ first.2) :=
      kept move List.mem_cons_self made state events first start stepped
    have final := inductionHypothesis
      (fun later member => kept later (List.mem_cons_of_mem move member)) _ next played
    simpa using final

end Plays

end Standby
