import Standby.Proofs.Dispatcher.Order

/-!
# The capacity of a dispatcher

After every run the workers that are parked or have a task are live, and the live
workers and the loops still to be launched fit into the capacity. While the dispatcher
runs nobody is live for any other reason. What is compared with the capacity is a sum
of machine words, which does not overflow when the capacity itself is a word.

A worker that has left may still have an announcement to make. It is not live any
more, and another may take its place.
-/

namespace Standby.Dispatcher

open Duration (Millis)

namespace Roster

/-- The workers that count against the capacity, added up in machine words. -/
def reservedWord (width : Nat) (roster : Roster) : BitVec width :=
  BitVec.ofNat width roster.available + BitVec.ofNat width roster.pending +
    BitVec.ofNat width roster.starting

/-- The machine finds the right sum if that does not exceed another word. -/
theorem toNat_reservedWord {width limit : Nat} (roster : Roster)
    (word : (BitVec.ofNat width limit).toNat = limit) (bounded : roster.reserved ≤ limit) :
    (roster.reservedWord width).toNat = roster.reserved := by
  have fits : limit < 2 ^ width := by
    rw [← word]
    exact BitVec.isLt _
  have sum : (roster.reservedWord width).toNat = roster.reserved % 2 ^ width := by
    simp [reservedWord, reserved, BitVec.toNat_add]
  rw [sum, Nat.mod_eq_of_lt (Nat.lt_of_le_of_lt bounded fits)]

end Roster

namespace Census

variable {capacity : Nat} {roster : Roster} {workers : List Worker}

/-- A worker that is parked or has a task is live. -/
theorem available_add_pending_le (census : Census capacity roster workers) :
    roster.available + roster.pending ≤ roster.live := by
  rw [census.live_eq]
  exact Nat.le_add_right _ _

/-- What counts against the capacity never exceeds it. -/
theorem reserved_le (census : Census capacity roster workers) : roster.reserved ≤ capacity := by
  have within := census.within
  have accounted := census.available_add_pending_le
  simp only [Roster.reserved]
  omega

end Census

namespace System

/-- The numbers of a dispatcher keep to its capacity. -/
structure WithinCapacity (capacity : Nat) (system : System) : Prop where
  /-- Whoever is parked or has a task is live. -/
  accounted : system.roster.available + system.roster.pending ≤ system.roster.live
  /-- There is room for all that are live and all that may still register. -/
  within : system.roster.live + system.roster.starting ≤ capacity
  /-- While the dispatcher runs, nobody else is live. -/
  running : system.roster.phase = .running →
    system.roster.live = system.roster.available + system.roster.pending
  /-- An observer sees the capacity and nothing beyond it. -/
  shown : system.snapshot.capacity = capacity ∧
    system.snapshot.available + system.snapshot.pending + system.snapshot.starting ≤ capacity
  /-- Where the capacity is a machine word, the machine adds up what counts against it
  without an overflow. -/
  added : ∀ width, (BitVec.ofNat width capacity).toNat = capacity →
    (system.roster.reservedWord width).toNat = system.roster.reserved
  /-- So many workers have registered and not left. -/
  registered : system.workers.countP (·.stage.isLive) ≤ capacity

/-- Every run keeps to the capacity. -/
theorem play_withinCapacity (capacity : Nat) (idleTimeout : Option Millis) (moves : List Move)
    (system : System) (events : List Event)
    (run : (fresh capacity idleTimeout).play moves = some (system, events)) :
    system.WithinCapacity capacity := by
  have order : InOrder capacity system := inOrder_of_play run
  have census := order.census
  have bounded : system.roster.reserved ≤ capacity := census.reserved_le
  exact
    { accounted := census.available_add_pending_le
      within := census.within
      running := census.live_of_running
      shown := ⟨order.bounded, bounded⟩
      added := fun _ word => system.roster.toNat_reservedWord word bounded
      registered := by
        rw [← census.live]
        exact Nat.le_trans (Nat.le_add_right _ _) census.within }

/-- A task reaches the only worker, and the dispatcher is told to stop while the worker
has it. -/
def busyStop : List Move :=
  [.invoke .start, .proceed 0, .invoke (.offer false), .proceed 1, .launch 0,
    .invoke (.offer false), .proceed 2, .work 0, .invoke .stop, .proceed 3]

/-- A dispatcher that stops while its only worker has a task keeps to its capacity. -/
theorem busyStop_withinCapacity :
    ∃ system events, (fresh 1 none).play busyStop = some (system, events) ∧
      system.roster.phase = .stopping ∧ system.roster.live = 1 ∧ system.roster.pending = 1 ∧
      system.WithinCapacity 1 :=
  ⟨_, _, rfl, rfl, rfl, rfl, play_withinCapacity 1 none busyStop _ _ rfl⟩

end System

end Standby.Dispatcher
