/-!
# Tallies

What a dispatcher counts over its whole life. The counts never go back, also not
when the dispatcher is stopped and started again.

The counts have no bound here. In words of 64 bits they are meant for runs with fewer
than 2^64 of each kind, after which a count would begin again from zero.
-/

namespace Standby.Dispatcher

/-- The things that a dispatcher counts. -/
inductive Count where
  /-- Tasks handed to a parked worker. -/
  | accepted
  /-- Tasks given back to the caller. -/
  | declined
  /-- Worker loops that the executor took. -/
  | spawned
  /-- Worker loops that the executor refused. -/
  | spawnFailures
  /-- Workers that retired because they were idle for too long. -/
  | idleRetired
  /-- Tasks that failed. -/
  | taskFailures
deriving DecidableEq, Repr

/-- The counts of a dispatcher. -/
structure Tally where
  accepted : Nat
  declined : Nat
  spawned : Nat
  spawnFailures : Nat
  idleRetired : Nat
  taskFailures : Nat
deriving DecidableEq, Repr

namespace Tally

/-- The tally with the given counts. -/
def of (value : Count → Nat) : Tally :=
  ⟨value .accepted, value .declined, value .spawned, value .spawnFailures, value .idleRetired,
    value .taskFailures⟩

/-- One of the counts. -/
def get (tally : Tally) : Count → Nat
  | .accepted => tally.accepted
  | .declined => tally.declined
  | .spawned => tally.spawned
  | .spawnFailures => tally.spawnFailures
  | .idleRetired => tally.idleRetired
  | .taskFailures => tally.taskFailures

/-- Nothing counted yet. -/
def zero : Tally := of fun _ => 0

/-- Count once. -/
def add (tally : Tally) (count : Count) : Tally :=
  of fun other => if other = count then tally.get other + 1 else tally.get other

/-- A count of a tally is the one that it was made with. -/
@[simp] theorem get_of (value : Count → Nat) (count : Count) :
    (of value).get count = value count := by
  cases count <;> rfl

/-- Nothing is counted at the beginning. -/
@[simp] theorem get_zero (count : Count) : zero.get count = 0 := get_of _ count

/-- Counting once raises one count by one, and the others stay. -/
@[simp] theorem get_add (tally : Tally) (count other : Count) :
    (tally.add count).get other = if other = count then tally.get other + 1 else tally.get other :=
  get_of _ other

/-- A tally is known by its counts. -/
theorem ext {left right : Tally} (same : ∀ count, left.get count = right.get count) :
    left = right := by
  cases left
  cases right
  simp only [mk.injEq]
  exact ⟨same .accepted, same .declined, same .spawned, same .spawnFailures, same .idleRetired,
    same .taskFailures⟩

end Tally

end Standby.Dispatcher
