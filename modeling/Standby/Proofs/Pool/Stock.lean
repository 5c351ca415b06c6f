import Standby.Proofs.Pool.Ledger

/-!
# What a pool has in stock

A job is in stock while it waits in the queue, lies with a thread or runs there. It comes into
the stock when its call has sent it, in the same section in which the call is answered, and it
leaves the stock when it ends. No other section changes how many jobs of a kind there are, and no
other one answers a submission with success. A job that has gone with the last thread never ends
and is kept in the books.
-/

namespace Standby.Pool

variable {α : Type}

/-- The thread has a job of this kind. -/
def Thread.stocks (kind : α → Bool) (thread : Thread α) : Bool :=
  thread.job?.any fun entry => kind entry.2

namespace System

/-- How many jobs of a kind wait in the queue or lie with the threads, or have gone with the
last of them. -/
def stock (kind : α → Bool) (system : System α) : Nat :=
  (system.abandoned ++ system.queue).countP (fun entry => kind entry.2) +
    system.threads.countP (Thread.stocks kind)

end System

/-- What a section does to the stock of jobs, and what it answers. -/
inductive Stocks (system next : System α) : Move α → List Event → Prop where
  /-- Nobody is answered, and no job ends. -/
  | silent (move : Move α) (events : List Event)
      (goesOn : ∀ thread outcome, move ≠ .finish thread outcome)
      (quiet : ∀ number answer, .returned number answer ∉ events)
      (stock : ∀ kind, next.stock kind = system.stock kind) : Stocks system next move events
  /-- A call is refused, or has closed the pool. -/
  | answered (number : Nat) (answer : Answer)
      (closes : answer = .done → ∀ stage job, system.calls.get? number = some stage →
        ¬ stage.Serves (.submit job))
      (stock : ∀ kind, next.stock kind = system.stock kind) :
    Stocks system next (.proceed number) [.returned number answer]
  /-- A call has sent its job. -/
  | sent (number : Nat) (job : α) (found : system.calls.get? number = some (.sending job))
      (stock : ∀ kind, next.stock kind = system.stock kind + (kind job).toNat) :
    Stocks system next (.proceed number) [.queued number, .returned number .done]
  /-- The job of a thread ends. -/
  | ended (thread number : Nat) (job : α) (outcome : Outcome)
      (found : system.threads[thread]? = some (.running number job))
      (stock : ∀ kind, next.stock kind + (kind job).toNat = system.stock kind) :
    Stocks system next (.finish thread outcome) [.ended thread number]

namespace System

variable {system next : System α} {move : Move α}

/-- A new pool has no jobs. -/
theorem stock_fresh (kind : α → Bool) (threads queueCapacity : Nat) :
    (System.fresh threads queueCapacity : System α).stock kind = 0 := by
  simp [stock, fresh, List.countP_replicate, Thread.stocks, Thread.job?]

/-- A thread goes on. -/
theorem stock_of_set {thread : Nat} {stage : Thread α} (kind : α → Bool)
    (found : system.threads[thread]? = some stage) (later : Thread α)
    (threads : next.threads = system.threads.set thread later) :
    next.stock kind + (stage.stocks kind).toNat +
        (system.abandoned ++ system.queue).countP (fun entry => kind entry.2) =
      system.stock kind + (later.stocks kind).toNat +
        (next.abandoned ++ next.queue).countP (fun entry => kind entry.2) := by
  have changed := Counting.countP_set (Thread.stocks kind) system.threads thread stage later found
  simp only [stock, threads]
  omega

/-- Every section does one of these things to the stock. -/
theorem stocks_of_section {result : System α × List Event} (made : Section system move result) :
    Stocks system result.1 move result.2 := by
  have turned {thread : Nat} {stage : Thread α} (found : system.threads[thread]? = some stage)
      (later : Thread α) (threads : result.1.threads = system.threads.set thread later)
      (queue : result.1.abandoned ++ result.1.queue = system.abandoned ++ system.queue)
      (same : ∀ kind, later.stocks kind = stage.stocks kind) (kind : α → Bool) :
      result.1.stock kind = system.stock kind := by
    have changed := stock_of_set kind found later threads
    rw [queue, same] at changed
    omega
  have freed {thread number : Nat} {job : α}
      (found : system.threads[thread]? = some (.running number job)) (later : Thread α)
      (free : ∀ kind, later.stocks kind = false) (kind : α → Bool) :
      (system.setThread thread later).stock kind + (kind job).toNat = system.stock kind := by
    have changed : (system.setThread thread later).stock kind + (kind job).toNat + _ = _ :=
      stock_of_set kind found later rfl
    rw [free] at changed
    simp only [setThread, Bool.toNat_false] at changed ⊢
    omega
  cases made with
  | invoked | admitted | declared | reached | counted | obstructed =>
    exact .silent _ _ (by simp) (by simp) fun _ => rfl
  | letGo => exact .silent _ _ (by simp) (by split <;> simp) fun _ => rfl
  | late call | missed call | uncounted call => exact .answered call _ (by simp) fun _ => rfl
  | closedBefore call found | parted call found =>
    refine .answered call .done (fun _ stage job held serves => ?_) fun _ => rfl
    obtain rfl := Option.some.inj (found.symm.trans held)
    cases serves
  | sent call job found clear =>
    refine .sent call job found fun kind => ?_
    simp only [stock, reply, List.countP_append, Counting.countP_cons, List.countP_nil]
    omega
  | started thread found | stopped thread found | recorded thread number failure found
  | spilled thread number failure found | lost thread found =>
    exact .silent _ _ (by simp) (by simp) (turned found _ rfl rfl fun _ => rfl)
  | abandoned thread found =>
    exact .silent _ _ (by simp) (by simp)
      (turned found _ rfl (by simp [setThread]) fun _ => rfl)
  | began thread number job found =>
    exact .silent _ _ (by simp) (by simp) (turned found _ rfl rfl fun _ => rfl)
  | took thread number job rest found first =>
    refine .silent _ _ (by simp) (by simp) fun kind => ?_
    have changed := stock_of_set kind found (.received number job)
      (rfl : (({ system with queue := rest }.setThread thread (.received number job)).threads = _))
    have taken := Counting.countP_cons (fun entry => kind entry.2) (number, job) rest
    simp only [setThread, first, List.countP_append, Thread.stocks, Thread.job?, Option.any_none,
      Option.any_some, Bool.toNat_false] at changed taken ⊢
    omega
  | returned thread number job found =>
    exact .ended thread number job _ found (freed found .idle fun _ => rfl)
  | failed thread number job failure found =>
    exact .ended thread number job _ found
      (freed found (.failed number failure) fun _ => rfl)

end System

end Standby.Pool
