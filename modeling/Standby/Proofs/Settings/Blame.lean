import Mathlib.Data.List.Nodup
import Standby.Proofs.Settings.Check

/-!
# The first refused setting

Reading the settings fails when one of them is refused, and the first refused one in their order
takes the blame. Each setting has a fault of its own or none, which does not depend on the
settings behind it, and reading gives the first of these faults.
-/

namespace Standby.Settings

/-- The fault that a result is, if it is one. -/
def refusal? {α : Type} : Except Fault α → Option Fault
  | .ok _ => none
  | .error fault => some fault

section Sequence

variable (environment : Environment) (processors : Nat)

/-- The number of backing threads, if it can be read. -/
def backing? : Option Nat := (Backing.readThreads environment processors).toOption

/-- The fault of one setting, whatever the others are. -/
def fault? : Setting → Option Fault
  | .backingThreads => refusal? (Backing.readThreads environment processors)
  | .queueCapacity => refusal?
      (Backing.readQueueCapacity environment ((backing? environment processors).getD processors))
  | .reservedThreads => refusal?
      (Reserved.readCapacity environment processors (backing? environment processors))
  | .idleTimeout => refusal? (Reserved.readIdleTimeout environment)
  | .chains => refusal? (Load.readChains environment)
  | .loops => refusal? (environment.numberOr Load.loopsVariable 100000)
  | .format => refusal? (Logging.readFormat environment)

/-- The chains are checked before the loops are read. -/
theorem Load.read_eq : Load.read environment = do
    let chains ← Load.readChains environment
    let loops ← environment.numberOr Load.loopsVariable 100000
    return ⟨loops, chains, environment.flag "PRINT_METRICS"⟩ := by
  unfold Load.read Load.readChains
  cases environment.numberOr Load.chainsVariable 8 with
  | error fault => rfl
  | ok chains => cases chains <;> rfl

/-- The settings are read one after the other. -/
theorem read_eq : read environment processors = do
    let threads ← Backing.readThreads environment processors
    let queueCapacity ← Backing.readQueueCapacity environment threads
    let (wish, capacity) ← Reserved.readCapacity environment processors (some threads)
    let idleTimeout ← Reserved.readIdleTimeout environment
    let chains ← Load.readChains environment
    let loops ← environment.numberOr Load.loopsVariable 100000
    let format ← Logging.readFormat environment
    return ⟨⟨threads, queueCapacity⟩, ⟨wish, idleTimeout, capacity⟩,
      ⟨loops, chains, environment.flag "PRINT_METRICS"⟩,
      ⟨Logging.readFilter environment, format,
        environment.textOr "SERVICE_NAME" Logging.program⟩⟩ := by
  unfold read Backing.read Reserved.read Reserved.readCapacity Logging.read
  simp only [Load.read_eq, bind_assoc, pure_bind]

/-- The first fault of a list is that of its head, or else one behind it. -/
theorem findSome?_cons_or {α : Type} (fault? : α → Option Fault) (first : α) (rest : List α) :
    (first :: rest).findSome? fault? = (fault? first).or (rest.findSome? fault?) := by
  rw [List.findSome?_cons]
  cases fault? first <;> rfl

/-- What is read next fails only if nothing failed before. -/
theorem refusal_bind {α β : Type} {result : Except Fault α} {next : α → Except Fault β}
    {rest : Option Fault}
    (behind : ∀ value, result = .ok value → refusal? (next value) = rest) :
    refusal? (result >>= next) = (refusal? result).or rest := by
  cases result with
  | error fault => rfl
  | ok value => exact behind value rfl

/-- Reading gives the first fault. -/
theorem refusal_read :
    refusal? (read environment processors) =
      Setting.order.findSome? (fault? environment processors) := by
  rw [read_eq]
  simp only [Setting.order, findSome?_cons_or, List.findSome?_nil, Option.or_none]
  refine refusal_bind fun threads resolved => ?_
  have known : backing? environment processors = some threads := by
    rw [backing?, resolved]
    rfl
  simp only [fault?, known, Option.getD_some]
  refine refusal_bind fun queueCapacity _ => ?_
  refine refusal_bind fun reserve _ => ?_
  refine refusal_bind fun idleTimeout _ => ?_
  refine refusal_bind fun chains _ => ?_
  refine refusal_bind fun loops _ => ?_
  cases Logging.readFormat environment <;> rfl

end Sequence

section Own

variable {environment : Environment} {processors : Nat} {setting : Setting}

/-- A check either passes or tells why not. -/
theorem Judged.passes_or_explains {α : Type} {fits : α → Prop} {result : Except Fault α}
    (judged : Judged environment processors setting fits result) :
    (refusal? result = none ∧ ¬ Refused environment processors setting) ∨
      ∃ fault, refusal? result = some fault ∧ Explains environment processors setting fault := by
  cases result with
  | ok value => exact .inl ⟨rfl, judged.1⟩
  | error fault => exact .inr ⟨fault, rfl, judged⟩

/-- A setting that a fault explains is refused, and it takes the blame. -/
theorem Explains.blames {fault : Fault} (explains : Explains environment processors setting fault) :
    Refused environment processors setting ∧ fault.blames = setting.name := by
  cases explains with
  | unreadable _ refused => exact ⟨.inl refused, rfl⟩
  | outOfBounds refused => exact ⟨.inr refused, rfl⟩

variable (present : 0 < processors)
include present

/-- The backing threads are known if they can be read. -/
theorem threadsFor_iff (threads : Nat) :
    ThreadsFor environment processors threads ↔ backing? environment processors = some threads := by
  have judged := judged_readThreads environment processors present
  unfold backing?
  cases read : Backing.readThreads environment processors with
  | ok found =>
    rw [read] at judged
    have resolved : ThreadsFor environment processors found := judged.2.1
    simp only [Except.toOption, Option.some.injEq]
    refine ⟨resolved.unique, ?_⟩
    rintro rfl
    exact resolved
  | error fault =>
    rw [read] at judged
    have refused : Refused environment processors .backingThreads := Explains.blames judged |>.1
    simp only [Except.toOption, reduceCtorEq, iff_false]
    rintro ⟨count, known, -⟩
    exact refused.elim (known.readable fun _ => Iff.rfl) id

/-- A setting has a fault of its own if its rule refuses it, and else none. -/
theorem fault?_cases (setting : Setting) :
    (fault? environment processors setting = none ∧ ¬ Refused environment processors setting) ∨
      ∃ fault, fault? environment processors setting = some fault ∧
        Explains environment processors setting fault := by
  cases setting with
  | backingThreads => exact (judged_readThreads environment processors present).passes_or_explains
  | queueCapacity =>
    refine (judged_readQueueCapacity environment processors ?_).passes_or_explains
    cases known : backing? environment processors with
    | none => exact present
    | some threads =>
      obtain ⟨count, -, rfl⟩ := (threadsFor_iff present threads).mpr known
      show 0 < if count = 0 then processors else count
      split <;> omega
  | reservedThreads =>
    exact (judged_readCapacity environment processors
      (threadsFor_iff present)).passes_or_explains
  | idleTimeout => exact (judged_readIdleTimeout environment processors).passes_or_explains
  | chains => exact (judged_readChains environment processors).passes_or_explains
  | loops => exact (judged_loops environment processors).passes_or_explains
  | format => exact (judged_readFormat environment processors).passes_or_explains

end Own

section Order

/-- The settings before a setting, the setting, and those behind it. -/
theorem order_eq (setting : Setting) :
    ∃ later, Setting.order = setting.earlier ++ setting :: later := by
  cases setting <;> exact ⟨_, rfl⟩

/-- Every setting is read at some time. -/
theorem mem_order (setting : Setting) : setting ∈ Setting.order := by
  cases setting <;> decide

/-- No setting is read twice. -/
theorem order_nodup : Setting.order.Nodup := by decide

/-- What stands before a setting are the settings that are read before it. -/
theorem eq_earlier {setting : Setting} {front later : List Setting}
    (order : Setting.order = front ++ setting :: later) : front = setting.earlier := by
  have absent : setting ∉ front := by
    intro member
    have nodup := order_nodup
    rw [order] at nodup
    exact (List.nodup_append.mp nodup).2.2 setting member setting List.mem_cons_self rfl
  have others : ∀ other ∈ front, decide (other ≠ setting) = true := fun other member => by
    simpa using ne_of_mem_of_not_mem member absent
  rw [Setting.earlier, order, List.takeWhile_append_of_pos others]
  simp

/-- No two settings share a variable. -/
theorem name_injective : ∀ {one other : Setting}, one.name = other.name → one = other := by
  have distinct : (Setting.order.map Setting.name).Nodup := by decide +kernel
  intro one other same
  exact List.inj_on_of_nodup_map distinct (mem_order one) (mem_order other) same

/-- The backing threads are read before anything else. -/
theorem backing_mem (setting : Setting) : .backingThreads ∈ setting.earlier ++ [setting] := by
  cases setting <;> decide

end Order

section Blame

variable {environment : Environment} {processors : Nat}

/-- A fault is given exactly if it is the first. -/
theorem read_eq_error_iff (fault : Fault) :
    read environment processors = .error fault ↔
      Setting.order.findSome? (fault? environment processors) = some fault := by
  rw [← refusal_read]
  cases read environment processors <;> simp [refusal?]

/-- Reading succeeds exactly if no setting has a fault. -/
theorem read_eq_ok_iff :
    (∃ settings, read environment processors = .ok settings) ↔
      ∀ setting, fault? environment processors setting = none := by
  have accepted : (∃ settings, read environment processors = .ok settings) ↔
      refusal? (read environment processors) = none := by
    cases read environment processors <;> simp [refusal?]
  rw [accepted, refusal_read, List.findSome?_eq_none_iff]
  exact ⟨fun none setting => none setting (mem_order setting), fun none setting _ => none setting⟩

variable (present : 0 < processors)
include present

/-- A setting has no fault of its own exactly if its rule accepts it. -/
theorem fault?_eq_none_iff (setting : Setting) :
    fault? environment processors setting = none ↔ ¬ Refused environment processors setting := by
  rcases fault?_cases present setting with ⟨none, accepted⟩ | ⟨fault, found, explains⟩
  · exact ⟨fun _ => accepted, fun _ => none⟩
  · simp [found, explains.blames.1]

/-- The fault that reading gives explains the first refused setting. -/
theorem read_eq_error_iff_first (environment : Environment) (fault : Fault) :
    read environment processors = .error fault ↔ ∃ setting : Setting,
      fault? environment processors setting = some fault ∧
        Explains environment processors setting fault ∧
          ∀ earlier ∈ setting.earlier, ¬ Refused environment processors earlier := by
  rw [read_eq_error_iff, List.findSome?_eq_some_iff]
  constructor
  · rintro ⟨front, setting, later, order, found, none⟩
    obtain rfl := eq_earlier order
    refine ⟨setting, found, ?_, fun earlier member =>
      (fault?_eq_none_iff present earlier).mp (none earlier member)⟩
    rcases fault?_cases present setting with ⟨none, -⟩ | ⟨other, same, explains⟩
    · rw [none] at found
      cases found
    · rw [same] at found
      cases found
      exact explains
  · rintro ⟨setting, found, -, accepted⟩
    obtain ⟨later, order⟩ := order_eq setting
    exact ⟨_, setting, later, order, found, fun earlier member =>
      (fault?_eq_none_iff present earlier).mpr (accepted earlier member)⟩

end Blame

section Congruence

variable {environment other : Environment} {processors : Nat}

/-- A number is read from its own variable. -/
theorem numberOr_congr {name : String} (own : other.text? name = environment.text? name)
    (default : Nat) : other.numberOr name default = environment.numberOr name default := by
  simp only [Environment.numberOr, Environment.filled?, own]

/-- The threads of the backing pool hang on their own variable only. -/
theorem backing?_congr (processors : Nat)
    (backing : other.text? Backing.threadsVariable = environment.text? Backing.threadsVariable) :
    Backing.readThreads other processors = Backing.readThreads environment processors ∧
      backing? other processors = backing? environment processors := by
  simp only [backing?, Backing.readThreads, Environment.textOr, backing, and_self]

/-- The fault of a setting depends on its own variable and on that of the backing threads. -/
theorem fault?_congr {setting : Setting}
    (backing : other.text? Backing.threadsVariable = environment.text? Backing.threadsVariable)
    (own : other.text? setting.name = environment.text? setting.name) :
    fault? other processors setting = fault? environment processors setting := by
  obtain ⟨threads, known⟩ := backing?_congr processors backing
  cases setting with
  | backingThreads => simp only [fault?, threads]
  | queueCapacity =>
    simp only [Setting.name] at own
    simp only [fault?, known, Backing.readQueueCapacity, Environment.textOr, own]
  | reservedThreads =>
    simp only [Setting.name] at own
    simp only [fault?, known, Reserved.readCapacity, Reserved.readWish, Environment.textOr, own]
  | idleTimeout =>
    simp only [Setting.name] at own
    simp only [fault?, Reserved.readIdleTimeout, Environment.filled?, own]
  | chains =>
    simp only [Setting.name] at own
    simp only [fault?, Load.readChains, numberOr_congr own]
  | loops =>
    simp only [Setting.name] at own
    simp only [fault?, numberOr_congr own]
  | format =>
    simp only [Setting.name] at own
    simp only [fault?, Logging.readFormat, Environment.textOr, own]

/-- A fault stays the first as long as nothing up to it changes. -/
theorem read_error_congr (present : 0 < processors) {setting : Setting} {fault : Fault}
    (failed : read environment processors = .error fault) (blames : fault.blames = setting.name)
    (same : ∀ earlier ∈ setting.earlier ++ [setting],
      other.text? earlier.name = environment.text? earlier.name) :
    read other processors = .error fault := by
  obtain ⟨first, found, explains, accepted⟩ :=
    (read_eq_error_iff_first present environment fault).mp failed
  obtain rfl : first = setting := name_injective (explains.blames.2.symm.trans blames)
  have own (earlier : Setting) (member : earlier ∈ first.earlier ++ [first]) :
      fault? other processors earlier = fault? environment processors earlier :=
    fault?_congr (same _ (backing_mem first)) (same earlier member)
  obtain ⟨later, order⟩ := order_eq first
  refine (read_eq_error_iff fault).mpr (List.findSome?_eq_some_iff.mpr
    ⟨_, first, later, order, (own first (by simp)).trans found, fun earlier member => ?_⟩)
  rw [own earlier (List.mem_append_left _ member), fault?_eq_none_iff present]
  exact accepted earlier member

end Congruence

end Standby.Settings
