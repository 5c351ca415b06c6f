import Standby.Proofs.Settings.Blame

/-!
# Reading by the rules

Reading accepts exactly the environments in which no setting is refused, and blames the first
refused setting. What stands in the variables behind it has no say. Some settings take the empty
text for an unset variable and others refuse it, and a text that is not UTF-8 counts as unset
throughout.
-/

namespace Standby.Settings

open Text

/-- The environment without a variable. -/
def Environment.without (environment : Environment) (name : String) : Environment :=
  ⟨environment.bindings.filter (·.1 != name)⟩

/-- The sizes that were read are sound. -/
structure Sound (settings : Settings) : Prop where
  threads : 1 ≤ settings.backing.threads
  queueCapacity : 1 ≤ settings.backing.queueCapacity
  /-- The size of the queue is a word of 64 bits if a hundred jobs for each thread are. -/
  queueInWord : settings.backing.threads * 100 ≤ largestWord →
    settings.backing.queueCapacity ≤ largestWord
  chains : 1 ≤ settings.load.chains
  /-- The idle timeout takes some time, or there is none. -/
  idleTimeout : ∀ millis, settings.reserved.idleTimeout = some millis → 1 ≤ millis
  /-- Reserved threads leave a backing thread for other work. -/
  capacity : settings.reserved.capacity = 0 ∨
    settings.reserved.capacity < settings.backing.threads

/-- How the settings are read from an environment on a machine with so many processors. -/
structure ReadByRules (environment : Environment) (processors : Nat) : Prop where
  /-- The settings are read exactly if none is refused. -/
  accepted : (∃ settings, read environment processors = .ok settings) ↔
    ∀ setting, ¬ Refused environment processors setting
  /-- A setting takes the blame exactly if it is the first that is refused. -/
  blamed : ∀ setting : Setting,
    (∃ fault, read environment processors = .error fault ∧ fault.blames = setting.name) ↔
      Refused environment processors setting ∧
        ∀ earlier ∈ setting.earlier, ¬ Refused environment processors earlier
  /-- The fault tells whether the setting is unreadable, and then its text, or out of bounds. -/
  explained : ∀ fault, read environment processors = .error fault →
    ∃ setting, Explains environment processors setting fault
  /-- The variables behind the blamed one have no say. -/
  later : ∀ (setting : Setting) fault, read environment processors = .error fault →
    fault.blames = setting.name → ∀ other : Environment,
    (∀ earlier ∈ setting.earlier ++ [setting],
      other.text? earlier.name = environment.text? earlier.name) →
    read other processors = .error fault
  /-- Some settings take the empty text for an unset variable. -/
  emptyUnset : ∀ setting ∈ [Setting.idleTimeout, .chains, .loops],
    environment.text? setting.name = some "" →
    read (environment.without setting.name) processors = read environment processors
  /-- Others refuse the empty text. -/
  emptyRefused : ∀ setting ∈ [Setting.backingThreads, .queueCapacity, .format],
    environment.text? setting.name = some "" → Refused environment processors setting
  /-- A text that is not UTF-8 counts as unset. -/
  undecodable : ∀ name value, environment.bindings.lookup name = some value →
    String.fromUTF8? value = none →
    read (environment.without name) processors = read environment processors
  /-- What is read is sound. -/
  sound : ∀ settings, read environment processors = .ok settings → Sound settings

section Unset

variable {environment other : Environment} {processors : Nat}

/-- A removed variable is unset, and the others stay as they are. -/
theorem Environment.text?_without (environment : Environment) (name other : String) :
    (environment.without name).text? other =
      if other = name then none else environment.text? other := by
  have found (bindings : List (String × ByteArray)) :
      (bindings.filter (·.1 != name)).lookup other =
        if other = name then none else bindings.lookup other := by
    induction bindings with
    | nil => simp
    | cons first rest inductionHypothesis =>
      obtain ⟨bound, value⟩ := first
      by_cases removed : bound = name
      · rw [List.filter_cons_of_neg (by simp [removed]), inductionHypothesis, removed]
        split
        · rfl
        · rename_i kept
          rw [List.lookup_cons, beq_eq_false_iff_ne.mpr kept]
      · rw [List.filter_cons_of_pos (by simpa using removed), List.lookup_cons, List.lookup_cons,
          inductionHypothesis]
        by_cases same : other = bound
        · subst same
          simp only [beq_self_eq_true, if_neg removed]
        · rw [beq_eq_false_iff_ne.mpr same]
  rw [text?, without, found]
  split <;> rfl

/-- The variables of which the empty text is taken as it is. -/
def wholeVariables : List String :=
  [Backing.threadsVariable, Backing.queueVariable, Reserved.threadsVariable,
    Logging.formatVariable, "SERVICE_NAME"]

/-- Reading looks at a few variables as they are, and at the others only unless they are
empty. -/
theorem read_congr (filled : ∀ name, other.filled? name = environment.filled? name)
    (whole : ∀ name ∈ wholeVariables, other.text? name = environment.text? name) :
    read other processors = read environment processors := by
  have threads := whole Backing.threadsVariable (by simp [wholeVariables])
  have queue := whole Backing.queueVariable (by simp [wholeVariables])
  have reserved := whole Reserved.threadsVariable (by simp [wholeVariables])
  have format := whole Logging.formatVariable (by simp [wholeVariables])
  have service := whole "SERVICE_NAME" (by simp [wholeVariables])
  simp only [read, Backing.read, Backing.readThreads, Backing.readQueueCapacity, Reserved.read,
    Reserved.readWish, Reserved.readIdleTimeout, Load.read, Logging.read, Logging.readFormat,
    Logging.readFilter, Logging.level?, Logging.fallbackFilter, Environment.numberOr,
    Environment.flag, Environment.textOr, filled, threads, queue, reserved, format, service]

/-- A variable that counts as unset can be removed. -/
theorem read_without {name : String} (unset : environment.filled? name = none)
    (nothing : name ∈ wholeVariables → environment.text? name = none) :
    read (environment.without name) processors = read environment processors := by
  refine read_congr (fun other => ?_) fun other listed => ?_
  · by_cases same : other = name
    · subst same
      rw [unset, Environment.filled?, Environment.text?_without, if_pos rfl]
      rfl
    · rw [Environment.filled?, Environment.text?_without, if_neg same]
      rfl
  · rw [Environment.text?_without]
    split
    · rename_i same
      subst same
      exact (nothing listed).symm
    · rfl

end Unset

section Sound

variable {environment : Environment} {processors : Nat}

/-- What was read next was read from something. -/
theorem ok_of_bind {α β : Type} {result : Except Fault α} {next : α → Except Fault β} {value : β}
    (read : result >>= next = .ok value) :
    ∃ first, result = .ok first ∧ next first = .ok value := by
  cases result with
  | ok first => exact ⟨first, rfl, read⟩
  | error fault => cases read

/-- What a check accepts fits. -/
theorem Judged.fits {α : Type} {setting : Setting} {fits : α → Prop} {result : Except Fault α}
    {value : α} (judged : Judged environment processors setting fits result)
    (accepted : result = .ok value) : fits value := by
  subst accepted
  exact judged.2

/-- Every size is sound because its own check is. -/
theorem sound_of_read (present : 0 < processors) {settings : Settings}
    (accepted : read environment processors = .ok settings) : Sound settings := by
  rw [read_eq] at accepted
  obtain ⟨threads, readThreads, accepted⟩ := ok_of_bind accepted
  obtain ⟨queueCapacity, readQueue, accepted⟩ := ok_of_bind accepted
  obtain ⟨⟨wish, capacity⟩, readCapacity, accepted⟩ := ok_of_bind accepted
  obtain ⟨idleTimeout, readIdle, accepted⟩ := ok_of_bind accepted
  obtain ⟨chains, readChains, accepted⟩ := ok_of_bind accepted
  obtain ⟨loops, -, accepted⟩ := ok_of_bind accepted
  obtain ⟨format, -, accepted⟩ := ok_of_bind accepted
  cases accepted
  have known : backing? environment processors = some threads := by
    rw [backing?, readThreads]
    rfl
  have positive := ((judged_readThreads environment processors present).fits readThreads).2
  have queue := (judged_readQueueCapacity environment processors positive).fits readQueue
  have reserve := (judged_readCapacity environment processors fun other =>
    known ▸ threadsFor_iff present other).fits readCapacity
  constructor
  case threads => exact positive
  case queueCapacity => exact queue.1
  case queueInWord => exact queue.2
  case chains => exact (judged_readChains environment processors).fits readChains
  case idleTimeout =>
    rintro millis timed
    have some := (judged_readIdleTimeout environment processors).fits readIdle
    exact Nat.pos_of_ne_zero fun zero => some (timed.trans (congrArg _ zero))
  case capacity => exact (Nat.eq_zero_or_pos capacity).imp id (reserve threads rfl)

end Sound

/-- Settings that count the empty text refuse it. -/
theorem refused_of_empty {environment : Environment} {processors : Nat} {setting : Setting}
    (listed : setting ∈ [Setting.backingThreads, .queueCapacity, .format])
    (empty : environment.text? setting.name = some "") :
    Refused environment processors setting := by
  have uncounted : ¬ ∃ count, Counts "" count := by
    rintro ⟨count, counts⟩
    have numeral := counts.numeral
    cases numeral with
    | bare digit => exact digit.nonempty rfl
  have foreign : lowercaseString "" ∉ ["text", "json"] := by decide +kernel
  simp only [List.mem_cons, List.not_mem_nil, or_false] at listed
  rcases listed with rfl | rfl | rfl
  · exact .inl ⟨"", (given?_eq_text? environment rfl).trans empty, uncounted⟩
  · exact .inl ⟨"", (given?_eq_text? environment rfl).trans empty, uncounted⟩
  · exact .inr ⟨"", (given?_eq_text? environment rfl).trans empty, foreign⟩

/-- Settings that do not are none of those that are looked at as they are. -/
theorem name_notMem_whole {setting : Setting}
    (listed : setting ∈ [Setting.idleTimeout, .chains, .loops]) :
    setting.name ∉ wholeVariables := by
  simp only [List.mem_cons, List.not_mem_nil, or_false] at listed
  rcases listed with rfl | rfl | rfl <;> decide +kernel

/-- The settings are read by their rules from every environment, on every machine that has a
processor. -/
theorem read_byRules (environment : Environment) (processors : Nat) (present : 0 < processors) :
    ReadByRules environment processors := by
  have first := read_eq_error_iff_first present environment
  constructor
  case accepted =>
    rw [read_eq_ok_iff]
    exact forall_congr' (fault?_eq_none_iff present)
  case blamed =>
    intro setting
    constructor
    · rintro ⟨fault, failed, blames⟩
      obtain ⟨found, -, explains, accepted⟩ := (first fault).mp failed
      obtain rfl := name_injective (explains.blames.2.symm.trans blames)
      exact ⟨explains.blames.1, accepted⟩
    · rintro ⟨refused, accepted⟩
      rcases fault?_cases present setting with ⟨-, spared⟩ | ⟨fault, found, explains⟩
      · exact absurd refused spared
      · exact ⟨fault, (first fault).mpr ⟨setting, found, explains, accepted⟩, explains.blames.2⟩
  case explained =>
    intro fault failed
    obtain ⟨setting, -, explains, -⟩ := (first fault).mp failed
    exact ⟨setting, explains⟩
  case later =>
    exact fun setting fault failed blames other same => read_error_congr present failed blames same
  case emptyUnset =>
    intro setting listed empty
    refine read_without ?_ fun whole => absurd whole (name_notMem_whole listed)
    rw [Environment.filled?, empty]
    rfl
  case emptyRefused => exact fun setting listed empty => refused_of_empty listed empty
  case undecodable =>
    intro name value bound undecodable
    have unset : environment.text? name = none := by
      simp [Environment.text?, bound, undecodable]
    refine read_without ?_ fun _ => unset
    rw [Environment.filled?, unset]
    rfl
  case sound => exact fun settings accepted => sound_of_read present accepted

/-- All backing threads are wished for in reserve, and settings further behind are refused as
well. -/
def crowded : Environment :=
  ⟨[("LOG_FORMAT", "xml".toUTF8), ("STRESS_CHAINS", "0".toUTF8), ("STRESS_LOOPS", "".toUTF8),
    ("RESERVED_THREADS", " 4 ".toUTF8), ("BACKING_THREADS", "+4".toUTF8)]⟩

/-- The reserved threads take the blame, though they can be read. -/
theorem crowded_byRules : 0 < 8 ∧
    read crowded 8 = .error (.outOfBounds "RESERVED_THREADS"
      "4 reserved threads leave none of the 4 backing threads for fallback work") ∧
    ReadByRules crowded 8 :=
  ⟨by decide, by decide +kernel, read_byRules crowded 8 (by decide)⟩

end Standby.Settings
