import Standby.Proofs.Settings.Rule

/-!
# Checks of the settings

Each setting is read by a check of its own. The check accepts the setting or explains why it is
refused, just as its rule says, and gives what the rule says that the setting comes to.
-/

namespace Standby.Settings

open Text

section Given

variable (environment : Environment) {setting : Setting}

/-- A setting that takes the empty text is given every text of its variable. -/
theorem given?_eq_text? (whole : setting.skipsEmpty = false) :
    setting.given? environment = environment.text? setting.name := by
  cases given : environment.text? setting.name <;>
    simp [Setting.given?, whole, given, Option.filter]

/-- A setting that does not is given what is left without the empty text. -/
theorem given?_eq_filled? (skips : setting.skipsEmpty = true) :
    setting.given? environment = environment.filled? setting.name := by
  simp [Setting.given?, Environment.filled?, skips]

/-- What is given is the text of the variable. -/
theorem text?_of_given {environment : Environment} {text : String}
    (given : setting.given? environment = some text) :
    environment.text? setting.name = some text :=
  (Option.filter_eq_some_iff.mp given).1

end Given

section Counts

/-- Exactly what counts something is read as a number. -/
theorem number_eq_ok_iff (name text : String) (count : Nat) :
    number name text = .ok count ↔ Counts text count := by
  have read : readUnsigned largestWord text.toList = .ok count ↔ Counts text count :=
    (readUnsigned_eq_ok_iff largestWord text.toList count).trans
      ⟨fun ⟨numeral, small⟩ => ⟨numeral, small⟩, fun ⟨numeral, small⟩ => ⟨numeral, small⟩⟩
  rw [← read, number]
  cases readUnsigned largestWord text.toList <;> simp

/-- No text counts two things. -/
theorem Counts.unique {text : String} {one other : Nat} (first : Counts text one)
    (second : Counts text other) : one = other := by
  have read := (number_eq_ok_iff "" text one).mpr first
  rw [(number_eq_ok_iff "" text other).mpr second] at read
  exact (Except.ok.inj read).symm

variable {environment : Environment} {setting : Setting} {default : Nat}

/-- A setting stands for one number. -/
theorem CountFor.unique {one other : Nat} (first : CountFor environment setting default one)
    (second : CountFor environment setting default other) : one = other := by
  cases given : setting.given? environment with
  | none =>
    rw [CountFor, given] at first second
    exact first.trans second.symm
  | some text =>
    rw [CountFor, given] at first second
    exact first.unique second

/-- What a setting counts is a word as long as its default is one. -/
theorem CountFor.inWord {count : Nat} (known : CountFor environment setting default count)
    (small : default ≤ largestWord) : count ≤ largestWord := by
  unfold CountFor at known
  split at known
  · rw [known]
    exact small
  · exact known.inWord

/-- The outcome of reading a number. -/
inductive Counted (environment : Environment) (setting : Setting) (default : Nat) :
    Except Fault Nat → Prop where
  | count {count : Nat} (known : CountFor environment setting default count) :
    Counted environment setting default (.ok count)
  | unreadable {value detail : String} (given : setting.given? environment = some value)
    (none : ¬ ∃ count, Counts value count) :
    Counted environment setting default (.error (.unreadable setting.name value detail))

/-- A text is read for what it counts. -/
theorem counted_number {value : String} (given : setting.given? environment = some value) :
    Counted environment setting default (number setting.name value) := by
  have read := number_eq_ok_iff setting.name value
  cases found : number setting.name value with
  | ok count =>
    refine .count ?_
    rw [CountFor, given]
    exact (read count).mp found
  | error fault =>
    have unreadable : ¬ ∃ count, Counts value count := by
      rintro ⟨count, counts⟩
      rw [(read count).mpr counts] at found
      cases found
    unfold number at found
    split at found <;> cases found
    exact .unreadable given unreadable

/-- A number whose default is written as a text. -/
theorem counted_textOr (environment : Environment) (setting : Setting)
    (whole : setting.skipsEmpty = false) :
    Counted environment setting 0
      (number setting.name (environment.textOr setting.name "0")) := by
  have same := given?_eq_text? environment whole
  cases given : environment.text? setting.name with
  | none =>
    have zero : number setting.name "0" = .ok 0 := by
      rw [number_eq_ok_iff]
      exact ⟨.bare ⟨by decide, by decide, by decide⟩, by decide⟩
    rw [Environment.textOr, given, Option.getD_none, zero]
    refine .count ?_
    rw [CountFor, same, given]
  | some value =>
    rw [Environment.textOr, given, Option.getD_some]
    exact counted_number (same.trans given)

/-- A number that is not read when it is not given. -/
theorem counted_numberOr (environment : Environment) (setting : Setting) (default : Nat)
    (skips : setting.skipsEmpty = true) :
    Counted environment setting default (environment.numberOr setting.name default) := by
  have same := given?_eq_filled? environment skips
  unfold Environment.numberOr
  cases given : environment.filled? setting.name with
  | none =>
    refine .count ?_
    rw [CountFor, same, given]
  | some value => exact counted_number (same.trans given)

end Counts

section Wishes

/-- A numeral is no word for an automatic count. -/
theorem not_word_of_numeral {text : List Char} {count : Int} (numeral : SignedNumeral text count) :
    text ≠ [] ∧ text ≠ ['a', 'u', 't', 'o'] := by
  have digits {text : List Char} {value : Nat} (digits : Digits text value) :
      text ≠ [] ∧ text ≠ ['a', 'u', 't', 'o'] := by
    refine ⟨digits.nonempty, ?_⟩
    rintro rfl
    cases digits.all
  cases numeral with
  | positive numeral =>
    cases numeral with
    | bare digit => exact digits digit
    | plus digit => simp
  | minus digit => simp

/-- What is no word is read as a number, of which a negative one asks for an automatic count. -/
def ReservedThreads.ofNumber (number : Except NumeralFault Int) :
    Except NumeralFault ReservedThreads :=
  match number with
  | .ok count => .ok (if count < 0 then .automatic else .fixed count.toNat)
  | .error fault => .error fault

/-- A wish is read in lower case and trimmed: it leaves the number open or asks for one. -/
theorem ReservedThreads.parse_eq (value : String) :
    ReservedThreads.parse value =
      if lowercase (trim value.toList) = [] ∨ lowercase (trim value.toList) = ['a', 'u', 't', 'o']
      then .ok .automatic
      else ReservedThreads.ofNumber (readSigned signedBound (lowercase (trim value.toList))) := by
  unfold ReservedThreads.parse
  simp only [Bool.or_eq_true, List.isEmpty_iff, beq_iff_eq]
  rfl

/-- Exactly the spelled wishes are read. -/
theorem ReservedThreads.parse_eq_ok_iff (value : String) (wish : ReservedThreads) :
    ReservedThreads.parse value = .ok wish ↔
      ReservedThreads.Spelled (lowercase (trim value.toList)) wish := by
  have positive : 0 < signedBound := by decide
  have numbers := readSigned_eq_ok_iff positive
  rw [ReservedThreads.parse_eq]
  generalize lowercase (trim value.toList) = text
  constructor
  · intro read
    split at read
    · rename_i word
      cases read
      rcases word with rfl | rfl
      · exact .empty
      · exact .auto
    · cases number : readSigned signedBound text with
      | error fault =>
        rw [number] at read
        cases read
      | ok count =>
        obtain ⟨numeral, least, most⟩ := (numbers text count).mp number
        rw [number] at read
        cases read
        split
        · rename_i below
          exact .negative numeral least below
        · rename_i above
          have same : (count.toNat : Int) = count := Int.toNat_of_nonneg (Int.not_lt.mp above)
          refine .fixed (by rwa [same]) (by omega)
  · intro spelled
    cases spelled with
    | empty => rfl
    | auto => rfl
    | @negative _ count numeral least below =>
      have read := (numbers text count).mpr ⟨numeral, least, by omega⟩
      rw [if_neg (not_or.mpr (not_word_of_numeral numeral)), read, ReservedThreads.ofNumber,
        if_pos below]
    | @fixed _ count numeral most =>
      have read := (numbers text count).mpr ⟨numeral, by omega, by omega⟩
      rw [if_neg (not_or.mpr (not_word_of_numeral numeral)), read, ReservedThreads.ofNumber,
        if_neg (by omega), Int.toNat_natCast]

/-- What is wished for is read, and a text that is no wish is unreadable. -/
theorem readWish_cases (environment : Environment) :
    (∃ wish, Reserved.readWish environment = .ok wish ∧ WishFor environment wish) ∨
      ∃ value detail, Reserved.readWish environment =
        .error (.unreadable Reserved.threadsVariable value detail) ∧
          Setting.reservedThreads.given? environment = some value ∧
          ¬ Setting.reservedThreads.Reads value := by
  have same : Setting.reservedThreads.given? environment =
      environment.text? Reserved.threadsVariable := given?_eq_text? environment rfl
  unfold Reserved.readWish
  cases given : environment.text? Reserved.threadsVariable with
  | none =>
    have default : ReservedThreads.parse "auto" = .ok .automatic := by decide +kernel
    refine .inl ⟨.automatic, ?_, ?_⟩
    · simp only [Environment.textOr, given, Option.getD_none, default]
    · rw [WishFor, same, given]
  | some value =>
    simp only [Environment.textOr, given, Option.getD_some, same]
    cases read : ReservedThreads.parse value with
    | ok wish =>
      refine .inl ⟨wish, rfl, ?_⟩
      rw [WishFor, same, given]
      exact (ReservedThreads.parse_eq_ok_iff value wish).mp read
    | error fault =>
      refine .inr ⟨value, _, rfl, rfl, ?_⟩
      rintro ⟨wish, spelled⟩
      rw [(ReservedThreads.parse_eq_ok_iff value wish).mpr spelled] at read
      cases read

/-- The variable stands for one wish. -/
theorem WishFor.unique {environment : Environment} {one other : ReservedThreads}
    (first : WishFor environment one) (second : WishFor environment other) : one = other := by
  cases given : Setting.reservedThreads.given? environment with
  | none =>
    rw [WishFor, given] at first second
    exact first.trans second.symm
  | some text =>
    rw [WishFor, given] at first second
    have read := (ReservedThreads.parse_eq_ok_iff text one).mpr first
    rw [(ReservedThreads.parse_eq_ok_iff text other).mpr second] at read
    exact (Except.ok.inj read).symm

/-- The backing pool has one number of threads. -/
theorem ThreadsFor.unique {environment : Environment} {processors one other : Nat}
    (first : ThreadsFor environment processors one)
    (second : ThreadsFor environment processors other) : one = other := by
  obtain ⟨count, known, rfl⟩ := first
  obtain ⟨same, also, rfl⟩ := second
  rw [known.unique also]

end Wishes

section Judged

variable {environment : Environment} {processors : Nat} {setting : Setting}

/-- The outcome of a check: a setting that is not refused comes to something that fits, and for
one that is refused there is a fault that explains it. -/
def Judged {α : Type} (environment : Environment) (processors : Nat) (setting : Setting)
    (fits : α → Prop) : Except Fault α → Prop
  | .ok value => ¬ Refused environment processors setting ∧ fits value
  | .error fault => Explains environment processors setting fault

/-- What counts something can be read. -/
theorem CountFor.readable {default count : Nat}
    (known : CountFor environment setting default count)
    (reads : ∀ text, setting.Reads text ↔ ∃ count, Counts text count) :
    ¬ Unreadable environment setting := by
  rintro ⟨text, given, unread⟩
  rw [CountFor, given] at known
  exact unread ((reads text).mpr ⟨count, known⟩)

/-- A number is judged by what follows from it. -/
theorem Counted.judged {α : Type} {default : Nat} {result : Except Fault Nat}
    {next : Nat → Except Fault α} {fits : α → Prop}
    (counted : Counted environment setting default result)
    (reads : ∀ text, setting.Reads text ↔ ∃ count, Counts text count)
    (judged : ∀ count, CountFor environment setting default count →
      ¬ Unreadable environment setting →
      Judged environment processors setting fits (next count)) :
    Judged environment processors setting fits (result >>= next) := by
  cases counted with
  | count known => exact judged _ known (known.readable reads)
  | unreadable given none =>
    exact .unreadable (text?_of_given given) ⟨_, given, mt (reads _).mp none⟩

end Judged

section Checks

variable (environment : Environment) (processors : Nat)

/-- The threads of the backing pool are read or blamed. -/
theorem judged_readThreads (present : 0 < processors) :
    Judged environment processors .backingThreads
      (fun threads => ThreadsFor environment processors threads ∧ 0 < threads)
      (Backing.readThreads environment processors) := by
  refine (counted_textOr environment .backingThreads rfl).judged (fun _ => Iff.rfl) ?_
  intro count known readable
  have positive : (if count = 0 then processors else count) ≠ 0 := by
    split <;> omega
  rw [Backing.nonzero, if_neg positive]
  exact ⟨fun refused => refused.elim readable id, ⟨count, known, rfl⟩, Nat.pos_of_ne_zero positive⟩

/-- The capacity of the queue is read or blamed. -/
theorem judged_readQueueCapacity {threads : Nat} (present : 0 < threads) :
    Judged environment processors .queueCapacity
      (fun capacity => 0 < capacity ∧ (threads * 100 ≤ largestWord → capacity ≤ largestWord))
      (Backing.readQueueCapacity environment threads) := by
  refine (counted_textOr environment .queueCapacity rfl).judged (fun _ => Iff.rfl) ?_
  intro count known readable
  have positive : (if count = 0 then threads * Backing.jobsPerThread else count) ≠ 0 := by
    rw [Backing.jobsPerThread]
    split <;> omega
  rw [Backing.nonzero, if_neg positive]
  refine ⟨fun refused => refused.elim readable id, Nat.pos_of_ne_zero positive, fun small => ?_⟩
  split
  · exact small
  · exact known.inWord (Nat.zero_le _)

/-- The number of loops is read or blamed. -/
theorem judged_loops :
    Judged environment processors .loops (fun _ => True)
      (environment.numberOr Load.loopsVariable 100000) := by
  have counted : Counted environment .loops 100000
      (environment.numberOr Load.loopsVariable 100000) :=
    counted_numberOr environment .loops 100000 rfl
  rw [← bind_pure (environment.numberOr Load.loopsVariable 100000)]
  refine counted.judged (fun _ => Iff.rfl) fun count known readable => ?_
  exact ⟨fun refused => refused.elim readable id, trivial⟩

/-- Read the chains of the load run. -/
def Load.readChains (environment : Environment) : Except Fault Nat := do
  let chains ← environment.numberOr chainsVariable 8
  if chains = 0 then .error (.outOfBounds chainsVariable "at least one chain is required")
  else .ok chains

/-- The number of chains is read or blamed. -/
theorem judged_readChains :
    Judged environment processors .chains (fun chains => 0 < chains)
      (Load.readChains environment) := by
  refine (counted_numberOr environment .chains 8 rfl).judged (fun _ => Iff.rfl) ?_
  intro count known readable
  split
  · rename_i zero
    rw [zero] at known
    exact .outOfBounds known
  · rename_i positive
    refine ⟨fun refused => refused.elim readable fun none => ?_, Nat.pos_of_ne_zero positive⟩
    exact positive (known.unique none)

/-- The format of the log is read or blamed. -/
theorem judged_readFormat :
    Judged environment processors .format (fun _ => True) (Logging.readFormat environment) := by
  have same : Setting.format.given? environment = environment.text? Logging.formatVariable :=
    given?_eq_text? environment rfl
  have readable : ¬ Unreadable environment .format := fun ⟨_, _, unread⟩ => unread trivial
  have named (text : String) (given : environment.text? Logging.formatVariable = some text) :
      environment.textOr Logging.formatVariable "text" = text := by
    rw [Environment.textOr, given, Option.getD_some]
  -- Whichever of the two forms it is, a given text is among them.
  have accepted (form : String) (listed : form ∈ ["text", "json"])
      (read : lowercaseString (environment.textOr Logging.formatVariable "text") = form) :
      ¬ Refused environment processors .format := by
    rintro (unread | ⟨text, given, foreign⟩)
    · exact readable unread
    · rw [named text (same.symm.trans given)] at read
      exact foreign (read ▸ listed)
  unfold Logging.readFormat
  split
  · rename_i read
    exact ⟨accepted "text" (by simp) read, trivial⟩
  · rename_i read
    exact ⟨accepted "json" (by simp) read, trivial⟩
  · rename_i other noText noJson
    cases given : environment.text? Logging.formatVariable with
    | none =>
      have default : lowercaseString "text" = "text" := by decide +kernel
      rw [Environment.textOr, given, Option.getD_none] at noText
      exact absurd default noText
    | some text =>
      rw [named text given] at noText noJson ⊢
      refine .outOfBounds ⟨text, same.trans given, ?_⟩
      simpa using ⟨noText, noJson⟩

/-- Read the wish for reserved threads and what it comes to over the backing threads, if these
are known. -/
def Reserved.readCapacity (environment : Environment) (processors : Nat) (backing? : Option Nat) :
    Except Fault (ReservedThreads × Nat) := do
  let wish ← readWish environment
  let capacity ← match backing? with
    | some backing => withinBacking (wish.resolve processors (some backing)) backing
    | none => .ok 0
  return (wish, capacity)

/-- Reserved threads are checked against the backing threads, if these are known. -/
theorem judged_readCapacity {backing? : Option Nat}
    (known : ∀ threads, ThreadsFor environment processors threads ↔ backing? = some threads) :
    Judged environment processors .reservedThreads
      (fun reserve : ReservedThreads × Nat =>
        ∀ threads, backing? = some threads → 0 < reserve.2 → reserve.2 < threads)
      (Reserved.readCapacity environment processors backing?) := by
  unfold Reserved.readCapacity
  rcases readWish_cases environment with
    ⟨wish, read, wished⟩ | ⟨value, detail, read, given, unread⟩
  · have readable : ¬ Unreadable environment .reservedThreads := by
      rintro ⟨text, given, unread⟩
      rw [WishFor, given] at wished
      exact unread ⟨wish, wished⟩
    rw [read]
    cases backing? with
    | none =>
      refine ⟨fun refused => refused.elim readable ?_, fun _ none => by cases none⟩
      rintro ⟨threads, _, resolved, -⟩
      cases (known threads).mp resolved
    | some backing =>
      change Judged environment processors .reservedThreads _
        (Reserved.withinBacking (wish.resolve processors (some backing)) backing >>=
          fun capacity => .ok (wish, capacity))
      unfold Reserved.withinBacking
      split
      · rename_i full
        exact .outOfBounds ⟨backing, wish, (known backing).mpr rfl, wished, full⟩
      · rename_i room
        refine ⟨fun refused => refused.elim readable ?_, ?_⟩
        · rintro ⟨threads, other, resolved, also, full⟩
          obtain rfl := Option.some.inj ((known threads).mp resolved)
          rw [also.unique wished] at full
          exact room full
        · rintro threads same positive
          obtain rfl := Option.some.inj same
          exact Nat.lt_of_not_le fun full => room ⟨positive, full⟩
  · rw [read]
    exact .unreadable (text?_of_given given) ⟨value, given, unread⟩

/-- The idle timeout is read or blamed. -/
theorem judged_readIdleTimeout :
    Judged environment processors .idleTimeout (fun timeout => timeout ≠ some 0)
      (Reserved.readIdleTimeout environment) := by
  have same : Setting.idleTimeout.given? environment =
      environment.filled? Reserved.idleVariable := given?_eq_filled? environment rfl
  unfold Reserved.readIdleTimeout
  cases given : environment.filled? Reserved.idleVariable with
  | none =>
    have default : Duration.parse "60s" = .ok (some 60000) := by decide +kernel
    simp only [Option.getD_none, default]
    refine ⟨?_, by decide⟩
    rintro (⟨text, present, -⟩ | impossible)
    · rw [same, given] at present
      cases present
    · exact impossible
  | some value =>
    have reads (length : Option Duration.Millis) : Duration.parse value = .ok length ↔
        Duration.Spelled (lowercase (trim value.toList)) length :=
      Duration.parseNormal_eq_ok_iff _ length
    simp only [Option.getD_some]
    cases read : Duration.parse value with
    | ok length =>
      refine ⟨?_, Duration.ne_zero_of_parse read⟩
      rintro (⟨text, present, unread⟩ | impossible)
      · obtain rfl := Option.some.inj ((same.trans given).symm.trans present)
        exact unread ⟨length, (reads length).mp read⟩
      · exact impossible
    | error fault =>
      refine .unreadable (text?_of_given (same.trans given)) ⟨value, same.trans given, ?_⟩
      rintro ⟨length, spelled⟩
      rw [(reads length).mpr spelled] at read
      cases read

end Checks

end Standby.Settings
