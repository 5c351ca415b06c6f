import Mathlib.Data.List.Basic
import Standby.Proofs.Duration
import Standby.Settings

/-!
# Rules of the settings

Seven settings can be refused, each by its own rule. Either the text of its variable cannot be
read, or what it says is out of bounds. The rules are stated here by what the texts stand for.
Only the bound of the reserved threads looks at another setting, the backing threads.
-/

namespace Standby.Settings

open Text

/-- A text counts something. -/
structure Counts (text : String) (count : Nat) : Prop where
  numeral : Numeral text.toList count
  inWord : count ≤ largestWord

/-- A text, trimmed and in lowercase, stands for a wish. -/
inductive ReservedThreads.Spelled : List Char → ReservedThreads → Prop where
  | empty : Spelled [] .automatic
  | auto : Spelled ['a', 'u', 't', 'o'] .automatic
  | negative {text : List Char} {count : Int} (numeral : SignedNumeral text count)
    (least : -(signedBound : Int) ≤ count) (below : count < 0) : Spelled text .automatic
  | fixed {text : List Char} {count : Nat} (numeral : SignedNumeral text count)
    (most : count < signedBound) : Spelled text (.fixed count)

/-- A setting that can be refused. -/
inductive Setting where
  | backingThreads
  | queueCapacity
  | reservedThreads
  | idleTimeout
  | chains
  | loops
  | format
deriving DecidableEq, Repr

namespace Setting

/-- The variable of a setting. -/
def name : Setting → String
  | .backingThreads => Backing.threadsVariable
  | .queueCapacity => Backing.queueVariable
  | .reservedThreads => Reserved.threadsVariable
  | .idleTimeout => Reserved.idleVariable
  | .chains => Load.chainsVariable
  | .loops => Load.loopsVariable
  | .format => Logging.formatVariable

/-- The settings in the order in which they are read. -/
def order : List Setting :=
  [.backingThreads, .queueCapacity, .reservedThreads, .idleTimeout, .chains, .loops, .format]

/-- The settings that are read before a setting. -/
def earlier (setting : Setting) : List Setting := order.takeWhile (· ≠ setting)

/-- The settings for which the empty text counts as an unset variable. -/
def skipsEmpty : Setting → Bool
  | .idleTimeout | .chains | .loops => true
  | .backingThreads | .queueCapacity | .reservedThreads | .format => false

/-- The text that a setting is given in an environment. -/
def given? (environment : Environment) (setting : Setting) : Option String :=
  (environment.text? setting.name).filter fun text => !(setting.skipsEmpty && text.isEmpty)

/-- A text can be read as a setting. -/
def Reads (text : String) : Setting → Prop
  | .backingThreads | .queueCapacity | .chains | .loops => ∃ count, Counts text count
  | .reservedThreads => ∃ wish, ReservedThreads.Spelled (lowercase (trim text.toList)) wish
  | .idleTimeout => ∃ length, Duration.Spelled (lowercase (trim text.toList)) length
  | .format => True

end Setting

section Rules

variable (environment : Environment) (processors : Nat)

/-- What a setting counts, with a default for one that is not given. -/
def CountFor (setting : Setting) (default count : Nat) : Prop :=
  match setting.given? environment with
  | none => count = default
  | some text => Counts text count

/-- What the backing threads come to. Zero stands for the number of processors. -/
def ThreadsFor (threads : Nat) : Prop :=
  ∃ count, CountFor environment .backingThreads 0 count ∧
    threads = if count = 0 then processors else count

/-- What is wished for reserved threads. -/
def WishFor (wish : ReservedThreads) : Prop :=
  match Setting.reservedThreads.given? environment with
  | none => wish = .automatic
  | some text => ReservedThreads.Spelled (lowercase (trim text.toList)) wish

/-- The text of a setting cannot be read. -/
def Unreadable (setting : Setting) : Prop :=
  ∃ text, setting.given? environment = some text ∧ ¬ setting.Reads text

/-- What a setting says is out of bounds: reserved threads that leave no backing thread, no
chain at all, or a form that is none. -/
def OutOfBounds : Setting → Prop
  | .reservedThreads => ∃ threads wish, ThreadsFor environment processors threads ∧
      WishFor environment wish ∧ 0 < wish.resolve processors (some threads) ∧
        threads ≤ wish.resolve processors (some threads)
  | .chains => CountFor environment .chains 8 0
  | .format => ∃ text, Setting.format.given? environment = some text ∧
      lowercaseString text ∉ ["text", "json"]
  | .backingThreads | .queueCapacity | .idleTimeout | .loops => False

/-- A setting is refused by its own rule. -/
def Refused (setting : Setting) : Prop :=
  Unreadable environment setting ∨ OutOfBounds environment processors setting

/-- A fault tells why a setting is refused. That of an unreadable one carries its text
unchanged. -/
inductive Explains (setting : Setting) : Fault → Prop where
  | unreadable {value detail : String} (set : environment.text? setting.name = some value)
    (refused : Unreadable environment setting) :
    Explains setting (.unreadable setting.name value detail)
  | outOfBounds {detail : String} (refused : OutOfBounds environment processors setting) :
    Explains setting (.outOfBounds setting.name detail)

end Rules

end Standby.Settings
