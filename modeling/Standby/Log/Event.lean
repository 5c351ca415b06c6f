/-!
# Log events

What a log line reports: a level, the part of the program that it comes from,
and named values in the order in which they were recorded. A name may occur more
than once. A field that was left without a value is written nowhere, but the event
has it all the same.
-/

namespace Standby.Log

/-- How grave an event is. -/
inductive Level where
  | trace
  | debug
  | info
  | warn
  | error
deriving DecidableEq, Repr

/-- The rank of a level; graver levels have lower ranks, and zero is left for a
filter that lets nothing pass. -/
def Level.rank : Level → Nat
  | .error => 1
  | .warn => 2
  | .info => 3
  | .debug => 4
  | .trace => 5

/-- A recorded value. A text is recorded as it is. What is shown is recorded by
the text that displays it. -/
inductive Value where
  | text (content : String)
  | shown (content : String)
  | integer (number : Int)
  | truth (value : Bool)
deriving DecidableEq, Repr

/-- A named value. -/
structure Field where
  name : String
  value : Value
deriving DecidableEq, Repr

/-- An event of the program. -/
structure Event where
  level : Level
  /-- The part of the program that reports the event. -/
  origin : String
  fields : List Field
  /-- The names of the fields that were left without a value. -/
  unset : List String := []
deriving DecidableEq, Repr

/-- The name of the field that holds the message. -/
def messageName : String := "message"

/-- A field shown by its text. -/
def shown (name text : String) : Field := ⟨name, .shown text⟩

/-- A field that holds a count. -/
def count (name : String) (number : Nat) : Field := ⟨name, .integer number⟩

/-- An event with a message and further fields. -/
def Event.of (level : Level) (origin message : String) (fields : List Field) : Event :=
  { level, origin, fields := shown messageName message :: fields }

/-- The event with a further field that was left without a value. -/
def Event.leaving (event : Event) (name : String) : Event :=
  { event with unset := name :: event.unset }

/-- The event has a field of the given name, with or without a value. -/
def Event.has (event : Event) (name : List Char) : Bool :=
  event.fields.any (·.name.toList == name) || event.unset.any (·.toList == name)

end Standby.Log
