import Standby.Json
import Standby.Log.Event
import Standby.Text.Quoted
import Standby.Text.Blank

/-!
# Log lines

The two forms of a log line. The JSON form separates the message, the context
that correlates lines of one dispatcher or worker, and the data. Every field
lands in exactly one of the three, and of several fields with one name the last
one counts. The plain form keeps all fields in the order of recording.
-/

namespace Standby.Log

open Text (quote trimBy)

/-- The message and the other fields of an event, as JSON values sorted by
name. -/
structure Entry where
  message : Option String
  data : SortedMembers

/-- An entry before anything is recorded. -/
def Entry.empty : Entry := ⟨none, []⟩

/-- Quotation marks around a displayed message are dropped. -/
def bare (text : String) : String := String.ofList (trimBy (· == '"') text.toList)

/-- The JSON value of a recorded value. -/
def Value.toJson : Value → Json
  | .text content => .text content
  | .shown content => .text content
  | .integer number => .integer number
  | .truth value => .truth value

/-- Record one field. A message is a text or something shown; any other value
named like a message is data. -/
def Entry.record (entry : Entry) (field : Field) : Entry :=
  match field.name == messageName, field.value with
  | true, .text content => { entry with message := some content }
  | true, .shown content => { entry with message := some (bare content) }
  | _, value => { entry with data := entry.data.put field.name value.toJson }

/-- Record all fields in order. -/
def Entry.of (fields : List Field) : Entry := fields.foldl Entry.record .empty

/-- The names of the fields that make up the context of a line. -/
def contextNames : List String := ["dispatcher", "worker"]

/-- The context fields of an entry. -/
def Entry.context (entry : Entry) : SortedMembers :=
  entry.data.filter fun member => contextNames.contains member.1

/-- The fields of an entry that are not context. -/
def Entry.rest (entry : Entry) : SortedMembers :=
  entry.data.filter fun member => !contextNames.contains member.1

/-- The name of a level in a JSON line. Tracing is folded into debugging. -/
def Level.name : Level → String
  | .trace | .debug => "debug"
  | .info => "info"
  | .warn => "warn"
  | .error => "error"

/-- The kind of line; only errors have one of their own. -/
def Level.kind : Level → String
  | .error => "error"
  | _ => "app"

/-- The object that a JSON line holds. Its members, like those of the context,
are in the order of their names; the service belongs to the context whatever the
event recorded. -/
def Event.toJson (event : Event) (service timestamp : String) : Json :=
  let entry := Entry.of event.fields
  .ofMembers
    [("ctx", .ofMembers (entry.context.put "service" (.text service))),
     ("data", .ofMembers entry.rest),
     ("level", .text event.level.name),
     ("msg", .text (entry.message.getD "")),
     ("ts", .text timestamp),
     ("type", .text event.level.kind)]

/-- The JSON line of an event, without its end of line. -/
def Event.jsonLine (event : Event) (service timestamp : String) : String :=
  (event.toJson service timestamp).render

/-- The name of a level in a plain line, five characters wide. -/
def Level.label : Level → String
  | .trace => "TRACE"
  | .debug => "DEBUG"
  | .info => " INFO"
  | .warn => " WARN"
  | .error => "ERROR"

/-- The text of a value as it is. -/
def Value.content : Value → String
  | .text content | .shown content => content
  | .integer number => toString number
  | .truth value => if value then "true" else "false"

/-- The plain form of a value: a text is quoted, and all else is shown. -/
def Value.plain (value : Value) : String :=
  match value with
  | .text content => quote content
  | _ => value.content

/-- The plain form of a field. The message stands without its name and is not
quoted. -/
def Field.plain (field : Field) : String :=
  if field.name == messageName then field.value.content
  else field.name ++ "=" ++ field.value.plain

/-- The plain line of an event, without its end of line. -/
def Event.plainLine (event : Event) (timestamp : String) : String :=
  timestamp ++ " " ++ event.level.label ++ " " ++ event.origin ++ ": "
    ++ " ".intercalate (event.fields.map Field.plain)

end Standby.Log
