import Standby.Proofs.Log.Line

/-!
# Messages in log lines

A message that is recorded as a text is read back as it is. One that is recorded by what is shown
of it loses the quotation marks at both its ends, all of them, also those that belong to it. So
the two ways of recording a message agree exactly on the messages that neither begin nor end
with a quotation mark.
-/

namespace Standby.Log

/-- The event with a message behind its own fields, and further fields behind the message. -/
def Event.saying (event : Event) (message : Value) (further : List Field) : Event :=
  { event with fields := event.fields ++ ⟨messageName, message⟩ :: further }

/-- The message that a reader finds in a line. -/
def message? (line : String) : Option String := do
  let .object members ← Json.read? line | none
  let .text message ← members.get? "msg" | none
  return message

/-- What a reader finds of a message, by the way in which it was recorded. -/
structure Event.Tells (event : Event) (service timestamp message : String)
    (further : List Field) : Prop where
  /-- A message recorded as a text is read back as it is. -/
  text : message? ((event.saying (.text message) further).written service timestamp) = some message
  /-- Of a message that is shown its text is read back without the quotation marks at both ends. -/
  shown : ∃ left, Unquotes message left ∧
    message? ((event.saying (.shown message) further).written service timestamp) = some left
  /-- So it is the message exactly if there are none. -/
  whole_iff : message? ((event.saying (.shown message) further).written service timestamp) =
    some message ↔ Plain message
  /-- Only then are the two lines the same. -/
  same_iff : (event.saying (.shown message) further).written service timestamp =
    (event.saying (.text message) further).written service timestamp ↔ Plain message

section Saying

variable (event : Event) (service timestamp : String) {further : List Field}
  (quiet : ∀ field ∈ further, field.message? = none)
include quiet

/-- What is said last is the message. -/
theorem lastMessage?_saying {value : Value} {content : String}
    (message : Field.message? ⟨messageName, value⟩ = some content) :
    lastMessage? (event.saying value further).fields = some content := by
  have silent : further.reverse.findSome? Field.message? = none :=
    List.findSome?_eq_none_iff.mpr fun field member => quiet field (List.mem_reverse.mp member)
  simp [lastMessage?, Event.saying, List.findSome?_append, silent, message]

/-- The message is found in the line as it was recorded last. -/
theorem message?_saying {value : Value} {content : String}
    (message : Field.message? ⟨messageName, value⟩ = some content) :
    message? ((event.saying value further).written service timestamp) = some content := by
  rw [message?, Event.read_written, Event.toJson, Entry.message_of,
    lastMessage?_saying event quiet message]
  rfl

omit quiet in
/-- Two ways of recording one message are not told apart. -/
theorem written_saying_congr {value other : Value} {content : String}
    (message : Field.message? ⟨messageName, value⟩ = some content)
    (same : Field.message? ⟨messageName, other⟩ = some content) :
    (event.saying value further).written service timestamp =
      (event.saying other further).written service timestamp := by
  have entries : Entry.of (event.saying value further).fields =
      Entry.of (event.saying other further).fields := by
    simp only [Entry.of, Event.saying, List.foldl_append, List.foldl_cons, Entry.record_eq,
      message, same]
  simp only [Event.written, Event.jsonLine, Event.toJson, entries]
  rfl

/-- A message in the line of an event is told as it was recorded, as a text or by what is shown. -/
theorem message_recorded (message : String) :
    event.Tells service timestamp message further := by
  have told : Field.message? ⟨messageName, .text message⟩ = some message := rfl
  have displayed : Field.message? ⟨messageName, .shown message⟩ = some (bare message) := rfl
  have asText := message?_saying event service timestamp quiet told
  have asShown := message?_saying event service timestamp quiet displayed
  refine ⟨asText, ⟨_, bare_unquotes message, asShown⟩, ?_, ?_⟩
  · rw [asShown, Option.some_inj, bare_eq_self_iff]
  · rw [← bare_eq_self_iff]
    constructor
    · intro same
      rw [same, asText] at asShown
      exact Option.some_inj.mp asShown.symm
    · intro whole
      exact written_saying_congr event service timestamp displayed
        (told.trans (congrArg some whole.symm))

end Saying

/-- An informational event without any fields. -/
def silentEvent : Event := ⟨.info, "svc", [], []⟩

/-- A message in quotation marks, with a further field behind it. -/
theorem quoted_recorded : (∀ field ∈ [shown "note" "a"], field.message? = none) ∧
    silentEvent.Tells "svc" "now" "\"quoted\"" [shown "note" "a"] :=
  ⟨by decide, message_recorded silentEvent "svc" "now" (by decide) "\"quoted\""⟩

/-- A message in quotation marks that is shown is not read back, and its line is another one than
that of the same message as a text. -/
theorem quoted_stripped :
    message? ((silentEvent.saying (.shown "\"quoted\"") []).written "svc" "now") ≠
        some "\"quoted\"" ∧
      (silentEvent.saying (.shown "\"quoted\"") []).written "svc" "now" ≠
        (silentEvent.saying (.text "\"quoted\"") []).written "svc" "now" := by
  decide +kernel

end Standby.Log
