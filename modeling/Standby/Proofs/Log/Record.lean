import Standby.Log.Line
import Standby.Proofs.Text.Trim

/-!
# What was recorded

What the fields of an event tell, from the order of recording alone: what its message says, which
value was recorded last under a name, and by which JSON value a reader knows it. None of this
mentions how a line is put together. The searches through the fields, which do, are shown to find
just that.
-/

namespace Standby.Log

open Text (Trimmed)

/-- The quotation mark. -/
def isQuote (character : Char) : Bool := character == '"'

/-- A text without a quotation mark at either end. -/
def Plain (text : String) : Prop :=
  text.toList.head? ≠ some '"' ∧ text.toList.getLast? ≠ some '"'

/-- What is left of a text without the quotation marks at both its ends. -/
structure Unquotes (text left : String) : Prop where
  whole : ∃ before after, text.toList = before ++ left.toList ++ after ∧
    (∀ character ∈ before, character = '"') ∧ ∀ character ∈ after, character = '"'
  none : Plain left

/-- What a message says: a text says itself, and what is shown says what is left of it without the
quotation marks at its ends. A number or a truth value is no message whatever its name. -/
inductive Field.Says : Field → String → Prop
  | text (content : String) : Says ⟨"message", .text content⟩ content
  | shown {content left : String} (unquotes : Unquotes content left) :
      Says ⟨"message", .shown content⟩ left

/-- A field is a message if it says something. -/
def Field.IsMessage (field : Field) : Prop := ∃ said, field.Says said

/-- A field is a datum of a name if it has the name and is no message. -/
def Field.IsDatum (name : String) (field : Field) : Prop := field.name = name ∧ ¬ field.IsMessage

/-- The field was recorded as the last one of its kind. -/
def LastOf (kind : Field → Prop) (fields : List Field) (field : Field) : Prop :=
  ∃ before after, fields = before ++ field :: after ∧ kind field ∧ ∀ later ∈ after, ¬ kind later

/-- The JSON value by which a reader knows a recorded value. A text and what is shown are known by
their characters, and a number and a truth value by themselves. -/
inductive Value.KnownBy : Value → Json → Prop
  | text (content : String) : KnownBy (.text content) (.text content)
  | shown (content : String) : KnownBy (.shown content) (.text content)
  | integer (number : Int) : KnownBy (.integer number) (.integer number)
  | truth (value : Bool) : KnownBy (.truth value) (.truth value)

/-- The name and the kind by which a reader knows a level. Tracing is told as debugging. -/
inductive Level.KnownBy : Level → String → String → Prop
  | trace : KnownBy .trace "debug" "app"
  | debug : KnownBy .debug "debug" "app"
  | info : KnownBy .info "info" "app"
  | warn : KnownBy .warn "warn" "app"
  | error : KnownBy .error "error" "error"

/-- What the message of some fields says. The last one counts, and without any it is empty. -/
inductive Said (fields : List Field) : String → Prop
  | last {field : Field} {said : String} (last : LastOf Field.IsMessage fields field)
      (tells : field.Says said) : Said fields said
  | nothing (silent : ∀ field ∈ fields, ¬ field.IsMessage) : Said fields ""

/-- The JSON value of what was recorded last under a name, messages apart. -/
def Recorded (fields : List Field) (name : String) (json : Json) : Prop :=
  ∃ field, LastOf (Field.IsDatum name) fields field ∧ field.value.KnownBy json

/-- The message that a field sets, if it is a message. What is shown loses the quotation marks
around it, and a number or a truth value is no message whatever its name. -/
def Field.message? (field : Field) : Option String :=
  if field.name = messageName then
    match field.value with
    | .text content => some content
    | .shown content => some (bare content)
    | .integer _ | .truth _ => none
  else none

/-- The last message among fields in the order of recording. -/
def lastMessage? (fields : List Field) : Option String := fields.reverse.findSome? Field.message?

/-- The field holds a value of the given name and is no message. -/
def Field.isDataOf (name : String) (field : Field) : Bool :=
  field.message?.isNone && field.name == name

/-- The last value of a name among fields in the order of recording, messages apart. -/
def lastData? (fields : List Field) (name : String) : Option Json :=
  (fields.reverse.find? (Field.isDataOf name)).map (·.value.toJson)

/-- Trimming quotation marks leaves a text whole exactly if none stands at its ends. -/
theorem trimmed_isQuote_iff {text : String} : Trimmed isQuote text.toList ↔ Plain text := by
  constructor
  · intro trimmed
    exact ⟨fun first => absurd (trimmed.first _ first) (by decide),
      fun last => absurd (trimmed.last _ last) (by decide)⟩
  · rintro ⟨first, last⟩
    refine ⟨fun character same => ?_, fun character same => ?_⟩
    · exact beq_eq_false_iff_ne.mpr fun quote => first (quote ▸ same)
    · exact beq_eq_false_iff_ne.mpr fun quote => last (quote ▸ same)

/-- A displayed message is trimmed of its quotation marks, character by character. -/
theorem toList_bare (text : String) : (bare text).toList = Text.trimBy isQuote text.toList :=
  String.toList_ofList

/-- A displayed message loses just the quotation marks at its ends. -/
theorem bare_unquotes (text : String) : Unquotes text (bare text) := by
  obtain ⟨before, after, leading, trailing, whole, trimmed⟩ :=
    Text.exists_trimBy isQuote text.toList
  rw [← toList_bare] at whole trimmed
  refine ⟨⟨before, after, whole, ?_, ?_⟩, trimmed_isQuote_iff.mp trimmed⟩
  · exact fun character member => beq_iff_eq.mp (leading character member)
  · exact fun character member => beq_iff_eq.mp (trailing character member)

/-- A text is left whole exactly if no quotation mark stands at its ends. -/
theorem bare_eq_self_iff {text : String} : bare text = text ↔ Plain text := by
  rw [← String.toList_inj, toList_bare, Text.trimBy_eq_self_iff, trimmed_isQuote_iff]

namespace Field

/-- A field that sets a message says it. -/
theorem tells_message? {field : Field} {content : String}
    (sets : field.message? = some content) : field.Says content := by
  obtain ⟨name, value⟩ := field
  unfold message? at sets
  split at sets
  · rename_i named
    obtain rfl : name = "message" := named
    cases value with
    | text held => exact Option.some_inj.mp sets ▸ .text held
    | shown held => exact Option.some_inj.mp sets ▸ .shown (bare_unquotes held)
    | integer number => cases sets
    | truth value => cases sets
  · cases sets

/-- A field that sets no message is none. -/
theorem message?_eq_none_iff {field : Field} : field.message? = none ↔ ¬ field.IsMessage := by
  constructor
  · rintro unset ⟨said, tells⟩
    cases tells <;> cases unset
  · intro other
    refine Option.eq_none_iff_forall_ne_some.mpr fun content sets => other ⟨content, ?_⟩
    exact tells_message? sets

/-- The search for data of a name finds just those. -/
theorem isDataOf_iff {name : String} {field : Field} :
    field.isDataOf name = true ↔ field.IsDatum name := by
  rw [isDataOf, Bool.and_eq_true, Option.isNone_iff_eq_none, message?_eq_none_iff, beq_iff_eq,
    and_comm]
  rfl

end Field

/-- What is found in reverse order is the last of its kind. -/
theorem find?_reverse_iff {test : Field → Bool} {kind : Field → Prop}
    (tests : ∀ field, test field = true ↔ kind field) {fields : List Field} {field : Field} :
    fields.reverse.find? test = some field ↔ LastOf kind fields field := by
  rw [List.find?_eq_some_iff_append]
  constructor
  · rintro ⟨found, after, before, split, others⟩
    refine ⟨before.reverse, after.reverse, ?_, (tests field).mp found, fun later member => ?_⟩
    · simpa using congrArg List.reverse split
    · simpa [← tests] using others later (List.mem_reverse.mp member)
  · rintro ⟨before, after, rfl, found, others⟩
    refine ⟨(tests field).mpr found, after.reverse, before.reverse, by simp, fun later member => ?_⟩
    simpa [← tests] using others later (List.mem_reverse.mp member)

/-- Every value is known by one JSON value. -/
theorem Value.knownBy_iff {value : Value} {json : Json} :
    value.KnownBy json ↔ value.toJson = json := by
  constructor
  · rintro (_ | _ | _ | _) <;> rfl
  · rintro rfl
    cases value with
    | text content => exact .text content
    | shown content => exact .shown content
    | integer number => exact .integer number
    | truth value => exact .truth value

/-- A reader knows every level by its name and its kind. -/
theorem Level.knownBy (level : Level) : level.KnownBy level.name level.kind := by
  cases level <;> constructor

/-- The search for the last value of a name finds what was recorded last under it. -/
theorem lastData?_eq_some_iff {fields : List Field} {name : String} {json : Json} :
    lastData? fields name = some json ↔ Recorded fields name json := by
  rw [lastData?, Option.map_eq_some_iff]
  refine exists_congr fun field => and_congr (find?_reverse_iff fun _ => Field.isDataOf_iff) ?_
  exact Value.knownBy_iff.symm

/-- The search for the last message finds what the fields say. -/
theorem said_lastMessage? (fields : List Field) : Said fields ((lastMessage? fields).getD "") := by
  cases found : lastMessage? fields with
  | none =>
    refine .nothing fun field member => Field.message?_eq_none_iff.mp ?_
    exact List.findSome?_eq_none_iff.mp found field (List.mem_reverse.mpr member)
  | some content =>
    obtain ⟨after, field, before, split, sets, others⟩ := List.findSome?_eq_some_iff.mp found
    have tells := Field.tells_message? sets
    refine .last ⟨before.reverse, after.reverse, ?_, ⟨content, tells⟩, fun later member => ?_⟩ tells
    · simpa using congrArg List.reverse split
    · exact Field.message?_eq_none_iff.mp (others later (List.mem_reverse.mp member))

end Standby.Log
