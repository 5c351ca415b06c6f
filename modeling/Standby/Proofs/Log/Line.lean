import Standby.Proofs.Json.Members
import Standby.Proofs.Json.Value
import Standby.Proofs.Log.Record
import Standby.Register

/-!
# JSON lines read back

The JSON form of a log event is one line, and reading it gives back what was recorded: the last
message, the last value of every other name, and each of them in one place.
-/

namespace Standby.Log

/-- The event as it is written, with the end of its line. -/
def Event.written (event : Event) (service timestamp : String) : String :=
  event.jsonLine service timestamp ++ "\n"

/-- A field of this name correlates the lines of one dispatcher or of one worker. -/
def Correlates (name : String) : Prop := name = "dispatcher" ∨ name = "worker"

/-- Every field stands in its place: in the context if it correlates lines, and else in the
data. -/
structure Placed (fields : List Field) (service : String) (context data : Members) : Prop where
  /-- The context holds the service and what was recorded last under the names that correlate. -/
  inContext : ∀ name json, context.get? name = some json ↔
    name = "service" ∧ json = .text service ∨ Correlates name ∧ Recorded fields name json
  /-- The data hold what was recorded last under all others. -/
  inData : ∀ name json, data.get? name = some json ↔
    ¬ Correlates name ∧ Recorded fields name json
  /-- No field is lost. -/
  kept : ∀ field ∈ fields, ¬ field.IsMessage →
    (Correlates field.name → field.name ∈ context.names) ∧
      (¬ Correlates field.name → field.name ∈ data.names)
  /-- No name stands twice in the context. -/
  contextOnce : context.names.Nodup
  /-- No name stands twice in the data. -/
  dataOnce : data.names.Nodup
  /-- No field stands in both. A recorded service is data, and the one of the context is none
  of the fields. -/
  apart : ∀ name ∈ context.names, name ∈ data.names → name = "service"

/-- The line of an event is one line, and reading it gives the event back. -/
structure Event.ReadsBack (event : Event) (service timestamp : String) : Prop where
  /-- The line ends once, and no control character stands before its end. -/
  line : ∃ shown, (event.written service timestamp).toList = shown ++ ['\n'] ∧
    ∀ character ∈ shown, Json.IsShown character
  /-- The line holds one object, with the six members of a log line. -/
  read : ∃ (context data : Members) (level kind message : String),
    Json.read? (event.written service timestamp) = some (.ofMembers
      [("ctx", .object context),
       ("data", .object data),
       ("level", .text level),
       ("msg", .text message),
       ("ts", .text timestamp),
       ("type", .text kind)]) ∧
    event.level.KnownBy level kind ∧ Said event.fields message ∧
      Placed event.fields service context data

namespace Entry

/-- A message replaces the message, and any other field is set under its name. -/
theorem record_eq (entry : Entry) (field : Field) :
    entry.record field =
      match field.message? with
      | some content => { entry with message := some content }
      | none => { entry with data := entry.data.put field.name field.value.toJson } := by
  obtain ⟨name, value⟩ := field
  by_cases named : name = messageName
  · cases value <;> simp [record, Field.message?, named]
  · have other : (name == messageName) = false := by simpa using named
    cases value <;> simp [record, Field.message?, named, other]

/-- What was recorded last is the message, and before that what was there. -/
theorem message_foldl (fields : List Field) (entry : Entry) :
    (fields.foldl record entry).message = (lastMessage? fields).or entry.message := by
  induction fields generalizing entry with
  | nil => rfl
  | cons field rest inductionHypothesis =>
    rw [List.foldl_cons, inductionHypothesis, record_eq, lastMessage?, lastMessage?,
      List.reverse_cons, List.findSome?_append, Option.or_assoc]
    cases message : field.message? <;> simp [message]

/-- What was recorded last under a name is found under it, and before that what was there. -/
theorem lookup_foldl (fields : List Field) (entry : Entry) (name : String) :
    (fields.foldl record entry).data.lookup name =
      (lastData? fields name).or (entry.data.lookup name) := by
  induction fields generalizing entry with
  | nil => rfl
  | cons field rest inductionHypothesis =>
    rw [List.foldl_cons, inductionHypothesis, record_eq, lastData?, lastData?,
      List.reverse_cons, List.find?_append, Option.map_or, Option.or_assoc]
    cases message : field.message? with
    | none =>
      by_cases same : field.name = name
      · simp [SortedMembers.lookup_put, Field.isDataOf, message, same]
      · simp [SortedMembers.lookup_put, Field.isDataOf, message, same, Ne.symm same]
    | some content => simp [Field.isDataOf, message]

/-- Recording keeps the data in order. -/
theorem ascending_foldl (fields : List Field) {entry : Entry}
    (ascending : SortedMembers.Ascending entry.data) :
    SortedMembers.Ascending (fields.foldl record entry).data := by
  induction fields generalizing entry with
  | nil => exact ascending
  | cons field rest inductionHypothesis =>
    rw [List.foldl_cons, record_eq]
    refine inductionHypothesis ?_
    cases field.message? with
    | none => exact ascending.put field.name field.value.toJson
    | some content => exact ascending

/-- The message of an entry is the last one that was recorded. -/
theorem message_of (fields : List Field) : (Entry.of fields).message = lastMessage? fields := by
  simp [Entry.of, message_foldl, empty]

/-- The data of an entry are the last values that were recorded. -/
theorem lookup_of (fields : List Field) (name : String) :
    (Entry.of fields).data.lookup name = lastData? fields name := by
  simp [Entry.of, lookup_foldl, empty]

/-- The names of the context are found in it as they were recorded. -/
theorem lookup_context (fields : List Field) (name : String) :
    (Entry.of fields).context.lookup name =
      if name ∈ contextNames then lastData? fields name else none := by
  refine (Entries.lookup_filter contextNames.contains _ name).trans ?_
  simp [lookup_of]

/-- The other names are found in the data as they were recorded. -/
theorem lookup_rest (fields : List Field) (name : String) :
    (Entry.of fields).rest.lookup name =
      if name ∈ contextNames then none else lastData? fields name := by
  refine (Entries.lookup_filter (!contextNames.contains ·) _ name).trans ?_
  simp [lookup_of]

/-- The data of an entry are in order. -/
theorem ascending_of (fields : List Field) :
    SortedMembers.Ascending (Entry.of fields).data :=
  ascending_foldl fields .nil

end Entry

/-- The names that correlate are those that make up the context. -/
theorem mem_contextNames {name : String} : name ∈ contextNames ↔ Correlates name := by
  simp [contextNames, Correlates]

/-- A field that is no message leaves a value under its name. -/
theorem lastData?_isSome {fields : List Field} {field : Field} (recorded : field ∈ fields)
    (data : ¬ field.IsMessage) : (lastData? fields field.name).isSome = true := by
  rw [lastData?, Option.isSome_map, List.find?_isSome]
  exact ⟨field, List.mem_reverse.mpr recorded, Field.isDataOf_iff.mpr ⟨rfl, data⟩⟩

/-- What is found in the context of a line. -/
theorem get?_context {fields : List Field} {service name : String} {json : Json} :
    (Members.ofList ((Entry.of fields).context.put "service" (.text service))).get? name =
        some json ↔
      name = "service" ∧ json = .text service ∨ Correlates name ∧ Recorded fields name json := by
  rw [Members.get?, Members.toList_ofList, SortedMembers.lookup_put, Entry.lookup_context,
    ← lastData?_eq_some_iff, ← mem_contextNames]
  by_cases service : name = "service"
  · subst service
    have other : "service" ∉ contextNames := by decide
    simp [other, eq_comm]
  · by_cases chosen : name ∈ contextNames <;> simp [service, chosen]

/-- What is found in the data of a line. -/
theorem get?_data {fields : List Field} {name : String} {json : Json} :
    (Members.ofList (Entry.of fields).rest).get? name = some json ↔
      ¬ Correlates name ∧ Recorded fields name json := by
  rw [Members.get?, Members.toList_ofList, Entry.lookup_rest, ← lastData?_eq_some_iff,
    ← mem_contextNames]
  by_cases chosen : name ∈ contextNames <;> simp [chosen]

/-- The members of a line's context and data tell all that was recorded. -/
theorem placed_of (fields : List Field) (service : String) :
    Placed fields service
      (.ofList ((Entry.of fields).context.put "service" (.text service)))
      (.ofList (Entry.of fields).rest) := by
  have chosen : SortedMembers.Ascending (Entry.of fields).context :=
    (Entry.ascending_of fields).filter _
  have others : SortedMembers.Ascending (Entry.of fields).rest :=
    (Entry.ascending_of fields).filter _
  refine
    { inContext := fun _ _ => get?_context
      inData := fun _ _ => get?_data
      kept := ?kept
      contextOnce := by
        simpa [Members.names] using (chosen.put "service" (.text service)).nodup
      dataOnce := by simpa [Members.names] using others.nodup
      apart := ?apart }
  case kept =>
    intro field recorded data
    obtain ⟨json, held⟩ := Option.isSome_iff_exists.mp (lastData?_isSome recorded data)
    have last := lastData?_eq_some_iff.mp held
    constructor
    · intro correlates
      exact Members.isSome_get?_iff.mp
        (Option.isSome_of_eq_some (get?_context.mpr (.inr ⟨correlates, last⟩)))
    · intro other
      exact Members.isSome_get?_iff.mp (Option.isSome_of_eq_some (get?_data.mpr ⟨other, last⟩))
  case apart =>
    intro name context data
    obtain ⟨json, first⟩ := Option.isSome_iff_exists.mp (Members.isSome_get?_iff.mpr context)
    obtain ⟨other, second⟩ := Option.isSome_iff_exists.mp (Members.isSome_get?_iff.mpr data)
    rcases get?_context.mp first with ⟨same, -⟩ | ⟨correlates, -⟩
    · exact same
    · exact absurd correlates (get?_data.mp second).1

/-- The line of an event is its object and the end of the line. -/
theorem Event.toList_written (event : Event) (service timestamp : String) :
    (event.written service timestamp).toList =
      (event.toJson service timestamp).write ++ ['\n'] := by
  simp [written, jsonLine, Json.render]

/-- Reading the line of an event gives its object back. -/
theorem Event.read_written (event : Event) (service timestamp : String) :
    Json.read? (event.written service timestamp) = some (event.toJson service timestamp) := by
  have whole : event.written service timestamp =
      String.ofList ((event.toJson service timestamp).write ++ ['\n']) := by
    rw [← event.toList_written, String.ofList_toList]
  rw [whole, Json.read_write _ (List.forall_mem_singleton.mpr rfl)]

/-- Every event is written as one line, and reading the line gives the event back. -/
theorem Event.written_readsBack (event : Event) (service timestamp : String) :
    event.ReadsBack service timestamp := by
  refine ⟨⟨_, event.toList_written service timestamp, Json.shown_write _⟩, ?_⟩
  refine ⟨_, _, _, _, _, ?_, event.level.knownBy, said_lastMessage? event.fields,
    placed_of event.fields service⟩
  rw [event.read_written, toJson, Entry.message_of]
  rfl

example :
    Event.written
        ⟨.warn, "pool", [count "message" 1, shown messageName "a \"b\"", count "worker" 3,
          ⟨"note", .text "\n"⟩, ⟨"depth", .integer (-12)⟩], []⟩
        "svc" "now" =
      "\x7b\"ctx\":\x7b\"service\":\"svc\",\"worker\":3\x7d,"
        ++ "\"data\":\x7b\"depth\":-12,\"message\":1,\"note\":\"\\n\"\x7d,"
        ++ "\"level\":\"warn\",\"msg\":\"a \\\"b\",\"ts\":\"now\",\"type\":\"app\"\x7d\n" := by
  decide +kernel

end Standby.Log
