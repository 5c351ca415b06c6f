/-!
# Failures of jobs

How the work that was handed to a thread comes to its end. Work that fails leaves
something behind, which is looked at for a message and then disposed of. A text is
its own message; about anything else nothing can be said, and its disposal may fail
in turn.
-/

namespace Standby

/-- What failed work leaves behind. -/
inductive Failure where
  /-- A text that stands in the program. -/
  | literal (content : String)
  /-- A text that was put together. -/
  | text (content : String)
  /-- Something else. It may spill when it is disposed of. -/
  | other (spills : Bool)
deriving DecidableEq, Repr

namespace Failure

/-- The failure as a text that stands in the program. -/
def asLiteral? : Failure → Option String
  | .literal content => some content
  | _ => none

/-- The failure as a text that was put together. -/
def asText? : Failure → Option String
  | .text content => some content
  | _ => none

/-- The message of a failure: the text that it is, looked for in both kinds. -/
def message (failure : Failure) : String :=
  match failure.asLiteral? with
  | some content => content
  | none =>
    match failure.asText? with
    | some content => content
    | none => "unknown panic payload"

/-- Disposing of the failure fails in turn. A text is disposed of quietly. -/
def spills : Failure → Bool
  | .literal _ | .text _ => false
  | .other spills => spills

/-- A failure tells the text that it is, and is unknown without one. -/
theorem message_eq (failure : Failure) : failure.message =
    match failure with
    | .literal content | .text content => content
    | .other _ => "unknown panic payload" := by
  cases failure <;> rfl

end Failure

/-- How work ends. -/
inductive Outcome where
  | returned
  | failed (failure : Failure)
deriving DecidableEq, Repr

end Standby
