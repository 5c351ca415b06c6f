import Standby.Text.Quoted

/-!
# Faults of settings

Why a variable is refused. Either its text cannot be read at all, or what it
says is out of bounds.
-/

namespace Standby.Settings

open Text (quote)

/-- A refused variable. An unreadable one carries its text unchanged. -/
inductive Fault where
  | unreadable (name value detail : String)
  | outOfBounds (name detail : String)
deriving DecidableEq, Repr

namespace Fault

/-- The variable to blame. -/
def blames : Fault → String
  | .unreadable name _ _ => name
  | .outOfBounds name _ => name

/-- The wording of a fault. -/
def message : Fault → String
  | .unreadable name value detail =>
    "failed to parse " ++ name ++ "='" ++ value ++ "': " ++ detail
  | .outOfBounds name detail => "invalid value for " ++ name ++ ": " ++ detail

/-- A fault in full, part by part, with quoted texts. -/
def detailed : Fault → String
  | .unreadable name value detail =>
    "Parse \x7b key: " ++ quote name ++ ", value: " ++ quote value
      ++ ", error: " ++ quote detail ++ " \x7d"
  | .outOfBounds name detail =>
    "Invalid \x7b key: " ++ quote name ++ ", message: " ++ quote detail ++ " \x7d"

end Fault

end Standby.Settings
