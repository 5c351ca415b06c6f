import Standby.Settings.Environment

/-!
# Log settings

Which events are logged, in which form, and under which service name. A level
takes precedence over a filter. A level that is none is ignored with a notice,
and the filter counts again.
-/

namespace Standby.Settings

open Text (lowercaseString)

/-- The form of a log line. -/
inductive LogFormat where
  | text
  | json
deriving DecidableEq, Repr

/-- The name of a form. -/
def LogFormat.name : LogFormat → String
  | .text => "text"
  | .json => "json"

/-- How the program logs. -/
structure Logging where
  filter : String
  format : LogFormat
  service : String
deriving DecidableEq, Repr

namespace Logging

/-- The origin that all events of the program share, which is also the service
name of a program that is given none. -/
def program : String := "reserved_dispatch"

/-- The filter that lets events of this program pass up to a level. -/
def upTo (level : String) : String := program ++ "=" ++ level

/-- The settings without any variable. -/
def default : Logging := ⟨upTo "info", .text, program⟩

/-- The names of the levels. -/
def levels : List String := ["trace", "debug", "info", "warn", "error"]

/-- The level asked for, in lowercase. -/
def level? (environment : Environment) : Option String :=
  (environment.filled? "LOG_LEVEL").map lowercaseString

/-- The filter that counts when no level does. -/
def fallbackFilter (environment : Environment) : String :=
  (environment.filled? "RUST_LOG").getD (upTo "info")

/-- The filter for an environment. -/
def readFilter (environment : Environment) : String :=
  match level? environment with
  | some level => if levels.contains level then upTo level else fallbackFilter environment
  | none => fallbackFilter environment

/-- The notice about a level that is none. -/
def notice? (environment : Environment) : Option String :=
  match level? environment with
  | some level =>
    if levels.contains level then none
    else some ("ignoring LOG_LEVEL '" ++ level ++ "': expected one of "
      ++ ", ".intercalate levels)
  | none => none

/-- The variable of the form. -/
def formatVariable : String := "LOG_FORMAT"

/-- The form for an environment. -/
def readFormat (environment : Environment) : Except Fault LogFormat :=
  match lowercaseString (environment.textOr formatVariable "text") with
  | "text" => .ok .text
  | "json" => .ok .json
  | other => .error (.outOfBounds formatVariable ("expected text or json, got '" ++ other ++ "'"))

/-- Read the log settings. -/
def read (environment : Environment) : Except Fault Logging := do
  let format ← readFormat environment
  return ⟨readFilter environment, format, environment.textOr "SERVICE_NAME" program⟩

end Logging

end Standby.Settings
