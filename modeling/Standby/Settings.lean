import Standby.Log.Event
import Standby.Settings.Backing
import Standby.Settings.Load
import Standby.Settings.Logging
import Standby.Settings.Reserved

/-!
# Settings

All settings of the program, read from the variables of its environment. The
parts are read one after the other, so that the first variable in their order
that is refused takes the blame and later ones have no say.
-/

namespace Standby

open Settings

/-- The settings of the program. -/
structure Settings where
  backing : Backing
  reserved : Reserved
  load : Load
  logging : Logging
deriving DecidableEq, Repr

namespace Settings

/-- Read all settings on a machine with the given number of processors. -/
def read (environment : Environment) (processors : Nat) : Except Fault Settings := do
  let backing ← Backing.read environment processors
  let reserved ← Reserved.read environment processors backing.threads
  let load ← Load.read environment
  let logging ← Logging.read environment
  return ⟨backing, reserved, load, logging⟩

/-- The notice that reading prints. The level is looked at only when every part
before the log settings was read. -/
def notice? (environment : Environment) (processors : Nat) : Option String :=
  let earlier : Except Fault Unit := do
    let backing ← Backing.read environment processors
    let _ ← Reserved.read environment processors backing.threads
    let _ ← Load.read environment
  match earlier with
  | .ok _ => Logging.notice? environment
  | .error _ => none

/-- The lines of the summary. -/
def summary (settings : Settings) : List String :=
  ["Configuration loaded:",
   "  Backing threads: " ++ toString settings.backing.threads,
   "  Backing queue capacity: " ++ toString settings.backing.queueCapacity,
   if settings.reserved.capacity = 0 then "  Reserved threads: disabled"
   else "  Reserved threads: " ++ toString settings.reserved.capacity
     ++ " (" ++ settings.reserved.wish.shown ++ ")",
   match settings.reserved.idleTimeout with
   | some timeout => "  Idle timeout: " ++ toString timeout ++ "ms"
   | none => "  Idle timeout: disabled",
   "  Stress: " ++ toString settings.load.loops ++ " loops over "
     ++ toString settings.load.chains ++ " chains"]

/-- The part of the program that reports the summary. -/
def origin : String := Logging.program ++ "::config"

/-- The summary as log events. -/
def summaryEvents (settings : Settings) : List Log.Event :=
  settings.summary.map fun line => .of .info origin line []

end Settings

end Standby
