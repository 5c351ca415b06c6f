import Standby.Log.Filter
import Standby.Log.Line
import Standby.LoadRun.Log
import Standby.LoadRun.Schedule
import Standby.Metrics

/-!
# The program

The load run as a program. It reads its settings from the environment, plays the
run, logs what happens, and prints the dispatcher's statistics and, if asked to,
its metrics. It fails when a setting is refused or when the books of the run do not
balance, and then complains on the error stream.
-/

namespace Standby.Program

open Settings (Environment Fault)

/-- The version of the program. -/
def version : String := "0.1.0"

/-- The first report. -/
def greeting : Log.Event :=
  .of .info LoadRun.origin "starting reserved_dispatch load run" [⟨"version", .text version⟩]

/-- A load run that was played. -/
structure Run where
  settings : Settings
  /-- The load run at its end. -/
  system : LoadRun.System
  /-- What the load run itself logs, in order. -/
  found : List Log.Event

namespace Run

/-- Play the load run that settings ask for. -/
def ofSettings (settings : Settings) : Run :=
  let (system, found) := (LoadRun.System.ofSettings settings).complete LoadRun.Event.log?
  ⟨settings, system, found.reverse⟩

/-- Everything that is logged, in order, when the run took the given time. -/
def events (run : Run) (elapsed : Duration.Millis) : List Log.Event :=
  let { backing, .. } := run.settings
  greeting :: run.settings.summaryEvents
    ++ Pool.created LoadRun.poolName backing.threads backing.queueCapacity :: run.found
    ++ [run.system.finished elapsed]

/-- The line of a log event in the form that the settings ask for. -/
def logLine (run : Run) (timestamp : String) (event : Log.Event) : String :=
  match run.settings.logging.format with
  | .text => event.plainLine timestamp
  | .json => event.jsonLine run.settings.logging.service timestamp

/-- The events that pass the filter of the settings. -/
def logged (run : Run) (elapsed : Duration.Millis) : List Log.Event :=
  let filter := Log.Filter.ofSetting run.settings.logging.filter
  (run.events elapsed).filter filter.passes

/-- The dispatcher at the end of the run. -/
def snapshot (run : Run) : Dispatcher.Snapshot := run.system.host.dispatcher.snapshot

/-- The statistics of the dispatcher, and its metrics if they are wanted. -/
def statistics (run : Run) : List String :=
  let metrics := Metrics.observe LoadRun.names.dispatcher run.snapshot []
  run.snapshot.text :: if run.settings.load.printMetrics then metrics.expositionLines else []

/-- Everything that the program prints, line by line. All log lines have the
same timestamp. -/
def lines (run : Run) (timestamp : String) (elapsed : Duration.Millis) : List String :=
  (run.logged elapsed).map (run.logLine timestamp) ++ run.statistics

end Run

/-- Run the program. -/
def run (environment : Environment) (processors : Nat) : Except Fault Run :=
  (Settings.read environment processors).map .ofSettings

/-- Why a run failed, if it did. -/
def failure? : Except Fault Run → Option String
  | .error fault => some fault.detailed
  | .ok run => run.system.mismatch?.map Text.quote

/-- The lines that go to the error stream. -/
def complaints (environment : Environment) (processors : Nat) (result : Except Fault Run) :
    List String :=
  (Settings.notice? environment processors).toList
    ++ (failure? result).toList.map fun detail => "Error: " ++ detail

end Standby.Program
