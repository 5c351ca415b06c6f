import Standby.Program
import Standby.Timestamp
import Std.Time.DateTime.Timestamp

/-!
# The command line

The program as a process of a Linux system. It takes no arguments: all settings
come from the environment. What it prints goes to standard output, complaints go
to standard error, and the exit code tells whether the run failed.
-/

namespace Standby.Process

open Settings (Environment)

/-- The environment of this process. -/
def environment : IO Environment :=
  return .ofBlock (← IO.FS.readBinFile "/proc/self/environ").toList

/-- The number of processors of this machine. -/
def processors : IO Nat :=
  return (← IO.FS.lines "/proc/cpuinfo").toList.countP (·.startsWith "processor")

/-- The present time. -/
def now : IO Timestamp.Instant := do
  let nanoseconds := (← Std.Time.Timestamp.now).toNanosecondsSinceUnixEpoch.val.toNat
  return ⟨nanoseconds / 1000000000, nanoseconds % 1000000000⟩

end Standby.Process

/-- Run the program in the environment of this process. -/
def main : IO UInt32 := do
  let environment ← Standby.Process.environment
  let processors ← Standby.Process.processors
  let started ← IO.monoMsNow
  let result := Standby.Program.run environment processors
  if let .ok run := result then
    let elapsed := (← IO.monoMsNow) - started
    let timestamp := (← Standby.Process.now).text
    for line in run.lines timestamp elapsed do
      IO.println line
  for line in Standby.Program.complaints environment processors result do
    IO.eprintln line
  return if (Standby.Program.failure? result).isSome then 1 else 0
