import Standby.Decimal.Notation
import Standby.Dispatcher.Snapshot
import Standby.Metrics.Fingerprint

/-!
# Metrics

The metrics of any number of dispatchers, told apart by the fingerprints of their
names, and the text in which they are exposed. Dispatchers whose names have one
fingerprint share their values, which go by the name that was observed first. A
gauge shows the last observation, read as a signed word of 64 bits. A counter only
ever advances: an observation raises it to the observed total and leaves it alone
when it is already higher.

Families come in the order of their names, and the samples of a family in the
order of the dispatchers' names. Before the first observation there is nothing to
expose.
-/

namespace Standby

open Dispatcher

/-- A metric: a number of workers or a count. -/
inductive Metric where
  | gauge (level : Dispatcher.Level)
  | counter (count : Count)
deriving DecidableEq, Repr

namespace Metric

/-- All metrics in the order of their names. -/
def all : List Metric :=
  [.counter .accepted, .gauge .available, .gauge .capacity, .counter .declined,
    .counter .idleRetired, .gauge .pending, .counter .spawnFailures, .counter .spawned,
    .gauge .starting, .counter .taskFailures]

/-- The name of a metric within its family of names. -/
def suffix : Metric → String
  | .gauge .capacity => "capacity"
  | .gauge .available => "available"
  | .gauge .pending => "pending"
  | .gauge .starting => "starting"
  | .counter .accepted => "accepted_total"
  | .counter .declined => "declined_total"
  | .counter .spawned => "spawned_total"
  | .counter .spawnFailures => "spawn_failures_total"
  | .counter .idleRetired => "idle_retired_total"
  | .counter .taskFailures => "task_failures_total"

/-- The full name of a metric. -/
def name (metric : Metric) : String := "reserved_threads_" ++ metric.suffix

/-- What a metric tells. -/
def help : Metric → String
  | .gauge .capacity => "Reserved thread capacity"
  | .gauge .available => "Reserved threads parked and ready"
  | .gauge .pending => "Reserved threads executing a task"
  | .gauge .starting => "Reserved thread loops submitted but not yet parked"
  | .counter .accepted => "Tasks handed to a reserved thread"
  | .counter .declined => "Tasks declined to the fallback path"
  | .counter .spawned => "Reserved thread loops submitted to the backing executor"
  | .counter .spawnFailures => "Reserved thread loops refused by the backing executor"
  | .counter .idleRetired => "Reserved threads retired after the idle timeout"
  | .counter .taskFailures => "Reserved tasks that panicked"

/-- The kind of a metric. -/
def kind : Metric → String
  | .gauge _ => "gauge"
  | .counter _ => "counter"

example : (all.map name).Pairwise (· < ·) := by decide +kernel

end Metric

/-- The number of values of a word of 64 bits. -/
def wordSize : Nat := Nat.pow 2 64

/-- A word of 64 bits read as a signed number. -/
def signedWord (word : Nat) : Int := Int.bmod word wordSize

/-- The values of one dispatcher. -/
structure Series where
  dispatcher : String
  capacity : Int
  available : Int
  pending : Int
  starting : Int
  totals : Tally
deriving DecidableEq, Repr

namespace Series

/-- The values before the first observation. -/
def fresh (dispatcher : String) : Series := ⟨dispatcher, 0, 0, 0, 0, .zero⟩

/-- A counter advances by what the observed total has more. -/
def advance (held observed : Tally) : Tally :=
  .of fun count => held.get count + (observed.get count - held.get count)

/-- Take an observation. -/
def observe (series : Series) (snapshot : Snapshot) : Series :=
  { series with
    capacity := signedWord snapshot.capacity
    available := signedWord snapshot.available
    pending := signedWord snapshot.pending
    starting := signedWord snapshot.starting
    totals := advance series.totals snapshot.tally }

/-- The values are those of a dispatcher with the given name. -/
def holds (series : Series) (dispatcher : String) : Bool :=
  Metrics.fingerprint series.dispatcher == Metrics.fingerprint dispatcher

/-- One of the gauges. -/
def gauge (series : Series) : Dispatcher.Level → Int
  | .capacity => series.capacity
  | .available => series.available
  | .pending => series.pending
  | .starting => series.starting

/-- The value of a metric. -/
def value (series : Series) : Metric → Int
  | .gauge level => series.gauge level
  | .counter count => series.totals.get count

end Series

/-- The metrics of all observed dispatchers, in the order of their names. -/
abbrev Metrics := List Series

namespace Metrics

/-- The values of a dispatcher, if it was observed. -/
def find? (metrics : Metrics) (dispatcher : String) : Option Series :=
  List.find? (·.holds dispatcher) metrics

/-- Put the values of another dispatcher in their place. -/
def insert (added : Series) : Metrics → Metrics
  | [] => [added]
  | series :: rest =>
    if added.dispatcher < series.dispatcher then added :: series :: rest
    else series :: insert added rest

/-- Take an observation of a dispatcher. -/
def observe (dispatcher : String) (snapshot : Snapshot) (metrics : Metrics) : Metrics :=
  if metrics.any (·.holds dispatcher) then
    metrics.map fun series =>
      if series.holds dispatcher then series.observe snapshot else series
  else insert ((Series.fresh dispatcher).observe snapshot) metrics

/-- The text of one character in a label. -/
def escapeLabel (character : Char) : List Char :=
  match character with
  | '"' => ['\\', '"']
  | '\\' => ['\\', '\\']
  | '\n' => ['\\', 'n']
  | _ => [character]

/-- A label between quotation marks. -/
def label (text : String) : String :=
  "\"" ++ String.ofList (text.toList.flatMap escapeLabel) ++ "\""

/-- The line of one sample. Samples are written in double precision. -/
def sample (metric : Metric) (series : Series) : String :=
  metric.name ++ "\x7bdispatcher=" ++ label series.dispatcher ++ "\x7d "
    ++ (Decimal.Binary.ofInt (series.value metric)).sample

/-- The lines of one metric: what it tells, its kind, and its samples. -/
def family (metrics : Metrics) (metric : Metric) : List String :=
  ("# HELP " ++ metric.name ++ " " ++ metric.help)
    :: ("# TYPE " ++ metric.name ++ " " ++ metric.kind)
    :: metrics.map (sample metric)

/-- The metrics that have samples. -/
def exposed (metrics : Metrics) : List Metric := if metrics.isEmpty then [] else Metric.all

/-- The lines of all metrics. -/
def expositionLines (metrics : Metrics) : List String := metrics.exposed.flatMap metrics.family

/-- The text of all metrics, line by line. -/
def exposition (metrics : Metrics) : String :=
  String.join (metrics.expositionLines.map (· ++ "\n"))

end Metrics

end Standby
