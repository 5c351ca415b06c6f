import Standby.Decimal.Notation
import Standby.Dispatcher.System
import Standby.Executor.BlockingThreads
import Standby.Executor.Refusal
import Standby.Executor.ThreadPerJob
import Standby.Hosted.System
import Standby.Json.Reader
import Standby.LoadRun.Schedule
import Standby.Log.Filter
import Standby.Log.Line
import Standby.Main
import Standby.Metrics
import Standby.Pool.System
import Standby.Program
import Standby.Proofs.Dispatcher.Capacity
import Standby.Proofs.Dispatcher.Conservation
import Standby.Proofs.Dispatcher.Contention
import Standby.Proofs.Dispatcher.Discipline
import Standby.Proofs.Dispatcher.Handoff
import Standby.Proofs.Dispatcher.Offering
import Standby.Proofs.Dispatcher.Renewal
import Standby.Proofs.Dispatcher.Retirement
import Standby.Proofs.Dispatcher.Routing
import Standby.Proofs.Dispatcher.Shutdown
import Standby.Proofs.Dispatcher.Standing
import Standby.Proofs.Dispatcher.StartSlots
import Standby.Proofs.Dispatcher.Tolerance
import Standby.Proofs.Dispatcher.Waking
import Standby.Proofs.Duration.Notation
import Standby.Proofs.Hosted.Attendance
import Standby.Proofs.LoadRun.Balance
import Standby.Proofs.LoadRun.Conservation
import Standby.Proofs.Log.Line
import Standby.Proofs.Log.Message
import Standby.Proofs.Metrics.Faithful
import Standby.Proofs.Pool.Backlog
import Standby.Proofs.Settings.Reading
import Standby.Proofs.Settings.Reserve
import Standby.Proofs.Timestamp.Order
import Standby.Rehearsal.Bench
import Standby.Rehearsal.Play
import Standby.Rehearsal.Pool
import Standby.Settings
import Standby.Timestamp
