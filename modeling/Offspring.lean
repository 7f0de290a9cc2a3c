import Offspring.Collector
import Offspring.Collector.Script
import Offspring.CommandLine
import Offspring.Console
import Offspring.Decimal.Float
import Offspring.Decimal.Shortest
import Offspring.Environment
import Offspring.EnvironmentBlock
import Offspring.Errno
import Offspring.Errno.Table
import Offspring.Error
import Offspring.Event
import Offspring.ExitStatus
import Offspring.Json.Error
import Offspring.Json.Number
import Offspring.Json.Reader
import Offspring.Json.Scan
import Offspring.Json.Value
import Offspring.LaunchSpec
import Offspring.LaunchSpec.Json
import Offspring.Machine.Basic
import Offspring.Machine.Conditions
import Offspring.Machine.Descriptor
import Offspring.Machine.FileTree
import Offspring.Machine.Files
import Offspring.Machine.Kernel
import Offspring.Machine.Processes
import Offspring.Machine.Schedule
import Offspring.Machine.Setup
import Offspring.Machine.Signal
import Offspring.Machine.Threads
import Offspring.Main
import Offspring.OsString
import Offspring.Posix.CString
import Offspring.Posix.Child
import Offspring.Posix.ExecPlan
import Offspring.Posix.Kernel
import Offspring.Posix.Launch
import Offspring.Posix.Reaper
import Offspring.Posix.Stdio
import Offspring.Redirection
import Offspring.Run.Arguments
import Offspring.Run.Config
import Offspring.Run.Execute
import Offspring.Run.Number
import Offspring.Run.Report
import Offspring.Run.Search
import Offspring.Run.Session
import Offspring.Shell.Arithmetic
import Offspring.Shell.Builtin
import Offspring.Shell.Command
import Offspring.Shell.Expansion
import Offspring.Shell.Pattern
import Offspring.Shell.Reader
import Offspring.Shell.Redirecting
import Offspring.Shell.Scope
import Offspring.Shell.State
import Offspring.Shell.Step
import Offspring.Shell.Token
import Offspring.Spawner
import Offspring.Spawner.Scripted
import Offspring.Text.Lossy
import Offspring.Text.Octets
import Offspring.Text.Quoted
import Offspring.Text.Quoted.Hidden
import Offspring.Text.Uppercase
import Offspring.Text.Uppercase.Table
import Offspring.Text.Utf16
import Offspring.Utility.FileFacts
import Offspring.Utility.Printf
import Offspring.Utility.Quoting
import Offspring.Utility.Test
import Offspring.Utility.Worker
import Offspring.Proofs.Spawner.Call
import Offspring.Proofs.Spawner.Projection
import Offspring.Proofs.Spawner.Contact
import Offspring.Proofs.Spawner.Step
import Offspring.Proofs.Spawner.Chronicle
import Offspring.Proofs.Spawner.Observations
import Offspring.Proofs.Spawner.Lifecycle
import Offspring.Proofs.Spawner.Protocol
import Offspring.Proofs.Spawner.Settings
import Offspring.Proofs.Spawner.Running
import Offspring.Proofs.Spawner.Scripted
import Offspring.Proofs.Spawner.Core
import Offspring.Proofs.Spawner.IdleCalls
import Offspring.Proofs.CommandLine.RoundTrip
import Offspring.Proofs.Text.Utf16
import Offspring.Proofs.Text.Uppercase
import Offspring.Proofs.Environment.Block
import Offspring.Proofs.Collector.Round
import Offspring.Proofs.Collector.Gathered
import Offspring.Proofs.Collector.Capture
import Offspring.Proofs.Collector.Interleaving
import Offspring.Proofs.Posix.Course
import Offspring.Proofs.Posix.ChildTable
import Offspring.Proofs.Posix.Report
import Offspring.Proofs.Posix.Opening
import Offspring.Proofs.Posix.Fork
import Offspring.Proofs.Posix.FirstFailure
import Offspring.Proofs.Posix.Streams
import Offspring.Proofs.Posix.Bench
import Offspring.Proofs.Json.Reading
import Offspring.Proofs.LaunchSpec.RoundTrip
import Offspring.Proofs.Run.Projection
import Offspring.Proofs.Run.Launching
import Offspring.Proofs.Posix.Projection
import Offspring.Proofs.Posix.Trace
import Offspring.Proofs.Posix.Reaping
import Offspring.Proofs.Posix.Holdings
import Offspring.Proofs.Posix.Descriptors
import Offspring.Proofs.Text.Lossy
import Offspring.Proofs.Environment.Merging
import Offspring.Proofs.Run.Watching
import Offspring.Proofs.Posix.Memory
import Offspring.Proofs.Posix.Screening
import Offspring.Proofs.Posix.Preparation
import Offspring.Proofs.Posix.Retry
import Offspring.Proofs.Posix.Outcomes
import Offspring.Proofs.Posix.Interruptions
import Offspring.Proofs.Posix.Completion
import Offspring.Proofs.Collector.Conduct
import Offspring.Proofs.CommandLine.ProgramName
import Offspring.Proofs.Environment.Order
import Offspring.Proofs.Posix.LastWait
import Offspring.Proofs.Run.ExitCode
import Offspring.Proofs.Collector.LastRounds
import Offspring.Proofs.Posix.PlannedStreams
import Offspring.Proofs.Redirection.Exclusion
import Offspring.Proofs.Console.Families
import Offspring.Proofs.Environment.Entries
import Offspring.Proofs.Text.Utf8
import Offspring.Proofs.Environment.WidePath
import Offspring.Proofs.Json.Grammar
import Offspring.Proofs.Json.Literal
import Offspring.Proofs.Json.Enclosed
import Offspring.Proofs.LaunchSpec.Forms
import Offspring.Proofs.Machine.Growth
import Offspring.Proofs.Machine.Steady
import Offspring.Proofs.Posix.Keeping
import Offspring.Proofs.Machine.Departure
import Offspring.Proofs.Run.FoundProgram
import Offspring.Proofs.Run.Numeral
import Offspring.Proofs.Run.OptionForms
import Offspring.Proofs.Run.GivenOptions
import Offspring.Proofs.Run.Mask
