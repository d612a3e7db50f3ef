import Scenario.Api.MediaType
import Scenario.Api.Route
import Scenario.Api.Service
import Scenario.Api.Settings
import Scenario.Api.Status
import Scenario.Bytes.Base64
import Scenario.Collection
import Scenario.CommandLine
import Scenario.Comparison
import Scenario.Config
import Scenario.Dict
import Scenario.Disk.Basic
import Scenario.Disk.Fault
import Scenario.Disk.Program
import Scenario.Environment
import Scenario.Flow.Basic
import Scenario.Flow.Document
import Scenario.Flow.Error
import Scenario.Flow.Graph
import Scenario.Flow.Registry
import Scenario.Flow.Step
import Scenario.Json.Decode
import Scenario.Json.Fault
import Scenario.Json.Number
import Scenario.Json.Parser
import Scenario.Json.Printer
import Scenario.Json.Tagged
import Scenario.Json.Value
import Scenario.Main
import Scenario.Number.Double
import Scenario.Number.Natural
import Scenario.Number.Reading
import Scenario.Number.Shortest
import Scenario.Proofs.Dict
import Scenario.Proofs.Disk
import Scenario.Proofs.FileTask
import Scenario.Proofs.Flow.Document
import Scenario.Proofs.Flow.Step
import Scenario.Proofs.Graph.Cycle
import Scenario.Proofs.Graph.Exits
import Scenario.Proofs.Graph.Runnable
import Scenario.Proofs.Json.Decode
import Scenario.Proofs.Run.Complete
import Scenario.Proofs.Run.Journey
import Scenario.Proofs.Run.Outcome
import Scenario.Proofs.Run.Step
import Scenario.Proofs.Run.Timing
import Scenario.Proofs.Run.Walk
import Scenario.Proofs.Success
import Scenario.Pool
import Scenario.Request
import Scenario.Run.Basic
import Scenario.Run.Error
import Scenario.Run.Event
import Scenario.Run.Guard
import Scenario.Run.Handler
import Scenario.Run.Id
import Scenario.Run.Log
import Scenario.Run.Result
import Scenario.Run.Session
import Scenario.Run.Transport
import Scenario.Runner
import Scenario.Template
import Scenario.Text.Blank
import Scenario.Text.Hidden
import Scenario.Text.Quoted
import Scenario.Text.Split
import Scenario.Time.Calendar
import Scenario.Time.Timestamp
import Scenario.Variables
import Scenario.Proofs.Graph.Trail
import Scenario.Proofs.Run.Round
import Scenario.Proofs.Run.Pace
import Scenario.Proofs.Run.Delays
import Scenario.Proofs.Run.Yield
import Scenario.Proofs.Run.World
import Scenario.Proofs.Run.Writes
import Scenario.Proofs.Run.Log
import Scenario.Proofs.Run.Tolerance
import Scenario.Proofs.Flow.Loading
import Scenario.Proofs.Run.Job
import Scenario.Proofs.Graph.Likeness
import Scenario.Proofs.Run.Likeness
import Scenario.Proofs.Run.Twins
import Scenario.Proofs.Run.Presentation
import Scenario.Proofs.Run.Secrecy
import Scenario.Proofs.Json.Number
import Scenario.Proofs.Json.Value
import Scenario.Proofs.Json.Layout
import Scenario.Proofs.Json.Nesting
import Scenario.Proofs.Flow.Saving
import Scenario.Proofs.Flow.Reread
import Scenario.Proofs.Collection.Files
import Scenario.Proofs.Collection.Map
import Scenario.Proofs.Number.Rounding
import Scenario.Proofs.Number.Shortest
import Scenario.Proofs.Json.Double
import Scenario.Proofs.Json.Reread
import Scenario.Proofs.Api.Handling
import Scenario.Proofs.Api.Flows
import Scenario.Proofs.Api.Happening
import Scenario.Proofs.Pool
import Scenario.Proofs.Runner
import Scenario.Proofs.Api.Runs
import Scenario.Proofs.Run.Echo
import Scenario.Proofs.Alone
import Scenario.Proofs.Json.Fields
import Scenario.Proofs.Api.Bodies
import Scenario.Proofs.Api.SavedRuns
import Scenario.Proofs.Json.Compact
import Scenario.Proofs.Json.Tagged
import Scenario.Proofs.Run.Stream
import Scenario.Proofs.Run.Event
import Scenario.Proofs.Tidy
import Scenario.Proofs.Api.Streams
import Scenario.Proofs.Api.Resaving
import Scenario.Proofs.Collection.Faults
import Scenario.Proofs.Api.Refusals
import Scenario.Proofs.Text
import Scenario.Proofs.Workshop
import Scenario.Proofs.Collection.Sharing
import Scenario.Proofs.Collection.Readers
import Scenario.Proofs.Run.Id
import Scenario.Proofs.Collection.Names
import Scenario.Proofs.Collection.Room
import Scenario.Proofs.Run.Guard
import Scenario.Proofs.Digraph
import Scenario.Proofs.Graph.Index
import Scenario.Proofs.Graph.Reach
import Scenario.Proofs.Graph.Rules
import Scenario.Proofs.Variables.Interpolation
import Scenario.Proofs.Variables.Reference
import Scenario.Proofs.Variables.Operand
import Scenario.Proofs.Run.ReadBack
import Scenario.Proofs.Text.Trim
import Scenario.Proofs.Number.Reading
import Scenario.Proofs.Number.Nearest
import Scenario.Proofs.Comparison.Coherence
import Scenario.Proofs.Comparison.Wholes
import Scenario.Proofs.Environment
import Scenario.Proofs.Bytes.Text
import Scenario.Proofs.Bytes.Base64
import Scenario.Proofs.Bytes.DataUrl
import Scenario.Proofs.Number.Natural
import Scenario.Proofs.Variables.Path
