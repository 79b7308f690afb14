import QueryGateway.Answer.Reply
import QueryGateway.Answer.Trace
import QueryGateway.Answer.Verdict
import QueryGateway.Client.Arguments
import QueryGateway.Client.HealthReader
import QueryGateway.Client.Printout
import QueryGateway.Client.Table
import QueryGateway.Config.Location
import QueryGateway.Config.LogFormat
import QueryGateway.Config.Settings
import QueryGateway.Engine.Bounds
import QueryGateway.Engine.Call
import QueryGateway.Engine.Environment
import QueryGateway.Engine.Intake
import QueryGateway.Engine.OverflowReader
import QueryGateway.Engine.Pump
import QueryGateway.Engine.ReadLoop
import QueryGateway.Engine.Report
import QueryGateway.Engine.WaitStatus
import QueryGateway.Files.Errno
import QueryGateway.Files.Path
import QueryGateway.Files.Tree
import QueryGateway.Gateway.Bench
import QueryGateway.Gateway.Guard
import QueryGateway.Gateway.Health
import QueryGateway.Gateway.Lifecycle
import QueryGateway.Gateway.LiveBench
import QueryGateway.Gateway.Numbering
import QueryGateway.Gateway.Refusal
import QueryGateway.Gateway.RequestFault
import QueryGateway.Gateway.RequestId
import QueryGateway.Gateway.Startup
import QueryGateway.Gateway.StopSignal
import QueryGateway.Gateway.Submission
import QueryGateway.Gateway.SubmissionReader
import QueryGateway.Gateway.Watchers
import QueryGateway.Http.ByteRange
import QueryGateway.Http.Date
import QueryGateway.Http.Extension
import QueryGateway.Http.Extension.Application
import QueryGateway.Http.Extension.Kind
import QueryGateway.Http.Extension.Media
import QueryGateway.Http.Extension.Vendor
import QueryGateway.Http.Fault
import QueryGateway.Http.HostName
import QueryGateway.Http.Ip
import QueryGateway.Http.MediaType
import QueryGateway.Http.Message
import QueryGateway.Http.Server
import QueryGateway.Http.Site
import QueryGateway.Http.StaticFiles
import QueryGateway.Http.Status
import QueryGateway.Http.Target
import QueryGateway.Http.Wire
import QueryGateway.Input.Directory
import QueryGateway.Input.Errands
import QueryGateway.Input.Lease
import QueryGateway.Input.Ledger
import QueryGateway.Input.Slots
import QueryGateway.Json.Binary64
import QueryGateway.Json.Flaw
import QueryGateway.Json.Number
import QueryGateway.Json.Passing
import QueryGateway.Json.Pretty
import QueryGateway.Json.Quoted
import QueryGateway.Json.Reader
import QueryGateway.Json.Shape
import QueryGateway.Json.Source
import QueryGateway.Json.Value
import QueryGateway.Main
import QueryGateway.Proofs.Bookkeeping
import QueryGateway.Proofs.Cancellation
import QueryGateway.Proofs.CanonicalTraces
import QueryGateway.Proofs.CheckedValues
import QueryGateway.Proofs.ChildEnvironment
import QueryGateway.Proofs.Configuration
import QueryGateway.Proofs.ConfinedInputs
import QueryGateway.Proofs.CutText
import QueryGateway.Proofs.Deadline
import QueryGateway.Proofs.Decoding
import QueryGateway.Proofs.Delivery
import QueryGateway.Proofs.ErrorResponses
import QueryGateway.Proofs.FileOwnership
import QueryGateway.Proofs.Floor
import QueryGateway.Proofs.Handling
import QueryGateway.Proofs.Handover
import QueryGateway.Proofs.Holdings
import QueryGateway.Proofs.InputDirectory
import QueryGateway.Proofs.Intake
import QueryGateway.Proofs.Isolation
import QueryGateway.Proofs.Json.Documents
import QueryGateway.Proofs.Json.Forms
import QueryGateway.Proofs.Json.Literals
import QueryGateway.Proofs.Json.Nesting
import QueryGateway.Proofs.Json.Numbers
import QueryGateway.Proofs.Json.Passing
import QueryGateway.Proofs.Json.Rearranging
import QueryGateway.Proofs.Json.Rounding
import QueryGateway.Proofs.Json.Shortest
import QueryGateway.Proofs.Json.Strings
import QueryGateway.Proofs.Lifecycle
import QueryGateway.Proofs.Locations
import QueryGateway.Proofs.Naming
import QueryGateway.Proofs.NumberedNames
import QueryGateway.Proofs.PaddedSettings
import QueryGateway.Proofs.PipeRace
import QueryGateway.Proofs.Pump
import QueryGateway.Proofs.QueryAgreement
import QueryGateway.Proofs.QueryVerdict
import QueryGateway.Proofs.RecordedTimeouts
import QueryGateway.Proofs.Replies
import QueryGateway.Proofs.Reports
import QueryGateway.Proofs.SharedLimit
import QueryGateway.Proofs.StopSignal
import QueryGateway.Proofs.StrictDecoding
import QueryGateway.Proofs.SubmissionForms
import QueryGateway.Proofs.SubmissionStatus
import QueryGateway.Proofs.Submissions
import QueryGateway.Proofs.TextPaths
import QueryGateway.Proofs.TimeoutLabels
import QueryGateway.Proofs.TraceAgreement
import QueryGateway.Proofs.Trimming
import QueryGateway.Proofs.VerdictSources
import QueryGateway.Proofs.Verdicts
import QueryGateway.Proofs.Walk
import QueryGateway.Shell.Arithmetic
import QueryGateway.Shell.Builtin
import QueryGateway.Shell.Command
import QueryGateway.Shell.Condition
import QueryGateway.Shell.Eval
import QueryGateway.Shell.Expansion
import QueryGateway.Shell.Format
import QueryGateway.Shell.Grammar
import QueryGateway.Shell.Host
import QueryGateway.Shell.Launch
import QueryGateway.Shell.Machine
import QueryGateway.Shell.Octets
import QueryGateway.Shell.Pattern
import QueryGateway.Shell.Process
import QueryGateway.Shell.Token
import QueryGateway.Shell.Tools
import QueryGateway.Text.Blank
import QueryGateway.Text.Fields
import QueryGateway.Text.Natural
import QueryGateway.Text.Utf8
import QueryGateway.Proofs.DrainedChannels
import QueryGateway.Proofs.Json.Integers
import QueryGateway.Proofs.Json.Places
import QueryGateway.Proofs.TraceIntegers
