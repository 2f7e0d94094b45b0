import NetUnits.Text.Alphanumeric
import NetUnits.Text.Class
import NetUnits.Text.Trim
import NetUnits.Text.Lines
import NetUnits.Text.Numeral
import NetUnits.Text.Position
import NetUnits.Text.Escape
import NetUnits.Text.Quoted
import NetUnits.Text.Utf8
import NetUnits.Dict
import NetUnits.Fault
import NetUnits.UnitFile.Section
import NetUnits.UnitFile.Line
import NetUnits.UnitFile.Error
import NetUnits.UnitFile.Parser
import NetUnits.UnitFile.Printer
import NetUnits.Kind
import NetUnits.Number.Double
import NetUnits.Number.Decimal
import NetUnits.Json.Basic
import NetUnits.Json.Number
import NetUnits.Json.Parser
import NetUnits.Json.Printer
import NetUnits.Document.Value
import NetUnits.Document.Basic
import NetUnits.Document.Json
import NetUnits.Schema.Basic
import NetUnits.Schema.Index
import NetUnits.Schema.Version
import NetUnits.Document.Conversion
import NetUnits.Document.Summary
import NetUnits.Json.Record
import NetUnits.Path
import NetUnits.Host.Entry
import NetUnits.Command.Result
import NetUnits.Shell.Quote
import NetUnits.Link.Listing
import NetUnits.Schema.Generation
import NetUnits.Service.Error
import NetUnits.Action.Request
import NetUnits.Action.Basic
import NetUnits.Machine.Files
import NetUnits.Machine.Basic
import NetUnits.Action.Files
import NetUnits.Host.Registry
import NetUnits.Schema.Store
import NetUnits.Toml.Basic
import NetUnits.Toml.Parser
import NetUnits.Settings.Basic
import NetUnits.Settings.Load
import NetUnits.Pattern.Basic
import NetUnits.Pattern.Parser
import NetUnits.Log.Line
import NetUnits.Log.Filter
import NetUnits.Log.Sink
import NetUnits.Command.Run
import NetUnits.Link.Gather
import NetUnits.Shell.Session
import NetUnits.Connector.Command
import NetUnits.Connector.Local
import NetUnits.Connector.Remote
import NetUnits.Connector.State
import NetUnits.Connector.Basic
import NetUnits.Connector.Pool
import NetUnits.Service.Basic
import NetUnits.Service.Files
import NetUnits.Service.System
import NetUnits.CommandLine.Grammar
import NetUnits.CommandLine.Parser
import NetUnits.CommandLine.Command
import NetUnits.CommandLine.Error
import NetUnits.CommandLine.Console
import NetUnits.CommandLine.Execution
import NetUnits.CommandLine.Program
import NetUnits.Log.Calendar
import NetUnits.Main
import NetUnits.Proofs.Except
import NetUnits.Proofs.Text.Lines
import NetUnits.Proofs.Text.Trim
import NetUnits.Proofs.UnitFile.Printer
import NetUnits.Proofs.UnitFile.RoundTrip
import NetUnits.Proofs.Dict
import NetUnits.Proofs.Text.Numeral
import NetUnits.Proofs.UnitFile.Section
import NetUnits.Proofs.Document.Reading
import NetUnits.Proofs.Document.Shape
import NetUnits.Proofs.Document.RoundTrip
import NetUnits.Proofs.Schema.Version
import NetUnits.Proofs.Schema.Resolution
import NetUnits.Proofs.Shell.Reading
import NetUnits.Proofs.Action.History
import NetUnits.Proofs.Action.Interleaving
import NetUnits.Proofs.Connector.Sending
import NetUnits.Proofs.Connector.Commands
import NetUnits.Proofs.Json.Scalar
import NetUnits.Proofs.Json.RoundTrip
import NetUnits.Proofs.Action.Outcome
import NetUnits.Proofs.Host.Entry
import NetUnits.Proofs.Host.Registry
import NetUnits.Proofs.Action.Protocol
import NetUnits.Proofs.Action.Orderly
import NetUnits.Proofs.Connector.State
import NetUnits.Proofs.Connector.Clients
import NetUnits.Proofs.Connector.Promises
import NetUnits.Proofs.Connector.GivingUp
import NetUnits.Proofs.Connector.Eviction
import NetUnits.Proofs.Connector.Order
import NetUnits.Proofs.Connector.Sharing
import NetUnits.Proofs.Connector.SingleFlight
import NetUnits.Proofs.Action.Course
import NetUnits.Proofs.Action.Passing
import NetUnits.Proofs.Action.Part
import NetUnits.Proofs.Action.Section
import NetUnits.Proofs.Action.Settled
import NetUnits.Proofs.Host.Change
import NetUnits.Proofs.Shell.Opening
import NetUnits.Proofs.Connector.Usage
import NetUnits.Proofs.Connector.Replacement
import NetUnits.Proofs.Connector.Lookup
import NetUnits.Proofs.Service.Task
import NetUnits.Proofs.Service.Generation
import NetUnits.Proofs.Service.Remembered
import NetUnits.Proofs.Service.Probe
import NetUnits.Proofs.Schema.Loading
import NetUnits.Proofs.Service.Report
import NetUnits.Proofs.Service.Progress
import NetUnits.Proofs.Service.Unknown
import NetUnits.Proofs.Service.Registration
import NetUnits.Proofs.Service.HostChanges
import NetUnits.Proofs.Service.Effect
import NetUnits.Proofs.Schema.Contents
import NetUnits.Proofs.Schema.Installed
import NetUnits.Proofs.Schema.Calls
import NetUnits.Proofs.Service.Loadable
import NetUnits.Proofs.Action.Undisturbed
import NetUnits.Proofs.Connector.Undisturbed
import NetUnits.Proofs.Connector.Storing
import NetUnits.Proofs.Service.Storing
import NetUnits.Proofs.Document.Json
import NetUnits.Proofs.Connector.Methods
import NetUnits.Proofs.Shell.Sockets
import NetUnits.Proofs.Service.Names
import NetUnits.Proofs.Service.Invalidation
import NetUnits.Proofs.Division
import NetUnits.Proofs.UnitFile.Joining
import NetUnits.Proofs.UnitFile.Concatenation
import NetUnits.Proofs.UnitFile.Grammar
import NetUnits.Proofs.Document.Grouping
import NetUnits.Proofs.Schema.Shape
import NetUnits.Proofs.Link.Gathering
import NetUnits.Proofs.Action.Failing
import NetUnits.Proofs.Service.Listing
import NetUnits.Proofs.Document.Summary
import NetUnits.Proofs.Shell.Arguments
import NetUnits.Proofs.Connector.Jobs
import NetUnits.Proofs.Connector.Returning
import NetUnits.Proofs.Connector.Entries
import NetUnits.Proofs.Json.Record
import NetUnits.Proofs.Link.Agreement
import NetUnits.Proofs.Shell.Quoting
import NetUnits.Proofs.Action.Within
import NetUnits.Proofs.Connector.Making
import NetUnits.Proofs.Service.Confinement
import NetUnits.Proofs.UnitFile.Grouping
import NetUnits.Proofs.Text.Escape
