import QueryConsole.Identifier
import QueryConsole.Json.Check
import QueryConsole.Json.Decode
import QueryConsole.Presentation
import QueryConsole.Session.Tab
import QueryConsole.Live.Slot
import QueryConsole.Session.Basic
import QueryConsole.Session.Run
import QueryConsole.Rehearsal.Script
import QueryConsole.Rehearsal.World
import QueryConsole.Rehearsal.Play
import QueryConsole.Rehearsal.Report
import QueryConsole.Rehearsal.Slot
import QueryConsole.Toml.Text
import QueryConsole.Toml.Value
import QueryConsole.Toml.Document
import QueryConsole.Config.Basic
import QueryConsole.Config.Decode
import QueryConsole.Config.Load
import QueryConsole.Http.Client
import QueryConsole.Http.MediaType
import QueryConsole.Http.Relay
import QueryConsole.Http.Site
import QueryConsole.Supervisor.Basic
import QueryConsole.Supervisor.Run
import QueryConsole.Http.Router
import QueryConsole.Http.Script
import QueryConsole.Supervisor.Machine
import QueryConsole.Supervisor.Trial
import QueryConsole.Server.Run
import QueryConsole.Server.Trial
import QueryConsole.Server.Address
import QueryConsole.Server.Program
import QueryConsole.Terminal.Command
import QueryConsole.Terminal.Program
import QueryConsole.Main
import QueryConsole.Proofs.Live.Invariant
import QueryConsole.Proofs.Live.Current
import QueryConsole.Proofs.Live.Polling
import QueryConsole.Proofs.Session.LiveView
import QueryConsole.Proofs.Session.LivePanel
import QueryConsole.Proofs.Session.Polling
import QueryConsole.Proofs.Text.Utf8
import QueryConsole.Proofs.Json.Members
import QueryConsole.Proofs.Except
import QueryConsole.Proofs.Reply.Database
import QueryConsole.Proofs.Reply.Fields
import QueryConsole.Proofs.Reply.Table
import QueryConsole.Proofs.Json.Readers
import QueryConsole.Proofs.Http.Relay
import QueryConsole.Proofs.Http.Fault
import QueryConsole.Proofs.Http.Readable
import QueryConsole.Proofs.Http.Forwarding
import QueryConsole.Proofs.Session.Selection
import QueryConsole.Proofs.Session.Calls
import QueryConsole.Proofs.Session.Failures
import QueryConsole.Proofs.Graph.Nodes
import QueryConsole.Proofs.Session.Panels
import QueryConsole.Proofs.Session.Sources
import QueryConsole.Proofs.Supervisor.Invariant
import QueryConsole.Proofs.Supervisor.Lifecycle
import QueryConsole.Proofs.Server.Shutdown
import QueryConsole.Proofs.Html.Sheet
import QueryConsole.Proofs.Table.Faithful
import QueryConsole.Proofs.Identifier
import QueryConsole.Proofs.Session.Traffic
import QueryConsole.Proofs.Rehearsal.Polls
import QueryConsole.Proofs.Session.Consent
import QueryConsole.Proofs.Rehearsal.Twins
import QueryConsole.Proofs.Rehearsal.Interference
import QueryConsole.Proofs.Session.TableList
import QueryConsole.Proofs.Reply.NormalForm
import QueryConsole.Proofs.Text.Blank
import QueryConsole.Proofs.Text.Lines
import QueryConsole.Proofs.Terminal.Calls
import QueryConsole.Proofs.Terminal.Script
import QueryConsole.Proofs.Live.Ticker
import QueryConsole.Proofs.Live.Schedule
import QueryConsole.Proofs.Graph.Listing
import QueryConsole.Proofs.Table.Columns
import QueryConsole.Proofs.Supervisor.Overtaken
import QueryConsole.Proofs.Supervisor.FailedStart
import QueryConsole.Proofs.Reply.Wording
import QueryConsole.Proofs.Toml.Order
import QueryConsole.Proofs.Config.Effective
import QueryConsole.Proofs.Text.Decoded
import QueryConsole.Proofs.Config.Load
import QueryConsole.Proofs.Supervisor.Output
import QueryConsole.Proofs.Graph.Targets
import QueryConsole.Proofs.Terminal.Grammar
