import DeviceFleet.Bus.Basic
import DeviceFleet.Bus.Merge
import DeviceFleet.Bus.Run
import DeviceFleet.Cli.Arguments
import DeviceFleet.Cli.Run
import DeviceFleet.Error
import DeviceFleet.Fleet.Basic
import DeviceFleet.Fleet.Moves
import DeviceFleet.Fleet.Run
import DeviceFleet.Fleet.Server
import DeviceFleet.Instant.Basic
import DeviceFleet.Instant.Calendar
import DeviceFleet.Instant.Text
import DeviceFleet.Json.Basic
import DeviceFleet.Json.Double
import DeviceFleet.Json.Number
import DeviceFleet.Json.Parser
import DeviceFleet.Json.Printer
import DeviceFleet.Main
import DeviceFleet.Message.Checkin
import DeviceFleet.Message.Command
import DeviceFleet.Message.Connect
import DeviceFleet.Message.Event
import DeviceFleet.Message.Topic
import DeviceFleet.Named
import DeviceFleet.Proofs.Bus.Changes
import DeviceFleet.Proofs.Bus.Kept
import DeviceFleet.Proofs.Bus.Line
import DeviceFleet.Proofs.Bus.Merged
import DeviceFleet.Proofs.Bus.Order
import DeviceFleet.Proofs.Bus.Reader
import DeviceFleet.Proofs.Bus.Sound
import DeviceFleet.Proofs.Bus.Subscribe
import DeviceFleet.Proofs.Fleet.Ingestion
import DeviceFleet.Proofs.Fleet.Moves
import DeviceFleet.Proofs.Fleet.Readers
import DeviceFleet.Proofs.Fleet.Start
import DeviceFleet.Proofs.Instant.Calendar
import DeviceFleet.Proofs.Instant.Text
import DeviceFleet.Proofs.Json.Numerals
import DeviceFleet.Proofs.Json.RoundTrip
import DeviceFleet.Proofs.Json.Sizes
import DeviceFleet.Proofs.Json.Sorted
import DeviceFleet.Proofs.Json.Strings
import DeviceFleet.Proofs.Message.Checkin
import DeviceFleet.Proofs.Message.Command
import DeviceFleet.Proofs.Queue.Fifo
import DeviceFleet.Proofs.Queue.History
import DeviceFleet.Proofs.Queue.Outstanding
import DeviceFleet.Proofs.Queue.Record
import DeviceFleet.Proofs.Runs
import DeviceFleet.Proofs.Schema.Json
import DeviceFleet.Proofs.Schema.Octets
import DeviceFleet.Proofs.Service.Enrolment
import DeviceFleet.Proofs.Text.Base64
import DeviceFleet.Queue.Basic
import DeviceFleet.Queue.Exchange
import DeviceFleet.Schema.Basic
import DeviceFleet.Schema.Codec
import DeviceFleet.Schema.Record
import DeviceFleet.Schema.Variant
import DeviceFleet.Schema.Words
import DeviceFleet.Service.Audit
import DeviceFleet.Service.Delivery
import DeviceFleet.Service.Enrolment
import DeviceFleet.Service.Push
import DeviceFleet.Settings.Basic
import DeviceFleet.Settings.Environment
import DeviceFleet.Settings.File
import DeviceFleet.Store.Basic
import DeviceFleet.Store.File
import DeviceFleet.Store.Records
import DeviceFleet.Store.Table
import DeviceFleet.Text.Base64
import DeviceFleet.Text.Blank
import DeviceFleet.Text.Hex
import DeviceFleet.Text.Numeral
import DeviceFleet.Text.Octets
import DeviceFleet.Text.Printing
import DeviceFleet.Text.Quoted
import DeviceFleet.Toml.Basic
import DeviceFleet.Toml.Document
import DeviceFleet.Toml.Lexical
import DeviceFleet.Toml.Number
import DeviceFleet.Warning
import DeviceFleet.Proofs.Queue.Completion
import DeviceFleet.Proofs.Bus.Requests
import DeviceFleet.Proofs.Bus.Tally
import DeviceFleet.Proofs.Bus.Accounting
import DeviceFleet.Proofs.Message.CommandEvent
import DeviceFleet.Proofs.Bus.Collects
import DeviceFleet.Proofs.Fleet.Orders
import DeviceFleet.Proofs.Queue.Refusals
import DeviceFleet.Proofs.Queue.Stale
import DeviceFleet.Proofs.Service.Separation
import DeviceFleet.Proofs.Message.Connect
import DeviceFleet.Proofs.Fleet.Connect
import DeviceFleet.Proofs.Message.Envelopes
import DeviceFleet.Proofs.Service.DeviceHistory
import DeviceFleet.Proofs.Text.Order
import DeviceFleet.Proofs.Store.Serials
import DeviceFleet.Proofs.Store.SharedSerials
import DeviceFleet.Proofs.Service.Credentials
import DeviceFleet.Proofs.Fleet.Notices
import DeviceFleet.Proofs.Fleet.Recovery
import DeviceFleet.Proofs.Message.ResponseBody
import DeviceFleet.Proofs.Fleet.Bodies
import DeviceFleet.Proofs.Bus.Alone
import DeviceFleet.Proofs.Bus.Isolation
import DeviceFleet.Proofs.Service.Keepers
import DeviceFleet.Proofs.Service.Replay
import DeviceFleet.Proofs.Fleet.Attends
import DeviceFleet.Proofs.Fleet.Intake
import DeviceFleet.Proofs.Message.CheckinBody
import DeviceFleet.Proofs.Message.Cuts
import DeviceFleet.Proofs.Fleet.Wakes
import DeviceFleet.Proofs.Fleet.Audits
import DeviceFleet.Proofs.Service.Waking
import DeviceFleet.Proofs.Fleet.Starting
import DeviceFleet.Proofs.Bus.Limit
import DeviceFleet.Proofs.Bus.Pruning
import DeviceFleet.Proofs.Settings.Environment
