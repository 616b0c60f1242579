import Intake.Browser
import Intake.Calendar
import Intake.Channel
import Intake.Configuration
import Intake.Consumer
import Intake.Conversion
import Intake.Counters
import Intake.Delivery
import Intake.Error
import Intake.Header
import Intake.Identifier
import Intake.Instant
import Intake.Instant.Reading
import Intake.Interchange
import Intake.Json.Acceptance
import Intake.Json.Codec
import Intake.Json.Cursor
import Intake.Json.Document
import Intake.Json.Fault
import Intake.Json.Number
import Intake.Json.Text
import Intake.Lifecycle
import Intake.Number.Decimal
import Intake.Number.Double
import Intake.Number.Nearest
import Intake.Number.Reading
import Intake.Proofs.Browser.Budget
import Intake.Proofs.Browser.Collection
import Intake.Proofs.Browser.Completion
import Intake.Proofs.Browser.Departure
import Intake.Proofs.Browser.Footprint
import Intake.Proofs.Browser.Latch
import Intake.Proofs.Browser.Pursuit
import Intake.Proofs.Browser.Requests
import Intake.Proofs.Browser.Scan
import Intake.Proofs.Browser.Seclusion
import Intake.Proofs.Calendar
import Intake.Proofs.Channel.Atomicity
import Intake.Proofs.Channel.Callbacks
import Intake.Proofs.Channel.Contents
import Intake.Proofs.Channel.Leftovers
import Intake.Proofs.Channel.Notices
import Intake.Proofs.Channel.Snapshots
import Intake.Proofs.Channel.Tags
import Intake.Proofs.Consumer.Ending
import Intake.Proofs.Consumer.Life
import Intake.Proofs.Conversion.Acceptance
import Intake.Proofs.Conversion.JsonBody
import Intake.Proofs.Header.Shadowing
import Intake.Proofs.Header.View
import Intake.Proofs.Identifier
import Intake.Proofs.Instant.Reading
import Intake.Proofs.Interchange
import Intake.Proofs.Json.Composites
import Intake.Proofs.Json.Grammar
import Intake.Proofs.Json.Restoring
import Intake.Proofs.Json.Scanning
import Intake.Proofs.Json.Skipping
import Intake.Proofs.Number.Digits
import Intake.Proofs.Number.Numerals
import Intake.Proofs.Receiver.Acknowledgement
import Intake.Proofs.Receiver.Buffer
import Intake.Proofs.Receiver.Cancellation
import Intake.Proofs.Receiver.Confirmation
import Intake.Proofs.Receiver.Conservation
import Intake.Proofs.Receiver.Creation
import Intake.Proofs.Receiver.Filling
import Intake.Proofs.Receiver.Line
import Intake.Proofs.Receiver.Mailbox
import Intake.Proofs.Receiver.Reception
import Intake.Proofs.Receiver.Settlement
import Intake.Proofs.Receiver.Subscription
import Intake.Proofs.Receiver.Timeout
import Intake.Proofs.Session.Calls
import Intake.Proofs.Session.Commands
import Intake.Proofs.Session.Lines
import Intake.Proofs.Session.Lives
import Intake.Proofs.Session.Masks
import Intake.Proofs.Session.Observations
import Intake.Proofs.Session.Omission
import Intake.Proofs.Session.Outline
import Intake.Proofs.Session.Registrations
import Intake.Proofs.Session.Run
import Intake.Proofs.Session.Scheduling
import Intake.Proofs.Session.Table
import Intake.Proofs.Session.Tasks
import Intake.Proofs.Session.Workload
import Intake.Proofs.Settings.Layers
import Intake.Proofs.Settings.Loading
import Intake.Proofs.Settings.Tables
import Intake.Proofs.Text.Encoding
import Intake.Receiver
import Intake.Selector
import Intake.Session
import Intake.Session.Schedule
import Intake.Session.Step
import Intake.Settings.Environment
import Intake.Settings.File
import Intake.Settings.Load
import Intake.Settings.Path
import Intake.Settings.Toml.Document
import Intake.Settings.Toml.Scalar
import Intake.Settings.Value
import Intake.Settings.Yaml.Document
import Intake.Settings.Yaml.Lexer
import Intake.Settings.Yaml.Node
import Intake.Settings.Yaml.Scalar
import Intake.Settings.Yaml.Tag
import Intake.Settings.Yaml.Token
import Intake.Task
import Intake.Text.Blank
import Intake.Text.Bytes
import Intake.Text.Lossy
import Intake.Text.Quoted
