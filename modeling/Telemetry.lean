import Telemetry.Account
import Telemetry.Collector
import Telemetry.Delivery.Recording
import Telemetry.Json.Parse
import Telemetry.Options.Reader
import Telemetry.Session
import Telemetry.Shared
import Telemetry.Proofs.Buffer
import Telemetry.Proofs.History
import Telemetry.Proofs.Age
import Telemetry.Proofs.Eviction
import Telemetry.Proofs.Keyed
import Telemetry.Proofs.RecordKind
import Telemetry.Proofs.Flush
import Telemetry.Proofs.Run
import Telemetry.Proofs.Holding
import Telemetry.Proofs.Accounting
import Telemetry.Proofs.Settlement
import Telemetry.Proofs.Retention
import Telemetry.Proofs.Window
import Telemetry.Proofs.Clock
import Telemetry.Proofs.Identity
import Telemetry.Proofs.Guid
import Telemetry.Proofs.Writing
import Telemetry.Proofs.Stream
import Telemetry.Proofs.Trials
import Telemetry.Proofs.Opening
import Telemetry.Proofs.Bookkeeping
import Telemetry.Proofs.Offers
import Telemetry.Proofs.Binary
import Telemetry.Proofs.Json.Numbers
import Telemetry.Proofs.Json.Glyphs
import Telemetry.Proofs.Json.Figures
import Telemetry.Proofs.Json.Rules
import Telemetry.Proofs.Json.Script
import Telemetry.Proofs.Json.Values
import Telemetry.Proofs.Json.Continued
import Telemetry.Proofs.Json.Records
import Telemetry.Proofs.Json.Presented
import Telemetry.Proofs.Codec
import Telemetry.Proofs.Bodies
import Telemetry.Proofs.Payload
import Telemetry.Proofs.Canonical
import Telemetry.Proofs.Frame
import Telemetry.Proofs.Layout
import Telemetry.Proofs.Threads
import Telemetry.Proofs.Disable
import Telemetry.Proofs.Schedule
import Telemetry.Proofs.Named
import Telemetry.Proofs.Deferral
import Telemetry.Proofs.Closing
import Telemetry.Proofs.Calls
import Telemetry.Proofs.Handles
import Telemetry.Proofs.Conservation
import Telemetry.Proofs.SpanRecord
import Telemetry.Proofs.Parting
import Telemetry.Proofs.Shared
import Telemetry.Proofs.Workers
import Telemetry.Proofs.Replies
import Telemetry.Proofs.Answers
import Telemetry.Proofs.Seconds
import Telemetry.Proofs.Settings
import Telemetry.Proofs.Deadline
import Telemetry.Proofs.Configuration
