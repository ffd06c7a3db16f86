import LiveTelemetry.Text.Fields
import LiveTelemetry.Text.Quoted
import LiveTelemetry.Json.Parser
import LiveTelemetry.Json.Skip
import LiveTelemetry.Json.Printer
import LiveTelemetry.Url.Ipv6
import LiveTelemetry.Url.Percent
import LiveTelemetry.Url.Parser
import LiveTelemetry.Settings
import LiveTelemetry.Http.Status
import LiveTelemetry.Override
import LiveTelemetry.Uuid
import LiveTelemetry.Time.Rfc3339
import LiveTelemetry.Telemetry.Printer
import LiveTelemetry.Telemetry.Parser
import LiveTelemetry.Notice
import LiveTelemetry.Buffer.Basic
import LiveTelemetry.Loop.Script
import LiveTelemetry.Loop.Signal
import LiveTelemetry.Http.Exchange
import LiveTelemetry.Http.Body
import LiveTelemetry.Uplink.Basic
import LiveTelemetry.Agent
import LiveTelemetry.Console.Session
import LiveTelemetry.Main
import LiveTelemetry.Proofs.Loop.Frame
import LiveTelemetry.Proofs.Loop.Watch
import LiveTelemetry.Proofs.Loop.Order
import LiveTelemetry.Proofs.Loop.Clock
import LiveTelemetry.Proofs.Loop.Stop
import LiveTelemetry.Proofs.Loop.Target
import LiveTelemetry.Proofs.Buffer.Window
import LiveTelemetry.Proofs.Loop.Pace
import LiveTelemetry.Proofs.Uplink.Session
import LiveTelemetry.Proofs.Uplink.Account
import LiveTelemetry.Proofs.Agent.Logged
import LiveTelemetry.Proofs.Agent.Contact
import LiveTelemetry.Proofs.Agent.Items
import LiveTelemetry.Proofs.Loop.Haste
import LiveTelemetry.Proofs.Loop.Ending
import LiveTelemetry.Proofs.Loop.Early
import LiveTelemetry.Proofs.Agent.Tallies
import LiveTelemetry.Proofs.Agent.Reach
import LiveTelemetry.Proofs.Buffer.Loss
import LiveTelemetry.Proofs.Buffer.Counts
import LiveTelemetry.Proofs.Buffer.Ends
import LiveTelemetry.Proofs.Loop.Abreast
import LiveTelemetry.Proofs.Loop.Wake
import LiveTelemetry.Proofs.Telemetry.Members
import LiveTelemetry.Proofs.Override.History
import LiveTelemetry.Proofs.Directive.Grammar
import LiveTelemetry.Proofs.Settings.Accepted
import LiveTelemetry.Proofs.Settings.Settled
import LiveTelemetry.Proofs.Http.Trail
import LiveTelemetry.Proofs.Http.Traced
import LiveTelemetry.Proofs.Uplink.Delivery
import LiveTelemetry.Proofs.Uplink.Resource
import LiveTelemetry.Proofs.Uplink.Observed
import LiveTelemetry.Proofs.Url.Path
import LiveTelemetry.Proofs.Url.Closing
import LiveTelemetry.Proofs.Url.Appended
import LiveTelemetry.Proofs.Url.Endpoint
