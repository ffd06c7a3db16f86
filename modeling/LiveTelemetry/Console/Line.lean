import LiveTelemetry.Buffer.Backlog
import LiveTelemetry.Console.Filter
import LiveTelemetry.Loop.Basic
import LiveTelemetry.Time.Rfc3339
import LiveTelemetry.Uplink.Basic
/-!
The lines that the program writes as it runs.
-/
namespace LiveTelemetry.Console

/-- Parts of the program. -/
inductive Source where
  | program
  | loop
  | override
  | directive
  | buffer
  | uplink
  deriving DecidableEq

def Source.target : Source → String
  | program => "live_metrics_agent"
  | loop => "live_metrics_agent::coordinator"
  | override => "live_metrics_agent::redirect"
  | directive => "live_metrics_agent::directive"
  | buffer => "live_metrics_agent::buffer"
  | uplink => "live_metrics_agent::client"

/-- The part of the program that a notice comes from. -/
def Source.ofNotice : Notice → Source
  | .override _ => .override
  | .malformedDirective _ => .directive
  | .overflow .. | .prepared .. => .buffer
  | .pinging _ | .posting .. | .postFailed .. => .uplink
  | .started _ | .stopped .. | .pingFailed .. | .serviceActive _ | .serviceIdle _
  | .prepareFailed .. | .sendFailed .. | .sendingEnded => .loop

/-- What the program says about its own run. -/
inductive Remark where
  | starting
  | loaded (s : Settings)
  | refused (p : Settings.Problem)
  | connected (endpoint : String)
  | running
  | interrupted
  | finished (t : CycleTally)
  /-- The loop has not ended in the seconds it was given. -/
  | overdue (seconds : Nat)
  | closed (uplink : UplinkTally) (buffer : BufferTally)

def Remark.line : Remark → LogLine
  | starting => ⟨.info, "Starting live metrics agent...", []⟩
  | loaded s =>
    ⟨.info, "Configuration loaded",
      [("endpoint", s.endpoint), ("instance", s.instanceName),
        ("ping_interval_ms", toString s.intervals.ping),
        ("post_interval_ms", toString s.intervals.post),
        ("error_interval_ms", toString s.intervals.error)]⟩
  | refused p => ⟨.error, "Failed to load configuration", [("error", p.message)]⟩
  | connected endpoint => ⟨.info, "HTTP client initialized", [("endpoint", endpoint)]⟩
  | running => ⟨.info, "Live metrics agent running. Press Ctrl+C to stop.", []⟩
  | interrupted => ⟨.info, "Shutdown signal received, stopping...", []⟩
  | finished t =>
    ⟨.info, "Coordinator shut down gracefully",
      [("pings", toString t.pings), ("posts", toString t.posts),
        ("failures", toString t.failures), ("activations", toString t.activations)]⟩
  | overdue seconds =>
    ⟨.warn, "Coordinator shutdown timed out after " ++ toString seconds ++ "s", []⟩
  | closed u b =>
    ⟨.info, "Live metrics agent stopped",
      [("batches_sent", toString u.batches), ("items_sent", toString u.items),
        ("failed_requests", toString u.failures), ("items_dropped", toString b.dropped)]⟩

/-- A line and where it comes from. -/
structure Line where
  source : Source
  content : LogLine

def Line.ofNotice (n : Notice) : Line := ⟨.ofNotice n, n.line⟩

def Line.ofRemark (r : Remark) : Line := ⟨.program, r.line⟩

def levelWord : Level → String
  | .debug => "DEBUG"
  | .info => "INFO"
  | .warn => "WARN"
  | .error => "ERROR"

/-- A line without its time: level, source, message, and the named texts. -/
def Line.text (l : Line) : String :=
  String.intercalate " " (levelWord l.content.level :: (l.source.target ++ ":") ::
    l.content.message :: l.content.fields.map fun (name, value) => name ++ "=" ++ value)

/-- A line as it is written. The levels end in one column. -/
def Line.stamped (i : Instant) (l : Line) : String :=
  let padding := List.replicate (5 - (levelWord l.content.level).length) ' '
  String.ofList (i.printMicros ++ ' ' :: padding) ++ l.text

def Filter.showsLine (f : Filter) (l : Line) : Bool := f.shows l.source.target l.content.level

end LiveTelemetry.Console
