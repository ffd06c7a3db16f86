import LiveTelemetry.Override
import LiveTelemetry.Settings
import LiveTelemetry.Text.Quoted
/-!
What the agent tells its log, and the line each notice makes there.
-/
namespace LiveTelemetry

inductive Level where
  | debug
  | info
  | warn
  | error
  deriving DecidableEq

/-- A line of the log: a message and named texts. -/
structure LogLine where
  level : Level
  message : String
  fields : List (String × String)
  deriving DecidableEq

inductive Notice where
  | override (change : Override.Change)
  | malformedDirective (fault : Directive.Fault)
  | started (intervals : Intervals)
  | stopped (pings posts failures : Nat)
  | pingFailed (error : String) (endpoint : Option String) (retryIn : Nat)
  | serviceActive (target : Option String)
  | serviceIdle (wait : Nat)
  | prepareFailed (error : String) (endpoint : Option String)
  | sendFailed (error : String) (endpoint : Option String)
  | sendingEnded
  | overflow (dropped capacity : Nat)
  | prepared (size : Nat) (endpoint : Option String)
  | pinging (url : String)
  | posting (url : String) (size : Nat)
  | postFailed (error : String) (dropped : Nat)

namespace Notice

open Text (quoteOption)

def line : Notice → LogLine
  | override (.redirected e v) =>
    ⟨.info, "Endpoint redirected",
      ("endpoint", e) :: (v.map fun ms => ("valid_for_ms", toString ms)).toList⟩
  | override (.renewed e) => ⟨.debug, "Endpoint redirect renewed", [("endpoint", e)]⟩
  | override (.ended e) =>
    ⟨.info, "Endpoint redirect expired, reverting to default", [("endpoint", e)]⟩
  | malformedDirective f =>
    ⟨.warn, "Malformed directive in response, treating as idle", [("error", f.message)]⟩
  | started i =>
    ⟨.info, "Live metrics coordinator started",
      [("ping_interval_ms", toString i.ping), ("post_interval_ms", toString i.post),
        ("error_interval_ms", toString i.error)]⟩
  | stopped pings posts failures =>
    ⟨.info, "Live metrics coordinator stopped",
      [("mode", "stopped"), ("pings", toString pings), ("posts", toString posts),
        ("failures", toString failures)]⟩
  | pingFailed e endpoint retry =>
    ⟨.warn, "Ping failed",
      [("error", e), ("endpoint", quoteOption endpoint), ("retry_in_ms", toString retry)]⟩
  | serviceActive target =>
    ⟨.info, "Service is active, starting to send", [("endpoint", quoteOption target)]⟩
  | serviceIdle wait => ⟨.debug, "Service is idle", [("wait_ms", toString wait)]⟩
  | prepareFailed e endpoint =>
    ⟨.warn, "Failed to prepare telemetry", [("error", e), ("endpoint", quoteOption endpoint)]⟩
  | sendFailed e endpoint =>
    ⟨.warn, "Failed to send telemetry", [("error", e), ("endpoint", quoteOption endpoint)]⟩
  | sendingEnded => ⟨.info, "Service is idle, returning to ping", []⟩
  | overflow dropped capacity =>
    ⟨.warn, "Buffer overflow: dropped oldest telemetry",
      [("drop_count", toString dropped), ("max_capacity", toString capacity)]⟩
  | prepared size endpoint =>
    ⟨.debug, "Prepared telemetry batch",
      [("batch_size", toString size), ("endpoint", quoteOption endpoint)]⟩
  | pinging url => ⟨.debug, "Sending ping", [("url", url)]⟩
  | posting url size =>
    ⟨.debug, "Posting telemetry batch", [("url", url), ("batch_size", toString size)]⟩
  | postFailed e dropped =>
    ⟨.warn, "Failed to post telemetry batch",
      [("error", e), ("dropped_batches", toString dropped)]⟩

end Notice

/-- The directive in the headers of an answer; unreadable headers are idle, with a warning. -/
def Directive.ofHeaders (hs : Http.Headers) : Directive × List Notice :=
  match Directive.read hs with
  | .ok d => (d, [])
  | .error f => (Directive.idle, [.malformedDirective f])

end LiveTelemetry
