import LiveTelemetry.Buffer.Outbox
import LiveTelemetry.Http.Body
import LiveTelemetry.Http.Exchange
import LiveTelemetry.Notice
import LiveTelemetry.Telemetry.Printer
/-!
The agent's side of its exchanges with the service: pings, and posts of the batches that wait in
the outbox. The directive in the answer to a post is kept.
-/
namespace LiveTelemetry

open Telemetry (Batch)

/-- Pings and batches the service took, the items of those batches, requests that failed, and
batches given up after one. -/
structure UplinkTally where
  pings : Nat
  batches : Nat
  items : Nat
  failures : Nat
  dropped : Nat
  deriving DecidableEq

def UplinkTally.zero : UplinkTally := ⟨0, 0, 0, 0, 0⟩

structure Uplink where
  endpoint : String
  instanceName : String
  /-- How long an answer may take. -/
  timeout : Nat
  /-- What the service wanted when it last took a batch. -/
  observed : Directive
  tally : UplinkTally

namespace Uplink

/-- Why the service did not take a request. -/
inductive Error where
  | request (cause : Http.Failure)
  | refused (status : Http.Status) (body : String)
  | timeout
  | setup (detail : String)

def Error.message : Error → String
  | request cause => "HTTP request failed: " ++ cause.message
  | refused status body => "Server error (" ++ status.text ++ "): " ++ body
  | timeout => "Request timed out"
  | setup detail => "Client configuration error: " ++ detail

def Error.ofFailure : Http.Failure → Error
  | .late => .timeout
  | cause => .request cause

/-- An uplink that has sent nothing. -/
def make (endpoint instanceName : String) (timeout : Nat) : Uplink :=
  ⟨Text.trimSlashes endpoint, instanceName, timeout, Directive.idle, UplinkTally.zero⟩

def ofSettings (s : Settings) : Uplink := make s.endpoint s.instanceName s.requestTimeout

/-- Version that pings report. -/
def version : String := "0.1.0"

def pingPath : String := "/live/v1/ping"

def postPath : String := "/live/v1/post"

/-- The place of a resource at `endpoint`, or at the uplink's own endpoint. -/
def target (u : Uplink) (endpoint : Option String) (path : String) : String :=
  Text.trimSlashes (endpoint.getD u.endpoint) ++ path

/-- What a ping says. -/
def pingBody (u : Uplink) (time : Instant) : List Char :=
  Json.printObject [("instance", Json.printString u.instanceName),
    ("version", Json.printString version), ("timestamp", Telemetry.quoted time.print)]

/-- What an answer that is no success says. -/
def complaint (a : Http.Answer) : String := a.text?.getD "Unknown error"

/-- The directive in an answer, if the service took the request. -/
def judge : Except Http.Failure Http.Answer → Except Error (Directive × List Notice)
  | .error e => .error (.ofFailure e)
  | .ok a =>
    if a.status.isSuccess then .ok (Directive.ofHeaders a.headers)
    else .error (.refused a.status (complaint a))

/-- What came of an errand: its outcome, how long it took and what it told the log, and how the
uplink and what is beyond the link are left. -/
structure Errand (α σ : Type) where
  outcome : Except Error α
  latency : Nat
  notices : List Notice
  uplink : Uplink
  beyond : σ

/-- Counts a failure and the batches it costs. -/
def countFailure (u : Uplink) (dropped : Nat) : Uplink :=
  { u with tally := { u.tally with
      failures := u.tally.failures + 1
      dropped := u.tally.dropped + dropped } }

def countPing (u : Uplink) : Uplink :=
  { u with tally := { u.tally with pings := u.tally.pings + 1 } }

/-- Counts a batch that the service took, and keeps the directive it answered with. -/
def countBatch (u : Uplink) (size : Nat) (d : Directive) : Uplink :=
  { u with
    observed := d
    tally := { u.tally with
      batches := u.tally.batches + 1
      items := u.tally.items + size } }

/-- Asks the service what it wants. -/
def ping (u : Uplink) (l : Http.Link σ) (time : Instant) (endpoint : Option String) (s : σ) :
    Errand Directive σ :=
  let url := u.target endpoint pingPath
  let x := l.post u.timeout url (u.pingBody time) s
  match judge x.outcome with
  | .ok (d, notices) => ⟨.ok d, x.latency, .pinging url :: notices, u.countPing, x.beyond⟩
  | .error e => ⟨.error e, x.latency, [.pinging url], u.countFailure 0, x.beyond⟩

/-- Posts batches in their order. The first that fails is given up with all that follow it. -/
def postAll (l : Http.Link σ) : List Batch → Uplink → σ → Errand Unit σ
  | [], u, s => ⟨.ok (), 0, [], u, s⟩
  | b :: rest, u, s =>
    let url := u.target b.endpoint postPath
    let x := l.post u.timeout url b.print s
    match judge x.outcome with
    | .ok (d, notices) =>
      let more := postAll l rest (u.countBatch b.size d) x.beyond
      { more with
        latency := x.latency + more.latency
        notices := .posting url b.size :: notices ++ more.notices }
    | .error e =>
      let dropped := rest.length + 1
      ⟨.error e, x.latency, [.posting url b.size, .postFailed e.message dropped],
        u.countFailure dropped, x.beyond⟩

/-- Posts all that waits in the outbox, which is left empty. -/
def send (u : Uplink) (l : Http.Link σ) (o : Outbox) (s : σ) : Errand Unit σ × Outbox :=
  let (batches, o) := o.takeAll
  (postAll l batches u s, o)

end Uplink

end LiveTelemetry
