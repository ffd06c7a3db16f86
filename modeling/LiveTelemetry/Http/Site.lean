import LiveTelemetry.Http.Request
/-!
A service that does what is planned for each request that arrives, whatever it asks.
-/
namespace LiveTelemetry.Http

/-- How a request is treated. -/
inductive Conduct where
  | answers
  /-- The connection ends without an answer. -/
  | closes
  /-- What comes back is no HTTP. -/
  | babbles
  /-- Nothing comes back. -/
  | hangs
  /-- The connection ends before the body does. -/
  | truncates
  deriving DecidableEq

/-- What is planned for a request, and what happens on the agent's host meanwhile. -/
structure Plan (η : Type) where
  conduct : Conduct
  status : Status
  headers : Headers
  body : List UInt8
  meanwhile : η → η

/-- How a request is treated whose planned answer cannot be written in HTTP. -/
def Conduct.unwritten : Conduct → Conduct
  | answers | truncates => babbles
  | c => c

/-- Nothing is wanted. -/
def Plan.idle : Plan η :=
  ⟨.answers, ⟨200, by decide⟩, [⟨"x-live-metrics-subscribed", Text.Utf8.encode "false".toList⟩],
    [], id⟩

/-- A plan whose answer has this status code and these headers, the values of which come without
padding. -/
def Plan.make (conduct : Conduct) (code : Nat) (fields : List (List UInt8 × List UInt8))
    (body : List UInt8) (meanwhile : η → η) : Plan η :=
  let header (f : List UInt8 × List UInt8) := Header.make? f.1 (Header.trimPadding f.2)
  match Status.ofCode? code, fields.mapM header with
  | some status, some headers => ⟨conduct, status, headers, body, meanwhile⟩
  | _, _ => { (Plan.idle : Plan η) with conduct := conduct.unwritten, meanwhile := meanwhile }

def Plan.delivery (p : Plan η) : Delivery :=
  match p.conduct with
  | .answers => .answered ⟨p.status, p.headers, p.body, true⟩
  | .truncates => .answered ⟨p.status, p.headers, p.body, false⟩
  | .closes | .babbles => .lost
  | .hangs => .silent

/-- The service, with what it received, the latest first; the agent's host is in state `host`. -/
structure Site (η : Type) where
  plans : List (Plan η)
  received : List Request
  host : η

namespace Site

/-- Requests that have arrived. -/
def count (s : Site η) : Nat := s.received.length

/-- Requests that have arrived, in order. -/
def requests (s : Site η) : List Request := s.received.reverse

/-- A request arrives. -/
def accept (s : Site η) (r : Request) : Passage (Site η) :=
  match s.plans with
  | p :: rest => ⟨p.delivery, 0, ⟨rest, r :: s.received, p.meanwhile s.host⟩⟩
  | [] => ⟨(Plan.idle : Plan η).delivery, 0, { s with received := r :: s.received }⟩

/-- The link to the service. What is sent in secret does not arrive. -/
def link : Link (Site η) where
  carry r s := if r.url.isSecure then ⟨.lost, 0, s⟩ else s.accept r

end Site

end LiveTelemetry.Http
