import LiveTelemetry.Http.Request
/-!
Links whose answers are fetched from outside. What was fetched is laid out beforehand; the first
request beyond it is the one to fetch next, and what comes after it does not count.
-/
namespace LiveTelemetry.Http

/-- What became of a request, and how long it took. -/
structure Fetched where
  delivery : Delivery
  latency : Nat

/-- What is laid out, and the request to fetch next; the agent's host is in state `host`. -/
structure Relay (η : Type) where
  fetched : List Fetched
  wanted : Option Request
  host : η

namespace Relay

def carry (r : Request) (s : Relay η) : Passage (Relay η) :=
  match s.wanted, s.fetched with
  | none, f :: rest => ⟨f.delivery, f.latency, { s with fetched := rest }⟩
  | none, [] => ⟨.lost, 0, { s with wanted := some r }⟩
  | some _, _ => ⟨.lost, 0, s⟩

def link : Link (Relay η) := ⟨carry⟩

end Relay

end LiveTelemetry.Http
