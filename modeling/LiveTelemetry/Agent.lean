import LiveTelemetry.Buffer.Basic
import LiveTelemetry.Http.Site
import LiveTelemetry.Loop.Run
import LiveTelemetry.Uplink.Basic
/-!
The whole agent: a loop that pings and sends through an uplink, and prepares out of a backlog.
Backlog and uplink are joined by an outbox.
-/
namespace LiveTelemetry

open Telemetry (Item Stamp)

/-- What the loop works with. What is beyond the link, and the host with the backlog, have the
state `world`. -/
structure Agent (σ : Type) where
  uplink : Uplink
  outbox : Outbox
  /-- Stamps given out. -/
  stamps : Nat
  world : σ

/-- Where an agent works. -/
structure Setting (σ : Type) where
  /-- How its requests travel. -/
  link : Http.Link σ
  /-- The backlog on its host. -/
  backlog : σ → Backlog
  keep : Backlog → σ → σ
  /-- What the host does up to a time. -/
  elapse : Nat → σ → σ
  /-- The stamp that is given out at a time, by its number. -/
  stamp : Nat → Nat → Stamp
  /-- Whether the agent was told to stop as the world went from one state to another. -/
  stops : σ → σ → Bool

namespace Agent

/-- The reply that an errand gives the loop. -/
def reply (w : Setting σ) (a : Agent σ) (e : Uplink.Errand α σ) : Loop.Reply α :=
  ⟨e.latency, w.stops a.world e.beyond, e.outcome.mapError Uplink.Error.message, e.notices⟩

def elapse (w : Setting σ) (now : Nat) (a : Agent σ) : Agent σ :=
  { a with world := w.elapse now a.world }

def ping (w : Setting σ) (now : Nat) (endpoint : Option String) (a : Agent σ) :
    Loop.Reply Directive × Agent σ :=
  let e := a.uplink.ping w.link (w.stamp now a.stamps).time endpoint a.world
  (a.reply w e, { a with uplink := e.uplink, stamps := a.stamps + 1, world := e.beyond })

def prepare (w : Setting σ) (now : Nat) (endpoint : Option String) (a : Agent σ) :
    Loop.Reply Unit × Agent σ :=
  let (outcome, b, o, notices) :=
    (w.backlog a.world).prepare a.outbox (w.stamp now a.stamps) endpoint
  (⟨0, false, outcome.mapError Refusal.message, notices⟩,
    { a with outbox := o, stamps := a.stamps + 1, world := w.keep b a.world })

def send (w : Setting σ) (a : Agent σ) : Loop.Reply Unit × Agent σ :=
  let (e, o) := a.uplink.send w.link a.outbox a.world
  (a.reply w e, { a with uplink := e.uplink, outbox := o, world := e.beyond })

/-- The agent as the partners of its loop. -/
def partners (w : Setting σ) : Loop.Partners (Agent σ) where
  ping now endpoint a := (a.elapse w now).ping w now endpoint
  prepare now endpoint a := (a.elapse w now).prepare w now endpoint
  send now a := (a.elapse w now).send w
  directive a := a.uplink.observed

/-- What becomes of a backlog as items are recorded. -/
def recordAll (items : List Item) (b : Backlog) : Backlog := items.foldl Backlog.record b

/-- An agent whose service treats requests as planned, stopped while request `stopOn` is under
way. -/
def atSite (stamp : Nat → Nat → Stamp) (stopOn : Option Nat) : Setting (Http.Site Backlog) where
  link := Http.Site.link
  backlog s := s.host
  keep b s := { s with host := b }
  elapse _ s := s
  stamp := stamp
  stops s t := stopOn.any fun n => s.count < n ∧ n ≤ t.count

end Agent

end LiveTelemetry
