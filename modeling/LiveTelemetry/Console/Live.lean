import LiveTelemetry.Console.Session
import LiveTelemetry.Http.Relay
import LiveTelemetry.Telemetry.Seal
/-!
The loop of a program that fetches its answers as it goes. A cycle that lacks an answer tells which
request to fetch, and is begun again with all that was fetched for it.
-/
namespace LiveTelemetry.Console

abbrev Live := Loop.State (Agent (Http.Relay Host))

/-- The agent of a program whose answers are fetched. -/
def liveSetting (s : Telemetry.Seal) : Setting (Http.Relay Host) where
  link := Http.Relay.link
  backlog r := r.host.backlog
  keep b r := { r with host := { r.host with backlog := b } }
  elapse now r := { r with host := r.host.elapse (s.stamp · 0) now }
  stamp now n := s.stamp now (n + 1)
  stops _ _ := false

namespace Live

def start (s : Settings) : Live := (newLoop s (Http.Relay.mk [] none (newHost s))).start s.intervals

/-- Sets the clock, and lays out what was fetched. -/
def layOut (now : Nat) (fetched : List Http.Fetched) (s : Live) : Live :=
  let world := { s.partners.world with fetched := fetched, wanted := none }
  { s with clock := now, partners := { s.partners with world := world } }

/-- A cycle that begins at `now`, and the wait after it; or the request to fetch for it. -/
def attempt (w : Setting (Http.Relay Host)) (i : Intervals) (now : Nat)
    (fetched : List Http.Fetched) (s : Live) : Except Http.Request (Live × Option Nat) :=
  let (s, wait) := (s.layOut now fetched).cycle (Agent.partners w) i
  match s.partners.world.wanted with
  | some r => .error r
  | none => .ok (s, wait)

/-- The lines of what has happened. -/
def lines (s : Live) : List Line := (notices s).map Line.ofNotice

/-- The loop without the memory of what has happened. -/
def forget (s : Live) : Live := { s with past := [] }

def uplinkTally (s : Live) : UplinkTally := s.partners.uplink.tally

def bufferTally (s : Live) : BufferTally := s.partners.world.host.backlog.tally

end Live

end LiveTelemetry.Console
