import LiveTelemetry.Agent
import LiveTelemetry.Console.Line
/-!
A run of the program from its settings to its last line. While it runs, the host records how long
it has been up, once a second.
-/
namespace LiveTelemetry.Console

open Telemetry (Item Stamp)

/-- The host of an agent: its backlog, and how often it has recorded that it is up. -/
structure Host where
  backlog : Backlog
  beats : Nat

namespace Host

/-- Milliseconds between two records. -/
def beatInterval : Nat := 1000

/-- The record of having been up for some seconds. -/
def beat (stamp : Stamp) (seconds : Nat) : Item :=
  (Item.metric stamp "agent.uptime_seconds" (Float.ofNat seconds)).withProperty "agent_version"
    (.str Uplink.version)

/-- Records what is due at `now`, the first time at the start. -/
def elapse (stamp : Nat → Stamp) (now : Nat) (h : Host) : Host :=
  let due := now / beatInterval + 1
  ⟨Agent.recordAll ((List.range' h.beats (due - h.beats)).map fun n =>
      beat (stamp (n * beatInterval)) n) h.backlog,
    max h.beats due⟩

end Host

/-- The agent of a program, with a backlog of its own, whose service treats requests as planned. -/
def setting (stamp : Nat → Nat → Stamp) (stopOn : Option Nat) : Setting (Http.Site Host) where
  link := Http.Site.link
  backlog s := s.host.backlog
  keep b s := { s with host := { s.host with backlog := b } }
  elapse now s := { s with host := s.host.elapse (stamp · 0) now }
  stamp now n := stamp now (n + 1)
  stops s t := stopOn.any fun n => s.count < n ∧ n ≤ t.count

/-- Batches that wait for the uplink at most. -/
def newOutbox : Outbox := ⟨Buffer.standardOutbox, Fifo.empty, true, true⟩

def newHost (s : Settings) : Host := ⟨Backlog.make s.bufferCapacity s.instanceName, 0⟩

/-- The loop of a program before its first turn. -/
def newLoop (s : Settings) (world : σ) : Loop.State (Agent σ) :=
  Loop.State.fresh 0 false none ⟨Uplink.ofSettings s, newOutbox, 0, world⟩

/-- How a program ends: the code it leaves and the lines it has written. -/
structure Ending where
  code : Nat
  lines : List Line

def notices (s : Loop.State σ) : List Notice :=
  s.history.filterMap fun e =>
    match e.event with
    | .notice n => some n
    | _ => none

/-- The lines of a program up to its loop. -/
def opening (s : Settings) : List Remark :=
  [.starting, .loaded s, .connected (Uplink.ofSettings s).endpoint, .running]

/-- The lines of a program after it is interrupted. -/
def closing (t : CycleTally) (u : UplinkTally) (b : BufferTally) : List Remark :=
  [.interrupted, .finished t, .closed u b]

/-- What a program does that is refused its settings. -/
def refusal (p : Settings.Problem) : Ending :=
  ⟨1, [Remark.starting, .refused p].map Line.ofRemark⟩

/-- The lines of a program whose loop has ended in `s`. -/
def ending (settings : Settings) (host : σ → Host) (s : Loop.State (Agent σ)) : Ending :=
  let closing := closing s.tally s.partners.uplink.tally (host s.partners.world).backlog.tally
  ⟨0, (opening settings).map Line.ofRemark ++ (notices s).map Line.ofNotice ++
    closing.map Line.ofRemark⟩

/-- A run in an environment, with the plans of its service; `none` if it has not ended after so many
turns. The requests are those that arrived. -/
def run (env : Environment) (plans : List (Http.Plan Host)) (stamp : Nat → Nat → Stamp)
    (stopOn : Option Nat) (turns : Nat) : Option (Ending × List Http.Request) :=
  match Settings.read env with
  | .error p => some (refusal p, [])
  | .ok s =>
    let loop := newLoop s (Http.Site.mk plans [] (newHost s))
    (loop.run (Agent.partners (setting stamp stopOn)) s.intervals turns).map fun last =>
      (ending s Http.Site.host last, last.partners.world.requests)

end LiveTelemetry.Console
