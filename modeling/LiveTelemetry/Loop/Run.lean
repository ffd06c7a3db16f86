import LiveTelemetry.Loop.Basic
/-!
How the loop goes round. A cycle pings, or prepares and sends; then the loop waits, or goes on at
once if its mode has changed. Only a stop ends it.
-/
namespace LiveTelemetry.Loop

namespace State

/-- Pings, and says how long to wait, if at all. -/
def pingCycle (p : Partners σ) (i : Intervals) (s : State σ) : State σ × Option Nat :=
  let (endpoint, s) := s.endpoint
  let (reply, partners) := p.ping s.clock endpoint s.partners
  let s := s.ask (.ping endpoint) reply partners
  match reply.outcome with
  | .error e => (s.countFailure.note (.pingFailed e endpoint i.error), some i.error)
  | .ok d =>
    let s := s.countPing.receive d
    if d.isActive then
      let (target, s) := s.endpoint
      ((s.note (.serviceActive target)).activate, none)
    else
      let wait := d.hint.getD i.ping
      (s.note (.serviceIdle wait), some wait)

/-- Looks at what the service wanted when something was last sent. -/
def observe (p : Partners σ) (i : Intervals) (s : State σ) : State σ × Option Nat :=
  let d := p.directive s.partners
  let s := (s.countPost.mark (.call .directive)).receive d
  if d.isActive then (s, some i.post) else ((s.note .sendingEnded).deactivate, none)

/-- Sends what is prepared. -/
def sendCycle (p : Partners σ) (i : Intervals) (endpoint : Option String) (s : State σ) :
    State σ × Option Nat :=
  let (reply, partners) := p.send s.clock s.partners
  let s := s.ask .send reply partners
  match reply.outcome with
  | .error e => (s.countFailure.note (.sendFailed e endpoint), some i.error)
  | .ok () => s.observe p i

/-- Prepares, sends, and says how long to wait, if at all. -/
def postCycle (p : Partners σ) (i : Intervals) (s : State σ) : State σ × Option Nat :=
  let (endpoint, s) := s.endpoint
  let (reply, partners) := p.prepare s.clock endpoint s.partners
  let s := s.ask (.prepare endpoint) reply partners
  match reply.outcome with
  | .error e => (s.countFailure.note (.prepareFailed e endpoint), some i.error)
  | .ok () => s.sendCycle p i endpoint

def cycle (p : Partners σ) (i : Intervals) (s : State σ) : State σ × Option Nat :=
  match s.mode with
  | .pinging => s.pingCycle p i
  | .sending => s.postCycle p i
  | .stopped => (s, none)

/-- A cycle and the wait after it. -/
def turn (p : Partners σ) (i : Intervals) (s : State σ) : State σ :=
  match s.cycle p i with
  | (s, some wait) => s.sleep wait
  | (s, none) => s

/-- The start of a run. -/
def start (i : Intervals) (s : State σ) : State σ := s.note (.started i)

/-- The end of a run. -/
def finish (s : State σ) : State σ :=
  { s with mode := .stopped }.note (.stopped s.tally.pings s.tally.posts s.tally.failures)

/-- Goes round until told to stop; `none` if that takes more than so many turns. -/
def goRound (p : Partners σ) (i : Intervals) : Nat → State σ → Option (State σ)
  | 0, s => if s.told then some s.finish else none
  | turns + 1, s => if s.told then some s.finish else goRound p i turns (s.turn p i)

/-- A whole run. -/
def run (p : Partners σ) (i : Intervals) (turns : Nat) (s : State σ) : Option (State σ) :=
  goRound p i turns (s.start i)

end State

end LiveTelemetry.Loop
