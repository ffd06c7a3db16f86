import LiveTelemetry.Loop.Run
/-!
Loops whose partners reply as planned beforehand, whatever they are asked.
-/
namespace LiveTelemetry.Loop

/-- A reply that is planned: how long it waits and what it says. -/
structure Planned (α : Type) where
  wait : Nat
  outcome : Except String α

/-- When a reply comes. -/
def Planned.latency (r : Planned α) : Nat := min r.wait longestWait

/-- Planned replies, the next one first, and the one for all calls after them. -/
structure Script (α : Type) where
  replies : List (Planned α)
  after : Planned α

namespace Script

def next (s : Script α) : Planned α × Script α :=
  match s.replies with
  | r :: rest => (r, { s with replies := rest })
  | [] => (s.after, s)

/-- Always the same at once. -/
def always (a : α) : Script α := ⟨[], ⟨0, .ok a⟩⟩

end Script

/-- Which calls are counted to tell when to stop. -/
inductive Trigger where
  | ping
  | prepare
  | send
  deriving DecidableEq

/-- Partners that follow scripts. A send that succeeds may leave a directive. -/
structure Cast where
  ping : Script Directive
  prepare : Script Unit
  send : Script (Option Directive)
  observed : Directive
  /-- The call that has the loop stopped, and how many calls of its kind there are up to it. -/
  stopOn : Option (Trigger × Nat)

namespace Cast

/-- Counts a call, and tells whether it is the one that has the loop stopped. -/
def count (c : Cast) (t : Trigger) : Bool × Cast :=
  match c.stopOn with
  | some (u, n + 1) => if t = u then (n = 0, { c with stopOn := some (u, n) }) else (false, c)
  | _ => (false, c)

def play (r : Planned α) (stops : Bool) : Reply α := ⟨r.latency, stops, r.outcome, []⟩

def partners : Partners Cast where
  ping _ _ c :=
    let (stops, c) := c.count .ping
    let (r, script) := c.ping.next
    (play r stops, { c with ping := script })
  prepare _ _ c :=
    let (stops, c) := c.count .prepare
    let (r, script) := c.prepare.next
    (play r stops, { c with prepare := script })
  send _ c :=
    let (stops, c) := c.count .send
    let (r, script) := c.send.next
    let observed :=
      match r.outcome with
      | .ok (some d) => d
      | _ => c.observed
    (⟨r.latency, stops, r.outcome.map fun _ => (), []⟩,
      { c with send := script, observed := observed })
  directive c := c.observed

end Cast

namespace State

/-- Waits for the stop from outside if it has not come yet. -/
def outlast (s : State σ) : State σ :=
  match s.stopAt with
  | some due => s.tellAt due
  | none => s

/-- Another run of a loop, from where the last one ended, with a history of its own. -/
def again (s : State σ) : State σ := fresh s.clock s.told s.stopAt s.partners

end State

end LiveTelemetry.Loop
