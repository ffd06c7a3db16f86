import LiveTelemetry.Notice
/-!
The agent's loop: its modes, its counters, the parties it calls, and the history it leaves. Time is
a count of milliseconds that passes only in calls and waits.
-/
namespace LiveTelemetry

/-- What the loop is about. -/
inductive Mode where
  | pinging
  | sending
  | stopped
  deriving DecidableEq

def Mode.text : Mode → String
  | pinging => "pinging"
  | sending => "sending"
  | stopped => "stopped"

/-- What a run has come to so far. -/
structure CycleTally where
  pings : Nat
  posts : Nat
  failures : Nat
  activations : Nat
  deactivations : Nat
  redirects : Nat
  deriving DecidableEq

def CycleTally.zero : CycleTally := ⟨0, 0, 0, 0, 0, 0⟩

namespace Loop

/-- Calls on the loop's partners. -/
inductive Call where
  | ping (endpoint : Option String)
  | prepare (endpoint : Option String)
  | send
  | directive
  deriving DecidableEq

inductive Event where
  | call (c : Call)
  /-- Somebody tells the loop to stop. -/
  | stop
  | notice (n : Notice)

structure Entry where
  time : Nat
  event : Event

/-- How a call went. -/
structure Reply (α : Type) where
  latency : Nat
  /-- Whether the loop is told to stop while the call is under way. -/
  stops : Bool
  outcome : Except String α
  notices : List Notice

/-- The parties that a loop calls, at a time that they are told. Their common state is of type
`σ`. -/
structure Partners (σ : Type) where
  /-- Asks the service what it wants. -/
  ping : Nat → Option String → σ → Reply Directive × σ
  /-- Makes a batch of what was recorded. -/
  prepare : Nat → Option String → σ → Reply Unit × σ
  /-- Sends what is prepared. -/
  send : Nat → σ → Reply Unit × σ
  /-- What the service wanted when something was last sent. -/
  directive : σ → Directive

/-- A loop at work, with all it has done so far. -/
structure State (σ : Type) where
  mode : Mode
  override : Option Override
  tally : CycleTally
  clock : Nat
  /-- Whether the loop has been told to stop. -/
  told : Bool
  /-- When the loop will be told to stop from outside. -/
  stopAt : Option Nat
  partners : σ
  /-- What happened, the latest first. -/
  past : List Entry

/-- Thirty years of 365 days: whatever waits for longer goes on by then. -/
def longestWait : Nat := 946080000000

namespace State

/-- A loop that has not run. -/
def fresh (clock : Nat) (told : Bool) (stopAt : Option Nat) (partners : σ) : State σ :=
  ⟨.pinging, none, CycleTally.zero, clock, told, stopAt, partners, []⟩

/-- A loop that will be told to stop from outside, by somebody who waits so long first. -/
def toldAfter (s : State σ) (wait : Nat) : State σ :=
  { s with stopAt := some (s.clock + min wait longestWait) }

/-- What happened, in order. -/
def history (s : State σ) : List Entry := s.past.reverse

def mark (s : State σ) (e : Event) : State σ := { s with past := ⟨s.clock, e⟩ :: s.past }

def note (s : State σ) (n : Notice) : State σ := s.mark (.notice n)

/-- Tells the loop to stop. -/
def tell (s : State σ) : State σ := { s with told := true }.mark .stop

/-- The stop from outside comes. -/
def tellAt (s : State σ) (t : Nat) : State σ := { s with clock := t, stopAt := none }.tell

/-- Lets time pass up to `t`, and on its way the stop from outside. -/
def pass (s : State σ) (t : Nat) : State σ :=
  match s.stopAt with
  | some due => if due ≤ t then { s.tellAt due with clock := t } else { s with clock := t }
  | none => { s with clock := t }

/-- Waits, unless told to stop; a stop from outside ends the wait when it comes. -/
def sleep (s : State σ) (wait : Nat) : State σ :=
  if s.told then s
  else
    let wakes := s.clock + min wait longestWait
    match s.stopAt with
    | some due => if due ≤ wakes then s.tellAt due else { s with clock := wakes }
    | none => { s with clock := wakes }

/-- Makes a call that gets the reply `r` and leaves the partners as given. -/
def ask (s : State σ) (c : Call) (r : Reply α) (partners : σ) : State σ :=
  let s := s.mark (.call c)
  let s := if r.stops then s.tell else s
  r.notices.foldl note { s.pass (s.clock + r.latency) with partners := partners }

/-- The endpoint to use, if not the configured one. -/
def endpoint (s : State σ) : Option String × State σ :=
  let (held, change) := Override.current s.override s.clock
  (held.map Override.endpoint,
    change.toList.foldl (fun s c => s.note (.override c)) { s with override := held })

/-- Takes up the redirect of a directive, if it has one. -/
def receive (s : State σ) (d : Directive) : State σ :=
  let (held, change) := Override.apply s.override d s.clock
  match change with
  | some c =>
    { s with
      override := held
      tally := { s.tally with redirects := s.tally.redirects + 1 } }.note (.override c)
  | none => { s with override := held }

def countPing (s : State σ) : State σ :=
  { s with tally := { s.tally with pings := s.tally.pings + 1 } }

def countPost (s : State σ) : State σ :=
  { s with tally := { s.tally with posts := s.tally.posts + 1 } }

def countFailure (s : State σ) : State σ :=
  { s with tally := { s.tally with failures := s.tally.failures + 1 } }

/-- Turns to sending. -/
def activate (s : State σ) : State σ :=
  { s with mode := .sending, tally := { s.tally with activations := s.tally.activations + 1 } }

/-- Turns back to pinging. -/
def deactivate (s : State σ) : State σ :=
  { s with mode := .pinging, tally := { s.tally with deactivations := s.tally.deactivations + 1 } }

end State

end Loop

end LiveTelemetry
