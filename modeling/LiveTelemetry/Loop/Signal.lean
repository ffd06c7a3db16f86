import LiveTelemetry.Loop.Basic
/-!
How the word to stop reaches a loop that waits, step by step. Whoever tells the loop sets a flag,
and the first to set it wakes the loop; the loop waits for that and for its timer. The steps of all
parties may mix in any order, and any time may pass between them.
-/
namespace LiveTelemetry.Loop

/-- How far a wait has come. -/
inductive Wait where
  /-- Nobody has waited yet. -/
  | idle
  /-- It has yet to look at the flag. -/
  | begun
  /-- It found the flag not set, and has yet to listen. -/
  | cleared
  /-- It listens for its timer, which is due at a time, and for being woken. Either may have
  come. -/
  | listening (due : Nat) (expired woken : Bool)
  /-- It took its timer for the end, and has yet to look at the flag again. -/
  | ranOut
  /-- It is over, and may have lasted its whole time. -/
  | ended (full : Bool)
  deriving DecidableEq

namespace Wait

def isUnderWay : Wait → Bool
  | idle | ended _ => false
  | _ => true

/-- Whether it is under way and has found the flag not set. -/
def isCleared : Wait → Bool
  | idle | begun | ended _ => false
  | _ => true

end Wait

structure Signal where
  told : Bool
  /-- The first to set the flag has yet to wake the loop. -/
  waking : Bool
  /-- A wake-up is kept for the next wait that listens. -/
  kept : Bool
  /-- How many are done telling the loop. -/
  tellers : Nat
  clock : Nat
  /-- When the last wait began. -/
  since : Nat
  /-- How long the last wait is to last. -/
  span : Nat
  wait : Wait
  deriving DecidableEq

/-- Steps of those who tell the loop, of the loop as it waits, and of the clock. -/
inductive Move where
  | pass (ms : Nat)
  /-- Somebody sets the flag, or finds it set. -/
  | set
  /-- The first to set the flag wakes the loop. -/
  | wake
  /-- A wait begins. -/
  | enter (span : Nat)
  | look
  | listen
  /-- The timer comes. -/
  | expire
  /-- The wait takes its timer for the end. -/
  | runOut
  | lookAgain
  /-- The wait ends by being woken. -/
  | heed
  deriving DecidableEq

/-- Whether it is a step that goes on with a wait, or with telling the loop, and waits for nothing
itself. -/
def Move.isPrompt : Move → Bool
  | pass _ | set | enter _ | expire => false
  | _ => true

namespace Signal

/-- Nobody has told the loop, and it has not waited. -/
def fresh : Signal := ⟨false, false, false, 0, 0, 0, 0, .idle⟩

/-- Sets the flag. Who finds it set is done; who does not has yet to wake the loop. -/
def set (s : Signal) : Signal :=
  if s.told then { s with tellers := s.tellers + 1 } else { s with told := true, waking := true }

/-- Wakes a wait that listens and is not woken yet. Without one the wake-up is kept. -/
def wake (s : Signal) : Signal :=
  let s := { s with waking := false, tellers := s.tellers + 1 }
  match s.wait with
  | .listening due expired false => { s with wait := .listening due expired true }
  | _ => { s with kept := true }

/-- Listens for the timer, which lasts no longer than `longestWait`, and takes a wake-up that was
kept. -/
def listen (s : Signal) : Signal :=
  { s with
    kept := false
    wait := .listening (s.clock + min s.span longestWait) false s.kept }

/-- What a move leads to, if it can be made. A wake-up that a wait does not heed is kept. -/
def step (s : Signal) : Move → Option Signal
  | .pass ms => some { s with clock := s.clock + ms }
  | .set => some s.set
  | .wake => if s.waking then some s.wake else none
  | .enter span =>
    if s.wait.isUnderWay then none
    else some { s with since := s.clock, span := span, wait := .begun }
  | .look =>
    match s.wait with
    | .begun => some { s with wait := if s.told then .ended false else .cleared }
    | _ => none
  | .listen =>
    match s.wait with
    | .cleared => some s.listen
    | _ => none
  | .expire =>
    match s.wait with
    | .listening due false woken =>
      if due ≤ s.clock then some { s with wait := .listening due true woken } else none
    | _ => none
  | .runOut =>
    match s.wait with
    | .listening _ true woken => some { s with kept := s.kept || woken, wait := .ranOut }
    | _ => none
  | .lookAgain =>
    match s.wait with
    | .ranOut => some { s with wait := .ended (!s.told) }
    | _ => none
  | .heed =>
    match s.wait with
    | .listening _ _ true => some { s with wait := .ended false }
    | _ => none

/-- Where some moves lead, if they can be made. -/
def run : List Move → Signal → Option Signal
  | [], s => some s
  | m :: ms, s => (s.step m).bind (run ms)

/-- Whether the wait listens and is held up by nothing but its timer. -/
def needsTimer (s : Signal) : Bool :=
  match s.wait with
  | .listening _ false false => true
  | _ => false

end Signal

end LiveTelemetry.Loop
