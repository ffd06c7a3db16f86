import LiveTelemetry.Buffer.Backlog
/-!
The buffer with the two parties it serves: those who record items, and the one who takes batches
out. Recording goes on until the buffer is dropped; what is queued by then can still be taken.
-/
namespace LiveTelemetry

open Telemetry (Item Batch Stamp)

/-- A buffer's backlog, gone once the buffer is dropped, and its outbox. -/
structure Buffer where
  backlog : Option Backlog
  outbox : Outbox

namespace Buffer

/-- Standard bound on queued batches. -/
def standardOutbox : Nat := 16

def make (capacity : Nat) (source : String) (outboxCapacity : Nat) :
    Except Outbox.Misfit Buffer :=
  (Outbox.make outboxCapacity).map fun o => ⟨some (Backlog.make capacity source), o⟩

def record (b : Buffer) (i : Item) : Except Refusal Buffer :=
  match b.backlog with
  | some l => .ok { b with backlog := some (l.record i) }
  | none => .error .closed

/-- Makes a batch of all that waits; `none` if the buffer was dropped. -/
def prepare (b : Buffer) (stamp : Stamp) (endpoint : Option String) :
    Option (Except Refusal Unit) × Buffer × List Notice :=
  match b.backlog with
  | some l =>
    let (outcome, l, o, notices) := l.prepare b.outbox stamp endpoint
    (some outcome, ⟨some l, o⟩, notices)
  | none => (none, b, [])

def receive (b : Buffer) : Except Outbox.Lack (Batch × Buffer) :=
  (b.outbox.take).map fun (batch, o) => (batch, { b with outbox := o })

def closeOutbox (b : Buffer) : Buffer := { b with outbox := b.outbox.abandon }

def drop (b : Buffer) : Buffer := ⟨none, b.outbox.finish⟩

end Buffer

end LiveTelemetry
