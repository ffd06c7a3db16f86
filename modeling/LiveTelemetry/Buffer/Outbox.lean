import LiveTelemetry.Fifo
import LiveTelemetry.Telemetry.Item
/-!
The queue of batches between the buffer, which fills it, and the uplink, which empties it. It is
bounded, and either end may leave.
-/
namespace LiveTelemetry

open Telemetry (Item Batch)

/-- Why the buffer turns something down. -/
inductive Refusal where
  | full
  | closed
  deriving DecidableEq

def Refusal.message : Refusal → String
  | full => "Buffer outbox is full"
  | closed => "Buffer has been closed"

structure Outbox where
  capacity : Nat
  queued : Fifo Batch
  /-- Whether somebody still takes batches out. -/
  drained : Bool
  /-- Whether somebody still puts batches in. -/
  filled : Bool

namespace Outbox

/-- The most batches an outbox can be made for. -/
def maxCapacity : Nat := 2305843009213693951

/-- Why there can be no outbox of a capacity. -/
inductive Misfit where
  /-- There would be no room for a batch. -/
  | noRoom
  /-- There would be room for more than can be counted. -/
  | tooLarge
  deriving DecidableEq

def Misfit.message : Misfit → String
  | noRoom => "mpsc bounded channel requires buffer > 0"
  | tooLarge =>
    "a semaphore may not have more than MAX_PERMITS permits (" ++ toString maxCapacity ++ ")"

/-- An outbox with nothing in it. -/
def make (capacity : Nat) : Except Misfit Outbox :=
  if capacity = 0 then .error .noRoom
  else if maxCapacity < capacity then .error .tooLarge
  else .ok ⟨capacity, Fifo.empty, true, true⟩

/-- Puts a batch in, if there is room and neither end has left. -/
def push (o : Outbox) (b : Batch) : Except Refusal Outbox :=
  if ¬ o.drained ∨ ¬ o.filled then .error .closed
  else if o.capacity ≤ o.queued.size then .error .full
  else .ok { o with queued := o.queued.push b }

/-- Why there is no batch to take out. -/
inductive Lack where
  | empty
  | disconnected
  deriving DecidableEq

/-- Takes the oldest batch out. -/
def take (o : Outbox) : Except Lack (Batch × Outbox) :=
  match o.queued.pop? with
  | some (b, rest) => .ok (b, { o with queued := rest })
  | none => .error (if o.filled then .empty else .disconnected)

/-- Takes all batches out. -/
def takeAll (o : Outbox) : List Batch × Outbox := (o.queued.toList, { o with queued := Fifo.empty })

/-- Nobody takes batches out any more; those queued are lost. -/
def abandon (o : Outbox) : Outbox := { o with queued := Fifo.empty, drained := false }

/-- Nobody puts batches in any more; those queued may still be taken out. -/
def finish (o : Outbox) : Outbox := { o with filled := false }

end Outbox

end LiveTelemetry
