import LiveTelemetry.Buffer.Outbox
import LiveTelemetry.Notice
/-!
Items recorded since a batch was last made of them. A backlog that is full gives up its oldest
item for a new one.
-/
namespace LiveTelemetry

open Telemetry (Item Batch Stamp)

/-- Items recorded, items put in batches, items given up, and batches made, since the start. -/
structure BufferTally where
  received : Nat
  prepared : Nat
  dropped : Nat
  batches : Nat
  deriving DecidableEq

namespace BufferTally

def zero : BufferTally := ⟨0, 0, 0, 0⟩

end BufferTally

/-- How many items wait at most, and whose they are. -/
structure Backlog where
  capacity : Nat
  source : String
  waiting : Fifo Item
  /-- Items given up since a batch was last made. -/
  evicted : Nat
  tally : BufferTally

namespace Backlog

/-- Standard bound on waiting items. -/
def standardCapacity : Nat := 10000

/-- There is always room for one item. -/
def limit (b : Backlog) : Nat := max b.capacity 1

def make (capacity : Nat) (source : String) : Backlog :=
  ⟨capacity, source, Fifo.empty, 0, BufferTally.zero⟩

/-- Gives up the oldest item. -/
def evict (b : Backlog) : Backlog :=
  { b with
    waiting := b.waiting.tail
    evicted := b.evicted + 1
    tally := { b.tally with dropped := b.tally.dropped + 1 } }

def add (b : Backlog) (i : Item) : Backlog :=
  { b with
    waiting := b.waiting.push i
    tally := { b.tally with received := b.tally.received + 1 } }

/-- Records an item, at the cost of the oldest one if there is no room. -/
def record (b : Backlog) (i : Item) : Backlog :=
  if b.limit ≤ b.waiting.size then b.evict.add i else b.add i

/-- All that waits, and what is left when it is taken. Items given up are reported here, once. -/
def drain (b : Backlog) : List Item × Backlog × List Notice :=
  let report := if b.evicted = 0 then [] else [Notice.overflow b.evicted b.limit]
  (b.waiting.toList, { b with waiting := Fifo.empty, evicted := 0 }, report)

/-- Counts a batch that was handed over. -/
def count (b : Backlog) (size : Nat) : Backlog :=
  { b with tally := { b.tally with
      prepared := b.tally.prepared + size
      batches := b.tally.batches + 1 } }

/-- Makes a batch of all that waits and hands it over, also when nothing waits. If the outbox turns
it down, its items are gone. -/
def prepare (b : Backlog) (o : Outbox) (stamp : Stamp) (endpoint : Option String) :
    Except Refusal Unit × Backlog × Outbox × List Notice :=
  let (items, b, report) := b.drain
  let batch : Batch := ⟨stamp, b.source, items, endpoint⟩
  match o.push batch with
  | .ok o => (.ok (), b.count batch.size, o, report ++ [.prepared batch.size endpoint])
  | .error e => (.error e, b, o, report)

end Backlog

end LiveTelemetry
