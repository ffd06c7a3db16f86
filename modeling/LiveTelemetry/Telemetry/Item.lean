import LiveTelemetry.Json.Value
import LiveTelemetry.Time.Instant
import LiveTelemetry.Uuid
/-!
What the host application records, and the batches it is sent in.
-/
namespace LiveTelemetry

namespace Telemetry

inductive Kind where
  | metric
  | request
  | dependency
  | exception
  | event
  | trace
  deriving DecidableEq

namespace Kind

def name : Kind → String
  | metric => "metric"
  | request => "request"
  | dependency => "dependency"
  | exception => "exception"
  | event => "event"
  | trace => "trace"

def all : List Kind := [metric, request, dependency, exception, event, trace]

def ofName? (s : String) : Option Kind := all.find? (·.name == s)

@[simp] theorem ofName?_name (k : Kind) : ofName? k.name = some k := by
  cases k <;> decide

end Kind

/-- Who an item or batch is, and when it was made. -/
structure Stamp where
  id : Uuid
  time : Instant
  deriving DecidableEq

/-- The stamp that tells nothing. -/
def Stamp.blank : Stamp := ⟨Uuid.nil, Instant.epoch⟩

structure Item where
  stamp : Stamp
  kind : Kind
  name : String
  value : Option Float
  properties : Option Members

namespace Item

def make (stamp : Stamp) (kind : Kind) (name : String) : Item := ⟨stamp, kind, name, none, none⟩

def withValue (i : Item) (value : Float) : Item := { i with value := some value }

/-- Sets one property; the first one makes the map. -/
def withProperty (i : Item) (name : String) (value : Json) : Item :=
  { i with properties := some ((i.properties.getD []).insert name value) }

/-- A sample of a metric. -/
def metric (stamp : Stamp) (name : String) (value : Float) : Item :=
  (make stamp .metric name).withValue value

end Item

/-- Items sent together; the endpoint says where to, and is not part of what is sent. -/
structure Batch where
  stamp : Stamp
  source : String
  items : List Item
  endpoint : Option String

namespace Batch

def size (b : Batch) : Nat := b.items.length

def isEmpty (b : Batch) : Bool := b.items.isEmpty

end Batch

end Telemetry

end LiveTelemetry
