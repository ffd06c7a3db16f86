import LiveTelemetry.Json.Printer
import LiveTelemetry.Telemetry.Item
import LiveTelemetry.Time.Rfc3339
/-!
Items and batches as JSON text. An item's value and properties are left out when there are none.
-/
namespace LiveTelemetry.Telemetry

open Json (printString printObject printList printReal)

def quoted (s : List Char) : List Char := '"' :: s ++ ['"']

namespace Item

/-- The members of an item, printed. -/
def members (i : Item) : List (String × List Char) :=
  [("id", quoted i.stamp.id.print), ("timestamp", quoted i.stamp.time.print),
    ("kind", printString i.kind.name), ("name", printString i.name)] ++
  (i.value.map fun v => ("value", printReal v)).toList ++
  (i.properties.map fun ms => ("properties", (Json.obj ms).print)).toList

def print (i : Item) : List Char := printObject i.members

end Item

namespace Batch

def members (b : Batch) : List (String × List Char) :=
  [("batch_id", quoted b.stamp.id.print), ("created_at", quoted b.stamp.time.print),
    ("source", printString b.source), ("items", printList (b.items.map Item.print))]

def print (b : Batch) : List Char := printObject b.members

end Batch

end LiveTelemetry.Telemetry
