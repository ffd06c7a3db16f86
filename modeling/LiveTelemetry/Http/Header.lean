import LiveTelemetry.Text.Blank
/-!
Header fields of HTTP answers. Names are kept in lower case, values as bytes.
-/
namespace LiveTelemetry.Http

structure Header where
  name : String
  value : List UInt8

abbrev Headers := List Header

namespace Header

/-- Characters of a header's name. -/
def isNameChar (c : Char) : Bool :=
  (c.toNat < 0x80 && c.isAlphanum) || "!#$%&'*+-.^_\x60|~".toList.contains c

/-- Bytes of a header's value: no controls but the tab. -/
def isValueByte (b : UInt8) : Bool := b == 9 || (0x20 ≤ b && b != 0x7F)

def isPadding (b : UInt8) : Bool := b == 32 || b == 9

/-- A value without the padding at its ends. -/
def trimPadding (s : List UInt8) : List UInt8 :=
  Text.dropTrailing isPadding (s.dropWhile isPadding)

/-- Longest name. -/
def maxName : Nat := 65535

/-- A header, if its name and value may be sent. -/
def make? (name value : List UInt8) : Option Header :=
  let letters := name.map fun b => Char.ofNat b.toNat
  if ¬ name.isEmpty ∧ name.length ≤ maxName ∧ letters.all isNameChar ∧ value.all isValueByte then
    some ⟨String.ofList (letters.map Char.toLower), value⟩
  else none

end Header

namespace Headers

/-- The first value under a name. -/
def get? (hs : Headers) (name : String) : Option (List UInt8) :=
  (hs.find? (·.name == name)).map (·.value)

/-- A value as text, if it is printable ASCII throughout. -/
def asText? (value : List UInt8) : Option String :=
  if value.all (fun b => b == 9 || (0x20 ≤ b && b < 0x7F)) then
    some (String.ofList (value.map fun b => Char.ofNat b.toNat))
  else none

end Headers

end LiveTelemetry.Http
