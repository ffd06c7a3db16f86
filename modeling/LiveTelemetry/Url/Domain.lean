import LiveTelemetry.Text.Utf8
import LiveTelemetry.Url.Domain.Label
import LiveTelemetry.Url.Domain.Punycode
/-!
Domain names: labels with dots between them, in lower case. A label with letters beyond ASCII is
sent in ASCII, with a mark in front.
-/
namespace LiveTelemetry.Url.Domain

/-- Characters no domain may hold. -/
def isForbidden (c : Char) : Bool :=
  c.toNat ≤ 0x20 || c.toNat == 0x7F || "#/:<>?@[\\]^|%".toList.contains c

def isAscii (s : List Char) : Bool := s.all fun c => c.toNat < 0x80

/-- What stands before a label that is written in ASCII. -/
def mark : List Char := ['x', 'n', '-', '-']

def isMarked (s : List Char) : Bool := mark.isPrefixOf s

/-- The letters of a label; those of a label with a mark are the ones it is written for. -/
def letters? (label : List Char) : Option (List Char) :=
  if isMarked label then do
    let s ← Punycode.decode? (label.drop mark.length)
    if isAscii label ∧ ¬ isAscii s ∧ isLabel s ∧ ¬ isMarked s then some s else none
  else if isLabel label then some label
  else none

/-- A label as it is sent. -/
def send (label : List Char) : List Char :=
  if isAscii label then label else mark ++ Punycode.encode label

def join : List (List Char) → List Char
  | [] => []
  | [s] => s
  | s :: t :: rest => s ++ '.' :: join (t :: rest)

/-- A name with letters beyond ASCII, or with marked labels. -/
def ofLetters? (s : List Char) : Option (List Char) := do
  let mapped := Text.Canonical.normalize (s.flatMap mapChar)
  let labels ← (Text.fields (· == '.') mapped).mapM letters?
  if labels.any goesLeft ∧ ¬ labels.all isOneWay then none
  else some (join (labels.map send))

/-- A domain name in the form that is sent. -/
def ofText? (s : List Char) : Option (List Char) := do
  let lower := s.map Char.toLower
  let name ←
    if isAscii lower ∧ ¬ (Text.fields (· == '.') lower).any isMarked then some lower
    else ofLetters? s
  if name.any isForbidden then none else some name

end LiveTelemetry.Url.Domain
