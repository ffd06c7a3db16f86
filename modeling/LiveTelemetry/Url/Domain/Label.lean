import LiveTelemetry.Text.Canonical
import LiveTelemetry.Text.Direction
import LiveTelemetry.Text.Joining
import LiveTelemetry.Text.Mark
import LiveTelemetry.Url.Domain.Mapping
/-!
What the labels of a domain name may hold.
-/
namespace LiveTelemetry.Url.Domain

open Text (Joining Direction isMark)

/-- Class of the marks that take a vowel away. -/
def viramaClass : Nat := 9

def followsVirama (before : List Char) : Bool :=
  before.head?.any fun c => Text.Canonical.classOf c == viramaClass

/-- Whether the nearest letter, past all marks, joins as wanted. -/
def joins (wanted : Joining) (s : List Char) : Bool :=
  match (s.map Joining.ofChar).find? (· ≠ .transparent) with
  | some j => j == wanted || j == .dual
  | none => false

/-- The character that keeps letters apart stands after a virama, or between letters that would
join. The one that joins letters stands after a virama. `before` is read backwards. -/
def joinersFit (before : List Char) : List Char → Bool
  | [] => true
  | c :: rest =>
    (if c = '\u200C' then
      followsVirama before || (joins .left before && joins .right rest)
    else if c = '\u200D' then followsVirama before
    else true) && joinersFit (c :: before) rest

/-- A label is in normal form, begins with no mark, and holds only what a domain may hold. -/
def isLabel (s : List Char) : Bool :=
  Text.Canonical.normalize s == s && ¬ s.head?.any isMark &&
    s.all (fun c => isAllowed c && c != '.') && joinersFit [] s

/-- The directions in a label without the marks at its end. -/
def lastDirection (ds : List Direction) : Option Direction := ds.reverse.find? (· ≠ .mark)

def isLeftLabel (ds : List Direction) : Bool :=
  ds.all (fun d => d == .left || d == .europeanNumber || d == .mark || d == .neutral) &&
    (lastDirection ds).any fun d => d == .left || d == .europeanNumber

def isRightLabel (ds : List Direction) : Bool :=
  ds.all (fun d => d != .left && d != .separator) &&
    (lastDirection ds).any (fun d => d == .right || d == .europeanNumber || d == .arabicNumber) &&
    ¬ (ds.contains .europeanNumber && ds.contains .arabicNumber)

/-- Whether a label reads the same way wherever it stands in a line. -/
def isOneWay (s : List Char) : Bool :=
  let ds := s.map Direction.ofChar
  match ds with
  | [] => true
  | .left :: _ => isLeftLabel ds
  | .right :: _ => isRightLabel ds
  | _ => false

/-- Whether a label holds anything that is written from right to left. -/
def goesLeft (s : List Char) : Bool :=
  s.any fun c => Direction.ofChar c == .right || Direction.ofChar c == .arabicNumber

end LiveTelemetry.Url.Domain
