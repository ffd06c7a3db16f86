import LiveTelemetry.Text.Fields
import LiveTelemetry.Text.Hex
/-!
Sets of characters, written as ranges of hexadecimal numbers: `41-5a 5f` holds the capital letters
and the underscore.
-/
namespace LiveTelemetry.Text

/-- The number that hexadecimal digits spell. -/
def hexNumber (s : List Char) : Nat :=
  s.foldl (fun n c => n * 16 + ((hexValue? c).map Fin.val).getD 0) 0

/-- First and last member. -/
abbrev Range := Nat × Nat

def Range.ofText (s : List Char) : Range :=
  match cut (· == '-') s with
  | (first, some last) => (hexNumber first, hexNumber last)
  | (first, none) => (hexNumber first, hexNumber first)

def ranges (s : String) : List Range := (words s).map Range.ofText

def inRanges (rs : List Range) (c : Char) : Bool :=
  rs.any fun r => r.1 ≤ c.toNat && c.toNat ≤ r.2

end LiveTelemetry.Text
