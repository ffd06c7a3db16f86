import LiveTelemetry.Text.Hex
import LiveTelemetry.Text.Printable
/-!
Text between quotation marks, with a backslash before what would not show.
-/
namespace LiveTelemetry.Text

namespace Quoted

def escape (c : Char) : List Char :=
  if c = '\x00' then ['\\', '0']
  else if c = '\t' then ['\\', 't']
  else if c = '\r' then ['\\', 'r']
  else if c = '\n' then ['\\', 'n']
  else if c = '\\' then ['\\', '\\']
  else if c = '"' then ['\\', '"']
  else if isPrintable c then [c]
  else ['\\', 'u', '{'] ++ hexNat c.toNat ++ ['}']

def encode (s : List Char) : List Char := '"' :: s.flatMap escape ++ ['"']

end Quoted

/-- The text in quotation marks. -/
def quote (s : String) : String := String.ofList (Quoted.encode s.toList)

/-- An optional text, as it stands in a log line. -/
def quoteOption : Option String → String
  | none => "None"
  | some s => "Some(" ++ quote s ++ ")"

end LiveTelemetry.Text
