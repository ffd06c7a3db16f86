import LiveTelemetry.Http.Request
import LiveTelemetry.Text.Charset
/-!
The text of an answer's body.
-/
namespace LiveTelemetry.Http

open Text (fields cut)

/-- A value without its quotation marks. -/
def unquote (s : List Char) : List Char :=
  match s with
  | '"' :: rest => if rest.getLast? = some '"' then rest.dropLast else s
  | s => s

/-- The value of the parameter `name` in a header's value. -/
def parameter? (name : String) (s : String) : Option String :=
  ((fields (· == ';') s.toList).drop 1).findSome? fun piece =>
    match cut (· == '=') piece with
    | (key, some value) =>
      if Text.sameLetters (Text.trim (String.ofList key)) name then
        some (String.ofList (unquote (Text.trim (String.ofList value)).toList))
      else none
    | _ => none

namespace Answer

def charset? (a : Answer) : Option String := do
  parameter? "charset" (← Headers.asText? (← a.headers.get? "content-type"))

/-- Bytes of the body. An answer that nothing has changed since has none. -/
def content (a : Answer) : List UInt8 := if a.status.code = 304 then [] else a.body

/-- The body as text, if it came whole. -/
def text? (a : Answer) : Option String :=
  if a.whole then some (Text.Charset.read a.charset? a.content) else none

end Answer

end LiveTelemetry.Http
