/-!
What can be wrong with a JSON text, or with the value it holds, and how each case is worded.
-/
namespace LiveTelemetry.Json

/-- A value that stands where another kind of value was wanted. `real` carries the number as it is
written, and `str` the text between quotation marks. -/
inductive Found where
  | null
  | bool (b : Bool)
  | int (i : Int)
  | real (text : String)
  | str (quoted : String)
  | arr
  | obj

def Found.describe : Found → String
  | null => "null"
  | bool b => "boolean `" ++ toString b ++ "`"
  | int i => "integer `" ++ toString i ++ "`"
  | real t => "floating point `" ++ t ++ "`"
  | str q => "string " ++ q
  | arr => "sequence"
  | obj => "map"

inductive Fault where
  | endOfList
  | endOfObject
  | endOfString
  | endOfValue
  | expectedColon
  | expectedListCommaOrEnd
  | expectedObjectCommaOrEnd
  | expectedIdent
  | expectedValue
  | invalidEscape
  | invalidNumber
  | numberOutOfRange
  | invalidCodePoint
  | controlCharacter
  | keyMustBeString
  | loneLeadingSurrogate
  | trailingComma
  | trailingCharacters
  | unexpectedEndOfHexEscape
  | recursionLimit
  /-- A value of the wrong kind. -/
  | mismatch (found : Found) (expected : String)
  | missingField (name : String)
  | duplicateField (name : String)
  | unknownVariant (name : String) (known : List String)
  | invalidLength (length : Nat) (expected : String)
  | badId
  | badTime

/-- Whether the text ended too early, breaks the grammar, or holds a value that does not fit. -/
inductive Fault.Class where
  | ended
  | malformed
  | unfit
  | badId
  | badTime

namespace Fault

def kind : Fault → Class
  | endOfList | endOfObject | endOfString | endOfValue => .ended
  | mismatch .. | missingField _ | duplicateField _ | unknownVariant .. | invalidLength .. => .unfit
  | badId => .badId
  | badTime => .badTime
  | _ => .malformed

def message : Fault → String
  | endOfList => "EOF while parsing a list"
  | endOfObject => "EOF while parsing an object"
  | endOfString => "EOF while parsing a string"
  | endOfValue => "EOF while parsing a value"
  | expectedColon => "expected `:`"
  | expectedListCommaOrEnd => "expected `,` or `]`"
  | expectedObjectCommaOrEnd => "expected `,` or `\x7d`"
  | expectedIdent => "expected ident"
  | expectedValue => "expected value"
  | invalidEscape => "invalid escape"
  | invalidNumber => "invalid number"
  | numberOutOfRange => "number out of range"
  | invalidCodePoint => "invalid unicode code point"
  | controlCharacter => "control character (\\u0000-\\u001F) found while parsing a string"
  | keyMustBeString => "key must be a string"
  | loneLeadingSurrogate => "lone leading surrogate in hex escape"
  | trailingComma => "trailing comma"
  | trailingCharacters => "trailing characters"
  | unexpectedEndOfHexEscape => "unexpected end of hex escape"
  | recursionLimit => "recursion limit exceeded"
  | mismatch found expected => "invalid type: " ++ found.describe ++ ", expected " ++ expected
  | missingField name => "missing field `" ++ name ++ "`"
  | duplicateField name => "duplicate field `" ++ name ++ "`"
  | unknownVariant name known =>
    "unknown variant `" ++ name ++ "`, expected one of " ++
      String.intercalate ", " (known.map fun k => "`" ++ k ++ "`")
  | invalidLength n expected => "invalid length " ++ toString n ++ ", expected " ++ expected
  | badId => "malformed identifier"
  | badTime => "malformed time"

end Fault

end LiveTelemetry.Json
