import LiveTelemetry.Json.Number
import LiveTelemetry.Text.Hex
/-!
JSON values as compact text: no blanks, members in their order, and no number that JSON cannot
spell.
-/
namespace LiveTelemetry.Json

/-- A character of a string. Quotation marks, backslashes and controls are escaped. -/
def escapeChar (c : Char) : List Char :=
  if c = '"' then ['\\', '"']
  else if c = '\\' then ['\\', '\\']
  else if c = '\x08' then ['\\', 'b']
  else if c = '\x0c' then ['\\', 'f']
  else if c = '\n' then ['\\', 'n']
  else if c = '\r' then ['\\', 'r']
  else if c = '\t' then ['\\', 't']
  else if c.toNat < 0x20 then
    ['\\', 'u', '0', '0', Nat.digitChar (c.toNat / 16), Nat.digitChar (c.toNat % 16)]
  else [c]

def printString (s : String) : List Char := '"' :: s.toList.flatMap escapeChar ++ ['"']

def printInt : Int → List Char
  | .ofNat n => Nat.toDigits 10 n
  | .negSucc n => '-' :: Nat.toDigits 10 (n + 1)

def printReal (f : Float) : List Char :=
  if f.isFinite then (realText f).toList else ['n', 'u', 'l', 'l']

/-- Texts with commas between them. -/
def commas : List (List Char) → List Char
  | [] => []
  | [x] => x
  | x :: y :: rest => x ++ ',' :: commas (y :: rest)

def printMember (name : String) (value : List Char) : List Char :=
  printString name ++ ':' :: value

/-- An object from its members' names and printed values. -/
def printObject (members : List (String × List Char)) : List Char :=
  '{' :: commas (members.map fun (n, v) => printMember n v) ++ ['}']

def printList (elements : List (List Char)) : List Char := '[' :: commas elements ++ [']']

mutual

def print : Json → List Char
  | null => ['n', 'u', 'l', 'l']
  | bool true => ['t', 'r', 'u', 'e']
  | bool false => ['f', 'a', 'l', 's', 'e']
  | int i => printInt i
  | real f => printReal f
  | str s => printString s
  | arr xs => printList (printEach xs)
  | obj ms => printObject (printValues ms)

def printEach : List Json → List (List Char)
  | [] => []
  | x :: xs => print x :: printEach xs

def printValues : List (String × Json) → List (String × List Char)
  | [] => []
  | m :: ms => (m.1, printValue m) :: printValues ms

def printValue : String × Json → List Char
  | (_, v) => print v

end

def text (j : Json) : String := String.ofList j.print

end LiveTelemetry.Json
