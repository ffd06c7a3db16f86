import LiveTelemetry.Text.Fields
import LiveTelemetry.Text.Numeral
import LiveTelemetry.Url.Ipv4
/-!
Hosts that are IPv6 addresses: eight pieces of sixteen bits, of which one run of zeros may be left
out, and of which the last two may be written as an IPv4 address.
-/
namespace LiveTelemetry.Url.Ipv6

open Text (fields)
open Text.Numeral (inBase?)

/-- A piece of one to four digits. -/
def piece? (s : List Char) : Option Nat :=
  if s.isEmpty ∨ s.length > 4 then none else inBase? 16 s

/-- A place of a dotted address, without a leading zero. -/
def place? (s : List Char) : Option Nat :=
  match s with
  | [] => none
  | '0' :: _ :: _ => none
  | s => (inBase? 10 s).filter (· < 256)

/-- The two pieces that a dotted address fills. -/
def dotted? (s : List Char) : Option (List Nat) := do
  match ← (fields (· == '.') s).mapM place? with
  | [a, b, c, d] => some [a * 256 + b, c * 256 + d]
  | _ => none

/-- Pieces with colons between them, the last of them perhaps dotted. -/
def pieces? (last : Bool) (s : List Char) : Option (List Nat) :=
  if s.isEmpty then some []
  else
    let groups := fields (· == ':') s
    match groups.reverse with
    | [] => none
    | g :: before => do
      let front ← before.reverse.mapM piece?
      let back ← if last ∧ g.contains '.' then dotted? g else (piece? g).map ([·])
      some (front ++ back)

/-- The text before and after the first double colon. -/
def cutGap : List Char → List Char × Option (List Char)
  | [] => ([], none)
  | c :: rest =>
    if c = ':' ∧ rest.head? = some ':' then ([], some rest.tail)
    else let (before, after) := cutGap rest; (c :: before, after)

/-- The pieces of the address that stands between the brackets. -/
def parse? (s : List Char) : Option (List Nat) :=
  match cutGap s with
  | (all, none) => (pieces? true all).filter (·.length = 8)
  | (front, some back) => do
    let front ← pieces? false front
    let back ← pieces? true back
    if front.length + back.length ≤ 7 then
      some (front ++ List.replicate (8 - front.length - back.length) 0 ++ back)
    else none

/-- Zeros at the front. -/
def zeroRun (pieces : List Nat) : Nat := (pieces.takeWhile (· == 0)).length

/-- Where the first of the longest runs of zeros starts, and how long it is. -/
def longestRun : Nat → List Nat → Nat × Nat
  | _, [] => (0, 0)
  | i, p :: rest =>
    let here := zeroRun (p :: rest)
    let later := longestRun (i + 1) rest
    if later.2 > here then later else (i, here)

def join (pieces : List Nat) : List Char :=
  List.intercalate [':'] (pieces.map (Nat.toDigits 16))

/-- The address, the first of its longest runs of two or more zeros left out. -/
def print (pieces : List Nat) : List Char :=
  let (start, length) := longestRun 0 pieces
  if length < 2 then join pieces
  else join (pieces.take start) ++ ':' :: ':' :: join (pieces.drop (start + length))

example : (parse? "::1".toList).map print = some "::1".toList := by decide
example : (parse? "1:0:0:2:0:0:0:3".toList).map print = some "1:0:0:2::3".toList := by decide
example : (parse? "::ffff:1.2.3.4".toList).map print = some "::ffff:102:304".toList := by decide
example : parse? "1:2:3:4:5:6:7".toList = none := by decide
example : (parse? "1:2:3:4:5:6:7::".toList).map print = some "1:2:3:4:5:6:7:0".toList := by decide

end LiveTelemetry.Url.Ipv6
