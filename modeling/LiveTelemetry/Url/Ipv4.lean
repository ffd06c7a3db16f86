import LiveTelemetry.Text.Fields
import LiveTelemetry.Text.Numeral
/-!
Hosts that are IPv4 addresses: up to four numbers, each decimal, octal or hexadecimal, the last
of which fills all the places that are left.
-/
namespace LiveTelemetry.Url.Ipv4

open Text (fields)
open Text.Numeral (inBase?)

/-- A number with its mark for the base; a bare mark counts as zero. -/
def number? : List Char → Option Nat
  | [] => none
  | '0' :: 'x' :: rest => inBase? 16 rest
  | '0' :: 'X' :: rest => inBase? 16 rest
  | '0' :: c :: rest => inBase? 8 (c :: rest)
  | s => inBase? 10 s

/-- Whether a host can only be an address: its last label that is not empty is a number. -/
def endsInNumber (host : List Char) : Bool :=
  let labels := (fields (· == '.') host).reverse
  let last := match labels with
    | [] :: l :: _ => l
    | [] :: [] => []
    | l :: _ => l
    | [] => []
  (¬ last.isEmpty && last.all Char.isDigit) || (number? last).isSome

/-- All parts but the last fill one place each, from the left. -/
def combine (parts : List Nat) : Option Nat :=
  match parts.reverse with
  | [] => none
  | last :: others =>
    if last < Nat.pow 256 (4 - others.length) ∧ others.all (· < 256) then
      some (others.reverse.foldl (fun (n, place) x => (n + x * Nat.pow 256 place, place - 1))
        (last, 3)).1
    else none

/-- The address that a host spells. -/
def parse? (host : List Char) : Option Nat := do
  let labels := fields (· == '.') host
  let labels := if labels.getLast? = some [] then labels.dropLast else labels
  if labels.length > 4 then none
  else
    let parts ← labels.mapM number?
    if parts.all (· < 0x100000000) then combine parts else none

/-- The address with dots between its places. -/
def print (address : Nat) : List Char :=
  let place (i : Nat) : List Char := Nat.toDigits 10 (address / Nat.pow 256 i % 256)
  place 3 ++ '.' :: place 2 ++ '.' :: place 1 ++ '.' :: place 0

example : parse? "0x7f.1".toList = some 0x7F000001 := by decide
example : print 0x7F000001 = "127.0.0.1".toList := by decide
example : parse? "1.2.3.256".toList = none := by decide
example : parse? "4294967295".toList = some 0xFFFFFFFF := by decide

end LiveTelemetry.Url.Ipv4
