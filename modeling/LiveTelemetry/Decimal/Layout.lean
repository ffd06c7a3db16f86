import LiveTelemetry.Decimal.Shortest
/-!
The written form of a binary floating-point number.
-/
namespace LiveTelemetry.Decimal

/-- Positional form is used while the first digit's place is between `least` and `most`; beyond,
one digit stands before the point and the exponent follows with its sign. -/
structure Layout where
  least : Int
  most : Int

/-- The digits of `n` in base ten. -/
def digits (n : Nat) : List Char := Nat.toDigits 10 n

def zeros (n : Nat) : List Char := List.replicate n '0'

/-- The magnitude `d`, with a digit on either side of the point unless an exponent is written. -/
def Layout.write (l : Layout) (d : Scaled) : List Char :=
  let ds := digits d.digits
  let place : Int := d.exponent + ds.length - 1
  if l.least ≤ place ∧ place ≤ l.most then
    if 0 ≤ d.exponent then ds ++ zeros d.exponent.toNat ++ ['.', '0']
    else if 0 ≤ place then ds.take (place.toNat + 1) ++ '.' :: ds.drop (place.toNat + 1)
    else '0' :: '.' :: zeros (-place - 1).toNat ++ ds
  else
    let point := match ds with
      | [] => []
      | [d] => [d]
      | d :: more => d :: '.' :: more
    point ++ 'e' :: (if place < 0 then '-' else '+') :: digits place.natAbs

/-- The text of a finite number. -/
def Layout.text (l : Layout) (f : Float) : String :=
  let bits := f.toBits.toNat
  let sign := if bits ≥ 0x8000000000000000 then ['-'] else []
  let magnitude := bits % 0x8000000000000000
  String.ofList <| sign ++
    if magnitude = 0 then ['0', '.', '0'] else l.write (ofBits magnitude).shortest

end LiveTelemetry.Decimal
