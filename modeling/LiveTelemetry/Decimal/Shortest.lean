/-!
The shortest decimal that reads back as a given binary number. The grids of decimals are tried
from the coarsest to the finest; the first that has a point in the interval of numbers rounding to
the given one wins, and of two points the nearer.
-/
namespace LiveTelemetry.Decimal

/-- A positive number `mantissa · 2 ^ exponent`, with the width of its rounding interval: below a
power of two the gap is half as wide. -/
structure Binary where
  mantissa : Nat
  exponent : Int
  narrow : Bool

/-- The number `digits · 10 ^ exponent`. -/
structure Scaled where
  digits : Nat
  exponent : Int

namespace Binary

/-- `base ^ e` as a fraction. -/
def power (base : Nat) (e : Int) : Nat × Nat :=
  if 0 ≤ e then (base.pow e.toNat, 1) else (1, base.pow (-e).toNat)

/-- The interval of numbers that round to `b`, and `b` in its middle, in quarters of the last
place. -/
def low (b : Binary) : Nat := if b.narrow then 4 * b.mantissa - 1 else 4 * b.mantissa - 2

def middle (b : Binary) : Nat := 4 * b.mantissa

def high (b : Binary) : Nat := 4 * b.mantissa + 2

/-- The ratio of a quarter of the last place to `10 ^ p`. -/
def scale (b : Binary) (p : Int) : Nat × Nat :=
  let unit := power 2 (b.exponent - 2)
  let grid := power 10 p
  (unit.1 * grid.2, unit.2 * grid.1)

/-- Whether the grid point `c`, in places of which `num / den` make a quarter, rounds to `b`. The
ends belong to the interval when the mantissa is even. -/
def rounds (b : Binary) (num den c : Nat) : Bool :=
  if b.mantissa % 2 = 0 then b.low * num ≤ c * den && c * den ≤ b.high * num
  else b.low * num < c * den && c * den < b.high * num

/-- The point of the grid of tens to the `p` that is nearest to `b` and rounds to it; a tie goes
to the even point. -/
def onGrid (b : Binary) (p : Int) : Option Nat :=
  let (num, den) := b.scale p
  let below := b.middle * num / den
  let above := below + 1
  match b.rounds num den below, b.rounds num den above with
  | false, false => none
  | true, false => some below
  | false, true => some above
  | true, true =>
    let fromBelow := b.middle * num - below * den
    let fromAbove := above * den - b.middle * num
    if fromBelow < fromAbove then some below
    else if fromAbove < fromBelow then some above
    else some (if below % 2 = 0 then below else above)

/-- Below 2 ^ 53 no grid coarser than 10 ^ 16 has a point in the interval, and none coarser than
10 ^ 309 ever has. -/
def coarsest (b : Binary) : Int := if b.exponent ≤ 0 then 17 else 309

/-- The shortest decimal that rounds to `b`. -/
def shortest (b : Binary) : Scaled :=
  ((List.range 700).findSome? fun (i : Nat) =>
    let p := b.coarsest - i
    (b.onGrid p).map fun c => ⟨c, p⟩).getD ⟨0, 0⟩

end Binary

/-- The numbers that fill the last 52 bits of a floating-point number. -/
def fractions : Nat := 0x10000000000000

/-- The magnitude of a finite number other than zero. -/
def ofBits (bits : Nat) : Binary :=
  let field : Nat := bits / fractions % 0x800
  let fraction := bits % fractions
  if field = 0 then ⟨fraction, -1074, false⟩
  else ⟨fractions + fraction, (field : Int) - 1075, fraction = 0 && field > 1⟩

end LiveTelemetry.Decimal
