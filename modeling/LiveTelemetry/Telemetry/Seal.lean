import LiveTelemetry.Telemetry.Item
import LiveTelemetry.Time.Count
/-!
Where the stamps of a running agent come from. Their identifiers are scattered from a seed, so
that a run gives out one for each time and number.
-/
namespace LiveTelemetry

/-- Scatters the bits of a word; different words stay different. -/
def scatter (z : UInt64) : UInt64 :=
  let z := (z ^^^ (z >>> 30)) * 0xBF58476D1CE4E5B9
  let z := (z ^^^ (z >>> 27)) * 0x94D049BB133111EB
  z ^^^ (z >>> 31)

/-- The sixteen digits of a word, the last one first. -/
def wordDigits (z : UInt64) : List (Fin 16) :=
  (List.range 16).map fun i => Text.nibble (z.toNat / Nat.pow 16 i)

/-- The random identifier that two words make. Its thirteenth digit says that it is random, and
two bits of its seventeenth that it is of this kind at all. -/
def Uuid.random (first second : UInt64) : Uuid where
  digits :=
    (wordDigits first).take 12 ++ Text.nibble 4 :: (wordDigits first).drop 13 ++
      Text.nibble (8 + second.toNat % 4) :: (wordDigits second).drop 1
  length_eq := by simp [wordDigits]

namespace Telemetry

/-- When a run began, in nanoseconds, and what its identifiers are drawn from. -/
structure Seal where
  start : Nat
  first : UInt64
  second : UInt64

namespace Seal

/-- The moment so many milliseconds into the run. -/
def moment (s : Seal) (now : Nat) : Instant :=
  (Instant.ofNanos? (s.start + now * 1000000)).getD Instant.epoch

/-- The stamp given out at a time, by its number. -/
def stamp (s : Seal) (now n : Nat) : Stamp where
  id :=
    let place := scatter (scatter now.toUInt64 + n.toUInt64)
    Uuid.random (scatter (s.first + place)) (scatter (s.second ^^^ place))
  time := s.moment now

end Seal

end Telemetry

end LiveTelemetry
