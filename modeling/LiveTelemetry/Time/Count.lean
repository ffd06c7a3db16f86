import LiveTelemetry.Time.Instant
/-!
Moments as counts from the start of 1970. Leap seconds are not counted.
-/
namespace LiveTelemetry

namespace Date

def daysInYear (year : Int) : Nat := if isLeap year then 366 else 365

/-- The day that comes so many days after the first of the first of `months`. -/
def within? (year : Int) : List Nat → Nat → Option Date
  | [], _ => none
  | month :: more, n =>
    if n < daysInMonth year month then of? year month (n + 1)
    else within? year more (n - daysInMonth year month)

theorem daysInYear_pos (year : Int) : 0 < daysInYear year := by
  unfold daysInYear
  split <;> decide

/-- The day that comes so many days after the first of January. -/
def after? (year : Int) (n : Nat) : Option Date :=
  if n < daysInYear year then within? year (List.range' 1 12) n
  else after? (year + 1) (n - daysInYear year)
termination_by n
decreasing_by have := daysInYear_pos year; omega

example : after? 1970 0 = some epoch := by decide +kernel
example : after? 2000 59 = of? 2000 2 29 := by decide +kernel

end Date

/-- The moment so many nanoseconds after the start of 1970. -/
def Instant.ofNanos? (n : Nat) : Option Instant := do
  let seconds := n / 1000000000
  let date ← Date.after? 1970 (seconds / 86400)
  Instant.of? date (seconds / 3600 % 24) (seconds / 60 % 60) (seconds % 60) (n % 1000000000)

end LiveTelemetry
