import LiveTelemetry.Time.Date
/-!
Moments to the nanosecond. A leap second is the second 60 of its minute.
-/
namespace LiveTelemetry

structure Instant where
  date : Date
  hour : Nat
  minute : Nat
  second : Nat
  nanos : Nat
  hour_lt : hour < 24
  minute_lt : minute < 60
  second_le : second ≤ 60
  nanos_lt : nanos < 1000000000
  deriving DecidableEq

namespace Instant

def of? (date : Date) (hour minute second nanos : Nat) : Option Instant :=
  if hh : hour < 24 then
    if hm : minute < 60 then
      if hs : second ≤ 60 then
        if hn : nanos < 1000000000 then some ⟨date, hour, minute, second, nanos, hh, hm, hs, hn⟩
        else none
      else none
    else none
  else none

@[simp] theorem of?_self (i : Instant) :
    of? i.date i.hour i.minute i.second i.nanos = some i := by
  simp [of?, i.hour_lt, i.minute_lt, i.second_le, i.nanos_lt]

def epoch : Instant :=
  ⟨Date.epoch, 0, 0, 0, 0, by decide, by decide, by decide, by decide⟩

/-- The same clock face a number of minutes earlier, which is less than a day. -/
def minusMinutes? (i : Instant) (offset : Int) : Option Instant :=
  let m : Int := i.hour * 60 + i.minute - offset
  if m < 0 then do
    let date ← i.date.prev?
    of? date ((m + 1440) / 60).toNat ((m + 1440) % 60).toNat i.second i.nanos
  else if m < 1440 then of? i.date (m / 60).toNat (m % 60).toNat i.second i.nanos
  else do
    let date ← i.date.next?
    of? date ((m - 1440) / 60).toNat ((m - 1440) % 60).toNat i.second i.nanos

@[simp] theorem minusMinutes?_zero (i : Instant) : i.minusMinutes? 0 = some i := by
  have h1 := i.hour_lt
  have h2 := i.minute_lt
  have hlo : ¬ ((i.hour : Int) * 60 + i.minute - 0 < 0) := by omega
  have hhi : (i.hour : Int) * 60 + i.minute - 0 < 1440 := by omega
  have hh : (((i.hour : Int) * 60 + i.minute - 0) / 60).toNat = i.hour := by omega
  have hm : (((i.hour : Int) * 60 + i.minute - 0) % 60).toNat = i.minute := by omega
  simp only [minusMinutes?, hlo, hhi, hh, hm, if_true, if_false, of?_self]

end Instant

end LiveTelemetry
