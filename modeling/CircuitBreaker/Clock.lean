/-!
# `CircuitBreaker.Clock` — points in time

Times are unsigned 64-bit milliseconds since the epoch. They enter every operation as data; nothing
in the library reads a clock.

## Contents
- `latest`, `after`: the last point in time, and adding a delay without passing it.
- `nanos`: milliseconds as nanoseconds.
- `timeOfDay`: the wall clock text of a point in time.
-/

namespace CircuitBreaker.Clock

/-- The last point in time. -/
def latest : Nat := UInt64.size - 1

/-- The point `delay` milliseconds after `t`, held at the last point in time. -/
def after (t delay : Nat) : Nat := min (t + delay) latest

/-- A delay is over later than now, unless time has come to its end. -/
theorem lt_after {t delay : Nat} (hdelay : 0 < delay) (h : t < latest) : t < after t delay := by
  unfold after
  omega

theorem after_le_add (t delay : Nat) : after t delay ≤ t + delay := Nat.min_le_left _ _

/-- A number of milliseconds, in nanoseconds. -/
def nanos (ms : Int) : Int := ms * 1000000

/-- The first millisecond of the year 10000. Calendars of four-digit years end here. -/
def yearTenThousand : Nat := 253402300800000

/-- The decimal digits of `n`, with zeros in front up to `width`. -/
def padded (width n : Nat) : String :=
  let digits := (Nat.toDigits 10 n)
  String.ofList (List.replicate (width - digits.length) '0' ++ digits)

/-- The time of day of `ms` in universal time as `hour:minute:second.millisecond`. A point in time
    beyond the calendar is written as its number. -/
def timeOfDay (ms : Nat) : String :=
  if ms < yearTenThousand then
    let s := ms / 1000
    padded 2 (s / 3600 % 24) ++ ":" ++ padded 2 (s / 60 % 60) ++ ":" ++ padded 2 (s % 60)
      ++ "." ++ padded 3 (ms % 1000)
  else
    toString ms

end CircuitBreaker.Clock
