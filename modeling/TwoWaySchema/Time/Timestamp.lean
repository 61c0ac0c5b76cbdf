import TwoWaySchema.Time.Calendar

/-!
# Timestamps

A timestamp is a point of universal time: whole seconds since the epoch, rounded down, and the
nanoseconds after them.  A billion nanoseconds or more lie in a leap second, which has no second of
its own in the count.  Timestamps reach from the year -262143 to the year 262142.
-/

namespace TwoWaySchema

namespace Timestamp

def secondsPerDay : Int := 86400

/-- The first second of the year -262143. -/
def firstSecond : Int := -8334601228800

/-- The last second of the year 262142. -/
def lastSecond : Int := 8210266876799

theorem firstSecond_eq :
    firstSecond = (Date.dayOfYearStart (-262143) - Date.epochDay) * secondsPerDay := by
  decide

theorem lastSecond_eq :
    lastSecond = (Date.dayOfYearStart 262143 - Date.epochDay) * secondsPerDay - 1 := by
  decide

end Timestamp

structure Timestamp where
  seconds : Int
  nanos : Nat
  inRange : Timestamp.firstSecond ≤ seconds ∧ seconds ≤ Timestamp.lastSecond
  nanos_lt : nanos < 2000000000
deriving DecidableEq, Repr

namespace Timestamp

/-- The timestamp with these seconds and nanoseconds, where there is one. -/
def ofParts? (seconds : Int) (nanos : Nat) : Option Timestamp :=
  if h : (firstSecond ≤ seconds ∧ seconds ≤ lastSecond) ∧ nanos < 2000000000 then
    some ⟨seconds, nanos, h.1, h.2⟩
  else none

/-- The milliseconds since the epoch; those of a leap second run on past its start. -/
def millis (t : Timestamp) : Int :=
  t.seconds * 1000 + (t.nanos / 1000000 : Nat)

theorem millis_inRange (t : Timestamp) :
    -9223372036854775808 ≤ t.millis ∧ t.millis < 18446744073709551616 := by
  have h := t.inRange
  have hn := t.nanos_lt
  simp only [firstSecond, lastSecond] at h
  unfold millis
  omega

/-- The point this many milliseconds after the epoch, within the range of timestamps. -/
def ofMillis? (millis : Int) : Option Timestamp :=
  ofParts? (millis / 1000) ((millis % 1000).toNat * 1000000)

end Timestamp

end TwoWaySchema
