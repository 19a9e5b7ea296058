import HttpState.Time.Calendar

/-!
# Points in time

A `Timestamp` is a point in time together with the offset from UTC that its wall clock shows.
Two timestamps are compared by their points in time alone; the offset only decides how one is
written. The clock of this library is a number of nanoseconds since 1970-01-01T00:00:00Z.

Timestamps lie in the years -9999 to 9999. Going forward in time ends with the last of them.

* `later?_eq_some_iff`: a later point in time exists exactly when it is in the calendar.
-/

namespace HttpState.Time

/-- Nanoseconds in a second. -/
def nanosPerSecond : Int := 1000000000

/-- Seconds in a day. -/
def secondsPerDay : Int := 86400

/-- A point in time and the wall clock it is shown on. -/
structure Timestamp where
  /-- Nanoseconds since 1970-01-01T00:00:00Z. -/
  nanos : Int
  /-- Seconds by which the wall clock is ahead of UTC. -/
  offset : Int
  deriving DecidableEq, Repr

namespace Timestamp

/-- A point in time on the clock of UTC. -/
def utc (nanos : Int) : Timestamp := ⟨nanos, 0⟩

/-- The whole seconds since 1970-01-01T00:00:00Z, rounded down. -/
def seconds (t : Timestamp) : Int := t.nanos / nanosPerSecond

/-- The nanoseconds that `seconds` leaves out. -/
def subsecond (t : Timestamp) : Nat := (t.nanos % nanosPerSecond).toNat

/-- The seconds that the wall clock shows, counted from its own 1 January 1970. -/
def localSeconds (t : Timestamp) : Int := t.seconds + t.offset

/-- The date that the wall clock shows. -/
def date (t : Timestamp) : Date := Date.ofDayNumber (t.localSeconds / secondsPerDay)

/-- The second of the day that the wall clock shows. -/
def secondOfDay (t : Timestamp) : Nat := (t.localSeconds % secondsPerDay).toNat

/-- The point in time at which a clock with this offset shows a date and a second of the day. -/
def ofLocal (d : Date) (secondOfDay subsecond : Nat) (offset : Int) : Timestamp :=
  ⟨(d.dayNumber * secondsPerDay + secondOfDay - offset) * nanosPerSecond + subsecond, offset⟩

end Timestamp

/-- The first second of the year -9999. -/
def firstSecond : Int := -377705116800

/-- The last second of the year 9999. -/
def lastSecond : Int := 253402300799

/-- Whether a second lies in the years -9999 to 9999. -/
def isCalendarSecond (n : Int) : Bool := firstSecond ≤ n && n ≤ lastSecond

/-- The point in time `seconds` seconds after `nanos`, if the calendar reaches that far. -/
def later? (nanos : Int) (seconds : Nat) : Option Int :=
  let t := nanos + seconds * nanosPerSecond
  if t / nanosPerSecond ≤ lastSecond then some t else none

/-- What going beyond the calendar says. -/
def beyondCalendarMessage : String := "resulting value is out of range"

/-- A time is reached exactly when it lies in the calendar, and then it is the sum. -/
theorem later?_eq_some_iff {nanos : Int} {seconds : Nat} {t : Int} :
    later? nanos seconds = some t ↔
      t = nanos + seconds * nanosPerSecond ∧ t / nanosPerSecond ≤ lastSecond := by
  simp only [later?, Option.ite_none_right_eq_some, Option.some.injEq]
  constructor
  · rintro ⟨h, rfl⟩
    exact ⟨rfl, h⟩
  · rintro ⟨rfl, h⟩
    exact ⟨h, rfl⟩

end HttpState.Time
