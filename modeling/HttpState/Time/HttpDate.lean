import HttpState.Text.Scan
import HttpState.Time.Timestamp

/-!
# Dates in HTTP headers

The four forms of an expiry date, all of them in UTC, with the names of days and months as written
here:

* `Thu, 01 Jan 2026 00:00:00 GMT`
* `Thursday, 01-Jan-26 00:00:00 GMT`
* `Thu Jan  1 00:00:00 2026`
* `Thu, 01-Jan-2026 00:00:00 GMT`

The weekday may be left out, together with what separates it from the date, and need not be the
right one. A year has one to four digits and may have a sign (in the second form it has exactly two
digits and no sign); the years 0 to 69 stand for 2000 to 2069 and the years 70 to 99 for 1970 to
1999.
-/

namespace HttpState.Time.HttpDate

open HttpState.Text

/-- The names of the days of the week, in full. -/
def weekdays : List (List Char) :=
  ["Monday".toList, "Tuesday".toList, "Wednesday".toList, "Thursday".toList, "Friday".toList,
    "Saturday".toList, "Sunday".toList]

/-- The names of the days of the week, three letters each. -/
def shortWeekdays : List (List Char) := weekdays.map (·.take 3)

/-- The names of the months, three letters each. -/
def months : List (List Char) :=
  ["Jan".toList, "Feb".toList, "Mar".toList, "Apr".toList, "May".toList, "Jun".toList,
    "Jul".toList, "Aug".toList, "Sep".toList, "Oct".toList, "Nov".toList, "Dec".toList]

/-- Skips a weekday of the given names and what separates it from the date, if both are there. -/
def skipWeekday (names : List (List Char)) (separator : List Char) (s : List Char) : List Char :=
  match oneOf names s with
  | some (_, r) => (expectWord separator r).getD s
  | none => s

/-- Reads the name of a month. -/
def readMonth (s : List Char) : Option (Nat × List Char) :=
  (oneOf months s).map fun (i, r) => (i + 1, r)

/-- Reads a day of the month padded to two places with a blank or a zero. -/
def readPaddedDay (s : List Char) : Option (Nat × List Char) :=
  match s with
  | ' ' :: r => digits 1 r
  | _ => digits 2 s

/-- Reads one to four digits. -/
def readUpToFour (s : List Char) : Option (Nat × List Char) :=
  let ds := (s.takeWhile Char.isDigit).take 4
  if ds.isEmpty then none else some (decimal ds, s.drop ds.length)

/-- Reads a year of one to four digits with an optional sign. -/
def readYear (s : List Char) : Option (Int × List Char) :=
  match s with
  | '-' :: r => (readUpToFour r).map fun (n, r) => (-(n : Int), r)
  | '+' :: r => (readUpToFour r).map fun (n, r) => ((n : Int), r)
  | _ => (readUpToFour s).map fun (n, r) => ((n : Int), r)

/-- Reads a time of day as its second of the day. -/
def readTime (s : List Char) : Option (Nat × List Char) := do
  let (hour, s) ← digits 2 s
  let s ← expect ':' s
  let (minute, s) ← digits 2 s
  let s ← expect ':' s
  let (second, s) ← digits 2 s
  if hour ≤ 23 ∧ minute ≤ 59 ∧ second ≤ 59 then
    some ((hour * 60 + minute) * 60 + second, s)
  else none

/-- The year that an abbreviated year stands for. -/
def fullYear (year : Int) : Int :=
  if 0 ≤ year ∧ year ≤ 69 then year + 2000
  else if 70 ≤ year ∧ year ≤ 99 then year + 1900
  else year

/-- The point in time of a date and a second of the day, in nanoseconds. The day must exist in the
    year as written and in the year it stands for. -/
def instant? (year : Int) (month day secondOfDay : Nat) : Option Int := do
  let _ ← Date.of? year month day
  let date ← Date.of? (fullYear year) month day
  some (Timestamp.ofLocal date secondOfDay 0 0).nanos

/-- Reads a date whose parts are separated by `separator`, with a four-digit year. -/
def readDayFirst (separator : Char) (s : List Char) : Option Int := do
  let s := skipWeekday shortWeekdays [',', ' '] s
  let (day, s) ← digits 2 s
  let s ← expect separator s
  let (month, s) ← readMonth s
  let s ← expect separator s
  let (year, s) ← readYear s
  let s ← expect ' ' s
  let (time, s) ← readTime s
  let s ← expectWord [' ', 'G', 'M', 'T'] s
  if s = [] then instant? year month day time else none

/-- Reads `Thu, 01 Jan 2026 00:00:00 GMT`. -/
def readSpaced : List Char → Option Int := readDayFirst ' '

/-- Reads `Thu, 01-Jan-2026 00:00:00 GMT`. -/
def readDashed : List Char → Option Int := readDayFirst '-'

/-- Reads `Thursday, 01-Jan-26 00:00:00 GMT`. -/
def readShortYear (s : List Char) : Option Int := do
  let s := skipWeekday weekdays [',', ' '] s
  let (day, s) ← digits 2 s
  let s ← expect '-' s
  let (month, s) ← readMonth s
  let s ← expect '-' s
  let (year, s) ← digits 2 s
  let s ← expect ' ' s
  let (time, s) ← readTime s
  let s ← expectWord [' ', 'G', 'M', 'T'] s
  if s = [] then instant? year month day time else none

/-- Reads `Thu Jan  1 00:00:00 2026`. -/
def readMonthFirst (s : List Char) : Option Int := do
  let s := skipWeekday shortWeekdays [' '] s
  let (month, s) ← readMonth s
  let s ← expect ' ' s
  let (day, s) ← readPaddedDay s
  let s ← expect ' ' s
  let (time, s) ← readTime s
  let s ← expect ' ' s
  let (year, s) ← readYear s
  if s = [] then instant? year month day time else none

/-- Reads a date of any of the four forms, the first one that fits, in nanoseconds since
    1970-01-01T00:00:00Z. -/
def read? (s : List Char) : Option Int :=
  readSpaced s <|> readShortYear s <|> readMonthFirst s <|> readDashed s

end HttpState.Time.HttpDate
