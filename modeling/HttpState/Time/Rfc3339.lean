import HttpState.Text.Scan
import HttpState.Time.Timestamp

/-!
# Timestamps as RFC 3339 text

Written as `YYYY-MM-DDTHH:MM:SS`, a fraction of a second if there is one, without trailing zeros,
and the offset, `Z` if it is zero. Years outside 0 to 9999 and offsets that are no whole number of
minutes, or not below a day, have no such text.

Read is a little more: any ASCII character between date and time, `z` for `Z`, more than nine
digits of a fraction (the further ones are cut off), and the second 60 where a leap second may be,
at the end of a month in UTC. That second counts as the last nanosecond before it.
-/

namespace HttpState.Time.Timestamp

open HttpState.Text

/-- A fraction of a second in nanoseconds, without trailing zeros and left out when zero. -/
def fractionText (subsecond : Nat) : List Char :=
  if subsecond = 0 then []
  else '.' :: ((padded 9 subsecond).reverse.dropWhile (· == '0')).reverse

/-- An offset of whole minutes, `Z` if it is zero. -/
def offsetText (offset : Int) : List Char :=
  if offset = 0 then ['Z']
  else
    let minutes := offset.natAbs / 60
    (if offset < 0 then '-' else '+') :: padded 2 (minutes / 60) ++ ':' :: padded 2 (minutes % 60)

/-- A timestamp has an RFC 3339 text if its wall clock shows a year of four digits and its offset
    is a whole number of minutes below a day. -/
def hasRfc3339 (t : Timestamp) : Bool :=
  0 ≤ t.date.year && t.date.year ≤ 9999 && t.offset % 60 == 0 && t.offset.natAbs < 86400

/-- The RFC 3339 text of a timestamp that has one. -/
def rfc3339 (t : Timestamp) : List Char :=
  let d := t.date
  let s := t.secondOfDay
  padded 4 d.year.toNat ++ '-' :: padded 2 d.month ++ '-' :: padded 2 d.day ++
    'T' :: padded 2 (s / 3600) ++ ':' :: padded 2 (s / 60 % 60) ++ ':' :: padded 2 (s % 60) ++
    fractionText t.subsecond ++ offsetText t.offset

/-- The RFC 3339 text of a timestamp. -/
def toRfc3339? (t : Timestamp) : Option (List Char) :=
  if t.hasRfc3339 then some t.rfc3339 else none

/-- The nanoseconds of the digits of a fraction: the first nine count. -/
def fractionNanos (ds : List Char) : Nat :=
  decimal ((ds ++ List.replicate 9 '0').take 9)

/-- Reads an optional fraction of a second. -/
def readFraction (s : List Char) : Option (Nat × List Char) :=
  match s with
  | '.' :: r =>
    let ds := r.takeWhile Char.isDigit
    if ds.isEmpty then none else some (fractionNanos ds, r.dropWhile Char.isDigit)
  | _ => some (0, s)

/-- Reads an offset that the text ends with. -/
def readOffset (s : List Char) : Option Int :=
  match s with
  | ['Z'] => some 0
  | ['z'] => some 0
  | c :: r =>
    if c = '+' ∨ c = '-' then do
      let (hours, r) ← digits 2 r
      let r ← expect ':' r
      let (minutes, r) ← digits 2 r
      if r = [] ∧ hours ≤ 23 ∧ minutes ≤ 59 then
        let seconds : Int := (hours * 60 + minutes : Nat) * 60
        some (if c = '-' then -seconds else seconds)
      else none
    else none
  | [] => none

/-- A timestamp may stand for a leap second if UTC shows the last second of a month. -/
def endsMonth (t : Timestamp) : Bool :=
  let u := utc t.nanos
  u.secondOfDay == 86399 && u.date.day == daysInMonth u.date.year u.date.month

/-- Reads an RFC 3339 text. -/
def ofRfc3339? (s : List Char) : Option Timestamp := do
  let (year, s) ← digits 4 s
  let s ← expect '-' s
  let (month, s) ← digits 2 s
  let s ← expect '-' s
  let (day, s) ← digits 2 s
  -- Any ASCII character may stand between date and time.
  let (between, s) ← s.head?.map (·, s.tail)
  let (hour, s) ← digits 2 s
  let s ← expect ':' s
  let (minute, s) ← digits 2 s
  let s ← expect ':' s
  let (second, s) ← digits 2 s
  let (subsecond, s) ← readFraction s
  let offset ← readOffset s
  let date ← Date.of? year month day
  if between.toNat < 128 ∧ hour ≤ 23 ∧ minute ≤ 59 ∧ second ≤ 60 then
    -- A leap second is the last one of a month, and is read as the instant before its end.
    if second = 60 then
      let t := ofLocal date ((hour * 60 + minute) * 60 + 59) 999999999 offset
      if t.endsMonth then some t else none
    else some (ofLocal date ((hour * 60 + minute) * 60 + second) subsecond offset)
  else none

end HttpState.Time.Timestamp
