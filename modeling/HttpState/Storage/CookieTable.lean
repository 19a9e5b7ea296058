import HttpState.Cookie.Basic
import HttpState.Storage.Cell

/-!
# Cookies in a database table

A row for each cookie, with domain, path and name as its key. Timestamps are kept as whole seconds,
rounded down. Other programs may have put rows of their own into the table; a row whose cells do not
make a cookie is passed over when the table is read, and hides no other row.
-/

namespace HttpState.Storage

open HttpState.Time (Timestamp nanosPerSecond isCalendarSecond)

/-- A row of the table. -/
structure Row where
  domain : Cell
  path : Cell
  name : Cell
  value : Cell
  hostOnly : Cell
  secure : Cell
  httpOnly : Cell
  sameSite : Cell
  expires : Cell
  created : Cell
  deriving DecidableEq, Repr

/-- The rows of the table, in the order they were inserted. -/
abbrev CookieTable := List Row

namespace Row

/-- The timestamp of a number of seconds. -/
def timestamp? (n : Int) : Option Timestamp :=
  if isCalendarSecond n then some (.utc (n * nanosPerSecond)) else none

/-- The cookie of a row, if it is readable: names, value and paths are texts, flags and creation
    time are integers, and the timestamps lie in the years -9999 to 9999. -/
def cookie? (r : Row) : Option Cookie := do
  some {
    name := ← r.name.text?
    value := ← r.value.text?
    domain := ← r.domain.text?
    path := ← r.path.text?
    hostOnly := (← r.hostOnly.integer?) != 0
    secure := (← r.secure.integer?) != 0
    httpOnly := (← r.httpOnly.integer?) != 0
    sameSite := ← r.sameSite.optional? Cell.text?
    expires := ← r.expires.optional? fun c => c.integer?.bind timestamp?
    created := ← r.created.integer?.bind timestamp? }

/-- A flag as a cell. -/
def flag (b : Bool) : Cell := .integer (if b then 1 else 0)

/-- The row of a cookie. -/
def ofCookie (c : Cookie) : Row where
  domain := .text c.domain
  path := .text c.path
  name := .text c.name
  value := .text c.value
  hostOnly := flag c.hostOnly
  secure := flag c.secure
  httpOnly := flag c.httpOnly
  sameSite := (c.sameSite.map Cell.text).getD .null
  expires := (c.expires.map fun t => Cell.integer t.seconds).getD .null
  created := .integer c.created.seconds

/-- Whether two rows have the same key. -/
def sameKey (r s : Row) : Bool := r.domain == s.domain && r.path == s.path && r.name == s.name

/-- A row as the columns of the table take it. -/
def inColumns (r : Row) : Row where
  domain := r.domain.inTextColumn
  path := r.path.inTextColumn
  name := r.name.inTextColumn
  value := r.value.inTextColumn
  hostOnly := r.hostOnly.inIntegerColumn
  secure := r.secure.inIntegerColumn
  httpOnly := r.httpOnly.inIntegerColumn
  sameSite := r.sameSite.inTextColumn
  expires := r.expires.inIntegerColumn
  created := r.created.inIntegerColumn

/-- The cells that may not be empty: all but `SameSite` and expiry. -/
def required (r : Row) : List Cell :=
  [r.domain, r.path, r.name, r.value, r.hostOnly, r.secure, r.httpOnly, r.created]

end Row

namespace CookieTable

/-- Adds a row, unless a required cell is empty or another row has its key. -/
def insert? (t : CookieTable) (r : Row) : Option CookieTable :=
  let r := r.inColumns
  if r.required.contains .null || t.any (Row.sameKey r) then none else some (t ++ [r])

/-- Adds a row in place of one with its key. -/
def replace (t : CookieTable) (r : Row) : CookieTable := t.filter (!Row.sameKey r ·) ++ [r]

/-- The table with a row for each cookie; of cookies with the same key the last one counts. -/
def ofCookies (cs : List Cookie) : CookieTable := cs.foldl (fun t c => replace t (.ofCookie c)) []

/-- The cookies of the readable rows, in the order of their keys. -/
def cookies (t : CookieTable) : List Cookie :=
  (t.filterMap Row.cookie?).mergeSort fun a b => a.key.le b.key

end CookieTable

end HttpState.Storage
