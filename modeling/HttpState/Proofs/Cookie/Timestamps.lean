import HttpState.Cookie.Basic

/-!
# The timestamps of a cookie

A cookie has one or two timestamps: when it was created, and when it expires. Rounded down to whole
seconds, they are not later than before; this is also so for times before 1970.

- `Timestamp.nanos_floor_le`: what rounding down does
-/

namespace HttpState

open Time (Timestamp nanosPerSecond)

namespace Time.Timestamp

/-- The last whole second that is not later, on the clock of UTC. -/
def floor (t : Timestamp) : Timestamp := .utc (t.seconds * nanosPerSecond)

/-- Rounding down does not make a time later. -/
theorem nanos_floor_le (t : Timestamp) : t.floor.nanos ≤ t.nanos := by
  simp only [floor, utc, seconds, nanosPerSecond]
  omega

end Time.Timestamp

namespace Cookie

/-- The timestamps of a cookie. -/
def timestamps (c : Cookie) : List Timestamp := c.created :: c.expires.toList

/-- The cookie with its timestamps rounded down to whole seconds. -/
def inSeconds (c : Cookie) : Cookie :=
  { c with expires := c.expires.map Timestamp.floor, created := c.created.floor }

end Cookie

end HttpState
