import HttpState.Time.Timestamp

/-!
# Cookies

A cookie is identified by its domain, path and name, its *key*; keys are ordered by domain, then
path, then name, each by code points. A cookie without an expiry belongs to a session and is never
written to a store.
-/

namespace HttpState

open Time (Timestamp)

/-- A cookie as a jar holds it. -/
structure Cookie where
  name : String
  value : String
  /-- The domain it is sent to, without a leading dot. That of a file's cookie is the host in the
      URL of the file, which is mostly empty. -/
  domain : String
  /-- The path it is sent to, and everything below it. -/
  path : String
  /-- It is sent to exactly its domain, not to domains below it. -/
  hostOnly : Bool
  /-- It is sent over secure channels only. -/
  secure : Bool
  /-- Scripts may not see it. -/
  httpOnly : Bool
  /-- What its `SameSite` attribute says. -/
  sameSite : Option String
  /-- When it expires; session cookies do not. -/
  expires : Option Timestamp
  /-- When it was first stored; a cookie that replaces another one takes its creation time over. -/
  created : Timestamp
  deriving DecidableEq, Repr

namespace Cookie

/-- Domain, path and name of a cookie: a jar holds at most one cookie with each key. -/
structure Key where
  domain : String
  path : String
  name : String
  deriving DecidableEq, Repr

/-- The key of a cookie. -/
def key (c : Cookie) : Key := ⟨c.domain, c.path, c.name⟩

/-- The order of keys: by domain, then path, then name. -/
def Key.le (a b : Key) : Bool :=
  if a.domain = b.domain then
    if a.path = b.path then a.name ≤ b.name else a.path ≤ b.path
  else a.domain ≤ b.domain

/-- A persistent cookie has an expiry; all others are session cookies. -/
def isPersistent (c : Cookie) : Bool := c.expires.isSome

/-- A cookie has expired once the clock reads its expiry. -/
def isExpired (now : Int) (c : Cookie) : Bool :=
  match c.expires with
  | some t => t.nanos ≤ now
  | none => false

/-- The cookie as a request sends it. -/
def pair (c : Cookie) : String := c.name ++ "=" ++ c.value

end Cookie

end HttpState
