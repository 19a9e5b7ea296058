import HttpState.Cookie.Basic
import HttpState.Cookie.Scope
import HttpState.Cookie.SetCookie

/-!
# Cookies as they are received

A header that sets a cookie makes a cookie of the address it came from. Without a domain the cookie
is bound to the host. A domain has to be the host or a domain above it; without a public suffix list
a domain without a full stop has to be the host itself. Files name no domains. Secure cookies come
over secure channels only. `Max-Age` wins over `Expires`, and no cookie lives longer than 400 days;
in the last 400 days of the calendar no cookie can be received.
-/

namespace HttpState.SetCookie

open HttpState.Time

/-- The longest lifetime of a cookie, 400 days in seconds. -/
def longestAllowed : Nat := 400 * 86400

/-- The domain that the header names, in lower case and without full stops in front of it. -/
def namedDomain? (s : SetCookie) : Option (List Char) :=
  match s.domain with
  | none => none
  | some d =>
    let d := d.dropWhile (· == '.')
    if d.isEmpty then none else some (d.map Char.toLower)

/-- The domain of the cookie and whether it is bound to the host, if the address may set it. -/
def domainFor? (s : SetCookie) (a : Address) : Option (String × Bool) :=
  match s.namedDomain? with
  | none => some (a.host, true)
  | some d =>
    let domain := String.ofList d
    -- A file has no domain to name, and a domain of one label has to be the host itself.
    if a.isFile then none
    else if !d.contains '.' && domain != a.host then none
    else if Scope.domainMatches domain a.host false then some (domain, false)
    else none

/-- The path of the cookie. -/
def pathFor (s : SetCookie) (a : Address) : String :=
  match s.path with
  | some ('/' :: p) => String.ofList ('/' :: p)
  | _ => Scope.defaultPath a.path

/-- The expiry of the cookie, in nanoseconds since 1970-01-01T00:00:00Z. There is none to compute
    when the longest lifetime ends beyond the calendar. -/
def expiryAt? (s : SetCookie) (now : Int) : Option (Option Int) := do
  let latest ← later? now longestAllowed
  match s.maxAge with
  | some seconds =>
    if seconds ≥ longestAllowed then some (some latest)
    else (later? now seconds).map some
  | none => some (s.expires.map fun t => min t latest)

/-- What becomes of a header. -/
inductive Reception where
  /-- The address may not set the cookie. -/
  | refused
  /-- The clock is so late that the longest lifetime ends beyond the calendar. -/
  | beyondCalendar
  | cookie (c : Cookie)
  deriving DecidableEq, Repr

/-- The cookie that comes of a header, if one does. -/
def Reception.cookie? : Reception → Option Cookie
  | .cookie c => some c
  | _ => none

/-- What becomes of a header from an address. -/
def receptionFrom (s : SetCookie) (a : Address) (now : Int) : Reception :=
  match s.domainFor? a with
  | none => .refused
  | some (domain, hostOnly) =>
    -- Only a secure channel may set a secure cookie.
    if s.secure && !a.isSecure then .refused
    else
      match s.expiryAt? now with
      | none => .beyondCalendar
      | some expires =>
        .cookie {
          name := String.ofList s.name
          value := String.ofList s.value
          domain := domain
          path := s.pathFor a
          hostOnly := hostOnly
          secure := s.secure
          httpOnly := s.httpOnly
          sameSite := s.sameSite.map SameSite.text
          expires := expires.map Timestamp.utc
          created := Timestamp.utc now }

end HttpState.SetCookie

namespace HttpState.Cookie

open HttpState.SetCookie (Reception)

/-- What becomes of a header value from an address. -/
def reception (a : Address) (header : String) (now : Int) : Reception :=
  match SetCookie.parse? header.toList with
  | none => .refused
  | some s => s.receptionFrom a now

/-- The cookie that a header value sets for an address. -/
def receive? (a : Address) (header : String) (now : Int) : Option Cookie :=
  (reception a header now).cookie?

end HttpState.Cookie
