import HttpState.Text.Blank
import HttpState.Time.HttpDate

/-!
# The header that sets a cookie

A header value is a name and a value, joined by `=`, and attributes, separated by semicolons. The
name may not be empty; the value may. Names of attributes are compared in lower case, a later
attribute replaces an earlier one of the same name, and attributes that are unknown or do not make
sense are passed over.
-/

namespace HttpState

open HttpState.Text

/-- What a cookie's `SameSite` attribute can say. -/
inductive SameSite where
  | strict
  | lax
  | none
  deriving DecidableEq, Repr

/-- A `SameSite` attribute as it is kept. -/
def SameSite.text : SameSite → String
  | .strict => "Strict"
  | .lax => "Lax"
  | .none => "None"

/-- What the header that sets a cookie says. -/
structure SetCookie where
  name : List Char
  value : List Char
  /-- The domain as it is written, never empty. -/
  domain : Option (List Char)
  path : Option (List Char)
  secure : Bool
  httpOnly : Bool
  sameSite : Option SameSite
  /-- The lifetime in seconds. -/
  maxAge : Option Nat
  /-- The expiry in nanoseconds since 1970-01-01T00:00:00Z. -/
  expires : Option Int
  deriving DecidableEq, Repr

namespace SetCookie

/-- Splits a part of a header at its first `=`, if it has one, and drops blanks around both. -/
def splitPair (s : List Char) : List Char × Option (List Char) :=
  match s.dropWhile (· != '=') with
  | _ :: value => (trim (s.takeWhile (· != '=')), some (trim value))
  | [] => (trim s, none)

/-- The longest lifetime that is told apart from longer ones. -/
def longestAge : Nat := 0x7fffffffffffffff

/-- The lifetime that the value of a `Max-Age` attribute denotes: digits behind an optional minus
    sign. With the sign it is zero; without digits it is the longest one. -/
def readMaxAge (s : List Char) : Option Nat :=
  match s with
  | '-' :: r => if r.all Char.isDigit then some 0 else none
  | _ =>
    if s.all Char.isDigit then
      if s.isEmpty ∨ longestAge ≤ decimal s then some longestAge else some (decimal s)
    else none

/-- What the value of a `SameSite` attribute says, in any letter case. -/
def readSameSite (s : List Char) : Option SameSite :=
  let word := String.ofList (s.map Char.toLower)
  if word = "strict" then some .strict
  else if word = "lax" then some .lax
  else if word = "none" then some .none
  else none

/-- Adds an attribute to what has been read. -/
def addAttribute (c : SetCookie) (part : List Char) : SetCookie :=
  let (key, value) := splitPair part
  match String.ofList (key.map Char.toLower), value with
  | "secure", _ => { c with secure := true }
  | "httponly", _ => { c with httpOnly := true }
  | "max-age", some v =>
    -- What cannot be read leaves what an earlier attribute said.
    match readMaxAge v with
    | some n => { c with maxAge := some n }
    | none => c
  | "domain", some v => if v.isEmpty then c else { c with domain := some v }
  | "path", some v => { c with path := some v }
  | "samesite", some v =>
    match readSameSite v with
    | some w => { c with sameSite := some w }
    | none => c
  | "expires", some v =>
    match Time.HttpDate.read? v with
    | some t => { c with expires := some t }
    | none => c
  | _, _ => c

/-- Reads the value of the header. -/
def parse? (s : List Char) : Option SetCookie :=
  match s.splitOn ';' with
  | [] => none
  | pair :: attributes =>
    -- The first part is the cookie itself, with its name and its value.
    match splitPair pair with
    | (name, some value) =>
      if name.isEmpty then none
      else
        some (attributes.foldl addAttribute
          ⟨name, value, none, none, false, false, none, none, none⟩)
    | (_, none) => none

end SetCookie

end HttpState
