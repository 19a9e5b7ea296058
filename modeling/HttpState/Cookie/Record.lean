import HttpState.Cookie.Basic
import HttpState.Json.Record
import HttpState.Time.Rfc3339

/-!
# Cookies as JSON records

A cookie is a record with ten fields, its timestamps written as RFC 3339 text. Only a cookie whose
timestamps have such a text has a record. Read from an object, a record may lack `same_site`, which
then is `null`, and no other field.
-/

namespace HttpState.Cookie

open HttpState.Time (Timestamp)

/-- The fields of a cookie record, in the order they are written. -/
def fieldNames : List String :=
  ["name", "value", "domain", "path", "host_only", "secure", "http_only", "same_site", "expires",
    "creation_time"]

/-- The record of a cookie. -/
def toJson? (c : Cookie) : Option Json := do
  let expires ← match c.expires with
    | none => some Json.null
    | some t => t.toRfc3339?.map fun s => Json.string (some s)
  let created ← c.created.toRfc3339?
  some (.ofMembers [
    ("name", .ofText c.name),
    ("value", .ofText c.value),
    ("domain", .ofText c.domain),
    ("path", .ofText c.path),
    ("host_only", .bool c.hostOnly),
    ("secure", .bool c.secure),
    ("http_only", .bool c.httpOnly),
    ("same_site", (c.sameSite.map Json.ofText).getD .null),
    ("expires", expires),
    ("creation_time", .string (some created))])

/-- The timestamp of an RFC 3339 string. -/
def timestamp? : Json → Option Timestamp
  | .string (some t) => Timestamp.ofRfc3339? t
  | _ => none

/-- Reads the record of a cookie. -/
def ofJson? (j : Json) : Option Cookie :=
  match j.fields? (fieldNames.map String.toList) with
  -- Only `same_site` may be missing; `expires` has to be there, be it as null.
  | some [some name, some value, some domain, some path, some hostOnly, some secure,
      some httpOnly, sameSite, some expires, some created] => do
    some {
      name := ← name.text?
      value := ← value.text?
      domain := ← domain.text?
      path := ← path.text?
      hostOnly := ← hostOnly.bool?
      secure := ← secure.bool?
      httpOnly := ← httpOnly.bool?
      sameSite := ← (sameSite.getD .null).nullable? Json.text?
      expires := ← expires.nullable? timestamp?
      created := ← timestamp? created }
  | _ => none

/-- Reads a text that is the record of a cookie. -/
def parse? (s : String) : Option Cookie := (Json.parse? s.toList).bind ofJson?

/-- The record of a cookie as text without blanks. -/
def text? (c : Cookie) : Option String := c.toJson?.map fun j => String.ofList j.compact

end HttpState.Cookie
