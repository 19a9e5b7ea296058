import HttpState.Cookie.Record
import HttpState.Text.Blank

/-!
# Files of cookies

A file of cookies is a JSON record with the version of the format and the cookies in order. A blank
file holds no cookies.
-/

namespace HttpState.CookieFile

open HttpState.Text

/-- The version of the format. -/
def version : Nat := 1

/-- Why a file cannot be read. -/
inductive ReadError where
  /-- The text is no record of a version and cookies. -/
  | notARecord
  | unsupportedVersion (version : Nat)
  deriving DecidableEq, Repr

/-- The text of a file with these cookies, if each of them has a record. -/
def text? (cs : List Cookie) : Option String := do
  let records ← cs.mapM Cookie.toJson?
  some (String.ofList
    (Json.ofMembers [("version", .ofNat version), ("cookies", .array records)]).pretty)

/-- Reads the record of a file: its version, which fits 32 bits, and its cookies. -/
def ofJson? (j : Json) : Option (Nat × List Cookie) :=
  match j.fields? ["version".toList, "cookies".toList] with
  | some [some version, some cookies] => do
    some (← version.natBelow? 0x100000000, ← cookies.items? Cookie.ofJson?)
  | _ => none

/-- Reads the text of a file. -/
def parse (s : String) : Except ReadError (List Cookie) :=
  if s.toList.all isBlank then .ok []
  else
    match (Json.parse? s.toList).bind ofJson? with
    | none => .error .notARecord
    | some (v, cs) => if v = version then .ok cs else .error (.unsupportedVersion v)

end HttpState.CookieFile
