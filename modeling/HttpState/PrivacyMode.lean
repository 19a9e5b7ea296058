import HttpState.Json.Record

/-!
# Privacy modes

Normal and private browsing have a jar each. A mode is written in JSON as its name, and read also
as an object with the name as its only member and `null` as the value.
-/

namespace HttpState

/-- Selects the jar of normal or of private browsing. -/
inductive PrivacyMode where
  | normal
  /-- Private browsing: its jar is never written to a store. -/
  | privateBrowsing
  deriving DecidableEq, Repr, Inhabited

namespace PrivacyMode

/-- The mode of a flag for private browsing. -/
def ofBool (privateBrowsing : Bool) : PrivacyMode :=
  if privateBrowsing then .privateBrowsing else .normal

/-- Whether the mode is private browsing. -/
def isPrivate : PrivacyMode → Bool
  | .normal => false
  | .privateBrowsing => true

/-- The mode as it is shown. -/
def text : PrivacyMode → String
  | .normal => "normal"
  | .privateBrowsing => "private"

/-- The name of the mode in JSON. -/
def jsonName : PrivacyMode → String
  | .normal => "Normal"
  | .privateBrowsing => "Private"

/-- The mode with a name in JSON. -/
def ofJsonName? (s : String) : Option PrivacyMode :=
  if s = "Normal" then some .normal
  else if s = "Private" then some .privateBrowsing
  else none

/-- The mode in JSON. -/
def toJson (m : PrivacyMode) : Json := .ofText m.jsonName

/-- Reads a mode from JSON. -/
def ofJson? : Json → Option PrivacyMode
  | .string (some t) => ofJsonName? (String.ofList t)
  | .object [(some t, .null)] => ofJsonName? (String.ofList t)
  | _ => none

/-- Reads a text that is a mode in JSON. -/
def parse? (s : String) : Option PrivacyMode := (Json.parse? s.toList).bind ofJson?

/-- The two modes and the two truth values correspond. -/
theorem ofBool_isPrivate (m : PrivacyMode) : ofBool m.isPrivate = m := by
  cases m <;> rfl

/-- Reading gives back the mode that was written. -/
theorem ofJson?_toJson (m : PrivacyMode) : ofJson? m.toJson = some m := by
  cases m <;> rfl

end PrivacyMode

end HttpState
