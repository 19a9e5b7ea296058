import HttpState.Json.Reader

/-!
# Records in JSON

A record with named fields is an object, or an array that holds the fields in order. An object may
have further members, which are passed over, but none of the fields twice.
-/

namespace HttpState.Json

open HttpState.Text

/-- The value of a field in a list of members, if it is there. -/
def member? (name : List Char) (ms : List (Option (List Char) × Json)) : Option Json :=
  (ms.find? fun m => m.1 == some name).map (·.2)

/-- The values of the named fields of a record; a field that an object lacks has none. -/
def fields? (names : List (List Char)) : Json → Option (List (Option Json))
  | .object ms =>
    if ms.all (·.1.isSome) && names.all fun n => (ms.filter fun m => m.1 == some n).length ≤ 1 then
      some (names.map fun n => member? n ms)
    else none
  | .array items => if items.length = names.length then some (items.map some) else none
  | _ => none

/-- The text of a string. -/
def text? : Json → Option String
  | .string (some t) => some (String.ofList t)
  | _ => none

/-- The truth value of `true` or `false`. -/
def bool? : Json → Option Bool
  | .bool b => some b
  | _ => none

/-- `null` as nothing, any other value as `read` takes it. -/
def nullable? {α : Type} (read : Json → Option α) : Json → Option (Option α)
  | .null => some none
  | j => (read j).map some

/-- The natural number below `bound` that a number without sign, fraction and exponent denotes. -/
def natBelow? (bound : Nat) : Json → Option Nat
  | .number ds =>
    if ds.all Char.isDigit && decimal ds < bound then some (decimal ds) else none
  | _ => none

/-- The items of an array, each as `read` takes it. -/
def items? {α : Type} (read : Json → Option α) : Json → Option (List α)
  | .array items => items.mapM read
  | _ => none

end HttpState.Json
