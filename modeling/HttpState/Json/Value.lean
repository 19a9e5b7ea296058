/-!
# JSON values and their text

A JSON value keeps what readers of typed records need: numbers as they are written, members in
order and as often as they occur, and strings as the text they denote. A string with the escape of
half a surrogate pair denotes no text; it is still a JSON value, but no record holds one.

There are two written forms: `compact`, without any blanks, and `pretty`, indented by two blanks
per level. Both write non-ASCII characters as they are.
-/

namespace HttpState

/-- A JSON value. -/
inductive Json where
  | null
  | bool (b : Bool)
  /-- A number as it is written. -/
  | number (digits : List Char)
  /-- A string and the text it denotes. -/
  | string (text : Option (List Char))
  | array (items : List Json)
  | object (members : List (Option (List Char) × Json))
  deriving Inhabited

namespace Json

/-- The JSON string of a text. -/
def ofText (s : String) : Json := .string (some s.toList)

/-- The JSON number of a natural number. -/
def ofNat (n : Nat) : Json := .number (Nat.toDigits 10 n)

/-- An object with these members. -/
def ofMembers (ms : List (String × Json)) : Json :=
  .object (ms.map fun (k, v) => (some k.toList, v))

/-- One lower-case hexadecimal digit. -/
def hexChar (n : Nat) : Char :=
  if n < 10 then Char.ofNat (48 + n) else Char.ofNat (87 + n)

/-- A character inside a string: quotes, backslashes and control characters are escaped. -/
def escapeChar (c : Char) : List Char :=
  if c = '"' then ['\\', '"']
  else if c = '\\' then ['\\', '\\']
  else if c.toNat = 0x08 then ['\\', 'b']
  else if c = '\t' then ['\\', 't']
  else if c = '\n' then ['\\', 'n']
  else if c.toNat = 0x0C then ['\\', 'f']
  else if c = '\r' then ['\\', 'r']
  -- All other control characters have two hexadecimal digits.
  else if c.toNat < 0x20 then
    ['\\', 'u', '0', '0', hexChar (c.toNat / 16), hexChar (c.toNat % 16)]
  else [c]

/-- A text as a quoted string. -/
def quoted (s : List Char) : List Char :=
  '"' :: s.flatMap escapeChar ++ ['"']

/-- The string of half a surrogate pair stands for every string that denotes no text. -/
def quotedText : Option (List Char) → List Char
  | some s => quoted s
  | none => ['"', '\\', 'u', 'd', '8', '0', '0', '"']

/-- The word of a truth value. -/
def boolWord (b : Bool) : List Char :=
  if b then ['t', 'r', 'u', 'e'] else ['f', 'a', 'l', 's', 'e']

mutual

/-- The text of a value without blanks. -/
def compact : Json → List Char
  | .null => ['n', 'u', 'l', 'l']
  | .bool b => boolWord b
  | .number ds => ds
  | .string t => quotedText t
  | .array [] => ['[', ']']
  | .array (x :: xs) => '[' :: compact x ++ compactItems xs
  | .object [] => ['\x7b', '\x7d']
  | .object ((k, v) :: ms) =>
    '\x7b' :: quotedText k ++ ':' :: compact v ++ compactMembers ms

/-- The further items of an array, each after a comma, and its end. -/
def compactItems : List Json → List Char
  | [] => [']']
  | x :: xs => ',' :: compact x ++ compactItems xs

/-- The further members of an object, each after a comma, and its end. -/
def compactMembers : List (Option (List Char) × Json) → List Char
  | [] => ['\x7d']
  | (k, v) :: ms => ',' :: quotedText k ++ ':' :: compact v ++ compactMembers ms

end

/-- A new line indented to a level. -/
def newline (level : Nat) : List Char :=
  '\n' :: List.replicate (2 * level) ' '

mutual

/-- The text of a value inside `level` open arrays and objects, one item or member per line. -/
def prettyAt (level : Nat) : Json → List Char
  | .null => ['n', 'u', 'l', 'l']
  | .bool b => boolWord b
  | .number ds => ds
  | .string t => quotedText t
  | .array [] => ['[', ']']
  | .array (x :: xs) =>
    '[' :: newline (level + 1) ++ prettyAt (level + 1) x ++ prettyItems level xs
  | .object [] => ['\x7b', '\x7d']
  | .object ((k, v) :: ms) =>
    '\x7b' :: newline (level + 1) ++ quotedText k ++ ':' :: ' ' :: prettyAt (level + 1) v ++
      prettyMembers level ms

/-- The further items of an array at a level, and its end. -/
def prettyItems (level : Nat) : List Json → List Char
  | [] => newline level ++ [']']
  | x :: xs => ',' :: newline (level + 1) ++ prettyAt (level + 1) x ++ prettyItems level xs

/-- The further members of an object at a level, and its end. -/
def prettyMembers (level : Nat) : List (Option (List Char) × Json) → List Char
  | [] => newline level ++ ['\x7d']
  | (k, v) :: ms =>
    ',' :: newline (level + 1) ++ quotedText k ++ ':' :: ' ' :: prettyAt (level + 1) v ++
      prettyMembers level ms

end

/-- The text of a value, one item or member per line. -/
def pretty (j : Json) : List Char := prettyAt 0 j

end Json

end HttpState
