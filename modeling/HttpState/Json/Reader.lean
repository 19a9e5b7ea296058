import HttpState.Json.Value
import HttpState.Text.Scan

/-!
# Reading JSON

The reader accepts exactly the JSON grammar: blanks are space, tab, line feed and carriage return,
control characters in strings are escaped, numbers have no leading zeros, and nothing but blanks
follows the value. The nesting depth is not limited.

The mutually recursive readers take a bound on the number of calls on the way down; a text of `n`
characters never needs more than `2 * n + 2`.
-/

namespace HttpState.Json

open HttpState.Text

/-- The blanks between tokens. -/
def isSpace (c : Char) : Bool :=
  c == ' ' || c == '\t' || c == '\n' || c == '\r'

/-- Skips blanks. -/
def skipSpace (s : List Char) : List Char := s.dropWhile isSpace

/-- The number of a `\u` escape. -/
def escapeUnit? (a b c d : Char) : Option Nat := do
  let a ← hexDigit? a
  let b ← hexDigit? b
  let c ← hexDigit? c
  let d ← hexDigit? d
  some (((a * 16 + b) * 16 + c) * 16 + d)

/-- The character of an escape other than `\u`. -/
def escapedChar? (c : Char) : Option Char :=
  if c = '"' ∨ c = '\\' ∨ c = '/' then some c
  else if c = 'b' then some '\x08'
  else if c = 'f' then some '\x0c'
  else if c = 'n' then some '\n'
  else if c = 'r' then some '\r'
  else if c = 't' then some '\t'
  else none

/-- First halves of surrogate pairs. -/
def isHighSurrogate (u : Nat) : Bool := 0xD800 ≤ u && u < 0xDC00

/-- Second halves of surrogate pairs. -/
def isLowSurrogate (u : Nat) : Bool := 0xDC00 ≤ u && u < 0xE000

/-- Puts a character in front of a string read so far. -/
def consChar (c : Char) : Option (List Char) × List Char → Option (List Char) × List Char
  | (t, r) => (t.map (c :: ·), r)

/-- Puts half a surrogate pair in front of a string read so far: it denotes no text any more. -/
def consHalf : Option (List Char) × List Char → Option (List Char) × List Char
  | (_, r) => (none, r)

/-- What has been read after the first half of a surrogate pair that has no second half. -/
def afterHalf (high : Option Nat) (r : Option (List Char) × List Char) :
    Option (List Char) × List Char :=
  if high.isSome then consHalf r else r

/-- Reads a string from after its opening quote, or from after the first half `high` of a surrogate
    pair. -/
def readString (high : Option Nat) : List Char → Option (Option (List Char) × List Char)
  | [] => none
  | '"' :: r => some (afterHalf high (some [], r))
  | '\\' :: 'u' :: a :: b :: c :: d :: r =>
    match escapeUnit? a b c d with
    | none => none
    | some u =>
      -- The second half of a pair may follow, so the first one is remembered.
      if isHighSurrogate u then (readString (some u) r).map (afterHalf high)
      else if isLowSurrogate u then
        match high with
        | some h =>
          (readString none r).map
            (consChar (Char.ofNat (0x10000 + (h - 0xD800) * 0x400 + (u - 0xDC00))))
        | none => (readString none r).map consHalf
      else (readString none r).map (afterHalf high ∘ consChar (Char.ofNat u))
  | '\\' :: c :: r =>
    match escapedChar? c with
    | none => none
    | some c => (readString none r).map (afterHalf high ∘ consChar c)
  | c :: r =>
    -- Control characters have to be escaped.
    if c.toNat < 0x20 then none
    else (readString none r).map (afterHalf high ∘ consChar c)

/-- Reads the digits of a number: at least one. -/
def readDigits (s : List Char) : Option (List Char × List Char) :=
  let ds := s.takeWhile Char.isDigit
  if ds.isEmpty then none else some (ds, s.dropWhile Char.isDigit)

/-- Reads the integer part of a number: a zero, or digits that begin with another one. -/
def readInteger (s : List Char) : Option (List Char × List Char) :=
  match s with
  | '0' :: r => if (r.head?.map Char.isDigit).getD false then none else some (['0'], r)
  | _ => readDigits s

/-- Reads the fraction of a number, if there is one. -/
def readFraction (s : List Char) : Option (List Char × List Char) :=
  match s with
  | '.' :: r => (readDigits r).map fun (ds, r) => ('.' :: ds, r)
  | _ => some ([], s)

/-- Reads the exponent of a number, if there is one. -/
def readExponent (s : List Char) : Option (List Char × List Char) :=
  match s with
  | e :: r =>
    if e = 'e' ∨ e = 'E' then
      match r with
      | c :: r' =>
        if c = '+' ∨ c = '-' then (readDigits r').map fun (ds, r) => (e :: c :: ds, r)
        else (readDigits r).map fun (ds, r) => (e :: ds, r)
      | [] => none
    else some ([], s)
  | [] => some ([], s)

/-- Reads a number without a sign. -/
def readUnsigned (s : List Char) : Option (List Char × List Char) := do
  let (i, s) ← readInteger s
  let (f, s) ← readFraction s
  let (e, s) ← readExponent s
  some (i ++ f ++ e, s)

/-- Reads a number. -/
def readNumber (s : List Char) : Option (List Char × List Char) :=
  match s with
  | '-' :: r => (readUnsigned r).map fun (ds, r) => ('-' :: ds, r)
  | _ => readUnsigned s

mutual

/-- Reads a value. -/
def readValue : Nat → List Char → Option (Json × List Char)
  | 0, _ => none
  | n + 1, s =>
    match skipSpace s with
    | 'n' :: r => (expectWord ['u', 'l', 'l'] r).map fun r => (.null, r)
    | 't' :: r => (expectWord ['r', 'u', 'e'] r).map fun r => (.bool true, r)
    | 'f' :: r => (expectWord ['a', 'l', 's', 'e'] r).map fun r => (.bool false, r)
    | '"' :: r => (readString none r).map fun (t, r) => (.string t, r)
    | '[' :: r =>
      match skipSpace r with
      | ']' :: r => some (.array [], r)
      | r => (readItems n r).map fun (xs, r) => (.array xs, r)
    | '\x7b' :: r =>
      match skipSpace r with
      | '\x7d' :: r => some (.object [], r)
      | r => (readMembers n r).map fun (ms, r) => (.object ms, r)
    | r => (readNumber r).map fun (ds, r) => (.number ds, r)

/-- Reads the items of an array that has some, up to its end. -/
def readItems : Nat → List Char → Option (List Json × List Char)
  | 0, _ => none
  | n + 1, s =>
    match readValue n s with
    | none => none
    | some (x, s) =>
      match skipSpace s with
      | ']' :: r => some ([x], r)
      | ',' :: r => (readItems n r).map fun (xs, r) => (x :: xs, r)
      | _ => none

/-- Reads the members of an object that has some, up to its end. -/
def readMembers : Nat → List Char → Option (List (Option (List Char) × Json) × List Char)
  | 0, _ => none
  | n + 1, s =>
    match skipSpace s with
    | '"' :: r =>
      match readString none r with
      | none => none
      | some (k, r) =>
        match skipSpace r with
        | ':' :: r =>
          match readValue n r with
          | none => none
          | some (v, s) =>
            match skipSpace s with
            | '\x7d' :: r => some ([(k, v)], r)
            | ',' :: r => (readMembers n r).map fun (ms, r) => ((k, v) :: ms, r)
            | _ => none
        | _ => none
    | _ => none

end

/-- Reads a text that is one JSON value. -/
def parse? (s : List Char) : Option Json :=
  match readValue (2 * s.length + 2) s with
  | some (j, r) => if skipSpace r = [] then some j else none
  | none => none

end HttpState.Json
