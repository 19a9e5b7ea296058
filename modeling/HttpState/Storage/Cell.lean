import HttpState.Storage.Decimal

/-!
# Cells of a database table

A cell holds nothing, a text, an integer of 64 bits or a real number. The column it is put into has
a preference: an integer column turns texts and real numbers that denote integers into integers, and
a text column turns numbers into text. Everything else is kept as it is.
-/

namespace HttpState.Storage

open HttpState.Text

/-- A cell of a table. -/
inductive Cell where
  | null
  | text (s : String)
  | integer (n : Int)
  | real (r : Decimal)
  deriving DecidableEq, Repr

/-- Whether a number fits an integer cell. -/
def fitsInteger (n : Int) : Bool := -0x8000000000000000 ≤ n && n < 0x8000000000000000

namespace Cell

/-- The blanks that may surround a number in a text. -/
def isNumberBlank (c : Char) : Bool := c == ' ' || (0x9 ≤ c.toNat && c.toNat ≤ 0xD)

/-- A number as it is written in a text. -/
structure Numeral where
  negative : Bool
  /-- The digits of the number, those of its fraction included. -/
  digits : List Char
  /-- The power of ten of the last digit. -/
  exponent : Int
  /-- There is neither a decimal point nor an exponent. -/
  plain : Bool
  deriving DecidableEq, Repr

/-- Reads the exponent behind a number, if nothing else follows. -/
def readExponent? (s : List Char) : Option Int :=
  match s with
  | [] => some 0
  | e :: r =>
    if e = 'e' ∨ e = 'E' then
      let (negative, r) :=
        match r with
        | '-' :: t => (true, t)
        | '+' :: t => (false, t)
        | _ => (false, r)
      if r.isEmpty ∨ !r.all Char.isDigit then none
      else some (if negative then -decimal r else decimal r)
    else none

/-- Reads a text that is a number with blanks around it: a sign, digits with a point somewhere, and
    an exponent, of which only a digit has to be there. -/
def readNumeral? (s : List Char) : Option Numeral :=
  -- Blanks around the number do not count.
  let body := ((s.dropWhile isNumberBlank).reverse.dropWhile isNumberBlank).reverse
  let (negative, body) :=
    match body with
    | '-' :: t => (true, t)
    | '+' :: t => (false, t)
    | _ => (false, body)
  let whole := body.takeWhile Char.isDigit
  let tail := body.dropWhile Char.isDigit
  let (fraction, rest) :=
    match tail with
    | '.' :: r => (r.takeWhile Char.isDigit, r.dropWhile Char.isDigit)
    | _ => ([], tail)
  -- One of the two has to have digits.
  if whole.isEmpty ∧ fraction.isEmpty then none
  else (readExponent? rest).map fun e => ⟨negative, whole ++ fraction, e - fraction.length,
    tail.isEmpty⟩

namespace Numeral

/-- The size of the number of the digits. -/
def size (n : Numeral) : Int := if n.negative then -decimal n.digits else decimal n.digits

/-- The real number that is kept for a numeral. Numbers below every number that can be kept are
    zero, and those above are refused, before they are written out. -/
def real? (n : Numeral) : Option Decimal :=
  let ds := n.digits.dropWhile (· == '0')
  let magnitude : Int := ds.length + n.exponent
  if ds.isEmpty ∨ magnitude < -400 then some ⟨0, 0⟩
  else if magnitude > 400 then none
  else if n.exponent < 0 then Decimal.nearest? ⟨n.size, n.exponent.natAbs⟩
  else Decimal.nearest? ⟨n.size * powerOfTen n.exponent.natAbs, 0⟩

end Numeral

/-- The integer that an integer column takes for a real number: that number, if it is an integer
    between the smallest and the largest one that fit a cell. -/
def integerOfReal? (r : Decimal) : Option Int :=
  match r.integer? with
  | some n => if -0x8000000000000000 < n ∧ n < 0x7fffffffffffffff then some n else none
  | none => none

/-- The integer that an integer column takes for a text: the integer that it denotes, if it fits a
    cell and is written without point and exponent, or that of the real number that it denotes. -/
def integerText? (s : String) : Option Int :=
  match readNumeral? s.toList with
  | none => none
  | some n =>
    if n.plain && fitsInteger n.size then some n.size
    else n.real?.bind integerOfReal?

/-- The cell of a real number, which is kept as the nearest number that can be kept. -/
def ofDecimal (r : Decimal) : Cell :=
  match r.nearest? with
  | some r => .real r
  | none => .null

/-- A cell as a text column takes it. -/
def inTextColumn : Cell → Cell
  | .integer n => .text (toString n)
  | .real r => .text (String.ofList r.text)
  | c => c

/-- A cell as an integer column takes it. -/
def inIntegerColumn : Cell → Cell
  | .text s =>
    match integerText? s with
    | some n => .integer n
    | none => .text s
  | .real r =>
    match integerOfReal? r with
    | some n => .integer n
    | none => .real r
  | c => c

/-- The text in a cell. -/
def text? : Cell → Option String
  | .text s => some s
  | _ => none

/-- The integer in a cell. -/
def integer? : Cell → Option Int
  | .integer n => some n
  | _ => none

/-- Nothing for an empty cell, or what `read` takes out of any other. -/
def optional? {α : Type} (read : Cell → Option α) : Cell → Option (Option α)
  | .null => some none
  | c => (read c).map some

end Cell

end HttpState.Storage
