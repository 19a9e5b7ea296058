import HttpState.Text.Scan

/-!
# IPv4 addresses

In the host of a URL an address has up to four parts, each of which may be decimal, octal (behind
`0`) or hexadecimal (behind `0x`); the last part fills the bytes that the others leave. It is
always written as four decimal numbers.

* `dotted?` reads this written form only.
-/

namespace HttpState.Url.Ipv4

open HttpState.Text

/-- An address as a number below 2^32. -/
abbrev Address := Nat

/-- The number that a part of an address denotes. -/
def part? (s : List Char) : Option Nat :=
  match s with
  | [] => none
  | [c] => digit? c
  | a :: b :: r =>
    -- `0x` stands for hexadecimal, any other leading zero for octal.
    if a = '0' then
      if b = 'x' ∨ b = 'X' then
        if r.all fun c => (hexDigit? c).isSome then some (hexadecimal r) else none
      else if (b :: r).all fun c => '0' ≤ c && c ≤ '7' then some (number 8 digit? (b :: r))
      else none
    else if s.all Char.isDigit then some (decimal s) else none

/-- The parts of an address; one full stop may follow the last. -/
def parts (s : List Char) : List (List Char) :=
  let ps := s.splitOn '.'
  if ps.getLast? = some [] then ps.dropLast else ps

/-- Whether a host is meant as an address: its last part is a number, or looks like one. -/
def isMeant (s : List Char) : Bool :=
  match (parts s).getLast? with
  | none => false
  | some p => (!p.isEmpty && p.all Char.isDigit) || (part? p).isSome

/-- The address of these numbers: all but the last fill a byte each. -/
def ofNumbers? (ns : List Nat) : Option Address :=
  match ns.reverse with
  | [] => none
  | last :: front =>
    let room := Nat.pow 256 (4 - front.length)
    if front.length ≤ 3 ∧ front.all (· ≤ 255) ∧ last < room then
      some (front.reverse.foldl (fun n b => n * 256 + b) 0 * room + last)
    else none

/-- Reads the address that a host is meant as. -/
def ofHost? (s : List Char) : Option Address :=
  ((parts s).mapM part?).bind ofNumbers?

/-- An address as four decimal numbers. -/
def render (n : Address) : List Char :=
  ['.'].intercalate ([n / 0x1000000, n / 0x10000 % 256, n / 0x100 % 256, n % 256].map
    (Nat.toDigits 10))

/-- A decimal number up to 255 without leading zeros. -/
def octet? (s : List Char) : Option Nat :=
  if s ≠ [] ∧ s.all Char.isDigit ∧ (s.length = 1 ∨ s.head? ≠ some '0') ∧ decimal s ≤ 255 then
    some (decimal s)
  else none

/-- Reads an address that is written as four decimal numbers. -/
def dotted? (s : List Char) : Option Address :=
  match (s.splitOn '.').mapM octet? with
  | some [a, b, c, d] => some (((a * 256 + b) * 256 + c) * 256 + d)
  | _ => none

end HttpState.Url.Ipv4
