import HttpState.Text.Scan

/-!
# Real numbers of a database

A database keeps a real number with 53 binary digits, and takes for any other number the nearest one
that can be kept. Every number that can be kept is a decimal number, so real numbers are kept as
decimal numbers here, and nothing is lost.
-/

namespace HttpState.Storage

open HttpState.Text

/-- The real number that is the numerator divided by a power of ten. -/
structure Decimal where
  numerator : Int
  scale : Nat
  deriving DecidableEq, Repr

/-- The quotient of two numbers rounded to an integer, a half to the even neighbour. -/
def roundQuotient (n d : Nat) : Nat :=
  let q := n / d
  let twice := 2 * (n % d)
  if twice < d ∨ (twice = d ∧ q % 2 = 0) then q else q + 1

/-- The number that is one doubled `n` times. -/
def powerOfTwo (n : Nat) : Nat := Nat.pow 2 n

namespace Decimal

/-- The smallest exponent of two that numbers are kept with. -/
def minExponent : Int := -1074

/-- The exponent of two at which a quotient of positive numbers has 53 or 54 binary digits, or the
    smallest one. -/
def firstExponent (n d : Nat) : Int := max minExponent ((n.log2 : Int) - d.log2 - 53)

/-- A quotient of positive numbers in units of two to the power `e`, rounded. -/
def inUnits (n d : Nat) (e : Int) : Nat :=
  if e < 0 then roundQuotient (n * powerOfTwo e.natAbs) d
  else roundQuotient n (d * powerOfTwo e.natAbs)

/-- The exponent of two at which a quotient of positive numbers has 53 binary digits, or the
    smallest one. -/
def exponent (n d : Nat) : Int :=
  let e := firstExponent n d
  if n * powerOfTwo (-e).toNat < d * powerOfTwo (e.toNat + 53) then e else e + 1

/-- The number that is `m` units of two to the power `e`. -/
def ofUnits (m : Nat) (e : Int) : Decimal :=
  if e < 0 then ⟨(m * Nat.pow 5 e.natAbs : Nat), e.natAbs⟩
  else ⟨(m * powerOfTwo e.natAbs : Nat), 0⟩

/-- The number that is kept for a decimal number: the nearest one of 53 binary digits, of two the
    one with an even last digit; `none` stands for numbers that are too large. -/
def nearest? (r : Decimal) : Option Decimal :=
  let n := r.numerator.natAbs
  if n = 0 then some ⟨0, 0⟩
  else
    let d := powerOfTen r.scale
    let e := exponent n d
    let k := ofUnits (inUnits n d e) e
    -- Larger numbers are infinite.
    if k.numerator < powerOfTwo 1024 * powerOfTen k.scale then
      some (if r.numerator < 0 then ⟨-k.numerator, k.scale⟩ else k)
    else none

/-- The integer that a real number is, if it is one. -/
def integer? (r : Decimal) : Option Int :=
  let unit : Int := powerOfTen r.scale
  if r.numerator % unit = 0 then some (r.numerator / unit) else none

/-- Rounds digits to at most 15, half up; the flag says that the number became a digit longer. -/
def roundDigits (ds : List Char) : List Char × Bool :=
  if ds.length ≤ 15 then (ds, false)
  else
    let n := decimal (ds.take 15) + (if decimal ((ds.drop 15).take 1) ≥ 5 then 1 else 0)
    let r := Nat.toDigits 10 n
    (r.take 15, r.length > 15)

/-- Drops zeros at the end. -/
def dropZeros (ds : List Char) : List Char := (ds.reverse.dropWhile (· == '0')).reverse

/-- A number as text: 15 significant digits at most, always with a decimal point, and with an
    exponent unless it is between -4 and 14. -/
def text (r : Decimal) : List Char :=
  if r.numerator = 0 then ['0', '.', '0']
  else
    let all := Nat.toDigits 10 r.numerator.natAbs
    let (rounded, longer) := roundDigits all
    let ds := dropZeros rounded
    -- The place of the first digit, which rounding may move.
    let exponent : Int := (all.length : Int) - r.scale - 1 + (if longer then 1 else 0)
    let withPoint (whole fraction : List Char) : List Char :=
      whole ++ '.' :: (if fraction.isEmpty then ['0'] else fraction)
    let body :=
      -- Very small and very large numbers are written with an exponent of at least two digits.
      if exponent < -4 ∨ exponent ≥ 15 then
        withPoint (ds.take 1) (ds.drop 1) ++ 'e' :: (if exponent < 0 then '-' else '+') ::
          (let e := Nat.toDigits 10 exponent.natAbs
           if e.length < 2 then '0' :: e else e)
      else if exponent < 0 then
        withPoint ['0'] (List.replicate (exponent.natAbs - 1) '0' ++ ds)
      else
        let whole := exponent.toNat + 1
        withPoint (ds.take whole ++ List.replicate (whole - ds.length) '0') (ds.drop whole)
    if r.numerator < 0 then '-' :: body else body

end Decimal

end HttpState.Storage
