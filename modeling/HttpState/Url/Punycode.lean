/-!
# Punycode

The encoding of a Unicode text in ASCII (RFC 3492). The ASCII characters come first, then a hyphen
if there are any, then the others in ascending order, each as the number of steps from the one
before it. Numbers are written in base 36 with thresholds that adapt to the text; they are kept
below 2^32.
-/

namespace HttpState.Url.Punycode

/-- The digit of a value below 36: letters first. -/
def digitChar (d : Nat) : Char :=
  if d < 26 then Char.ofNat (97 + d) else Char.ofNat (22 + d)

/-- The value of a digit. -/
def digit? (c : Char) : Option Nat :=
  if 'a' ≤ c ∧ c ≤ 'z' then some (c.toNat - 97)
  else if '0' ≤ c ∧ c ≤ '9' then some (c.toNat - 22)
  else none

/-- The threshold of the digit at a place, places counted 36, 72, 108 and so on. -/
def threshold (place bias : Nat) : Nat :=
  if place ≤ bias then 1 else if place ≥ bias + 26 then 26 else place - bias

/-- Divides by 35 as long as the number is above 455, with at most `fuel` divisions. -/
def adaptLoop : Nat → Nat → Nat → Nat
  | 0, delta, k => k + 36 * delta / (delta + 38)
  | fuel + 1, delta, k =>
    if delta > 455 then adaptLoop fuel (delta / 35) (k + 36) else k + 36 * delta / (delta + 38)

/-- The bias after a step of `delta` that made `count` characters of the text known. -/
def adapt (delta count : Nat) (first : Bool) : Nat :=
  let delta := if first then delta / 700 else delta / 2
  let delta := delta + delta / count
  adaptLoop delta delta 0

/-- The digits of a number from a place on; a number `q` has at most `q + 1` digits. -/
def digitsFrom (bias : Nat) : Nat → Nat → Nat → List Char
  | 0, _, q => [digitChar q]
  | fuel + 1, place, q =>
    let t := threshold place bias
    if q < t then [digitChar q]
    else
      digitChar (t + (q - t) % (36 - t)) ::
        digitsFrom bias fuel (place + 36) ((q - t) / (36 - t))

/-- The state of the encoder: what has been written, the steps since the last number, the bias,
    and how many characters of the text have been dealt with. -/
structure Encoding where
  output : List Char
  delta : Nat
  bias : Nat
  handled : Nat

/-- Passes a character of the text while the code point `m` is dealt with; `basic` is the number
    of ASCII characters. -/
def Encoding.pass (basic m : Nat) (e : Encoding) (c : Char) : Encoding :=
  if c.toNat < m then { e with delta := e.delta + 1 }
  else if c.toNat = m then
    { output := e.output ++ digitsFrom e.bias e.delta 36 e.delta
      delta := 0
      bias := adapt e.delta (e.handled + 1) (e.handled == basic)
      handled := e.handled + 1 }
  else e

/-- Deals with the code points of a list, in ascending order and all above those dealt with; `n`
    is the next code point. -/
def encodeAbove (s : List Char) (basic : Nat) : Nat → List Nat → Encoding → Encoding
  | _, [], e => e
  | n, m :: ms, e =>
    let e := { e with delta := e.delta + (m - n) * (e.handled + 1) }
    let e := s.foldl (Encoding.pass basic m) e
    encodeAbove s basic (m + 1) ms { e with delta := e.delta + 1 }

/-- The distinct code points above ASCII of a text, in ascending order. -/
def codePointsAbove (s : List Char) : List Nat :=
  ((s.map Char.toNat).filter (0x80 ≤ ·)).eraseDups.mergeSort

/-- The encoding of a text. -/
def encode (s : List Char) : List Char :=
  let basic := s.filter (·.toNat < 0x80)
  let head := if basic.isEmpty then [] else basic ++ ['-']
  (encodeAbove s basic.length 0x80 (codePointsAbove s) ⟨head, 0, 72, basic.length⟩).output

/-- The state of the decoder. -/
structure Decoding where
  output : List Char
  /-- The code point of the next character. -/
  code : Nat
  /-- The position of the next character, plus what the number read so far adds to it. -/
  index : Nat
  bias : Nat
  /-- `index` before the number that is being read. -/
  start : Nat
  /-- The weight of the next digit. -/
  weight : Nat
  /-- The place of the next digit: 36 between two numbers. -/
  place : Nat

/-- Reads a digit. Numbers of 2^32 and more are refused. -/
def Decoding.step (d : Decoding) (c : Char) : Option Decoding := do
  let value ← digit? c
  let index := d.index + value * d.weight
  let t := threshold d.place d.bias
  if index ≥ 0x100000000 then none
  -- A digit below the threshold is the last one of a number, which says what is put where.
  else if value < t then
    let count := d.output.length + 1
    let code := d.code + index / count
    if code.isValidChar then
      let position := index % count
      some {
        output := d.output.take position ++ Char.ofNat code :: d.output.drop position
        code := code
        index := position + 1
        bias := adapt (index - d.start) count (d.start == 0)
        start := position + 1
        weight := 1
        place := 36 }
    else none
  else if d.weight * (36 - t) ≥ 0x100000000 then none
  else some { d with index := index, weight := d.weight * (36 - t), place := d.place + 36 }

/-- Splits an encoded text at its last hyphen, unless that is its first character. -/
def splitBasic (s : List Char) : List Char × List Char :=
  let tail := (s.reverse.takeWhile (· != '-')).reverse
  let basic := s.take (s.length - tail.length - 1)
  if basic.isEmpty then ([], s) else (basic, tail)

/-- The text that an ASCII text encodes. -/
def decode? (s : List Char) : Option (List Char) := do
  let (basic, tail) := splitBasic s
  let d ← tail.foldlM Decoding.step ⟨basic, 0x80, 0, 72, 0, 1, 36⟩
  if d.place = 36 then some d.output else none

end HttpState.Url.Punycode
