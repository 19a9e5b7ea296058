import HttpState.Text.Scan

/-!
# Tables of code points

Properties of characters are kept as tables of *runs*: code points at equal distances that share
an entry. Most tables are written as text, one word per run, in hexadecimal:

* `A8` is one code point, `B2-B3` is a run of all code points from the first to the last, and
  `100:12E` is a run of every second one;
* after it stands what the run says: a sign, and numbers separated by points.
-/

namespace HttpState.Unicode

open HttpState.Text

/-- Code points that share an entry of a table. -/
structure Run where
  first : Nat
  last : Nat
  /-- The distance between two code points of the run. -/
  step : Nat
  /-- The sign of the entry, `none` for a run of a mere set of code points. -/
  sign : Option Char
  numbers : List Nat
  deriving Repr

/-- A property of code points. -/
abbrev Table := Array Run

namespace Run

/-- Splits a word after its leading hexadecimal digits. -/
def spanHex (s : List Char) : Nat × List Char :=
  let p := fun c => (hexDigit? c).isSome
  (hexadecimal (s.takeWhile p), s.dropWhile p)

/-- The run that a word writes. -/
def ofWord (s : List Char) : Run :=
  let (first, s) := spanHex s
  -- A run is a code point, all from one to another, or every second one of these.
  let (last, step, s) :=
    match s with
    | '-' :: r => let (last, r) := spanHex r; (last, 1, r)
    | ':' :: r => let (last, r) := spanHex r; (last, 2, r)
    | _ => (first, 1, s)
  match s with
  | [] => ⟨first, last, step, none, []⟩
  | sign :: r =>
    ⟨first, last, step, some sign, if r.isEmpty then [] else (r.splitOn '.').map hexadecimal⟩

/-- Whether a code point belongs to a run. -/
def contains (r : Run) (n : Nat) : Bool :=
  r.first ≤ n && n ≤ r.last && (n - r.first) % r.step == 0

end Run

namespace Table

/-- The table that a text writes. -/
def ofText (s : String) : Table :=
  (((s.toList.splitOnP Char.isWhitespace).filter (!·.isEmpty)).map Run.ofWord).toArray

/-- The table of these runs. -/
def ofRuns (rs : List Run) : Table := rs.toArray

/-- The first run that satisfies `p`. -/
def findRun? (t : Table) (p : Run → Bool) : Option Run := Array.find? p t

/-- The run that a code point belongs to. -/
def find? (t : Table) (n : Nat) : Option Run := t.findRun? (·.contains n)

/-- Whether a code point belongs to a run of the table. -/
def contains (t : Table) (n : Nat) : Bool := t.any (·.contains n)

end Table

end HttpState.Unicode
