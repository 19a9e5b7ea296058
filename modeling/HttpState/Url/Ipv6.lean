import HttpState.Url.Ipv4

/-!
# IPv6 addresses

Eight pieces of 16 bits in hexadecimal, separated by colons. One run of zero pieces may be left out
between two colons, and the last two pieces may be given as an IPv4 address. An address is written
in lower case, with its longest run of at least two zero pieces left out, the first one of equally
long ones.
-/

namespace HttpState.Url.Ipv6

open HttpState.Text

/-- Reads up to four hexadecimal digits. -/
def spanPiece (s : List Char) : List Char × List Char :=
  let ds := (s.takeWhile fun c => (hexDigit? c).isSome).take 4
  (ds, s.drop ds.length)

/-- Reads the pieces that follow the pieces `acc`, at most `room` of them; `gap` is the position in
    `acc` up to which zeros have been left out, if they have. A gap stands for one zero at least. -/
def piecesFrom (acc : List Nat) (gap : Option Nat) :
    Nat → List Char → Option (List Nat × Option Nat)
  | _, [] => some (acc, gap)
  | 0, _ => none
  | room + 1, ':' :: s =>
    -- A second colon is a gap, of which there is one at most.
    if gap.isSome then none else piecesFrom (acc ++ [0]) (some (acc.length + 1)) room s
  | room + 1, s =>
    let (ds, r) := spanPiece s
    match r with
    | '.' :: _ =>
      -- An IPv4 address stands for the last two pieces.
      if ds.isEmpty ∨ room = 0 then none
      else
        (Ipv4.dotted? s).map fun n => (acc ++ [n / 65536, n % 65536], gap)
    | [':'] => none
    | ':' :: r => piecesFrom (acc ++ [hexadecimal ds]) gap room r
    | [] => some (acc ++ [hexadecimal ds], gap)
    | _ => none

/-- The pieces of an address. -/
def ofHost? (s : List Char) : Option (List Nat) :=
  let start : Option (List Nat × Option Nat × List Char) :=
    match s with
    -- A gap may stand in front, a single colon may not.
    | ':' :: ':' :: r => some ([0], some 1, r)
    | ':' :: _ => none
    | _ => some ([], none, s)
  match start with
  | none => none
  | some (acc, gap, r) =>
    match piecesFrom acc gap (8 - acc.length) r with
    -- The gap is filled up with zeros.
    | some (ps, some at') => some (ps.take at' ++ List.replicate (8 - ps.length) 0 ++ ps.drop at')
    | some (ps, none) => if ps.length = 8 then some ps else none
    | none => none

/-- The length of the run of zeros that a list begins with. -/
def zeroRun (ps : List Nat) : Nat := (ps.takeWhile (· == 0)).length

/-- The position and length of the first of the longest runs of zeros. -/
def longestZeroRun : List Nat → Nat × Nat
  | [] => (0, 0)
  | p :: ps =>
    let (start, length) := longestZeroRun ps
    let here := zeroRun (p :: ps)
    if here ≥ length then (0, here) else (start + 1, length)

/-- Pieces in hexadecimal, separated by colons. -/
def renderPieces (ps : List Nat) : List Char :=
  [':'].intercalate (ps.map (Nat.toDigits 16))

/-- An address as it is written. -/
def render (ps : List Nat) : List Char :=
  let (start, length) := longestZeroRun ps
  if length ≥ 2 then
    renderPieces (ps.take start) ++ ':' :: ':' :: renderPieces (ps.drop (start + length))
  else renderPieces ps

end HttpState.Url.Ipv6
