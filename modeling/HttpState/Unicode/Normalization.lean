import HttpState.Unicode.CombiningClass
import HttpState.Unicode.DecompositionTable
import HttpState.Unicode.HostMapping

/-!
# Normalization form C

Canonically equivalent texts have one normal form: every character is decomposed, the marks after
a letter are put in the order of their combining classes, and letters are composed again with the
marks that follow them. Hangul syllables are composed of their letters by computation, all others
by table. An ASCII text is its own normal form.
-/

namespace HttpState.Unicode

/-- The decomposition of a code point, at most `depth` levels down. Only the first part of a
    decomposition can have a decomposition of its own. -/
def decomposeWithin : Nat → Nat → List Nat
  | 0, n => [n]
  | depth + 1, n =>
    match decompositionTable.find? n with
    | none => [n]
    | some r =>
      match r.numbers with
      | [] => [n]
      -- Only the first part can have parts itself.
      | first :: rest => decomposeWithin depth first ++ rest

/-- The letters of a Hangul syllable, the `i`-th one. -/
def hangulLetters (i : Nat) : List Nat :=
  let l := 0x1100 + i / 588
  let v := 0x1161 + i % 588 / 28
  if i % 28 = 0 then [l, v] else [l, v, 0x11A7 + i % 28]

/-- The full canonical decomposition of a character. -/
def decompose (c : Char) : List Char :=
  let n := c.toNat
  if n < 0xC0 then [c]
  else if 0xAC00 ≤ n ∧ n < 0xAC00 + 11172 then (hangulLetters (n - 0xAC00)).map Char.ofNat
  else (decomposeWithin 4 n).map Char.ofNat

/-- Puts a character in front of an ordered text, behind the marks of lower classes. -/
def insertMark (c : Char) : List Char → List Char
  | [] => [c]
  | d :: s =>
    if 0 < combiningClass d ∧ combiningClass d < combiningClass c then d :: insertMark c s
    else c :: d :: s

/-- Orders the marks after each letter by their classes; marks of one class keep their order. -/
def reorder (s : List Char) : List Char := s.foldr insertMark []

/-- The Hangul syllable of two code points, if they make up one. -/
def hangulSyllable? (a b : Nat) : Option Nat :=
  if 0x1100 ≤ a ∧ a < 0x1100 + 19 ∧ 0x1161 ≤ b ∧ b < 0x1161 + 21 then
    some (0xAC00 + ((a - 0x1100) * 21 + (b - 0x1161)) * 28)
  else if 0xAC00 ≤ a ∧ a < 0xAC00 + 11172 ∧ (a - 0xAC00) % 28 = 0 ∧
      0x11A7 < b ∧ b < 0x11A7 + 28 then
    some (a + (b - 0x11A7))
  else none

/-- The character that a letter and the character after it compose. -/
def composite? (a b : Char) : Option Char :=
  match hangulSyllable? a.toNat b.toNat with
  | some n => some (Char.ofNat n)
  | none =>
    (decompositionTable.findRun? fun r =>
      r.sign == some '=' && r.numbers == [a.toNat, b.toNat]).map fun r => Char.ofNat r.first

/-- Composes a text that begins with the letter `starter`, and with the marks `marks`, the last
    one first, that were not composed with it. A mark is composed only if no mark of the same class
    stands before it. -/
def composeFrom (starter : Char) (marks : List Char) : List Char → List Char
  | [] => starter :: marks.reverse
  | c :: s =>
    -- No mark of the same class or a higher one may stand in between.
    let free :=
      match marks with
      | [] => true
      | m :: _ => combiningClass m < combiningClass c
    match if free then composite? starter c else none with
    | some d => composeFrom d marks s
    | none =>
      if combiningClass c = 0 then starter :: marks.reverse ++ composeFrom c [] s
      else composeFrom starter (c :: marks) s

/-- Composes the letters of a decomposed text with their marks. -/
def compose : List Char → List Char
  | [] => []
  | c :: s => if combiningClass c = 0 then composeFrom c [] s else c :: compose s

/-- The normal form C of a text. -/
def nfc (s : List Char) : List Char :=
  if s.all isAscii then s else compose (reorder (s.flatMap decompose))

/-- A text of ASCII characters is in normal form. -/
theorem nfc_ascii {s : List Char} (h : ∀ c ∈ s, isAscii c) : nfc s = s := by
  rw [nfc, if_pos (List.all_eq_true.2 h)]

end HttpState.Unicode
