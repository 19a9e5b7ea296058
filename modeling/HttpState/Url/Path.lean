/-!
# Paths

The path of a URL is a list of segments. Segments `.` and `..`, dots written as `%2e` included, are
resolved: `.` is dropped and `..` takes the segment before it away, unless that is a drive letter.
A path that ends in one of them, or in a slash, ends in an empty segment.

In the URL of a file the first segment may be a drive letter, a letter and `:` or `|`; it is written
with `:`, and the URL then has no host. Empty segments at the beginning of such a path are dropped.

Tabs and line breaks are no part of a path. They show in one place only: behind a letter and `:` at
the beginning of the path of a file they do what a slash does, but what follows is kept as it is,
and the letter does not stand for the host.

* `cutDrive?_eq_none`: a segment without tabs and line breaks is not cut.
-/

namespace HttpState.Url

/-- Characters that are dropped anywhere in a URL. -/
def isBreak (c : Char) : Bool := c == '\t' || c == '\n' || c == '\r'

/-- A text without tabs and line breaks. -/
def withoutBreaks (s : List Char) : List Char := s.filter (!isBreak ·)

/-- What follows the first `n` characters of a text, tabs and line breaks not counted. -/
def behind : Nat → List Char → List Char
  | 0, s => s
  | _ + 1, [] => []
  | n + 1, c :: s => if isBreak c then behind (n + 1) s else behind n s

/-- A segment of a path. -/
abbrev Segment := List Char

namespace Segment

/-- The written forms of a dot. -/
def dots : List Segment := [['.'], ['%', '2', 'e'], ['%', '2', 'E']]

/-- The segment that stands for the directory itself. -/
def isDot (s : Segment) : Bool := dots.contains s

/-- The segment that stands for the directory above. -/
def isDoubleDot (s : Segment) : Bool := dots.any fun a => dots.any fun b => s == a ++ b

/-- A letter and a colon or a bar. -/
def isDriveLetter (s : Segment) : Bool :=
  match s with
  | [a, b] => a.isAlpha && (b == ':' || b == '|')
  | _ => false

/-- A drive letter as it is written. -/
def drive (s : Segment) : Segment := s.take 1 ++ [':']

/-- One upper-case hexadecimal digit. -/
def hexChar (n : Nat) : Char :=
  if n < 10 then Char.ofNat (48 + n) else Char.ofNat (55 + n)

/-- A byte as an escape. -/
def escapeByte (b : UInt8) : List Char :=
  ['%', hexChar (b.toNat / 16), hexChar (b.toNat % 16)]

/-- Whether a character has to be escaped in a path: control characters, blanks, quotes, brackets
    other than square ones, the delimiters of query and fragment, and everything above ASCII. -/
def needsEscape (c : Char) : Bool :=
  c.toNat ≤ 0x20 || c.toNat ≥ 0x7F || ['"', '#', '<', '>', '?', '`', '\x7b', '\x7d'].contains c

/-- A segment with its characters escaped where they have to be. -/
def escape (s : Segment) : Segment :=
  s.flatMap fun c => if needsEscape c then (String.utf8EncodeChar c).flatMap escapeByte else [c]

/-- A segment as it is written in a path. -/
def clean (s : Segment) : Segment := escape (withoutBreaks s)

/-- The letter and colon that a segment begins with, and what follows them, if a break stands
    between the two. -/
def cutDrive? (s : Segment) : Option (Segment × Segment) :=
  match withoutBreaks s with
  | a :: ':' :: c :: r =>
    if a.isAlpha && (behind 2 s).head?.any isBreak then some ([a, ':'], escape (c :: r)) else none
  | _ => none

/-- A segment without line breaks or tabs is not cut behind a drive letter. -/
theorem cutDrive?_eq_none {s : Segment} (h : s.any isBreak = false) : s.cutDrive? = none := by
  -- Skipping characters of such a segment leaves none behind either.
  have hb : ∀ n, (behind n s).any isBreak = false := by
    intro n
    induction s generalizing n with
    | nil => cases n <;> rfl
    | cons c s ih =>
      simp only [List.any_cons, Bool.or_eq_false_iff] at h
      cases n with
      | zero => simp [behind, h]
      | succ n => simpa [behind, h.1] using ih h.2 n
  have hc : (behind 2 s).head?.any isBreak = false := by
    have h2 := hb 2
    cases he : behind 2 s with
    | nil => rfl
    | cons c r =>
      rw [he, List.any_cons, Bool.or_eq_false_iff] at h2
      simp [h2.1]
  unfold cutDrive?
  split
  · simp [hc]
  · rfl

end Segment

/-- Takes the last segment of a reversed path away, unless it is a drive letter. -/
def dropSegment : List Segment → List Segment
  | [] => []
  | s :: rest => if s.isDriveLetter then s :: rest else rest

/-- The segments that a slash or a backslash separates. -/
def segments (s : List Char) : List Segment := s.splitOnP fun c => c == '/' || c == '\\'

/-- A path whose segments are resolved. -/
structure Resolution where
  segments : List Segment
  /-- The first segment is a drive letter, which stands for the host. -/
  hasDrive : Bool
  deriving DecidableEq, Repr

/-- Resolves the segments of a path behind the segments `done`, which come last first. -/
def resolveFrom (file hasDrive : Bool) (done : List Segment) : List Segment → Resolution
  | [] => ⟨done.reverse, hasDrive⟩
  | s :: rest =>
    -- The first segment of a file may be a drive letter with a break behind it.
    match if file && done.isEmpty then s.cutDrive? else none with
    | some (letter, t) => resolveFrom file hasDrive (t :: letter :: done) rest
    | none =>
      let t := s.clean
      if t.isDoubleDot then
        -- At the end a dot segment leaves a slash.
        if rest.isEmpty then ⟨([] :: dropSegment done).reverse, hasDrive⟩
        else resolveFrom file hasDrive (dropSegment done) rest
      else if t.isDot then
        if rest.isEmpty then ⟨([] :: done).reverse, hasDrive⟩
        else resolveFrom file hasDrive done rest
      else if file && done.isEmpty && t.isDriveLetter then
        resolveFrom file true (t.drive :: done) rest
      else resolveFrom file hasDrive (t :: done) rest

/-- The resolved path that is written behind a first slash. -/
def resolve (file : Bool) (s : List Char) : Resolution :=
  resolveFrom file false [] (segments s)

/-- Drops empty segments at the beginning, but not the last segment. -/
def dropEmpty : List Segment → List Segment
  | [] => []
  | [s] => [s]
  | s :: rest => if s.isEmpty then dropEmpty rest else s :: rest

/-- A path as it is written. -/
def renderPath (ss : List Segment) : List Char :=
  '/' :: ['/'].intercalate ss

end HttpState.Url
