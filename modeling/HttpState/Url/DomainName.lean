import HttpState.Unicode.BidiClass
import HttpState.Unicode.HostMapping
import HttpState.Unicode.JoiningType
import HttpState.Unicode.Mark
import HttpState.Unicode.Normalization
import HttpState.Url.Punycode

/-!
# Domain names in ASCII

A domain name may be written in any script. Its ASCII form (UTS #46, non-transitional) is found by
mapping and normalizing its characters and encoding every label that then is not ASCII, behind
`xn--`. Refused are names with forbidden characters, labels that begin with a combining mark,
joiners outside the scripts that need them, labels that mix directions of writing, and encoded
labels that do not decode to a label in normal form. The work on a label grows with the square of
its length, so labels that are not ASCII, or encoded, must not be too long; ASCII labels may have
any length.
-/

namespace HttpState.Url.DomainName

open HttpState.Unicode

/-- ASCII characters that no domain name holds: control characters, the space, and the characters
    that delimit or escape parts of a URL. -/
def isForbidden (c : Char) : Bool :=
  c.toNat ≤ 0x20 || c.toNat == 0x7F ||
  ['%', '#', '/', ':', '<', '>', '?', '@', '[', '\\', ']', '^', '|'].contains c

/-- The mark of an encoded label. -/
def encodedMark : List Char := ['x', 'n', '-', '-']

/-- Whether a label is marked as encoded. -/
def isEncoded (label : List Char) : Bool := encodedMark.isPrefixOf label

/-- Whether a character may stand in a label as it is. -/
def isKept (c : Char) : Bool := hostMapping c == .kept

/-- The longest text that is decoded. -/
def maxEncodedLength : Nat := 2000

/-- The longest label that is encoded. -/
def maxDecodedLength : Nat := 1000

/-- The label that an encoded label stands for: an ASCII label that is not too long stands for one
    that holds a character above ASCII and is in normal form. -/
def decodeLabel? (label : List Char) : Option (List Char) :=
  let text := label.drop encodedMark.length
  if label.all isAscii && text.length ≤ maxEncodedLength then
    match Punycode.decode? text with
    | some s => if !s.all isAscii && s.all isKept && nfc s == s then some s else none
    | none => none
  else none

/-- The label that a label in normal form stands for. -/
def unicodeLabel? (label : List Char) : Option (List Char) :=
  if isEncoded label then decodeLabel? label else some label

/-- The zero width non-joiner. -/
def nonJoiner : Char := Char.ofNat 0x200C

/-- The zero width joiner. -/
def joiner : Char := Char.ofNat 0x200D

/-- Whether a list of characters, seen from a non-joiner, reaches one of the given joining types
    across transparent ones. -/
def reachesJoining (types : List JoiningType) (s : List Char) : Bool :=
  match s.dropWhile fun c => JoiningType.of? c == some .transparent with
  | [] => false
  | c :: _ => (JoiningType.of? c).any types.contains

/-- Whether the joiners in what is left of a label are in place, `before` being what stands before,
    the last character first. Both joiners may follow a virama; the non-joiner may also stand
    between letters that would join. -/
def joinersInPlace (before : List Char) : List Char → Bool
  | [] => true
  | c :: s =>
    let ok :=
      if c = nonJoiner ∨ c = joiner then
        (before.head?.any isVirama) ||
          (c == nonJoiner && reachesJoining [.left, .dual] before &&
            reachesJoining [.right, .dual] s)
      else true
    ok && joinersInPlace (c :: before) s

/-- Whether a label that is not encoded is valid by itself. -/
def isValidLabel (label : List Char) : Bool :=
  !label.any isForbidden && !label.head?.any isMark && joinersInPlace [] label &&
    (label.all isAscii || label.length ≤ maxDecodedLength)

/-- Whether a label keeps the rule for names that hold characters written from right to left: it
    begins with a letter of either direction, holds characters of no other direction, and ends,
    nonspacing marks apart, in a letter of its direction or in a number. -/
def keepsDirection (label : List Char) : Bool :=
  let classes := label.map BidiClass.of
  match classes with
  | [] => true
  | first :: _ =>
    -- Marks at the end do not count.
    let last := (classes.reverse.dropWhile (· == .nonspacingMark)).headD first
    match first with
    | .leftToRight =>
      classes.all [.leftToRight, .europeanNumber, .neutral, .nonspacingMark].contains &&
        [.leftToRight, .europeanNumber].contains last
    | .rightToLeft =>
      classes.all
          [.rightToLeft, .arabicNumber, .europeanNumber, .neutral, .nonspacingMark].contains &&
        [.rightToLeft, .europeanNumber, .arabicNumber].contains last &&
        -- The two kinds of numbers are not to be mixed.
        !(classes.contains .europeanNumber && classes.contains .arabicNumber)
    | _ => false

/-- Whether a label holds a character written from right to left. -/
def hasRightToLeft (label : List Char) : Bool :=
  label.any fun c => [.rightToLeft, .arabicNumber].contains (BidiClass.of c)

/-- The ASCII form of a label in normal form. -/
def asciiLabel (label : List Char) : List Char :=
  if label.all isAscii then label else encodedMark ++ Punycode.encode label

/-- The labels of a name, separated by full stops. -/
def labels (name : List Char) : List (List Char) := name.splitOn '.'

/-- The name of these labels. -/
def ofLabels (ls : List (List Char)) : List Char := ['.'].intercalate ls

/-- The ASCII form of a domain name, if it is one. -/
def toAscii? (name : List Char) : Option (List Char) := do
  let mapped ← mapHost name
  let ls := labels (nfc mapped)
  let unicode ← ls.mapM unicodeLabel?
  if unicode.all isValidLabel && (!unicode.any hasRightToLeft || unicode.all keepsDirection) then
    some (ofLabels (ls.map asciiLabel))
  else none

end HttpState.Url.DomainName
