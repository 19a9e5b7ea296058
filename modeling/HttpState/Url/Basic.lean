import HttpState.Text.Blank
import HttpState.Url.Host
import HttpState.Url.Path

/-!
# URLs

The parts of a URL that cookies are scoped by: scheme, host and path. Ports are checked, user names,
queries and fragments are passed over. Blanks and control characters around a URL are dropped, and
so are tabs and line breaks anywhere in it.

The schemes `http`, `https`, `ws`, `wss` and `ftp` need a host, take a backslash for a slash, and do
not mind how many slashes stand in front of the host. `file` is of its own kind. Of URLs with any
other scheme only the host and the port are looked at.
-/

namespace HttpState

open HttpState.Text

/-- The parts of a URL that cookies are scoped by. -/
structure Url where
  scheme : List Char
  host : Option Url.Host
  path : List Char
  deriving DecidableEq, Repr

namespace Url

/-- What a scheme demands of the rest of a URL. -/
inductive SchemeKind where
  | file
  /-- A scheme whose URLs have a domain name or an address as their host. -/
  | network
  | other
  deriving DecidableEq, Repr

/-- The kind of a scheme. -/
def SchemeKind.of (scheme : List Char) : SchemeKind :=
  if scheme = ['f', 'i', 'l', 'e'] then .file
  else if scheme = ['h', 't', 't', 'p'] ∨ scheme = ['h', 't', 't', 'p', 's'] ∨
      scheme = ['w', 's'] ∨ scheme = ['w', 's', 's'] ∨ scheme = ['f', 't', 'p'] then .network
  else .other

/-- Characters that are dropped around a URL. -/
def isPadding (c : Char) : Bool := c.toNat ≤ 0x20

/-- Characters of a scheme behind its first one. -/
def isSchemeChar (c : Char) : Bool := c.isAlphanum || c == '+' || c == '-' || c == '.'

/-- Splits a URL at the colon behind its scheme. -/
def splitScheme (s : List Char) : Option (List Char × List Char) :=
  match s.dropWhile isSchemeChar with
  | ':' :: rest =>
    if s.head?.any Char.isAlpha then some ((s.takeWhile isSchemeChar).map Char.toLower, rest)
    else none
  | _ => none

/-- A slash, or a backslash where it is taken for one. -/
def isSlash (c : Char) : Bool := c == '/' || c == '\\'

/-- Whether a character ends the authority of a URL, the part with user, host and port. -/
def endsAuthority (kind : SchemeKind) (c : Char) : Bool :=
  c == '/' || c == '?' || c == '#' || (kind != .other && c == '\\')

/-- Splits a text behind its last `@`, if it has one. -/
def splitUser (s : List Char) : Option (List Char × List Char) :=
  if s.contains '@' then
    let host := (s.reverse.takeWhile (· != '@')).reverse
    some (s.take (s.length - host.length - 1), host)
  else none

/-- The part of a text up to the first colon outside brackets, and the rest. -/
def splitPort (inBrackets : Bool) : List Char → List Char × List Char
  | [] => ([], [])
  | c :: s =>
    if c = ':' ∧ !inBrackets then ([], c :: s)
    else
      let (host, port) := splitPort (c == '[' || (inBrackets && c != ']')) s
      (c :: host, port)

/-- Checks the port of a URL: digits that denote a number up to 65535, or nothing. -/
def checkPort (s : List Char) : Except Error Unit :=
  if s.all Char.isDigit ∧ decimal s ≤ 65535 then .ok () else .error .invalidPort

/-- Text up to the query or the fragment. -/
def beforeQuery (s : List Char) : List Char := s.takeWhile fun c => c != '?' && c != '#'

/-- The resolved path of a URL, from what follows the host. -/
def pathAfterHost (file : Bool) (s : List Char) : Resolution :=
  let s := if (withoutBreaks s).head?.any isSlash then behind 1 s else s
  resolve file (beforeQuery s)

/-- Splits the text behind the slashes of a URL into user, host, port and the rest. -/
def splitAuthority (kind : SchemeKind) (s : List Char) :
    Option (List Char) × List Char × List Char × List Char :=
  let authority := s.takeWhile (!endsAuthority kind ·)
  let rest := s.dropWhile (!endsAuthority kind ·)
  match splitUser authority with
  | some (user, h) => let (host, port) := splitPort false h; (some user, host, port, rest)
  | none => let (host, port) := splitPort false authority; (none, host, port, rest)

/-- Reads the rest of a URL of a network scheme. -/
def parseNetwork (scheme s : List Char) : Except Error Url := do
  let (_, host, port, rest) := splitAuthority .network (s.dropWhile isSlash)
  if host.isEmpty then throw .emptyHost
  let host ← Host.parse host
  checkPort (port.drop 1)
  return ⟨scheme, some host, renderPath (pathAfterHost false rest).segments⟩

/-- Checks the rest of a URL of any other scheme. A user needs a host, and so does a port. -/
def checkOther (s : List Char) : Except Error Unit := do
  match s with
  | '/' :: '/' :: r =>
    let (user, host, port, rest) := splitAuthority .other r
    -- These are the checks of other schemes, in the order their errors are reported.
    if user = some [] ∧ !rest.isEmpty ∧ host.isEmpty ∧ port.isEmpty then throw .emptyHost
    checkOpaqueHost host
    if host.isEmpty ∧ !port.isEmpty then throw .emptyHost
    checkPort ((port.drop 1).takeWhile (· != '\\'))
    if host.isEmpty ∧ user.any (fun u => u != [] && u != [':']) then throw .emptyHost
  | _ => return ()

/-- The URL of a file, from its host and path. A drive letter leaves no host. -/
def ofFile (host : Option Host) (path : Resolution) : Url :=
  ⟨['f', 'i', 'l', 'e'], if path.hasDrive then none else host,
    renderPath (dropEmpty path.segments)⟩

/-- Reads the rest of the URL of a file, tabs and line breaks included. Two slashes introduce a
    host, which may be missing; the host `localhost` and drive letters count as missing. -/
def parseFile (s : List Char) : Except Error Url :=
  match withoutBreaks s with
  | a :: b :: r =>
    if isSlash a && isSlash b then
      let host := r.takeWhile (!endsAuthority .file ·)
      let rest := behind (2 + host.length) s
      if host.isEmpty then .ok (ofFile none (resolve true (beforeQuery rest)))
      -- A drive letter in the place of the host is part of the path.
      else if Segment.isDriveLetter host then
        .ok (ofFile none (resolve true (beforeQuery (behind 2 s))))
      else
        match Host.parse host with
        | .error e => .error e
        | .ok h =>
          if h = .domain "localhost".toList then .ok (ofFile none (resolve true (beforeQuery rest)))
          else .ok (ofFile (some h) (pathAfterHost true rest))
    else .ok (ofFile none (pathAfterHost true s))
  | _ => .ok (ofFile none (pathAfterHost true s))

/-- Reads a URL. -/
def parse (s : List Char) : Except Error Url :=
  -- Spaces and control characters around the URL, and breaks inside it, do not count.
  let s := trimWhile isPadding s
  match splitScheme (withoutBreaks s) with
  | none => .error .noScheme
  | some (scheme, rest) =>
    match SchemeKind.of scheme with
    | .file => parseFile (behind (scheme.length + 1) s)
    | .network => parseNetwork scheme rest
    | .other => (checkOther rest).map fun _ => ⟨scheme, none, []⟩

end Url

end HttpState
