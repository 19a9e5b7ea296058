import HttpState.Url.Basic

/-!
# Cookie addresses

An address is what cookies are scoped by: a host, a path and the kind of channel. URLs that differ
only in ways that cookies do not care about (letter case of the host, port, user, query, fragment,
dot segments, `ws` for `http`) have the same address. A text without a scheme is taken for a URL of
the scheme `http`.
-/

namespace HttpState

open HttpState.Text

/-- The kind of channel a cookie travels over. -/
inductive Channel where
  /-- `http` and `ws`. -/
  | plain
  /-- `https` and `wss`, the only ones that secure cookies travel over. -/
  | secure
  /-- `file`. -/
  | file
  deriving DecidableEq, Repr

namespace Channel

/-- The channel of a scheme that can carry cookies. -/
def ofScheme? (scheme : List Char) : Option Channel :=
  if scheme = ['h', 't', 't', 'p'] ∨ scheme = ['w', 's'] then some .plain
  else if scheme = ['h', 't', 't', 'p', 's'] ∨ scheme = ['w', 's', 's'] then some .secure
  else if scheme = ['f', 'i', 'l', 'e'] then some .file
  else none

/-- The scheme that stands for all schemes of a channel. -/
def scheme : Channel → String
  | .plain => "http"
  | .secure => "https"
  | .file => "file"

end Channel

/-- What cookies are scoped by. -/
structure Address where
  /-- The host in lower case and in ASCII, without port. Full stops at its end are taken off, except
      from the host of a file, which is kept as the URL has it and is mostly empty. -/
  host : String
  /-- The resolved path, without query and fragment. -/
  path : String
  channel : Channel
  deriving DecidableEq, Repr

/-- Why a text has no address. -/
inductive AddressError where
  | empty
  | malformed (e : Url.Error)
  | missingHost
  | unsupportedScheme (scheme : String)
  deriving DecidableEq, Repr

/-- The wording of an error. -/
def AddressError.message : AddressError → String
  | .empty => "empty URL"
  | .malformed e => "malformed URL: " ++ e.message
  | .missingHost => "URL has no host"
  | .unsupportedScheme s => "scheme '" ++ s ++ "' cannot carry cookies"

namespace Address

/-- Whether secure cookies travel to the address. -/
def isSecure (a : Address) : Bool := a.channel == .secure

/-- Whether the address is that of a file. -/
def isFile (a : Address) : Bool := a.channel == .file

/-- The address as a URL. -/
def text (a : Address) : String := a.channel.scheme ++ "://" ++ a.host ++ a.path

/-- The host of an address, from that of a URL: a network host loses the full stops at its end. -/
def hostText? (channel : Channel) (host : Option Url.Host) : Option (List Char) :=
  let text := (host.map Url.Host.render).getD []
  if channel = .file then some (text.map Char.toLower)
  else if text.isEmpty then none
  else some ((dropEndWhile (· == '.') text).map Char.toLower)

/-- The address of a URL. -/
def ofUrl (u : Url) : Except AddressError Address :=
  match Channel.ofScheme? u.scheme with
  | none => .error (.unsupportedScheme (String.ofList u.scheme))
  | some channel =>
    match hostText? channel u.host with
    | none => .error .missingHost
    | some host =>
      .ok ⟨String.ofList host, String.ofList (if u.path.isEmpty then ['/'] else u.path), channel⟩

/-- What separates a scheme from a host. -/
def schemeMark : List Char := [':', '/', '/']

/-- Whether a text holds the mark of a scheme anywhere. -/
def hasSchemeMark : List Char → Bool
  | [] => false
  | c :: s => schemeMark.isPrefixOf (c :: s) || hasSchemeMark s

/-- Whether a text is taken for a URL as it is: it holds `://`, or begins with `file:` in any
    letter case. -/
def hasScheme (s : List Char) : Bool :=
  hasSchemeMark s || (s.take 5).map Char.toLower == ['f', 'i', 'l', 'e', ':']

/-- A text as a URL: the scheme `http` is added to one that has none. -/
def withScheme (s : List Char) : List Char :=
  if hasScheme s then s else ['h', 't', 't', 'p', ':', '/', '/'] ++ s

/-- The address of a text. -/
def parse (raw : String) : Except AddressError Address :=
  let s := trim raw.toList
  if s.isEmpty then .error .empty
  else
    match Url.parse (withScheme s) with
    | .error e => .error (.malformed e)
    | .ok u => ofUrl u

end Address

end HttpState
