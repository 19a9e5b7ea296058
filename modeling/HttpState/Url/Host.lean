import HttpState.Url.DomainName
import HttpState.Url.Error
import HttpState.Url.Ipv6

/-!
# Hosts

The host of a URL is an IPv6 address in brackets, an IPv4 address, or a domain name in ASCII. The
escapes of a host are undone before it is looked at, so `ex%61mple` is `example`.
-/

namespace HttpState.Url

open HttpState.Text

/-- A host of a URL. -/
inductive Host where
  | domain (name : List Char)
  | ipv4 (address : Ipv4.Address)
  | ipv6 (pieces : List Nat)
  deriving DecidableEq, Repr

/-- The bytes of a text in which escapes of bytes (`%` and two hexadecimal digits) are undone. -/
def unescape : List Char → List UInt8
  | [] => []
  | '%' :: a :: b :: s =>
    match hexDigit? a, hexDigit? b with
    | some m, some n => UInt8.ofNat (m * 16 + n) :: unescape s
    | _, _ => 37 :: unescape (a :: b :: s)
  | c :: s => String.utf8EncodeChar c ++ unescape s

/-- The text of a list of bytes in UTF-8. -/
def utf8? (bytes : List UInt8) : Option (List Char) :=
  (String.fromUTF8? bytes.toByteArray).map String.toList

namespace Host

/-- The address between brackets that a host begins with. -/
def bracketed? (s : List Char) : Option Host :=
  match s.reverse with
  | ']' :: r => (Ipv6.ofHost? r.reverse).map .ipv6
  | _ => none

/-- The host that a name is: a name that ends in a number has to be an IPv4 address. -/
def ofName (name : List Char) : Except Error Host :=
  if name.isEmpty then .error .emptyHost
  else if Ipv4.isMeant name then
    match Ipv4.ofHost? name with
    | some n => .ok (.ipv4 n)
    | none => .error .invalidIpv4
  else .ok (.domain name)

/-- Reads a host. -/
def parse (s : List Char) : Except Error Host :=
  match s with
  | '[' :: r =>
    match bracketed? r with
    | some h => .ok h
    | none => .error .invalidIpv6
  | _ =>
    -- Escapes are undone before the name is read.
    match (utf8? (unescape s)).bind DomainName.toAscii? with
    | some name => ofName name
    | none => .error .invalidDomainName

/-- A host as it is written in a URL. -/
def render : Host → List Char
  | .domain name => name
  | .ipv4 n => Ipv4.render n
  | .ipv6 ps => '[' :: Ipv6.render ps ++ [']']

end Host

/-- Characters that no host holds in a URL of a scheme that gives them no further meaning. -/
def isForbiddenInOpaqueHost (c : Char) : Bool :=
  c.toNat == 0 ||
  ['\t', '\n', '\r', ' ', '#', '/', ':', '<', '>', '?', '@', '[', '\\', ']', '^', '|'].contains c

/-- Checks the host of a URL of a scheme that gives its hosts no further meaning. -/
def checkOpaqueHost (s : List Char) : Except Error Unit :=
  match s with
  | '[' :: r => if (Host.bracketed? r).isSome then .ok () else .error .invalidIpv6
  | _ => if s.any isForbiddenInOpaqueHost then .error .invalidDomainCharacter else .ok ()

end HttpState.Url
