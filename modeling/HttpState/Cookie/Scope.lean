import HttpState.Address

/-!
# What a cookie is sent to

Domain and path matching of RFC 6265. A cookie goes to its own domain and, unless it is bound to
the host that set it, to all domains below; addresses have no domains below. It goes to its own path
and to all paths below.
-/

namespace HttpState.Scope

/-- Whether a host is an IP address, in brackets or as four decimal numbers. -/
def isIpAddress (host : String) : Bool :=
  host.toList.head? == some '[' || (Url.Ipv4.dotted? host.toList).isSome

/-- Whether two texts differ in the case of ASCII letters only. -/
def sameLetters (a b : String) : Bool := a.toList.map Char.toLower == b.toList.map Char.toLower

/-- Whether a host lies below a domain: it ends in a full stop and the domain. -/
def isBelow (domain host : String) : Bool :=
  ('.' :: domain.toList.map Char.toLower).isSuffixOf (host.toList.map Char.toLower)

/-- Whether a cookie of a domain is sent to a host. -/
def domainMatches (domain host : String) (hostOnly : Bool) : Bool :=
  sameLetters domain host || (!hostOnly && !isIpAddress host && isBelow domain host)

/-- Whether a cookie of a path is sent with a request for a path. -/
def pathMatches (path request : String) : Bool :=
  request == path ||
    (path.toList.isPrefixOf request.toList &&
      (path.toList.getLast? == some '/' ||
        (request.toList.drop path.toList.length).head? == some '/'))

/-- The path of a cookie that does not name one: the path of the request up to its last slash. -/
def defaultPath (request : String) : String :=
  let directory := (request.toList.reverse.dropWhile (· != '/')).drop 1 |>.reverse
  if directory.isEmpty then "/" else String.ofList directory

/-- The parent domains of a host, the longest first: what follows a full stop, as long as something
    does. -/
def parents : List Char → List (List Char)
  | [] => []
  | c :: s =>
    if c = '.' then if s.isEmpty then [] else s :: parents s
    else parents s

/-- The domains whose cookies may be sent to a host: the host itself and its parent domains. -/
def candidates (host : String) : List String :=
  host :: if isIpAddress host then [] else (parents host.toList).map String.ofList

end HttpState.Scope
