import HttpState.Jar.Basic

/-!
# What a request sends

The header of a request has the cookies of the host and of its parent domains that match in domain,
path and channel and have not expired. Cookies with longer paths come first, and of those with
equally long paths the older ones.
-/

namespace HttpState

/-- Whether a cookie is sent to an address. -/
def Cookie.isSentTo (a : Address) (now : Int) (c : Cookie) : Bool :=
  Scope.domainMatches c.domain a.host c.hostOnly && Scope.pathMatches c.path a.path &&
    (!c.secure || a.isSecure) && !c.isExpired now

/-- The order of cookies in a request: longer paths first, then older cookies first. -/
def Cookie.requestLe (a b : Cookie) : Bool :=
  b.path.utf8ByteSize < a.path.utf8ByteSize ||
    (b.path.utf8ByteSize == a.path.utf8ByteSize && a.created.nanos ≤ b.created.nanos)

namespace Jar

/-- The cookies that are sent to an address, in their order. -/
def sentTo (j : Jar) (a : Address) (now : Int) : List Cookie :=
  (((Scope.candidates a.host).flatMap fun d => Bucket.find d j.buckets).filter
    (·.isSentTo a now)).mergeSort Cookie.requestLe

/-- The header of a request to an address, if there are cookies to send. -/
def header? (j : Jar) (a : Address) (now : Int) : Option String :=
  match j.sentTo a now with
  | [] => none
  | cs => some ("; ".intercalate (cs.map Cookie.pair))

end Jar

end HttpState
