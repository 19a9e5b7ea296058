import HttpState.Cookie.Received

/-!
# Cookie jars

A jar keeps its cookies in buckets, one for each domain that has cookies. No bucket holds more
cookies than the limit for a host allows, and the jar no more than the limit for all; the oldest
cookies make room for new ones. A cookie replaces the one with the same key, in its place and with
its creation time.

* `find_set_self`, `find_set_of_ne`: cookies put in the place of those of a domain are found there,
  and nothing changes for other domains.
* `cookies_filter`: filtering a jar filters its cookies.
-/

namespace HttpState

/-- The limits of a jar. -/
structure Limits where
  perHost : Nat
  total : Nat
  perHost_pos : 1 ≤ perHost := by omega
  total_pos : 1 ≤ total := by omega
  deriving DecidableEq, Repr

/-- Limits that allow one cookie at least. -/
def Limits.of (perHost total : Nat) : Limits where
  perHost := max 1 perHost
  total := max 1 total

/-- The cookies of a domain, in the order they were first stored. -/
structure Bucket where
  domain : String
  cookies : List Cookie
  deriving DecidableEq, Repr

/-- A cookie jar. -/
structure Jar where
  buckets : List Bucket
  /-- Whether new cookies are taken. -/
  accepts : Bool
  limits : Limits
  deriving DecidableEq, Repr

namespace Bucket

/-- The creation time of the oldest cookie. -/
def oldestTime? (cs : List Cookie) : Option Int := (cs.map (·.created.nanos)).min?

/-- Drops the first of the cookies that were created at a time. -/
def dropCreatedAt (t : Int) (cs : List Cookie) : List Cookie := cs.eraseP (·.created.nanos == t)

/-- Drops the oldest cookie, the first one of equally old ones. -/
def dropOldest (cs : List Cookie) : List Cookie :=
  match oldestTime? cs with
  | some t => dropCreatedAt t cs
  | none => cs

/-- Drops the oldest cookies until there is room for another one. -/
def makeRoom (limit : Nat) (cs : List Cookie) : List Cookie :=
  Nat.repeat dropOldest (cs.length + 1 - limit) cs

/-- Whether two cookies of a domain have the same key. -/
def sameKey (c d : Cookie) : Bool := d.name == c.name && d.path == c.path

/-- The cookies with `c` in the place of the one with its key, if there is one. -/
def replace? (c : Cookie) : List Cookie → Option (List Cookie)
  | [] => none
  | d :: ds =>
    if sameKey c d then some ({ c with created := d.created } :: ds)
    else (replace? c ds).map (d :: ·)

/-- The cookies of the bucket of a domain. -/
def find (domain : String) (bs : List Bucket) : List Cookie :=
  ((bs.find? (·.domain == domain)).map (·.cookies)).getD []

/-- Puts cookies in the place of those of a domain. A bucket is left out when nothing is in it. -/
def set (domain : String) (cs : List Cookie) : List Bucket → List Bucket
  | [] => if cs.isEmpty then [] else [⟨domain, cs⟩]
  | b :: bs =>
    if b.domain = domain then if cs.isEmpty then bs else ⟨domain, cs⟩ :: bs
    else b :: set domain cs bs

/-- After storing a bucket of a domain, looking the domain up finds it. -/
theorem find_set_self (domain : String) {cs : List Cookie} (h : cs ≠ []) (bs : List Bucket) :
    find domain (set domain cs bs) = cs := by
  have hc : cs.isEmpty = false := by simpa using h
  induction bs with
  | nil => simp [set, find, hc]
  | cons b bs ih =>
    -- The first bucket of the domain is the one replaced, and the one found.
    by_cases hb : b.domain = domain
    · simp [set, find, hc, hb]
    · rw [set, if_neg hb, find, List.find?_cons_of_neg (by simpa using hb)]
      exact ih

/-- Storing a bucket of one domain leaves the cookies of every other domain alone. -/
theorem find_set_of_ne {domain other : String} (h : other ≠ domain) (cs : List Cookie)
    (bs : List Bucket) : find other (set domain cs bs) = find other bs := by
  induction bs with
  | nil => by_cases hc : cs.isEmpty <;> simp [set, find, hc, Ne.symm h]
  | cons b bs ih =>
    by_cases hb : b.domain = domain
    · -- The bucket of `domain` is replaced or, when it would be empty, taken out.
      by_cases hc : cs.isEmpty <;> simp [set, find, hc, hb, Ne.symm h]
    · rw [set, if_neg hb]
      by_cases ho : b.domain = other
      · simp [find, ho]
      · rw [find, List.find?_cons_of_neg (by simpa using ho), find,
          List.find?_cons_of_neg (by simpa using ho)]
        exact ih

end Bucket

namespace Jar

/-- An empty jar that takes new cookies. -/
def empty (limits : Limits) : Jar := ⟨[], true, limits⟩

/-- All cookies of a jar. -/
def cookies (j : Jar) : List Cookie := j.buckets.flatMap (·.cookies)

/-- All cookies of a jar, by domain; those of one domain in the order they were first stored. -/
def cookiesByDomain (j : Jar) : List Cookie := j.cookies.mergeSort fun a b => a.domain ≤ b.domain

/-- The number of cookies, expired ones included. -/
def count (j : Jar) : Nat := j.cookies.length

/-- Whether there is a cookie in the jar. -/
def hasCookies (j : Jar) : Bool := 0 < j.count

/-- The creation time of the oldest cookie of the jar. -/
def oldestTime? (j : Jar) : Option Int := Bucket.oldestTime? j.cookies

/-- Drops the oldest cookie of the jar, the first one of equally old ones. -/
def dropOldest (j : Jar) : Jar :=
  match j.oldestTime? with
  | none => j
  | some t =>
    match j.buckets.find? fun b => b.cookies.any (·.created.nanos == t) with
    | none => j
    | some b =>
      { j with buckets := Bucket.set b.domain (Bucket.dropCreatedAt t b.cookies) j.buckets }

/-- Drops the oldest cookies until the limit of the jar holds. -/
def enforceTotal (j : Jar) : Jar := Nat.repeat dropOldest (j.count - j.limits.total) j

/-- Stores a cookie, in the place of the one with its key if there is one. -/
def insert (j : Jar) (c : Cookie) : Jar :=
  let cs := Bucket.find c.domain j.buckets
  match Bucket.replace? c cs with
  | some cs => { j with buckets := Bucket.set c.domain cs j.buckets }
  | none =>
    let cs := Bucket.makeRoom j.limits.perHost cs ++ [c]
    enforceTotal { j with buckets := Bucket.set c.domain cs j.buckets }

/-- Removes the cookie with a key. -/
def erase (j : Jar) (k : Cookie.Key) : Jar :=
  let cs := (Bucket.find k.domain j.buckets).filter fun c => c.name != k.name || c.path != k.path
  { j with buckets := Bucket.set k.domain cs j.buckets }

/-- Keeps the cookies that satisfy `p`. -/
def filter (p : Cookie → Bool) (j : Jar) : Jar :=
  { j with
    buckets := (j.buckets.map fun b => { b with cookies := b.cookies.filter p }).filter
      (!·.cookies.isEmpty) }

/-- Filtering drops cookies and the buckets left empty, so the cookies that remain are the filtered
    ones, in their order. -/
theorem cookies_filter (p : Cookie → Bool) (j : Jar) :
    (j.filter p).cookies = j.cookies.filter p := by
  rcases j with ⟨bs, accepts, limits⟩
  simp only [cookies, filter]
  induction bs with
  | nil => rfl
  | cons b bs ih =>
    by_cases hb : (b.cookies.filter p).isEmpty
    · have hn : b.cookies.filter p = [] := List.isEmpty_iff.1 hb
      simpa [hn] using ih
    · simpa [hb] using ih

/-- Removes all cookies. -/
def removeAll (j : Jar) : Jar := { j with buckets := [] }

/-- Removes the cookies that have expired. -/
def removeExpired (j : Jar) (now : Int) : Jar := j.filter (!·.isExpired now)

/-- Removes the cookies that have no expiry. -/
def removeSession (j : Jar) : Jar := j.filter (·.isPersistent)

/-- Says whether new cookies are taken. -/
def setAccepts (j : Jar) (accepts : Bool) : Jar := { j with accepts := accepts }

/-- Stores cookies that were kept elsewhere, those that have expired left out. It does not matter
    whether the jar takes new cookies. -/
def load (j : Jar) (cs : List Cookie) (now : Int) : Jar :=
  (cs.filter (!·.isExpired now)).foldl insert j

/-- The cookies that are written to a store: those that are persistent and have not expired, in the
    order of their keys. -/
def snapshot (j : Jar) (now : Int) : List Cookie :=
  (j.cookies.filter fun c => c.isPersistent && !c.isExpired now).mergeSort fun a b => a.key.le b.key

/-- Whether taking a header value fails because the clock is too late; see `Cookie.reception`. -/
def isBeyondCalendar (j : Jar) (a : Address) (header : String) (now : Int) : Bool :=
  j.accepts && Cookie.reception a header now = .beyondCalendar

/-- Takes the cookie that a header value sets for an address, and says whether one was stored. A
    cookie that has expired already removes the one with its key. -/
def receive (j : Jar) (a : Address) (header : String) (now : Int) : Bool × Jar :=
  if j.accepts then
    match Cookie.receive? a header now with
    | none => (false, j)
    | some c => if c.isExpired now then (false, j.erase c.key) else (true, j.insert c)
  else (false, j)

end Jar

end HttpState
