import HttpState.Jar.Request
import HttpState.Proofs.Address
import HttpState.Proofs.Cookie.Received
import HttpState.Proofs.Cookie.Scope
import HttpState.Proofs.Jar.Contents
import HttpState.Proofs.Jar.Invariant
import HttpState.Proofs.List

/-!
# What a request sends, measured against the whole jar

A jar looks only into the buckets of the host and of its parent domains. The conditions of RFC 6265
are about single cookies and do not mention buckets. Here both are shown to select the same cookies,
for every jar whose cookies have domains in lower case, and the order of the header is described
without the sorting that makes it.

## Key results

- `Cookie.isSentTo_iff`: the test of a jar is the conditions of RFC 6265
- `Jar.sentTo_perm`: nothing is lost by looking into a few buckets only
- `Jar.pairwise_sentTo`: the order in which cookies are sent, ties included
- `Jar.header?_exact`: both together, for every jar that can come about
-/

namespace HttpState

open HttpState.Text

/-- The conditions of RFC 6265 for sending a cookie with a request. -/
structure Cookie.IsDue (c : Cookie) (a : Address) (now : Int) : Prop where
  /-- The host is the domain or, for cookies that are not bound to it, a name below it. -/
  domain : c.domain = a.host ∨ (c.hostOnly = false ∧ Scope.isIpAddress a.host = false ∧
    ∃ labels, a.host = labels ++ "." ++ c.domain)
  /-- The path is that of the request, or the path of the request goes on behind it at a slash. -/
  path : c.path = a.path ∨ ∃ rest, a.path = c.path ++ rest ∧
    ((∃ front, c.path = front ++ "/") ∨ ∃ more, rest = "/" ++ more)
  secure : c.secure = true → a.isSecure = true
  /-- It does not expire, or later than now. -/
  fresh : ∀ t, c.expires = some t → now < t.nanos

/-- A domain that a jar can find: in lower case, and not empty unless the cookie is bound to its
    host. -/
def Cookie.HasPlainDomain (c : Cookie) : Prop :=
  IsLowerCase c.domain.toList ∧ (c.hostOnly = true ∨ c.domain ≠ "")

/-- The domain test in terms of texts, for a domain and a host in lower case. -/
theorem Scope.domainMatches_iff_append {domain host : String} {hostOnly : Bool}
    (hdomain : IsLowerCase domain.toList) (hhost : IsLowerCase host.toList) :
    Scope.domainMatches domain host hostOnly = true ↔
      domain = host ∨ (hostOnly = false ∧ Scope.isIpAddress host = false ∧
        ∃ labels, host = labels ++ "." ++ domain) := by
  -- The same split of the host, once as lists of characters and once as texts.
  have hfront : (∃ front, host.toList = front ++ '.' :: domain.toList) ↔
      ∃ labels, host = labels ++ "." ++ domain := by
    constructor
    · rintro ⟨front, h⟩
      refine ⟨String.ofList front, ?_⟩
      rw [← String.toList_inj]
      simpa using h
    · rintro ⟨labels, h⟩
      exact ⟨labels.toList, by simp [h]⟩
  rw [Scope.domainMatches_iff hdomain hhost, hfront]

namespace Cookie

/-! ## One cookie -/

/-- A text ends in a slash if its last character is one. -/
theorem getLast?_eq_slash {s : String} :
    s.toList.getLast? = some '/' ↔ ∃ front, s = front ++ "/" := by
  constructor
  · intro h
    obtain ⟨front, hfront⟩ := List.getLast?_eq_some_iff.1 h
    refine ⟨String.ofList front, ?_⟩
    rw [← String.toList_inj]
    simpa using hfront
  · rintro ⟨front, rfl⟩
    simp

/-- A path matches if it is the one asked for, or the beginning of it up to a slash. -/
theorem pathMatches_iff_append {path request : String} :
    Scope.pathMatches path request = true ↔
      path = request ∨ ∃ rest, request = path ++ rest ∧
        ((∃ front, path = front ++ "/") ∨ ∃ more, rest = "/" ++ more) := by
  -- The split of the path as a list of characters, and as a text.
  have hrest : (∃ rest, request.toList = path.toList ++ rest ∧
        (path.toList.getLast? = some '/' ∨ rest.head? = some '/')) ↔
      ∃ rest, request = path ++ rest ∧
        ((∃ front, path = front ++ "/") ∨ ∃ more, rest = "/" ++ more) := by
    rw [getLast?_eq_slash]
    constructor
    · rintro ⟨rest, h, hslash⟩
      refine ⟨String.ofList rest, ?_, hslash.imp_right ?_⟩
      · rw [← String.toList_inj]
        simpa using h
      · intro hhead
        obtain ⟨more, rfl⟩ := List.head?_eq_some_iff.1 hhead
        refine ⟨String.ofList more, ?_⟩
        rw [← String.toList_inj]
        simp
    · rintro ⟨rest, rfl, hslash⟩
      refine ⟨rest.toList, by simp, hslash.imp_right ?_⟩
      rintro ⟨more, rfl⟩
      simp
  rw [Scope.pathMatches_iff, hrest, eq_comm]

/-- A cookie is fresh as long as its time, if it has one, is still to come. -/
theorem isExpired_eq_false_iff {c : Cookie} {now : Int} :
    c.isExpired now = false ↔ ∀ t, c.expires = some t → now < t.nanos := by
  unfold isExpired
  cases c.expires with
  | none => simp
  | some t => simp

/-- The test that selects the cookies of a request is the conditions of RFC 6265. -/
theorem isSentTo_iff {c : Cookie} {a : Address} {now : Int} (hc : IsLowerCase c.domain.toList)
    (ha : IsLowerCase a.host.toList) : c.isSentTo a now = true ↔ c.IsDue a now := by
  simp only [isSentTo, Bool.and_eq_true, Bool.or_eq_true, Bool.not_eq_true',
    Scope.domainMatches_iff_append hc ha, pathMatches_iff_append, isExpired_eq_false_iff]
  constructor
  · -- What is checked, as it is stated.
    rintro ⟨⟨⟨hdomain, hpath⟩, hsecure⟩, hfresh⟩
    refine ⟨hdomain, hpath, ?_, hfresh⟩
    intro hsec
    exact hsecure.resolve_left (by simp [hsec])
  · -- And back: a cookie that is not secure passes the check of the channel.
    rintro ⟨hdomain, hpath, hsecure, hfresh⟩
    refine ⟨⟨⟨hdomain, hpath⟩, ?_⟩, hfresh⟩
    cases hsec : c.secure with
    | false => exact .inl rfl
    | true => exact .inr (hsecure hsec)

/-! ## The order of two cookies -/

/-- A longer path comes first, and of two paths of the same length the older cookie. -/
theorem requestLe_iff {x y : Cookie} :
    requestLe x y = true ↔ y.path.utf8ByteSize < x.path.utf8ByteSize ∨
      (y.path.utf8ByteSize = x.path.utf8ByteSize ∧ x.created.nanos ≤ y.created.nanos) := by
  simp [requestLe]

/-- The order of a request is transitive. -/
theorem requestLe_trans (x y z : Cookie) (hxy : requestLe x y = true) (hyz : requestLe y z = true) :
    requestLe x z = true := by
  rw [requestLe_iff] at hxy hyz ⊢
  omega

/-- Any two cookies can be put in the order of a request. -/
theorem requestLe_total (x y : Cookie) : (requestLe x y || requestLe y x) = true := by
  rw [Bool.or_eq_true, requestLe_iff, requestLe_iff]
  omega

end Cookie

namespace Jar

/-- What comes first in a header: longer paths, then older cookies, then cookies of longer domains,
    and of one domain those that come first in its bucket. -/
def Precedes (j : Jar) (x y : Cookie) : Prop :=
  y.path.utf8ByteSize < x.path.utf8ByteSize ∨ (x.path.utf8ByteSize = y.path.utf8ByteSize ∧
    (x.created.nanos < y.created.nanos ∨ (x.created.nanos = y.created.nanos ∧
      (y.domain.length < x.domain.length ∨
        (x.domain = y.domain ∧ [x, y].Sublist (Bucket.find x.domain j.buckets))))))

/-- The cookies that a jar looks at for a host, in their order: host first, then longer domains. -/
def within (j : Jar) (host : String) : List Cookie :=
  (Scope.candidates host).flatMap fun d => Bucket.find d j.buckets

/-! ## The cookies that are looked at -/

/-- What is sent is what stands in the buckets of the candidates and may be sent, put in order. -/
theorem sentTo_eq (j : Jar) (a : Address) (now : Int) :
    j.sentTo a now = ((j.within a.host).filter (·.isSentTo a now)).mergeSort Cookie.requestLe := rfl

/-- What is sent is in the jar, and has passed the test. -/
theorem mem_and_isSentTo_of_mem_sentTo {j : Jar} {a : Address} {now : Int} {c : Cookie}
    (h : c ∈ j.sentTo a now) : c ∈ j.cookies ∧ c.isSentTo a now = true := by
  rw [sentTo, (List.mergeSort_perm _ _).mem_iff, List.mem_filter, List.mem_flatMap] at h
  obtain ⟨⟨domain, _, hmem⟩, hsent⟩ := h
  exact ⟨mem_of_mem_find hmem, hsent⟩

/-- A jar looks at the cookies whose domain is a candidate. -/
theorem within_perm {j : Jar} (hv : j.Valid) (host : String) :
    (j.within host).Perm (j.cookies.filter fun c => decide (c.domain ∈ Scope.candidates host)) := by
  have hfind : ∀ d, Bucket.find d j.buckets = j.cookies.filter (·.domain == d) :=
    hv.buckets.find_eq_filter
  simp only [within, hfind]
  exact List.flatMap_filter_perm Cookie.domain (Scope.nodup_candidates host) j.cookies

/-- The cookies that are sent are those that match and are looked at. -/
theorem sentTo_perm_candidates {j : Jar} (hv : j.Valid) (a : Address) (now : Int) :
    (j.sentTo a now).Perm (j.cookies.filter fun c =>
      c.isSentTo a now && decide (c.domain ∈ Scope.candidates a.host)) := by
  have hwithin := (within_perm hv a.host).filter (·.isSentTo a now)
  rw [List.filter_filter] at hwithin
  rw [sentTo_eq]
  exact (List.mergeSort_perm _ _).trans hwithin

/-- What is sent are the cookies that pass the test and whose domain is looked at. -/
theorem mem_sentTo_iff {j : Jar} (hv : j.Valid) {a : Address} {now : Int} {c : Cookie} :
    c ∈ j.sentTo a now ↔
      c ∈ j.cookies ∧ c.isSentTo a now = true ∧ c.domain ∈ Scope.candidates a.host := by
  rw [(sentTo_perm_candidates hv a now).mem_iff, List.mem_filter, Bool.and_eq_true,
    decide_eq_true_iff]

/-- Nothing is lost by looking at these cookies only. -/
theorem sentTo_perm {j : Jar} (hv : j.Valid) (hdomains : ∀ c ∈ j.cookies, c.HasPlainDomain)
    {a : Address} (ha : IsLowerCase a.host.toList) (now : Int) :
    (j.sentTo a now).Perm (j.cookies.filter (·.isSentTo a now)) := by
  have hall : (j.cookies.filter fun c =>
      c.isSentTo a now && decide (c.domain ∈ Scope.candidates a.host)) =
        j.cookies.filter (·.isSentTo a now) := by
    apply List.filter_congr
    intro c hc
    obtain ⟨hlower, hne⟩ := hdomains c hc
    cases hsent : c.isSentTo a now with
    | false => rfl
    | true =>
      -- A cookie that is sent matches in its domain, which is a candidate then.
      have hmatch : Scope.domainMatches c.domain a.host c.hostOnly = true := by
        simp only [Cookie.isSentTo, Bool.and_eq_true] at hsent
        exact hsent.1.1.1
      have hmem := Scope.mem_candidates_of_domainMatches hlower ha hne hmatch
      simp [hmem]
  rw [← hall]
  exact sentTo_perm_candidates hv a now

/-- No cookie stands twice in a jar. -/
theorem nodup_cookies {j : Jar} (hv : j.Valid) : j.cookies.Nodup :=
  List.Nodup.of_map Cookie.key hv.buckets.keys_nodup

/-- No cookie is sent twice. -/
theorem nodup_sentTo {j : Jar} (hv : j.Valid) (hdomains : ∀ c ∈ j.cookies, c.HasPlainDomain)
    {a : Address} (ha : IsLowerCase a.host.toList) (now : Int) : (j.sentTo a now).Nodup :=
  (sentTo_perm hv hdomains ha now).nodup_iff.2 ((nodup_cookies hv).filter _)

/-! ## Their order -/

/-- What is sent is sorted by the length of the path, and then by age. -/
theorem pairwise_requestLe_sentTo (j : Jar) (a : Address) (now : Int) :
    (j.sentTo a now).Pairwise fun x y => Cookie.requestLe x y = true :=
  List.pairwise_mergeSort Cookie.requestLe_trans Cookie.requestLe_total _

/-- The cookies that are looked at: those of longer domains first, and those of one domain in the
    order of its bucket. -/
theorem pairwise_within {j : Jar} (hv : j.Valid) (host : String) :
    (j.within host).Pairwise fun x y => y.domain.length < x.domain.length ∨
      (x.domain = y.domain ∧ [x, y].Sublist (Bucket.find x.domain j.buckets)) := by
  rw [within, List.pairwise_flatMap]
  refine ⟨?_, ?_⟩
  · -- Within one bucket the cookies stand in its order.
    intro d _
    rw [List.pairwise_iff_forall_sublist]
    intro x y hxy
    have hx : x.domain = d := hv.buckets.domain_of_mem_find (hxy.subset (by simp))
    have hy : y.domain = d := hv.buckets.domain_of_mem_find (hxy.subset (by simp))
    exact .inr ⟨hx.trans hy.symm, hx.symm ▸ hxy⟩
  · -- Of two candidates the longer one comes first.
    refine (Scope.pairwise_candidates host).imp ?_
    intro d e hlt x hx y hy
    rw [hv.buckets.domain_of_mem_find hx, hv.buckets.domain_of_mem_find hy]
    exact .inl hlt

/-- Cookies are sent in the order of `Precedes`. -/
theorem pairwise_sentTo {j : Jar} (hv : j.Valid) (a : Address) (now : Int)
    (hnodup : (j.sentTo a now).Nodup) : (j.sentTo a now).Pairwise j.Precedes := by
  have hwithin := (pairwise_within hv a.host).filter (·.isSentTo a now)
  rw [sentTo_eq] at hnodup ⊢
  have hstable := List.pairwise_mergeSort_of_pairwise Cookie.requestLe_trans Cookie.requestLe_total
    ((List.mergeSort_perm _ _).nodup_iff.1 hnodup) hwithin
  refine hstable.imp ?_
  intro x y hxy
  obtain ⟨hle, htie⟩ := hxy
  rw [Cookie.requestLe_iff] at hle htie
  unfold Precedes
  -- Sorting is stable: what it takes for equal stays in the order of the buckets.
  by_cases hsize : y.path.utf8ByteSize < x.path.utf8ByteSize
  · exact .inl hsize
  · by_cases htime : x.created.nanos < y.created.nanos
    · exact .inr ⟨by omega, .inl htime⟩
    · exact .inr ⟨by omega, .inr ⟨by omega, htie (by omega)⟩⟩

/-- No two cookies precede each other. -/
theorem precedes_asymm {j : Jar} (hv : j.Valid) {x y : Cookie} (hxy : j.Precedes x y) :
    ¬ j.Precedes y x := by
  intro hyx
  -- Of the four ways to precede, each rules out the four ways to be preceded.
  rcases hxy with hxy | ⟨hsize, hxy | ⟨htime, hxy | ⟨hdomain, hxy⟩⟩⟩
  · rcases hyx with h | ⟨h, _⟩ <;> omega
  · rcases hyx with h | ⟨_, h | ⟨h, _⟩⟩ <;> omega
  · rcases hyx with h | ⟨_, h | ⟨_, h | ⟨h, _⟩⟩⟩
    · omega
    · omega
    · omega
    · rw [h] at hxy
      exact Nat.lt_irrefl _ hxy
  · rcases hyx with h | ⟨_, h | ⟨_, h | ⟨_, hyx⟩⟩⟩
    · omega
    · omega
    · rw [hdomain] at h
      exact Nat.lt_irrefl _ h
    · have hnodup : (Bucket.find x.domain j.buckets).Nodup :=
        List.Nodup.of_map Cookie.key (hv.buckets.keys_nodup_find x.domain)
      rw [← hdomain] at hyx
      exact List.not_pair_sublist_of_nodup hnodup hxy hyx

/-! ## The header -/

/-- An operation as it comes to a jar: addresses come from texts, and the cookies that were kept
    elsewhere have domains in lower case, which are not empty unless the cookie is bound to its
    host. -/
def Operation.IsNormal : Operation → Prop
  | .receive a _ => ∃ raw, Address.parse raw = .ok a
  | .load cs => ∀ c ∈ cs, c.HasPlainDomain
  | _ => True

/-- What a normal operation brings has a plain domain. -/
theorem Operation.IsNormal.brings {op : Operation} (h : op.IsNormal) (now : Int) :
    op.Brings Cookie.HasPlainDomain now := by
  cases op with
  | receive a header =>
    obtain ⟨raw, hraw⟩ := h
    intro c hc
    exact Cookie.isLowerCase_domain_of_receive? hc (Address.isLowerCase_host hraw)
  | load cs => exact h
  | removeAll => trivial
  | removeExpired => trivial
  | removeSession => trivial
  | setAccepts accepts => trivial

/-- All cookies of a jar have plain domains, if all operations are normal. -/
theorem hasPlainDomain_run (limits : Limits) {ops : List (Int × Operation)}
    (hops : ∀ o ∈ ops, o.2.IsNormal) :
    ∀ c ∈ ((empty limits).run ops).cookies, c.HasPlainDomain := by
  apply forall_mem_run
  · intro c t hc
    exact hc
  · simp [empty, cookies]
  · intro o ho
    exact (hops o ho).brings o.1

/-- The header is the list of pairs, unless nothing is sent. -/
theorem header?_eq_ite (j : Jar) (a : Address) (now : Int) :
    j.header? a now = if j.sentTo a now = [] then none
      else some ("; ".intercalate ((j.sentTo a now).map Cookie.pair)) := by
  unfold header?
  cases j.sentTo a now with
  | nil => rfl
  | cons c cs => rfl

/-- The header of a request has the pairs of exactly those cookies of the whole jar that are due
    under RFC 6265, each once and in the order of `Precedes`, which leaves one way to order them.
    There is no header exactly if no cookie of the jar is due. -/
theorem header?_exact {perHost total : Nat} {ops : List (Int × Operation)}
    (hops : ∀ o ∈ ops, o.2.IsNormal) {raw : String} {a : Address} (ha : Address.parse raw = .ok a)
    (now : Int) :
    let j := (empty (.of perHost total)).run ops
    (j.header? a now = none ↔ ∀ c ∈ j.cookies, ¬ c.IsDue a now) ∧
      ∃! cs : List Cookie, (cs.Nodup ∧ (∀ c, c ∈ cs ↔ c ∈ j.cookies ∧ c.IsDue a now) ∧
        cs.Pairwise j.Precedes) ∧
        j.header? a now =
          if cs = [] then none else some ("; ".intercalate (cs.map Cookie.pair)) := by
  intro j
  have hv : j.Valid := valid_run (.of perHost total) ops
  have hdomains : ∀ c ∈ j.cookies, c.HasPlainDomain := hasPlainDomain_run _ hops
  have hhost := Address.isLowerCase_host ha
  have hnodup := nodup_sentTo hv hdomains hhost now
  have hmem : ∀ c, c ∈ j.sentTo a now ↔ c ∈ j.cookies ∧ c.IsDue a now := by
    intro c
    rw [(sentTo_perm hv hdomains hhost now).mem_iff, List.mem_filter]
    refine and_congr_right ?_
    intro hc
    exact Cookie.isSentTo_iff (hdomains c hc).1 hhost
  refine ⟨?_, j.sentTo a now, ⟨⟨hnodup, hmem, pairwise_sentTo hv a now hnodup⟩,
    header?_eq_ite j a now⟩, ?_⟩
  · -- There is no header exactly if no cookie is due.
    rw [header?_eq_ite, ite_eq_left_iff]
    simp only [reduceCtorEq, imp_false, not_not, List.eq_nil_iff_forall_not_mem, hmem, not_and]
  · -- The order leaves no choice: another list of the same cookies in this order is the same list.
    rintro cs ⟨⟨hcs, hmem', hpairs⟩, _⟩
    have hperm : cs.Perm (j.sentTo a now) := by
      rw [List.perm_ext_iff_of_nodup hcs hnodup]
      intro c
      rw [hmem, hmem']
    refine hperm.eq_of_pairwise ?_ hpairs (pairwise_sentTo hv a now hnodup)
    intro x y _ _ hxy hyx
    exact absurd hyx (precedes_asymm hv hxy)

set_option maxRecDepth 10000 in
/-- A secure cookie that one host has set for its parent domain is sent to another host below it. -/
theorem header?_exact_parent_domain :
    let ops : List (Int × Operation) :=
      [(0, .receive ⟨"a.b.c", "/x/y", .secure⟩ "k=v; Domain=b.c; Path=/x; Secure"),
        (1, .removeExpired)]
    ((empty (.of 2 2)).run ops).header? ⟨"z.b.c", "/x/", .secure⟩ 2 ≠ none := by
  intro ops hnone
  -- Both addresses and the request are read from URLs.
  have hops : ∀ o ∈ ops, o.2.IsNormal := by
    intro o ho
    simp only [ops, List.mem_cons, List.not_mem_nil, or_false] at ho
    rcases ho with rfl | rfl
    · exact ⟨"https://a.b.c/x/y", rfl⟩
    · trivial
  have ha : Address.parse "https://z.b.c/x/" = .ok ⟨"z.b.c", "/x/", .secure⟩ := rfl
  -- The cookie of the parent domain is due at this address, for each of the four reasons.
  have hdue : Cookie.IsDue ⟨"k", "v", "b.c", "/x", false, true, false, none, none, .utc 0⟩
      ⟨"z.b.c", "/x/", .secure⟩ 2 :=
    { domain := .inr ⟨rfl, by decide, "z", by decide⟩
      path := .inr ⟨"/", by decide, .inr ⟨"", by decide⟩⟩
      secure := fun _ => by decide
      fresh := fun t ht => nomatch ht }
  have hmem : ⟨"k", "v", "b.c", "/x", false, true, false, none, none, .utc 0⟩ ∈
      ((empty (.of 2 2)).run ops).cookies := by
    decide +kernel
  -- So it is sent, and the header is not missing.
  have hiff : ((empty (.of 2 2)).run ops).header? ⟨"z.b.c", "/x/", .secure⟩ 2 = none ↔
      ∀ c ∈ ((empty (.of 2 2)).run ops).cookies, ¬ c.IsDue ⟨"z.b.c", "/x/", .secure⟩ 2 :=
    (header?_exact hops ha 2).1
  exact hiff.1 hnone _ hmem hdue

end Jar

end HttpState
