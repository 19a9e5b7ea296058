import HttpState.Proofs.Jar.Retrieval

/-!
# Who has set what a request sends

A cookie that a request sends was set by a header value that the jar has stored, from an address
that shares a domain with that of the request. The address that sets a cookie and the one it is sent
to are checked at different times and by different tests: a header may name only domains above its
own host, and a cookie is sent only to hosts below its domain. Together they leave no way from one
site to another.

A cookie may take the place of one that another host has set. It has then nothing of that one but
its creation time.

## Key results

- `SetCookie.reaches_of_domainMatches`: from the host that sets a cookie to the host it is sent to
- `Jar.exists_stores_of_mem_run`: what is in a jar was stored by a call, and by which
- `Jar.sent_cookies_were_set`: both together, for every jar that nothing was loaded into
-/

namespace HttpState

open HttpState.Text

/-- A host is a domain, or lies below it: it ends in a full stop and the domain. -/
def Scope.IsWithin (domain host : String) : Prop :=
  host = domain ∨ ∃ labels, host = labels ++ "." ++ domain

/-- How what a header says at one address can be sent to another one. -/
inductive SetCookie.Reaches (s : SetCookie) (a a' : Address) : Prop where
  /-- The header names no domain, and the hosts are the same. -/
  | sameHost (unnamed : s.namedDomain? = none) (host : a.host = a'.host)
  /-- The header names a domain that both hosts lie in, and that is the host itself for an IP
      address. Files name no domains, and only hosts of that name a domain without a full stop. -/
  | sharedDomain (d : String) (named : s.namedDomain? = some d.toList) (web : a.isFile = false)
      (dotted : '.' ∈ d.toList ∨ d = a.host) (within : Scope.IsWithin d a.host)
      (within' : Scope.IsWithin d a'.host) (ip : Scope.isIpAddress a.host = true → d = a.host)
      (ip' : Scope.isIpAddress a'.host = true → d = a'.host)

/-- A host that a domain matches lies within it, and is the domain if it is an IP address. -/
theorem Scope.isWithin_of_domainMatches {domain host : String} {hostOnly : Bool}
    (hdomain : IsLowerCase domain.toList) (hhost : IsLowerCase host.toList)
    (h : Scope.domainMatches domain host hostOnly = true) :
    Scope.IsWithin domain host ∧ (Scope.isIpAddress host = true → domain = host) := by
  rcases (Scope.domainMatches_iff_append hdomain hhost).1 h with rfl | ⟨_, hname, hbelow⟩
  · exact ⟨.inl rfl, fun _ => rfl⟩
  · refine ⟨.inr hbelow, ?_⟩
    intro hip
    exact absurd hip (by simp [hname])

/-- A host that the domain of a cookie matches is reached from the address that has set it. -/
theorem SetCookie.reaches_of_domainMatches {s : SetCookie} {a a' : Address} {domain : String}
    {hostOnly : Bool} (ha : IsLowerCase a.host.toList) (ha' : IsLowerCase a'.host.toList)
    (hset : s.domainFor? a = some (domain, hostOnly))
    (hsent : Scope.domainMatches domain a'.host hostOnly = true) : s.Reaches a a' := by
  rcases SetCookie.domainFor?_eq_some hset with
    -- Without a Domain attribute the cookie is sent to its own host only. With one, both hosts lie
    -- within the domain.
    ⟨hnone, rfl, rfl⟩ | ⟨d, hd, rfl, _, hweb, hdot, hmatches⟩
  · rcases (Scope.domainMatches_iff_append ha ha').1 hsent with hhost | ⟨hfalse, _⟩
    · exact .sameHost hnone hhost
    · exact nomatch hfalse
  · obtain ⟨_, hlower⟩ := SetCookie.namedDomain?_eq_some hd
    rw [← String.toList_ofList (l := d)] at hd hdot hlower
    obtain ⟨hwithin, hip⟩ := Scope.isWithin_of_domainMatches hlower ha hmatches
    obtain ⟨hwithin', hip'⟩ := Scope.isWithin_of_domainMatches hlower ha' hsent
    exact .sharedDomain _ hd hweb (by simpa using hdot) hwithin hwithin' hip hip'

namespace Jar

/-- A run that loads nothing brings no cookie to a jar that no call has stored. -/
theorem exists_stores_of_mem_run {j : Jar} {ops : List (Int × Operation)}
    (hload : ∀ o ∈ ops, ∀ cs, o.2 ≠ .load cs) {x : Cookie} (hx : x ∈ (j.run ops).cookies) :
    x ∈ j.cookies ∨ ∃ before now a header after,
      ops = before ++ (now, .receive a header) :: after ∧ (j.run before).Stores a header now x := by
  induction ops generalizing j with
  | nil => exact .inl hx
  | cons o ops ih =>
    rcases ih (fun p hp => hload p (List.mem_cons_of_mem o hp)) hx with
      hmem | ⟨before, now, a, header, after, rfl, hstores⟩
    · -- The cookie was there after the first operation, which may have stored it.
      obtain ⟨now, op⟩ := o
      cases op with
      | receive a header =>
        refine (mem_or_stores_of_mem_receive hmem).imp_right ?_
        intro hstores
        exact ⟨[], now, a, header, ops, rfl, hstores⟩
      | load cs => exact absurd rfl (hload _ List.mem_cons_self cs)
      | removeAll => exact absurd hmem List.not_mem_nil
      | removeExpired => exact .inl (mem_of_mem_filter hmem)
      | removeSession => exact .inl (mem_of_mem_filter hmem)
      | setAccepts accepts => exact .inl hmem
    · -- A later operation stored it, in the jar that the first one left.
      exact .inr ⟨o :: before, now, a, header, after, rfl, hstores⟩

/-- Take any jar that was made empty and that nothing was loaded into, whatever was done to it under
    whatever clock, and any cookie of the header that it sends to an address. In the run there is a
    call that has stored this cookie: the answer to it was positive, and the cookie is the one that
    its header value sets, with all it says but the creation time.

    Either the header names no domain, and the call was made for the host that the cookie is sent
    to. Or it names a domain that both hosts lie in. And a cookie that is secure was set over a
    secure channel and is sent over one. -/
theorem sent_cookies_were_set {perHost total : Nat} {ops : List (Int × Operation)}
    (hops : ∀ o ∈ ops, o.2.IsNormal) (hload : ∀ o ∈ ops, ∀ cs, o.2 ≠ .load cs) {raw : String}
    {a' : Address} (ha' : Address.parse raw = .ok a') (now' : Int) :
    let j := (empty (.of perHost total)).run ops
    (∀ text, j.header? a' now' = some text →
      text = "; ".intercalate ((j.sentTo a' now').map Cookie.pair)) ∧
    ∀ c ∈ j.sentTo a' now', ∃ before now a header after s,
      ops = before ++ (now, .receive a header) :: after ∧
      (((empty (.of perHost total)).run before).receive a header now).1 = true ∧
      Cookie.receive? a header now = some { c with created := .utc now } ∧
      SetCookie.parse? header.toList = some s ∧ s.Reaches a a' ∧
      (c.secure = true → a.isSecure = true ∧ a'.isSecure = true) := by
  intro j
  -- The header is the list of pairs of what is sent.
  refine ⟨?_, ?_⟩
  · intro text htext
    rw [header?_eq_ite, Option.ite_none_left_eq_some] at htext
    exact (Option.some.inj htext.2).symm
  · -- Each of these was stored by some header of the run, and nothing was loaded.
    intro c hc
    obtain ⟨hmem, hsent⟩ := mem_and_isSentTo_of_mem_sentTo hc
    simp only [Cookie.isSentTo, Bool.and_eq_true, Bool.or_eq_true, Bool.not_eq_true'] at hsent
    obtain ⟨⟨⟨hmatches, _⟩, hsecure'⟩, _⟩ := hsent
    rcases exists_stores_of_mem_run hload hmem with
      hempty | ⟨before, now, a, header, after, heq, hstored, hreceived⟩
    · exact absurd hempty List.not_mem_nil
    · obtain ⟨s, _, hparse, hdomain, hsecure, _, hparts⟩ := Cookie.exists_of_receive? hreceived
      obtain ⟨url, hurl⟩ : ∃ url, Address.parse url = .ok a :=
        hops (now, .receive a header) (by simp [heq])
      refine ⟨before, now, a, header, after, s, heq, hstored, hreceived, hparse, ?_, ?_⟩
      · exact SetCookie.reaches_of_domainMatches (Address.isLowerCase_host hurl)
          (Address.isLowerCase_host ha') hdomain hmatches
      · intro hsec
        have hsame : c.secure = s.secure := congrArg Cookie.secure hparts
        exact ⟨hsecure (hsame ▸ hsec), hsecure'.resolve_left (by simp [hsec])⟩

set_option maxRecDepth 10000 in
/-- A cookie that has taken the place of one from another host is sent to a third host, and all but
    its creation time is from the second one. -/
theorem sent_cookies_were_set_twice :
    let ops : List (Int × Operation) :=
      [(0, .receive ⟨"a.b.c", "/", .plain⟩ "k=v; Domain=b.c; Path=/"),
        (1, .receive ⟨"x.b.c", "/x", .secure⟩ "k=w; Domain=..B.C; Path=/; Secure")]
    let c : Cookie := ⟨"k", "w", "b.c", "/", false, true, false, none, none, .utc 0⟩
    c ∈ ((empty (.of 2 2)).run ops).sentTo ⟨"y.b.c", "/", .secure⟩ 2 ∧
      ∃ now a header s, Cookie.receive? a header now = some { c with created := .utc now } ∧
        SetCookie.parse? header.toList = some s ∧ s.Reaches a ⟨"y.b.c", "/", .secure⟩ ∧
        a.isSecure = true := by
  intro ops c
  -- All addresses are read from URLs, and nothing is loaded.
  have hops : ∀ o ∈ ops, o.2.IsNormal := by
    intro o ho
    simp only [ops, List.mem_cons, List.not_mem_nil, or_false] at ho
    rcases ho with rfl | rfl
    · exact ⟨"http://a.b.c/", rfl⟩
    · exact ⟨"https://x.b.c/x", rfl⟩
  have hload : ∀ o ∈ ops, ∀ cs, o.2 ≠ .load cs := by
    intro o ho cs
    simp only [ops, List.mem_cons, List.not_mem_nil, or_false] at ho
    rcases ho with rfl | rfl <;> simp
  have ha : Address.parse "https://y.b.c/" = .ok ⟨"y.b.c", "/", .secure⟩ := rfl
  -- The cookie is the second one, with the creation time of the first.
  have hsent : c ∈ ((empty (.of 2 2)).run ops).sentTo ⟨"y.b.c", "/", .secure⟩ 2 := by
    decide +kernel
  obtain ⟨_, now, a, header, _, s, _, _, hreceived, hparse, hreaches, hsecure⟩ :=
    (sent_cookies_were_set hops hload ha 2).2 c hsent
  exact ⟨hsent, now, a, header, s, hreceived, hparse, hreaches, (hsecure rfl).1⟩

end Jar

end HttpState
