import HttpState.Proofs.Cookie.Attributes
import HttpState.Proofs.Jar.Receipt
import HttpState.Proofs.Jar.Retrieval

/-!
# Cookies and the address that has set them

A cookie is accepted by some tests and sent by others. The domain that it asks for is looked for at
the end of the host, but its bucket is found by walking along the full stops of the host. Its path
is cut off at the last slash of the request, but it is compared from the front. Here these are shown
to agree, whatever hosts and paths look like: no address sets a cookie that is kept from it, except
by a path that the header has named or because it has expired.

## Key results

- `Cookie.domain_mem_candidates_of_receive?`: the domain
- `Cookie.path_of_receive?`: the path, if the header does not name one
- `received_is_readable`: all of them, and what is sent to the address
-/

namespace HttpState

open HttpState.Text

namespace Cookie

variable {a : Address} {header : String} {now : Int} {c : Cookie}

/-- The bucket of a cookie is one of those that are looked into for the address that sets it. -/
theorem domain_mem_candidates_of_receive? (h : receive? a header now = some c)
    (ha : IsLowerCase a.host.toList) : c.domain ∈ Scope.candidates a.host := by
  obtain ⟨hlower, hne⟩ := isLowerCase_domain_of_receive? h ha
  exact Scope.mem_candidates_of_domainMatches hlower ha hne (domainMatches_of_receive? h)

/-- A cookie marked secure comes of a secure address. -/
theorem isSecure_of_receive? (h : receive? a header now = some c) (hsecure : c.secure = true) :
    a.isSecure = true := by
  obtain ⟨s, _, _, _, hallowed, _, hc⟩ := exists_of_receive? h
  rw [hc] at hsecure
  exact hallowed hsecure

/-- A header without a path that begins with a slash leaves the path to the address. -/
theorem path_of_receive? (h : receive? a header now = some c)
    (hpath : ∀ v ∈ SetCookie.values "path" header.toList, v.head? ≠ some '/') :
    c.path = Scope.defaultPath a.path := by
  obtain ⟨s, _, hs, _, _, _, hc⟩ := exists_of_receive? h
  -- A path that is given does not begin with a slash, so it is not used.
  have hlast := SetCookie.path_of_parse? hs
  rw [hc]
  show s.pathFor a = Scope.defaultPath a.path
  unfold SetCookie.pathFor
  split
  · rename_i p hp
    rw [hp] at hlast
    exact absurd rfl (hpath _ (List.mem_of_getLast? hlast.symm))
  · rfl

end Cookie

namespace Jar

/-- A cookie that is received from an address matches the host of the address and has one of the
    domains that are looked at for it, and is not secure unless the address is. If the header has no
    path that begins with a slash, the cookie has the default path, which the address matches.

    So wherever such a cookie is in a jar, be it with its own creation time or with that of a cookie
    it has replaced, the jar sends it to the address until it expires, if only its path matches. -/
theorem received_is_readable {u : Url} {a : Address} (ha : Address.ofUrl u = .ok a)
    (hslash : a.path.toList.head? = some '/') {header : String} {now : Int} {c : Cookie}
    (h : Cookie.reception a header now = .cookie c) :
    Scope.domainMatches c.domain a.host c.hostOnly = true ∧
      c.domain ∈ Scope.candidates a.host ∧
      (c.secure = true → a.isSecure = true) ∧
      ((∀ v ∈ SetCookie.values "path" header.toList, v.head? ≠ some '/') →
        c.path = Scope.defaultPath a.path ∧ Scope.pathMatches c.path a.path = true) ∧
      ∀ (perHost total : Nat) (ops : List (Int × Operation)) (now' : Int),
        let j := (empty (.of perHost total)).run ops
        ∀ x ∈ j.cookies, x = { c with created := x.created } →
          (x ∈ j.sentTo a now' ↔
            Scope.pathMatches c.path a.path = true ∧ c.isExpired now' = false) := by
  have hreceived := Cookie.receive?_eq_some_iff.2 h
  have hmatches := Cookie.domainMatches_of_receive? hreceived
  have hcandidate := Cookie.domain_mem_candidates_of_receive? hreceived
    (Address.isLowerCase_host_of_ofUrl ha)
  have hsecure := Cookie.isSecure_of_receive? hreceived
  refine ⟨hmatches, hcandidate, hsecure, ?_, ?_⟩
  · intro hpath
    have hdefault := Cookie.path_of_receive? hreceived hpath
    refine ⟨hdefault, ?_⟩
    rw [hdefault]
    exact Scope.pathMatches_defaultPath (List.mem_of_head? hslash)
  · -- A cookie of the jar that agrees with the received one but for its age is sent under the same
    -- conditions.
    intro perHost total ops now' j x hx heq
    have hsecure' : (!c.secure || a.isSecure) = true := by
      cases hc : c.secure with
      | false => rfl
      | true => exact hsecure hc
    -- The creation time is no part of the test.
    have hdomain : x.domain = c.domain := by rw [heq]
    have hsent : x.isSentTo a now' = c.isSentTo a now' := by rw [heq]; rfl
    rw [mem_sentTo_iff (valid_run _ ops), and_iff_right hx, hdomain, and_iff_left hcandidate, hsent]
    simp only [Cookie.isSentTo, hmatches, hsecure', Bool.true_and, Bool.and_true, Bool.and_eq_true,
      Bool.not_eq_true']

set_option maxRecDepth 10000 in
/-- Full stops and slashes may follow one another, and a path without a slash in front is none. The
    cookie is sent back until it expires, although it has the creation time of another one. -/
theorem received_is_readable_replaced :
    let a : Address := ⟨"x..c.d", "/p//q//", .plain⟩
    let header := "k=v; Domain=.C.d; Path=q; Max-Age=1"
    let c : Cookie := ⟨"k", "v", "c.d", "/p//q/", false, false, false, none,
      some (.utc 1000000005), .utc 5⟩
    let x : Cookie := { c with created := .utc 1 }
    let j := (empty (.of 1 1)).run
      [(1, .receive a "k=old; Domain=c.d"), (5, .receive a header)]
    Cookie.reception a header 5 = .cookie c ∧ x ∈ j.cookies ∧ x ∈ j.sentTo a 1000000004 ∧
      x ∉ j.sentTo a 1000000005 := by
  intro a header c x j
  have ha : Address.ofUrl ⟨['w', 's'], some (.domain "x..C.d.".toList), "/p//q//".toList⟩ = .ok a :=
    rfl
  -- The cookie has replaced another one, whose creation time it has.
  have hreception : Cookie.reception a header 5 = .cookie c := by decide +kernel
  have hmem : x ∈ j.cookies := by decide +kernel
  obtain ⟨-, -, -, hdefault, hsent⟩ := received_is_readable ha (by decide) hreception
  obtain ⟨-, hpath⟩ := hdefault (by decide +kernel)
  have hsent := fun now' => hsent 1 1 _ now' x hmem rfl
  refine ⟨hreception, hmem, (hsent _).2 ⟨hpath, rfl⟩, ?_⟩
  rw [hsent]
  exact fun h => nomatch h.2

end Jar

end HttpState
