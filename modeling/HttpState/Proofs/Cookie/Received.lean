import HttpState.Cookie.Received
import HttpState.Proofs.Text.LetterCase

/-!
# What is known of a received cookie

Every part of a received cookie comes from the header, the address or the clock.

## Key results

- `SetCookie.domainFor?_eq_some`: the two ways in which a cookie gets its domain
- `Cookie.exists_of_receive?`: the parts of a received cookie
- `Cookie.domainMatches_of_receive?`: its domain matches the host that it comes from
- `Cookie.isLowerCase_domain_of_receive?`: its domain has no upper-case letters
-/

namespace HttpState

open HttpState.Text

namespace SetCookie

/-- A named domain is not empty and in lower case. -/
theorem namedDomain?_eq_some {s : SetCookie} {d : List Char} (h : s.namedDomain? = some d) :
    d ≠ [] ∧ IsLowerCase d := by
  unfold namedDomain? at h
  split at h
  · exact nomatch h
  · rename_i e _
    simp only [Option.ite_none_left_eq_some, Option.some.injEq] at h
    obtain ⟨hne, rfl⟩ := h
    exact ⟨by simpa using hne, isLowerCase_map_toLower _⟩

/-- A cookie without a named domain is bound to the host of the address. One with a named domain
    does not come from a file, and its domain is the host or has a full stop, and matches the
    host. -/
theorem domainFor?_eq_some {s : SetCookie} {a : Address} {domain : String} {hostOnly : Bool}
    (h : s.domainFor? a = some (domain, hostOnly)) :
    (s.namedDomain? = none ∧ domain = a.host ∧ hostOnly = true) ∨
      ∃ d, s.namedDomain? = some d ∧ domain = String.ofList d ∧ hostOnly = false ∧
        a.isFile = false ∧ (d.contains '.' = true ∨ domain = a.host) ∧
        Scope.domainMatches domain a.host false = true := by
  unfold domainFor? at h
  split at h
  · -- No domain is named: the cookie is kept to the host.
    rename_i hnone
    simp only [Option.some.injEq, Prod.mk.injEq] at h
    exact .inl ⟨hnone, h.1.symm, h.2.symm⟩
  · -- A domain is named: it has passed three checks.
    rename_i d hsome
    simp only [Option.ite_none_left_eq_some, Option.ite_none_right_eq_some, Option.some.injEq,
      Prod.mk.injEq] at h
    obtain ⟨hfile, hdot, hmatches, rfl, rfl⟩ := h
    refine .inr ⟨d, hsome, rfl, rfl, by simpa using hfile, ?_, hmatches⟩
    by_cases hcontains : d.contains '.' = true
    · exact .inl hcontains
    · simp only [hcontains, Bool.not_false, Bool.true_and, bne_iff_ne, ne_eq,
        Decidable.not_not] at hdot
      exact .inr hdot

end SetCookie

namespace Cookie

/-- A received cookie says what its header says; its domain is one that the address may set, it is
    not secure unless the address is, and it is created now. -/
theorem exists_of_receive? {a : Address} {header : String} {now : Int} {c : Cookie}
    (h : receive? a header now = some c) :
    ∃ s expires, SetCookie.parse? header.toList = some s ∧
      s.domainFor? a = some (c.domain, c.hostOnly) ∧
      (s.secure = true → a.isSecure = true) ∧
      s.expiryAt? now = some expires ∧
      c = {
        name := String.ofList s.name
        value := String.ofList s.value
        domain := c.domain
        path := s.pathFor a
        hostOnly := c.hostOnly
        secure := s.secure
        httpOnly := s.httpOnly
        sameSite := s.sameSite.map SameSite.text
        expires := expires.map Time.Timestamp.utc
        created := Time.Timestamp.utc now } := by
  unfold receive? reception at h
  -- The header goes through one check after another, and has passed all of them.
  cases hs : SetCookie.parse? header.toList with
  | none =>
    simp only [hs] at h
    exact nomatch h
  | some s =>
    simp only [hs] at h
    unfold SetCookie.receptionFrom at h
    cases hdomain : s.domainFor? a with
    | none =>
      simp only [hdomain] at h
      exact nomatch h
    | some p =>
      obtain ⟨domain, hostOnly⟩ := p
      simp only [hdomain] at h
      split at h
      · exact nomatch h
      · rename_i hsecure
        cases hexpires : s.expiryAt? now with
        | none =>
          simp only [hexpires] at h
          exact nomatch h
        | some expires =>
          simp only [hexpires, SetCookie.Reception.cookie?, Option.some.injEq] at h
          subst h
          refine ⟨s, expires, rfl, hdomain, ?_, hexpires, rfl⟩
          intro hsec
          simpa [hsec] using hsecure

/-- A cookie that is received is created now. -/
theorem created_of_receive? {a : Address} {header : String} {now : Int} {c : Cookie}
    (h : receive? a header now = some c) : c.created = .utc now := by
  obtain ⟨_, _, _, _, _, _, hc⟩ := exists_of_receive? h
  rw [hc]

/-- The domain of a received cookie matches the host of the address that sets it. -/
theorem domainMatches_of_receive? {a : Address} {header : String} {now : Int} {c : Cookie}
    (h : receive? a header now = some c) :
    Scope.domainMatches c.domain a.host c.hostOnly = true := by
  obtain ⟨s, _, _, hdomain, _⟩ := exists_of_receive? h
  cases SetCookie.domainFor?_eq_some hdomain with
  | inl hhost =>
    obtain ⟨-, heq, -⟩ := hhost
    simp [Scope.domainMatches, Scope.sameLetters, heq]
  | inr hnamed =>
    obtain ⟨d, -, -, hhostOnly, -, -, hmatches⟩ := hnamed
    rw [hhostOnly]
    exact hmatches

/-- The domain of a received cookie is not empty unless the cookie is bound to its host. -/
theorem hostOnly_or_domain_ne_of_receive? {a : Address} {header : String} {now : Int} {c : Cookie}
    (h : receive? a header now = some c) : c.hostOnly = true ∨ c.domain ≠ "" := by
  obtain ⟨s, _, _, hdomain, _⟩ := exists_of_receive? h
  cases SetCookie.domainFor?_eq_some hdomain with
  | inl hhost => exact .inl hhost.2.2
  | inr hnamed =>
    obtain ⟨d, hd, heq, -⟩ := hnamed
    refine .inr ?_
    rw [heq, ne_eq, String.ofList_eq_empty_iff]
    exact (SetCookie.namedDomain?_eq_some hd).1

/-- The domain of a cookie received from a host in lower case is in lower case, and not empty unless
    the cookie is bound to its host. -/
theorem isLowerCase_domain_of_receive? {a : Address} {header : String} {now : Int} {c : Cookie}
    (h : receive? a header now = some c) (ha : IsLowerCase a.host.toList) :
    IsLowerCase c.domain.toList ∧ (c.hostOnly = true ∨ c.domain ≠ "") := by
  refine ⟨?_, hostOnly_or_domain_ne_of_receive? h⟩
  obtain ⟨s, _, _, hdomain, _⟩ := exists_of_receive? h
  cases SetCookie.domainFor?_eq_some hdomain with
  | inl hhost =>
    -- No domain is named: it is the host.
    rw [hhost.2.1]
    exact ha
  | inr hnamed =>
    -- A domain is named, and put in lower case when it is read.
    obtain ⟨d, hd, heq, -⟩ := hnamed
    rw [heq, String.toList_ofList]
    exact (SetCookie.namedDomain?_eq_some hd).2

end Cookie

end HttpState
