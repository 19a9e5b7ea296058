import HttpState.Cookie.Scope
import HttpState.Proofs.Text.LetterCase

/-!
# Domains above a host

The walk along the full stops of a host finds exactly the domains that a cookie may have to be sent
to the host, each once and the longer ones first. Texts in which full stops follow one another, or
stand at either end, are no exception.

## Key results

- `mem_candidates`: the candidates are the host and, unless it is an IP address, what follows a full
  stop of it, as long as that is not empty
- `pairwise_candidates`: each candidate is longer than those after it
- `domainMatches_iff`, `pathMatches_iff`: matching in terms of the texts, in lower case
- `mem_candidates_of_domainMatches`: every domain that matches a host is a candidate of the host
- `pathMatches_defaultPath`: the default path of a request is one that the request matches
-/

namespace HttpState.Scope

open HttpState.Text

/-! ## Parent domains -/

/-- The parent domains are the ends of the host, other than the empty one, in front of which a full
    stop stands. -/
theorem mem_parents {d s : List Char} :
    d ∈ parents s ↔ d ≠ [] ∧ ∃ front, s = front ++ '.' :: d := by
  induction s with
  | nil => simp [parents]
  | cons c s ih =>
    -- The full stop is the first character, or one of the others.
    have hsplit : (∃ front, c :: s = front ++ '.' :: d) ↔
        (c = '.' ∧ s = d) ∨ ∃ front, s = front ++ '.' :: d := by
      constructor
      · rintro ⟨front, h⟩
        cases front with
        | nil => exact .inl (by simpa using h)
        | cons e front => exact .inr ⟨front, by simpa using (List.cons.inj h).2⟩
      · rintro (⟨rfl, rfl⟩ | ⟨front, rfl⟩)
        · exact ⟨[], rfl⟩
        · exact ⟨c :: front, rfl⟩
    rw [hsplit, parents]
    by_cases hc : c = '.'
    · by_cases hs : s = []
      · subst hs
        simp [hc]
      · have hempty : s.isEmpty = false := by simpa using hs
        simp only [hc, hempty, if_true, Bool.false_eq_true, if_false, List.mem_cons, ih, true_and]
        constructor
        · rintro (rfl | ⟨hne, hfront⟩)
          · exact ⟨hs, .inl rfl⟩
          · exact ⟨hne, .inr hfront⟩
        · rintro ⟨hne, rfl | hfront⟩
          · exact .inl rfl
          · exact .inr ⟨hne, hfront⟩
    · simp [hc, ih]

/-- A parent domain is shorter. -/
theorem length_lt_of_mem_parents {d s : List Char} (h : d ∈ parents s) : d.length < s.length := by
  obtain ⟨_, front, rfl⟩ := mem_parents.1 h
  simp only [List.length_append, List.length_cons]
  omega

/-- Each parent domain is longer than those after it. -/
theorem pairwise_parents (s : List Char) : (parents s).Pairwise fun d e => e.length < d.length := by
  induction s with
  | nil => exact List.Pairwise.nil
  | cons c s ih =>
    rw [parents]
    split
    · split
      · exact List.Pairwise.nil
      · exact List.Pairwise.cons (fun d hd => length_lt_of_mem_parents hd) ih
    · exact ih

/-! ## Candidates -/

/-- The candidates of a host are the host itself and, unless it is an IP address, its parent
    domains. -/
theorem mem_candidates {d host : String} :
    d ∈ candidates host ↔
      d = host ∨ (isIpAddress host = false ∧ d ≠ "" ∧
        ∃ front, host.toList = front ++ '.' :: d.toList) := by
  unfold candidates
  rw [List.mem_cons]
  cases hip : isIpAddress host with
  | true => simp
  | false =>
    have hmap : d ∈ (parents host.toList).map String.ofList ↔ d.toList ∈ parents host.toList := by
      rw [List.mem_map]
      constructor
      · rintro ⟨e, he, rfl⟩
        rwa [String.toList_ofList]
      · intro h
        exact ⟨d.toList, h, String.ofList_toList⟩
    simp [hmap, mem_parents]

/-- Each candidate is longer than those after it. -/
theorem pairwise_candidates (host : String) :
    (candidates host).Pairwise fun d e => e.length < d.length := by
  unfold candidates
  cases isIpAddress host with
  | true => simp
  | false =>
    simp only [Bool.false_eq_true, if_false, List.pairwise_cons, List.mem_map,
      List.pairwise_map, String.length_ofList]
    refine ⟨?_, pairwise_parents host.toList⟩
    rintro _ ⟨d, hd, rfl⟩
    rw [String.length_ofList, ← String.length_toList]
    exact length_lt_of_mem_parents hd

/-- No domain is looked up twice. -/
theorem nodup_candidates (host : String) : (candidates host).Nodup := by
  refine (pairwise_candidates host).imp ?_
  intro d e hlt heq
  rw [heq] at hlt
  exact Nat.lt_irrefl _ hlt

/-! ## Matching -/

/-- A cookie of a domain goes to a host in lower case if the domain is the host or, unless the
    cookie is bound to its host or the host is an IP address, stands at the end of the host behind a
    full stop. -/
theorem domainMatches_iff {domain host : String} {hostOnly : Bool}
    (hdomain : IsLowerCase domain.toList) (hhost : IsLowerCase host.toList) :
    domainMatches domain host hostOnly = true ↔
      domain = host ∨ (hostOnly = false ∧ isIpAddress host = false ∧
        ∃ front, host.toList = front ++ '.' :: domain.toList) := by
  -- Both sides are in lower case, so letter case does not matter.
  have hsame : sameLetters domain host = true ↔ domain = host := by
    simp [sameLetters, hdomain.map_toLower, hhost.map_toLower, String.toList_inj]
  have hbelow : isBelow domain host = true ↔
      ∃ front, host.toList = front ++ '.' :: domain.toList := by
    rw [isBelow, hdomain.map_toLower, hhost.map_toLower, List.isSuffixOf_iff_suffix]
    exact ⟨fun ⟨front, h⟩ => ⟨front, h.symm⟩, fun ⟨front, h⟩ => ⟨front, h.symm⟩⟩
  simp only [domainMatches, Bool.or_eq_true, Bool.and_eq_true, Bool.not_eq_true', hsame, hbelow,
    and_assoc]

/-- A cookie of a path goes to the path itself, and to the paths that begin with it and go on at a
    slash. -/
theorem pathMatches_iff {path request : String} :
    pathMatches path request = true ↔
      request = path ∨ ∃ rest, request.toList = path.toList ++ rest ∧
        (path.toList.getLast? = some '/' ∨ rest.head? = some '/') := by
  simp only [pathMatches, Bool.or_eq_true, Bool.and_eq_true, beq_iff_eq, List.isPrefixOf_iff_prefix]
  constructor
  · -- Equal, or a prefix that ends at a slash.
    rintro (h | ⟨⟨rest, hrest⟩, hslash⟩)
    · exact .inl h
    · rw [← hrest, List.drop_left] at hslash
      exact .inr ⟨rest, hrest.symm, hslash⟩
  · -- Both halves say where the slash stands: at the end of the prefix or behind it.
    rintro (h | ⟨rest, hrest, hslash⟩)
    · exact .inl h
    · refine .inr ⟨⟨rest, hrest.symm⟩, ?_⟩
      rwa [hrest, List.drop_left]

/-- A domain that matches a host is a candidate of the host, if it is not empty or the cookie is
    bound to its host. -/
theorem mem_candidates_of_domainMatches {domain host : String} {hostOnly : Bool}
    (hdomain : IsLowerCase domain.toList) (hhost : IsLowerCase host.toList)
    (hne : hostOnly = true ∨ domain ≠ "") (h : domainMatches domain host hostOnly = true) :
    domain ∈ candidates host := by
  rw [mem_candidates]
  rcases (domainMatches_iff hdomain hhost).1 h with heq | ⟨hfalse, hip, hfront⟩
  · exact .inl heq
  · rcases hne with htrue | hne
    · rw [hfalse] at htrue
      exact absurd htrue (by decide)
    · exact .inr ⟨hip, hne, hfront⟩

/-! ## The default path -/

/-- The default path of a request is what stands before its last slash, or the slash if nothing
    does. -/
theorem defaultPath_eq {request : String} {front back : List Char}
    (h : request.toList = front ++ '/' :: back) (hback : '/' ∉ back) :
    defaultPath request = if front = [] then "/" else String.ofList front := by
  -- The last slash is the first one from behind.
  have hdrop : request.toList.reverse.dropWhile (· != '/') = '/' :: front.reverse := by
    have hreverse : request.toList.reverse = back.reverse ++ '/' :: front.reverse := by simp [h]
    rw [hreverse, List.dropWhile_append_of_pos]
    · rfl
    · intro c hc
      rw [bne_iff_ne]
      rintro rfl
      exact hback (List.mem_reverse.1 hc)
  simp only [defaultPath, hdrop, List.drop_succ_cons, List.drop_zero, List.reverse_reverse,
    List.isEmpty_iff]

/-- A request matches its own default path, wherever its slashes stand. -/
theorem pathMatches_defaultPath {request : String} (h : '/' ∈ request.toList) :
    pathMatches (defaultPath request) request = true := by
  -- The last slash is the first one from behind.
  obtain ⟨back, front, hreverse, hback⟩ := List.eq_append_cons_of_mem (List.mem_reverse.2 h)
  have hsplit : request.toList = front.reverse ++ '/' :: back.reverse := by
    rw [← List.reverse_reverse request.toList, hreverse]
    simp
  rw [defaultPath_eq hsplit (by simpa using hback), pathMatches_iff, hsplit]
  refine .inr ?_
  split
  · -- The slash is the first character: the path is the root.
    rename_i hfront
    rw [hfront]
    exact ⟨back.reverse, rfl, .inl rfl⟩
  · -- Any other slash is left out of the path, and follows it.
    exact ⟨'/' :: back.reverse, by rw [String.toList_ofList], .inr rfl⟩

end HttpState.Scope
