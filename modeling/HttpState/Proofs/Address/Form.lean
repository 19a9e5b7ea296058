import HttpState.Proofs.Address
import HttpState.Proofs.Text.Trim
import HttpState.Proofs.Url.Characters

/-!
# The form of an address

Whatever text an address comes from, its path begins with a slash and has no query and no fragment,
and its host holds nothing that ends or precedes a host in a URL, and no upper-case letter. A host
should also be there, unless the address is that of a file, and not end in a full stop.

That depends on the URL. Full stops at the end are taken away from the hosts of the web, but only
after the host has been found not to be empty, so nothing is left of a host of full stops. From the
hosts of files they are not taken away.

## Key definitions

- `IsWritten`: the characters of an address are those of a path and a host
- `IsWellFormed`: in addition, the host is there unless it is that of a file, and does not end in a
  full stop

## Key results

- `isWritten_of_ofUrl`: every address of a URL that has been read is written in this way
- `parse_isWellFormed_iff`: which texts have a well-formed address
-/

namespace HttpState.Address

open HttpState.Text HttpState.Url

/-- Characters that end a host in a URL, or what stands before it. -/
def isDelimiter (c : Char) : Bool := ['/', '?', '#', '@'].contains c

/-- The path is that of a URL, and so are the characters of the host. -/
structure IsWritten (a : Address) : Prop where
  path_head? : a.path.toList.head? = some '/'
  path : ∀ c ∈ a.path.toList, c ≠ '?' ∧ c ≠ '#'
  host_isUpper : ∀ c ∈ a.host.toList, c.isUpper = false
  host_isDelimiter : ∀ c ∈ a.host.toList, isDelimiter c = false

/-- An address has the form that it should have. -/
structure IsWellFormed (a : Address) : Prop extends IsWritten a where
  host_getLast? : a.host.toList.getLast? ≠ some '.'
  host_ne_empty : a.isFile = false → a.host ≠ ""

/-! ## Characters -/

/-- A path has no character that has to be escaped, so it ends before query and fragment. -/
theorem path_of_hasReadParts {u : Url} (h : u.HasReadParts) :
    (if u.path.isEmpty then ['/'] else u.path).head? = some '/' ∧
      ∀ c ∈ if u.path.isEmpty then ['/'] else u.path, c ≠ '?' ∧ c ≠ '#' := by
  cases h.path with
  -- An empty path stands for the root.
  | inl hnil => simp [hnil]
  | inr hpath =>
    -- A path that was resolved starts with a slash and has no character that is escaped.
    obtain ⟨ss, hss, hpath⟩ := hpath
    have hempty : u.path.isEmpty = false := by simp [hpath, renderPath]
    rw [if_neg (by simp [hempty]), hpath]
    refine ⟨rfl, fun c hc => ?_⟩
    have hc : Segment.needsEscape c = false := (of_mem_renderPath hss hc).1
    constructor
    · rintro rfl
      exact absurd hc (by decide)
    · rintro rfl
      exact absurd hc (by decide)

/-- Letter case makes no delimiters. -/
theorem isDelimiter_toLower {c : Char} (h : Host.isWritten c = true) :
    isDelimiter c.toLower = false := by
  rw [← Bool.not_eq_true]
  intro hdelimiter
  simp only [isDelimiter, List.contains_eq_mem, decide_eq_true_eq] at hdelimiter
  -- No delimiter is a letter, so it would be in the host as it stands.
  have hlower : c.toLower.isLower = false := by
    have hall : ['/', '?', '#', '@'].all (!·.isLower) = true := by decide
    simpa using List.all_eq_true.1 hall _ hdelimiter
  have hsame : c = c.toLower := eq_of_toLower_eq hlower rfl
  have hall : ['/', '?', '#', '@'].all (!Host.isWritten ·) = true := by decide
  have hnot := List.all_eq_true.1 hall _ hdelimiter
  rw [← hsame, h] at hnot
  exact nomatch hnot

/-- The text of a host that was read has only characters of a host. -/
theorem isWritten_of_mem_hostText {u : Url} (h : u.HasReadParts) {c : Char} (hc : c ∈ u.hostText) :
    Host.isWritten c = true := by
  unfold hostText at hc
  cases hhost : u.host with
  | none => simp [hhost] at hc
  | some host =>
    obtain ⟨s, hparse⟩ := h.host host hhost
    simp only [hhost, Option.map_some, Option.getD_some] at hc
    exact Host.isWritten_of_mem_render hparse hc

/-- The host of an address is that of the URL in lower case, up to full stops at the end. -/
theorem hostText?_eq_map {channel : Channel} {u : Url} {text : List Char}
    (h : hostText? channel u.host = some text) :
    text = (if channel = .file then u.hostText
      else dropEndWhile (· == '.') u.hostText).map Char.toLower := by
  unfold hostText? at h
  split at h
  · -- A file: letter case only.
    rename_i hfile
    rw [if_pos hfile]
    exact (Option.some.inj h).symm
  · -- Elsewhere the full stops at the end are dropped first.
    rename_i hweb
    rw [if_neg hweb]
    simp only [Option.ite_none_left_eq_some, Option.some.injEq] at h
    exact h.2.symm

/-- The characters of an address are those of a path and a host. -/
theorem isWritten_of_ofUrl {u : Url} {a : Address} (hu : u.HasReadParts) (h : ofUrl u = .ok a) :
    a.IsWritten := by
  have hlower := isLowerCase_host_of_ofUrl h
  obtain ⟨channel, host, -, hhost, rfl⟩ := ofUrl_eq_ok h
  obtain ⟨hhead, hpath⟩ := path_of_hasReadParts hu
  refine ⟨?_, ?_, hlower, ?_⟩
  · rwa [String.toList_ofList]
  · simpa only [String.toList_ofList] using hpath
  · simp only [String.toList_ofList, hostText?_eq_map hhost]
    intro c hc
    obtain ⟨d, hd, rfl⟩ := List.mem_map.1 hc
    refine isDelimiter_toLower (isWritten_of_mem_hostText hu ?_)
    split at hd
    · exact hd
    · exact (List.rdropWhile_prefix _ u.hostText).subset hd

/-! ## Full stops at the end of a host -/

/-- Putting letters in lower case neither makes nor hides a full stop at the end. -/
theorem getLast?_map_toLower {s : List Char} :
    (s.map Char.toLower).getLast? = some '.' ↔ s.getLast? = some '.' := by
  rw [List.getLast?_map, Option.map_eq_some_iff]
  constructor
  · rintro ⟨c, hc, hlower⟩
    rwa [← eq_of_toLower_eq (by decide) hlower]
  · intro h
    exact ⟨'.', h, by decide⟩

/-- An address of a file is well formed if the host of its URL does not end in a full stop, and any
    other address if the host of its URL has something else than full stops. -/
theorem isWellFormed_iff_of_ofUrl {u : Url} {a : Address} (hu : u.HasReadParts)
    (h : ofUrl u = .ok a) :
    a.IsWellFormed ↔
      if a.isFile then u.hostText.getLast? ≠ some '.' else ∃ c ∈ u.hostText, c ≠ '.' := by
  have hwritten := isWritten_of_ofUrl hu h
  obtain ⟨channel, host, -, hhost, rfl⟩ := ofUrl_eq_ok h
  have hempty := hostText?_eq_some hhost
  have htext := hostText?_eq_map hhost
  -- A file keeps the host as it was read, with a full stop that may end it.
  by_cases hfile : channel = .file
  · subst hfile
    have hiff : host.getLast? = some '.' ↔ u.hostText.getLast? = some '.' := by
      rw [htext, if_pos rfl]
      exact getLast?_map_toLower
    simp only [isFile, beq_self_eq_true, if_true, ne_eq]
    rw [← hiff]
    constructor
    · intro hwell
      simpa only [String.toList_ofList] using hwell.host_getLast?
    · intro hlast
      exact ⟨hwritten, by rwa [String.toList_ofList], nofun⟩
  · -- Elsewhere the full stops at the end are dropped, which may leave nothing.
    have hweb : (channel == .file) = false := by simpa using hfile
    have hiff : host ≠ [] ↔ ∃ c ∈ u.hostText, c ≠ '.' := by
      rw [ne_eq, hempty, if_neg hfile]
      simp [Url.hostText]
    simp only [isFile, hweb, Bool.false_eq_true, if_false]
    rw [← hiff]
    constructor
    · intro hwell
      have hne := hwell.host_ne_empty hweb
      rwa [ne_eq, String.ofList_eq_empty_iff] at hne
    · intro hne
      refine ⟨hwritten, ?_, fun _ => ?_⟩
      · rw [String.toList_ofList, htext, if_neg hfile, ne_eq, getLast?_map_toLower]
        exact fun hlast => absurd (of_mem_getLast?_dropEndWhile hlast) (by decide)
      · rwa [ne_eq, String.ofList_eq_empty_iff]

/-- The path of every address begins with a slash and ends before query and fragment, and the host
    of every address is in lower case and without delimiters. The address is well formed if it is
    that of a file and the host of its URL does not end in a full stop, or if it is none of a file
    and the host of its URL has something else than full stops. -/
theorem parse_isWellFormed_iff {raw : String} {a : Address} (h : parse raw = .ok a) :
    a.IsWritten ∧ ∃ u, Url.parse (withScheme (trim raw.toList)) = .ok u ∧ ofUrl u = .ok a ∧
      (a.IsWellFormed ↔
        if a.isFile then u.hostText.getLast? ≠ some '.' else ∃ c ∈ u.hostText, c ≠ '.') := by
  obtain ⟨u, hu, ha⟩ := parse_eq_ok h
  have hparts := hasReadParts_of_parse hu
  exact ⟨isWritten_of_ofUrl hparts ha, u, hu, ha, isWellFormed_iff_of_ofUrl hparts ha⟩

/-- A web host may end in a full stop, but not consist of one. -/
theorem parse_isWellFormed_example :
    ∃ a, parse "HTTP://Example.com./a?b" = .ok a ∧ a.host = "example.com" ∧ a.IsWellFormed := by
  have hparse : parse "HTTP://Example.com./a?b" = .ok ⟨"example.com", "/a", .plain⟩ := by
    decide +kernel
  obtain ⟨-, u, hu, -, hiff⟩ := parse_isWellFormed_iff hparse
  refine ⟨_, hparse, rfl, hiff.2 ?_⟩
  have hurl : Url.parse (withScheme (trim "HTTP://Example.com./a?b".toList)) =
      .ok ⟨"http".toList, some (.domain "example.com.".toList), "/a".toList⟩ := by decide +kernel
  obtain rfl := Except.ok.inj (hu.symm.trans hurl)
  rw [if_neg (by decide)]
  exact ⟨'e', by decide, by decide⟩

/-- Nothing is left of a web host that is a full stop, and a file on a server keeps the full stop
    behind the name of its host. -/
theorem parse_not_isWellFormed :
    (parse "http://./" = .ok ⟨"", "/", .plain⟩ ∧ ¬ IsWellFormed ⟨"", "/", .plain⟩) ∧
      parse "file://example.com./a" = .ok ⟨"example.com.", "/a", .file⟩ ∧
        ¬ IsWellFormed ⟨"example.com.", "/a", .file⟩ := by
  refine ⟨⟨by decide +kernel, fun h => ?_⟩, by decide +kernel, fun h => ?_⟩
  · exact h.host_ne_empty rfl rfl
  · exact h.host_getLast? (by decide)

end HttpState.Address
