import HttpState.Proofs.Url.Parts
import HttpState.Proofs.Url.WrittenHost

/-!
# Reading a URL that is written out of a scheme, a host and a path

What has been read of a URL can be written as a URL again: behind the scheme come two slashes, the
host and the path. Nothing of that is dropped as it is read, and host and path are told apart where
they were put together.

## Key results

- `parse_network_of_visible`, `parse_file_of_visible`: what is read of a visible URL
- `parseNetwork_written`, `parseFile_written`: what is read of a host and a path
- `parseNetwork_path`: what is read of a path without a host
-/

namespace HttpState.Url

open HttpState.Text

/-! ## Hosts -/

namespace Host

/-- The characters of a host are visible, and end neither the authority nor a user in front of
    it. -/
theorem of_mem_render {h : Host} (hread : h.IsRead) {c : Char} (hc : c ∈ h.render) :
    isInvisible c = false ∧ endsAuthority .network c = false ∧ c ≠ '@' := by
  have hall : ∀ n : Fin 128, isWritten (Char.ofNat n.val) = true →
      isInvisible (Char.ofNat n.val) = false ∧ endsAuthority .network (Char.ofNat n.val) = false ∧
        Char.ofNat n.val ≠ '@' := by decide
  have hascii := Unicode.isAscii_iff.1 (isAsciiForm_render hread c hc).1
  have hfin := hall ⟨c.toNat, hascii⟩
  simp only [Char.ofNat_toNat] at hfin
  exact hfin (isWritten_of_isRead hread hc)

/-- A name has no colon, so the port begins behind it. -/
theorem splitPort_of_isForbidden {text port : List Char}
    (h : ∀ c ∈ text, DomainName.isForbidden c = false) (hport : ∀ c ∈ port.head?, c = ':') :
    splitPort false (text ++ port) = (text, port) := by
  refine splitPort_append (fun c hc => ⟨?_, ?_⟩) hport
  · rintro rfl
    exact absurd (h _ hc) (by decide)
  · rintro rfl
    exact absurd (h _ hc) (by decide)

/-- A host stands for itself in a URL, also without full stops at its end. -/
theorem standsForHost {h : Host} (hread : h.IsRead) {text : List Char}
    (htext : dropEndWhile (· == '.') h.render = text) (hne : text ≠ []) : StandsForHost text := by
  have hmem : ∀ c ∈ text, c ∈ h.render := fun c hc =>
    (List.rdropWhile_prefix _ _).subset (htext ▸ hc)
  refine ⟨hne, fun c hc => (of_mem_render hread (hmem c hc)).1,
    fun c hc => (of_mem_render hread (hmem c hc)).2, fun port hport => ?_⟩
  cases h with
  | domain name =>
    -- No character of a domain ends the host, nor has it a colon that a port could follow.
    obtain ⟨⟨s, hs⟩, -, -⟩ := hread
    exact splitPort_of_isForbidden
      (fun c hc => DomainName.isForbidden_of_mem_toAscii? hs (hmem c hc)) hport
  | ipv4 n =>
    exact splitPort_of_isForbidden
      (fun c hc => (DomainName.isAsciiName_ipv4 n).isForbidden c (hmem c hc)) hport
  | ipv6 ps =>
    -- The colons of an IPv6 address stand in its brackets.
    rw [dropEndWhile_render_ipv6] at htext
    subst htext
    have hbracket : ']' ∉ Ipv6.render ps := by
      intro hbracket
      rcases Ipv6.mem_render hbracket with h | h <;> exact absurd h (by decide)
    have hsplit := splitPort_brackets hbracket hport
    rwa [render, List.append_assoc, List.singleton_append]

/-- A host is no drive letter: only addresses in brackets hold colons, and no host holds a bar. -/
theorem isDriveLetter_render {h : Host} (hread : h.IsRead) :
    Segment.isDriveLetter h.render = false := by
  unfold Segment.isDriveLetter
  split
  · rename_i a b hrender
    have hb : b ∈ h.render := by simp [hrender]
    rw [← Bool.not_eq_true, Bool.and_eq_true, Bool.or_eq_true, beq_iff_eq, beq_iff_eq]
    -- A letter and then `:` or `|`: no kind of host starts with these two.
    rintro ⟨ha, rfl | rfl⟩
    · cases h with
      | domain name =>
        obtain ⟨⟨s, hs⟩, -, -⟩ := hread
        exact absurd (DomainName.isForbidden_of_mem_toAscii? hs hb) (by decide)
      | ipv4 n => exact absurd ((DomainName.isAsciiName_ipv4 n).isForbidden _ hb) (by decide)
      | ipv6 ps =>
        have hbracket : a = '[' := (List.cons.inj hrender).1.symm
        exact absurd ha (by simp [hbracket])
    · exact absurd (isWritten_of_isRead hread hb) (by decide)
  · rfl

end Host

/-! ## Visible URLs -/

section Visible

variable {rest : List Char} (hrest : ∀ c ∈ rest, isInvisible c = false)

include hrest

/-- Nothing is dropped of a visible URL. -/
theorem visible_eq {scheme : List Char} (hscheme : ∀ c ∈ scheme, c.isAlpha = true) :
    trimWhile isPadding (scheme ++ ':' :: rest) = scheme ++ ':' :: rest ∧
      ∀ c ∈ scheme ++ ':' :: rest, isBreak c = false := by
  have hvisible : ∀ c ∈ scheme ++ ':' :: rest, isInvisible c = false := by
    rw [List.forall_mem_append, List.forall_mem_cons]
    exact ⟨fun c hc => isInvisible_of_isAlphanum (isAlphanum_iff.2 (.inl (hscheme c hc))),
      by decide, hrest⟩
  exact ⟨trimWhile_eq_self fun c hc => isPadding_of_isInvisible (hvisible c hc),
    fun c hc => isBreak_of_isInvisible (hvisible c hc)⟩

/-- What a text with a network scheme is read as, if nothing in it is invisible. -/
theorem parse_network_of_visible {scheme : List Char}
    (hscheme : SchemeKind.of (scheme.map Char.toLower) = .network) :
    parse (scheme ++ ':' :: rest) = parseNetwork (scheme.map Char.toLower) rest := by
  obtain ⟨hne, halpha⟩ := isAlpha_of_network hscheme
  obtain ⟨htrim, hbreaks⟩ := visible_eq hrest halpha
  simp only [parse]
  rw [htrim, withoutBreaks_of_forall hbreaks, splitScheme_append hne halpha]
  simp only [hscheme]

/-- What a text with the scheme `file` is read as, if nothing in it is invisible. -/
theorem parse_file_of_visible :
    parse (['f', 'i', 'l', 'e'] ++ ':' :: rest) = parseFile rest := by
  have halpha : ∀ c ∈ ['f', 'i', 'l', 'e'], c.isAlpha = true := List.all_eq_true.1 (by decide)
  obtain ⟨htrim, hbreaks⟩ := visible_eq hrest halpha
  have hscheme : ['f', 'i', 'l', 'e'].map Char.toLower = ['f', 'i', 'l', 'e'] := by decide
  simp only [parse]
  rw [htrim, withoutBreaks_of_forall hbreaks, splitScheme_append (by simp) halpha, hscheme]
  have hkind : SchemeKind.of ['f', 'i', 'l', 'e'] = .file := rfl
  simp only [hkind, behind_eq_drop hbreaks]
  rfl

end Visible

/-- The authority in which a host has been read is not empty, and what follows it begins where it
    ends. -/
theorem splitAuthority_spec {kind : SchemeKind} {user : Option (List Char)}
    {t hostText port rest : List Char}
    (h : splitAuthority kind t = (user, hostText, port, rest)) (hne : hostText ≠ []) :
    ∃ authority, authority ≠ [] ∧ t = authority ++ rest ∧
      ∀ c ∈ rest.head?, endsAuthority kind c = true := by
  have hrest : rest = t.dropWhile (!endsAuthority kind ·) := by
    simp only [splitAuthority] at h
    split at h
    all_goals
      cases h
      rfl
  refine ⟨t.takeWhile (!endsAuthority kind ·), ?_, ?_, ?_⟩
  · -- An empty authority has an empty host, against `hne`.
    intro hnil
    simp only [splitAuthority, hnil] at h
    cases h
    exact hne rfl
  · rw [hrest, List.takeWhile_append_dropWhile]
  · -- The rest begins with the first character that ends an authority.
    intro c hc
    have hnot := List.head?_dropWhile_not (!endsAuthority kind ·) t
    rw [← hrest, Option.mem_def.1 hc] at hnot
    simpa using hnot

/-! ## Paths -/

/-- All of a text without `?` and `#` comes before the query. -/
theorem beforeQuery_eq_self {s : List Char} (h : ∀ c ∈ s, c ≠ '?' ∧ c ≠ '#') :
    beforeQuery s = s := by
  have happend := @beforeQuery_append s [] h nofun
  rwa [List.append_nil] at happend

section Path

variable {s : List Char} (hs : IsPathOfUrl s)

include hs

/-- The path of a URL has no invisible characters. -/
theorem IsPathOfUrl.isInvisible : ∀ c ∈ '/' :: s, isInvisible c = false := by
  refine List.forall_mem_cons.2 ⟨by decide, fun c hc => ?_⟩
  have hescape := (hs c hc).1
  simp only [Segment.needsEscape, Bool.or_eq_false_iff, decide_eq_false_iff_not] at hescape
  simp only [Url.isInvisible, isControl, isBlank, Bool.or_eq_false_iff, Bool.and_eq_false_iff,
    decide_eq_false_iff_not, beq_eq_false_iff_ne]
  omega

/-- The path of a URL does not end early. -/
theorem IsPathOfUrl.ne_query {c : Char} (hc : c ∈ s) : c ≠ '?' ∧ c ≠ '#' := by
  constructor
  · rintro rfl
    exact absurd (hs _ hc).1 (by decide)
  · rintro rfl
    exact absurd (hs _ hc).1 (by decide)

/-- The path of a URL can be written into a URL. -/
theorem IsPathOfUrl.isPathText : IsPathText ('/' :: s) where
  head? c hc := by
    cases hc
    rfl
  getLast? c hc := hs.isInvisible c (List.mem_of_getLast? hc)
  endsBeforeQuery c hc := by
    rcases List.mem_cons.1 hc with rfl | hc
    · decide
    · exact hs.ne_query hc

/-- What is read of a host and a path behind a network scheme. -/
theorem parseNetwork_written {scheme host : List Char} (hhost : StandsForHost host)
    (hdots : ∀ t ∈ segments s, t.isDotSegment = false) :
    parseNetwork scheme ('/' :: '/' :: (host ++ '/' :: s)) =
      (Host.parse host).map fun h => ⟨scheme, some h, '/' :: s⟩ := by
  have hbreaks : ∀ c ∈ ([] : List Char).head?, c = '?' ∨ c = '#' := nofun
  have happend := @parseNetwork_append host ('/' :: s) [] none scheme hhost nofun hs.isPathText
    hbreaks
  rw [portText, Option.elim_none, List.append_nil, List.append_nil, List.drop_succ_cons,
    List.drop_zero, hs.renderPath_resolve hdots] at happend
  exact happend

/-- Behind the host, the path of a URL is resolved without its slash. -/
theorem IsPathOfUrl.pathAfterHost_slash (file : Bool) :
    pathAfterHost file ('/' :: s) = resolve file s := by
  have hbreaks : ∀ c ∈ '/' :: s, isBreak c = false := fun c hc =>
    isBreak_of_isInvisible (hs.isInvisible c hc)
  have hquery : beforeQuery s = s := beforeQuery_eq_self fun c hc => hs.ne_query hc
  rw [pathAfterHost, withoutBreaks_of_forall hbreaks, behind_eq_drop hbreaks, List.head?_cons,
    Option.any_some, if_pos (by decide), List.drop_succ_cons, List.drop_zero, hquery]

/-- What is read of a host and a path behind the scheme of files. -/
theorem parseFile_written {host : List Char}
    (hhost : ∀ c ∈ host, isInvisible c = false ∧ endsAuthority .file c = false)
    (hdrive : Segment.isDriveLetter host = false) :
    parseFile ('/' :: '/' :: (host ++ '/' :: s)) =
      if host.isEmpty then .ok (ofFile none (resolve true ('/' :: s)))
      else (Host.parse host).map fun h =>
        if h = .domain "localhost".toList then ofFile none (resolve true ('/' :: s))
        else ofFile (some h) (resolve true s) := by
  -- The host ends where the path begins, and nothing in the path ends it early.
  have hbreaks : ∀ c ∈ '/' :: '/' :: (host ++ '/' :: s), isBreak c = false := by
    rw [List.forall_mem_cons, List.forall_mem_cons, List.forall_mem_append]
    exact ⟨by decide, by decide, fun c hc => isBreak_of_isInvisible (hhost c hc).1,
      fun c hc => isBreak_of_isInvisible (hs.isInvisible c hc)⟩
  have htake : (host ++ '/' :: s).takeWhile (!endsAuthority .file ·) = host :=
    (List.span_append (fun c hc => by simp [(hhost c hc).2]) (by rintro c ⟨⟩; rfl)).1
  have hrest : ('/' :: '/' :: (host ++ '/' :: s)).drop (2 + host.length) = '/' :: s := by
    rw [Nat.add_comm]
    exact List.drop_left
  have hquery : beforeQuery ('/' :: s) = '/' :: s :=
    beforeQuery_eq_self hs.isPathText.endsBeforeQuery
  rw [parseFile, withoutBreaks_of_forall hbreaks]
  simp only [htake, behind_eq_drop hbreaks, hrest, hquery, hdrive, hs.pathAfterHost_slash]
  rw [if_pos (by decide)]
  split
  · rfl
  · cases Host.parse host with
    | error e => rfl
    | ok h =>
      simp only [Bool.false_eq_true, if_false, Except.map]
      split <;> rfl

/-- Where no host is written, the first segment of the path is taken for one, and the path that is
    read is shorter. -/
theorem parseNetwork_path {scheme : List Char} {u : Url}
    (hdots : ∀ t ∈ segments s, t.isDotSegment = false)
    (h : parseNetwork scheme ('/' :: '/' :: '/' :: s) = .ok u) :
    ∃ r, u.path = '/' :: r ∧ r.length < s.length := by
  obtain ⟨user, hostText, port, rest, host, hsplit, hne, -, rfl⟩ := parseNetwork_eq_ok h
  obtain ⟨authority, hauthority, htext, hends⟩ := splitAuthority_spec hsplit hne
  have hslashes : ('/' :: '/' :: '/' :: s).dropWhile isSlash = s.dropWhile isSlash := rfl
  -- What is left of the path comes behind the authority, which is not empty.
  have hs' : s = s.takeWhile isSlash ++ authority ++ rest := by
    rw [List.append_assoc, ← htext, hslashes, List.takeWhile_append_dropWhile]
  have hlength := congrArg List.length hs'
  have hpos := List.length_pos_iff.2 hauthority
  simp only [List.length_append] at hlength
  simp only
  cases rest with
  | nil =>
    -- Nothing is left behind the authority: the path is the root.
    exact ⟨[], rfl, by rw [List.length_nil] at hlength ⊢; omega⟩
  | cons c r =>
    -- The rest begins with a slash, as no query can follow.
    have hmem : ∀ d ∈ c :: r, d ∈ s := fun d hd => by
      rw [hs']
      exact List.mem_append_right _ hd
    have hc : c = '/' := by
      have hend := hends c rfl
      have hquery := hs.ne_query (hmem c List.mem_cons_self)
      have hback := (hs c (hmem c List.mem_cons_self)).2
      simpa [endsAuthority, hquery, hback] using hend
    subst hc
    have hr : IsPathOfUrl r := fun d hd => hs d (hmem d (List.mem_cons_of_mem _ hd))
    have hdots' : ∀ t ∈ segments r, t.isDotSegment = false := by
      intro t ht
      refine hdots t ?_
      rw [hs', segments_append]
      exact List.mem_append_right _ ht
    refine ⟨r, by rw [hr.pathAfterHost_slash, hr.renderPath_resolve hdots'], ?_⟩
    rw [List.length_cons] at hlength
    omega

end Path

end HttpState.Url
