import HttpState.Proofs.List
import HttpState.Proofs.Text.LetterCase
import HttpState.Proofs.Text.Trim
import HttpState.Proofs.Url.Path
import HttpState.Url.Basic

/-!
# Reading a URL part by part

What is read of the URL of a network scheme that is put together from its parts: a scheme in any
letter case, a host, a port, a path, and whatever comes behind the path.

## Key definitions

- `IsHostText`, `IsPathText`: texts that can stand in the place of a host and of a path
- `StandsForHost`: what is needed of a text in the place of a host, be it in brackets or not
- `FollowsPath`: text that can stand behind a path

## Key results

- `parse_network`: what is read
-/

namespace HttpState.Url

open HttpState.Text

/-- A control character. -/
def isControl (c : Char) : Bool := c.toNat < 0x20 || (0x7F ≤ c.toNat && c.toNat ≤ 0x9F)

/-- Whether a character is dropped at the end of a URL, or is like those that are. -/
def isInvisible (c : Char) : Bool := isBlank c || isControl c

/-- Whether a character may stand anywhere in a host: it ends neither the host nor what stands
    before it, opens no bracket and is visible. -/
def isHostChar (c : Char) : Bool :=
  !(isInvisible c || ['/', '\\', '?', '#', '@', ':', '['].contains c)

/-- A text that can stand for a host. -/
structure IsHostText (host : List Char) : Prop where
  ne_nil : host ≠ []
  isHostChar : ∀ c ∈ host, isHostChar c = true

/-- A text that is taken for a host as a whole where it stands in the place of one: it is visible,
    ends neither the authority nor a user in front of it, and the port begins behind it. -/
structure StandsForHost (host : List Char) : Prop where
  ne_nil : host ≠ []
  isInvisible : ∀ c ∈ host, isInvisible c = false
  endsAuthority : ∀ c ∈ host, endsAuthority .network c = false ∧ c ≠ '@'
  splitPort : ∀ port, (∀ c ∈ port.head?, c = ':') → splitPort false (host ++ port) = (host, port)

/-- A text that can stand for a path: it is empty or begins with a slash, and ends before the
    query. -/
structure IsPathText (path : List Char) : Prop where
  head? : ∀ c ∈ path.head?, c = '/'
  getLast? : ∀ c ∈ path.getLast?, isInvisible c = false
  endsBeforeQuery : ∀ c ∈ path, c ≠ '?' ∧ c ≠ '#'

instance (host : List Char) : Decidable (IsHostText host) :=
  decidable_of_iff (host ≠ [] ∧ host.all isHostChar = true)
    ⟨fun h => ⟨h.1, List.all_eq_true.1 h.2⟩, fun h => ⟨h.1, List.all_eq_true.2 h.2⟩⟩

instance (path : List Char) : Decidable (IsPathText path) :=
  decidable_of_iff (path.head?.all (· == '/') = true ∧ path.getLast?.all (!isInvisible ·) = true ∧
      path.all (fun c => c != '?' && c != '#') = true)
    ⟨fun h => ⟨by simpa [Option.all_eq_true] using h.1, by simpa [Option.all_eq_true] using h.2.1,
        by simpa using h.2.2⟩,
      fun h => ⟨by simpa [Option.all_eq_true] using h.1, by simpa [Option.all_eq_true] using h.2,
        by simpa using h.3⟩⟩

/-- A text that can stand behind a path: it is empty or begins with a query or a fragment. -/
def FollowsPath (s : List Char) : Prop := ∀ c ∈ s.head?, c = '?' ∨ c = '#'

/-- A port as it stands behind a host. -/
def portText (port : Option (List Char)) : List Char := port.elim [] (':' :: ·)

/-- A URL as it is written up to its path. -/
def textToPort (scheme host : List Char) (port : Option (List Char)) : List Char :=
  scheme ++ ':' :: '/' :: '/' :: (host ++ portText port)

/-! ## Characters -/

/-- What is trimmed off a URL is invisible. -/
theorem isPadding_of_isInvisible {c : Char} (h : isInvisible c = false) : isPadding c = false := by
  simp only [isInvisible, isControl, Bool.or_eq_false_iff, decide_eq_false_iff_not] at h
  rw [isPadding, decide_eq_false_iff_not]
  intro hle
  have hspace : c.toNat = 0x20 := by omega
  have hc : c = ' ' := Char.toNat_inj.1 hspace
  rw [hc] at h
  exact absurd h.1 (by decide)

/-- Tabs and line breaks are invisible. -/
theorem isBreak_of_isInvisible {c : Char} (h : isInvisible c = false) : isBreak c = false := by
  rw [← Bool.not_eq_true]
  intro hbreak
  simp only [isBreak, Bool.or_eq_true, beq_iff_eq] at hbreak
  rcases hbreak with (rfl | rfl) | rfl <;> exact absurd h (by decide)

/-- Letters and digits are visible. -/
theorem isInvisible_of_isAlphanum {c : Char} (h : c.isAlphanum = true) :
    isInvisible c = false := by
  rw [isAlphanum_iff, isAlpha_iff, isUpper_iff, isLower_iff, isDigit_iff] at h
  simp only [isInvisible, isControl, isBlank, Bool.or_eq_false_iff, Bool.and_eq_false_iff,
    decide_eq_false_iff_not, beq_eq_false_iff_ne]
  omega

/-- The characters of a host, as a conjunction. -/
theorem isHostChar_iff {c : Char} :
    isHostChar c = true ↔ isInvisible c = false ∧ c ≠ '/' ∧ c ≠ '\\' ∧ c ≠ '?' ∧ c ≠ '#' ∧ c ≠ '@' ∧
      c ≠ ':' ∧ c ≠ '[' := by
  simp [isHostChar]

/-- Letters and digits may stand in a host. -/
theorem isHostChar_of_isAlphanum {c : Char} (h : c.isAlphanum = true) : isHostChar c = true := by
  refine isHostChar_iff.2 ⟨isInvisible_of_isAlphanum h, ?_⟩
  refine ⟨?_, ?_, ?_, ?_, ?_, ?_, ?_⟩ <;> rintro rfl <;> exact absurd h (by decide)

/-- The case of a letter does not change whether it may stand in a host. -/
theorem isHostChar_toLower (c : Char) : isHostChar c.toLower = isHostChar c := by
  by_cases hc : c.isUpper = true
  · have hlower : c.toLower.isLower = true := by
      have hbounds := isUpper_iff.1 hc
      rw [isLower_iff, toNat_toLower, if_pos hbounds]
      omega
    rw [isHostChar_of_isAlphanum (isAlphanum_iff.2 (.inl (isAlpha_iff.2 (.inr hlower)))),
      isHostChar_of_isAlphanum (isAlphanum_iff.2 (.inl (isAlpha_iff.2 (.inl hc))))]
  · rw [Unicode.toLower_of_not_isUpper (by simpa using hc)]

namespace IsHostText

variable {host : List Char}

/-- Text that can stand for a host can do so in any letter case. -/
theorem congr {s : List Char} (h : IsHostText host)
    (hcase : s.map Char.toLower = host.map Char.toLower) : IsHostText s where
  ne_nil := by
    rintro rfl
    exact h.ne_nil (List.map_eq_nil_iff.1 hcase.symm)
  isHostChar c hc := by
    have hmem : c.toLower ∈ host.map Char.toLower := hcase ▸ List.mem_map_of_mem hc
    obtain ⟨d, hd, hlower⟩ := List.mem_map.1 hmem
    rw [← isHostChar_toLower, ← hlower, isHostChar_toLower, h.isHostChar d hd]

/-- Text of a host stays one with a full stop behind it. -/
theorem append_fullStop (h : IsHostText host) : IsHostText (host ++ ['.']) where
  ne_nil := by simp
  isHostChar := List.forall_mem_append.2 ⟨h.isHostChar, List.forall_mem_singleton.2 (by decide)⟩

/-- Text of a host does not begin with a bracket. -/
theorem head?_ne (h : IsHostText host) : host.head? ≠ some '[' := by
  intro hhead
  exact absurd (h.isHostChar '[' (List.mem_of_head? hhead)) (by decide)

end IsHostText

/-! ## What is dropped -/

/-- Breaks are left out of both parts of a text. -/
theorem withoutBreaks_append (s t : List Char) :
    withoutBreaks (s ++ t) = withoutBreaks s ++ withoutBreaks t :=
  List.filter_append s t

/-- A first character that is no break stays the first one. -/
theorem head?_withoutBreaks {s : List Char} (h : ∀ c ∈ s.head?, isBreak c = false) :
    (withoutBreaks s).head? = s.head? := by
  cases s with
  | nil => rfl
  | cons c s => simp [withoutBreaks, h c rfl]

namespace FollowsPath

variable {s : List Char}

/-- What comes first of a query or fragment follows a path as well. -/
theorem of_isPrefix {t : List Char} (hs : FollowsPath s) (h : t <+: s) : FollowsPath t := by
  cases t with
  | nil => exact fun c hc => nomatch hc
  | cons d t =>
    obtain ⟨r, rfl⟩ := h
    exact hs

/-- A query or fragment does not begin with a break. -/
theorem isBreak_head? (hs : FollowsPath s) : ∀ c ∈ s.head?, isBreak c = false := by
  intro c hc
  rcases hs c hc with rfl | rfl <;> decide

/-- A query or fragment follows the path without its breaks, too. -/
theorem withoutBreaks (hs : FollowsPath s) : FollowsPath (withoutBreaks s) := by
  rw [FollowsPath, head?_withoutBreaks hs.isBreak_head?]
  exact hs

end FollowsPath

/-- The text of a path stays one without its breaks. -/
theorem IsPathText.withoutBreaks {path : List Char} (h : IsPathText path) :
    IsPathText (withoutBreaks path) where
  head? c hc := by
    have hbreak : ∀ c ∈ path.head?, isBreak c = false := by
      intro c hc
      rw [h.head? c hc]
      decide
    rw [head?_withoutBreaks hbreak] at hc
    exact h.head? c hc
  getLast? c hc := by
    have hbreak : ∀ c ∈ path.reverse.head?, isBreak c = false := by
      intro c hc
      rw [List.head?_reverse] at hc
      exact isBreak_of_isInvisible (h.getLast? c hc)
    have hlast := head?_withoutBreaks hbreak
    rw [Url.withoutBreaks, List.filter_reverse, List.head?_reverse, List.head?_reverse] at hlast
    rw [Url.withoutBreaks, hlast] at hc
    exact h.getLast? c hc
  endsBeforeQuery c hc := h.endsBeforeQuery c (List.mem_of_mem_filter hc)

/-! ## The path -/

/-- A path ends where its query or fragment begins. -/
theorem beforeQuery_append {path tail : List Char} (hpath : ∀ c ∈ path, c ≠ '?' ∧ c ≠ '#')
    (htail : FollowsPath tail) : beforeQuery (path ++ tail) = path := by
  refine (List.span_append ?_ ?_).1
  · intro c hc
    simp [hpath c hc]
  · intro c hc
    rcases htail c hc with rfl | rfl <;> decide

/-- The path ends where the query or the fragment begins. -/
theorem pathAfterHost_append {path tail : List Char} (hpath : IsPathText path)
    (htail : FollowsPath tail) :
    pathAfterHost false (path ++ tail) = resolve false (path.drop 1) := by
  cases path with
  | nil =>
    -- No path: nothing is resolved.
    have hhead : (withoutBreaks tail).head?.any isSlash = false := by
      rw [head?_withoutBreaks htail.isBreak_head?]
      cases tail with
      | nil => rfl
      | cons c tail => rcases htail c rfl with rfl | rfl <;> rfl
    have hbefore : beforeQuery tail = [] := @beforeQuery_append [] tail (by simp) htail
    simp [pathAfterHost, hhead, hbefore]
  | cons c path =>
    -- A path, which begins with a slash.
    cases hpath.head? c rfl
    have hrest : ∀ c ∈ path, c ≠ '?' ∧ c ≠ '#' := fun c hc =>
      hpath.endsBeforeQuery c (List.mem_cons_of_mem _ hc)
    have hhead : (withoutBreaks ('/' :: (path ++ tail))).head?.any isSlash = true := rfl
    have hbehind : behind 1 ('/' :: (path ++ tail)) = path ++ tail := by
      simp [behind, show isBreak '/' = false by decide]
    rw [List.cons_append, pathAfterHost, if_pos hhead, hbehind, beforeQuery_append hrest htail]
    rfl

/-! ## Host and port -/

/-- The port is split off at the first colon behind a host without brackets. -/
theorem splitPort_append {host port : List Char} (hhost : ∀ c ∈ host, c ≠ ':' ∧ c ≠ '[')
    (hport : ∀ c ∈ port.head?, c = ':') : splitPort false (host ++ port) = (host, port) := by
  induction host with
  | nil =>
    cases port with
    | nil => rfl
    | cons c port =>
      cases hport c rfl
      rfl
  | cons c host ih =>
    obtain ⟨hcolon, hbracket⟩ := hhost c (by simp)
    have hbracket' : (c == '[') = false := by simpa using hbracket
    simp [splitPort, hcolon, hbracket', ih fun d hd => hhost d (by simp [hd])]

/-- No user is split off a text without `@`. -/
theorem splitUser_eq_none {s : List Char} (h : '@' ∉ s) : splitUser s = none := by
  simp [splitUser, h]

/-- A host of plain characters stands for itself. -/
theorem IsHostText.standsForHost {host : List Char} (h : IsHostText host) : StandsForHost host where
  ne_nil := h.ne_nil
  isInvisible c hc := (isHostChar_iff.1 (h.isHostChar c hc)).1
  endsAuthority c hc := by
    obtain ⟨-, hc⟩ := isHostChar_iff.1 (h.isHostChar c hc)
    simp [Url.endsAuthority, hc]
  splitPort port hport := by
    refine splitPort_append (fun c hc => ?_) hport
    obtain ⟨-, -, -, -, -, -, hc⟩ := isHostChar_iff.1 (h.isHostChar c hc)
    exact hc

/-- Between brackets, colons belong to the host. -/
theorem splitPort_brackets {s port : List Char} (hs : ']' ∉ s)
    (hport : ∀ c ∈ port.head?, c = ':') :
    splitPort false ('[' :: s ++ ']' :: port) = ('[' :: s ++ [']'], port) := by
  -- Inside the brackets a colon does not split anything off.
  have hinside : ∀ t : List Char, ']' ∉ t →
      splitPort true (t ++ ']' :: port) = (t ++ [']'], port) := by
    intro t ht
    induction t with
    | nil =>
      have hbehind : splitPort false port = ([], port) := by
        cases port with
        | nil => rfl
        | cons c port =>
          cases hport c rfl
          rfl
      simp [splitPort, hbehind]
    | cons c t ih =>
      rw [List.mem_cons, not_or] at ht
      have hc : (c == '[' || (true && c != ']')) = true := by simp [Ne.symm ht.1]
      rw [List.cons_append, splitPort, if_neg (by simp), hc, ih ht.2]
      rfl
  rw [List.cons_append, splitPort, if_neg (by simp)]
  simp [hinside s hs]

/-- The authority of a URL without a user. -/
theorem splitAuthority_append {host port rest : List Char} (hhost : StandsForHost host)
    (hport : ∀ c ∈ port, endsAuthority .network c = false ∧ c ≠ '@')
    (hcolon : ∀ c ∈ port.head?, c = ':')
    (hrest : ∀ c ∈ rest.head?, endsAuthority .network c = true) :
    splitAuthority .network (host ++ port ++ rest) = (none, host, port, rest) := by
  -- Up to the rest nothing ends the authority, and there is no user.
  have hfree : ∀ c ∈ host ++ port, (!endsAuthority .network c) = true ∧ c ≠ '@' := by
    intro c hc
    rcases List.mem_append.1 hc with hc | hc
    · simp [hhost.endsAuthority c hc]
    · simp [hport c hc]
  obtain ⟨htake, hdrop⟩ := List.span_append (p := (!endsAuthority .network ·)) (m := rest)
    (fun c hc => (hfree c hc).1) (fun c hc => by simp [hrest c hc])
  have huser : '@' ∉ host ++ port := fun hmem => (hfree '@' hmem).2 rfl
  simp only [splitAuthority]
  rw [htake, hdrop, splitUser_eq_none huser, hhost.splitPort port hcolon]

/-- Ports are numbers below 65536, in decimal. -/
theorem checkPort_eq_ok_iff {digits : List Char} :
    checkPort digits = .ok () ↔ digits.all Char.isDigit = true ∧ decimal digits ≤ 65535 := by
  rw [checkPort]
  split <;> simp_all

/-- The text of a port passes the check, and is a colon and digits if it is not empty. -/
theorem portText_spec {port : Option (List Char)} (h : ∀ digits ∈ port, checkPort digits = .ok ()) :
    checkPort ((portText port).drop 1) = .ok () ∧
      (∀ c ∈ (portText port).head?, c = ':') ∧
        ∀ c ∈ portText port, c = ':' ∨ c.isDigit = true := by
  cases port with
  | none => exact ⟨rfl, by simp [portText], by simp [portText]⟩
  | some digits =>
    obtain ⟨hdigits, -⟩ := checkPort_eq_ok_iff.1 (h digits rfl)
    refine ⟨h digits rfl, fun c hc => (Option.some.inj hc).symm, fun c hc => ?_⟩
    exact (List.mem_cons.1 hc).imp_right (List.all_eq_true.1 hdigits c)

/-- What is read of the rest of a URL of a network scheme. -/
theorem parseNetwork_append {host path tail : List Char} {port : Option (List Char)}
    (scheme : List Char) (hhost : StandsForHost host)
    (hport : ∀ digits ∈ port, checkPort digits = .ok ()) (hpath : IsPathText path)
    (htail : FollowsPath tail) :
    parseNetwork scheme ('/' :: '/' :: (host ++ portText port ++ (path ++ tail))) =
      (Host.parse host).map fun h =>
        ⟨scheme, some h, renderPath (resolve false (path.drop 1)).segments⟩ := by
  obtain ⟨hcheck, hcolon, hchars⟩ := portText_spec hport
  have hfree : ∀ c ∈ portText port, endsAuthority .network c = false ∧ c ≠ '@' := by
    intro c hc
    rcases hchars c hc with rfl | hdigit
    · decide
    · constructor
      · rw [← Bool.not_eq_true]
        intro hends
        simp only [endsAuthority, Bool.or_eq_true, Bool.and_eq_true, beq_iff_eq] at hends
        rcases hends with ((rfl | rfl) | rfl) | ⟨-, rfl⟩ <;> exact absurd hdigit (by decide)
      · rintro rfl
        exact absurd hdigit (by decide)
  have hrest : ∀ c ∈ (path ++ tail).head?, endsAuthority .network c = true := by
    cases path with
    | nil =>
      intro c hc
      rcases htail c hc with rfl | rfl <;> rfl
    | cons d path =>
      intro c hc
      cases hc
      rw [hpath.head? d rfl]
      rfl
  have hslashes : ('/' :: '/' :: (host ++ portText port ++ (path ++ tail))).dropWhile isSlash =
      host ++ portText port ++ (path ++ tail) := by
    obtain ⟨c, r, rfl⟩ := List.exists_cons_of_ne_nil hhost.ne_nil
    have hc := (hhost.endsAuthority c List.mem_cons_self).1
    simp only [Url.endsAuthority, Bool.or_eq_false_iff] at hc
    have hslash : isSlash c = false := by simpa [isSlash] using And.intro hc.1.1.1 hc.2
    rw [List.dropWhile_cons_of_pos (by decide), List.dropWhile_cons_of_pos (by decide)]
    exact List.dropWhile_cons_of_neg (by simp [hslash])
  have hempty : host.isEmpty = false := by simpa using hhost.ne_nil
  simp only [parseNetwork]
  rw [hslashes, splitAuthority_append hhost hfree hcolon hrest]
  simp only [hempty, hcheck, pathAfterHost_append hpath htail, Bool.false_eq_true, if_false]
  -- The host is read or refused, and the URL with it.
  cases Host.parse host <;> rfl

/-! ## The whole URL -/

/-- A scheme of letters is split off at the colon, in lower case. -/
theorem splitScheme_append {scheme : List Char} (hne : scheme ≠ [])
    (h : ∀ c ∈ scheme, c.isAlpha = true) (rest : List Char) :
    splitScheme (scheme ++ ':' :: rest) = some (scheme.map Char.toLower, rest) := by
  have hchars : ∀ c ∈ scheme, isSchemeChar c = true := by
    intro c hc
    simp [isSchemeChar, isAlphanum_iff.2 (.inl (h c hc))]
  obtain ⟨htake, hdrop⟩ := List.span_append (m := ':' :: rest) hchars (by
    intro c hc
    cases hc
    decide)
  have hhead : (scheme ++ ':' :: rest).head?.any Char.isAlpha = true := by
    obtain ⟨c, r, rfl⟩ := List.exists_cons_of_ne_nil hne
    exact h c (by simp)
  rw [splitScheme, hdrop, htake]
  simp only [hhead, if_true]

/-- A network scheme is made of letters. -/
theorem isAlpha_of_network {scheme : List Char}
    (h : SchemeKind.of (scheme.map Char.toLower) = .network) :
    scheme ≠ [] ∧ ∀ c ∈ scheme, c.isAlpha = true := by
  -- The network schemes are made of lower-case letters.
  have hlower : (scheme.map Char.toLower).all Char.isLower = true := by
    unfold SchemeKind.of at h
    split at h
    · exact nomatch h
    · split at h
      · rename_i heq
        rcases heq with heq | heq | heq | heq | heq <;> rw [heq] <;> decide
      · exact nomatch h
  constructor
  · rintro rfl
    exact absurd h (by decide)
  · intro c hc
    have hc' := List.all_eq_true.1 hlower c.toLower (List.mem_map_of_mem hc)
    by_cases hupper : c.isUpper = true
    · exact isAlpha_iff.2 (.inl hupper)
    · rw [Unicode.toLower_of_not_isUpper (by simpa using hupper)] at hc'
      exact isAlpha_iff.2 (.inr hc')

section Whole

variable {scheme host path : List Char} {port : Option (List Char)}
  (hscheme : SchemeKind.of (scheme.map Char.toLower) = .network) (hhost : StandsForHost host)
  (hport : ∀ digits ∈ port, checkPort digits = .ok ()) (hpath : IsPathText path)

include hscheme hhost hport

/-- Up to the path, everything in a URL is visible. -/
theorem isInvisible_of_mem_textToPort {c : Char} (hc : c ∈ textToPort scheme host port) :
    isInvisible c = false := by
  rw [textToPort, List.mem_append, List.mem_cons, List.mem_cons, List.mem_cons,
    List.mem_append] at hc
  rcases hc with hc | rfl | rfl | rfl | hc | hc
  · -- The scheme has letters.
    exact isInvisible_of_isAlphanum (isAlphanum_iff.2 (.inl ((isAlpha_of_network hscheme).2 c hc)))
  · decide
  · decide
  · decide
  · -- The host has visible characters.
    exact hhost.isInvisible c hc
  · -- The port is a colon and digits, or missing.
    rcases (portText_spec hport).2.2 c hc with rfl | hdigit
    · decide
    · exact isInvisible_of_isAlphanum (isAlphanum_iff.2 (.inr hdigit))

include hpath

/-- A URL up to the end of its path begins and ends with visible characters. -/
theorem isInvisible_ends :
    textToPort scheme host port ++ path ≠ [] ∧
      (∀ c ∈ (textToPort scheme host port ++ path).head?, isInvisible c = false) ∧
        ∀ c ∈ (textToPort scheme host port ++ path).getLast?, isInvisible c = false := by
  have hvisible {c : Char} (hc : c ∈ textToPort scheme host port) :=
    isInvisible_of_mem_textToPort hscheme hhost hport hc
  obtain ⟨d, r, hd⟩ : ∃ d r, textToPort scheme host port = d :: r :=
    List.exists_cons_of_ne_nil (by simp [textToPort])
  refine ⟨by simp [hd], fun c hc => ?_, fun c hc => ?_⟩
  · -- It begins with its scheme.
    rw [hd] at hc
    cases hc
    exact hvisible (by simp [hd])
  · -- It ends with its path, or with its port or host if there is none.
    rw [List.getLast?_append] at hc
    cases hlast : path.getLast? with
    | some d =>
      rw [hlast] at hc
      cases hc
      exact hpath.getLast? c hlast
    | none =>
      rw [hlast] at hc
      exact hvisible (List.mem_of_getLast? hc)

/-- What is read of a URL of a network scheme. -/
theorem parse_network {tail : List Char} (htail : FollowsPath tail) :
    parse (textToPort scheme host port ++ path ++ tail) =
      (Host.parse host).map fun h => ⟨scheme.map Char.toLower, some h,
        renderPath (resolve false ((withoutBreaks path).drop 1)).segments⟩ := by
  obtain ⟨hne, hhead, hlast⟩ := isInvisible_ends hscheme hhost hport hpath
  obtain ⟨hschemeNe, halpha⟩ := isAlpha_of_network hscheme
  -- Nothing is dropped of the text up to the end of the path but tabs and line breaks in the path.
  have htrim : trimWhile isPadding (textToPort scheme host port ++ path ++ tail) =
      textToPort scheme host port ++ path ++ dropEndWhile isPadding tail :=
    @trimWhile_append _ [] _ (by simp) hne
      (fun c hc => isPadding_of_isInvisible (hhead c hc))
      (fun c hc => isPadding_of_isInvisible (hlast c hc)) tail
  have hbreaks : withoutBreaks (textToPort scheme host port) = textToPort scheme host port :=
    withoutBreaks_of_forall fun c hc =>
      isBreak_of_isInvisible (isInvisible_of_mem_textToPort hscheme hhost hport hc)
  have hrest := (htail.of_isPrefix (List.rdropWhile_prefix isPadding tail)).withoutBreaks
  have htext : ∀ rest, textToPort scheme host port ++ rest =
      scheme ++ ':' :: ('/' :: '/' :: (host ++ portText port ++ rest)) := by
    simp [textToPort]
  simp only [parse]
  rw [htrim, withoutBreaks_append, withoutBreaks_append, hbreaks, List.append_assoc, htext,
    splitScheme_append hschemeNe halpha]
  simp only [hscheme]
  exact parseNetwork_append _ hhost hport hpath.withoutBreaks hrest

end Whole

end HttpState.Url
