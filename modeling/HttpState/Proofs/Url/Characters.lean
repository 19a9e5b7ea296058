import HttpState.Proofs.List
import HttpState.Proofs.Url.IpAddress
import HttpState.Proofs.Url.Punycode
import HttpState.Proofs.Url.ResolvedPath
import HttpState.Url.Basic

/-!
# Characters of a URL that has been read

What the text of a URL was like shows in neither its host nor its path: the path holds only what has
no need of an escape, so neither `?` nor `#`, and the host only what may stand in a domain name, and
the brackets and colons of an IPv6 address.

## Key definitions

- `Host.IsRead`: what a host that has been read is like
- `HasReadParts`: a URL whose host and path have been read from a text

## Key results

- `DomainName.isForbidden_of_mem_toAscii?`: domain names in ASCII hold no forbidden characters
- `Host.isRead_of_parse`: hosts that have been read
- `Host.isWritten_of_isRead`: the characters of a host
- `parseNetwork_eq_ok`, `parseFile_eq_ok`, `hasReadParts_of_parse`: where host and path of a URL
  come from
-/

namespace HttpState.Url

open HttpState.Text

/-! ## Hosts -/

namespace DomainName

open Punycode (isDigitChar)

/-- Digits in base 36 may stand in a domain name. -/
theorem isForbidden_of_isDigitChar {c : Char} (h : isDigitChar c = true) :
    isForbidden c = false := by
  have hnot : ∀ d : Char, isDigitChar d = false → c ≠ d := fun d hd =>
    ne_of_apply_ne isDigitChar (by simp [h, hd])
  simp only [isDigitChar, Bool.or_eq_true, isLower_iff, isDigit_iff] at h
  simp only [isForbidden, Bool.or_eq_false_iff, List.contains_eq_mem, decide_eq_false_iff_not,
    List.mem_cons, List.not_mem_nil, or_false, not_or, beq_eq_false_iff_ne]
  refine ⟨⟨by omega, by omega⟩, ?_⟩
  repeat' apply And.intro
  all_goals exact hnot _ (by decide)

/-- The mark of encoded labels has no forbidden character. -/
theorem isForbidden_of_mem_encodedMark {c : Char} (h : c ∈ encodedMark) :
    isForbidden c = false := by
  have hall : encodedMark.all (!isForbidden ·) = true := by decide
  simpa using List.all_eq_true.1 hall c h

/-- A label in ASCII is made of what may stand in a domain name if the label that it stands for
    is. -/
theorem isForbidden_of_mem_asciiLabel {label unicode : List Char}
    (hunicode : unicodeLabel? label = some unicode) (hvalid : unicode.any isForbidden = false)
    {c : Char} (hc : c ∈ asciiLabel label) : isForbidden c = false := by
  have hkept : ∀ d ∈ unicode, isForbidden d = false := by simpa using hvalid
  have hcoded : ∀ d : Char, d ∈ unicode ∨ d = '-' ∨ isDigitChar d = true →
      isForbidden d = false := by
    intro d hd
    rcases hd with hd | rfl | hd
    · exact hkept d hd
    · rfl
    · exact isForbidden_of_isDigitChar hd
  unfold unicodeLabel? at hunicode
  split at hunicode
  · -- An encoded label is ASCII and stays as it is: the mark and a text that can be decoded.
    rename_i hencoded
    rw [isEncoded, List.isPrefixOf_iff_prefix] at hencoded
    obtain ⟨text, rfl⟩ := hencoded
    simp only [decodeLabel?, List.drop_left] at hunicode
    split at hunicode
    · rename_i hascii
      rw [Bool.and_eq_true] at hascii
      rw [asciiLabel, if_pos hascii.1, List.mem_append] at hc
      split at hunicode
      · rename_i hdecode
        split at hunicode
        · obtain rfl := Option.some.inj hunicode
          cases hc with
          | inl hmark => exact isForbidden_of_mem_encodedMark hmark
          | inr htext => exact hcoded c (Punycode.mem_of_decode? hdecode htext)
        · cases hunicode
      · cases hunicode
    · cases hunicode
  · -- Any other label stands for itself, and is written as it is or encoded.
    obtain rfl := Option.some.inj hunicode
    unfold asciiLabel at hc
    split at hc
    · exact hkept c hc
    · cases List.mem_append.1 hc with
      | inl hmark => exact isForbidden_of_mem_encodedMark hmark
      | inr htext => exact hcoded c ((Punycode.mem_encode htext).imp_left And.left)

/-- The ASCII form of a domain name holds no forbidden characters. -/
theorem isForbidden_of_mem_toAscii? {name ascii : List Char} (h : toAscii? name = some ascii)
    {c : Char} (hc : c ∈ ascii) : isForbidden c = false := by
  simp only [toAscii?, Option.bind_eq_bind, Option.bind_eq_some_iff] at h
  obtain ⟨mapped, -, unicode, hunicode, h⟩ := h
  split at h
  · rename_i hvalid
    rw [Bool.and_eq_true, List.all_eq_true] at hvalid
    obtain rfl := Option.some.inj h
    cases List.mem_or_exists_of_mem_intercalate hc with
    | inl hdot =>
      -- A full stop between two labels.
      rw [List.mem_singleton.1 hdot]
      rfl
    | inr hlabel =>
      -- A character of one label, which was checked.
      obtain ⟨ascii, hascii, hc⟩ := hlabel
      obtain ⟨label, hlabel, rfl⟩ := List.mem_map.1 hascii
      obtain ⟨u, hu, hstands⟩ := List.exists_of_mapM_eq_some hunicode hlabel
      have huvalid := hvalid.1 u hu
      simp only [isValidLabel, Bool.and_eq_true, Bool.not_eq_true'] at huvalid
      exact isForbidden_of_mem_asciiLabel hstands huvalid.1.1.1 hc
  · exact nomatch h

end DomainName

open Punycode (isDigitChar)

/-- Numbers are written in bases up to 16 with digits and letters in lower case. -/
theorem isDigitChar_of_mem_toDigits {b n : Nat} (hb : 1 < b) (hle : b ≤ 16) {c : Char}
    (hc : c ∈ Nat.toDigits b n) : isDigitChar c = true := by
  have hdigit : ∀ d : Fin 16, isDigitChar d.val.digitChar = true := by decide
  induction n using Nat.strongRecOn with
  | ind n ih =>
    rw [Nat.toDigits_eq_if hb] at hc
    split at hc
    · rename_i hn
      rw [List.mem_singleton.1 hc]
      exact hdigit ⟨n, by omega⟩
    · rename_i hn
      cases List.mem_append.1 hc with
      | inl hfront => exact ih (n / b) (Nat.div_lt_self (by omega) hb) hfront
      | inr hlast =>
        have hmod : n % b < b := Nat.mod_lt n (by omega)
        rw [List.mem_singleton.1 hlast]
        exact hdigit ⟨n % b, by omega⟩

/-- An IPv4 address is written with digits and full stops. -/
theorem Ipv4.mem_render {n : Address} {c : Char} (hc : c ∈ render n) :
    c = '.' ∨ isDigitChar c = true := by
  cases List.mem_or_exists_of_mem_intercalate hc with
  | inl hdot => exact .inl (List.mem_singleton.1 hdot)
  | inr hpart =>
    obtain ⟨part, hpart, hc⟩ := hpart
    obtain ⟨m, -, rfl⟩ := List.mem_map.1 hpart
    exact .inr (isDigitChar_of_mem_toDigits (by omega) (by omega) hc)

/-- The pieces of an IPv6 address have colons and digits. -/
theorem Ipv6.mem_renderPieces {ps : List Nat} {c : Char} (hc : c ∈ renderPieces ps) :
    c = ':' ∨ isDigitChar c = true := by
  cases List.mem_or_exists_of_mem_intercalate hc with
  | inl hcolon => exact .inl (List.mem_singleton.1 hcolon)
  | inr hpiece =>
    obtain ⟨piece, hpiece, hc⟩ := hpiece
    obtain ⟨p, -, rfl⟩ := List.mem_map.1 hpiece
    exact .inr (isDigitChar_of_mem_toDigits (by omega) (by omega) hc)

/-- An IPv6 address is written with digits and colons. -/
theorem Ipv6.mem_render {ps : List Nat} {c : Char} (hc : c ∈ render ps) :
    c = ':' ∨ isDigitChar c = true := by
  simp only [render] at hc
  split at hc
  · simp only [List.mem_append, List.mem_cons] at hc
    rcases hc with hc | hc | hc | hc
    · exact mem_renderPieces hc
    · exact .inl hc
    · exact .inl hc
    · exact mem_renderPieces hc
  · exact mem_renderPieces hc

namespace Host

/-- What a host that has been read is like. -/
def IsRead : Host → Prop
  | .domain name =>
    (∃ s, DomainName.toAscii? s = some name) ∧ name ≠ [] ∧ Ipv4.isMeant name = false
  | .ipv4 n => n < 0x100000000
  | .ipv6 ps => Ipv6.IsAddress ps

/-- The host that a name is, if it is one. -/
theorem ofName_eq_ok {name : List Char} {h : Host} (hname : ofName name = .ok h) :
    name ≠ [] ∧ ((Ipv4.isMeant name = false ∧ h = .domain name) ∨
      ∃ n < 0x100000000, Ipv4.isMeant name = true ∧ h = .ipv4 n) := by
  unfold ofName at hname
  split at hname
  · cases hname
  · rename_i hempty
    refine ⟨by simpa using hempty, ?_⟩
    split at hname
    · -- The last label is a number, so the name has to be an IPv4 address.
      rename_i hmeant
      split at hname
      · rename_i n hn
        cases hname
        exact .inr ⟨n, Ipv4.lt_of_ofHost? hn, hmeant, rfl⟩
      · cases hname
    · -- Any other name is a domain.
      rename_i hmeant
      cases hname
      exact .inl ⟨by simpa using hmeant, rfl⟩

/-- Every host that was read is of one of the three kinds, in normal form. -/
theorem isRead_of_parse {s : List Char} {h : Host} (hparse : parse s = .ok h) : h.IsRead := by
  unfold parse at hparse
  split at hparse
  · -- In brackets: an IPv6 address.
    split at hparse
    · rename_i w hbracketed
      cases hparse
      unfold bracketed? at hbracketed
      split at hbracketed
      · obtain ⟨ps, hps, rfl⟩ := Option.map_eq_some_iff.1 hbracketed
        exact Ipv6.isAddress_of_ofHost? hps
      · cases hbracketed
    · cases hparse
  · -- Anything else: a name.
    split at hparse
    · rename_i name hname
      obtain ⟨text, -, htext⟩ := Option.bind_eq_some_iff.1 hname
      obtain ⟨hne, ⟨hmeant, rfl⟩ | ⟨n, hn, -, rfl⟩⟩ := ofName_eq_ok hparse
      · exact ⟨⟨text, htext⟩, hne, hmeant⟩
      · exact hn
    · cases hparse

/-- What a host may hold. -/
def isWritten (c : Char) : Bool :=
  !DomainName.isForbidden c || ['[', ']', ':'].contains c

/-- Digits may stand in a host. -/
theorem isWritten_of_isDigitChar {c : Char} (h : isDigitChar c = true) : isWritten c = true := by
  simp [isWritten, DomainName.isForbidden_of_isDigitChar h]

/-- An IPv4 address has full stops and digits. -/
theorem isWritten_of_mem_render_ipv4 {n : Ipv4.Address} {c : Char} (hc : c ∈ (ipv4 n).render) :
    isWritten c = true := by
  cases Ipv4.mem_render hc with
  | inl hdot => exact hdot ▸ rfl
  | inr hdigit => exact isWritten_of_isDigitChar hdigit

/-- An IPv6 address has brackets, colons and digits. -/
theorem isWritten_of_mem_render_ipv6 {ps : List Nat} {c : Char} (hc : c ∈ (ipv6 ps).render) :
    isWritten c = true := by
  simp only [render, List.cons_append, List.mem_cons, List.mem_append, List.not_mem_nil,
    or_false] at hc
  rcases hc with rfl | hc | rfl
  · rfl
  · cases Ipv6.mem_render hc with
    | inl hcolon => exact hcolon ▸ rfl
    | inr hdigit => exact isWritten_of_isDigitChar hdigit
  · rfl

/-- A host is written with characters of hosts. -/
theorem isWritten_of_isRead {h : Host} (hread : h.IsRead) {c : Char} (hc : c ∈ h.render) :
    isWritten c = true := by
  cases h with
  | domain name =>
    obtain ⟨⟨s, hs⟩, -, -⟩ := hread
    simp [isWritten, DomainName.isForbidden_of_mem_toAscii? hs hc]
  | ipv4 n => exact isWritten_of_mem_render_ipv4 hc
  | ipv6 ps => exact isWritten_of_mem_render_ipv6 hc

/-- The characters of a host that has been read. -/
theorem isWritten_of_mem_render {s : List Char} {h : Host} (hparse : parse s = .ok h) {c : Char}
    (hc : c ∈ h.render) : isWritten c = true :=
  isWritten_of_isRead (isRead_of_parse hparse) hc

end Host

/-! ## URLs -/

/-- The parts of a URL come from a text: a host has been read, and a path has been resolved. -/
structure HasReadParts (u : Url) : Prop where
  host : ∀ h, u.host = some h → ∃ s, Host.parse s = .ok h
  path : u.path = [] ∨ ∃ ss : List Segment, (∀ s ∈ ss, s.IsClean) ∧ u.path = renderPath ss

/-- The host of a network URL has been read, and its path resolved. -/
theorem parseNetwork_eq_ok {scheme s : List Char} {u : Url} (h : parseNetwork scheme s = .ok u) :
    ∃ user hostText port rest host,
      splitAuthority .network (s.dropWhile isSlash) = (user, hostText, port, rest) ∧
        hostText ≠ [] ∧ Host.parse hostText = .ok host ∧
          u = ⟨scheme, some host, renderPath (pathAfterHost false rest).segments⟩ := by
  simp only [parseNetwork] at h
  generalize splitAuthority .network (s.dropWhile isSlash) = parts at h ⊢
  obtain ⟨user, hostText, port, rest⟩ := parts
  cases hempty : hostText.isEmpty with
  | true =>
    -- No host: an error.
    rw [hempty] at h
    cases h
  | false =>
    simp only [hempty, Bool.false_eq_true, if_false] at h
    cases hparse : Host.parse hostText with
    | error e =>
      rw [hparse] at h
      cases h
    | ok host =>
      cases hport : checkPort (port.drop 1) with
      | error e =>
        rw [hparse, hport] at h
        cases h
      | ok v =>
        rw [hparse, hport] at h
        cases h
        exact ⟨user, hostText, port, rest, host, rfl, by simpa using hempty, hparse, rfl⟩

/-- The parts of a URL on the network are read ones. -/
theorem hasReadParts_of_parseNetwork {scheme s : List Char} {u : Url}
    (h : parseNetwork scheme s = .ok u) : HasReadParts u := by
  obtain ⟨-, hostText, -, rest, host, -, -, hparse, rfl⟩ := parseNetwork_eq_ok h
  exact ⟨fun w hw => ⟨hostText, Option.some.inj hw ▸ hparse⟩,
    .inr ⟨_, isClean_of_mem_resolve, rfl⟩⟩

/-- The host of the URL of a file has been read, if there is one, and is not the local one. The path
    has been resolved. -/
theorem parseFile_eq_ok {s : List Char} {u : Url} (h : parseFile s = .ok u) :
    ∃ host t, u = ofFile host (resolve true t) ∧
      ∀ v ∈ host, (∃ hostText, Host.parse hostText = .ok v) ∧ v ≠ .domain "localhost".toList := by
  have hnone : ∀ v ∈ (none : Option Host),
      (∃ hostText, Host.parse hostText = .ok v) ∧ v ≠ .domain "localhost".toList := nofun
  unfold parseFile at h
  split at h
  · split at h
    · -- Two slashes: a host may follow.
      dsimp only at h
      split at h
      · -- A drive letter stands where the host would.
        cases h
        exact ⟨none, _, rfl, hnone⟩
      · split at h
        · -- The host is empty.
          cases h
          exact ⟨none, _, rfl, hnone⟩
        · split at h
          · exact nomatch h
          · rename_i v hparse
            split at h
            · -- `localhost` is dropped.
              cases h
              exact ⟨none, _, rfl, hnone⟩
            · -- The host is kept.
              rename_i hlocal
              cases h
              refine ⟨some v, _, rfl, ?_⟩
              rintro w ⟨⟩
              exact ⟨⟨_, hparse⟩, hlocal⟩
    · cases h
      exact ⟨none, _, rfl, hnone⟩
  · cases h
    exact ⟨none, _, rfl, hnone⟩

/-- The parts of a `file` URL are read ones. -/
theorem hasReadParts_of_parseFile {s : List Char} {u : Url} (h : parseFile s = .ok u) :
    HasReadParts u := by
  obtain ⟨host, t, rfl, hhost⟩ := parseFile_eq_ok h
  refine ⟨fun w hw => ?_,
    .inr ⟨_, fun s hs => isClean_of_mem_resolve s (mem_of_mem_dropEmpty hs), rfl⟩⟩
  simp only [ofFile] at hw
  split at hw
  · cases hw
  · exact (hhost w hw).1

/-- Host and path of a URL come from its text. -/
theorem hasReadParts_of_parse {s : List Char} {u : Url} (h : parse s = .ok u) : HasReadParts u := by
  simp only [parse] at h
  split at h
  · exact nomatch h
  · split at h
    · exact hasReadParts_of_parseFile h
    · exact hasReadParts_of_parseNetwork h
    · -- Of any other scheme nothing is kept.
      rename_i scheme rest hsplit kind hkind
      cases hcheck : checkOther rest with
      | error e => simp [hcheck, Except.map] at h
      | ok v =>
        obtain rfl := Except.ok.inj (hcheck ▸ h)
        exact ⟨nofun, .inl rfl⟩

end HttpState.Url
