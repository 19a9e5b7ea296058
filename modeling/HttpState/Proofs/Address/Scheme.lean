import HttpState.Address
import HttpState.Proofs.Text.Trim
import HttpState.Proofs.Url.Parts
import Mathlib.Data.List.DropRight

/-!
# Texts without a scheme

A text without a scheme is taken for a URL of the scheme `http`. It counts as one with a scheme,
however, if it holds `://` anywhere, as in a query that names another URL. Such a text is read as it
stands, and is refused as it begins with no scheme, or with a word that is none.

## Key definitions

- `NamesScheme`: a text that begins with the name of a scheme and a mark behind it

## Key results

- `splitScheme_eq_none`: where no scheme is found
- `parse_http_spec`: what a text with the scheme `http` is not refused for
- `parse_without_scheme`: which texts without a scheme are taken for URLs of the scheme `http`
-/

namespace HttpState

open HttpState.Text

namespace Url

/-- A text begins with the name of a scheme and a mark behind it. -/
def NamesScheme (mark s : List Char) : Prop :=
  ∃ c name rest, s = c :: name ++ (mark ++ rest) ∧ c.isAlpha = true ∧
    ∀ d ∈ name, isSchemeChar d = true

/-! ## Schemes -/

/-- Letters may stand in a scheme. -/
theorem isSchemeChar_of_isAlpha {c : Char} (h : c.isAlpha = true) : isSchemeChar c = true := by
  simp [isSchemeChar, isAlphanum_iff.2 (.inl h)]

/-- A scheme is found where a text begins with its name and a colon. -/
theorem splitScheme_of_name {c : Char} {name : List Char} (hc : c.isAlpha = true)
    (hname : ∀ d ∈ name, isSchemeChar d = true) (rest : List Char) :
    splitScheme (c :: name ++ ':' :: rest) = some ((c :: name).map Char.toLower, rest) := by
  have hchars : ∀ d ∈ c :: name, isSchemeChar d = true :=
    List.forall_mem_cons.2 ⟨isSchemeChar_of_isAlpha hc, hname⟩
  obtain ⟨htake, hdrop⟩ := List.span_append (m := ':' :: rest) hchars (by
    intro d hd
    cases hd
    decide)
  rw [splitScheme, hdrop, htake]
  simp [hc]

/-- No scheme is found where a text does not begin with the name of one and a colon. -/
theorem splitScheme_eq_none {s : List Char} (h : ¬ NamesScheme [':'] s) : splitScheme s = none := by
  unfold splitScheme
  split
  · rename_i rest hrest
    split
    · rename_i halpha
      -- The text up to the colon is not empty, as it has the letter that the text begins with.
      refine absurd ?_ h
      have hsplit := List.takeWhile_append_dropWhile (p := isSchemeChar) (l := s)
      rw [hrest] at hsplit
      cases s with
      | nil => simp at halpha
      | cons c s =>
        have hc : c.isAlpha = true := halpha
        rw [List.takeWhile_cons_of_pos (isSchemeChar_of_isAlpha hc)] at hsplit
        exact ⟨c, s.takeWhile isSchemeChar, rest, hsplit.symm, hc,
          List.all_eq_true.1 List.all_takeWhile⟩
    · rfl
  · rfl

/-- A text names a scheme with `:` exactly if one is split off from it. -/
theorem namesScheme_colon_iff {s : List Char} :
    NamesScheme [':'] s ↔ (splitScheme s).isSome = true := by
  constructor
  · rintro ⟨c, name, rest, rfl, hc, hname⟩
    exact Option.isSome_of_eq_some (splitScheme_of_name hc hname rest)
  · intro h
    by_contra hname
    rw [splitScheme_eq_none hname] at h
    exact nomatch h

instance (s : List Char) : Decidable (NamesScheme [':'] s) :=
  decidable_of_iff _ namesScheme_colon_iff.symm

/-- The mark that separates a scheme from a host begins with a colon. -/
theorem NamesScheme.colon {mark s : List Char} (h : NamesScheme (':' :: mark) s) :
    NamesScheme [':'] s := by
  obtain ⟨c, name, rest, rfl, hc, hname⟩ := h
  exact ⟨c, name, mark ++ rest, by simp, hc, hname⟩

/-- Only the schemes of the network and of files name a channel. -/
theorem ofScheme?_of_other {scheme : List Char} (h : SchemeKind.of scheme = .other) :
    Channel.ofScheme? scheme = none := by
  unfold SchemeKind.of at h
  split at h
  · exact nomatch h
  · rename_i hfile
    split at h
    · exact nomatch h
    · rename_i hnetwork
      simp only [not_or] at hnetwork
      simp [Channel.ofScheme?, hfile, hnetwork]

/-! ## Errors -/

/-- Reading a host does not fail for want of a scheme. -/
theorem parseHost_ne_noScheme {s : List Char} : Host.parse s ≠ .error .noScheme := by
  unfold Host.parse
  split
  · split <;> simp
  · split
    · unfold Host.ofName
      split
      · simp
      · split
        · split <;> simp
        · simp
    · simp

/-- Checking a port does not fail for want of a scheme. -/
theorem checkPort_ne_noScheme {s : List Char} : checkPort s ≠ .error .noScheme := by
  unfold checkPort
  split <;> simp

/-- Whatever is wrong with the rest of a network URL, it is not the scheme. -/
theorem parseNetwork_spec (scheme s : List Char) :
    parseNetwork scheme s ≠ .error .noScheme ∧
      ∀ u, parseNetwork scheme s = .ok u → u.scheme = scheme := by
  simp only [parseNetwork]
  generalize splitAuthority .network (s.dropWhile isSlash) = parts
  obtain ⟨user, host, port, rest⟩ := parts
  cases hempty : host.isEmpty with
  | true =>
    -- No host: this is the error.
    constructor
    · intro h
      cases h
    · intro u hu
      cases hu
  | false =>
    simp only [Bool.false_eq_true, if_false]
    -- The host is refused with an error of its own.
    cases hparse : Host.parse host with
    | error e =>
      constructor
      · intro h
        cases h
        exact parseHost_ne_noScheme hparse
      · intro u hu
        cases hu
    | ok h =>
      -- The port is refused with an error of its own.
      cases hport : checkPort (port.drop 1) with
      | error e =>
        constructor
        · intro h
          cases h
          exact checkPort_ne_noScheme hport
        · intro u hu
          cases hu
      | ok v =>
        -- The address is read, with the scheme given.
        constructor
        · intro h
          cases h
        · intro u hu
          cases hu
          rfl

/-- Trimming a text that begins with `http://` stops at its first character. -/
theorem trimWhile_http {p : Char → Bool} (hfirst : p 'h' = false) (hlast : p '/' = false)
    (t : List Char) :
    trimWhile p (['h', 't', 't', 'p', ':', '/', '/'] ++ t) =
      ['h', 't', 't', 'p', ':', '/', '/'] ++ dropEndWhile p t :=
  @trimWhile_append p [] ['h', 't', 't', 'p', ':', '/', '/'] (by simp) (by simp)
    (by simpa using hfirst) (by simpa using hlast) t

/-- Behind `http://` stands the rest of a network URL, whatever it looks like. -/
theorem parse_http (t : List Char) :
    parse (['h', 't', 't', 'p', ':', '/', '/'] ++ t) =
      parseNetwork ['h', 't', 't', 'p']
        ('/' :: '/' :: withoutBreaks (dropEndWhile isPadding t)) := by
  -- Trimming and leaving the breaks out do not touch the scheme.
  have hbreaks : withoutBreaks ['h', 't', 't', 'p', ':', '/', '/'] =
      ['h', 't', 't', 'p'] ++ ':' :: ['/', '/'] := by decide
  have hscheme := @splitScheme_append ['h', 't', 't', 'p'] (by simp)
    (List.all_eq_true.1 (by decide)) ('/' :: '/' :: withoutBreaks (dropEndWhile isPadding t))
  simp only [parse]
  rw [trimWhile_http (by decide) (by decide), withoutBreaks_append, hbreaks, List.append_assoc]
  simp only [List.cons_append, List.nil_append] at hscheme ⊢
  rw [hscheme]
  rfl

end Url

namespace Address

open HttpState.Url

/-- The mark of a scheme is found wherever it stands. -/
theorem hasSchemeMark_iff {s : List Char} : hasSchemeMark s = true ↔ schemeMark <:+: s := by
  induction s with
  | nil => simp [hasSchemeMark, schemeMark]
  | cons c s ih =>
    rw [hasSchemeMark, Bool.or_eq_true, List.isPrefixOf_iff_prefix, ih, List.infix_cons_iff]

/-- The URL of a scheme `http` has an address unless it has no host. -/
theorem ofUrl_http {u : Url} (h : u.scheme = ['h', 't', 't', 'p']) :
    ofUrl u = .error .missingHost ∨ ∃ a, ofUrl u = .ok a := by
  have hchannel : Channel.ofScheme? u.scheme = some .plain := by rw [h]; rfl
  simp only [ofUrl, hchannel]
  cases hostText? .plain u.host with
  | none => exact .inl rfl
  | some host => exact .inr ⟨_, rfl⟩

/-- Nothing is trimmed off `http://t` if nothing is trimmed off the end of `t`. -/
theorem trim_http {t : List Char} (ht : dropEndWhile isBlank t = t) :
    trim ("http://" ++ String.ofList t).toList = ['h', 't', 't', 'p', ':', '/', '/'] ++ t := by
  have htrim := trimWhile_http (p := isBlank) (by decide) (by decide) t
  rw [ht] at htrim
  simp only [String.toList_append, String.toList_ofList]
  exact htrim

/-- No second scheme is put before `http://`. -/
theorem withScheme_http (t : List Char) :
    withScheme (['h', 't', 't', 'p', ':', '/', '/'] ++ t) =
      ['h', 't', 't', 'p', ':', '/', '/'] ++ t := by
  rw [withScheme, if_pos]
  rfl

/-- What follows `http://` may be wrong, but neither is the scheme missing nor is it one that cannot
    carry cookies. -/
theorem parse_http_spec {t : List Char} (ht : dropEndWhile isBlank t = t) :
    parse ("http://" ++ String.ofList t) ≠ .error (.malformed .noScheme) ∧
      ∀ scheme, parse ("http://" ++ String.ofList t) ≠ .error (.unsupportedScheme scheme) := by
  obtain ⟨herror, hok⟩ := parseNetwork_spec ['h', 't', 't', 'p']
    ('/' :: '/' :: withoutBreaks (dropEndWhile isPadding t))
  rw [← parse_http] at herror hok
  have hempty : (['h', 't', 't', 'p', ':', '/', '/'] ++ t).isEmpty = false := rfl
  simp only [parse, trim_http ht, withScheme_http, hempty, Bool.false_eq_true, if_false]
  cases hurl : Url.parse (['h', 't', 't', 'p', ':', '/', '/'] ++ t) with
  | error e =>
    -- An error, which is not that of a missing scheme.
    refine ⟨fun h => ?_, nofun⟩
    cases h
    exact herror hurl
  | ok u =>
    -- An address, whose scheme is that of the plain channel.
    rcases ofUrl_http (hok u hurl) with h | ⟨a, h⟩ <;> simp [h]

section WithoutScheme

variable {raw : String} {t : List Char} (ht : trim raw.toList = t) (hne : t ≠ [])

include ht

/-- A text that was trimmed has no blank at its end. -/
theorem dropEndWhile_of_trim : dropEndWhile isBlank t = t := by
  rw [← ht, trim, trimWhile, dropEndWhile, dropEndWhile, List.reverse_reverse,
    List.dropWhile_idempotent]

include hne

/-- A text without `://` is taken for a URL of the scheme `http`, whatever it is. -/
theorem parse_of_no_mark (hfile : ¬ ['f', 'i', 'l', 'e', ':'] <+: t.map Char.toLower)
    (hmark : ¬ schemeMark <:+: t) : parse raw = parse ("http://" ++ String.ofList t) := by
  have hscheme : withScheme t = ['h', 't', 't', 'p', ':', '/', '/'] ++ t := by
    rw [withScheme, if_neg]
    rw [hasScheme, Bool.or_eq_true, hasSchemeMark_iff, beq_iff_eq, List.map_take]
    rintro (h | h)
    · exact hmark h
    · exact hfile (h ▸ List.take_prefix 5 _)
  have hempty : t.isEmpty = false := List.isEmpty_eq_false_iff.2 hne
  simp only [parse, ht, hempty, hscheme, trim_http (dropEndWhile_of_trim ht), withScheme_http]
  rfl

/-- A text with `://` in it is taken for a URL as it stands. -/
theorem parse_of_mark (hmark : schemeMark <:+: t) :
    (∀ e, Url.parse t = .error e → parse raw = .error (.malformed e)) ∧
      ∀ u, Url.parse t = .ok u → parse raw = ofUrl u := by
  have hscheme : withScheme t = t := by
    rw [withScheme, if_pos]
    rw [hasScheme, hasSchemeMark_iff.2 hmark, Bool.true_or]
  have hempty : t.isEmpty = false := List.isEmpty_eq_false_iff.2 hne
  constructor
  · intro e he
    simp only [parse, ht, hempty, hscheme, he, Bool.false_eq_true, if_false]
  · intro u hu
    simp only [parse, ht, hempty, hscheme, hu, Bool.false_eq_true, if_false]

/-- A text with `://` in it that begins with no scheme is no URL. -/
theorem parse_of_no_name (hmark : schemeMark <:+: t)
    (hname : ¬ NamesScheme [':'] (withoutBreaks (trimWhile isPadding t))) :
    parse raw = .error (.malformed .noScheme) := by
  refine (parse_of_mark ht hne hmark).1 .noScheme ?_
  rw [Url.parse, splitScheme_eq_none hname]

/-- A text with `://` in it that begins with a word and a colon is taken for a URL of a scheme of
    this name. -/
theorem parse_of_other_name (hmark : schemeMark <:+: t) {c : Char} {name rest : List Char}
    (hvisible : withoutBreaks (trimWhile isPadding t) = c :: name ++ ':' :: rest)
    (hc : c.isAlpha = true) (hname : ∀ d ∈ name, isSchemeChar d = true)
    (hother : SchemeKind.of ((c :: name).map Char.toLower) = .other)
    (hslashes : ¬ ['/', '/'] <+: rest) :
    parse raw = .error (.unsupportedScheme (String.ofList ((c :: name).map Char.toLower))) := by
  -- What follows the name is no authority, so the URL is read, and of another scheme.
  have hcheck : checkOther rest = .ok () := by
    unfold checkOther
    split
    · exact absurd ⟨_, rfl⟩ hslashes
    · rfl
  have hurl : Url.parse t = .ok ⟨(c :: name).map Char.toLower, none, []⟩ := by
    simp only [Url.parse]
    rw [hvisible, splitScheme_of_name hc hname rest]
    simp only [hother, hcheck, Except.map]
  rw [(parse_of_mark ht hne hmark).2 _ hurl]
  simp only [ofUrl, ofScheme?_of_other hother]

/-- A text without a scheme is taken for a URL of the scheme `http`, unless it holds `://`. If it
    does, as in its query, and begins with no scheme, or with a word that is no scheme of a URL that
    can carry cookies, it is refused for that, and so not taken for one of the scheme `http`. -/
theorem parse_without_scheme (hfile : ¬ ['f', 'i', 'l', 'e', ':'] <+: t.map Char.toLower) :
    (¬ schemeMark <:+: t → parse raw = parse ("http://" ++ String.ofList t)) ∧
      (schemeMark <:+: t → ¬ NamesScheme [':'] (withoutBreaks (trimWhile isPadding t)) →
        parse raw = .error (.malformed .noScheme) ∧
          parse raw ≠ parse ("http://" ++ String.ofList t)) ∧
      (schemeMark <:+: t → ∀ c name rest,
        withoutBreaks (trimWhile isPadding t) = c :: name ++ ':' :: rest → c.isAlpha = true →
        (∀ d ∈ name, isSchemeChar d = true) →
        SchemeKind.of ((c :: name).map Char.toLower) = .other → ¬ ['/', '/'] <+: rest →
        parse raw =
            .error (.unsupportedScheme (String.ofList ((c :: name).map Char.toLower))) ∧
          parse raw ≠ parse ("http://" ++ String.ofList t)) := by
  obtain ⟨hscheme, hsupported⟩ := parse_http_spec (dropEndWhile_of_trim ht)
  refine ⟨parse_of_no_mark ht hne hfile, ?noName, ?otherName⟩
  case noName =>
    intro hmark hname
    have hparse := parse_of_no_name ht hne hmark hname
    exact ⟨hparse, hparse ▸ hscheme.symm⟩
  case otherName =>
    intro hmark c name rest hvisible hc hname hother hslashes
    have hparse := parse_of_other_name ht hne hmark hvisible hc hname hother hslashes
    exact ⟨hparse, hparse ▸ (hsupported _).symm⟩

end WithoutScheme

/-- A query that names another URL makes a difference, and so does a port behind a host without full
    stops. -/
theorem parse_without_scheme_query :
    parse "example.com/login?next=/" = parse "http://example.com/login?next=/" ∧
    parse "example.com/login?next=https://other.org/" = .error (.malformed .noScheme) ∧
    parse "localhost:8080/?next=https://other.org/" =
      .error (.unsupportedScheme "localhost") := by
  have hplain := @parse_without_scheme "example.com/login?next=/"
    "example.com/login?next=/".toList (by decide) (by decide) (by decide)
  have hquery := @parse_without_scheme "example.com/login?next=https://other.org/"
    "example.com/login?next=https://other.org/".toList (by decide) (by decide) (by decide)
  have hport := @parse_without_scheme "localhost:8080/?next=https://other.org/"
    "localhost:8080/?next=https://other.org/".toList (by decide) (by decide) (by decide)
  -- The first text has no mark, the second one a mark but no name in front, the third one a name.
  have hmarked {s : List Char} (h : hasSchemeMark s = true) := hasSchemeMark_iff.1 h
  refine ⟨?_, ?_, ?_⟩
  · rw [hplain.1 (by rw [← hasSchemeMark_iff]; decide), String.ofList_toList]
    exact congrArg parse (by decide)
  · exact (hquery.2.1 (hmarked (by decide)) (by decide)).1
  · exact (hport.2.2 (hmarked (by decide)) 'l' "ocalhost".toList
      "8080/?next=https://other.org/".toList (by decide) (by decide)
      (List.all_eq_true.1 (by decide)) (by decide) (by decide)).1

/-- A text that begins with a host, and so with no scheme, is not taken for a URL of the scheme
    `http` if its query names another URL. -/
theorem query_is_not_part_of_http :
    trim "example.com/login?next=https://other.org/".toList ≠ [] ∧
    ¬ ['f', 'i', 'l', 'e', ':'] <+:
      (trim "example.com/login?next=https://other.org/".toList).map Char.toLower ∧
    ¬ NamesScheme schemeMark (trim "example.com/login?next=https://other.org/".toList) ∧
    parse "example.com/login?next=https://other.org/" ≠
      parse ("http://" ++
        String.ofList (trim "example.com/login?next=https://other.org/".toList)) := by
  -- The mark stands in the query, and nothing in front of it names a scheme.
  have htrim : trim "example.com/login?next=https://other.org/".toList =
      "example.com/login?next=https://other.org/".toList := by decide
  have hname : ¬ NamesScheme [':'] "example.com/login?next=https://other.org/".toList := by decide
  have hparse := parse_of_no_name htrim (by decide) (hasSchemeMark_iff.1 (by decide)) hname
  refine ⟨by rw [htrim]; decide, by decide, ?_, ?_⟩
  · rw [htrim]
    exact fun h => hname h.colon
  · rw [hparse]
    exact (parse_http_spec (dropEndWhile_of_trim rfl)).1.symm

end Address

end HttpState
