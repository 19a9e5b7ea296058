import HttpState.Proofs.Address
import HttpState.Proofs.Url.Characters
import HttpState.Proofs.Url.Host
import HttpState.Proofs.Url.Parts
import HttpState.Proofs.Url.Path

/-!
# The spellings of a URL

One and the same resource can be asked for under many URLs, and cookies must not depend on which of
them is taken. The address of a URL of the schemes `http`, `ws`, `https` and `wss` is therefore that
of a plain one, with nothing but the scheme of its channel, its host and its path.

## Key definitions

- `Spelling`: a URL in the parts that it is written in
- `Spelling.Spells`: what the parts may look like for a given host and path

## Key results

- `parse_text`: the address of a spelling, from its parts
- `ofParts_of_spellsHost`: the spelling of the host makes no difference
- `parse_spelling`: every spelling has the same address
-/

namespace HttpState.Address

open HttpState.Text HttpState.Url

/-- A URL in the parts that it is written in, without a user. -/
structure Spelling where
  before : List Char
  scheme : List Char
  host : List Char
  port : Option (List Char)
  path : List Char
  query : Option (List Char)
  fragment : Option (List Char)
  after : List Char

/-- The ways to write a host: in any letter case, and with a full stop behind a host of letters,
    digits, hyphens and full stops that does not end in one. -/
inductive SpellsHost (host : List Char) : List Char → Prop
  | letterCase {h : List Char} (hcase : h.map Char.toLower = host.map Char.toLower) :
    SpellsHost host h
  | fullStop {h : List Char} (hplain : ∀ c ∈ host, Host.isPlainChar c = true)
    (hlast : host.getLast? ≠ some '.') (hcase : h.map Char.toLower = host.map Char.toLower) :
    SpellsHost host (h ++ ['.'])

namespace Spelling

/-- What stands behind the path. -/
def tail (u : Spelling) : List Char :=
  u.query.elim [] ('?' :: ·) ++ u.fragment.elim [] ('#' :: ·) ++ u.after

/-- A URL as it is written. -/
def text (u : Spelling) : String :=
  String.ofList (u.before ++ (textToPort u.scheme u.host u.port ++ u.path ++ u.tail))

/-- A spelling of a URL of a channel, a host and a path: the scheme, in any letter case, is one of
    the channel, the host and the path may be written in several ways, and the rest is free, except
    that a port is a number up to 65535 and that there is nothing but blanks around the URL. -/
structure Spells (u : Spelling) (channel : Channel) (host path : List Char) : Prop where
  before : ∀ c ∈ u.before, isBlank c = true
  scheme : Channel.ofScheme? (u.scheme.map Char.toLower) = some channel
  host : SpellsHost host u.host
  port : ∀ digits ∈ u.port, digits.all Char.isDigit = true ∧ decimal digits ≤ 65535
  path : InsertsDots path u.path
  after : ∀ c ∈ u.after, isBlank c = true

end Spelling

/-- The address of a host, as far as it could be read, and a path. -/
def ofParts (channel : Channel) (host : Except Url.Error Host) (path : List Char) :
    Except AddressError Address :=
  match host with
  | .error e => .error (.malformed e)
  | .ok h =>
    (hostText? channel (some h)).elim (.error .missingHost) fun text =>
      .ok ⟨String.ofList text, String.ofList path, channel⟩

/-! ## Reading a spelling -/

/-- A text that has `://` in its middle has a scheme mark. -/
theorem hasSchemeMark_append (s t : List Char) :
    hasSchemeMark (s ++ ':' :: '/' :: '/' :: t) = true := by
  induction s with
  | nil => simp [hasSchemeMark, schemeMark]
  | cons c s ih => simp [hasSchemeMark, ih]

/-- What follows the path is blank, or it starts with the `?` or `#` that ends the path. -/
theorem tail_cases (u : Spelling) : u.tail = u.after ∨ FollowsPath u.tail := by
  unfold Spelling.tail
  cases u.query with
  | some query =>
    right
    intro c hc
    cases hc
    exact .inl rfl
  | none =>
    cases u.fragment with
    | some fragment =>
      right
      intro c hc
      cases hc
      exact .inr rfl
    | none => exact .inl rfl

/-- Without the blanks at its end, what stands behind the path is a query or a fragment. -/
theorem followsPath_tail {u : Spelling} (h : ∀ c ∈ u.after, isBlank c = true) :
    FollowsPath (dropEndWhile isBlank u.tail) := by
  rcases tail_cases u with hafter | hfollows
  · rw [hafter, dropEndWhile_eq_rdropWhile, List.rdropWhile_eq_nil_iff.2 h]
    exact fun c hc => nomatch hc
  · exact hfollows.of_isPrefix (List.rdropWhile_prefix isBlank _)

/-- The address of a spelling, from its parts. -/
theorem parse_text {u : Spelling} {channel : Channel} {host path : List Char}
    (hchannel : channel ≠ .file) (hhost : IsHostText u.host) (hpath : IsPathText u.path)
    (hu : u.Spells channel host path) :
    parse u.text = ofParts channel (Host.parse u.host)
      (renderPath (resolve false ((withoutBreaks u.path).drop 1)).segments) := by
  have hkind := (kind_of_ofScheme? hu.scheme).trans (if_neg hchannel)
  have hport : ∀ digits ∈ u.port, checkPort digits = .ok () := fun digits hdigits =>
    checkPort_eq_ok_iff.2 (hu.port digits hdigits)
  obtain ⟨hne, hhead, hlast⟩ := isInvisible_ends hkind hhost.standsForHost hport hpath
  have hblank : ∀ {c}, isInvisible c = false → isBlank c = false := by
    intro c hc
    exact (Bool.or_eq_false_iff.1 hc).1
  have htrim : trim u.text.toList =
      textToPort u.scheme u.host u.port ++ u.path ++ dropEndWhile isBlank u.tail := by
    rw [Spelling.text, String.toList_ofList]
    exact trimWhile_append hu.before hne (fun c hc => hblank (hhead c hc))
      (fun c hc => hblank (hlast c hc)) u.tail
  have hscheme : withScheme (trim u.text.toList) = trim u.text.toList := by
    rw [withScheme, if_pos]
    rw [hasScheme, htrim, textToPort, List.append_assoc, List.append_assoc, List.cons_append,
      List.cons_append, List.cons_append, hasSchemeMark_append, Bool.true_or]
  have hempty : (trim u.text.toList).isEmpty = false := by
    rw [htrim]
    simp [textToPort]
  simp only [parse, hempty, hscheme]
  rw [htrim, parse_network hkind hhost.standsForHost hport hpath (followsPath_tail hu.after)]
  -- The host is refused, and so is the address.
  cases Host.parse u.host with
  | error e => rfl
  | ok h =>
    -- The host is read, and the rest depends on its text alone.
    simp only [Except.map, ofUrl, hu.scheme, ofParts]
    cases hostText? channel (some h) <;> rfl

/-! ## Hosts -/

/-- Another spelling of a host is again text of a host. -/
theorem isHostText_of_spellsHost {host h : List Char} (hhost : IsHostText host)
    (hspells : SpellsHost host h) : IsHostText h := by
  cases hspells with
  | letterCase hcase => exact hhost.congr hcase
  | fullStop hplain hlast hcase => exact (hhost.congr hcase).append_fullStop

/-- A full stop at the end of a network host is no part of the address. -/
theorem hostText?_withFullStop {channel : Channel} (hchannel : channel ≠ .file) {h : Host}
    (hne : ∀ name, h = .domain name → name ≠ []) :
    hostText? channel (some h.withFullStop) = hostText? channel (some h) := by
  cases h with
  | ipv4 n => rfl
  | ipv6 pieces => rfl
  | domain name =>
    have hdrop : dropEndWhile (· == '.') (name ++ ['.']) = dropEndWhile (· == '.') name := by
      simp [dropEndWhile]
    simp [hostText?, hchannel, Host.withFullStop, Host.render, hdrop, hne name rfl]

/-- The spelling of the host makes no difference. -/
theorem ofParts_of_spellsHost {channel : Channel} (hchannel : channel ≠ .file)
    {host h : List Char} (hhost : IsHostText host) (hspells : SpellsHost host h)
    (path : List Char) :
    ofParts channel (Host.parse h) path = ofParts channel (Host.parse host) path := by
  cases hspells with
  | letterCase hcase => rw [Host.parse_congr hcase.symm hhost.head?_ne]
  | @fullStop h hplain hlast hcase =>
    -- Letter case comes first: what is known of the full stop is known of `host` as it is given.
    have hcase' : (host ++ ['.']).map Char.toLower = (h ++ ['.']).map Char.toLower := by
      rw [List.map_append, List.map_append, hcase]
    rw [← Host.parse_congr hcase' hhost.append_fullStop.head?_ne,
      Host.parse_fullStop hplain hhost.ne_nil hlast]
    cases hparse : Host.parse host with
    | error e => rfl
    | ok parsed =>
      have hne : ∀ name, parsed = .domain name → name ≠ [] := by
        rintro name rfl
        exact (Host.isRead_of_parse hparse).2.1
      simp only [Except.map, ofParts, hostText?_withFullStop hchannel hne]

/-! ## Paths -/

/-- Dot segments put into a path leave the text of a path. -/
theorem isPathText_of_insertsDots {path p : List Char} (hpath : IsPathText path)
    (hdots : InsertsDots path p) : IsPathText p where
  head? c hc := hpath.head? c (hdots.head?_eq ▸ hc)
  getLast? c hc := hpath.getLast? c (hdots.getLast?_eq ▸ hc)
  endsBeforeQuery c hc := by
    rcases hdots.mem_or_eq hc with hc | rfl
    · exact hpath.endsBeforeQuery c hc
    · decide

/-! ## All spellings -/

/-- The spelling that has nothing but what it needs. -/
def Spelling.plain (channel : Channel) (host path : List Char) : Spelling :=
  ⟨[], channel.scheme.toList, host, none, path, none, none, []⟩

/-- The scheme of a channel names that channel. -/
theorem ofScheme?_scheme (channel : Channel) :
    Channel.ofScheme? (channel.scheme.toList.map Char.toLower) = some channel := by
  cases channel <;> decide

/-- The plain spelling spells what it is made of. -/
theorem spells_plain {channel : Channel} (host path : List Char) :
    (Spelling.plain channel host path).Spells channel host path where
  before _ hc := nomatch hc
  scheme := ofScheme?_scheme channel
  host := .letterCase rfl
  port _ hdigits := nomatch hdigits
  path := .refl path
  after _ hc := nomatch hc

/-- The plain spelling is written as the scheme, the mark, the host and the path. -/
theorem text_plain (channel : Channel) (host path : List Char) :
    (Spelling.plain channel host path).text =
      channel.scheme ++ "://" ++ String.ofList host ++ String.ofList path := by
  refine String.toList_injective ?_
  simp [Spelling.text, Spelling.plain, Spelling.tail, textToPort, portText]

/-- Every spelling of a URL has the same address, and if it has none, for the same reason. -/
theorem parse_spelling {channel : Channel} (hchannel : channel ≠ .file) {host path : List Char}
    (hhost : IsHostText host) (hpath : IsPathText path) {u : Spelling}
    (hu : u.Spells channel host path) :
    parse u.text =
      parse (channel.scheme ++ "://" ++ String.ofList host ++ String.ofList path) := by
  have hslash : ∀ c ∈ (withoutBreaks path).head?, c = '/' := hpath.withoutBreaks.head?
  rw [← text_plain, parse_text hchannel (isHostText_of_spellsHost hhost hu.host)
      (isPathText_of_insertsDots hpath hu.path) hu,
    parse_text hchannel (u := .plain channel host path) hhost hpath (spells_plain host path),
    ofParts_of_spellsHost hchannel hhost hu.host, hu.path.withoutBreaks.resolve_eq hslash]
  rfl

/-- A spelling of `http://example.com/a/b` that differs from it in every part. -/
def Spelling.loose : Spelling :=
  ⟨" ".toList, "WS".toList, "EXAMPLE.com.".toList, some "8080".toList, "/a/./b".toList,
    some "x=1".toList, some "top".toList, "\n".toList⟩

/-- The loose spelling is read as the plain one: none of its differences counts. -/
theorem parse_spelling_loose :
    (Channel.plain ≠ .file ∧ IsHostText "example.com".toList ∧ IsPathText "/a/b".toList ∧
      Spelling.loose.Spells .plain "example.com".toList "/a/b".toList) ∧
    Spelling.loose.text = " WS://EXAMPLE.com.:8080/a/./b?x=1#top\n" ∧
    (parse Spelling.loose.text).toOption = some ⟨"example.com", "/a/b", .plain⟩ := by
  have hhost : IsHostText "example.com".toList := by decide
  have hpath : IsPathText "/a/b".toList := by decide
  have hplain : "example.com".toList.all Host.isPlainChar = true := by decide
  -- Each part is another spelling of its part of the URL.
  have hspells : Spelling.loose.Spells .plain "example.com".toList "/a/b".toList := {
    before := List.all_eq_true.1 (by decide)
    scheme := by decide
    host := .fullStop (h := "EXAMPLE.com".toList) (List.all_eq_true.1 hplain) (by decide)
      (by decide)
    port := by decide
    path := .cons '/' (.cons 'a' (.dot (.refl _)))
    after := List.all_eq_true.1 (by decide) }
  refine ⟨⟨by decide, hhost, hpath, hspells⟩, by decide, ?_⟩
  rw [parse_spelling (by decide) hhost hpath hspells]
  decide

end HttpState.Address
