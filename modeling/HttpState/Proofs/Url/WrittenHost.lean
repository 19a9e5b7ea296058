import HttpState.Proofs.Text.Scan
import HttpState.Proofs.Text.Trim
import HttpState.Proofs.Url.Characters
import HttpState.Proofs.Url.DomainName
import HttpState.Proofs.Url.IpAddress

/-!
# Reading a host from what it is written as

A host that has been read is read again from what it is written as, unless it is a domain name with
a label that is too long to be decoded. Without the full stops at its end, a host may be another
one: nothing may be left of it, and what is left may have to be an IPv4 address.

## Key definitions

- `DomainName.IsAsciiName`: a name that is its own ASCII form

## Key results

- `parse_render`: reading a host from what it is written as
- `exists_parse_iff`: reading a host from what it is written as, without full stops at its end
-/

namespace HttpState.Url

open HttpState.Text

namespace DomainName

/-- A name that is its own ASCII form, if no label of it is too long to be decoded. -/
structure IsAsciiName (name : List Char) : Prop where
  isForbidden : ∀ c ∈ name, isForbidden c = false
  toAscii? : toAscii? name = if (labels name).all isShort then some name else none

/-- What a name begins with, up to one of its full stops, is itself such a name. -/
theorem IsAsciiName.of_isPrefix {s name t : List Char} (h : DomainName.toAscii? s = some name)
    (ht : t <+: name) (hlabels : labels t <+: labels name) : IsAsciiName t where
  isForbidden _ hc := isForbidden_of_mem_toAscii? h (ht.subset hc)
  toAscii? := toAscii?_of_prefix h hlabels

/-- A name has the labels that it has without full stops at its end, and empty ones. -/
theorem labels_dropEndWhile_isPrefix (name : List Char) :
    labels (dropEndWhile (· == '.') name) <+: labels name := by
  obtain ⟨n, hn⟩ := dropEndWhile_append_replicate '.' name
  generalize dropEndWhile (· == '.') name = t at hn
  subst hn
  cases n with
  | zero => simp
  | succ n =>
    rw [List.replicate_succ, labels, labels, List.splitOn_append_cons_self]
    exact List.prefix_append _ _

/-- Labels without a hyphen are not encoded. -/
theorem isEncoded_of_not_mem {s label : List Char} (h : '-' ∉ s) (hlabel : label ∈ labels s) :
    isEncoded label = false := by
  rw [← Bool.not_eq_true, isEncoded, List.isPrefixOf_iff_prefix]
  intro hmark
  exact h ((List.isInfix_of_mem_splitOn hlabel).subset (hmark.subset (by decide)))

/-- Labels without a hyphen are never too long to be decoded. -/
theorem all_isShort_of_not_mem {s : List Char} (h : '-' ∉ s) : (labels s).all isShort = true := by
  rw [List.all_eq_true]
  intro label hlabel
  rw [isShort, isEncoded_of_not_mem h hlabel]
  rfl

/-- No hyphen is written for an IPv4 address. -/
theorem hyphen_not_mem_ipv4 (n : Ipv4.Address) : '-' ∉ Ipv4.render n := by
  intro hmem
  rcases Ipv4.mem_render hmem with h | h <;> exact absurd h (by decide)

/-- An IPv4 address is in ASCII form. -/
theorem isAsciiForm_ipv4 (n : Ipv4.Address) : IsAsciiForm (Ipv4.render n) := by
  intro c hc
  rcases Ipv4.mem_render hc with rfl | hdigit
  · decide
  · exact isAsciiForm_of_isDigitChar hdigit

/-- An IPv4 address can be read as a name. -/
theorem isAsciiName_ipv4 (n : Ipv4.Address) : IsAsciiName (Ipv4.render n) := by
  have hforbidden : ∀ c ∈ Ipv4.render n, DomainName.isForbidden c = false := by
    intro c hc
    rcases Ipv4.mem_render hc with rfl | hdigit
    · decide
    · exact isForbidden_of_isDigitChar hdigit
  refine ⟨hforbidden, ?_⟩
  rw [all_isShort_of_not_mem (hyphen_not_mem_ipv4 n)]
  exact toAscii?_of_not_isEncoded (isAsciiForm_ipv4 n) hforbidden fun l hl =>
    isEncoded_of_not_mem (hyphen_not_mem_ipv4 n) hl

end DomainName

namespace Host

open DomainName

/-- The characters of a host are ASCII characters that may be written in one, in lower case. -/
theorem isAsciiForm_render {h : Host} (hread : h.IsRead) : IsAsciiForm h.render := by
  cases h with
  | domain name =>
    obtain ⟨⟨s, hs⟩, -, -⟩ := hread
    exact isAsciiForm_of_toAscii? hs
  | ipv4 n => exact isAsciiForm_ipv4 n
  | ipv6 ps =>
    intro c hc
    simp only [render, List.cons_append, List.mem_cons, List.mem_append, List.not_mem_nil,
      or_false] at hc
    rcases hc with rfl | hc | rfl
    · decide
    · rcases Ipv6.mem_render hc with rfl | hdigit
      · decide
      · exact isAsciiForm_of_isDigitChar hdigit
    · decide

/-! ## Names -/

/-- A name in ASCII form is read for what it means, unless a label of it is too long. -/
theorem parse_of_isAsciiName {name : List Char} (h : IsAsciiName name) :
    parse name =
      if (labels name).all isShort then ofName name else .error .invalidDomainName := by
  have hhead : name.head? ≠ some '[' := fun hhead =>
    absurd (h.isForbidden _ (List.mem_of_head? hhead)) (by decide)
  have hpercent : '%' ∉ name := fun hmem => absurd (h.isForbidden _ hmem) (by decide)
  rw [parse_of_head? hhead, name?_eq_toAscii? hpercent, h.toAscii?]
  split <;> rfl

/-- Some text is written for an IPv4 address. -/
theorem render_ipv4_ne_nil (n : Nat) : Ipv4.render n ≠ [] := by
  intro hnil
  have hmeant := Ipv4.isMeant_render n
  rw [hnil] at hmeant
  exact absurd hmeant (by decide)

/-- An IPv4 address is read back as such. -/
theorem ofName_render_ipv4 {n : Nat} (h : n < 0x100000000) :
    ofName (Ipv4.render n) = .ok (.ipv4 n) := by
  have hempty : (Ipv4.render n).isEmpty = false := by simpa using render_ipv4_ne_nil n
  rw [ofName, hempty, Ipv4.isMeant_render, Ipv4.ofHost?_render h]
  rfl

/-- An IPv4 address does not end with a full stop. -/
theorem dropEndWhile_render_ipv4 (n : Nat) :
    dropEndWhile (· == '.') (Ipv4.render n) = Ipv4.render n := by
  refine dropEndWhile_eq_self fun c hc => ?_
  -- The last of the four numbers has digits.
  obtain ⟨front, hfront⟩ : ∃ front, Ipv4.render n = front ++ Nat.toDigits 10 (n % 256) :=
    ⟨['.'].intercalate ([n / 0x1000000, n / 0x10000 % 256, n / 0x100 % 256].map
      (Nat.toDigits 10)) ++ ['.'], by simp [Ipv4.render, List.intercalate_cons_cons]⟩
  have hlast : c ∈ (Nat.toDigits 10 (n % 256)).getLast? := by
    rwa [hfront, List.getLast?_append_of_ne_nil _ Nat.toDigits_ne_nil] at hc
  have hdigit : c.isDigit = true :=
    Nat.isDigit_of_mem_toDigits (by omega) (by omega) (List.mem_of_getLast? hlast)
  rw [beq_eq_false_iff_ne]
  rintro rfl
  exact absurd hdigit (by decide)

/-- What is left of a name without full stops at its end. -/
theorem exists_parse_iff_of_isAsciiName {name : List Char} (h : IsAsciiName name)
    (hlast : dropEndWhile (· == '.') name = name) :
    (∃ w, parse name = .ok w ∧ dropEndWhile (· == '.') w.render = name) ↔
      name ≠ [] ∧ (labels name).all isShort = true ∧
        (Ipv4.isMeant name = true → ∃ n < 0x100000000, name = Ipv4.render n) := by
  rw [parse_of_isAsciiName h]
  constructor
  · -- What is read back: the name is a domain, or a number written in full.
    rintro ⟨w, hparse, hw⟩
    split at hparse
    · rename_i hshort
      obtain ⟨hne, ⟨hmeant, rfl⟩ | ⟨n, hn, -, rfl⟩⟩ := ofName_eq_ok hparse
      · exact ⟨hne, hshort, fun h => absurd h (by simp [hmeant])⟩
      · refine ⟨hne, hshort, fun _ => ⟨n, hn, ?_⟩⟩
        rw [← hw]
        exact dropEndWhile_render_ipv4 n
    · cases hparse
  · -- How it is read back: as a number if it means one, as a domain otherwise.
    rintro ⟨hne, hshort, hmeant⟩
    rw [if_pos hshort]
    cases hname : Ipv4.isMeant name with
    | true =>
      obtain ⟨n, hn, rfl⟩ := hmeant hname
      exact ⟨.ipv4 n, ofName_render_ipv4 hn, dropEndWhile_render_ipv4 n⟩
    | false =>
      refine ⟨.domain name, ?_, hlast⟩
      have hempty : name.isEmpty = false := by simpa using hne
      rw [ofName, hempty, hname]
      rfl

/-! ## Addresses in brackets -/

/-- An address in brackets has digits and colons between them. -/
theorem not_mem_render_ipv6 {ps : List Nat} {c : Char} (hc : c ≠ '[' ∧ c ≠ ':' ∧ c ≠ ']')
    (hdigit : Punycode.isDigitChar c = false) : c ∉ (Host.ipv6 ps).render := by
  intro hmem
  simp only [render, List.cons_append, List.mem_cons, List.mem_append, List.not_mem_nil,
    or_false] at hmem
  rcases hmem with h | h | h
  · exact hc.1 h
  · rcases Ipv6.mem_render h with h | h
    · exact hc.2.1 h
    · exact absurd h (by simp [hdigit])
  · exact hc.2.2 h

/-- An IPv6 address in brackets is read back as such. -/
theorem parse_render_ipv6 {ps : List Nat} (h : Ipv6.IsAddress ps) :
    parse (Host.ipv6 ps).render = .ok (.ipv6 ps) := by
  have hbracketed : bracketed? (Ipv6.render ps ++ [']']) = some (.ipv6 ps) := by
    rw [bracketed?, List.reverse_append]
    simp [Ipv6.ofHost?_render h]
  rw [render, List.cons_append, parse]
  simp only [hbracketed]

/-- An IPv6 address does not end with a full stop. -/
theorem dropEndWhile_render_ipv6 (ps : List Nat) :
    dropEndWhile (· == '.') (Host.ipv6 ps).render = (Host.ipv6 ps).render := by
  refine dropEndWhile_eq_self fun c hc => ?_
  rw [render, List.getLast?_concat] at hc
  cases hc
  rfl

/-- An IPv6 address is one label without a hyphen. -/
theorem all_isShort_ipv6 (ps : List Nat) : (labels (Host.ipv6 ps).render).all isShort = true :=
  all_isShort_of_not_mem (not_mem_render_ipv6 (by decide) (by decide))

/-- An address in brackets is not meant as an IPv4 address. -/
theorem isMeant_ipv6 (ps : List Nat) : Ipv4.isMeant (Host.ipv6 ps).render = false := by
  have hdot : '.' ∉ (Host.ipv6 ps).render := not_mem_render_ipv6 (by decide) (by decide)
  have hcons : (Host.ipv6 ps).render = '[' :: (Ipv6.render ps ++ [']']) := rfl
  rw [hcons] at hdot ⊢
  -- There is no full stop, so the whole text is the last part, and it begins with a bracket.
  have hsplit : ('[' :: (Ipv6.render ps ++ [']'])).splitOn '.' =
      [('[' :: (Ipv6.render ps ++ [']']))] := by
    have hjoin := List.splitOn_intercalate '.' (List.forall_mem_singleton.2 hdot) (by simp)
    rwa [List.intercalate_singleton] at hjoin
  have hparts : Ipv4.parts ('[' :: (Ipv6.render ps ++ [']'])) =
      [('[' :: (Ipv6.render ps ++ [']']))] := by
    rw [Ipv4.parts, hsplit]
    simp
  obtain ⟨b, r, hrest⟩ := List.exists_cons_of_ne_nil (List.append_ne_nil_of_right_ne_nil
    (Ipv6.render ps) (List.cons_ne_nil ']' []))
  rw [Ipv4.isMeant, hparts, hrest]
  simp [Ipv4.part?]

/-! ## Hosts -/

/-- Some text is written for every host. -/
theorem render_ne_nil {h : Host} (hread : h.IsRead) : h.render ≠ [] := by
  cases h with
  | domain name => exact hread.2.1
  | ipv4 n => exact render_ipv4_ne_nil n
  | ipv6 ps => simp [render]

/-- A host is read from what it is written as. -/
theorem parse_render {h : Host} (hread : h.IsRead) :
    parse h.render =
      if (labels h.render).all isShort then .ok h else .error .invalidDomainName := by
  cases h with
  | domain name =>
    -- It was no number when it was read, so it is none now.
    obtain ⟨⟨s, hs⟩, hne, hmeant⟩ := hread
    have hempty : name.isEmpty = false := by simpa using hne
    have hname : ofName name = .ok (.domain name) := by
      rw [ofName, hempty, hmeant]
      rfl
    rw [render, parse_of_isAsciiName (IsAsciiName.of_isPrefix hs List.prefix_rfl List.prefix_rfl),
      hname]
  | ipv4 n =>
    rw [render, parse_of_isAsciiName (isAsciiName_ipv4 n), ofName_render_ipv4 hread]
  | ipv6 ps => rw [all_isShort_ipv6, if_pos rfl, parse_render_ipv6 hread]

/-- A host that is written without full stops at its end is read as one that is written alike, if
    something is left of it, no label of what is left is too long, and what is left is an IPv4
    address as these are written if it is meant as one. -/
theorem exists_parse_iff {h : Host} (hread : h.IsRead) {text : List Char}
    (htext : dropEndWhile (· == '.') h.render = text) :
    (∃ w, parse text = .ok w ∧ dropEndWhile (· == '.') w.render = text) ↔
      text ≠ [] ∧ (labels text).all isShort = true ∧
        (Ipv4.isMeant text = true → ∃ n < 0x100000000, text = Ipv4.render n) := by
  -- Nothing is left to drop at the end.
  have hlast : dropEndWhile (· == '.') text = text := by
    rw [← htext]
    exact List.rdropWhile_idempotent _ _
  cases h with
  | domain name =>
    obtain ⟨⟨s, hs⟩, -, -⟩ := hread
    rw [render] at htext
    refine exists_parse_iff_of_isAsciiName (IsAsciiName.of_isPrefix hs ?_ ?_) hlast
    · exact htext ▸ List.rdropWhile_prefix _ name
    · exact htext ▸ labels_dropEndWhile_isPrefix name
  | ipv4 n =>
    rw [render, dropEndWhile_render_ipv4] at htext
    exact exists_parse_iff_of_isAsciiName (htext ▸ isAsciiName_ipv4 n) hlast
  | ipv6 ps =>
    rw [dropEndWhile_render_ipv6] at htext
    subst htext
    refine ⟨fun _ => ⟨by simp [render], all_isShort_ipv6 ps, fun h => ?_⟩, fun _ => ?_⟩
    · rw [isMeant_ipv6] at h
      cases h
    · exact ⟨.ipv6 ps, parse_render_ipv6 hread, hlast⟩

end Host

end HttpState.Url
