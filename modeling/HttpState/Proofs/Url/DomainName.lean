import HttpState.Proofs.Unicode.Normalization
import HttpState.Proofs.Url.Host
import HttpState.Proofs.Url.PunycodeRoundTrip

/-!
# Reading the ASCII form of a domain name again

The ASCII form of a domain name is a domain name itself, and so is what is left of it without labels
at its end. It is its own ASCII form: an ASCII label stays as it is, and a label that was encoded is
decoded to what it was, which is in normal form and valid. There is one exception. Encoding a label
may make it longer than a label may be that is decoded, and then nothing can be read of the name.

## Key definitions

- `isShort`: a label that is not too long to be decoded, if it is encoded
- `IsNormalLabel`: a label of a name that has been mapped and normalized

## Key results

- `unicodeLabel?_asciiLabel`: what the ASCII form of a label stands for
- `toAscii?_of_prefix`: the ASCII form of the first labels of an ASCII form
-/

namespace HttpState.Url.DomainName

open HttpState.Unicode
open Punycode (isDigitChar)

/-- Whether a label is not too long to be decoded, if it is encoded. -/
def isShort (label : List Char) : Bool :=
  !isEncoded label || (label.drop encodedMark.length).length ≤ maxEncodedLength

/-- A label between the full stops of a name that has been mapped and normalized. -/
structure IsNormalLabel (label : List Char) : Prop where
  nfc : nfc label = label
  kept : ∀ c ∈ label, hostMapping c = .kept
  fullStop : '.' ∉ label

/-- A text as it is written in ASCII forms. -/
def IsAsciiForm (s : List Char) : Prop := ∀ c ∈ s, isAscii c = true ∧ c.isUpper = false

/-- Whether the labels that the labels of a name stand for are valid, each by itself and in
    company. -/
def areValid (unicode : List (List Char)) : Bool :=
  unicode.all isValidLabel && (!unicode.any hasRightToLeft || unicode.all keepsDirection)

/-! ## Characters -/

/-- Text in ASCII form has no upper-case letter to change. -/
theorem IsAsciiForm.map_toLower {s : List Char} (h : IsAsciiForm s) : s.map Char.toLower = s :=
  Text.IsLowerCase.map_toLower fun c hc => (h c hc).2

/-- An ASCII character that the mapping keeps is no upper-case letter. -/
theorem isUpper_of_kept {c : Char} (hascii : isAscii c = true) (h : hostMapping c = .kept) :
    c.isUpper = false := by
  rw [hostMapping, if_pos hascii] at h
  split at h
  · cases h
  · rename_i hupper
    simpa using hupper

/-- The digits of Punycode are in ASCII form. -/
theorem isAsciiForm_of_isDigitChar {c : Char} (h : isDigitChar c = true) :
    isAscii c = true ∧ c.isUpper = false := by
  simp only [isDigitChar, Bool.or_eq_true, Text.isLower_iff, Text.isDigit_iff] at h
  rw [isAscii_iff, ← Bool.not_eq_true, Text.isUpper_iff]
  omega

/-- The mark of encoded labels is in ASCII form. -/
theorem isAsciiForm_encodedMark : IsAsciiForm encodedMark := by
  have hall : encodedMark.all (fun c => isAscii c && !c.isUpper) = true := by decide
  simpa [IsAsciiForm] using hall

/-- The label that a normal label is written with is in ASCII form. -/
theorem IsNormalLabel.isAsciiForm_asciiLabel {label : List Char} (h : IsNormalLabel label) :
    IsAsciiForm (asciiLabel label) := by
  intro c hc
  unfold asciiLabel at hc
  split at hc
  · rename_i hascii
    have hc' := List.all_eq_true.1 hascii c hc
    -- An ASCII label is written as it is.
    exact ⟨hc', isUpper_of_kept hc' (h.kept c hc)⟩
  · -- Any other label is written as the mark and its code, whose characters are kept ones, `-` or
    -- digits.
    rcases List.mem_append.1 hc with hmark | htext
    · exact isAsciiForm_encodedMark c hmark
    · rcases Punycode.mem_encode htext with ⟨hmem, hlt⟩ | rfl | hdigit
      · have hc' := isAscii_iff.2 hlt
        exact ⟨hc', isUpper_of_kept hc' (h.kept c hmem)⟩
      · decide
      · exact isAsciiForm_of_isDigitChar hdigit

/-- No full stop is written for a label, so labels can be told apart. -/
theorem IsNormalLabel.fullStop_not_mem_asciiLabel {label : List Char} (h : IsNormalLabel label) :
    '.' ∉ asciiLabel label := by
  intro hmem
  unfold asciiLabel at hmem
  split at hmem
  · exact h.fullStop hmem
  · rcases List.mem_append.1 hmem with hmark | htext
    · exact absurd hmark (by decide)
    · rcases Punycode.mem_encode htext with ⟨hmem, -⟩ | heq | hdigit
      · exact h.fullStop hmem
      · exact absurd heq (by decide)
      · exact absurd hdigit (by decide)

/-! ## Labels -/

/-- A label that is too long stands for nothing. -/
theorem unicodeLabel?_eq_none {label : List Char} (h : isShort label = false) :
    unicodeLabel? label = none := by
  simp only [isShort, Bool.or_eq_false_iff, Bool.not_eq_false', decide_eq_false_iff_not] at h
  rw [unicodeLabel?, if_pos h.1, decodeLabel?, if_neg]
  rw [Bool.and_eq_true, decide_eq_true_eq]
  exact fun hlength => h.2 hlength.2

/-- The ASCII form of a label stands for what the label stands for. -/
theorem unicodeLabel?_asciiLabel {label unicode : List Char} (hnormal : IsNormalLabel label)
    (h : unicodeLabel? label = some unicode) (hvalid : isValidLabel unicode = true)
    (hshort : isShort (asciiLabel label) = true) :
    unicodeLabel? (asciiLabel label) = some unicode := by
  by_cases hascii : label.all isAscii = true
  · -- An ASCII label is written as it is.
    rwa [asciiLabel, if_pos hascii]
  · -- An encoded label is an ASCII label, so this one stands for itself.
    have hplain : isEncoded label = false := by
      rw [← Bool.not_eq_true]
      intro hencoded
      rw [unicodeLabel?, if_pos hencoded, decodeLabel?, if_neg (by simp [hascii])] at h
      cases h
    rw [unicodeLabel?, if_neg (by simp [hplain])] at h
    obtain rfl := Option.some.inj h
    have hlength : label.length ≤ maxDecodedLength := by
      simp only [isValidLabel, Bool.and_eq_true, Bool.or_eq_true, decide_eq_true_eq] at hvalid
      exact hvalid.2.resolve_left hascii
    have hkept : label.all isKept = true := by
      rw [List.all_eq_true]
      intro c hc
      rw [isKept, hnormal.kept c hc]
      rfl
    -- It is decoded to what it was, which is in normal form, kept, and no ASCII label.
    have hform := hnormal.isAsciiForm_asciiLabel
    rw [asciiLabel, if_neg hascii] at hshort hform ⊢
    have hall : (encodedMark ++ Punycode.encode label).all isAscii = true :=
      List.all_eq_true.2 fun c hc => (hform c hc).1
    have hencoded : isEncoded (encodedMark ++ Punycode.encode label) = true := by
      rw [isEncoded, List.isPrefixOf_iff_prefix]
      exact List.prefix_append _ _
    rw [isShort, hencoded, Bool.not_true, Bool.false_or, List.drop_left] at hshort
    rw [unicodeLabel?, if_pos hencoded, decodeLabel?, List.drop_left, hall, hshort]
    simp [Punycode.decode?_encode hlength, hascii, hkept, hnormal.nfc]

/-- The first of some valid labels are valid. -/
theorem areValid_of_append {us vs : List (List Char)} (h : areValid (us ++ vs) = true) :
    areValid us = true := by
  simp only [areValid, List.all_append, List.any_append, Bool.and_eq_true, Bool.or_eq_true,
    Bool.not_eq_true', Bool.or_eq_false_iff] at h ⊢
  exact ⟨h.1.1, h.2.imp And.left And.left⟩

/-- The ASCII forms of labels stand for what the labels stand for, if none of them is too long. -/
theorem mapM_unicodeLabel?_asciiLabel {ls unicode : List (List Char)}
    (hnormal : ∀ l ∈ ls, IsNormalLabel l) (h : ls.mapM unicodeLabel? = some unicode)
    (hvalid : areValid unicode = true) (hshort : (ls.map asciiLabel).all isShort = true) :
    (ls.map asciiLabel).mapM unicodeLabel? = some unicode := by
  have hall : ∀ u ∈ unicode, isValidLabel u = true :=
    List.all_eq_true.1 (Bool.and_eq_true_iff.1 hvalid).1
  refine List.mapM_map_eq_some h fun l hl u hu hstands => ?_
  exact unicodeLabel?_asciiLabel (hnormal l hl) hstands (hall u hu)
    (List.all_eq_true.1 hshort _ (List.mem_map_of_mem hl))

/-- One label that is too long and encoded has the whole name refused. -/
theorem mapM_unicodeLabel?_eq_none {ls : List (List Char)} (h : ¬ ls.all isShort = true) :
    ls.mapM unicodeLabel? = none := by
  rw [Option.eq_none_iff_forall_ne_some]
  intro unicode hunicode
  refine h (List.all_eq_true.2 fun l hl => ?_)
  obtain ⟨u, -, hu⟩ := List.exists_of_mapM_eq_some hunicode hl
  by_contra hlong
  rw [unicodeLabel?_eq_none (by simpa using hlong)] at hu
  cases hu

/-! ## Names -/

/-- An ASCII form is that of labels in normal form, which stand for valid ones. -/
theorem toAscii?_eq_some {s name : List Char} (h : toAscii? s = some name) :
    ∃ ls unicode : List (List Char), labels name = ls.map asciiLabel ∧ (∀ l ∈ ls, IsNormalLabel l) ∧
      ls.mapM unicodeLabel? = some unicode ∧ areValid unicode = true := by
  simp only [toAscii?, Option.bind_eq_bind, Option.bind_eq_some_iff] at h
  obtain ⟨mapped, hmapped, unicode, hunicode, h⟩ := h
  split at h
  · rename_i hvalid
    obtain rfl := Option.some.inj h
    -- The labels come from a text in normal form whose characters are all kept.
    have hnormal : ∀ l ∈ labels (nfc mapped), IsNormalLabel l := fun l hl => {
      nfc := nfc_of_mem_splitOn hl
      kept := fun c hc => kept_of_mem_nfc (kept_of_mem_mapHost hmapped) c
        ((List.isInfix_of_mem_splitOn hl).subset hc)
      fullStop := List.not_mem_of_mem_splitOn hl }
    refine ⟨labels (nfc mapped), unicode, ?_, hnormal, hunicode, hvalid⟩
    refine List.splitOn_intercalate '.' ?_ (by simp [labels])
    intro a ha
    obtain ⟨l, hl, rfl⟩ := List.mem_map.1 ha
    exact (hnormal l hl).fullStop_not_mem_asciiLabel
  · cases h

/-- A name whose labels are in ASCII form is itself in ASCII form. -/
theorem isAsciiForm_of_labels {s : List Char} (h : ∀ l ∈ labels s, IsAsciiForm l) :
    IsAsciiForm s := by
  intro c hc
  rw [← ofLabels_labels s] at hc
  rcases List.mem_or_exists_of_mem_intercalate hc with hdot | ⟨l, hl, hc⟩
  · rw [List.mem_singleton.1 hdot]
    decide
  · exact h l hl c hc

/-- A host name that was read is in ASCII form. -/
theorem isAsciiForm_of_toAscii? {s name : List Char} (h : toAscii? s = some name) :
    IsAsciiForm name := by
  obtain ⟨ls, -, hlabels, hnormal, -⟩ := toAscii?_eq_some h
  refine isAsciiForm_of_labels ?_
  rw [hlabels]
  exact List.forall_mem_map.2 fun l hl => (hnormal l hl).isAsciiForm_asciiLabel

/-- The first labels of an ASCII form are a domain name, which is its own ASCII form, if none of
    them is too long to be decoded. -/
theorem toAscii?_of_prefix {s name t : List Char} (h : toAscii? s = some name)
    (ht : labels t <+: labels name) :
    toAscii? t = if (labels t).all isShort then some t else none := by
  obtain ⟨ls, unicode, hlabels, hnormal, hunicode, hvalid⟩ := toAscii?_eq_some h
  rw [hlabels, List.prefix_map_iff] at ht
  obtain ⟨ks, ⟨rest, rfl⟩, hks⟩ := ht
  rw [List.forall_mem_append] at hnormal
  obtain ⟨us, hus, hrest⟩ := Option.bind_eq_some_iff.1 (List.mapM_append.symm.trans hunicode)
  obtain ⟨vs, -, happend⟩ := Option.bind_eq_some_iff.1 hrest
  obtain rfl := Option.some.inj happend
  have hform : ∀ l ∈ labels t, IsAsciiForm l := by
    rw [hks]
    exact List.forall_mem_map.2 fun l hl => (hnormal.1 l hl).isAsciiForm_asciiLabel
  have htext := isAsciiForm_of_labels hform
  have hascii : ∀ c ∈ t, isAscii c = true := fun c hc => (htext c hc).1
  rw [toAscii?_eq hascii, htext.map_toLower]
  split
  · -- All labels are short enough: they stand for what they stood for in the longer name.
    rename_i hshort
    have hvalid : areValid us = true := areValid_of_append hvalid
    have hstands : (labels t).mapM unicodeLabel? = some us := by
      rw [hks] at hshort ⊢
      exact mapM_unicodeLabel?_asciiLabel hnormal.1 hus hvalid hshort
    rw [hstands, Option.bind_some, map_asciiLabel_labels hascii, ofLabels_labels]
    exact if_pos hvalid
  · -- One label is too long, and the name is refused.
    rename_i hlong
    rw [mapM_unicodeLabel?_eq_none hlong, Option.bind_none]

/-! ## Plain names -/

/-- ASCII has no joiners to be in a wrong place. -/
theorem joinersInPlace_ascii {label : List Char} (h : ∀ c ∈ label, isAscii c = true)
    (before : List Char) : joinersInPlace before label = true := by
  induction label generalizing before with
  | nil => rfl
  | cons c label ih =>
    rw [List.forall_mem_cons] at h
    have hc : ¬ (c = nonJoiner ∨ c = joiner) := by
      rintro (rfl | rfl)
      · exact absurd h.1 (by decide)
      · exact absurd h.1 (by decide)
    simp only [joinersInPlace, if_neg hc, ih h.2, Bool.and_true]

/-- A label of ASCII is valid if no character of it is forbidden. -/
theorem isValidLabel_ascii {label : List Char} (h : ∀ c ∈ label, isAscii c = true)
    (hforbidden : ∀ c ∈ label, isForbidden c = false) : isValidLabel label = true := by
  have hmark : label.head?.any isMark = false := by
    cases label with
    | nil => rfl
    | cons c label =>
      have hc := isAscii_iff.1 (h c (by simp))
      simp [isMark, hc]
  have hall : label.all isAscii = true := List.all_eq_true.2 h
  have hnot : label.any isForbidden = false := by simpa using hforbidden
  rw [isValidLabel, hnot, hmark, joinersInPlace_ascii h, hall]
  rfl

/-- ASCII has no right-to-left text. -/
theorem hasRightToLeft_ascii {label : List Char} (h : ∀ c ∈ label, isAscii c = true) :
    hasRightToLeft label = false := by
  rw [hasRightToLeft, List.any_eq_false]
  intro c hc
  rw [BidiClass.of, if_pos (isAscii_iff.1 (h c hc)), BidiClass.ofAscii]
  split
  · decide
  · split
    · decide
    · split <;> decide

/-- A name without encoded labels and forbidden characters is its own ASCII form. -/
theorem toAscii?_of_not_isEncoded {s : List Char} (h : IsAsciiForm s)
    (hforbidden : ∀ c ∈ s, isForbidden c = false) (hplain : ∀ l ∈ labels s, isEncoded l = false) :
    toAscii? s = some s := by
  have hlabel : ∀ l ∈ labels s, ∀ c ∈ l, isAscii c = true ∧ isForbidden c = false := by
    intro l hl c hc
    have hmem := (List.isInfix_of_mem_splitOn hl).subset hc
    exact ⟨(h c hmem).1, hforbidden c hmem⟩
  -- Each label stands for itself.
  have hstands : (labels s).mapM unicodeLabel? = some (labels s) := by
    rw [List.mapM_eq_some_map (g := id) fun l hl => ?_, List.map_id]
    rw [unicodeLabel?, if_neg (by simp [hplain l hl]), id]
  -- ASCII labels without forbidden characters are valid.
  have hvalid : areValid (labels s) = true := by
    have hall : (labels s).all isValidLabel = true := List.all_eq_true.2 fun l hl =>
      isValidLabel_ascii (fun c hc => (hlabel l hl c hc).1) fun c hc => (hlabel l hl c hc).2
    have hnone : (labels s).any hasRightToLeft = false := by
      rw [List.any_eq_false]
      exact fun l hl => by simp [hasRightToLeft_ascii fun c hc => (hlabel l hl c hc).1]
    rw [areValid, hall, hnone]
    rfl
  have hascii : ∀ c ∈ s, isAscii c = true := fun c hc => (h c hc).1
  rw [toAscii?_eq hascii, h.map_toLower, hstands, Option.bind_some, map_asciiLabel_labels hascii,
    ofLabels_labels]
  exact if_pos hvalid

end HttpState.Url.DomainName
