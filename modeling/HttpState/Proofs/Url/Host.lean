import HttpState.Proofs.List
import HttpState.Proofs.Text.Utf8
import HttpState.Url.Host

/-!
# Written forms of a host

The letter case of a host makes no difference, in its escapes as little as in its letters. A full
stop behind a host of letters, digits, hyphens and full stops leaves an IPv4 address as it is, and
is kept behind a domain name.

## Key results

- `Host.parse_congr`: hosts that differ in letter case only are the same
- `Host.parse_fullStop`: a host with a full stop behind it
-/

namespace HttpState.Url

open HttpState.Text

/-! ## Letter case -/

/-- Bytes stand for a text exactly if they are its encoding. -/
theorem utf8?_eq_some_iff {bs : List UInt8} {s : List Char} : utf8? bs = some s ↔ utf8 s = bs := by
  unfold utf8? String.fromUTF8?
  constructor
  · intro h
    split at h
    · rename_i hvalid
      rw [Option.map_some, Option.some.injEq] at h
      rw [← h, utf8_toList]
      simp [String.toUTF8, String.fromUTF8]
    · exact nomatch h
  · rintro rfl
    have hencode : (utf8 s).toByteArray = s.utf8Encode := rfl
    rw [dif_pos (.intro s hencode), Option.map_some, Option.some.injEq]
    refine String.ofList_injective ?_
    rw [String.ofList_toList, ← String.toByteArray_inj, String.toByteArray_ofList]
    rfl

/-- Hexadecimal digits have no letter case. -/
theorem hexDigit?_toLower (c : Char) : hexDigit? c.toLower = hexDigit? c := by
  by_cases hc : c.isUpper = true
  · have hbounds := isUpper_iff.1 hc
    have hle : ∀ a b : Char, a ≤ b ↔ a.toNat ≤ b.toNat := fun _ _ => Iff.rfl
    simp only [hexDigit?, hle, toNat_toLower, if_pos hbounds, Char.reduceToNat]
    split_ifs
    all_goals first
      | omega
      | exact congrArg some (by omega)
      | trivial
  · rw [Unicode.toLower_of_not_isUpper (by simpa using hc)]

/-- A per cent sign that begins no escape stands for itself. -/
theorem unescape_of_not_hex {a b : Char} {s : List Char}
    (hnot : ∀ m n, hexDigit? a = some m → hexDigit? b = some n → False) :
    unescape ('%' :: a :: b :: s) = 37 :: unescape (a :: b :: s) := by
  rw [unescape.eq_2]
  split
  · rename_i m n ha hb
    exact (hnot m n ha hb).elim
  · rfl

/-- Escapes are undone in any letter case. -/
theorem map_lowerByte_unescape (s : List Char) :
    (unescape (s.map Char.toLower)).map lowerByte = (unescape s).map lowerByte := by
  induction s using unescape.induct with
  | case1 => rfl
  | case2 a b s m n hb ha ih =>
    -- An escape: its digits have the same value in lower case.
    simp only [List.map_cons, show Char.toLower '%' = '%' by decide, unescape, hexDigit?_toLower,
      ha, hb, ih]
  | case3 a b s hnot ih =>
    -- A `%` that no two digits follow is kept, before and after.
    have hlower : ∀ m n, hexDigit? a.toLower = some m → hexDigit? b.toLower = some n → False := by
      simpa only [hexDigit?_toLower] using hnot
    simp only [List.map_cons, show Char.toLower '%' = '%' by decide] at ih ⊢
    rw [unescape_of_not_hex hlower, unescape_of_not_hex hnot, List.map_cons, List.map_cons, ih]
  | case4 c s hnot ih =>
    -- Any other character.
    have hlower : ∀ a b r, c.toLower = '%' → s.map Char.toLower = a :: b :: r → False := by
      intro a b r hc hs
      obtain ⟨a', s', rfl, -, hs⟩ := List.map_eq_cons_iff.1 hs
      obtain ⟨b', s', rfl, -, -⟩ := List.map_eq_cons_iff.1 hs
      exact hnot a' b' s' (eq_of_toLower_eq (by decide) hc) rfl
    rw [List.map_cons, unescape.eq_3 c.toLower _ hlower, unescape.eq_3 c s hnot, List.map_append,
      List.map_append, ih, map_lowerByte_utf8EncodeChar, map_lowerByte_utf8EncodeChar,
      Unicode.toLower_of_not_isUpper (isUpper_toLower c)]

/-- The ASCII form of the name that a host is, if it is one. -/
def Host.name? (s : List Char) : Option (List Char) :=
  (utf8? (unescape s)).bind DomainName.toAscii?

/-- The mapping of hosts does not tell letter case apart. -/
theorem mapHost_toLower (s : List Char) :
    Unicode.mapHost (s.map Char.toLower) = Unicode.mapHost s := by
  induction s with
  | nil => rfl
  | cons c s ih =>
    rw [List.map_cons]
    -- An upper-case letter is mapped to the lower-case one, which stays.
    by_cases hc : c.isUpper = true
    · have hascii : Unicode.isAscii c = true := by
        have hbounds := isUpper_iff.1 hc
        simp only [Unicode.isAscii, decide_eq_true_eq]
        omega
      have hascii' : Unicode.isAscii c.toLower = true := by
        have hbounds := isUpper_iff.1 hc
        simp only [Unicode.isAscii, decide_eq_true_eq, toNat_toLower, if_pos hbounds]
        omega
      simp [Unicode.mapHost, Unicode.hostMapping, hascii, hascii', hc, isUpper_toLower c, ih]
    · rw [Unicode.toLower_of_not_isUpper (by simpa using hc), Unicode.mapHost, Unicode.mapHost, ih]

namespace Host

/-- If a host can be decoded, one that differs from it in letter case has the same name. -/
theorem name?_eq_of_eq_some {s t u : List Char}
    (h : s.map Char.toLower = t.map Char.toLower) (hu : utf8? (unescape s) = some u) :
    name? t = name? s := by
  have hbytes : (unescape t).map lowerByte = utf8 (u.map Char.toLower) := by
    rw [← map_lowerByte_unescape, ← h, map_lowerByte_unescape, ← utf8?_eq_some_iff.1 hu,
      map_lowerByte_utf8]
  obtain ⟨v, hv, hvu⟩ := exists_utf8_eq hbytes
  rw [name?, name?, hu, utf8?_eq_some_iff.2 hv, Option.bind_some, Option.bind_some,
    DomainName.toAscii?, DomainName.toAscii?, ← mapHost_toLower, hvu, mapHost_toLower]

/-- The name that a host is does not depend on letter case. -/
theorem name?_congr {s t : List Char} (h : s.map Char.toLower = t.map Char.toLower) :
    name? s = name? t := by
  cases hs : utf8? (unescape s) with
  | some u => exact (name?_eq_of_eq_some h hs).symm
  | none =>
    cases ht : utf8? (unescape t) with
    | some u => exact name?_eq_of_eq_some h.symm ht
    | none => rw [name?, name?, hs, ht]

/-- A host that is not in brackets is a name. -/
theorem parse_of_head? {s : List Char} (h : s.head? ≠ some '[') :
    parse s = (name? s).elim (.error .invalidDomainName) ofName := by
  unfold parse
  split
  · exact absurd rfl h
  · rw [name?]
    cases (utf8? (unescape s)).bind DomainName.toAscii? <;> rfl

/-- Letter case does not make a bracket of another character. -/
theorem head?_ne_of_toLower {s t : List Char} (h : s.map Char.toLower = t.map Char.toLower)
    (hs : s.head? ≠ some '[') : t.head? ≠ some '[' := by
  intro ht
  have hhead : s.head?.map Char.toLower = some '[' := by
    rw [← List.head?_map, h, List.head?_map, ht]
    rfl
  obtain ⟨c, hc, hlower⟩ := Option.map_eq_some_iff.1 hhead
  exact hs (by rw [hc, eq_of_toLower_eq (by decide) hlower])

/-- Hosts that differ in letter case only are the same. -/
theorem parse_congr {s t : List Char} (h : s.map Char.toLower = t.map Char.toLower)
    (hs : s.head? ≠ some '[') : parse s = parse t := by
  rw [parse_of_head? hs, parse_of_head? (head?_ne_of_toLower h hs), name?_congr h]

end Host

/-! ## A full stop at the end -/

namespace DomainName

open HttpState.Unicode

/-- ASCII stays ASCII in lower case. -/
theorem isAscii_toLower {c : Char} (h : isAscii c = true) : isAscii c.toLower = true := by
  simp only [isAscii, decide_eq_true_eq, toNat_toLower] at h ⊢
  split <;> omega

/-- The ASCII form of an ASCII name, of its labels. -/
theorem toAscii?_eq {s : List Char} (h : ∀ c ∈ s, isAscii c = true) :
    toAscii? s = ((labels (s.map Char.toLower)).mapM unicodeLabel?).bind fun unicode =>
      if unicode.all isValidLabel && (!unicode.any hasRightToLeft || unicode.all keepsDirection)
      then some (ofLabels ((labels (s.map Char.toLower)).map asciiLabel)) else none := by
  have hlower : ∀ c ∈ s.map Char.toLower, isAscii c = true :=
    List.forall_mem_map.2 fun c hc => isAscii_toLower (h c hc)
  rw [toAscii?, mapHost_ascii h, Option.bind_eq_bind, Option.bind_some, nfc_ascii hlower]
  rfl

/-- A name is made up of its labels. -/
theorem ofLabels_labels (name : List Char) : ofLabels (labels name) = name :=
  List.intercalate_splitOn '.'

/-- ASCII labels stay as they are. -/
theorem map_asciiLabel_labels {s : List Char} (h : ∀ c ∈ s, isAscii c = true) :
    (labels s).map asciiLabel = labels s := by
  refine (List.map_congr_left fun label hlabel => ?_).trans (List.map_id' _)
  rw [asciiLabel, if_pos]
  rw [List.all_eq_true]
  exact fun c hc => h c ((List.isInfix_of_mem_splitOn hlabel).subset hc)

/-- The ASCII form of an ASCII name is the name in lower case. -/
theorem eq_map_toLower_of_toAscii? {s name : List Char} (h : ∀ c ∈ s, isAscii c = true)
    (hname : toAscii? s = some name) : name = s.map Char.toLower := by
  have hlower : ∀ c ∈ s.map Char.toLower, isAscii c = true :=
    List.forall_mem_map.2 fun c hc => isAscii_toLower (h c hc)
  rw [toAscii?_eq h, map_asciiLabel_labels hlower] at hname
  obtain ⟨unicode, -, hname⟩ := Option.bind_eq_some_iff.1 hname
  split at hname
  · rw [← Option.some.inj hname, ofLabels_labels]
  · exact nomatch hname

/-- A full stop at the end of a name ends an empty label, which is valid and stays empty. -/
theorem toAscii?_fullStop {s : List Char} (h : ∀ c ∈ s, isAscii c = true) :
    toAscii? (s ++ ['.']) = (toAscii? s).map (· ++ ['.']) := by
  have hdot : ∀ c ∈ s ++ ['.'], isAscii c = true :=
    List.forall_mem_append.2 ⟨h, List.forall_mem_singleton.2 rfl⟩
  have hlabels : labels ((s ++ ['.']).map Char.toLower) = labels (s.map Char.toLower) ++ [[]] := by
    rw [List.map_append]
    exact List.splitOn_append_cons_self (s.map Char.toLower) [] (a := '.')
  have hne : (labels (s.map Char.toLower)).map asciiLabel ≠ [] := by
    simp [labels]
  rw [toAscii?_eq h, toAscii?_eq hdot, hlabels, List.mapM_append]
  cases (labels (s.map Char.toLower)).mapM unicodeLabel? with
  | none => rfl
  | some unicode =>
    -- The empty label behind the full stop passes every check.
    simp only [List.mapM_cons, List.mapM_nil, show unicodeLabel? [] = some [] from rfl,
      Option.pure_def, Option.bind_eq_bind, Option.bind_some, List.all_append, List.any_append,
      List.all_cons, List.all_nil, List.any_cons, List.any_nil, show isValidLabel [] = true from rfl,
      show hasRightToLeft [] = false from rfl, show keepsDirection [] = true from rfl,
      Bool.and_true, Bool.or_false, List.map_append, List.map_cons, List.map_nil,
      show asciiLabel [] = [] from rfl, ofLabels, List.intercalate_append_singleton hne,
      List.append_nil]
    split <;> rfl

end DomainName

/-- A name that ends in a full stop has the parts that it has without it. -/
theorem Ipv4.parts_fullStop {name : List Char} (hne : name ≠ [])
    (hlast : name.getLast? ≠ some '.') : parts (name ++ ['.']) = parts name := by
  have hsplit : (name ++ ['.']).splitOn '.' = name.splitOn '.' ++ [[]] :=
    List.splitOn_append_cons_self name [] (a := '.')
  -- The last part is not empty, as the name does not end with a full stop.
  have hnot : (name.splitOn '.').getLast? ≠ some [] := by
    intro hnil
    obtain ⟨front, hfront⟩ := List.getLast?_eq_some_iff.1 hnil
    have hname : ['.'].intercalate (name.splitOn '.') = name := List.intercalate_splitOn '.'
    rw [hfront] at hname
    by_cases hempty : front = []
    · exact hne (by simp [← hname, hempty])
    · rw [List.intercalate_append_singleton hempty] at hname
      exact hlast (by simp [← hname])
  simp only [parts]
  rw [hsplit, if_pos (by simp), if_neg hnot, List.dropLast_concat]

namespace Host

/-- A host with a full stop behind it, which is lost if the host is an address. -/
def withFullStop : Host → Host
  | .domain name => .domain (name ++ ['.'])
  | h => h

/-- A full stop behind a name changes neither what it means nor whether it is read, only its
    text. -/
theorem ofName_fullStop {name : List Char} (hne : name ≠ []) (hlast : name.getLast? ≠ some '.') :
    ofName (name ++ ['.']) = (ofName name).map withFullStop := by
  have hmeant : Ipv4.isMeant (name ++ ['.']) = Ipv4.isMeant name := by
    rw [Ipv4.isMeant, Ipv4.isMeant, Ipv4.parts_fullStop hne hlast]
  have haddress : Ipv4.ofHost? (name ++ ['.']) = Ipv4.ofHost? name := by
    rw [Ipv4.ofHost?, Ipv4.ofHost?, Ipv4.parts_fullStop hne hlast]
  have hempty : name.isEmpty = false := by simpa using hne
  have hempty' : (name ++ ['.']).isEmpty = false := by simp
  rw [ofName, ofName, hempty, hempty', hmeant, haddress]
  cases Ipv4.isMeant name with
  | false => rfl
  | true => cases Ipv4.ofHost? name <;> rfl

/-- Whether a character stands for itself in a host: letters, digits, hyphens and full stops. -/
def isPlainChar (c : Char) : Bool := c.isAlphanum || c == '-' || c == '.'

/-- Plain characters are ASCII. -/
theorem isAscii_of_isPlain {c : Char} (h : isPlainChar c = true) : Unicode.isAscii c = true := by
  simp only [isPlainChar, Bool.or_eq_true, isAlphanum_iff, isAlpha_iff, isUpper_iff, isLower_iff,
    isDigit_iff, beq_iff_eq] at h
  rw [Unicode.isAscii, decide_eq_true_eq]
  rcases h with ((((h | h) | h) | rfl) | rfl)
  · omega
  · omega
  · omega
  · decide
  · decide

/-- Without `%`, unescaping gives the bytes of the text. -/
theorem unescape_eq_utf8 {s : List Char} (h : '%' ∉ s) : unescape s = utf8 s := by
  induction s with
  | nil => rfl
  | cons c s ih =>
    rw [List.mem_cons, not_or] at h
    rw [unescape.eq_3 c s fun _ _ _ hpercent => absurd hpercent.symm h.1, utf8_cons, ih h.2]

/-- A host without escapes is a name as it stands. -/
theorem name?_eq_toAscii? {s : List Char} (h : '%' ∉ s) : name? s = DomainName.toAscii? s := by
  rw [name?, unescape_eq_utf8 h, utf8?_eq_some_iff.2 rfl, Option.bind_some]

/-- A full stop behind a host is kept behind a domain name and lost behind an address. -/
theorem parse_fullStop {s : List Char} (hplain : ∀ c ∈ s, isPlainChar c = true) (hne : s ≠ [])
    (hlast : s.getLast? ≠ some '.') : parse (s ++ ['.']) = (parse s).map withFullStop := by
  have hdot : ∀ c ∈ s ++ ['.'], isPlainChar c = true :=
    List.forall_mem_append.2 ⟨hplain, List.forall_mem_singleton.2 rfl⟩
  have hhead : ∀ {t : List Char}, (∀ c ∈ t, isPlainChar c = true) → t.head? ≠ some '[' := by
    intro t ht hbracket
    exact absurd (ht '[' (List.mem_of_head? hbracket)) (by decide)
  have hascii : ∀ c ∈ s, Unicode.isAscii c = true := fun c hc => isAscii_of_isPlain (hplain c hc)
  have hpercent : ∀ {t : List Char}, (∀ c ∈ t, isPlainChar c = true) → '%' ∉ t :=
    fun ht hmem => absurd (ht '%' hmem) (by decide)
  rw [parse_of_head? (hhead hdot), parse_of_head? (hhead hplain),
    name?_eq_toAscii? (hpercent hdot), name?_eq_toAscii? (hpercent hplain),
    DomainName.toAscii?_fullStop hascii]
  cases hname : DomainName.toAscii? s with
  | none => rfl
  | some name =>
    have hlower := DomainName.eq_map_toLower_of_toAscii? hascii hname
    -- The name is not empty, and neither is it with the full stop.
    refine ofName_fullStop ?_ ?_
    · rw [hlower]
      simpa using hne
    · rw [hlower, List.getLast?_map]
      intro hend
      obtain ⟨c, hc, hcdot⟩ := Option.map_eq_some_iff.1 hend
      exact hlast (by rw [hc, eq_of_toLower_eq (by decide) hcdot])

end Host

end HttpState.Url
