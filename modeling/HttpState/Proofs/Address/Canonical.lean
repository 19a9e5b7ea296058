import HttpState.Proofs.Address.Form
import HttpState.Proofs.Address.Scheme
import HttpState.Proofs.Url.WrittenUrl

/-!
# Reading the text of an address

An address is written as a URL of its scheme, its host and its path, and that text should be read as
the same address. For most addresses it is. The host and the path of an address have been read and
resolved, and most of what is read and resolved once stays as it is. There are exceptions:

- a web host may be another one without the full stops that are taken from its end: nothing may be
  left of it, and what is left may look like an IPv4 address;
- encoding a label may make it too long to be decoded;
- in the path of a file, a tab or a line break behind a drive letter keeps the dot segment behind it
  from being resolved, and an empty segment in front of a drive letter, which is dropped afterwards,
  keeps it from standing for the host.

## Key definitions

- `IsCanonical`: an address without these exceptions

## Key results

- `parse_text_iff`: these are the addresses that are read from their own text
-/

namespace HttpState

open HttpState.Text

namespace Url

/-- A URL that has an address is that of a file, or of a network scheme. -/
theorem parse_cases {t : List Char} {u : Url} (h : parse t = .ok u) {channel : Channel}
    (hchannel : Channel.ofScheme? u.scheme = some channel) :
    (channel = .file ∧ ∃ host r, u = ofFile host (resolve true r) ∧
      ∀ v ∈ host, v.IsRead ∧ v ≠ .domain "localhost".toList) ∨
    (channel ≠ .file ∧ ∃ scheme host r,
      u = ⟨scheme, some host, renderPath (resolve false r).segments⟩ ∧ host.IsRead) := by
  simp only [parse] at h
  split at h
  · cases h
  · rename_i scheme rest hsplit
    split at h
    · -- A `file` address, whose host is missing or was read and is not `localhost`.
      obtain ⟨host, r, rfl, hhost⟩ := parseFile_eq_ok h
      left
      refine ⟨(Option.some.inj hchannel).symm, host, r, rfl, fun v hv => ?_⟩
      obtain ⟨⟨hostText, hparse⟩, hlocal⟩ := hhost v hv
      exact ⟨Host.isRead_of_parse hparse, hlocal⟩
    · rename_i hkind
      -- An address on the network, whose host was read and is never missing.
      obtain ⟨-, hostText, -, rest, host, -, -, hparse, rfl⟩ := parseNetwork_eq_ok h
      right
      refine ⟨?_, scheme, host, _, rfl, Host.isRead_of_parse hparse⟩
      rintro rfl
      rw [kind_of_ofScheme? hchannel] at hkind
      cases hkind
    · rename_i hkind
      -- Any other scheme names no channel.
      cases hcheck : checkOther rest with
      | error e => simp [hcheck, Except.map] at h
      | ok v =>
        obtain rfl := Except.ok.inj (hcheck ▸ h)
        rw [ofScheme?_of_other hkind] at hchannel
        cases hchannel

end Url

namespace Address

open HttpState.Url

/-- What is needed of an address to be read from its own text. -/
structure IsCanonical (a : Address) : Prop where
  /-- No encoded label is too long to be decoded. -/
  isShort : ∀ label ∈ DomainName.labels a.host.toList, DomainName.isShort label = true
  /-- There is a host, and if it has to be an IPv4 address, it is written as one. -/
  web : a.isFile = false → a.host ≠ "" ∧
    (Ipv4.isMeant a.host.toList = true → ∃ n < 0x100000000, a.host.toList = Ipv4.render n)
  /-- The path has no dot segments, and no drive letter that stands for the host. -/
  file : a.isFile = true →
    (∀ s ∈ segments (a.path.toList.drop 1), s.isDotSegment = false) ∧
      (a.host ≠ "" → ∀ s ∈ (segments (a.path.toList.drop 1)).head?, s.isDriveLetter = false)

/-! ## Addresses of URLs that have been read -/

/-- The host of an address of a file is that of its URL. -/
theorem hostText?_file {host : Option Host} {text : List Char}
    (hread : ∀ w ∈ host, w.IsRead) (h : hostText? .file host = some text) :
    text = (host.map Host.render).getD [] := by
  rw [hostText?, if_pos rfl] at h
  obtain rfl := Option.some.inj h
  cases host with
  | none => rfl
  | some w => exact (Host.isAsciiForm_render (hread w rfl)).map_toLower

/-- The host of a web address is that of its URL without full stops at its end. -/
theorem hostText?_web {channel : Channel} {w : Host} (hweb : channel ≠ .file) (hread : w.IsRead) :
    hostText? channel (some w) = some (dropEndWhile (· == '.') w.render) := by
  have hlower : (dropEndWhile (· == '.') w.render).map Char.toLower =
      dropEndWhile (· == '.') w.render :=
    IsLowerCase.map_toLower fun c hc =>
      (Host.isAsciiForm_render hread c ((List.rdropWhile_prefix _ _).subset hc)).2
  have hempty : w.render.isEmpty = false := by simpa using Host.render_ne_nil hread
  simp only [hostText?, if_neg hweb, Option.map_some, Option.getD_some, hempty, hlower]
  rfl

/-- Where a web address has its host and its path from. -/
theorem web_of_parse {raw host path : String} {channel : Channel}
    (h : parse raw = .ok ⟨host, path, channel⟩) (hweb : channel ≠ .file) :
    ∃ (w : Host) (s : List Char), w.IsRead ∧ dropEndWhile (· == '.') w.render = host.toList ∧
      path.toList = '/' :: s ∧ IsPathOfUrl s ∧ ∀ t ∈ segments s, t.isDotSegment = false := by
  obtain ⟨u, hu, ha⟩ := parse_eq_ok h
  obtain ⟨channel', text, hchannel, htext, heq⟩ := ofUrl_eq_ok ha
  cases heq
  rcases parse_cases hu hchannel with ⟨hfile, -⟩ | ⟨-, scheme, w, r, rfl, hread⟩
  · -- A `file` address is excluded.
    exact absurd hfile hweb
  · rw [hostText?_web hweb hread] at htext
    -- The path has been resolved, so it is written out of segments that are kept.
    have hclean : ∀ t ∈ (resolve false r).segments, t.IsClean := isClean_of_mem_resolve
    obtain ⟨s, hs, hpath, hsegments⟩ := exists_isPathOfUrl hclean
    refine ⟨w, s, hread, ?_, ?_, hpath, ?_⟩
    · rw [String.toList_ofList, Option.some.inj htext]
    · rw [String.toList_ofList, hs]
      rfl
    · rw [hsegments]
      split
      · exact List.forall_mem_singleton.2 rfl
      · exact isDotSegment_of_mem_resolve (by simp)

/-- Where an address of a file has its host and its path from. -/
theorem file_of_parse {raw host path : String} (h : parse raw = .ok ⟨host, path, .file⟩) :
    ∃ (v : Option Host) (s : List Char),
      (∀ w ∈ v, w.IsRead ∧ w ≠ .domain "localhost".toList) ∧
        host.toList = (v.map Host.render).getD [] ∧ path.toList = '/' :: s ∧ IsPathOfUrl s ∧
          dropEmpty (segments s) = segments s := by
  obtain ⟨u, hu, ha⟩ := parse_eq_ok h
  obtain ⟨channel', text, hchannel, htext, heq⟩ := ofUrl_eq_ok ha
  cases heq
  rcases parse_cases hu hchannel with ⟨-, v, r, rfl, hread⟩ | ⟨hweb, -⟩
  · -- The path of a file has lost its empty segments, so dropping them again changes nothing.
    have hclean : ∀ t ∈ dropEmpty (resolve true r).segments, t.IsClean := fun t ht =>
      isClean_of_mem_resolve t (mem_of_mem_dropEmpty ht)
    obtain ⟨s, hs, hpath, hsegments⟩ := exists_isPathOfUrl hclean
    have hhost : ∀ w ∈ (ofFile v (resolve true r)).host,
        w.IsRead ∧ w ≠ .domain "localhost".toList := by
      intro w hw
      simp only [ofFile] at hw
      -- A drive letter has taken the host away.
      split at hw
      · cases hw
      · exact hread w hw
    refine ⟨_, s, hhost, ?_, ?_, hpath, ?_⟩
    · rw [String.toList_ofList]
      exact hostText?_file (fun w hw => (hhost w hw).1) htext
    · rw [String.toList_ofList, show (ofFile v (resolve true r)).path = '/' :: s from hs]
      rfl
    · rw [hsegments]
      split
      · rfl
      · exact dropEmpty_idem _
  · exact absurd rfl hweb

/-! ## The text of an address -/

/-- The text of an address: its scheme, the mark, its host and its path. -/
theorem toList_text (a : Address) :
    a.text.toList =
      a.channel.scheme.toList ++ ':' :: '/' :: '/' :: (a.host.toList ++ a.path.toList) := by
  simp [text]

/-- The schemes of the three channels are made of letters. -/
theorem isAlpha_scheme (channel : Channel) : ∀ c ∈ channel.scheme.toList, c.isAlpha = true := by
  cases channel <;> exact List.all_eq_true.1 (by decide)

/-- Where host and path are visible, the text of an address is read as a URL as it stands. -/
theorem parse_text_of_visible {a : Address}
    (h : ∀ c ∈ a.host.toList ++ a.path.toList, isInvisible c = false) :
    (∀ e, Url.parse a.text.toList = .error e → parse a.text = .error (.malformed e)) ∧
      ∀ u, Url.parse a.text.toList = .ok u → parse a.text = ofUrl u := by
  -- Nothing is trimmed off, and the mark is found.
  have hvisible : ∀ c ∈ a.text.toList, isInvisible c = false := by
    rw [toList_text, List.forall_mem_append, List.forall_mem_cons, List.forall_mem_cons,
      List.forall_mem_cons]
    refine ⟨fun c hc => ?_, by decide, by decide, by decide, h⟩
    exact isInvisible_of_isAlphanum (isAlphanum_iff.2 (.inl (isAlpha_scheme a.channel c hc)))
  have htrim : trim a.text.toList = a.text.toList :=
    trimWhile_eq_self fun c hc => (Bool.or_eq_false_iff.1 (hvisible c hc)).1
  refine parse_of_mark htrim ?_ ?_
  · simp [toList_text]
  · rw [toList_text]
    exact ⟨a.channel.scheme.toList, a.host.toList ++ a.path.toList, by simp [schemeMark]⟩

/-! ### Web addresses -/

section Web

variable {host path : String} {channel : Channel} {w : Host} {s : List Char}
  (hweb : channel ≠ .file) (hread : w.IsRead)
  (hhost : dropEndWhile (· == '.') w.render = host.toList) (hpath : path.toList = '/' :: s)
  (hs : IsPathOfUrl s) (hdots : ∀ t ∈ segments s, t.isDotSegment = false)

include hread hhost hpath hs in
/-- The text of a network address has no space or control character behind its mark. -/
theorem isInvisible_web : ∀ c ∈ host.toList ++ path.toList, isInvisible c = false := by
  rw [hpath, List.forall_mem_append, ← hhost]
  exact ⟨fun c hc => (Host.of_mem_render hread ((List.rdropWhile_prefix _ _).subset hc)).1,
    hs.isInvisible⟩

include hweb in
/-- The scheme that a network address is written with is a network scheme of its own channel. -/
theorem kind_of_web : SchemeKind.of (channel.scheme.toList.map Char.toLower) = .network ∧
    Channel.ofScheme? (channel.scheme.toList.map Char.toLower) = some channel := by
  cases channel with
  | file => exact absurd rfl hweb
  | plain => decide
  | secure => decide

include hweb hread hhost hpath hs in
/-- The text of a network address is read as a network address: the authority starts with its
    host. -/
theorem parse_web_eq :
    Url.parse (text ⟨host, path, channel⟩).toList =
      parseNetwork (channel.scheme.toList.map Char.toLower)
        ('/' :: '/' :: (host.toList ++ '/' :: s)) := by
  have hvisible : ∀ c ∈ '/' :: '/' :: (host.toList ++ path.toList), isInvisible c = false :=
    List.forall_mem_cons.2 ⟨by decide, List.forall_mem_cons.2 ⟨by decide,
      isInvisible_web hread hhost hpath hs⟩⟩
  rw [toList_text, parse_network_of_visible hvisible (kind_of_web hweb).1, hpath]

include hweb hread hhost hpath hs hdots

/-- Without a host, the text is not read as the address. -/
theorem parse_web_no_host_ne (hnil : host = "") :
    parse (text ⟨host, path, channel⟩) ≠ .ok ⟨host, path, channel⟩ := by
  intro h
  have hvisible := isInvisible_web hread hhost hpath hs
  obtain ⟨herror, hok⟩ := parse_text_of_visible (a := ⟨host, path, channel⟩) hvisible
  have hurl := parse_web_eq hweb hread hhost hpath hs
  cases hparse : Url.parse (text ⟨host, path, channel⟩).toList with
  | error e =>
    -- The text is no address at all.
    rw [herror e hparse] at h
    cases h
  | ok u =>
    -- The text is an address, but of another path.
    rw [hok u hparse] at h
    -- The first segment of the path is taken for the host, so the path that is read is shorter.
    rw [hparse, hnil] at hurl
    obtain ⟨r, hr, hlength⟩ := parseNetwork_path hs hdots hurl.symm
    obtain ⟨channel', text, -, -, heq⟩ := ofUrl_eq_ok h
    cases heq
    rw [String.toList_ofList, hr] at hpath
    cases hpath
    exact absurd hlength (by simp)

/-- With a host, the text is read as the address if the host is read as one that is written like
    it. -/
theorem parse_web_iff (hne : host ≠ "") :
    parse (text ⟨host, path, channel⟩) = .ok ⟨host, path, channel⟩ ↔
      ∃ v, Host.parse host.toList = .ok v ∧
        dropEndWhile (· == '.') v.render = host.toList := by
  have hvisible := isInvisible_web hread hhost hpath hs
  obtain ⟨herror, hok⟩ := parse_text_of_visible (a := ⟨host, path, channel⟩) hvisible
  have hne' : host.toList ≠ [] := by simpa using hne
  have hurl := parse_web_eq hweb hread hhost hpath hs
  rw [parseNetwork_written hs (Host.standsForHost hread hhost hne') hdots] at hurl
  cases hparse : Host.parse host.toList with
  | error e =>
    -- Neither side holds: the host cannot be read.
    rw [hparse] at hurl
    rw [herror e hurl]
    simp
  | ok v =>
    -- The host is read as `v`, so all that is left to compare is its text.
    rw [hparse] at hurl
    have hpath' : String.ofList ('/' :: s) = path := by rw [← hpath, String.ofList_toList]
    rw [hok _ hurl]
    simp only [ofUrl, (kind_of_web hweb).2, hostText?_web hweb (Host.isRead_of_parse hparse),
      List.isEmpty_cons, Bool.false_eq_true, if_false, hpath', Except.ok.injEq, Address.mk.injEq,
      and_true, exists_eq_left']
    rw [← String.toList_inj, String.toList_ofList]

end Web

/-! ### Addresses of files -/

/-- The address of a `file` URL with the host `v` and the path `p`: a drive letter in the path takes
    the host away, and empty segments are dropped. -/
theorem ofUrl_ofFile {v : Option Host} (hread : ∀ w ∈ v, w.IsRead) (p : Resolution) :
    ofUrl (ofFile v p) =
      .ok ⟨String.ofList (if p.hasDrive then [] else (v.map Host.render).getD []),
        String.ofList (renderPath (dropEmpty p.segments)), .file⟩ := by
  have hlower : ((v.map Host.render).getD []).map Char.toLower = (v.map Host.render).getD [] := by
    cases v with
    | none => rfl
    | some w => exact (Host.isAsciiForm_render (hread w rfl)).map_toLower
  have hscheme : Channel.ofScheme? (ofFile v p).scheme = some .file := rfl
  have hpath : (ofFile v p).path.isEmpty = false := rfl
  simp only [ofUrl, hscheme, hostText?, if_true, hpath, Bool.false_eq_true, if_false]
  simp only [ofFile]
  cases p.hasDrive with
  | true => rfl
  | false => simp only [Bool.false_eq_true, if_false, hlower]

section File

variable {host path : String} {v : Option Host} {s : List Char}
  (hread : ∀ w ∈ v, w.IsRead ∧ w ≠ .domain "localhost".toList)
  (hhost : host.toList = (v.map Host.render).getD []) (hpath : path.toList = '/' :: s)
  (hs : IsPathOfUrl s)

include hread in
/-- What a `file` host is written with is visible and does not end the authority. -/
theorem of_mem_hostText_file {c : Char} (hc : c ∈ (v.map Host.render).getD []) :
    isInvisible c = false ∧ endsAuthority .file c = false := by
  cases v with
  | none => cases hc
  | some w =>
    obtain ⟨hvisible, hends, -⟩ := Host.of_mem_render (hread w rfl).1 hc
    exact ⟨hvisible, hends⟩

include hread hhost hpath hs

/-- Reading the text of a `file` address is reading its host and path behind two slashes. -/
theorem parse_file_eq :
    (∀ e, parseFile ('/' :: '/' :: (host.toList ++ '/' :: s)) = .error e →
      parse (text ⟨host, path, .file⟩) = .error (.malformed e)) ∧
      ∀ u, parseFile ('/' :: '/' :: (host.toList ++ '/' :: s)) = .ok u →
        parse (text ⟨host, path, .file⟩) = ofUrl u := by
  have hvisible : ∀ c ∈ host.toList ++ path.toList, isInvisible c = false := by
    rw [hpath, hhost, List.forall_mem_append]
    exact ⟨fun c hc => (of_mem_hostText_file hread hc).1, hs.isInvisible⟩
  -- The path behind the slashes is that of the address.
  have hurl : Url.parse (text ⟨host, path, .file⟩).toList =
      parseFile ('/' :: '/' :: (host.toList ++ '/' :: s)) := by
    have hrest : ∀ c ∈ '/' :: '/' :: (host.toList ++ path.toList), isInvisible c = false :=
      List.forall_mem_cons.2 ⟨by decide, List.forall_mem_cons.2 ⟨by decide, hvisible⟩⟩
    have hscheme : Channel.file.scheme.toList = ['f', 'i', 'l', 'e'] := by decide
    rw [toList_text, hscheme, parse_file_of_visible hrest, hpath]
  rw [← hurl]
  exact parse_text_of_visible (a := ⟨host, path, .file⟩) hvisible

variable (hempty : dropEmpty (segments s) = segments s)

include hempty

/-- Without a host, the text is read as the address if there are no dot segments in the path. -/
theorem parse_file_no_host_iff (hnone : v = none) :
    parse (text ⟨host, path, .file⟩) = .ok ⟨host, path, .file⟩ ↔
      ∀ t ∈ segments s, t.isDotSegment = false := by
  obtain ⟨-, hok⟩ := parse_file_eq hread hhost hpath hs
  subst hnone
  have hnil : host.toList = [] := hhost
  have hurl := @parseFile_written s hs [] (List.forall_mem_nil _) rfl
  rw [hnil] at hok
  rw [hok _ hurl, ofUrl_ofFile (fun w hw => by cases hw),
    ← hs.renderPath_dropEmpty_slash_iff hempty, ← hpath]
  simp [← String.toList_inj, hnil]

/-- With a host that is not too long, the text is read as the address if there are no dot segments
    in the path and no drive letter in front of it. -/
theorem parse_file_host_iff {w : Host} (hsome : v = some w) :
    parse (text ⟨host, path, .file⟩) = .ok ⟨host, path, .file⟩ ↔
      (DomainName.labels host.toList).all DomainName.isShort = true ∧
        (∀ t ∈ segments s, t.isDotSegment = false) ∧
          ∀ t ∈ (segments s).head?, t.isDriveLetter = false := by
  obtain ⟨herror, hok⟩ := parse_file_eq hread hhost hpath hs
  subst hsome
  obtain ⟨hw, hlocal⟩ := hread w rfl
  have hrender : host.toList = w.render := hhost
  have hne : w.render.isEmpty = false := by simpa using Host.render_ne_nil hw
  have hchars : ∀ c ∈ w.render, isInvisible c = false ∧ endsAuthority .file c = false :=
    fun c hc => of_mem_hostText_file hread hc
  have hurl := parseFile_written hs hchars (Host.isDriveLetter_render hw)
  rw [if_neg (by simp [hne]), Host.parse_render hw] at hurl
  rw [hrender] at herror hok ⊢
  cases hshort : (DomainName.labels w.render).all DomainName.isShort with
  | false =>
    -- A label of the host is too long, so the text is refused.
    rw [hshort] at hurl
    rw [herror _ hurl]
    simp
  | true =>
    -- The host is read back as it is, and what is left is the path.
    rw [hshort] at hurl
    simp only [if_true, Except.map, if_neg hlocal] at hurl
    rw [hok _ hurl, ofUrl_ofFile (fun v hv => Option.some.inj hv ▸ hw),
      ← hs.renderPath_dropEmpty_iff hempty, ← hpath]
    -- The host is dropped exactly if a drive letter stands for it.
    have hdrive : (if (resolve true s).hasDrive then [] else w.render) = w.render ↔
        (resolve true s).hasDrive = false := by
      cases (resolve true s).hasDrive with
      | false => simp
      | true => simpa using (Host.render_ne_nil hw).symm
    simp only [Option.map_some, Option.getD_some, Except.ok.injEq, Address.mk.injEq, and_true,
      true_and, ← String.toList_inj, String.toList_ofList, hrender, hdrive]

end File

/-! ## Which addresses are read from their own text -/

/-- A `file` address is read back from its text exactly if it is canonical. -/
theorem parse_text_iff_of_file {raw host path : String} (h : parse raw = .ok ⟨host, path, .file⟩) :
    parse (text ⟨host, path, .file⟩) = .ok ⟨host, path, .file⟩ ↔
      IsCanonical ⟨host, path, .file⟩ := by
  obtain ⟨v, s, hread, hhost, hpath, hs, hempty⟩ := file_of_parse h
  have hdrop : path.toList.drop 1 = s := by rw [hpath, List.drop_succ_cons, List.drop_zero]
  cases v with
  | none =>
    -- Without a host only the dot segments of the path matter.
    rw [parse_file_no_host_iff hread hhost hpath hs hempty rfl]
    obtain rfl : host = "" := String.toList_eq_nil_iff.1 hhost
    constructor
    · intro hdots
      refine ⟨List.all_eq_true.1 rfl, nofun, fun _ => ⟨?_, fun hne => absurd rfl hne⟩⟩
      rwa [hdrop]
    · intro ha
      rw [← hdrop]
      exact (ha.file rfl).1
  | some w =>
    -- With a host its labels and the first segment of the path matter too.
    have hne : host ≠ "" := by
      rw [Ne, ← String.toList_eq_nil_iff, hhost]
      exact Host.render_ne_nil (hread w rfl).1
    rw [parse_file_host_iff hread hhost hpath hs hempty rfl]
    constructor
    · rintro ⟨hshort, hdots, hdrive⟩
      refine ⟨List.all_eq_true.1 hshort, nofun, fun _ => ?_⟩
      rw [hdrop]
      exact ⟨hdots, fun _ => hdrive⟩
    · intro ha
      obtain ⟨hdots, hdrive⟩ := ha.file rfl
      rw [hdrop] at hdots hdrive
      exact ⟨List.all_eq_true.2 ha.isShort, hdots, hdrive hne⟩

/-- An address on the network is read back from its text exactly if it is canonical. -/
theorem parse_text_iff_of_web {raw host path : String} {channel : Channel}
    (h : parse raw = .ok ⟨host, path, channel⟩) (hweb : channel ≠ .file) :
    parse (text ⟨host, path, channel⟩) = .ok ⟨host, path, channel⟩ ↔
      IsCanonical ⟨host, path, channel⟩ := by
  obtain ⟨w, s, hread, hhost, hpath, hs, hdots⟩ := web_of_parse h hweb
  have hisFile : isFile ⟨host, path, channel⟩ = false := by simpa [isFile] using hweb
  -- Nothing may be left of a host of full stops.
  by_cases hne : host = ""
  · exact iff_of_false (parse_web_no_host_ne hweb hread hhost hpath hs hdots hne) fun ha =>
      (ha.web hisFile).1 hne
  · rw [parse_web_iff hweb hread hhost hpath hs hdots hne, Host.exists_parse_iff hread hhost]
    constructor
    · rintro ⟨-, hshort, hmeant⟩
      refine ⟨List.all_eq_true.1 hshort, fun _ => ⟨hne, hmeant⟩, fun hfile => ?_⟩
      rw [hisFile] at hfile
      cases hfile
    · intro ha
      refine ⟨?_, List.all_eq_true.2 ha.isShort, (ha.web hisFile).2⟩
      rwa [Ne, String.toList_eq_nil_iff]

/-- The text of an address is read as this address exactly if the address is canonical: it is not,
    if the host has a label that is too long to be decoded, if a web address has no host or one that
    would be another one as an IPv4 address, and if the path of a file has a dot segment, or begins
    with a drive letter although there is a host. -/
theorem parse_text_iff {raw : String} {a : Address} (h : parse raw = .ok a) :
    parse a.text = .ok a ↔ a.IsCanonical := by
  obtain ⟨host, path, channel⟩ := a
  by_cases hfile : channel = .file
  · subst hfile
    exact parse_text_iff_of_file h
  · exact parse_text_iff_of_web h hfile

/-- A canonical address: port, full stop, dot segment and query are gone, and the rest is read
    back. -/
theorem parse_text_example :
    parse "HTTP://Example.com.:80/a/../b?c" = .ok ⟨"example.com", "/b", .plain⟩ ∧
      parse (text ⟨"example.com", "/b", .plain⟩) = .ok ⟨"example.com", "/b", .plain⟩ := by
  have h : parse "HTTP://Example.com.:80/a/../b?c" = .ok ⟨"example.com", "/b", .plain⟩ := by
    decide +kernel
  have hcanonical : IsCanonical ⟨"example.com", "/b", .plain⟩ :=
    ⟨by decide +kernel, fun _ => ⟨by decide, fun hmeant => absurd hmeant (by decide +kernel)⟩,
      nofun⟩
  exact ⟨h, (parse_text_iff h).2 hcanonical⟩

/-- What is left of a name without the full stops at its end is read as an IPv4 address. -/
theorem parse_text_not_canonical :
    parse "http://1.2../" = .ok ⟨"1.2", "/", .plain⟩ ∧
      parse (text ⟨"1.2", "/", .plain⟩) = .ok ⟨"1.0.0.2", "/", .plain⟩ := by
  decide +kernel

end Address

end HttpState
