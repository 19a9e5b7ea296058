import HttpState.Proofs.Cookie.File
import HttpState.Proofs.Storage.Store

/-!
# Files in another version of the format

The version of a file is looked at after the whole file was read as a record of the version that is
known. So a file in another version is recognised as one only if all of it, and not only its
version, could as well be a file in the known version.

## Key definitions

- `Json.valuesOf`: the values of the members of a name
- `CookieFile.IsRecord`: objects that can be read as a version and a list of cookies

## Key results

- `CookieFile.exists_ofJson?_iff`: which objects can be read
- `Store.load_unknown_version`: what is read of a file in another version
-/

namespace HttpState

open Text (isBlank)
open Storage (Path Content Directory)

namespace Json

variable {ms : List (Option (List Char) × Json)}

/-! ## Members -/

/-- The values of the members of an object that have this name. -/
def valuesOf (name : String) (ms : List (Option (List Char) × Json)) : List Json :=
  (ms.filter fun m => m.1 == some name.toList).map (·.2)

/-- The value of a member is one of the values of its name. -/
theorem mem_valuesOf {name : String} {j : Json} (h : (some name.toList, j) ∈ ms) :
    j ∈ valuesOf name ms :=
  List.mem_map.2 ⟨_, List.mem_filter.2 ⟨h, by simp⟩, rfl⟩

/-- What is found for a name is the first of its values. -/
theorem member?_eq_head? (name : String) : member? name.toList ms = (valuesOf name ms).head? := by
  rw [member?, valuesOf, List.head?_map, List.head?_filter]

/-- The fields of an object can be read if all names are texts and none of the fields is there
    twice. -/
theorem fields?_object_eq_some_iff {names : List String} {vs : List (Option Json)} :
    (Json.object ms).fields? (names.map String.toList) = some vs ↔
      (∀ m ∈ ms, m.1.isSome = true) ∧ (∀ n ∈ names, (valuesOf n ms).length ≤ 1) ∧
        vs = names.map fun n => (valuesOf n ms).head? := by
  simp only [fields?, Option.ite_none_right_eq_some, Bool.and_eq_true, List.all_eq_true,
    List.forall_mem_map, decide_eq_true_eq, Option.some.injEq, List.map_map, Function.comp_def,
    member?_eq_head?, valuesOf, List.length_map, and_assoc, eq_comm (a := vs)]

/-- A text that is read as an object has a brace in it. -/
theorem mem_of_readValue_object {n : Nat} {s r : List Char}
    (h : readValue n s = some (.object ms, r)) : '\x7b' ∈ s := by
  cases n with
  | zero => cases h
  | succ n =>
    -- What is left after the white space is a part of the text.
    have hsub : ∀ {c : Char} {r : List Char}, skipSpace s = c :: r → c ∈ s := by
      intro c r hskip
      apply (List.dropWhile_suffix isSpace).subset
      rw [skipSpace] at hskip
      rw [hskip]
      exact List.mem_cons_self
    rw [readValue] at h
    -- A text that is read as an object begins with a brace; every other case gives another value.
    split at h
    case h_6 hskip => exact hsub hskip
    case h_5 =>
      split at h
      · cases h
      · obtain ⟨_, _, h⟩ := Option.map_eq_some_iff.1 h
        cases h
    all_goals
      obtain ⟨_, _, h⟩ := Option.map_eq_some_iff.1 h
      cases h

/-- A text that is read as an object is not blank. -/
theorem not_all_isBlank_of_parse?_object {s : List Char} (h : parse? s = some (.object ms)) :
    s.all isBlank = false := by
  unfold parse? at h
  split at h
  · rename_i hread
    obtain ⟨_, h⟩ := Option.ite_none_right_eq_some.1 h
    cases h
    rw [List.all_eq_false]
    exact ⟨_, mem_of_readValue_object hread, by decide⟩
  · cases h

end Json

namespace CookieFile

open Json (valuesOf)

variable {ms : List (Option (List Char) × Json)}

/-! ## Records of files -/

/-- The members of an object can be read as a version and a list of cookies: their names are texts,
    one member is the version, one is an array, and each of its items can be read as a cookie. -/
structure IsRecord (ms : List (Option (List Char) × Json)) : Prop where
  names : ∀ m ∈ ms, m.1.isSome = true
  version : ∃ j, valuesOf "version" ms = [j]
  cookies : ∃ items, valuesOf "cookies" ms = [.array items] ∧
    ∀ j ∈ items, ∃ c, Cookie.ofJson? j = some c

/-- A value is read item by item if it is an array whose items can all be read. -/
theorem exists_items?_iff {j : Json} :
    (∃ cs, j.items? Cookie.ofJson? = some cs) ↔
      ∃ items, j = .array items ∧ ∀ i ∈ items, ∃ c, Cookie.ofJson? i = some c := by
  cases j with
  | array items => simp only [Json.items?, List.exists_mapM_eq_some_iff, Json.array.injEq,
      exists_eq_left']
  | _ => simp [Json.items?]

/-- A list of at most one element that begins with some element is that element. -/
theorem length_le_one_and_head?_iff {α : Type} {l : List α} {x : α} :
    l.length ≤ 1 ∧ l.head? = some x ↔ l = [x] := by
  rcases l with _ | ⟨y, _ | ⟨z, l⟩⟩ <;> simp

/-- What an object is read as. -/
theorem ofJson?_object_eq_some_iff {n : Nat} {cs : List Cookie} :
    ofJson? (.object ms) = some (n, cs) ↔
      (∀ m ∈ ms, m.1.isSome = true) ∧
        (∃ v, valuesOf "version" ms = [v] ∧ v.natBelow? 0x100000000 = some n) ∧
        ∃ j, valuesOf "cookies" ms = [j] ∧ j.items? Cookie.ofJson? = some cs := by
  -- Both names occur at most once, and each of them does occur.
  have hfields : ∀ v j,
      (Json.object ms).fields? ["version".toList, "cookies".toList] = some [some v, some j] ↔
        (∀ m ∈ ms, m.1.isSome = true) ∧ valuesOf "version" ms = [v] ∧
          valuesOf "cookies" ms = [j] := by
    intro v j
    have h := @Json.fields?_object_eq_some_iff ms ["version", "cookies"] [some v, some j]
    simp only [List.map_cons, List.map_nil, List.forall_mem_cons, List.not_mem_nil, false_imp_iff,
      implies_true, and_true, List.cons.injEq] at h
    rw [h, ← length_le_one_and_head?_iff, ← length_le_one_and_head?_iff (x := j)]
    constructor
    · rintro ⟨hnames, ⟨hversion, hcookies⟩, hv, hj⟩
      exact ⟨hnames, ⟨hversion, hv.symm⟩, hcookies, hj.symm⟩
    · rintro ⟨hnames, ⟨hversion, hv⟩, hcookies, hj⟩
      exact ⟨hnames, ⟨hversion, hcookies⟩, hv.symm, hj.symm⟩
  constructor
  · intro h
    unfold ofJson? at h
    split at h
    · rename_i v j hsome
      obtain ⟨hnames, hv, hj⟩ := (hfields v j).1 hsome
      simp only [Option.bind_eq_bind, Option.bind_eq_some_iff, Option.some.injEq,
        Prod.mk.injEq] at h
      obtain ⟨m, hm, ds, hds, rfl, rfl⟩ := h
      exact ⟨hnames, ⟨v, hv, hm⟩, j, hj, hds⟩
    · cases h
  · rintro ⟨hnames, ⟨v, hv, hn⟩, j, hj, hcs⟩
    simp only [ofJson?, (hfields v j).2 ⟨hnames, hv, hj⟩, hn, hcs, Option.bind_eq_bind,
      Option.bind_some]

/-- An object with a number for a version can be read exactly if it is a record, and then this
    number is read as its version. -/
theorem exists_ofJson?_iff {v : Json} {n m : Nat} (hv : (some "version".toList, v) ∈ ms)
    (hn : v.natBelow? 0x100000000 = some n) :
    (∃ cs, ofJson? (.object ms) = some (m, cs)) ↔ m = n ∧ IsRecord ms := by
  simp only [ofJson?_object_eq_some_iff]
  -- The version that was read is the only one there is.
  constructor
  · rintro ⟨cs, hnames, ⟨w, hw, hm⟩, j, hj, hcs⟩
    have hmem := Json.mem_valuesOf hv
    rw [hw, List.mem_singleton] at hmem
    subst hmem
    obtain ⟨items, rfl, hitems⟩ := exists_items?_iff.1 ⟨cs, hcs⟩
    exact ⟨Option.some.inj (hm.symm.trans hn), hnames, ⟨v, hw⟩, items, hj, hitems⟩
  · -- With one version and readable records, all of it can be read.
    rintro ⟨rfl, hnames, ⟨w, hw⟩, items, hj, hitems⟩
    have hmem := Json.mem_valuesOf hv
    rw [hw, List.mem_singleton] at hmem
    subst hmem
    obtain ⟨cs, hcs⟩ := exists_items?_iff.2 ⟨items, rfl, hitems⟩
    exact ⟨cs, hnames, ⟨v, hw, hn⟩, .array items, hj, hcs⟩

/-- A text that is an object with a number for a version, other than the known one, is refused: for
    its version if it is a record, and else as no record at all. -/
theorem parse_unknown_version {s : String} {v : Json} {n : Nat}
    (hs : Json.parse? s.toList = some (.object ms)) (hv : (some "version".toList, v) ∈ ms)
    (hn : v.natBelow? 0x100000000 = some n) (hne : n ≠ version) :
    (IsRecord ms → parse s = .error (.unsupportedVersion n)) ∧
      (¬ IsRecord ms → parse s = .error .notARecord) := by
  simp only [parse, Json.not_all_isBlank_of_parse?_object hs, hs, Option.bind_some,
    Bool.false_eq_true, if_false]
  constructor
  · -- The file is a record, so only its version is wrong.
    intro hrecord
    obtain ⟨cs, hcs⟩ := (exists_ofJson?_iff hv hn).2 ⟨rfl, hrecord⟩
    simp only [hcs, hne, if_false]
  · -- Nothing can be read as a record, whatever the version.
    intro hrecord
    cases hread : ofJson? (.object ms) with
    | none => rfl
    | some r =>
      exact absurd ((exists_ofJson?_iff (m := r.1) hv hn).1 ⟨r.2, hread⟩).2 hrecord

end CookieFile

namespace Store

/-- Take any file whose text is a JSON object with a member `version` that is a natural number of 32
    bits and not the known version. Reading the file gives the error of an unsupported version, with
    this number, exactly if the rest of the object is a record of the known version: all its names
    are texts, `version` is there once, and so is `cookies`, an array of which every item can be
    read as a cookie. Otherwise it gives the error of a file that is no record. -/
theorem load_unknown_version {p : Path} {s : Storage} {c : Content} {text : String}
    {ms : List (Option (List Char) × Json)} {v : Json} {n : Nat}
    (hread : s.directory.read p = .ok c) (htext : c.text? = some text)
    (hobject : Json.parse? text.toList = some (.object ms))
    (hv : (some "version".toList, v) ∈ ms) (hn : v.natBelow? 0x100000000 = some n)
    (hne : n ≠ CookieFile.version) :
    (((Store.json p).load s).1 = .error (.unsupportedVersion n) ↔ CookieFile.IsRecord ms) ∧
      (((Store.json p).load s).1 = .error .json ↔ ¬ CookieFile.IsRecord ms) := by
  obtain ⟨hrecord, hother⟩ := CookieFile.parse_unknown_version hobject hv hn hne
  simp only [load, loadFile, hread, htext]
  by_cases h : CookieFile.IsRecord ms
  · -- A record: its version is reported.
    simp [hrecord h, h]
  · -- No record: the file is not understood.
    simp [hother h, h]

/-- The text of a file in version 2 with these records of cookies. -/
def textOfVersionTwo (records : List Json) : String :=
  String.ofList (Json.ofMembers [("version", .ofNat 2), ("cookies", .array records)]).pretty

/-- Storage with one file, which is in version 2. -/
def fileOfVersionTwo (p : Path) (records : List Json) : Storage :=
  { Storage.empty with
    directory := Directory.empty.put p (.file (.bytes (textOfVersionTwo records).toUTF8) none) }

/-- The file is read back from where it was put. -/
theorem read_fileOfVersionTwo {p : Path} (hp : p ≠ []) (records : List Json) :
    (fileOfVersionTwo p records).directory.read p =
      .ok (.bytes (textOfVersionTwo records).toUTF8) := by
  rw [fileOfVersionTwo, Directory.read, Directory.find?_put_self _ hp]

/-- The text of such a file is read as an object with a version and records. -/
theorem parse?_textOfVersionTwo {records : List Json} (h : ∀ j ∈ records, j.IsPlain) :
    Json.parse? (textOfVersionTwo records).toList = some (.object
      [(some "version".toList, .ofNat 2), (some "cookies".toList, .array records)]) := by
  -- Both members are plain, so the text is read back as the object.
  have hversion : (Json.ofNat 2).IsPlain := by
    have hdigits : Nat.toDigits 10 2 = ['2'] := rfl
    show Json.IsNatural (Nat.toDigits 10 2)
    rw [hdigits]
    exact ⟨by simp, by simp, by simp⟩
  have hplain : (Json.ofMembers [("version", .ofNat 2), ("cookies", .array records)]).IsPlain := by
    rw [Json.isPlain_ofMembers, List.forall_mem_cons, List.forall_mem_singleton]
    exact ⟨hversion, Json.isPlainItems_iff.2 h⟩
  rw [textOfVersionTwo, String.toList_ofList, Json.parse?_pretty hplain]
  rfl

/-- Two files in a version that is not known: one without cookies, and one with an item that is no
    cookie of the known version. -/
theorem load_unknown_version_two_files :
    let p := ["cookies"]
    ((Store.json p).load (fileOfVersionTwo p [])).1 = .error (.unsupportedVersion 2) ∧
      ((Store.json p).load (fileOfVersionTwo p [.null])).1 = .error .json := by
  have hp : ["cookies"] ≠ [] := by simp
  constructor
  · -- A file with no records is a record of its version.
    have hobject := parse?_textOfVersionTwo (List.forall_mem_nil _)
    refine (load_unknown_version (read_fileOfVersionTwo hp []) (Storage.text?_bytes_toUTF8 _)
      hobject List.mem_cons_self (n := 2) rfl (by decide)).1.2 ?_
    exact ⟨by decide, ⟨_, rfl⟩, _, rfl, List.forall_mem_nil _⟩
  · -- A file with a record that cannot be read is no record at all.
    have hnull : ∀ j ∈ [Json.null], j.IsPlain := List.forall_mem_singleton.2 trivial
    refine (load_unknown_version (read_fileOfVersionTwo hp _) (Storage.text?_bytes_toUTF8 _)
      (parse?_textOfVersionTwo hnull) List.mem_cons_self (n := 2) rfl (by decide)).2.2 ?_
    rintro ⟨_, _, items, hitems, hcookies⟩
    cases hitems
    obtain ⟨c, hc⟩ := hcookies _ List.mem_cons_self
    cases hc

/-- A file in a later version, whose cookies have records of another shape, is not recognised as
    one. -/
theorem load_later_version_is_no_record :
    let p := ["cookies"]
    let s := fileOfVersionTwo p [.ofMembers [("id", .ofText "a")]]
    (∃ c text ms, s.directory.read p = .ok c ∧ c.text? = some text ∧
      Json.parse? text.toList = some (.object ms) ∧ (some "version".toList, .ofNat 2) ∈ ms) ∧
      ((Store.json p).load s).1 = .error .json := by
  -- The record is plain JSON, so the file is read back as the object that was written.
  have hplain : ∀ j ∈ [Json.ofMembers [("id", .ofText "a")]], j.IsPlain := by
    rw [List.forall_mem_singleton, Json.isPlain_ofMembers, List.forall_mem_singleton]
    exact Cookie.isPlain_ofText _
  have hread := read_fileOfVersionTwo (p := ["cookies"]) (by simp)
    [.ofMembers [("id", .ofText "a")]]
  have htext := Storage.text?_bytes_toUTF8 (textOfVersionTwo [.ofMembers [("id", .ofText "a")]])
  have hobject := parse?_textOfVersionTwo hplain
  refine ⟨⟨_, _, _, hread, htext, hobject, List.mem_cons_self⟩, ?_⟩
  -- The version is 2, and the list has a record without the fields of a cookie.
  have hparse := (CookieFile.parse_unknown_version hobject List.mem_cons_self (n := 2) rfl
    (by decide)).2 ?_
  · simp only [load, loadFile, hread, htext, hparse]
  · rintro ⟨_, _, items, hitems, hcookies⟩
    cases hitems
    obtain ⟨c, hc⟩ := hcookies _ List.mem_cons_self
    cases hc

end Store

end HttpState
