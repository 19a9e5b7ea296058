import HttpState.Proofs.Cookie.File
import HttpState.Storage.Store

/-!
# What stores keep

Stores that keep a list of cookies as it is, in memory or in a file, keep exactly the list that was
written last. A write fails as a whole: the list of before is still there, even if the medium gave
up between writing the file beside its place and moving it there.

A medium may refuse to work at any time. What a store keeps does not depend on it, so it is read
here as if it would work.

## Key results

- `read_write?_of_ne`, `read_rename?`: files after a step of a write
- `persistFile_spec`: a file after a write
- `persist_spec`: what a store keeps after a write
-/

namespace HttpState

open Storage (Path Content)

/-- What a medium refuses. -/
structure Storage.Medium where
  offline : Bool
  refusesWrite : Bool
  refusesRename : Bool
  deriving DecidableEq, Repr

/-- A medium that refuses nothing. -/
def Storage.Medium.working : Storage.Medium := ⟨false, false, false⟩

/-- What is in storage, on a medium in this condition. -/
def Storage.on (s : Storage) (m : Storage.Medium) : Storage where
  memory := { s.memory with offline := m.offline }
  directory := { s.directory with
    refusesWrite := m.refusesWrite
    refusesRename := m.refusesRename }

/-! ## Files -/

namespace Storage.Directory

variable {δ : Type}

/-- Whether there is a file at a path is a question about that path. -/
theorem hasFile_eq_of_find?_eq {d e : Directory δ} {p : Path} (h : d.find? p = e.find? p) :
    d.hasFile p = e.hasFile p := by
  rw [hasFile, h, hasFile]

/-- What a path reads as depends on what stands there and on the way to it. -/
theorem read_eq_of_find?_eq {d e : Directory δ} {p : Path} (h : d.find? p = e.find? p)
    (hway : ∀ q ∈ ancestors p, d.find? q = e.find? q) : d.read p = e.read p := by
  have hany : (ancestors p).any d.hasFile = (ancestors p).any e.hasFile := by
    rw [Bool.eq_iff_iff, List.any_eq_true, List.any_eq_true]
    constructor
    · rintro ⟨q, hq, hfile⟩
      exact ⟨q, hq, hasFile_eq_of_find?_eq (hway q hq) ▸ hfile⟩
    · rintro ⟨q, hq, hfile⟩
      exact ⟨q, hq, hasFile_eq_of_find?_eq (hway q hq) ▸ hfile⟩
  rw [read, read, h, hany]

/-- The folders above a path are shorter than the path. -/
theorem length_lt_of_mem_ancestors {p q : Path} (h : q ∈ ancestors p) : q.length < p.length := by
  obtain ⟨n, hn, rfl⟩ := List.mem_map.1 h
  rw [List.length_take]
  have := List.mem_range.1 hn
  omega

/-- A file that is written changes no other file that is not below it. -/
theorem read_write?_of_ne {d e : Directory δ} {p q : Path} {c : δ} (h : d.write? p c = some e)
    (hne : q ≠ p) (hlen : q.length ≤ p.length) : e.read q = d.read q := by
  unfold write? at h
  split at h
  · cases h
    apply read_eq_of_find?_eq
    · -- The entry looked for is not the one that is put in.
      exact find?_put_of_ne d hne _
    · -- Nor are its ancestors, which are shorter.
      intro r hr
      have hr' := length_lt_of_mem_ancestors hr
      apply find?_put_of_ne
      rintro rfl
      omega
  · exact nomatch h

/-- A file can be written only below the root. -/
theorem ne_nil_of_write? {d e : Directory δ} {p : Path} {c : δ} (h : d.write? p c = some e) :
    p ≠ [] := by
  rintro rfl
  simp [write?, canHoldFile, hasFolder, find?] at h

/-- After writing there is a file at the path with the content that was written. -/
theorem find?_write?_self {d e : Directory δ} {p : Path} {c : δ} (h : d.write? p c = some e) :
    ∃ n, e.find? p = some (.file c n) := by
  have hp := ne_nil_of_write? h
  unfold write? at h
  split at h
  · cases h
    exact ⟨_, find?_put_self d hp _⟩
  · exact nomatch h

/-- A file that was moved holds what it held before. -/
theorem read_rename? {d e : Directory δ} {p q : Path} {c : δ} {n : Option Nat}
    (hp : d.find? p = some (.file c n)) (h : d.rename? p q = some e) : e.read q = .ok c := by
  rw [rename?, hp] at h
  obtain ⟨hcan, h⟩ := Option.ite_none_right_eq_some.1 h
  cases h
  have hq : q ≠ [] := by
    rintro rfl
    simp [canHoldFile, hasFolder, find?] at hcan
  rw [read, find?_put_self _ hq]

/-- A file that is written is no folder, and makes none. -/
theorem canHoldFile_write? {d e : Directory δ} {p : Path} {c : δ} (h : d.write? p c = some e)
    (q : Path) : e.canHoldFile q = d.canHoldFile q := by
  rw [canHoldFile, canHoldFile, hasFolder_write? h, hasFolder_write? h]

/-- Writing does not change whether files can be moved. -/
theorem refusesRename_write? {d e : Directory δ} {p : Path} {c : δ} (h : d.write? p c = some e) :
    e.refusesRename = d.refusesRename := by
  unfold write? at h
  split at h
  · cases h
    rfl
  · exact nomatch h

/-- Writing succeeds if the folder takes writes and the path can hold a file. -/
theorem isSome_write? (d : Directory δ) (p : Path) (c : δ) :
    (d.write? p c).isSome = (!d.refusesWrite && d.canHoldFile p) := by
  unfold write?
  split
  · simp_all
  · simp_all

/-- Moving a file succeeds if files can be moved and the new path can hold one. -/
theorem isSome_rename? {d : Directory δ} {p : Path} {c : δ} {n : Option Nat}
    (hp : d.find? p = some (.file c n)) (q : Path) :
    (d.rename? p q).isSome = (!d.refusesRename && d.canHoldFile q) := by
  unfold rename?
  rw [hp]
  dsimp only
  split
  · simp_all
  · simp_all

/-- A file that was moved is gone from where it was. -/
theorem find?_rename?_self {d e : Directory δ} {p q : Path} (hp : p ≠ []) (hne : p ≠ q)
    (h : d.rename? p q = some e) : e.find? p = none := by
  unfold rename? at h
  split at h
  · obtain ⟨_, h⟩ := Option.ite_none_right_eq_some.1 h
    cases h
    rw [find?_put_of_ne _ hne, find?_erase_self _ hp]
  · exact nomatch h

end Storage.Directory

/-- The file beside a path is another one, at the same distance from the root. -/
theorem Store.besides_spec {p : Path} (hp : Store.besides p ≠ []) :
    p ≠ Store.besides p ∧ p.length = (Store.besides p).length := by
  rcases List.eq_nil_or_concat p with rfl | ⟨q, name, rfl⟩
  · exact absurd rfl hp
  · -- The name is longer by the ending, so it is another one.
    have heq : Store.besides (q ++ [name]) = q ++ [name ++ ".tmp"] := by
      simp [Store.besides, Path.withEnding]
    rw [List.concat_eq_append, heq]
    refine ⟨?_, by simp⟩
    intro h
    have hname : name = name ++ ".tmp" := by simpa using h
    have hlen := congrArg String.length hname
    rw [String.length_append] at hlen
    exact absurd hlen (by simp)

/-- A text is read back from its bytes. -/
theorem Storage.text?_bytes_toUTF8 (s : String) : (Content.bytes s.toUTF8).text? = some s := by
  rw [Content.text?, String.fromUTF8?, String.toUTF8_eq_toByteArray, dif_pos s.isValidUTF8]
  rfl

/-- What is read by a store that is opened at a place. -/
def StorePlace.load (place : StorePlace) (s : Storage) : Except StoreError (List Cookie) :=
  match place.openStore s with
  | (.ok store, s) => (store.load s).1
  | (.error e, _) => .error e

namespace Store

/-- A write of a file fails without a trace in the file, or the file holds the cookies. -/
theorem persistFile_spec (p : Path) (cs : List Cookie) (s : Storage) :
    match persistFile p cs s with
    | (.ok (), t) => loadFile p t = .ok cs
    | (.error _, t) => loadFile p t = loadFile p s := by
  unfold persistFile
  cases htext : CookieFile.text? cs with
  | none => rfl
  | some text =>
    cases hwrite : s.directory.write? (besides p) (.bytes text.toUTF8) with
    | none => simp only [hwrite]
    | some d =>
      obtain ⟨hne, hlen⟩ := besides_spec (Storage.Directory.ne_nil_of_write? hwrite)
      have hread := Storage.Directory.read_write?_of_ne hwrite hne (Nat.le_of_eq hlen)
      cases hrename : d.rename? (besides p) p with
      | none =>
        -- The file beside the place is there, but nothing has happened to the place itself.
        simp only [hwrite, loadFile, hrename, hread]
      | some e =>
        -- What was written beside the place stands in the place now.
        obtain ⟨n, hfile⟩ := Storage.Directory.find?_write?_self hwrite
        have hplace := Storage.Directory.read_rename? hfile hrename
        simp only [hwrite, loadFile, hrename, hplace, Storage.text?_bytes_toUTF8,
          CookieFile.parse_of_text? htext]

/-! ## Stores -/

/-- A store that keeps a list of cookies as it is. A database keeps rows instead. -/
def KeepsLists : Store → Prop
  | .memory => True
  | .json _ => True
  | .sqlite _ => False

/-- What a store reads from storage, on a medium that refuses nothing. -/
def kept (store : Store) (s : Storage) : Except StoreError (List Cookie) :=
  (store.load (s.on .working)).1

/-- What a store keeps does not depend on the medium. -/
@[simp] theorem kept_on (store : Store) (s : Storage) (m : Storage.Medium) :
    store.kept (s.on m) = store.kept s := rfl

/-- What a store keeps is what it is read for, wherever it can be read. -/
theorem kept_of_load {store : Store} (hstore : store.KeepsLists) {s : Storage}
    {cs : List Cookie} (h : (store.load s).1 = .ok cs) : store.kept s = .ok cs := by
  cases store with
  | memory =>
    simp only [load] at h
    split at h
    · exact nomatch h
    · exact h
  | json p => exact h
  | sqlite c => exact hstore.elim

/-- What a store keeps can be read as long as the store is not offline. -/
theorem load_on (store : Store) (s : Storage) {m : Storage.Medium} (hm : m.offline = false) :
    (store.load (s.on m)).1 = store.kept s := by
  cases store with
  | memory => simp [kept, load, Storage.on, Storage.Medium.working, hm]
  | json p => rfl
  | sqlite c => rfl

/-- What a store keeps is what it loads, as long as its medium answers. -/
theorem load_on_of_kept {store : Store} {s : Storage} {cs : List Cookie}
    (h : store.kept s = .ok cs) {m : Storage.Medium} (hm : m.offline = false) :
    (store.load (s.on m)).1 = .ok cs :=
  (load_on store s hm).trans h

/-- Reading a store that keeps the same gives the same, whatever the medium does. -/
theorem load_on_eq_of_kept_eq {store : Store} (hstore : store.KeepsLists) {s t : Storage}
    (h : store.kept s = store.kept t) (m : Storage.Medium) :
    (store.load (s.on m)).1 = (store.load (t.on m)).1 := by
  cases store with
  | memory =>
    have hcookies : s.memory.cookies = t.memory.cookies := Except.ok.inj h
    simp only [load, Storage.on, hcookies]
    rfl
  | json p => exact h
  | sqlite c => exact hstore.elim

/-- A store stays the same when it is read. -/
theorem load_snd {store : Store} (hstore : store.KeepsLists) (s : Storage) :
    (store.load s).2 = store := by
  cases store with
  | memory => rfl
  | json p => rfl
  | sqlite c => exact hstore.elim

/-- A write fails and changes nothing, or the store keeps exactly the cookies that were written. -/
theorem persist_spec {store : Store} (hstore : store.KeepsLists) (cs : List Cookie)
    (s : Storage) :
    match store.persist cs s with
    | (.ok (), store', t) => store' = store ∧ store.kept t = .ok cs
    | (.error _, store', t) => store' = store ∧ store.kept t = store.kept s := by
  cases store with
  | memory =>
    -- Memory that is offline takes no list.
    cases hoffline : s.memory.offline with
    | true =>
      simp only [persist, hoffline]
      exact ⟨rfl, rfl⟩
    | false =>
      simp only [persist, hoffline]
      exact ⟨rfl, rfl⟩
  | json p =>
    have h := persistFile_spec p cs s
    simp only [persist]
    cases hp : persistFile p cs s with
    | mk r t =>
      rw [hp] at h
      cases r with
      | ok u => exact ⟨rfl, h⟩
      | error e => exact ⟨rfl, h⟩
  | sqlite c => exact hstore.elim

end Store

end HttpState
