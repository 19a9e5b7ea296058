import HttpState.Proofs.Storage.Store

/-!
# Files of cookies are replaced as a whole

A file of cookies is written beside its place and then moved there. Whatever is in the directory,
either both steps go well, and the file holds exactly the cookies that were written, or the file is
read as before. Cookies are refused before anything is written if one of their timestamps has no
text.

## Key results

- `Store.persistFile_eq_ok_iff`, `Store.persistFile_eq_json_iff`: how a write ends
- `Store.find?_besides_of_persistFile`: a write that goes well leaves nothing beside the file
- `Store.persist_file_all_or_nothing`: what is read after a write
-/

namespace HttpState

open Storage (Path Content Files)

namespace Store

/-- The ways in which a write of a file ends. -/
inductive FileWrite (p : Path) (cs : List Cookie) (s : Storage) :
    Except StoreError Unit × Storage → Prop where
  /-- A timestamp has no text. -/
  | refused (h : CookieFile.text? cs = none) : FileWrite p cs s (.error .json, s)
  /-- Nothing can be written beside the file. -/
  | notWritten (text : String) (h : CookieFile.text? cs = some text)
      (hwrite : s.directory.write? (besides p) (.bytes text.toUTF8) = none) :
      FileWrite p cs s (.error .io, s)
  /-- What has been written stays beside the file. -/
  | notMoved (text : String) (h : CookieFile.text? cs = some text) (d : Files)
      (hwrite : s.directory.write? (besides p) (.bytes text.toUTF8) = some d)
      (hmove : d.rename? (besides p) p = none) :
      FileWrite p cs s (.error .io, { s with directory := d })
  /-- The file is replaced. -/
  | moved (text : String) (h : CookieFile.text? cs = some text) (d : Files)
      (hwrite : s.directory.write? (besides p) (.bytes text.toUTF8) = some d) (e : Files)
      (hmove : d.rename? (besides p) p = some e) :
      FileWrite p cs s (.ok (), { s with directory := e })

/-- All that can come of writing a file. -/
theorem fileWrite_persistFile (p : Path) (cs : List Cookie) (s : Storage) :
    FileWrite p cs s (persistFile p cs s) := by
  unfold persistFile
  split
  · rename_i h
    -- No text can be made.
    exact .refused h
  · rename_i text h
    split
    · -- The temporary file cannot be written.
      rename_i hwrite
      exact .notWritten text h hwrite
    · rename_i d hwrite
      split
      · -- It cannot be moved.
        rename_i hmove
        exact .notMoved text h d hwrite hmove
      · -- It takes the place of the old file.
        rename_i e hmove
        exact .moved text h d hwrite e hmove

/-- Whether a file can be written beside a path and then moved there. -/
def canReplace (d : Files) (p : Path) : Bool :=
  !d.refusesWrite && d.canHoldFile (besides p) && (!d.refusesRename && d.canHoldFile p)

/-- A file can be replaced if both steps of a write go well. -/
theorem canReplace_eq {d e : Files} {p : Path} {c : Content}
    (h : d.write? (besides p) c = some e) :
    canReplace d p = (e.rename? (besides p) p).isSome := by
  obtain ⟨n, hfile⟩ := Storage.Directory.find?_write?_self h
  have hwrite := Storage.Directory.isSome_write? d (besides p) c
  rw [h, Option.isSome_some] at hwrite
  rw [canReplace, ← hwrite, Bool.true_and, Storage.Directory.isSome_rename? hfile,
    Storage.Directory.canHoldFile_write? h, Storage.Directory.refusesRename_write? h]

/-- A write goes well exactly if the cookies have a text and the file can be replaced. -/
theorem persistFile_eq_ok_iff {p : Path} {cs : List Cookie} {s : Storage} :
    (persistFile p cs s).1 = .ok () ↔
      CookieFile.text? cs ≠ none ∧ canReplace s.directory p = true := by
  have hend := fileWrite_persistFile p cs s
  generalize persistFile p cs s = w at hend ⊢
  cases hend with
  | refused h => simp [h]
  | notWritten text h hwrite =>
    -- The temporary file cannot be written exactly if `canReplace` says so.
    have hcan := Storage.Directory.isSome_write? s.directory (besides p) (.bytes text.toUTF8)
    rw [hwrite, Option.isSome_none] at hcan
    simp [canReplace, ← hcan]
  | notMoved text h d hwrite hmove => simp [canReplace_eq hwrite, hmove]
  | moved text h d hwrite e hmove => simp [h, canReplace_eq hwrite, hmove]

/-- Cookies are refused exactly if they have no text. -/
theorem persistFile_eq_json_iff {p : Path} {cs : List Cookie} {s : Storage} :
    (persistFile p cs s).1 = .error .json ↔ CookieFile.text? cs = none := by
  have hend := fileWrite_persistFile p cs s
  generalize persistFile p cs s = w at hend ⊢
  cases hend with
  | refused h => simp [h]
  | notWritten text h => simp [h]
  | notMoved text h => simp [h]
  | moved text h => simp [h]

/-- Nothing is written of cookies that are refused. -/
theorem persistFile_of_text?_eq_none {p : Path} {cs : List Cookie} {s : Storage}
    (h : CookieFile.text? cs = none) : persistFile p cs s = (.error .json, s) := by
  rw [persistFile, h]

/-- A write that goes well leaves nothing beside the file. -/
theorem find?_besides_of_persistFile {p : Path} {cs : List Cookie} {s : Storage}
    (h : (persistFile p cs s).1 = .ok ()) :
    (persistFile p cs s).2.directory.find? (besides p) = none := by
  have hend := fileWrite_persistFile p cs s
  generalize persistFile p cs s = w at h hend ⊢
  cases hend with
  | refused => simp at h
  | notWritten => simp at h
  | notMoved => simp at h
  | moved text _ d hwrite e hmove =>
    have hne := Storage.Directory.ne_nil_of_write? hwrite
    exact Storage.Directory.find?_rename?_self hne (besides_spec hne).1.symm hmove

/-- Take any directory and any cookies. A write of a file of cookies goes well exactly if all
    timestamps have an RFC 3339 text and the file can be replaced. Then the store that wrote it, and
    any store that is opened at its path, reads exactly these cookies, in this order and with all
    their fields, and nothing is left beside the file.

    Otherwise both read what they read before, be it cookies or an error. The error is that of a
    record exactly if a timestamp has no text, and then nothing in storage has changed at all. -/
theorem persist_file_all_or_nothing (p : Path) (cs : List Cookie) (s : Storage) :
    let (r, store, t) := (Store.json p).persist cs s
    (r = .ok () →
      (store.load t).1 = .ok cs ∧ (StorePlace.json p).load t = .ok cs ∧
        t.directory.find? (besides p) = none) ∧
    (∀ e, r = .error e →
      (store.load t).1 = ((Store.json p).load s).1 ∧
        (StorePlace.json p).load t = (StorePlace.json p).load s) ∧
    (r = .ok () ↔
      (∀ c ∈ cs, ∀ u ∈ c.timestamps, u.toRfc3339? ≠ none) ∧ canReplace s.directory p = true) ∧
    (r = .error .json ↔ ∃ c ∈ cs, ∃ u ∈ c.timestamps, u.toRfc3339? = none) ∧
    (r = .error .json → t = s) := by
  rcases hwrite : persistFile p cs s with ⟨r, t⟩
  have hspec := persistFile_spec p cs s
  have hok := @persistFile_eq_ok_iff p cs s
  have hjson := @persistFile_eq_json_iff p cs s
  have hgone := @find?_besides_of_persistFile p cs s
  have hnone := @CookieFile.text?_eq_none_iff cs
  rw [hwrite] at hspec hok hjson hgone
  simp only [persist, hwrite]
  refine ⟨?_, ?_, ?_, hjson.trans hnone, ?_⟩
  · -- The write succeeded, so the place holds the new list and nothing stands beside it.
    rintro rfl
    exact ⟨hspec, hspec, hgone rfl⟩
  · -- The write failed, so the place holds what it held.
    rintro e rfl
    exact ⟨hspec, hspec⟩
  · -- It succeeds exactly when there is a text and the place can be replaced.
    have htext : CookieFile.text? cs ≠ none ↔
        ∀ c ∈ cs, ∀ u ∈ c.timestamps, u.toRfc3339? ≠ none := by
      simp only [ne_eq, hnone, not_exists, not_and]
    exact hok.trans (and_congr_left' htext)
  · -- Without a text nothing was tried.
    intro hr
    have hrefused := persistFile_of_text?_eq_none (p := p) (s := s) (hjson.1 hr)
    rw [hwrite] at hrefused
    exact (Prod.mk.inj hrefused).2

end Store

end HttpState
