import HttpState.Proofs.Storage.Settled
import HttpState.Proofs.Text.Utf8

/-!
# Databases of cookies are replaced as a whole

A database is written as a whole or not at all. After a write it is read as the last cookie of each
key, in the order of the bytes of the keys, with timestamps in whole seconds; nothing is left of the
cookies of before. A cookie does not come back if one of its timestamps is outside the calendar.

A write that fails changes nothing in storage, and what is read stays the same as well. There is one
exception. A connection whose file somebody else has emptied has lost its table but does not know it
yet; it still reads no cookies until it learns, by reading or by writing, that it has to fail.

## Key results

- `Cookie.Key.bytes_lt_bytes_iff`: the order of keys is that of their bytes
- `Connection.persist_isSome_iff`: when a write goes well
- `Connection.openDatabase_of_persist`: what is opened after a write
- `Store.persist_database_round_trip`: what is read after a write
-/

namespace HttpState

open Storage (Path Content Files Connection CookieTable)
open Text (utf8)
open Time (isCalendarSecond)

namespace Cookie

/-- The bytes of a key: those of the domain, of the path and of the name. -/
def Key.bytes (k : Key) : List (List UInt8) :=
  [utf8 k.domain.toList, utf8 k.path.toList, utf8 k.name.toList]

/-- Texts are in the order of their bytes. -/
theorem utf8_toList_lt_iff {s t : String} : utf8 s.toList < utf8 t.toList ↔ s < t := by
  rw [Text.utf8_lt_utf8_iff, String.lt_iff]

/-- Texts with the same bytes are the same. -/
theorem utf8_toList_inj {s t : String} : utf8 s.toList = utf8 t.toList ↔ s = t := by
  rw [Text.utf8_inj, String.toList_inj]

/-- Keys are in the order of their bytes. -/
theorem Key.bytes_lt_bytes_iff {a b : Key} : a.bytes < b.bytes ↔ a.le b = true ∧ a ≠ b := by
  cases a with
  | mk domain path name =>
    cases b with
    | mk domain' path' name' =>
      simp only [bytes, List.cons_lt_cons_iff, utf8_toList_lt_iff, utf8_toList_inj, le, ne_eq,
        Key.mk.injEq, not_and]
      grind

end Cookie

/-! ## Connections -/

namespace Storage.Connection

/-- Looking at a database does not change which file is looked at. -/
theorem look_snd (c : Connection) (d : Files) :
    (c.look d).2.path = c.path ∧ (c.look d).2.number = c.number := by
  unfold look
  split
  · exact ⟨rfl, rfl⟩
  · split
    · exact ⟨rfl, rfl⟩
    · exact ⟨rfl, rfl⟩
    · split <;> exact ⟨rfl, rfl⟩

/-- Only seeing the table changes whether it is known. -/
theorem knowsTable_look_of_unreadable {c c' : Connection} {d : Files}
    (h : c.look d = (.unreadable, c')) : c'.knowsTable = c.knowsTable := by
  unfold look at h
  split at h
  · rw [← (Prod.mk.inj h).2]
  · split at h
    · rw [← (Prod.mk.inj h).2]
    · simp at h
    · split at h <;> simp at h

/-- Whether a connection finds a table, in the file that still has its name and can be written. -/
def CanWrite (c : Connection) (d : Files) : Prop :=
  (∃ t v, (c.look d).1 = .table t v) ∧ d.numberAt? c.path = some c.number ∧
    d.refusesWrite = false ∧ d.canHoldFile c.path = true

/-- A list can be written exactly when the connection finds its table and the file may be
    written. -/
theorem persist_isSome_iff {c : Connection} {cs : List Cookie} {d : Files} :
    (c.persist cs d).1.isSome = true ↔ c.CanWrite d := by
  have hsnd := c.look_snd d
  unfold persist CanWrite
  rcases hlook : c.look d with ⟨_ | _ | ⟨t, v⟩, c'⟩
  · simp
  · simp
  · rw [hlook] at hsnd
    rw [← hsnd.1, ← hsnd.2]
    dsimp only
    split
    · -- The path still leads to the file that the connection has open.
      rename_i hn
      have hwrite := Directory.isSome_write? d c'.path (.database (.ofCookies cs) (v + 1))
      cases hw : d.write? c'.path (.database (.ofCookies cs) (v + 1)) with
      | none => simp_all
      | some e => simp_all
    · rename_i hn
      simp [hn]

/-- The connection that has written a database is also what is opened afterwards. -/
theorem openDatabase_of_persist {c c' : Connection} {cs : List Cookie} {d d' : Files}
    (h : c.persist cs d = (some d', c')) : Files.openDatabase d' c.path = (some c', d') := by
  have hsnd := c.look_snd d
  unfold persist at h
  split at h
  · rename_i v c₁ hlook
    rw [hlook] at hsnd
    obtain ⟨hknown, hlog, hjournal⟩ := look_eq_table hlook
    split at h
    · rename_i hn
      split at h
      · rename_i e hw
        obtain ⟨he, rfl⟩ := Prod.mk.inj h
        obtain rfl := Option.some.inj he
        obtain ⟨n, hfile⟩ := Directory.find?_write?_self hw
        have hnumber := Directory.numberAt?_write? hw
        rw [hn, Directory.numberAt?, hfile] at hnumber
        obtain rfl : n = some c₁.number := hnumber
        -- The file that has been written is the one that is kept open.
        have hread : e.read c₁.path = .ok (.database (.ofCookies cs) (v + 1)) := by
          rw [Directory.read, hfile]
        have hfinding : Files.finding e c₁.path (.database (.ofCookies cs) (v + 1)) =
            .table (.ofCookies cs) (v + 1) := by
          simp only [Files.hasLogFolder, Files.hasJournalFolder] at hlog hjournal
          simp [Files.finding, Files.hasLogFolder, Files.hasJournalFolder,
            Directory.hasFolder_write? hw, hlog, hjournal]
        rw [← hsnd.1, Files.openDatabase, Files.ensureFile, hread]
        simp only [hread, hfinding, Files.connect, Directory.keepOpen?, hfile, ← hknown]
      · simp at h
    · simp at h
  · simp at h
  · simp at h

/-- A connection to a file that has been emptied, which has not been noticed yet. -/
def IsCutOff (c : Connection) (d : Files) : Prop := c.knowsTable = true ∧ (c.look d).1 = .blank

/-- A write that fails does not change what is read. -/
theorem load_of_persist_eq_none {c c' : Connection} {cs : List Cookie} {d : Files}
    (h : c.persist cs d = (none, c')) (hc : ¬ c.IsCutOff d) : (c'.load d).1 = (c.load d).1 := by
  unfold persist at h
  rcases hlook : c.look d with ⟨_ | _ | ⟨t, v⟩, e⟩
  · rw [hlook] at h
    obtain rfl := (Prod.mk.inj h).2
    simp [load, hlook, look_unreadable hlook, knowsTable_look_of_unreadable hlook]
  · -- The table is missed, and it has been missed before.
    rw [hlook] at h
    have hknown : c.knowsTable = false := by
      rw [← Bool.not_eq_true]
      exact fun hknown => hc ⟨hknown, by rw [hlook]⟩
    obtain ⟨rfl, hagain⟩ := look_blank hlook
    obtain rfl := (Prod.mk.inj h).2
    simp [load, hlook, hagain, hknown]
  · -- The table was found but could not be written, so nothing has changed.
    have heq : c' = e := by
      rw [hlook] at h
      dsimp only at h
      split at h
      · split at h
        · simp at h
        · exact (Prod.mk.inj h).2.symm
      · exact (Prod.mk.inj h).2.symm
    rw [heq, load, load, hlook, look_look hlook]

end Storage.Connection

/-! ## Stores -/

namespace Store

/-- Take any database, whatever is in its table, and any cookies. If a write goes well, then the
    store that wrote it, and any store that is opened at its path, reads the same cookies: strictly
    in the order of the bytes of their keys, and of each key the last one of the list, unless a
    timestamp of it falls into a second outside the calendar. All fields are as they were, but the
    timestamps, which are rounded down to whole seconds in UTC.

    If a write fails, nothing in storage has changed, and the same is read as before, unless the
    database has been emptied behind the back of the store. A write goes well exactly if the store
    finds the table, in a file that still has its name and can be written. -/
theorem persist_database_round_trip (c : Connection) (cs : List Cookie) (s : Storage) :
    let (r, store, t) := (Store.sqlite c).persist cs s
    (r = .ok () → ∃ kept, (store.load t).1 = .ok kept ∧ (StorePlace.sqlite c.path).load t = .ok kept ∧
      kept.Pairwise (fun a b => a.key.bytes < b.key.bytes) ∧
      ∀ d, d ∈ kept ↔ ∃ e : Cookie, e.IsLastOf cs ∧
        (∀ u ∈ e.timestamps, isCalendarSecond u.seconds = true) ∧ d = e.inSeconds) ∧
    (∀ e, r = .error e → t = s ∧
      (¬ c.IsCutOff s.directory → (store.load t).1 = ((Store.sqlite c).load s).1)) ∧
    (r = .ok () ↔ c.CanWrite s.directory) := by
  have hcan := @Connection.persist_isSome_iff c cs s.directory
  rcases hwrite : c.persist cs s.directory with ⟨_ | d, c'⟩
  · -- The write failed, and only a table that was missed may make a difference afterwards.
    rw [hwrite] at hcan
    simp only [persist, hwrite]
    refine ⟨by simp, ?_, by simpa using hcan⟩
    intro e he
    refine ⟨trivial, fun hc => ?_⟩
    rw [load_sqlite, load_sqlite, Connection.load_of_persist_eq_none hwrite hc]
  · rw [hwrite] at hcan
    simp only [persist, hwrite]
    -- The write succeeded, so the same connection and a new one read the rows that were written.
    refine ⟨?_, by simp, by simpa using hcan⟩
    intro _
    have hload : c'.load d = (some (CookieTable.ofCookies cs).cookies, c') :=
      Connection.load_persist hwrite
    have hopen := Connection.openDatabase_of_persist hwrite
    refine ⟨(CookieTable.ofCookies cs).cookies, ?_, ?_, ?_, ?_⟩
    · rw [load_sqlite, hload]
    · simp only [StorePlace.load, StorePlace.openStore, hopen, load_sqlite, hload]
    · refine (CookieTable.inKeyOrder_cookies_ofCookies cs).imp ?_
      exact fun hab => Cookie.Key.bytes_lt_bytes_iff.2 hab
    · exact fun d => CookieTable.mem_cookies_ofCookies_iff

end Store

end HttpState
