import HttpState.Proofs.Storage.Database

/-!
# Where a store is

A store stays at the place where it was opened, whether it is read or written and whether that goes
well. So a database can be opened again where it was written, and what is opened is the store that
wrote it.

## Key results

- `StorePlace.place_of_openStore`, `Store.place_load`, `Store.place_persist`: the place of a store
- `Store.reopen_of_persist`: opening and reading a database after a write
-/

namespace HttpState

open Storage (Path Connection CookieTable Files)

/-! ## Connections -/

namespace Storage

/-- A connection is to the path that it was opened at. -/
theorem Files.path_of_openDatabase {d d' : Files} {p : Path} {c : Connection}
    (h : openDatabase d p = (some c, d')) : c.path = p := by
  -- Whatever connection is made over `p` has this path.
  have hconnect : ∀ {e : Files} {v : Nat}, connect e p v = (some c, d') → c.path = p := by
    intro e v hconnect
    unfold connect at hconnect
    split at hconnect
    · cases hconnect
      rfl
    · cases hconnect
  unfold openDatabase at h
  simp only at h
  split at h
  · -- The file cannot be read.
    cases h
  · split at h
    · cases h
    · -- A database is there.
      exact hconnect h
    · -- A new file is made, if it can be.
      split at h
      · cases h
      · split at h
        · exact hconnect h
        · cases h

namespace Connection

/-- Loading does not change the path of a connection. -/
theorem path_load (c : Connection) (d : Files) : (c.load d).2.path = c.path := by
  have hpath := (c.look_snd d).1
  -- Whatever the look has found.
  rcases hlook : c.look d with ⟨_ | _ | ⟨t, v⟩, c'⟩
  all_goals
    rw [hlook] at hpath
    simpa only [load, hlook] using hpath

/-- Nor does writing. -/
theorem path_persist (c : Connection) (cs : List Cookie) (d : Files) :
    (c.persist cs d).2.path = c.path := by
  have hpath := (c.look_snd d).1
  rcases hlook : c.look d with ⟨_ | _ | ⟨t, v⟩, c'⟩
  · -- The file is unreadable.
    rw [hlook] at hpath
    simpa only [persist, hlook] using hpath
  · -- It has no table.
    rw [hlook] at hpath
    simpa only [persist, hlook] using hpath
  · -- It has one, which may be written or not.
    rw [hlook] at hpath
    simp only [persist, hlook]
    split
    · split
      · exact hpath
      · exact hpath
    · exact hpath

end Connection

end Storage

/-! ## Stores -/

/-- A store is at the place where it was opened. -/
theorem StorePlace.place_of_openStore {place : StorePlace} {s t : Storage} {store : Store}
    (h : place.openStore s = (.ok store, t)) : store.place = place := by
  cases place with
  | memory =>
    cases h
    rfl
  | json p =>
    cases h
    rfl
  | sqlite p =>
    -- A database is opened at its path.
    simp only [openStore] at h
    split at h
    · rename_i c d hopen
      cases h
      exact congrArg StorePlace.sqlite (Files.path_of_openDatabase hopen)
    · cases h

namespace Store

/-- A store stays at its place when it is read. -/
theorem place_load (store : Store) (s : Storage) : (store.load s).2.place = store.place := by
  cases store with
  | memory => rfl
  | json p => rfl
  | sqlite c =>
    rw [load_sqlite]
    exact congrArg StorePlace.sqlite (c.path_load s.directory)

/-- A store stays at its place when it writes. -/
theorem place_persist (store : Store) (cs : List Cookie) (s : Storage) :
    (store.persist cs s).2.1.place = store.place := by
  cases store with
  | memory =>
    -- There is one memory, whether it can be written or not.
    simp only [persist]
    split <;> rfl
  | json p => rfl
  | sqlite c =>
    -- A connection keeps the path of its file.
    have hpath := c.path_persist cs s.directory
    simp only [persist]
    split
    · rename_i heq
      rw [heq] at hpath
      exact congrArg StorePlace.sqlite hpath
    · rename_i heq
      rw [heq] at hpath
      exact congrArg StorePlace.sqlite hpath

/-- After a write the database can be opened, which gives the store that wrote it, and read. -/
theorem reopen_of_persist {store store' : Store} {p : Path} (hplace : store.place = .sqlite p)
    {cs : List Cookie} {s t : Storage} (h : store.persist cs s = (.ok (), store', t)) :
    (StorePlace.sqlite p).openStore t = (.ok store', t) ∧
      store'.load t = (.ok (CookieTable.ofCookies cs).cookies, store') := by
  cases store with
  -- Only a database has such a place.
  | memory => cases hplace
  | json q => cases hplace
  | sqlite c =>
    cases hplace
    simp only [persist] at h
    split at h
    · rename_i d c' hwrite
      cases h
      have hopen := Connection.openDatabase_of_persist hwrite
      have hload := Connection.load_persist hwrite
      constructor
      · simp only [StorePlace.openStore, hopen]
      · simp only [load, hload]
    · cases h

end Store

end HttpState
