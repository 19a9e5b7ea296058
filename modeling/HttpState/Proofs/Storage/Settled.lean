import HttpState.Proofs.Storage.CookieTable
import HttpState.Proofs.Storage.Store

/-!
# Stores that have settled

A store that is read again gives the same again. For a database this takes that its connection has
seen the state the database is in: what a connection remembers may change when it reads, but only
the first time. From then on, and as long as nobody else writes, only its own writes change what it
reads, and those that fail change nothing.

## Key results

- `Store.isSettled_load`: a store that has been read has settled
- `Store.persist_settled_spec`: what a settled store of any kind keeps after a write
-/

namespace HttpState

open Storage (CookieTable Connection)

namespace Storage.Connection

/-! ## Connections -/

/-- A connection that finds a table finds it again. -/
theorem look_look {c c' : Connection} {d : Files} {t : CookieTable} {v : Nat}
    (h : c.look d = (.table t v, c')) : c'.look d = (.table t v, c') := by
  unfold look at h
  split at h
  · simp at h
  · rename_i x hx
    split at h
    · simp at h
    · simp at h
    · rename_i hf
      -- The connection knows the table now, so looking again finds the same.
      split at h
      · simp at h
      · obtain ⟨hfound, rfl⟩ := Prod.mk.inj h
        cases hfound
        simp [look, hx, hf]

/-- A connection that finds nothing to look at finds nothing again. -/
theorem look_unreadable {c c' : Connection} {d : Files} (h : c.look d = (.unreadable, c')) :
    c'.look d = (.unreadable, c') := by
  unfold look at h
  split at h
  · -- The file has no content, before and after.
    rename_i hx
    obtain ⟨_, rfl⟩ := Prod.mk.inj h
    simp [look, hx]
  · -- It has content, which is not that of a database.
    rename_i x hx
    split at h
    · rename_i hf
      obtain ⟨_, rfl⟩ := Prod.mk.inj h
      simp [look, hx, hf]
    · simp at h
    · split at h <;> simp at h

/-- A connection that misses the table misses it again, also when it has forgotten it. -/
theorem look_blank {c c' : Connection} {d : Files} (h : c.look d = (.blank, c')) :
    c' = c ∧ look { c with knowsTable := false } d = (.blank, { c with knowsTable := false }) := by
  unfold look at h
  split at h
  · simp at h
  · rename_i x hx
    split at h
    · simp at h
    · rename_i hf
      -- Without a table there is nothing that the second look could find missing.
      obtain ⟨_, rfl⟩ := Prod.mk.inj h
      refine ⟨rfl, ?_⟩
      simp [look, hx, hf]
    · rename_i hf
      split at h
      · rename_i hseen
        obtain ⟨_, rfl⟩ := Prod.mk.inj h
        refine ⟨rfl, ?_⟩
        simp only [Bool.and_eq_true] at hseen
        simp [look, hx, hf, hseen.2]
      · simp at h

/-- Reading a database leaves a connection as it is. -/
def IsSettled (c : Connection) (d : Files) : Prop := (c.load d).2 = c

/-- A connection that has loaded once is settled: loading again changes nothing. -/
theorem isSettled_load (c : Connection) (d : Files) : (c.load d).2.IsSettled d := by
  rcases hlook : c.look d with ⟨_ | _ | ⟨t, v⟩, c'⟩
  · simp [IsSettled, load, hlook, look_unreadable hlook]
  · obtain ⟨rfl, hagain⟩ := look_blank hlook
    simp [IsSettled, load, hlook, hagain]
  · simp [IsSettled, load, hlook, look_look hlook]

/-- A write that fails leaves a connection as it is. -/
theorem IsSettled.eq_of_persist {c c' : Connection} {d : Files} (h : c.IsSettled d)
    {cs : List Cookie} (hpersist : c.persist cs d = (none, c')) : c' = c := by
  rcases hlook : c.look d with ⟨_ | _ | ⟨t, v⟩, e⟩
  · have heq : e = c := by simpa [IsSettled, load, hlook] using h
    rw [persist, hlook] at hpersist
    exact (Prod.mk.inj hpersist).2.symm.trans heq
  · -- The connection has forgotten the table already, so it has nothing to forget.
    obtain ⟨rfl, _⟩ := look_blank hlook
    have hforgotten : { e with knowsTable := false } = e := by
      simpa [IsSettled, load, hlook] using h
    rw [persist, hlook] at hpersist
    rw [← (Prod.mk.inj hpersist).2, ← hforgotten, Bool.false_and]
  · have heq : e = c := by simpa [IsSettled, load, hlook] using h
    simp only [persist, hlook] at hpersist
    split at hpersist
    · split at hpersist
      · simp at hpersist
      · exact (Prod.mk.inj hpersist).2.symm.trans heq
    · exact (Prod.mk.inj hpersist).2.symm.trans heq

end Storage.Connection

namespace Store

/-! ## Stores -/

/-- Reading a store leaves it as it is. -/
def IsSettled (store : Store) (s : Storage) : Prop := (store.load s).2 = store

/-- The medium has no part in whether a store is settled. -/
@[simp] theorem isSettled_on (store : Store) (s : Storage) (m : Storage.Medium) :
    store.IsSettled (s.on m) ↔ store.IsSettled s := by
  cases store with
  | memory => exact Iff.rfl
  | json p => exact Iff.rfl
  | sqlite c => exact Iff.rfl

/-- Loading from a database store is loading over its connection. -/
theorem load_sqlite (c : Connection) (s : Storage) :
    (sqlite c).load s = (match (c.load s.directory).1 with
      | some cs => .ok cs
      | none => .error .sqlite, .sqlite (c.load s.directory).2) := by
  simp only [load]
  rcases c.load s.directory with ⟨_ | cs, c'⟩
  · rfl
  · rfl

/-- A database store is settled when its connection is. -/
@[simp] theorem isSettled_sqlite {c : Connection} {s : Storage} :
    (sqlite c).IsSettled s ↔ c.IsSettled s.directory := by
  simp [IsSettled, load_sqlite, Connection.IsSettled]

/-- A store that has been read has settled. -/
theorem isSettled_load (store : Store) (s : Storage) : (store.load s).2.IsSettled s := by
  cases store with
  | memory => rfl
  | json p => rfl
  | sqlite c =>
    rw [load_sqlite, isSettled_sqlite]
    exact Connection.isSettled_load c s.directory

/-- What a store makes of the cookies that it is to keep. -/
def asKept (store : Store) (cs : List Cookie) : List Cookie :=
  match store with
  | .memory => cs
  | .json _ => cs
  | .sqlite _ => (CookieTable.ofCookies cs).cookies

/-- Stores that keep lists keep them as they are. -/
theorem asKept_of_keepsLists {store : Store} (h : store.KeepsLists) (cs : List Cookie) :
    store.asKept cs = cs := by
  cases store with
  | memory => rfl
  | json p => rfl
  | sqlite c => exact h.elim

/-- What is kept and has not expired does not depend on cookies that have expired. -/
theorem filter_asKept (store : Store) {cs : List Cookie} (h : Cookie.InKeyOrder cs) (now : Int) :
    (store.asKept cs).filter (!·.isExpired now) =
      (store.asKept (cs.filter (!·.isExpired now))).filter (!·.isExpired now) := by
  cases store with
  | memory => simp [asKept, List.filter_filter]
  | json p => simp [asKept, List.filter_filter]
  | sqlite c => exact CookieTable.filter_cookies_ofCookies h now

/-- A settled store after a write. The write fails and changes nothing; or the store keeps what it
    makes of these cookies, and has settled again. -/
theorem persist_settled_spec {store : Store} {s : Storage} (hstore : store.IsSettled s)
    (cs : List Cookie) :
    match store.persist cs s with
    | (.ok (), store', t) =>
      store'.asKept = store.asKept ∧ store'.IsSettled t ∧ store'.kept t = .ok (store.asKept cs)
    | (.error _, store', t) => store' = store ∧ store.IsSettled t ∧ store.kept t = store.kept s := by
  by_cases hlists : store.KeepsLists
  · -- Memory and files remember nothing from one use to the next.
    have h := persist_spec hlists cs s
    split
    · rename_i heq
      rw [heq] at h
      obtain ⟨rfl, hkept⟩ := h
      exact ⟨rfl, load_snd hlists _, by rw [hkept, asKept_of_keepsLists hlists]⟩
    · rename_i heq
      rw [heq] at h
      obtain ⟨rfl, hkept⟩ := h
      exact ⟨rfl, load_snd hlists _, hkept⟩
  · obtain ⟨c, rfl⟩ : ∃ c, store = sqlite c := by
      cases store with
      | memory => exact absurd trivial hlists
      | json p => exact absurd trivial hlists
      | sqlite c => exact ⟨c, rfl⟩
    rcases hpersist : c.persist cs s.directory with ⟨_ | d, c'⟩
    · -- The write fails, and the connection remembers nothing of it.
      obtain rfl := (isSettled_sqlite.1 hstore).eq_of_persist hpersist
      simpa only [persist, hpersist, true_and, and_true] using hstore
    · -- What the connection has written is what it has seen last.
      have hload := Connection.load_persist hpersist
      simp only [persist, hpersist]
      refine ⟨rfl, isSettled_sqlite.2 (congrArg Prod.snd hload), ?_⟩
      rw [kept, load_sqlite]
      change (match (c'.load d).1 with
        | some cs => Except.ok cs
        | none => .error StoreError.sqlite) = _
      rw [hload]
      rfl

end Store

end HttpState
