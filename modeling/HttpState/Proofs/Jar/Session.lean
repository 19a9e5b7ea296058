import HttpState.Jar.Persistent
import HttpState.Proofs.Jar.Snapshot
import HttpState.Proofs.Storage.Store

/-!
# Using a jar with a store

The operations on a jar with a store, and what comes of the jar and of its store when they follow
one another while time passes and the medium works or refuses to.

Each operation decides on its own whether it has changed something, and may then write the jar. Here
they all take the same form: the jar within the store changes, the change is noticed or not, and the
jar is written or not.

## Key results

- `Operation.apply_eq`: an operation in this form
- `Operation.persistent_changeJar`: changes of persistent cookies are noticed
- `Session.step_eq`: a step in this form
- `Session.step_cases`: what one step can do to jar and store
-/

namespace HttpState.PersistentJar

/-- Persisting a jar does not change the cookies in it. -/
theorem jar_persist (j : PersistentJar) (s : Storage) (now : Int) :
    (j.persist s now).2.1.jar = j.jar := by
  unfold persist
  split
  · rfl
  · rfl

/-! ## Operations -/

/-- An operation on a jar with a store. -/
inductive Operation where
  | receive (a : Address) (header : String)
  | request (a : Address)
  | removeAll
  | removeExpired
  | removeSession
  | setAccepts (accepts : Bool)
  | flush
  deriving DecidableEq, Repr

namespace Operation

/-- The jar and the storage after an operation when the clock reads `now`. A request only asks for
    a header. -/
def apply (now : Int) (j : PersistentJar) (s : Storage) : Operation → PersistentJar × Storage
  | .receive a header => (j.receive a header s now).2
  | .request _ => (j, s)
  | .removeAll => j.removeAll s now
  | .removeExpired => j.removeExpired s now
  | .removeSession => (j.removeSession, s)
  | .setAccepts accepts => (j.setAccepts accepts, s)
  | .flush => (j.flush s now).2

/-- What an operation does to the jar within the store. -/
def changeJar (now : Int) (j : Jar) : Operation → Jar
  | .receive a header => (j.receive a header now).2
  | .request _ => j
  | .removeAll => j.removeAll
  | .removeExpired => j.removeExpired now
  | .removeSession => j.removeSession
  | .setAccepts accepts => j.setAccepts accepts
  | .flush => j

/-- Whether an operation notices that it has changed something. -/
def isNoticed (now : Int) (j : Jar) : Operation → Bool
  | .receive a header =>
    (j.receive a header now).1 || (j.receive a header now).2.count != j.count
  | .removeAll => true
  | .removeExpired => (j.removeExpired now).count != j.count
  | _ => false

/-- The jar after an operation, as it is before the operation writes it. -/
def prepare (now : Int) (j : PersistentJar) (op : Operation) : PersistentJar :=
  { j with jar := op.changeJar now j.jar, dirty := j.dirty || op.isNoticed now j.jar }

/-- Whether an operation writes the jar. -/
def isWriting (now : Int) (j : PersistentJar) : Operation → Bool
  | .flush => j.dirty
  | op => j.mode == .onWrite && op.isNoticed now j.jar

/-- An operation prepares the jar, and then writes it or not. -/
theorem apply_eq (now : Int) (j : PersistentJar) (s : Storage) (op : Operation) :
    op.apply now j s = if op.isWriting now j then ((op.prepare now j).persist s now).2
      else (op.prepare now j, s) := by
  obtain ⟨jar, store, mode, dirty⟩ := j
  -- What the operations that may write have in common, with the change they notice.
  have hchanged : ∀ (b : Bool) (jar' : Jar),
      changedIf b ⟨jar', store, mode, dirty⟩ s now =
        if mode == .onWrite && b then (persist ⟨jar', store, mode, dirty || b⟩ s now).2
        else (⟨jar', store, mode, dirty || b⟩, s) := by
    intro b jar'
    cases b <;> cases mode <;> simp [changedIf, changed]
  cases op with
  | receive a header => exact hchanged _ _
  | request a => simp [apply, isWriting, isNoticed, prepare, changeJar]
  | removeAll => exact hchanged true _
  | removeExpired => exact hchanged _ _
  | removeSession =>
    simp [apply, isWriting, isNoticed, prepare, changeJar, PersistentJar.removeSession]
  | setAccepts accepts =>
    simp [apply, isWriting, isNoticed, prepare, changeJar, PersistentJar.setAccepts]
  | flush =>
    cases dirty <;>
      simp [apply, isWriting, isNoticed, prepare, changeJar, PersistentJar.flush]

/-- What an operation does to the jar within the store does not depend on the store. -/
theorem jar_apply (now : Int) (j : PersistentJar) (s : Storage) (op : Operation) :
    (op.apply now j s).1.jar = op.changeJar now j.jar := by
  rw [apply_eq]
  split
  · exact jar_persist _ s now
  · rfl

/-- Every operation keeps the jar valid. -/
theorem valid_changeJar {j : Jar} (hv : j.Valid) (now : Int) (op : Operation) :
    (op.changeJar now j).Valid ∧ (op.changeJar now j).limits = j.limits := by
  cases op with
  | receive a header => exact hv.receive a header now
  | request a => exact ⟨hv, rfl⟩
  | removeAll => exact ⟨hv.removeAll, rfl⟩
  | removeExpired => exact ⟨hv.filter _, rfl⟩
  | removeSession => exact ⟨hv.filter _, rfl⟩
  | setAccepts accepts => exact ⟨hv.setAccepts accepts, rfl⟩
  | flush => exact ⟨hv, rfl⟩

/-- An operation that changes the persistent cookies notices it. -/
theorem persistent_changeJar {now : Int} {j : Jar} (hv : j.Valid) {op : Operation}
    (h : op.isNoticed now j = false) : (op.changeJar now j).persistent = j.persistent := by
  cases op with
  | receive a header =>
    -- A header that is not noticed stored nothing and withdrew nothing.
    simp only [isNoticed, Bool.or_eq_false_iff, bne_eq_false_iff_eq] at h
    rw [changeJar, Jar.receive_of_count_eq hv h.1 h.2]
  | request a => rfl
  | removeAll => exact nomatch h
  | removeExpired =>
    -- As many cookies are left as before, so none has expired.
    simp only [isNoticed, bne_eq_false_iff_eq] at h
    rw [changeJar, Jar.persistent, Jar.removeExpired, Jar.cookies_filter_of_count_eq h]
    rfl
  | removeSession =>
    -- Session cookies are removed, which are not among the persistent ones.
    rw [changeJar, Jar.persistent, Jar.removeSession, Jar.cookies_filter, List.filter_filter]
    simp [Jar.persistent]
  | setAccepts accepts => rfl
  | flush => rfl

/-- An operation that writes leaves something to write. -/
theorem dirty_prepare_of_isWriting {now : Int} {j : PersistentJar} {op : Operation}
    (h : op.isWriting now j = true) : (op.prepare now j).dirty = true := by
  cases op with
  | flush => simpa [prepare, isNoticed, isWriting] using h
  | _ =>
    simp only [isWriting, Bool.and_eq_true] at h
    simp [prepare, h.2]

end Operation

/-- Writing a jar: the store does not see it and keeps what it has, or it keeps the snapshot and
    the jar is clean. -/
theorem persist_cases {j : PersistentJar} (hstore : j.store.KeepsLists) (s : Storage) (now : Int) :
    (∃ e, (j.persist s now).1 = .error e ∧ (j.persist s now).2.1 = j ∧
      j.store.kept (j.persist s now).2.2 = j.store.kept s) ∨
    ((j.persist s now).1 = .ok () ∧ (j.persist s now).2.1 = { j with dirty := false } ∧
      j.store.kept (j.persist s now).2.2 = .ok (j.jar.snapshot now)) := by
  have h := Store.persist_spec hstore (j.jar.snapshot now) s
  unfold persist
  -- A failed write leaves the jar unsaved, and what the store kept.
  split
  · rename_i store t heq
    rw [heq] at h
    obtain ⟨rfl, hkept⟩ := h
    exact .inr ⟨rfl, rfl, hkept⟩
  · rename_i e store t heq
    rw [heq] at h
    obtain ⟨rfl, hkept⟩ := h
    exact .inl ⟨e, rfl, rfl, hkept⟩

/-- A jar can be opened over a store that can be read. -/
theorem load_of_read {jar : Jar} {store : Store} (mode : WriteMode) {s : Storage}
    {now : Int} {cs : List Cookie} (hload : (store.load s).1 = .ok cs) :
    load jar store mode s now = .ok (attach (jar.load cs now) (store.load s).2 mode) := by
  unfold load
  rcases hread : store.load s with ⟨r, store'⟩
  rw [hread] at hload
  subst hload
  rfl

/-! ## Sessions -/

/-- An operation, some time after the last one and on a medium in some condition. -/
structure Step where
  /-- The nanoseconds that have passed. -/
  wait : Nat
  medium : Storage.Medium
  operation : Operation
  deriving DecidableEq, Repr

/-- A jar in use, from when it was opened on. -/
structure Session where
  jar : PersistentJar
  storage : Storage
  /-- What the clock reads. -/
  clock : Int
  /-- A write has succeeded. -/
  written : Bool

namespace Session

/-- A session begins. -/
def start (jar : PersistentJar) (storage : Storage) (clock : Int) : Session :=
  ⟨jar, storage, clock, false⟩

/-- What comes of the write of a step, if it writes; see `Operation.apply_eq`. -/
def write? (σ : Session) (t : Step) : Option (Except StoreError Unit) :=
  let now := σ.clock + t.wait
  if t.operation.isWriting now σ.jar then
    some ((t.operation.prepare now σ.jar).persist (σ.storage.on t.medium) now).1
  else none

/-- Whether a step writes and this succeeds. -/
def isSaving (σ : Session) (t : Step) : Bool :=
  match σ.write? t with
  | some (.ok ()) => true
  | _ => false

/-- A session goes on by a step. -/
def step (σ : Session) (t : Step) : Session :=
  let now := σ.clock + t.wait
  let (jar, storage) := t.operation.apply now σ.jar (σ.storage.on t.medium)
  ⟨jar, storage, now, σ.written || σ.isSaving t⟩

/-- A session goes on by steps. -/
def run (σ : Session) (steps : List Step) : Session := steps.foldl step σ

/-- What every step keeps holds after every run. -/
theorem run_of_step {P : Session → Prop} (hstep : ∀ {σ : Session}, P σ → ∀ t, P (σ.step t))
    {σ : Session} (h : P σ) (steps : List Step) : P (σ.run steps) := by
  induction steps generalizing σ with
  | nil => exact h
  | cons t steps ih => exact ih (hstep h t)

/-- A step prepares the jar. It leaves it at that, or it has something to write and writes it. -/
theorem step_eq (σ : Session) (t : Step) :
    let now := σ.clock + t.wait
    let prepared := t.operation.prepare now σ.jar
    let written := prepared.persist (σ.storage.on t.medium) now
    (σ.write? t = none ∧ (σ.step t).jar = prepared ∧
        (σ.step t).storage = σ.storage.on t.medium) ∨
      (σ.write? t = some written.1 ∧ prepared.dirty = true ∧ (σ.step t).jar = written.2.1 ∧
        (σ.step t).storage = written.2.2) := by
  intro now prepared written
  -- The step is its operation on the medium as it is now.
  have happly := t.operation.apply_eq now σ.jar (σ.storage.on t.medium)
  have hjar : (σ.step t).jar = (t.operation.apply now σ.jar (σ.storage.on t.medium)).1 := rfl
  have hstorage : (σ.step t).storage =
      (t.operation.apply now σ.jar (σ.storage.on t.medium)).2 := rfl
  -- The operation writes only in the mode that says so, or when it flushes.
  cases hwriting : t.operation.isWriting now σ.jar with
  | false =>
    rw [hwriting] at happly
    rw [hjar, hstorage, happly]
    exact .inl ⟨by simp [write?, now, hwriting], rfl, rfl⟩
  | true =>
    rw [hwriting, if_pos rfl] at happly
    rw [hjar, hstorage, happly]
    refine .inr ⟨?_, Operation.dirty_prepare_of_isWriting hwriting, rfl, rfl⟩
    simp [write?, now, hwriting, prepared, written]

/-- What one step can do. It does not write. Or it writes, but the store keeps what it has. Or the
    store keeps the snapshot of the jar, which is clean then. -/
theorem step_cases {σ : Session} (hstore : σ.jar.store.KeepsLists) (t : Step) :
    let prepared := t.operation.prepare (σ.clock + t.wait) σ.jar
    (σ.step t).clock = σ.clock + t.wait ∧ (σ.step t).written = (σ.written || σ.isSaving t) ∧
      ((σ.write? t = none ∧ (σ.step t).jar = prepared ∧
          σ.jar.store.kept (σ.step t).storage = σ.jar.store.kept σ.storage) ∨
        (∃ e, σ.write? t = some (.error e) ∧ (σ.step t).jar = prepared ∧ prepared.dirty = true ∧
          σ.jar.store.kept (σ.step t).storage = σ.jar.store.kept σ.storage) ∨
        (σ.write? t = some (.ok ()) ∧ (σ.step t).jar = { prepared with dirty := false } ∧
          σ.jar.store.kept (σ.step t).storage =
            .ok (prepared.jar.snapshot (σ.clock + t.wait)))) := by
  intro prepared
  refine ⟨rfl, rfl, ?_⟩
  -- Without a write only the jar has changed, and the medium does not change what is kept.
  rcases σ.step_eq t with ⟨hwrite, hjar, hstorage⟩ | ⟨hwrite, hdirty, hjar, hstorage⟩
  · rw [hstorage]
    exact .inl ⟨hwrite, hjar, Store.kept_on _ _ _⟩
  · rw [hstorage, hjar, hwrite]
    have hkeeps : prepared.store.KeepsLists := hstore
    rcases persist_cases hkeeps (σ.storage.on t.medium) (σ.clock + t.wait) with
      ⟨e, hresult, hsame, hkept⟩ | ⟨hresult, hclean, hkept⟩
    · exact .inr (.inl ⟨e, by rw [hresult], hsame, hdirty, hkept⟩)
    · exact .inr (.inr ⟨by rw [hresult], hclean, hkept⟩)

/-- A jar that was flushed is clean. -/
theorem dirty_step_of_flush {σ : Session} {wait : Nat} {m : Storage.Medium}
    (h : (σ.jar.flush (σ.storage.on m) (σ.clock + wait)).1 = .ok ()) :
    (σ.step ⟨wait, m, .flush⟩).jar.dirty = false := by
  show (σ.jar.flush (σ.storage.on m) (σ.clock + wait)).2.1.dirty = false
  unfold flush persist at *
  -- With something unsaved a flush that succeeds has written; with nothing unsaved it does nothing.
  split at h
  · rename_i hdirty
    rw [if_pos hdirty]
    split at h
    · rfl
    · exact nomatch h
  · rename_i hdirty
    rw [if_neg hdirty]
    exact Bool.eq_false_iff.2 hdirty

/-- A step keeps the jar valid, with its limits and its store. -/
theorem valid_step {σ : Session} (hstore : σ.jar.store.KeepsLists) (hv : σ.jar.jar.Valid)
    (t : Step) : (σ.step t).jar.jar.Valid ∧ (σ.step t).jar.jar.limits = σ.jar.jar.limits ∧
      (σ.step t).jar.store = σ.jar.store := by
  obtain ⟨hvalid, hlimits⟩ := Operation.valid_changeJar hv (σ.clock + t.wait) t.operation
  obtain ⟨_, _, ⟨_, hjar, _⟩ | ⟨e, _, hjar, _⟩ | ⟨_, hjar, _⟩⟩ := step_cases hstore t
  · rw [hjar]
    exact ⟨hvalid, hlimits, rfl⟩
  · rw [hjar]
    exact ⟨hvalid, hlimits, rfl⟩
  · rw [hjar]
    exact ⟨hvalid, hlimits, rfl⟩

end Session

end HttpState.PersistentJar
