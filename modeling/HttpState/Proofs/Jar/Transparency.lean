import HttpState.Proofs.Jar.Durability
import HttpState.Proofs.Storage.Settled

/-!
# A store is not seen through its jar

A jar answers in the same way whether it has a store or not, when it writes to this store, and
whether the writes succeed: what a store does never comes back to the jar once it has been opened.

Two jars over the same store that write at different times, and fail to at different times, keep
different lists most of the time. But both take notice of the same changes. If there are none, both
stores keep what they kept before. If there are some, a flush that succeeds leaves in each store a
snapshot of the jar, which may be older than the flush if nothing was left to write; and snapshots
of different times only differ in what has expired in between.

## Key results

- `Session.trace_eq`: what is seen of a jar with a store is what is seen of its jar alone
- `Session.Twins.step`, `Session.Twins.run`: what the two stores keep, step by step
- `persistence_is_transparent`: both together, from any content of a store of any kind
-/

namespace HttpState

/-- What can be seen of a jar at some time. -/
structure Jar.View where
  header? : Address → Option String
  hasCookies : Bool
  count : Nat
  accepts : Bool

/-- What is seen of a jar when the clock reads `now`. -/
def Jar.view (j : Jar) (now : Int) : Jar.View where
  header? a := j.header? a now
  hasCookies := j.hasCookies
  count := j.count
  accepts := j.accepts

namespace PersistentJar

/-! ## What is seen -/

/-- An operation without the medium that it happens on, after the nanoseconds that have passed. -/
def Step.call (t : Step) : Nat × Operation := (t.wait, t.operation)

/-- Whether an operation on a jar with a store has stored a cookie, if this is what it is about. -/
def Operation.stored? (now : Int) (j : PersistentJar) (s : Storage) : Operation → Option Bool
  | .receive a header => some (j.receive a header s now).1
  | _ => none

/-- Whether an operation on a jar without a store has stored a cookie, if this is what it is
    about. -/
def Operation.storedIn? (now : Int) (j : Jar) : Operation → Option Bool
  | .receive a header => some (j.receive a header now).1
  | _ => none

/-- What is seen of a jar with a store, after each step. -/
def Session.trace (σ : Session) : List Step → List (Option Bool × Jar.View)
  | [] => []
  | t :: steps =>
    let now := σ.clock + t.wait
    (t.operation.stored? now σ.jar (σ.storage.on t.medium), (σ.step t).jar.jar.view now) ::
      (σ.step t).trace steps

/-- What is seen of a jar without a store, after each operation. -/
def bareTrace (j : Jar) (clock : Int) : List (Nat × Operation) → List (Option Bool × Jar.View)
  | [] => []
  | (wait, op) :: calls =>
    let now := clock + wait
    (op.storedIn? now j, (op.changeJar now j).view now) ::
      bareTrace (op.changeJar now j) now calls

namespace Session

/-- The bare jar of a session makes the same step as the session. -/
theorem jar_step (σ : Session) (t : Step) :
    (σ.step t).jar.jar = t.operation.changeJar (σ.clock + t.wait) σ.jar.jar :=
  Operation.jar_apply _ _ _ _

/-- A jar with a store is seen as if it had none. -/
theorem trace_eq (σ : Session) (steps : List Step) :
    σ.trace steps = bareTrace σ.jar.jar σ.clock (steps.map Step.call) := by
  induction steps generalizing σ with
  | nil => rfl
  | cons t steps ih =>
    have hstored : t.operation.stored? (σ.clock + t.wait) σ.jar (σ.storage.on t.medium) =
        t.operation.storedIn? (σ.clock + t.wait) σ.jar.jar := by
      cases t.operation <;> rfl
    rw [List.map_cons, Step.call, trace, bareTrace, ih, hstored, jar_step]
    rfl

/-! ## What the store keeps -/

/-- The jar is valid and its store has settled. -/
structure Sound (σ : Session) : Prop where
  valid : σ.jar.jar.Valid
  settled : σ.jar.store.IsSettled σ.storage

/-- Nothing has been written, and there is nothing to write. -/
structure Untouched (kept : Except StoreError (List Cookie)) (σ : Session) : Prop where
  clean : σ.jar.dirty = false
  kept_eq : σ.jar.store.kept σ.storage = kept

/-- If there is nothing to write, the store keeps what it makes of a list that agrees with the
    jar. -/
def Recorded (σ : Session) : Prop :=
  σ.jar.dirty = false → ∃ cs, Cookie.InKeyOrder cs ∧
    σ.jar.store.kept σ.storage = .ok (σ.jar.store.asKept cs) ∧
    cs.filter (!·.isExpired σ.clock) = σ.jar.jar.snapshot σ.clock

/-- What one step can do to a store that has settled. The store keeps what it has, as there is no
    write or it fails. Or the jar has something to write, and the store keeps what it makes of the
    snapshot. -/
theorem step_settled_cases {σ : Session} (hstore : σ.jar.store.IsSettled σ.storage) (t : Step) :
    let now := σ.clock + t.wait
    let prepared := t.operation.prepare now σ.jar
    (σ.step t).jar.store.IsSettled (σ.step t).storage ∧
      (σ.step t).jar.store.asKept = σ.jar.store.asKept ∧
      (((σ.step t).jar = prepared ∧
          (σ.step t).jar.store.kept (σ.step t).storage = σ.jar.store.kept σ.storage) ∨
        (prepared.dirty = true ∧ (σ.step t).jar.store.kept (σ.step t).storage =
          .ok (σ.jar.store.asKept (prepared.jar.snapshot now)))) := by
  intro now prepared
  rcases σ.step_eq t with ⟨_, hjar, hstorage⟩ | ⟨_, hdirty, hjar, hstorage⟩
  · -- Nothing was written: the store is as it was, on another medium at most.
    rw [hjar, hstorage]
    exact ⟨(Store.isSettled_on _ _ _).2 hstore, rfl, .inl ⟨rfl, Store.kept_on _ _ _⟩⟩
  · rw [hjar, hstorage]
    have hsettled : prepared.store.IsSettled (σ.storage.on t.medium) :=
      (Store.isSettled_on _ _ _).2 hstore
    have hspec := Store.persist_settled_spec hsettled (prepared.jar.snapshot now)
    unfold persist
    -- The write succeeded, and the store keeps the snapshot.
    split
    · rename_i store s heq
      rw [heq] at hspec
      obtain ⟨hkind, hsettled, hkept⟩ := hspec
      exact ⟨hsettled, hkind, .inr ⟨hdirty, hkept⟩⟩
    · rename_i e store s heq
      rw [heq] at hspec
      obtain ⟨rfl, hsettled, hkept⟩ := hspec
      exact ⟨hsettled, rfl, .inl ⟨rfl, hkept⟩⟩

/-- A step keeps a session sound. -/
theorem Sound.step {σ : Session} (h : σ.Sound) (t : Step) : (σ.step t).Sound := by
  refine ⟨?_, (step_settled_cases h.settled t).1⟩
  rw [jar_step]
  exact (Operation.valid_changeJar h.valid _ t.operation).1

/-- A step that notices no change touches nothing that was untouched. -/
theorem Untouched.step {kept : Except StoreError (List Cookie)} {σ : Session} (hσ : σ.Sound)
    (h : σ.Untouched kept) {t : Step}
    (ht : t.operation.isNoticed (σ.clock + t.wait) σ.jar.jar = false) :
    (σ.step t).Untouched kept := by
  have hclean : (t.operation.prepare (σ.clock + t.wait) σ.jar).dirty = false := by
    simp [Operation.prepare, h.clean, ht]
  obtain ⟨_, _, ⟨hjar, hkept⟩ | ⟨hdirty, _⟩⟩ := step_settled_cases hσ.settled t
  · exact ⟨hjar ▸ hclean, hkept.trans h.kept_eq⟩
  · rw [hclean] at hdirty
    exact absurd hdirty Bool.false_ne_true

/-- After a step that notices a change, or before which this was so already, a jar that has nothing
    to write is recorded. -/
theorem recorded_step {σ : Session} (hσ : σ.Sound) {t : Step}
    (h : t.operation.isNoticed (σ.clock + t.wait) σ.jar.jar = true ∨ σ.Recorded) :
    (σ.step t).Recorded := by
  intro hclean
  obtain ⟨_, hkind, ⟨hjar, hkept⟩ | ⟨_, hkept⟩⟩ := step_settled_cases hσ.settled t
  · -- There was no change to notice, and nothing to write before.
    rw [hjar] at hclean
    have hbefore : σ.Recorded := by
      refine h.resolve_left ?_
      simp only [Operation.prepare, Bool.or_eq_false_iff] at hclean
      simp [hclean.2]
    obtain ⟨cs, horder, hcs, hagree⟩ := hbefore (snapshot_prepare hσ.valid hclean).1
    refine ⟨cs, horder, by rw [hkept, hcs, hkind], ?_⟩
    rw [hjar]
    exact filter_eq_snapshot_prepare hσ.valid hclean hagree
  · -- The snapshot has just been written.
    have hvalid := (Operation.valid_changeJar hσ.valid (σ.clock + t.wait) t.operation).1
    refine ⟨_, Jar.inKeyOrder_snapshot hvalid (σ.clock + t.wait), by rw [hkind]; exact hkept, ?_⟩
    rw [jar_step]
    exact Jar.filter_snapshot_self hvalid _

/-! ## Two jars over the same store -/

/-- Two jars that were opened over the same store, which kept a certain list then, and that have
    been used in the same way since. Either no change has been noticed, or some have been. -/
structure Twins (kept : Except StoreError (List Cookie)) (σ τ : Session) : Prop where
  jar : τ.jar.jar = σ.jar.jar
  clock : τ.clock = σ.clock
  sound : σ.Sound
  sound' : τ.Sound
  asKept : τ.jar.store.asKept = σ.jar.store.asKept
  stores : (σ.Untouched kept ∧ τ.Untouched kept) ∨ (σ.Recorded ∧ τ.Recorded)

/-- The same operation, at the same time but on different media. -/
theorem Twins.step {kept : Except StoreError (List Cookie)} {σ τ : Session}
    (h : Twins kept σ τ) {t u : Step} (hcall : u.call = t.call) :
    Twins kept (σ.step t) (τ.step u) := by
  obtain ⟨hjar, hclock, hσ, hτ, hkind, hstores⟩ := h
  obtain ⟨hwait, hop⟩ := Prod.mk.inj hcall
  have hnow : τ.clock + u.wait = σ.clock + t.wait := by rw [hclock, hwait]
  refine ⟨?_, hnow, hσ.step t, hτ.step u, ?_, ?_⟩
  · rw [jar_step, jar_step, hnow, hop, hjar]
  · rw [(step_settled_cases hτ.settled u).2.1, (step_settled_cases hσ.settled t).2.1, hkind]
  · have hnotices : u.operation.isNoticed (τ.clock + u.wait) τ.jar.jar =
        t.operation.isNoticed (σ.clock + t.wait) σ.jar.jar := by rw [hnow, hop, hjar]
    -- Whether a change is noticed is up to the jar and the clock, not to the store.
    cases hnoticed : t.operation.isNoticed (σ.clock + t.wait) σ.jar.jar with
    | true =>
      exact .inr ⟨recorded_step hσ (.inl hnoticed), recorded_step hτ (.inl (hnotices ▸ hnoticed))⟩
    | false =>
      refine hstores.imp ?_ ?_
      · rintro ⟨huntouched, huntouched'⟩
        exact ⟨huntouched.step hσ hnoticed, huntouched'.step hτ (hnotices ▸ hnoticed)⟩
      · rintro ⟨hrecorded, hrecorded'⟩
        exact ⟨recorded_step hσ (.inr hrecorded), recorded_step hτ (.inr hrecorded')⟩

/-- Twins that get the same calls remain twins, however they are stepped: by induction on the calls,
    with whatever waits and media the other list has. -/
theorem Twins.run {kept : Except StoreError (List Cookie)} {σ τ : Session} (h : Twins kept σ τ)
    {steps steps' : List Step} (hcalls : steps'.map Step.call = steps.map Step.call) :
    Twins kept (σ.run steps) (τ.run steps') := by
  induction steps generalizing σ τ steps' with
  | nil =>
    obtain rfl := List.map_eq_nil_iff.1 hcalls
    exact h
  | cons t steps ih =>
    cases steps' with
    | nil => exact nomatch hcalls
    | cons u steps' =>
      -- Both make the same call, and go on with the same calls.
      obtain ⟨hcall, hrest⟩ := List.cons.inj hcalls
      exact ih (h.step hcall) hrest

/-- Stores that keep something with nothing left to write keep the same, up to what has expired. -/
theorem Twins.kept_eq {kept : Except StoreError (List Cookie)} {σ τ : Session}
    (h : Twins kept σ τ) (hσ : σ.jar.dirty = false) (hτ : τ.jar.dirty = false) :
    (τ.jar.store.kept τ.storage).map (·.filter (!·.isExpired σ.clock)) =
      (σ.jar.store.kept σ.storage).map (·.filter (!·.isExpired σ.clock)) := by
  rcases h.stores with ⟨huntouched, huntouched'⟩ | ⟨hrecorded, hrecorded'⟩
  · rw [huntouched.kept_eq, huntouched'.kept_eq]
  · obtain ⟨cs, horder, hcs, hagree⟩ := hrecorded hσ
    obtain ⟨ds, horder', hds, hagree'⟩ := hrecorded' hτ
    rw [h.clock, h.jar] at hagree'
    -- The two lists may have been written at different times. What has not expired of them by now
    -- is the snapshot of the jar in both cases.
    have hsame : (σ.jar.store.asKept ds).filter (!·.isExpired σ.clock) =
        (σ.jar.store.asKept cs).filter (!·.isExpired σ.clock) := by
      rw [Store.filter_asKept _ horder, Store.filter_asKept _ horder', hagree, hagree']
    rw [hcs, hds, h.asKept, Except.map, Except.map, hsame]

/-- A flush succeeds, `wait` nanoseconds after the last operation and on a medium in this
    condition. -/
def Flushes (σ : Session) (wait : Nat) (m : Storage.Medium) : Prop :=
  (σ.jar.flush (σ.storage.on m) (σ.clock + wait)).1 = .ok ()

/-- What the store of a jar can be read for, without what has expired. -/
def readable (σ : Session) (m : Storage.Medium) : Except StoreError (List Cookie) :=
  (σ.jar.store.load (σ.storage.on m)).1.map (·.filter (!·.isExpired σ.clock))

end Session

/-- Take a store of any kind with any content that can be read, and any jar without a store, made
    with any limits and used in any way. Open the jar over the store twice, once to write when it is
    flushed and once to write on every change, and load the cookies of the store into the jar once
    without a store. Let the same operations follow at the same times, while the media refuse what
    they like.

    What is seen of all three jars after each operation is the same. And if a flush succeeds at the
    end in both of the jars with a store, both stores can be read for the same cookies, up to those
    that have expired. -/
theorem persistence_is_transparent (perHost total : Nat) (ops : List (Int × Jar.Operation))
    {store : Store} {s : Storage} {now : Int} {cs : List Cookie}
    (hload : (store.load s).1 = .ok cs) {steps steps' : List Step}
    (hcalls : steps'.map Step.call = steps.map Step.call) :
    let jar := (Jar.empty (.of perHost total)).run ops
    ∃ j j', load jar store .onFlush s now = .ok j ∧ load jar store .onWrite s now = .ok j' ∧
      let bare := jar.load cs now
      let σ := Session.start j s now
      let τ := Session.start j' s now
      σ.trace steps = bareTrace bare now (steps.map Step.call) ∧
      τ.trace steps' = bareTrace bare now (steps.map Step.call) ∧
      ∀ wait m m', (σ.run steps).Flushes wait m → (τ.run steps').Flushes wait m' →
        ∀ r, r.offline = false →
          ((σ.run steps).step ⟨wait, m, .flush⟩).readable r =
            ((τ.run steps').step ⟨wait, m', .flush⟩).readable r := by
  intro jar
  refine ⟨_, _, load_of_read .onFlush hload, load_of_read .onWrite hload, ?_⟩
  intro bare σ τ
  refine ⟨σ.trace_eq steps, hcalls ▸ τ.trace_eq steps', ?_⟩
  intro wait m m' hflush hflush' r hr
  have hvalid : jar.Valid := Jar.valid_run (.of perHost total) ops
  -- Two sessions that have just been loaded are twins, as nobody has written to either store.
  have hsound : σ.Sound := ⟨(hvalid.foldl_insert _).1, Store.isSettled_load store s⟩
  have hsound' : τ.Sound := ⟨(hvalid.foldl_insert _).1, Store.isSettled_load store s⟩
  have htwins : Session.Twins ((store.load s).2.kept s) σ τ :=
    ⟨rfl, rfl, hsound, hsound', rfl, .inl ⟨⟨rfl, rfl⟩, ⟨rfl, rfl⟩⟩⟩
  -- The flush is one more call to both, and leaves nothing unsaved in either.
  have hlast := (htwins.run hcalls).step (t := ⟨wait, m, .flush⟩) (u := ⟨wait, m', .flush⟩) rfl
  have hkept := hlast.kept_eq (Session.dirty_step_of_flush hflush)
    (Session.dirty_step_of_flush hflush')
  rw [Session.readable, Session.readable, Store.load_on _ _ hr, Store.load_on _ _ hr, hlast.clock]
  exact hkept.symm

/-- A database that is still empty. The jar that writes on every change fails to write its cookie,
    the other one does not try to, and both are flushed a second later. -/
theorem persistence_is_transparent_after_failure :
    let s := ((StorePlace.sqlite ["db"]).openStore .empty).2
    let store : Store := .sqlite ⟨["db"], 0, 1, true⟩
    let received := Operation.receive ⟨"a.b", "/", .plain⟩ "k=v; Max-Age=60"
    let σ := (Session.start (attach (Jar.empty (.of 1 1)) store .onFlush) s 0).run
      [⟨0, .working, received⟩]
    let τ := (Session.start (attach (Jar.empty (.of 1 1)) store .onWrite) s 0).run
      [⟨0, ⟨false, true, false⟩, received⟩]
    let flush : Step := ⟨1000000000, .working, .flush⟩
    (σ.step flush).readable .working = (τ.step flush).readable .working ∧
      ((σ.step flush).readable .working).map List.length = .ok 1 := by
  intro s store received σ τ flush
  have hread : (store.load s).1 = .ok [] := by decide +kernel
  have hsettled : (store.load s).2 = store := by decide +kernel
  have hcalls : [Step.mk 0 ⟨false, true, false⟩ received].map Step.call =
      [Step.mk 0 .working received].map Step.call := rfl
  have hopen : ∀ mode, load ((Jar.empty (.of 1 1)).run []) store mode s 0 =
      .ok (attach (Jar.empty (.of 1 1)) store mode) := by
    intro mode
    rw [load_of_read mode hread, hsettled]
    rfl
  obtain ⟨j, j', hj, hj', _, _, hreadable⟩ :=
    @persistence_is_transparent 1 1 [] store s 0 [] hread _ _ hcalls
  obtain rfl := Except.ok.inj (hj.symm.trans (hopen .onFlush))
  obtain rfl := Except.ok.inj (hj'.symm.trans (hopen .onWrite))
  -- Both modes open the same jar: it was read from the same store.
  have hflush : σ.Flushes 1000000000 .working := by
    unfold Session.Flushes
    decide +kernel
  have hflush' : τ.Flushes 1000000000 .working := by
    unfold Session.Flushes
    decide +kernel
  exact ⟨hreadable _ _ _ hflush hflush' _ rfl, by decide +kernel⟩

end PersistentJar

end HttpState
