import HttpState.Proofs.Jar.Session

/-!
# What a clean jar can rely on

As long as a jar with a store has no changes that the store has not seen, and has been written once,
the store keeps what the jar would write. Time passes in the meantime, and what expires in the store
expires in the jar as well; so the two are compared without what has expired.

A step that leaves the jar clean has either written it, and then the store keeps the snapshot, or it
has found it clean and not changed any persistent cookie. That is all there is to the invariant.

## Key results

- `Session.agrees_step`: a step that leaves the jar clean
- `Session.Durable.step`, `Session.Durable.run`: the invariant
- `run_durable`: every run, from every content of the store
-/

namespace HttpState.PersistentJar

namespace Session

/-- What the store of a jar keeps and what has not expired of it is the snapshot of the jar. -/
def Agrees (σ : Session) : Prop :=
  ∃ cs, σ.jar.store.kept σ.storage = .ok cs ∧
    cs.filter (!·.isExpired σ.clock) = σ.jar.jar.snapshot σ.clock

/-- The persistent cookies change only if the change is noticed. -/
theorem snapshot_prepare {σ : Session} (hv : σ.jar.jar.Valid) {t : Step}
    (h : (t.operation.prepare (σ.clock + t.wait) σ.jar).dirty = false) :
    σ.jar.dirty = false ∧ (t.operation.prepare (σ.clock + t.wait) σ.jar).jar.persistent =
      σ.jar.jar.persistent := by
  simp only [Operation.prepare, Bool.or_eq_false_iff] at h
  exact ⟨h.1, Operation.persistent_changeJar hv h.2⟩

/-- As long as there is nothing to write, a list that agrees with the jar goes on doing so. -/
theorem filter_eq_snapshot_prepare {σ : Session} (hv : σ.jar.jar.Valid) {t : Step}
    (hclean : (t.operation.prepare (σ.clock + t.wait) σ.jar).dirty = false) {cs : List Cookie}
    (h : cs.filter (!·.isExpired σ.clock) = σ.jar.jar.snapshot σ.clock) :
    cs.filter (!·.isExpired (σ.clock + t.wait)) =
      (t.operation.prepare (σ.clock + t.wait) σ.jar).jar.snapshot (σ.clock + t.wait) := by
  have hle : σ.clock ≤ σ.clock + t.wait := by omega
  rw [← Cookie.filter_isExpired_of_le hle cs, h, Jar.filter_snapshot hv hle]
  exact (Jar.snapshot_eq_of_persistent_eq (snapshot_prepare hv hclean).2 _).symm

/-- After a step that leaves the jar clean, the store agrees with it, if it did so before wherever
    the jar was clean already and has not been written. -/
theorem agrees_step {σ : Session} (hstore : σ.jar.store.KeepsLists) (hv : σ.jar.jar.Valid)
    {t : Step} (hclean : (σ.step t).jar.dirty = false)
    (h : σ.jar.dirty = false → σ.write? t ≠ some (.ok ()) → σ.Agrees) : (σ.step t).Agrees := by
  obtain ⟨hvalid, _⟩ := Operation.valid_changeJar hv (σ.clock + t.wait) t.operation
  obtain ⟨_, _, heq⟩ := valid_step hstore hv t
  obtain ⟨hclock, _, ⟨hwrite, hjar, hkept⟩ | ⟨e, _, hjar, hdirty, _⟩ | ⟨_, hjar, hkept⟩⟩ :=
    step_cases hstore t
  · -- Nothing was written, so the jar was clean and its persistent cookies are the same.
    rw [hjar] at hclean
    obtain ⟨cs, hcs, hagree⟩ := h (snapshot_prepare hv hclean).1 (by rw [hwrite]; simp)
    refine ⟨cs, by rw [heq, hkept, hcs], ?_⟩
    rw [hclock, hjar]
    exact filter_eq_snapshot_prepare hv hclean hagree
  · -- A failed write leaves the jar dirty.
    rw [hjar, hdirty] at hclean
    exact nomatch hclean
  · refine ⟨_, by rw [heq, hkept], ?_⟩
    rw [hclock, hjar]
    exact Jar.filter_snapshot_self hvalid _

/-- A write that fails changes nothing in the store, and there is still something to write. -/
theorem step_of_write?_error {σ : Session} (hstore : σ.jar.store.KeepsLists) {t : Step}
    {e : StoreError} (h : σ.write? t = some (.error e)) :
    σ.jar.store.kept (σ.step t).storage = σ.jar.store.kept σ.storage ∧
      (σ.step t).jar.dirty = true := by
  obtain ⟨_, _, ⟨hwrite, _, _⟩ | ⟨_, _, hjar, hdirty, hkept⟩ | ⟨hwrite, _, _⟩⟩ :=
    step_cases hstore t
  · exact nomatch hwrite.symm.trans h
  · rw [hjar]
    exact ⟨hkept, hdirty⟩
  · exact nomatch hwrite.symm.trans h

/-- A step that changes the persistent cookies and leaves the jar clean has written it. -/
theorem step_of_persistent_ne {σ : Session} (hstore : σ.jar.store.KeepsLists)
    (hv : σ.jar.jar.Valid) {t : Step}
    (hchange : (σ.step t).jar.jar.persistent ≠ σ.jar.jar.persistent)
    (hclean : (σ.step t).jar.dirty = false) :
    σ.write? t = some (.ok ()) ∧ σ.jar.store.kept (σ.step t).storage =
      .ok ((σ.step t).jar.jar.snapshot (σ.step t).clock) := by
  obtain ⟨hclock, _, ⟨_, hjar, _⟩ | ⟨_, _, hjar, hdirty, _⟩ | ⟨hwrite, hjar, hkept⟩⟩ :=
    step_cases hstore t
  · -- Without a write the jar could not be clean after such a change.
    rw [hjar] at hchange hclean
    exact absurd (snapshot_prepare hv hclean).2 hchange
  · rw [hjar, hdirty] at hclean
    exact nomatch hclean
  · rw [hclock, hjar]
    exact ⟨hwrite, hkept⟩

/-- What holds in every state of a session: once the jar has been written, it agrees with its store
    whenever it is clean. -/
structure Durable (store : Store) (σ : Session) : Prop where
  store_eq : σ.jar.store = store
  valid : σ.jar.jar.Valid
  agrees : σ.jar.dirty = false → σ.written = true → σ.Agrees

/-- A step keeps a session durable. -/
theorem Durable.step {store : Store} (hstore : store.KeepsLists) {σ : Session}
    (h : σ.Durable store) (t : Step) : (σ.step t).Durable store := by
  obtain ⟨rfl, hv, hagrees⟩ := h
  obtain ⟨hvalid, _, heq⟩ := valid_step hstore hv t
  refine ⟨heq, hvalid, ?_⟩
  intro hclean hwritten
  apply agrees_step hstore hv hclean
  intro hbefore hwrite
  -- This step has not written the jar, so an earlier one has.
  have hsaving : σ.isSaving t = false := by
    unfold isSaving
    split
    · rename_i hok
      exact absurd hok hwrite
    · rfl
  rw [(step_cases hstore t).2.1, hsaving, Bool.or_false] at hwritten
  exact hagrees hbefore hwritten

/-- Durable sessions remain so through any steps. -/
theorem Durable.run {store : Store} (hstore : store.KeepsLists) {σ : Session}
    (h : σ.Durable store) (steps : List Step) : (σ.run steps).Durable store :=
  run_of_step (fun hσ t => hσ.step hstore t) h steps

end Session

/-- A jar that was opened has the cookies of its store, and is clean. -/
theorem exists_of_load {jar : Jar} {store : Store} (hstore : store.KeepsLists) {mode : WriteMode}
    {s : Storage} {now : Int} {j : PersistentJar} (h : load jar store mode s now = .ok j) :
    ∃ cs, store.kept s = .ok cs ∧ j = attach (jar.load cs now) store mode := by
  have hsame := Store.load_snd hstore s
  unfold load at h
  split at h
  · rename_i cs store' hload
    rw [hload] at hsame
    subst hsame
    exact ⟨cs, Store.kept_of_load hstore (by rw [hload]), (Except.ok.inj h).symm⟩
  · exact nomatch h

/-- A jar can be opened over a store that is not offline. -/
theorem load_of_kept {jar : Jar} {store : Store} (hstore : store.KeepsLists) {mode : WriteMode}
    {s : Storage} {now : Int} {cs : List Cookie} (h : store.kept s = .ok cs) {m : Storage.Medium}
    (hm : m.offline = false) :
    load jar store mode (s.on m) now = .ok (attach (jar.load cs now) store mode) := by
  have hread : store.load (s.on m) = (.ok cs, store) :=
    Prod.ext (Store.load_on_of_kept h hm) (Store.load_snd hstore _)
  unfold load
  rw [hread]

/-- Whatever a store holds when a jar is opened over it, whatever was done to that jar before,
    whenever the jar writes, and whatever happens then, writes that fail included: in every state in
    which the jar is clean and has been written, the store can be read for a list that is the
    snapshot of the jar once what has expired is left out.

    A write that fails changes nothing of what can be read from the store, and the jar is dirty
    afterwards. And a step that changes the persistent cookies leaves the jar clean only if it has
    written it; then the store can be read for its snapshot. -/
theorem run_durable (perHost total : Nat) (ops : List (Int × Jar.Operation)) {store : Store}
    (hstore : store.KeepsLists) {mode : WriteMode} {s : Storage} {now : Int} {j : PersistentJar}
    (hopen : load ((Jar.empty (.of perHost total)).run ops) store mode s now = .ok j)
    (steps : List Step) :
    let σ := (Session.start j s now).run steps
    (σ.jar.dirty = false → σ.written = true →
      ∃ cs, (∀ m, m.offline = false → (store.load (σ.storage.on m)).1 = .ok cs) ∧
        cs.filter (!·.isExpired σ.clock) = σ.jar.jar.snapshot σ.clock) ∧
    ∀ t,
      let τ := σ.step t
      (∀ e, σ.write? t = some (.error e) →
        (∀ m, (store.load (τ.storage.on m)).1 = (store.load (σ.storage.on m)).1) ∧
          τ.jar.dirty = true) ∧
      (τ.jar.jar.persistent ≠ σ.jar.jar.persistent → τ.jar.dirty = false →
        σ.write? t = some (.ok ()) ∧
          ∀ m, m.offline = false →
            (store.load (τ.storage.on m)).1 = .ok (τ.jar.jar.snapshot τ.clock)) := by
  intro σ
  -- Nothing has been written yet at the start, so there is nothing to agree with.
  obtain ⟨cs, _, rfl⟩ := exists_of_load hstore hopen
  have hinner := Jar.valid_run (.of perHost total) ops
  have hstart : (Session.start (attach (((Jar.empty (.of perHost total)).run ops).load cs now)
      store mode) s now).Durable store :=
    ⟨rfl, (hinner.foldl_insert _).1, fun _ hwritten => nomatch hwritten⟩
  obtain ⟨heq, hv, hagrees⟩ := hstart.run hstore steps
  have hkeeps : σ.jar.store.KeepsLists := heq.symm ▸ hstore
  refine ⟨?_, ?_⟩
  · -- A clean jar that was written at some time agrees with the store.
    intro hclean hwritten
    obtain ⟨cs, hcs, hagree⟩ := hagrees hclean hwritten
    refine ⟨cs, fun m hm => ?_, hagree⟩
    exact Store.load_on_of_kept (heq ▸ hcs) hm
  · intro t τ
    constructor
    · -- A failed write changes neither what is kept nor that the jar is unsaved.
      intro e hwrite
      obtain ⟨hkept, hdirty⟩ := Session.step_of_write?_error hkeeps hwrite
      exact ⟨Store.load_on_eq_of_kept_eq hstore (heq ▸ hkept), hdirty⟩
    · -- A change to what is kept leaves the jar clean only if this very step wrote it.
      intro hchange hclean
      obtain ⟨hwrite, hkept⟩ := Session.step_of_persistent_ne hkeeps hv hchange hclean
      exact ⟨hwrite, fun m hm => Store.load_on_of_kept (heq ▸ hkept) hm⟩

/-- A jar that cannot write its first cookie, and is flushed a second later. -/
theorem run_durable_after_failure :
    let steps : List Step :=
      [⟨0, ⟨true, false, false⟩, .receive ⟨"a.b", "/", .plain⟩ "k=v; Max-Age=60"⟩,
        ⟨1000000000, .working, .flush⟩]
    let σ := (Session.start (attach (Jar.empty (.of 1 1)) .memory .onWrite) .empty 0).run steps
    (σ.jar.dirty = false ∧ σ.written = true) ∧
      ∃ cs, (∀ m, m.offline = false → (Store.memory.load (σ.storage.on m)).1 = .ok cs) ∧
        cs.filter (!·.isExpired σ.clock) = σ.jar.jar.snapshot σ.clock := by
  intro steps σ
  -- The first write fails, and the flush makes up for it.
  have hstore : Store.memory.KeepsLists := trivial
  have hopen : load ((Jar.empty (.of 1 1)).run []) .memory .onWrite .empty 0 =
      .ok (attach (Jar.empty (.of 1 1)) .memory .onWrite) := rfl
  have hclean : σ.jar.dirty = false := by decide +kernel
  have hwritten : σ.written = true := by decide +kernel
  exact ⟨⟨hclean, hwritten⟩, (run_durable 1 1 [] hstore hopen steps).1 hclean hwritten⟩

end HttpState.PersistentJar
