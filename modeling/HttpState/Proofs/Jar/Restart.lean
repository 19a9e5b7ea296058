import HttpState.Proofs.Jar.Durability
import HttpState.Proofs.Jar.Loading
import HttpState.Proofs.Jar.Retrieval

/-!
# Starting again

Jars that are opened over one store, one after another and all with the same limits. The store keeps
a snapshot of one of them at any time, taken under these limits; so opening the next jar loses
nothing, and that jar agrees with the store from the start, before it is written for the first time.

A jar that is flushed agrees with its store. So the next one has its persistent cookies, and sends
what the old one would send without its session cookies. Only the order of the cookies in their
buckets may be another one, which shows where cookies are equally old.

## Key results

- `header?_eq_of_perm`: jars with the same cookies send the same, if no two are equally old
- `Session.Restorable.step`, `Session.Restorable.run`: the invariant of one jar
- `exists_snapshot_history`: the invariant of the store over many jars
- `reopen_restores`: the next jar
-/

namespace HttpState

namespace Jar

/-! ## Jars with the same cookies -/

/-- Requests depend on which cookies there are that can be sent, if no two are equally old. -/
theorem header?_eq_of_perm {j k : Jar} (hj : j.Valid) (hk : k.Valid) {now : Int}
    (hperm : (j.cookies.filter (!·.isExpired now)).Perm (k.cookies.filter (!·.isExpired now)))
    (hcreated : ((k.cookies.filter (!·.isExpired now)).map (·.created.nanos)).Nodup)
    (a : Address) : j.header? a now = k.header? a now := by
  have hsent : ∀ i : Jar, i.Valid → (i.sentTo a now).Perm
      ((i.cookies.filter (!·.isExpired now)).filter fun c =>
        c.isSentTo a now && decide (c.domain ∈ Scope.candidates a.host)) := by
    intro i hi
    have hperm := sentTo_perm_candidates hi a now
    rw [List.filter_filter]
    -- What has expired is not sent anyway.
    have hfresh : ∀ c : Cookie, (c.isSentTo a now && decide (c.domain ∈ Scope.candidates a.host)) =
        ((c.isSentTo a now && decide (c.domain ∈ Scope.candidates a.host)) &&
          !c.isExpired now) := by
      intro c
      cases hexpired : c.isExpired now <;> simp [Cookie.isSentTo, hexpired]
    rwa [List.filter_congr fun c _ => hfresh c] at hperm
  have hsame : (j.sentTo a now).Perm (k.sentTo a now) :=
    (hsent j hj).trans ((hperm.filter _).trans (hsent k hk).symm)
  have heq : j.sentTo a now = k.sentTo a now := by
    -- Two cookies that may stand in either order are equally old, so they are one.
    -- So both jars send the same cookies, and there is only one order left for them.
    refine hsame.eq_of_pairwise ?_ (j.pairwise_requestLe_sentTo a now)
      (k.pairwise_requestLe_sentTo a now)
    intro x y hx hy hxy hyx
    rw [Cookie.requestLe_iff] at hxy hyx
    have hmem : ∀ z ∈ k.sentTo a now, z ∈ k.cookies.filter (!·.isExpired now) := fun z hz =>
      List.mem_of_mem_filter ((hsent k hk).subset hz)
    exact List.inj_on_of_nodup_map hcreated (hmem x (hsame.subset hx)) (hmem y hy) (by omega)
  rw [header?_eq_ite, header?_eq_ite, heq]

end Jar

namespace PersistentJar

open Jar (IsSnapshot)

/-! ## One jar after another -/

/-- A jar that is opened over a store and used. -/
structure Visit where
  mode : WriteMode
  /-- The nanoseconds that have passed since the last jar was used. -/
  wait : Nat
  medium : Storage.Medium
  steps : List Step
  deriving DecidableEq, Repr

/-- The session of a jar that is opened over a store. -/
def Visit.session? (l : Limits) (store : Store) (v : Visit) (s : Storage) (now : Int) :
    Except StoreError Session :=
  (load (Jar.empty l) store v.mode (s.on v.medium) (now + v.wait)).map fun j =>
    (Session.start j (s.on v.medium) (now + v.wait)).run v.steps

/-- The storage and the time after a jar was used, or after its store could not be read. -/
def Visit.apply (l : Limits) (store : Store) : Storage × Int → Visit → Storage × Int
  | (s, now), v =>
    match v.session? l store s now with
    | .ok σ => (σ.storage, σ.clock)
    | .error _ => (s.on v.medium, now + v.wait)

/-- The storage and the time after one jar after another was used. -/
def history (l : Limits) (store : Store) (s : Storage) (now : Int) (visits : List Visit) :
    Storage × Int :=
  visits.foldl (Visit.apply l store) (s, now)

namespace Session

/-- What holds in every state of a session over a store of jars with the same limits: the store
    keeps a snapshot, and it agrees with the jar whenever the jar is clean. -/
structure Restorable (l : Limits) (store : Store) (σ : Session) : Prop where
  store_eq : σ.jar.store = store
  valid : σ.jar.jar.Valid
  limits_eq : σ.jar.jar.limits = l
  exists_kept : ∃ cs, store.kept σ.storage = .ok cs ∧ IsSnapshot l cs
  agrees : σ.jar.dirty = false → σ.Agrees

/-- A step keeps a session restorable: it keeps the store as it was, or writes a snapshot there. -/
theorem Restorable.step {l : Limits} {store : Store} (hstore : store.KeepsLists) {σ : Session}
    (h : σ.Restorable l store) (t : Step) : (σ.step t).Restorable l store := by
  obtain ⟨rfl, hv, rfl, ⟨cs, hcs, hsnapshot⟩, hagrees⟩ := h
  obtain ⟨hvalid, hlimits, heq⟩ := valid_step hstore hv t
  refine ⟨heq, hvalid, hlimits, ?_, fun hclean => ?_⟩
  · obtain ⟨_, _, ⟨_, _, hkept⟩ | ⟨_, _, _, _, hkept⟩ | ⟨_, hjar, hkept⟩⟩ := step_cases hstore t
    · exact ⟨cs, hkept.trans hcs, hsnapshot⟩
    · exact ⟨cs, hkept.trans hcs, hsnapshot⟩
    · -- What was written is a snapshot of the jar after the step.
      refine ⟨_, hkept, ?_⟩
      rw [hjar] at hvalid hlimits
      exact hlimits ▸ Jar.isSnapshot_snapshot hvalid _
  · exact agrees_step hstore hv hclean fun hbefore _ => hagrees hbefore

/-- Restorable sessions remain so through any steps. -/
theorem Restorable.run {l : Limits} {store : Store} (hstore : store.KeepsLists) {σ : Session}
    (h : σ.Restorable l store) (steps : List Step) : (σ.run steps).Restorable l store :=
  run_of_step (fun hσ t => hσ.step hstore t) h steps

/-- A jar that is opened over a snapshot agrees with it from the start. -/
theorem restorable_start {l : Limits} {store : Store} {s : Storage} {cs : List Cookie}
    (hcs : store.kept s = .ok cs) (h : IsSnapshot l cs) (mode : WriteMode) (now : Int) :
    (start (attach ((Jar.empty l).load cs now) store mode) s now).Restorable l store where
  store_eq := rfl
  valid := ((Jar.valid_empty l).foldl_insert _).1
  limits_eq := ((Jar.valid_empty l).foldl_insert _).2
  exists_kept := ⟨cs, hcs, h⟩
  agrees := fun _ => ⟨cs, hcs, (Jar.load_snapshot h now).2.symm⟩

end Session

/-- A session that begins over a snapshot. -/
theorem restorable_of_session? {l : Limits} {store : Store} (hstore : store.KeepsLists)
    {s : Storage} (hs : ∃ cs, store.kept s = .ok cs ∧ IsSnapshot l cs) {v : Visit} {now : Int}
    {σ : Session} (h : v.session? l store s now = .ok σ) : σ.Restorable l store := by
  obtain ⟨cs, hcs, hsnapshot⟩ := hs
  unfold Visit.session? at h
  -- A session that could not be opened changes nothing; one that could starts from what the store
  -- kept.
  cases hload : load (Jar.empty l) store v.mode (s.on v.medium) (now + v.wait) with
  | error e =>
    rw [hload] at h
    exact nomatch h
  | ok j =>
    rw [hload] at h
    cases h
    obtain ⟨ds, hds, rfl⟩ := exists_of_load hstore hload
    have hsame : cs = ds := Except.ok.inj (hcs.symm.trans hds)
    subst hsame
    exact (Session.restorable_start hds hsnapshot v.mode _).run hstore v.steps

/-- However many jars have been used over a store that was empty, it keeps a snapshot. -/
theorem exists_snapshot_history {l : Limits} {store : Store} (hstore : store.KeepsLists)
    {s : Storage} (hs : ∃ cs, store.kept s = .ok cs ∧ IsSnapshot l cs) (now : Int)
    (visits : List Visit) :
    ∃ cs, store.kept (history l store s now visits).1 = .ok cs ∧ IsSnapshot l cs := by
  induction visits generalizing s now with
  | nil => exact hs
  | cons v visits ih =>
    -- One more visit leaves a snapshot in the store, whether it could be opened or not.
    have hnext : ∃ cs,
        store.kept (Visit.apply l store (s, now) v).1 = .ok cs ∧ IsSnapshot l cs := by
      cases hσ : v.session? l store s now with
      | ok σ =>
        simp only [Visit.apply, hσ]
        exact (restorable_of_session? hstore hs hσ).exists_kept
      | error e =>
        simp only [Visit.apply, hσ]
        exact hs
    exact ih hnext _

/-- A jar that is opened over a store that agrees with an old jar has the persistent cookies of that
    jar, is clean, and sends what the old jar would send without its session cookies. -/
theorem load_of_agrees {l : Limits} {store : Store} (hstore : store.KeepsLists) {σ : Session}
    (hσ : σ.Restorable l store) (hagrees : σ.Agrees) {mode : WriteMode} {m : Storage.Medium}
    {j : PersistentJar} (hload : load (Jar.empty l) store mode (σ.storage.on m) σ.clock = .ok j) :
    j.dirty = false ∧ j.jar.cookies.Perm (σ.jar.jar.cookies.filter (·.isSaved σ.clock)) ∧
      (((σ.jar.jar.cookies.filter (·.isSaved σ.clock)).map (·.created.nanos)).Nodup →
        ∀ a, j.jar.header? a σ.clock = σ.jar.removeSession.jar.header? a σ.clock) := by
  obtain ⟨rfl, hv, _, ⟨cs, hcs, hsnapshot⟩, _⟩ := hσ
  obtain ⟨ds, hds, hagree⟩ := hagrees
  -- Whatever is loaded is what the store kept, as reading does not change it.
  obtain ⟨es, hes, rfl⟩ := exists_of_load hstore hload
  have hds' : ds = cs := Except.ok.inj (hds.symm.trans hcs)
  have hes' : es = cs := Except.ok.inj (hes.symm.trans hcs)
  subst hds' hes'
  have hperm := (Jar.load_snapshot hsnapshot σ.clock).1
  rw [hagree] at hperm
  have hcookies := hperm.trans (Jar.snapshot_perm σ.jar.jar σ.clock)
  refine ⟨rfl, hcookies, fun hcreated a => ?_⟩
  -- What can be sent is what is saved: the rest has expired or belongs to a session.
  have hold : σ.jar.removeSession.jar.cookies.filter (!·.isExpired σ.clock) =
      σ.jar.jar.cookies.filter (·.isSaved σ.clock) := by
    show (σ.jar.jar.filter (·.isPersistent)).cookies.filter (!·.isExpired σ.clock) = _
    rw [Jar.cookies_filter, List.filter_filter]
    congr 1
    funext c
    rw [Bool.and_comm, Cookie.isSaved]
  have hnew := hcookies.filter (!·.isExpired σ.clock)
  have hfresh : (σ.jar.jar.cookies.filter (·.isSaved σ.clock)).filter (!·.isExpired σ.clock) =
      σ.jar.jar.cookies.filter (·.isSaved σ.clock) := by
    rw [List.filter_eq_self]
    intro c hc
    have hsaved := (List.mem_filter.1 hc).2
    simp only [Cookie.isSaved, Bool.and_eq_true] at hsaved
    exact hsaved.2
  rw [hfresh, ← hold] at hnew
  exact Jar.header?_eq_of_perm ((Jar.valid_empty l).foldl_insert _).1 (hv.filter _) hnew
    (hold.symm ▸ hcreated) a

/-- Jars are opened over a store that was empty, one after another, with the same limits and each
    with its own mode; they are used in any way, whether they can write or not, and left as they
    are. If the last of them is flushed and this succeeds, then the next jar can be opened at that
    time wherever the store is not offline. It has exactly the persistent cookies of the last one
    that have not expired, is clean, and, if no two of these cookies are equally old, sends to every
    address what the last jar would send without its session cookies. -/
theorem reopen_restores (perHost total : Nat) {store : Store} (hstore : store.KeepsLists)
    {s : Storage} (hempty : (store.load (s.on .working)).1 = .ok []) (now : Int)
    (visits : List Visit) {v : Visit} {σ : Session}
    (hopen : v.session? (.of perHost total) store
      (history (.of perHost total) store s now visits).1
      (history (.of perHost total) store s now visits).2 = .ok σ)
    {wait : Nat} {m : Storage.Medium}
    (hflush : (σ.jar.flush (σ.storage.on m) (σ.clock + wait)).1 = .ok ()) (mode : WriteMode)
    (m' : Storage.Medium) :
    let τ := σ.step ⟨wait, m, .flush⟩
    let saved := τ.jar.jar.cookies.filter fun c => c.isPersistent && !c.isExpired τ.clock
    let next := load (Jar.empty (.of perHost total)) store mode (τ.storage.on m') τ.clock
    (m'.offline = false → ∃ j, next = .ok j) ∧
      ∀ j, next = .ok j →
        j.jar.cookies.Perm saved ∧ j.dirty = false ∧
          ((saved.map (·.created.nanos)).Nodup →
            ∀ a, j.jar.header? a τ.clock = τ.jar.removeSession.jar.header? a τ.clock) := by
  intro τ saved next
  -- The store holds a snapshot whatever happened before, so the session that is flushed is
  -- restorable.
  have hkept := exists_snapshot_history hstore
    ⟨[], hempty, Jar.isSnapshot_nil (.of perHost total)⟩ now visits
  have hσ := restorable_of_session? hstore hkept hopen
  have hτ : τ.Restorable (.of perHost total) store := hσ.step hstore _
  have hclean : τ.jar.dirty = false := Session.dirty_step_of_flush hflush
  refine ⟨fun hm => ?_, fun j hj => ?_⟩
  · obtain ⟨cs, hcs, _⟩ := hτ.exists_kept
    exact ⟨_, load_of_kept hstore hcs hm⟩
  · obtain ⟨hdirty, hperm, hheader⟩ := load_of_agrees hstore hτ (hτ.agrees hclean) hj
    exact ⟨hperm, hdirty, hheader⟩

/-- A jar that is left without a flush, and one that is flushed when it has got two cookies. -/
theorem reopen_restores_two_cookies :
    let a : Address := ⟨"a.b", "/", .plain⟩
    let unsaved : Visit := ⟨.onFlush, 0, .working, [⟨0, .working, .removeAll⟩]⟩
    let steps : List Step :=
      [⟨1, .working, .receive a "k=v; Max-Age=60"⟩, ⟨1, .working, .receive a "l=w; Max-Age=60"⟩]
    let σ := (Session.start (attach (Jar.empty (.of 2 2)) .memory .onFlush) .empty 5).run steps
    let τ := σ.step ⟨1, .working, .flush⟩
    Visit.session? (.of 2 2) .memory ⟨.onFlush, 5, .working, steps⟩
        (history (.of 2 2) .memory .empty 0 [unsaved]).1
        (history (.of 2 2) .memory .empty 0 [unsaved]).2 = .ok σ ∧
      ∃ j, load (Jar.empty (.of 2 2)) .memory .onWrite (τ.storage.on .working) τ.clock = .ok j ∧
        ∀ b, j.jar.header? b τ.clock = τ.jar.removeSession.jar.header? b τ.clock := by
  intro a unsaved steps σ τ
  have hstore : Store.memory.KeepsLists := trivial
  -- An earlier visit has left nothing, as it was not flushed.
  have hopen : Visit.session? (.of 2 2) .memory ⟨.onFlush, 5, .working, steps⟩
      (history (.of 2 2) .memory .empty 0 [unsaved]).1
      (history (.of 2 2) .memory .empty 0 [unsaved]).2 = .ok σ := rfl
  have hflush : (σ.jar.flush (σ.storage.on .working) (σ.clock + (1 : Nat))).1 = .ok () := by
    decide +kernel
  -- The two cookies were created at different times.
  have hcreated : ((τ.jar.jar.cookies.filter fun c =>
      c.isPersistent && !c.isExpired τ.clock).map (·.created.nanos)).Nodup := by
    decide +kernel
  obtain ⟨hexists, hnext⟩ :=
    reopen_restores 2 2 hstore rfl 0 [unsaved] hopen hflush .onWrite .working
  obtain ⟨j, hj⟩ := hexists rfl
  exact ⟨hopen, j, hj, (hnext j hj).2.2 hcreated⟩

end PersistentJar

end HttpState
