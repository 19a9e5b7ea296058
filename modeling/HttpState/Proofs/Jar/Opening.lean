import HttpState.Proofs.Jar.Durability
import HttpState.Proofs.Jar.Loading

/-!
# A jar that was just opened

Opening a jar over a store loads what the store keeps, and a jar need not take all of it: there may
be too many cookies for its limits, several with the same key, or session cookies, which no jar
writes. The store and the jar do not agree then. All the same the jar counts as clean, so a flush
has nothing to write and leaves the store as it is, until something else changes.

## Key results

- `Jar.perm_snapshot_load_iff`: the lists that a jar without cookies takes over as they are
- `opened_jar_is_clean`: an opened jar is clean, whether or not it agrees with its store
-/

namespace HttpState

namespace Jar

/-- A jar without cookies that loads a list has the list as its snapshot, in some order, if all
    cookies of the list that have not expired are persistent and fit the limits of the jar, and in
    no other case. -/
theorem perm_snapshot_load_iff {j : Jar} (hv : j.Valid) (hempty : j.cookies = [])
    (cs : List Cookie) (now : Int) :
    (cs.filter (!·.isExpired now)).Perm ((j.load cs now).snapshot now) ↔
      (∀ c ∈ cs.filter (!·.isExpired now), c.isPersistent = true) ∧
        j.limits.Fits (cs.filter (!·.isExpired now)) := by
  obtain ⟨hvalid, hlimits⟩ := hv.foldl_insert (cs.filter (!·.isExpired now))
  constructor
  · -- A snapshot holds persistent cookies, and no more than its jar.
    intro hperm
    have hsnapshot := isSnapshot_snapshot hvalid now
    rw [hlimits] at hsnapshot
    exact ⟨fun c hc => hsnapshot.persistent c (hperm.subset hc), hsnapshot.fits.of_perm hperm⟩
  · -- A list that fits is loaded as it is, and all of it is saved again.
    intro ⟨hpersistent, hfits⟩
    have hroom : j.limits.Fits (j.cookies ++ cs.filter (!·.isExpired now)) := by
      rwa [hempty, List.nil_append]
    have hloaded := cookies_foldl_insert_perm hv hroom
    rw [hempty, List.nil_append] at hloaded
    have hfiltered := hloaded.filter (·.isSaved now)
    rw [Cookie.filter_isSaved_of_persistent hpersistent] at hfiltered
    exact hfiltered.symm.trans (snapshot_perm (j.load cs now) now).symm

end Jar

namespace PersistentJar

/-- A jar without unseen changes has nothing to write. -/
theorem flush_of_clean {j : PersistentJar} (h : j.dirty = false) (s : Storage) (now : Int) :
    j.flush s now = (.ok (), j, s) := by
  rw [flush, h]
  rfl

/-- Whatever a store keeps, a jar that is opened over it is clean, and flushing it succeeds and
    changes nothing. So it says rightly that there is nothing to write if all cookies of the store
    that have not expired are persistent and fit the limits, and wrongly in all other cases. -/
theorem opened_jar_is_clean (perHost total : Nat) (ops : List (Int × Jar.Operation))
    (hempty : ((Jar.empty (.of perHost total)).run ops).cookies = []) {store : Store}
    (hstore : store.KeepsLists) {mode : WriteMode} {s : Storage} {now : Int} {j : PersistentJar}
    (hopen : load ((Jar.empty (.of perHost total)).run ops) store mode s now = .ok j) :
    ∃ cs, store.kept s = .ok cs ∧
      let fresh := cs.filter (!·.isExpired now)
      j.dirty = false ∧
      (∀ t later, j.flush t later = (.ok (), j, t)) ∧
      (fresh.Perm (j.jar.snapshot now) ↔
        (∀ c ∈ fresh, c.isPersistent = true) ∧ (Limits.of perHost total).Fits fresh) := by
  obtain ⟨cs, hkept, rfl⟩ := exists_of_load hstore hopen
  obtain ⟨hvalid, hlimits⟩ := (Jar.valid_empty (.of perHost total)).run ops
  refine ⟨cs, hkept, rfl, fun t later => flush_of_clean rfl t later, ?_⟩
  -- What is kept is what was loaded, up to its order, if nothing was left out.
  have hiff := Jar.perm_snapshot_load_iff hvalid hempty cs now
  rwa [hlimits] at hiff

/-- Storage with two cookies of one domain, in memory. -/
def twoInMemory : Storage :=
  { Storage.empty with
    memory := ⟨[⟨"a", "1", "b.c", "/", true, false, false, none, some (.utc 60), .utc 0⟩,
      ⟨"b", "2", "b.c", "/", true, false, false, none, some (.utc 60), .utc 0⟩], 0, false⟩ }

/-- A jar with room for both cookies agrees with its store. -/
theorem opened_jar_is_clean_two_cookies :
    ∃ j, load (Jar.empty (.of 2 2)) .memory .onFlush twoInMemory 0 = .ok j ∧
      (twoInMemory.memory.cookies.filter (!·.isExpired 0)).Perm (j.jar.snapshot 0) := by
  refine ⟨_, rfl, ?_⟩
  obtain ⟨cs, hkept, -, -, hiff⟩ := @opened_jar_is_clean 2 2 [] rfl .memory trivial .onFlush
    twoInMemory 0 _ rfl
  obtain rfl := Except.ok.inj hkept
  refine hiff.2 ⟨by decide, ⟨by decide, fun d => ?_, by decide⟩⟩
  exact Nat.le_trans (List.length_filter_le _ _) (by decide)

/-- A jar with room for one cookie has lost the other one, but is clean, and a flush does not make
    the store agree with it. -/
theorem opened_jar_loses_a_cookie :
    ∃ j, load (Jar.empty (.of 1 3)) .memory .onFlush twoInMemory 0 = .ok j ∧
      ¬ (twoInMemory.memory.cookies.filter (!·.isExpired 0)).Perm (j.jar.snapshot 0) ∧
      j.dirty = false ∧ j.flush twoInMemory 0 = (.ok (), j, twoInMemory) := by
  refine ⟨_, rfl, fun hperm => ?_, rfl, rfl⟩
  exact absurd hperm.length_eq (by decide +kernel)

end PersistentJar

end HttpState
