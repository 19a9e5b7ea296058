import HttpState.Proofs.Jar.Calendar
import HttpState.Proofs.Jar.Loading
import HttpState.Proofs.Jar.Retrieval
import HttpState.Proofs.Storage.Place

/-!
# Starting again over a database

A database keeps times in whole seconds, so a jar that is opened over it has cookies that may expire
up to a second earlier than those that were written, and that were created up to a second earlier.
Apart from that they are the persistent cookies of the jar that was written last: it was made with
the same limits, so nothing is too much for the new one, and all times are in the calendar, so no
row is unreadable.

Of what the old jar would send without its session cookies the new one sends the cookies that have
not expired in whole seconds. Two of them can change places only if their paths have the same length
and they were created in the same second.

## Key results

- `Session.OverDatabase.step`, `Session.OverDatabase.run`: the invariant of a jar over a database
- `Session.reopen_of_write?`: what is opened after a write
- `Jar.load_inSeconds`: what is loaded of a snapshot in whole seconds
- `Jar.sentTo_perm_inSeconds`, `Jar.pair_sublist_sentTo_inSeconds`: what is sent of it, and in which
  order
- `restart_over_database`: what the new jar sends
-/

namespace HttpState

open Storage (Path Connection CookieTable Files)
open Time (nanosPerSecond firstSecond)

/-! ## Whole seconds -/

namespace Cookie

/-- In whole seconds a cookie does not expire later. -/
theorem isExpired_inSeconds {c : Cookie} {now : Int} (h : c.isExpired now = true) :
    c.inSeconds.isExpired now = true := by
  unfold isExpired inSeconds at *
  cases he : c.expires with
  | none =>
    rw [he] at h
    exact nomatch h
  | some t =>
    have hle := t.nanos_floor_le
    simp only [he, decide_eq_true_eq, Option.map_some] at h ⊢
    omega

/-- In whole seconds a cookie is sent as before, unless it has expired in whole seconds. -/
theorem isSentTo_inSeconds (c : Cookie) (a : Address) (now : Int) :
    c.inSeconds.isSentTo a now = (c.isSentTo a now && !c.inSeconds.isExpired now) := by
  -- Only the times are other ones.
  have hsame : c.inSeconds.isSentTo a now =
      (Scope.domainMatches c.domain a.host c.hostOnly && Scope.pathMatches c.path a.path &&
        (!c.secure || a.isSecure) && !c.inSeconds.isExpired now) := rfl
  rw [hsame, isSentTo]
  -- The question that rounding can change is whether the cookie has expired, and then to yes only.
  cases hsecond : c.inSeconds.isExpired now with
  | true => simp
  | false =>
    have hfresh : c.isExpired now = false := by
      rw [← Bool.not_eq_true]
      exact fun h => by simp [isExpired_inSeconds h] at hsecond
    simp [hfresh]

/-- In whole seconds the order of two cookies of a request stays the same, if their paths do not
    have the same length or they were not created in the same second. -/
theorem not_requestLe_inSeconds {x y : Cookie} (hxy : requestLe x y = true)
    (hne : x.path.utf8ByteSize ≠ y.path.utf8ByteSize ∨ x.created.seconds ≠ y.created.seconds) :
    ¬ requestLe y.inSeconds x.inSeconds = true := by
  rw [requestLe_iff] at hxy ⊢
  simp only [inSeconds, Time.Timestamp.floor, Time.Timestamp.utc, Time.Timestamp.seconds,
    nanosPerSecond] at hne ⊢
  omega

end Cookie

/-! ## What is loaded -/

/-- What is read from a database has times in the calendar only. -/
theorem Store.isInCalendar_of_load {store : Store} {p : Path} (hplace : store.place = .sqlite p)
    {s : Storage} {cs : List Cookie} (h : (store.load s).1 = .ok cs) :
    ∀ c ∈ cs, c.IsInCalendar := by
  cases store with
  -- Only a database has such a place.
  | memory => cases hplace
  | json q => cases hplace
  | sqlite c =>
    apply Connection.isInCalendar_of_load (c := c) (d := s.directory)
    rw [load_sqlite] at h
    simp only at h
    split at h
    · rename_i hread
      cases h
      exact hread
    · cases h

namespace Jar

/-- Rounding the times of a snapshot to whole seconds leaves it a snapshot. -/
theorem IsSnapshot.map_inSeconds {l : Limits} {cs : List Cookie} (h : IsSnapshot l cs) :
    IsSnapshot l (cs.map Cookie.inSeconds) where
  fits := by
    -- Only keys, domains and how many cookies there are count.
    have hkeys : (cs.map Cookie.inSeconds).map Cookie.key = cs.map Cookie.key := by
      rw [List.map_map]
      rfl
    constructor
    · rw [hkeys]
      exact h.fits.keys_nodup
    · intro d
      rw [List.filter_map, List.length_map]
      exact h.fits.perHost_le d
    · rw [List.length_map]
      exact h.fits.total_le
  persistent := by
    intro c hc
    obtain ⟨d, hd, rfl⟩ := List.mem_map.1 hc
    have hpersistent := h.persistent d hd
    simpa [Cookie.isPersistent, Cookie.inSeconds] using hpersistent
  sorted := List.pairwise_map.2 h.sorted

/-- A table gives back the cookies of a snapshot in whole seconds, if their times are in the
    calendar. -/
theorem cookies_ofCookies_snapshot {j : Jar} (hv : j.Valid)
    (hcalendar : ∀ c ∈ j.cookies, c.IsInCalendar) (now : Int) :
    (CookieTable.ofCookies (j.snapshot now)).cookies = (j.snapshot now).map Cookie.inSeconds := by
  rw [CookieTable.cookies_ofCookies (inKeyOrder_snapshot hv now), ← List.filterMap_eq_map]
  apply List.filterMap_congr
  intro c hc
  have hmem : c ∈ j.cookies := List.mem_of_mem_filter ((snapshot_perm j now).subset hc)
  exact Storage.Row.cookie?_ofCookie_eq_some_iff.2 ⟨hcalendar c hmem, rfl⟩

/-- A jar with the same limits that loads a snapshot in whole seconds has all the cookies of it that
    have not expired in whole seconds. -/
theorem load_inSeconds {j : Jar} (hv : j.Valid) (now : Int) :
    ((empty j.limits).load ((j.snapshot now).map Cookie.inSeconds) now).cookies.Perm
      (((j.cookies.filter (·.isSaved now)).map Cookie.inSeconds).filter (!·.isExpired now)) := by
  have hloaded := (load_snapshot (isSnapshot_snapshot hv now).map_inSeconds now).1
  exact hloaded.trans (((snapshot_perm j now).map Cookie.inSeconds).filter _)

/-! ## What is sent -/

/-- What a jar sends that has the saved cookies of another one in whole seconds: what the other one
    sends without its session cookies, but for what has expired in whole seconds. -/
theorem sentTo_perm_inSeconds {j k : Jar} (hj : j.Valid) (hk : k.Valid) {now : Int}
    (hperm : k.cookies.Perm
      (((j.cookies.filter (·.isSaved now)).map Cookie.inSeconds).filter (!·.isExpired now)))
    (a : Address) :
    (k.sentTo a now).Perm (((j.removeSession.sentTo a now).filter
      (!·.inSeconds.isExpired now)).map Cookie.inSeconds) := by
  -- Each side is, up to order, what is sent of all the cookies in the jar.
  have hold := sentTo_perm_candidates (hj.filter Cookie.isPersistent) a now
  rw [cookies_filter, List.filter_filter] at hold
  have hkept := (hold.filter (!·.inSeconds.isExpired now)).map Cookie.inSeconds
  have hnew := (sentTo_perm_candidates hk a now).trans (hperm.filter _)
  refine hnew.trans (List.Perm.trans ?_ hkept.symm)
  rw [List.filter_filter, List.filter_filter, List.filter_map, List.filter_filter]
  -- Both sides ask the same of each cookie, one of them after it was rounded.
  rw [List.filter_congr]
  intro c _
  have hdomain : c.inSeconds.domain = c.domain := rfl
  simp only [Function.comp_apply, Cookie.isSentTo_inSeconds, hdomain, Cookie.isSaved]
  cases hexpired : c.isExpired now with
  | true => simp [Cookie.isSentTo, hexpired]
  | false =>
    cases c.isSentTo a now <;> cases c.inSeconds.isExpired now <;> cases c.isPersistent <;> simp

/-- Two cookies are sent in the order in which they were sent, if their paths do not have the same
    length or they were not created in the same second. -/
theorem pair_sublist_sentTo_inSeconds {j k : Jar} {a : Address} {now : Int} {x y : Cookie}
    (hxy : [x, y].Sublist (j.sentTo a now)) (hx : x.inSeconds ∈ k.sentTo a now)
    (hy : y.inSeconds ∈ k.sentTo a now)
    (hne : x.path.utf8ByteSize ≠ y.path.utf8ByteSize ∨ x.created.seconds ≠ y.created.seconds) :
    [x.inSeconds, y.inSeconds].Sublist (k.sentTo a now) := by
  have hle := List.pairwise_iff_forall_sublist.1 (j.pairwise_requestLe_sentTo a now) hxy
  have hnot := Cookie.not_requestLe_inSeconds hle hne
  -- The cookies are not the same one, as the order would not matter then.
  have hdistinct : x.inSeconds ≠ y.inSeconds := by
    intro heq
    rw [heq] at hnot
    have htotal := Cookie.requestLe_total y.inSeconds y.inSeconds
    rw [Bool.or_self] at htotal
    exact hnot htotal
  cases List.pair_sublist_or_of_mem hx hy hdistinct with
  | inl h => exact h
  | inr h =>
    -- If they stood the other way round, the later one would be allowed before the other.
    have hge := List.pairwise_iff_forall_sublist.1 (k.pairwise_requestLe_sentTo a now) h
    exact absurd hge hnot

end Jar

namespace PersistentJar

variable {p : Path} {l : Limits}

/-- Persisting a jar does not move its store. -/
theorem place_persist (j : PersistentJar) (s : Storage) (now : Int) :
    (j.persist s now).2.1.store.place = j.store.place := by
  have hplace := j.store.place_persist (j.jar.snapshot now) s
  unfold persist
  split
  · rename_i heq
    rw [heq] at hplace
    exact hplace
  · rename_i heq
    rw [heq] at hplace
    exact hplace

namespace Session

/-- A jar that is over a database, with times in the calendar. -/
structure OverDatabase (p : Path) (l : Limits) (σ : Session) : Prop where
  valid : σ.jar.jar.Valid
  limits : σ.jar.jar.limits = l
  place : σ.jar.store.place = .sqlite p
  calendar : ∀ c ∈ σ.jar.jar.cookies, c.IsInCalendar
  clock : firstSecond ≤ σ.clock / nanosPerSecond

/-- A step keeps a session over its database: neither the jar's limits nor the place of the store
    change, and time only goes on. -/
theorem OverDatabase.step {σ : Session} (h : σ.OverDatabase p l) (t : Step) :
    (σ.step t).OverDatabase p l := by
  have hclock : firstSecond ≤ (σ.clock + t.wait) / nanosPerSecond := by
    have hbefore := h.clock
    simp only [nanosPerSecond] at hbefore ⊢
    omega
  obtain ⟨hvalid, hlimits⟩ := Operation.valid_changeJar h.valid (σ.clock + t.wait) t.operation
  have hjar : (σ.step t).jar.jar = t.operation.changeJar (σ.clock + t.wait) σ.jar.jar :=
    Operation.jar_apply _ _ _ _
  have hplace : (σ.step t).jar.store.place = σ.jar.store.place := by
    -- Only a write touches the store, and it writes where the store is.
    rcases σ.step_eq t with ⟨-, hstep, -⟩ | ⟨-, -, hstep, -⟩
    · rw [hstep]
      rfl
    · rw [hstep, place_persist]
      rfl
  constructor
  · exact hjar ▸ hvalid
  · rw [hjar, hlimits, h.limits]
  · rw [hplace, h.place]
  · rw [hjar]
    exact Operation.isInCalendar_changeJar h.calendar hclock t.operation
  · exact hclock

/-- A whole run keeps a session over its database. -/
theorem OverDatabase.run {σ : Session} (h : σ.OverDatabase p l) (steps : List Step) :
    (σ.run steps).OverDatabase p l :=
  run_of_step (fun hσ t => hσ.step t) h steps

/-- A jar is made over a database, with the cookies that this keeps or without them. -/
theorem overDatabase_start {jar : Jar} (hv : jar.Valid) (hlimits : jar.limits = l)
    (hcalendar : ∀ c ∈ jar.cookies, c.IsInCalendar) {store : Store}
    (hplace : store.place = .sqlite p) {mode : WriteMode} {s : Storage} {now : Int}
    (hnow : firstSecond ≤ now / nanosPerSecond) {j : PersistentJar}
    (hj : j = attach jar store mode ∨ load jar store mode s now = .ok j) :
    (start j s now).OverDatabase p l := by
  cases hj with
  | inl hj =>
    -- The jar was handed to a new store, or loaded from it.
    rw [hj]
    exact ⟨hv, hlimits, hplace, hcalendar, hnow⟩
  | inr hj =>
    have hsame := store.place_load s
    unfold load at hj
    split at hj
    · rename_i cs store' hload
      cases hj
      have hread : (store.load s).1 = .ok cs := by rw [hload]
      rw [hload] at hsame
      -- What was loaded went through the calendar of the rows, so it can be written again.
      constructor
      · exact (hv.foldl_insert _).1
      · exact (hv.foldl_insert _).2.trans hlimits
      · exact hsame.trans hplace
      · exact Jar.isInCalendar_load hcalendar (Store.isInCalendar_of_load hplace hread) now
      · exact hnow
    · cases hj

/-- After a step that has written the jar, the database can be opened and read for the snapshot. -/
theorem reopen_of_write? {σ : Session} (hplace : σ.jar.store.place = .sqlite p) {t : Step}
    (h : σ.write? t = some (.ok ())) :
    let τ := σ.step t
    (StorePlace.sqlite p).openStore τ.storage = (.ok τ.jar.store, τ.storage) ∧
      τ.jar.store.load τ.storage =
        (.ok (CookieTable.ofCookies (τ.jar.jar.snapshot τ.clock)).cookies, τ.jar.store) := by
  intro τ
  have hclock : τ.clock = σ.clock + t.wait := rfl
  rcases σ.step_eq t with ⟨hwrite, -, -⟩ | ⟨hwrite, -, hjar, hstorage⟩
  · -- A flush that wrote nothing did not give the answer that it wrote.
    rw [hwrite] at h
    cases h
  · rw [hwrite, Option.some.injEq] at h
    rw [hclock, hjar, hstorage, jar_persist]
    unfold persist at h ⊢
    split at h
    · rename_i store s hpersist
      exact Store.reopen_of_persist hplace hpersist
    · cases h

end Session

/-- Take any database, and a jar with any limits that is made over it, with the cookies of the
    database or without them, at a time in the calendar and with times in the calendar. Let any
    operations follow, whether they can write or not, and then a flush that has something to write
    and succeeds. The database can be opened again then, and a jar can be opened over it with the
    same limits and at the same time.

    To every address the new jar sends what the old one would send without its session cookies, but
    for the cookies that have expired when their expiry is rounded down to a whole second. The
    cookies are the same in all but their times, which are rounded down. Of two cookies that it
    sends the one comes first that came first, if their paths do not have the same length or they
    were not created in the same second. -/
theorem restart_over_database (perHost total : Nat) (ops : List (Int × Jar.Operation))
    (hcalendar : ∀ c ∈ ((Jar.empty (.of perHost total)).run ops).cookies, c.IsInCalendar)
    {s₀ s : Storage} {store : Store} (hstore : (StorePlace.sqlite p).openStore s₀ = (.ok store, s))
    {now : Int} (hnow : firstSecond ≤ now / nanosPerSecond) {mode : WriteMode} {j : PersistentJar}
    (hj : j = attach ((Jar.empty (.of perHost total)).run ops) store mode ∨
      load ((Jar.empty (.of perHost total)).run ops) store mode s now = .ok j)
    (steps : List Step) {wait : Nat} {m : Storage.Medium}
    (hflush : ((Session.start j s now).run steps).write? ⟨wait, m, .flush⟩ = some (.ok ()))
    (mode' : WriteMode) :
    let τ := ((Session.start j s now).run steps).step ⟨wait, m, .flush⟩
    (StorePlace.sqlite p).openStore τ.storage = (.ok τ.jar.store, τ.storage) ∧
      ∃ next, load (Jar.empty (.of perHost total)) τ.jar.store mode' τ.storage τ.clock = .ok next ∧
        ∀ a,
          let old := τ.jar.removeSession.jar.sentTo a τ.clock
          let new := next.jar.sentTo a τ.clock
          new.Perm ((old.filter (!·.inSeconds.isExpired τ.clock)).map Cookie.inSeconds) ∧
            ∀ x y : Cookie, [x, y].Sublist old → x.inSeconds.isExpired τ.clock = false →
              y.inSeconds.isExpired τ.clock = false →
              x.path.utf8ByteSize ≠ y.path.utf8ByteSize ∨
                x.created.seconds ≠ y.created.seconds →
              [x.inSeconds, y.inSeconds].Sublist new := by
  intro τ
  obtain ⟨hinner, hlimits⟩ := (Jar.valid_empty (.of perHost total)).run ops
  -- The session stays over the same database, so the last flush can be followed by opening it
  -- again.
  have hstart := Session.overDatabase_start hinner hlimits hcalendar
    (StorePlace.place_of_openStore hstore) hnow hj
  have hσ := hstart.run steps
  have hτ : τ.OverDatabase p (.of perHost total) := hσ.step _
  obtain ⟨hopen, hread⟩ := Session.reopen_of_write? hσ.place hflush
  refine ⟨hopen, _, load_of_read mode' (congrArg Prod.fst hread), fun a => ?_⟩
  intro old new
  -- The rows hold the saved cookies in whole seconds, and loading drops those that have expired by
  -- then.
  have hloaded := Jar.load_inSeconds hτ.valid τ.clock
  rw [hτ.limits, ← Jar.cookies_ofCookies_snapshot hτ.valid hτ.calendar] at hloaded
  have hvalid := ((Jar.valid_empty (.of perHost total)).foldl_insert
    ((CookieTable.ofCookies (τ.jar.jar.snapshot τ.clock)).cookies.filter (!·.isExpired τ.clock))).1
  have hperm : new.Perm ((old.filter (!·.inSeconds.isExpired τ.clock)).map Cookie.inSeconds) :=
    Jar.sentTo_perm_inSeconds hτ.valid hvalid hloaded a
  refine ⟨hperm, fun x y hxy hx hy hne => ?_⟩
  -- Both cookies are sent, as they have not expired in whole seconds.
  have hmem : ∀ z ∈ old, z.inSeconds.isExpired τ.clock = false → z.inSeconds ∈ new := by
    intro z hz hfresh
    have hfilter : z ∈ old.filter (!·.inSeconds.isExpired τ.clock) :=
      List.mem_filter.2 ⟨hz, by simp [hfresh]⟩
    exact hperm.symm.subset (List.mem_map_of_mem hfilter)
  exact Jar.pair_sublist_sentTo_inSeconds hxy (hmem x (hxy.subset (by simp)) hx)
    (hmem y (hxy.subset (by simp)) hy) hne

/-- A database that is still empty, and two cookies that are created in different seconds. -/
theorem restart_over_database_two_cookies :
    let a : Address := ⟨"a.b", "/", .plain⟩
    let s := ((StorePlace.sqlite ["db"]).openStore .empty).2
    let store : Store := .sqlite ⟨["db"], 0, 1, true⟩
    let steps : List Step := [⟨500000000, .working, .receive a "l=w; Max-Age=60"⟩,
      ⟨1000000000, .working, .receive a "k=v; Max-Age=60"⟩]
    let flush : Step := ⟨500000000, .working, .flush⟩
    let σ := (Session.start (attach (Jar.empty (.of 2 2)) store .onFlush) s 0).run steps
    let τ := σ.step flush
    let x : Cookie := ⟨"l", "w", "a.b", "/", true, false, false, none, some (.utc 60500000000),
      .utc 500000000⟩
    let y : Cookie := ⟨"k", "v", "a.b", "/", true, false, false, none, some (.utc 61500000000),
      .utc 1500000000⟩
    ((StorePlace.sqlite ["db"]).openStore .empty = (.ok store, s) ∧
        σ.write? flush = some (.ok ()) ∧ τ.jar.removeSession.jar.sentTo a τ.clock = [x, y]) ∧
      ∃ next, load (Jar.empty (.of 2 2)) τ.jar.store .onWrite τ.storage τ.clock = .ok next ∧
        (next.jar.sentTo a τ.clock).Perm (([x, y].filter
          (!·.inSeconds.isExpired τ.clock)).map Cookie.inSeconds) ∧
        [x.inSeconds, y.inSeconds].Sublist (next.jar.sentTo a τ.clock) := by
  intro a s store steps flush σ τ x y
  -- The jar that is attached is empty.
  have hempty : ∀ c ∈ ((Jar.empty (.of 2 2)).run []).cookies, c.IsInCalendar :=
    fun c hc => absurd hc List.not_mem_nil
  have hstore : (StorePlace.sqlite ["db"]).openStore .empty = (.ok store, s) :=
    Prod.ext (by decide +kernel) rfl
  have hflush : σ.write? flush = some (.ok ()) := by decide +kernel
  -- Both cookies are sent, the older one first.
  have hsent : τ.jar.removeSession.jar.sentTo a τ.clock = [x, y] := by
    have hwithin : (τ.jar.removeSession.jar.within a.host).filter (·.isSentTo a τ.clock) =
        [x, y] := by decide +kernel
    rw [Jar.sentTo_eq, hwithin]
    exact List.mergeSort_of_pairwise (by decide)
  obtain ⟨-, next, hload, hnext⟩ := restart_over_database 2 2 [] hempty hstore (by decide)
    (.inl rfl) steps hflush .onWrite
  obtain ⟨hperm, horder⟩ := hnext a
  -- They were created in different seconds, so they come in the same order again.
  have hpair := horder x y (hsent ▸ List.Sublist.refl _) (by decide +kernel) (by decide +kernel)
    (.inr (by decide))
  exact ⟨⟨hstore, hflush, hsent⟩, next, hload, hsent ▸ hperm, hpair⟩

end PersistentJar

end HttpState
