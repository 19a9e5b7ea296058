import HttpState.Proofs.Storage.Database

/-!
# Reading rows that other programs have written

Whatever is in the table of cookies, it can be read. Each row is read by itself: a row that is
readable gives one cookie, and one that is not is passed over, whichever of its cells it is that
cannot be read and wherever in the table it stands.

## Key definitions

- `Row.IsReadable`: what the cells of a row hold that can be read
- `Row.Denotes`: the cookie that a row is read as

## Key results

- `Row.cookie?_eq_some_iff`, `Row.isSome_cookie?_iff`: reading a row gives what it denotes, if it is
  readable
- `CookieTable.cookies_eq_of_readable_eq`: unreadable rows make no difference
- `Store.load_any_rows`: what a database is read as, whatever rows are in it
-/

namespace HttpState

open Storage (Path Row Cell Connection CookieTable Files)
open Time (Timestamp nanosPerSecond isCalendarSecond)

namespace Storage

namespace Row

/-- The columns of a row hold what they should: four texts, three flags and a creation time that are
    integers, a text or nothing, and an integer or nothing. The timestamps are in the calendar. -/
structure IsReadable (r : Row) : Prop where
  texts : ∀ c ∈ [r.domain, r.path, r.name, r.value], ∃ s, c = .text s
  integers : ∀ c ∈ [r.hostOnly, r.secure, r.httpOnly, r.created], ∃ n, c = .integer n
  sameSite : r.sameSite = .null ∨ ∃ s, r.sameSite = .text s
  expires : r.expires = .null ∨ ∃ n, r.expires = .integer n
  calendar : ∀ n, r.expires = .integer n ∨ r.created = .integer n → isCalendarSecond n = true

/-- A flag that an integer stands for. -/
def DenotesFlag (c : Cell) (b : Bool) : Prop := ∃ n, c = .integer n ∧ (b = true ↔ n ≠ 0)

/-- A timestamp that an integer stands for: so many seconds after 1970-01-01T00:00:00Z. -/
def DenotesTime (c : Cell) (t : Timestamp) : Prop :=
  ∃ n, c = .integer n ∧ isCalendarSecond n = true ∧ t = .utc (n * nanosPerSecond)

/-- The cookie that a row is read as. -/
structure Denotes (r : Row) (c : Cookie) : Prop where
  domain : r.domain = .text c.domain
  path : r.path = .text c.path
  name : r.name = .text c.name
  value : r.value = .text c.value
  hostOnly : DenotesFlag r.hostOnly c.hostOnly
  secure : DenotesFlag r.secure c.secure
  httpOnly : DenotesFlag r.httpOnly c.httpOnly
  sameSite : (r.sameSite = .null ∧ c.sameSite = none) ∨
    ∃ s, r.sameSite = .text s ∧ c.sameSite = some s
  expires : (r.expires = .null ∧ c.expires = none) ∨
    ∃ t, DenotesTime r.expires t ∧ c.expires = some t
  created : DenotesTime r.created c.created

/-! ## Cells -/

/-- A cell gives a text if it holds one. -/
theorem text?_eq_some_iff {c : Cell} {s : String} : c.text? = some s ↔ c = .text s := by
  cases c <;> simp [Cell.text?]

/-- A cell gives an integer if it holds one. -/
theorem integer?_eq_some_iff {c : Cell} {n : Int} : c.integer? = some n ↔ c = .integer n := by
  cases c <;> simp [Cell.integer?]

/-- A cell gives a flag if it holds an integer, which is zero for a flag that is not set. -/
theorem flag?_eq_some_iff {c : Cell} {b : Bool} :
    c.integer?.map (· != 0) = some b ↔ DenotesFlag c b := by
  simp only [DenotesFlag, Option.map_eq_some_iff, integer?_eq_some_iff]
  refine exists_congr fun n => and_congr_right' ?_
  cases b <;> simp

/-- A cell gives a time if it holds an integer that is a second of the calendar. -/
theorem time?_eq_some_iff {c : Cell} {t : Timestamp} :
    c.integer?.bind timestamp? = some t ↔ DenotesTime c t := by
  simp only [DenotesTime, Option.bind_eq_some_iff, integer?_eq_some_iff, timestamp?,
    Option.ite_none_right_eq_some, Option.some.injEq, eq_comm (a := t)]

/-- An optional cell may be empty; otherwise it is read as any other. -/
theorem optional?_eq_some_iff {α : Type} {read : Cell → Option α} (hnull : read .null = none)
    {c : Cell} {x : Option α} :
    c.optional? read = some x ↔
      (c = .null ∧ x = none) ∨ ∃ y, read c = some y ∧ x = some y := by
  have hsome : (read c).map some = some x ↔ ∃ y, read c = some y ∧ x = some y := by
    rw [Option.map_eq_some_iff]
    exact exists_congr fun y => and_congr_right' eq_comm
  cases c with
  | null => simp [Cell.optional?, hnull, eq_comm]
  | text s => simpa [Cell.optional?] using hsome
  | integer n => simpa [Cell.optional?] using hsome
  | real r => simpa [Cell.optional?] using hsome

/-! ## Rows -/

/-- Reading a row gives the cookie that it denotes. -/
theorem cookie?_eq_some_iff {r : Row} {c : Cookie} : r.cookie? = some c ↔ r.Denotes c := by
  have hsameSite := @optional?_eq_some_iff String Cell.text? rfl r.sameSite c.sameSite
  have hexpires := @optional?_eq_some_iff Timestamp (fun d => d.integer?.bind timestamp?) rfl
    r.expires c.expires
  simp only [text?_eq_some_iff] at hsameSite
  simp only [time?_eq_some_iff] at hexpires
  constructor
  · -- Reading goes from cell to cell, so each of them has been read.
    intro h
    simp only [cookie?, Option.bind_eq_bind, Option.bind_eq_some_iff, Option.some.injEq] at h
    obtain ⟨name, hname, value, hvalue, domain, hdomain, path, hpath, m, hm, n, hn, k, hk, ss, hss,
      e, he, t, ht, rfl⟩ := h
    exact {
      domain := text?_eq_some_iff.1 hdomain
      path := text?_eq_some_iff.1 hpath
      name := text?_eq_some_iff.1 hname
      value := text?_eq_some_iff.1 hvalue
      hostOnly := flag?_eq_some_iff.1 (by simp [hm])
      secure := flag?_eq_some_iff.1 (by simp [hn])
      httpOnly := flag?_eq_some_iff.1 (by simp [hk])
      sameSite := hsameSite.1 hss
      expires := hexpires.1 he
      created := time?_eq_some_iff.1 (Option.bind_eq_some_iff.2 ht) }
  · intro h
    obtain ⟨m, hm, hhostOnly⟩ := Option.map_eq_some_iff.1 (flag?_eq_some_iff.2 h.hostOnly)
    obtain ⟨n, hn, hsecure⟩ := Option.map_eq_some_iff.1 (flag?_eq_some_iff.2 h.secure)
    obtain ⟨k, hk, hhttpOnly⟩ := Option.map_eq_some_iff.1 (flag?_eq_some_iff.2 h.httpOnly)
    simp only [cookie?, text?_eq_some_iff.2 h.domain, text?_eq_some_iff.2 h.path,
      text?_eq_some_iff.2 h.name, text?_eq_some_iff.2 h.value, hm, hn, hk,
      hsameSite.2 h.sameSite, hexpires.2 h.expires, time?_eq_some_iff.2 h.created,
      Option.bind_eq_bind, Option.bind_some, hhostOnly, hsecure, hhttpOnly]

/-- A row can be read exactly if it denotes a cookie: the conditions on its cells are all that
    reading asks for. -/
theorem isReadable_iff {r : Row} : r.IsReadable ↔ ∃ c, r.Denotes c := by
  constructor
  · -- From the cells to the cookie, one cell after another.
    rintro ⟨htexts, hintegers, hsameSite, hexpires, hcalendar⟩
    simp only [List.forall_mem_cons, List.not_mem_nil, false_imp_iff, implies_true, and_true]
      at htexts hintegers
    obtain ⟨⟨domain, hdomain⟩, ⟨path, hpath⟩, ⟨name, hname⟩, ⟨value, hvalue⟩⟩ := htexts
    obtain ⟨⟨m, hm⟩, ⟨n, hn⟩, ⟨k, hk⟩, ⟨created, hcreated⟩⟩ := hintegers
    have hflag : ∀ {c : Cell} {i : Int}, c = .integer i → DenotesFlag c (i != 0) :=
      fun hc => ⟨_, hc, by simp⟩
    have htime : ∀ {c : Cell} {i : Int}, c = .integer i → isCalendarSecond i = true →
        DenotesTime c (.utc (i * nanosPerSecond)) := fun hc hi => ⟨_, hc, hi, rfl⟩
    obtain ⟨ss, hss⟩ : ∃ ss, (r.sameSite = .null ∧ ss = none) ∨
        ∃ s, r.sameSite = .text s ∧ ss = some s := by
      rcases hsameSite with hnull | ⟨s, hs⟩
      · exact ⟨none, .inl ⟨hnull, rfl⟩⟩
      · exact ⟨some s, .inr ⟨s, hs, rfl⟩⟩
    obtain ⟨e, he⟩ : ∃ e, (r.expires = .null ∧ e = none) ∨
        ∃ t, DenotesTime r.expires t ∧ e = some t := by
      rcases hexpires with hnull | ⟨i, hi⟩
      · exact ⟨none, .inl ⟨hnull, rfl⟩⟩
      · exact ⟨some _, .inr ⟨_, htime hi (hcalendar i (.inl hi)), rfl⟩⟩
    exact ⟨⟨name, value, domain, path, m != 0, n != 0, k != 0, ss, e,
        .utc (created * nanosPerSecond)⟩,
      hdomain, hpath, hname, hvalue, hflag hm, hflag hn, hflag hk, hss, he,
      htime hcreated (hcalendar created (.inr hcreated))⟩
  · -- From the cookie back to the cells: each of them holds what was denoted.
    rintro ⟨c, h⟩
    obtain ⟨i, hcreated, hi, _⟩ := h.created
    constructor
    case texts =>
      simp only [List.forall_mem_cons, List.not_mem_nil, false_imp_iff, implies_true, and_true]
      exact ⟨⟨_, h.domain⟩, ⟨_, h.path⟩, ⟨_, h.name⟩, ⟨_, h.value⟩⟩
    case integers =>
      simp only [List.forall_mem_cons, List.not_mem_nil, false_imp_iff, implies_true, and_true]
      exact ⟨h.hostOnly.imp fun _ => And.left, h.secure.imp fun _ => And.left,
        h.httpOnly.imp fun _ => And.left, i, hcreated⟩
    case sameSite => exact h.sameSite.imp And.left fun ⟨s, hs, _⟩ => ⟨s, hs⟩
    case expires => exact h.expires.imp And.left fun ⟨_, ⟨n, hn, _⟩, _⟩ => ⟨n, hn⟩
    case calendar =>
      intro n hn
      -- The integers of a row are its expiry and the time of its creation.
      rcases hn with hn | hn
      · rcases h.expires with ⟨hnull, _⟩ | ⟨_, ⟨m, hm, hcalendar, _⟩, _⟩
        · rw [hnull] at hn
          cases hn
        · rw [hm] at hn
          cases hn
          exact hcalendar
      · rw [hcreated] at hn
        cases hn
        exact hi

/-- Whether a row is read says whether it is readable. -/
theorem isSome_cookie?_iff {r : Row} : r.cookie?.isSome = true ↔ r.IsReadable := by
  rw [Option.isSome_iff_exists, isReadable_iff]
  exact exists_congr fun _ => cookie?_eq_some_iff

instance : DecidablePred IsReadable := fun _ => decidable_of_iff _ isSome_cookie?_iff

end Row

namespace CookieTable

/-! ## Tables -/

/-- The readable rows of a table. -/
def readable (t : CookieTable) : CookieTable := t.filter (·.IsReadable)

/-- Unreadable rows give no cookies, so it does not matter whether they are there. -/
theorem filterMap_readable (t : CookieTable) :
    t.readable.filterMap Row.cookie? = t.filterMap Row.cookie? := by
  rw [readable, List.filterMap_filter]
  apply List.filterMap_congr
  intro r _
  split
  · rfl
  · rename_i hnot
    rw [decide_eq_true_eq, ← Row.isSome_cookie?_iff, Bool.not_eq_true, Option.isSome_eq_false_iff,
      Option.isNone_iff_eq_none] at hnot
    exact hnot.symm

/-- Unreadable rows make no difference. -/
theorem cookies_eq_of_readable_eq {t u : CookieTable} (h : t.readable = u.readable) :
    t.cookies = u.cookies := by
  rw [cookies, cookies, ← filterMap_readable t, ← filterMap_readable u, h]

/-- Every readable row is read. -/
theorem forall₂_readable (t : CookieTable) :
    List.Forall₂ Row.Denotes t.readable (t.filterMap Row.cookie?) := by
  -- Unreadable rows give no cookie, so only the readable ones are looked at.
  rw [← filterMap_readable]
  have hall : ∀ r ∈ t.readable, r.IsReadable :=
    fun r hr => of_decide_eq_true (List.mem_filter.1 hr).2
  generalize t.readable = rows at hall
  induction rows with
  | nil => exact .nil
  | cons r rows ih =>
    rw [List.forall_mem_cons] at hall
    obtain ⟨c, hc⟩ := Row.isReadable_iff.1 hall.1
    rw [List.filterMap_cons_some (Row.cookie?_eq_some_iff.2 hc)]
    exact .cons hc (ih hall.2)

/-- Cookies that are read from a table stand in the order of the bytes of their keys. -/
theorem pairwise_cookies (t : CookieTable) :
    t.cookies.Pairwise fun a b => a.key.bytes ≤ b.key.bytes := by
  have hsorted : t.cookies.Pairwise fun a b => a.key.le b.key = true :=
    List.pairwise_mergeSort (fun a b c => Cookie.Key.le_trans a.key b.key c.key)
      (fun a b => Cookie.Key.le_total a.key b.key) _
  refine hsorted.imp ?_
  intro a b hab
  rw [← List.not_lt]
  -- If the bytes were the other way round, so would the keys be.
  intro hlt
  obtain ⟨hba, hne⟩ := Cookie.Key.bytes_lt_bytes_iff.1 hlt
  exact hne (Cookie.Key.le_antisymm hba hab)

end CookieTable

/-! ## Databases -/

/-- A file that is kept open is found by its number, and folders stay where they are. -/
theorem Directory.keepOpen?_of_find? {δ : Type} {d : Directory δ} {p : Path} {x : δ}
    {m : Option Nat} (h : d.find? p = some (.file x m))
    (hnumber : ∀ n, m = some n → d.content? n = some x) :
    ∃ n e, d.keepOpen? p = some (n, e) ∧ e.content? n = some x ∧
      ∀ q, e.hasFolder q = d.hasFolder q := by
  -- The file may be open already, or is given a number now.
  cases m with
  | some n => exact ⟨n, d, by simp [keepOpen?, h], hnumber n rfl, fun _ => rfl⟩
  | none =>
    have hne : p ≠ [] := by
      rintro rfl
      simp [find?] at h
    refine ⟨d.nextNumber,
      { d.put p (.file x (some d.nextNumber)) with nextNumber := d.nextNumber + 1 },
      by simp only [keepOpen?, h], by simp [content?, put, Node.contentOf?], ?_⟩
    intro q
    by_cases hq : q = p
    · subst hq
      have hput : Directory.find? { d.put q (.file x (some d.nextNumber)) with
          nextNumber := d.nextNumber + 1 } q = some (.file x (some d.nextNumber)) :=
        find?_put_self d hne _
      simp only [hasFolder, hput, h]
    · have hput := find?_put_of_ne d hq (.file x (some d.nextNumber))
      simp only [hasFolder]
      rw [← hput]
      rfl

/-- A database that can be opened: no folder stands where its journal or its log would be, and the
    number under which it is kept open, if it is, is no other file's. -/
structure Files.HasTable (d : Files) (p : Path) (t : CookieTable) (v : Nat) : Prop where
  read : d.read p = .ok (.database t v)
  hasLogFolder : hasLogFolder d p = false
  hasJournalFolder : hasJournalFolder d p = false
  number : ∀ n, d.numberAt? p = some n → d.content? n = some (.database t v)

/-- Whoever opens a database finds its table. -/
theorem Files.HasTable.exists_look {d : Files} {p : Path} {t : CookieTable} {v : Nat}
    (h : d.HasTable p t v) :
    ∃ c d', openDatabase d p = (some c, d') ∧ (c.look d').1 = .table t v := by
  obtain ⟨hread, hlog, hjournal, hnumber⟩ := h
  -- What can be read at the path is a file.
  obtain ⟨m, hfind⟩ : ∃ m, d.find? p = some (.file (.database t v) m) := by
    unfold Directory.read at hread
    split at hread
    · rename_i m hfind
      exact ⟨m, Except.ok.inj hread ▸ hfind⟩
    · cases hread
    · split at hread <;> cases hread
  obtain ⟨n, e, hkeep, hcontent, hfolder⟩ := Directory.keepOpen?_of_find? hfind
    fun n hn => hnumber n (by simp [Directory.numberAt?, hfind, hn])
  have hfinding : ∀ f : Files, (∀ q, f.hasFolder q = d.hasFolder q) →
      Files.finding f p (.database t v) = .table t v := by
    intro f hf
    simp only [Files.hasLogFolder, Files.hasJournalFolder] at hlog hjournal
    simp [Files.finding, Files.hasLogFolder, Files.hasJournalFolder, hf, hlog, hjournal]
  refine ⟨⟨p, n, v, true⟩, e, ?_, ?_⟩
  · simp only [openDatabase, ensureFile, hread, hfinding d fun _ => rfl, connect, hkeep]
  · simp [Connection.look, hcontent, hfinding e hfolder]

/-- Loading gives the cookies of the table that the connection finds. -/
theorem Connection.load_of_look {c c' : Connection} {d : Files} {t : CookieTable} {v : Nat}
    (h : c.look d = (.table t v, c')) : c.load d = (some t.cookies, c') := by
  rw [load, h]

end Storage

namespace Store

open Storage.CookieTable (readable)

/-- Take any table of cookies, whatever other programs have put into its rows. A store that finds
    the table can read it, and reads one cookie for each readable row, the one that the row denotes,
    in the order of the bytes of domain, path and name. The same is read of every table that has the
    same readable rows, whatever unreadable ones stand among them.

    A store finds the table if it has been opened before and looks into the file again, or if it is
    opened now. -/
theorem load_any_rows (t : CookieTable) :
    ∃ cs ds : List Cookie, List.Forall₂ Row.Denotes t.readable cs ∧ ds.Perm cs ∧
      ds.Pairwise (fun a b => a.key.bytes ≤ b.key.bytes) ∧
      ∀ (u : CookieTable) (v : Nat), u.readable = t.readable →
        (∀ (c : Connection) (s : Storage), (c.look s.directory).1 = .table u v →
          ((Store.sqlite c).load s).1 = .ok ds) ∧
        ∀ (p : Path) (s : Storage), Files.HasTable s.directory p u v →
          (StorePlace.sqlite p).load s = .ok ds := by
  refine ⟨t.filterMap Row.cookie?, t.cookies, t.forall₂_readable, List.mergeSort_perm _ _,
    t.pairwise_cookies, ?_⟩
  intro u v hsame
  have hload : ∀ (c : Connection) (s : Storage), (c.look s.directory).1 = .table u v →
      ((Store.sqlite c).load s).1 = .ok t.cookies := by
    intro c s hlook
    rw [load_sqlite, Connection.load_of_look (Prod.ext hlook rfl),
      Storage.CookieTable.cookies_eq_of_readable_eq hsame]
  refine ⟨hload, ?_⟩
  -- A place is opened anew, and the connection finds the same table.
  intro p s htable
  obtain ⟨c, d, hopen, hlook⟩ := htable.exists_look
  simp only [StorePlace.load, StorePlace.openStore, hopen]
  exact hload c { s with directory := d } hlook

end Store

end HttpState
