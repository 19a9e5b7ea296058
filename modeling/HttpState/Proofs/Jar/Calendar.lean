import HttpState.Proofs.Cookie.Timestamps
import HttpState.Proofs.Jar.Contents
import HttpState.Proofs.Jar.Session

/-!
# Cookies whose times are in the calendar

A table keeps only times of the years -9999 to 9999. All times of a cookie that a jar has received
are among them if the clock has been, at the end of the calendar by the check of the longest
lifetime and at its beginning as no cookie is stored that has expired.

## Key results

- `Cookie.isInCalendar_of_receive?`: the times of a received cookie
- `Row.isInCalendar_of_cookie?`: the times of a cookie of a table
- `Operation.isInCalendar_changeJar`: the times of the cookies of a jar after an operation
-/

namespace HttpState

open Storage (Row Cell Connection CookieTable Files)
open Time (Timestamp nanosPerSecond firstSecond lastSecond isCalendarSecond later?)

/-- A second is in the calendar if it lies between the first one and the last. -/
theorem Time.isCalendarSecond_iff {n : Int} :
    isCalendarSecond n = true ↔ firstSecond ≤ n ∧ n ≤ lastSecond := by
  simp [isCalendarSecond]

/-! ## Received cookies -/

namespace SetCookie

/-- A cookie that is received has an expiry in the calendar or none, and so does the clock. -/
theorem expiryAt?_le {s : SetCookie} {now : Int} {expires : Option Int}
    (h : s.expiryAt? now = some expires) :
    now / nanosPerSecond ≤ lastSecond ∧ ∀ e ∈ expires, e / nanosPerSecond ≤ lastSecond := by
  simp only [expiryAt?, Option.bind_eq_bind, Option.bind_eq_some_iff] at h
  obtain ⟨latest, hlatest, h⟩ := h
  rw [Time.later?_eq_some_iff] at hlatest
  simp only [nanosPerSecond] at hlatest ⊢
  constructor
  · omega
  · intro e he
    cases he
    -- The lifetime is given in seconds, or by the header's own time.
    split at h
    · rename_i seconds _
      split at h
      · cases h
        omega
      · rw [Option.map_eq_some_iff] at h
        obtain ⟨e, hlater, heq⟩ := h
        cases heq
        exact (Time.later?_eq_some_iff.1 hlater).2
    · -- An expiry of the header counts up to the longest lifetime.
      rw [Option.some.injEq, Option.map_eq_some_iff] at h
      obtain ⟨t, -, rfl⟩ := h
      omega

end SetCookie

namespace Cookie

/-- All times of a cookie are in the calendar. -/
def IsInCalendar (c : Cookie) : Prop := ∀ t ∈ c.timestamps, isCalendarSecond t.seconds = true

/-- A cookie is in the calendar if the time it was created is, and its expiry if it has one. -/
theorem isInCalendar_iff {c : Cookie} :
    c.IsInCalendar ↔ isCalendarSecond c.created.seconds = true ∧
      ∀ t ∈ c.expires, isCalendarSecond t.seconds = true := by
  simp [IsInCalendar, timestamps]

/-- A cookie that takes the creation time of another one. -/
theorem IsInCalendar.withCreated {c d : Cookie} (hc : c.IsInCalendar) (hd : d.IsInCalendar) :
    IsInCalendar { c with created := d.created } :=
  isInCalendar_iff.2 ⟨(isInCalendar_iff.1 hd).1, (isInCalendar_iff.1 hc).2⟩

/-- The times of a cookie that is received and has not expired. -/
theorem isInCalendar_of_receive? {a : Address} {header : String} {now : Int} {c : Cookie}
    (h : receive? a header now = some c) (hfresh : c.isExpired now = false)
    (hnow : firstSecond ≤ now / nanosPerSecond) : c.IsInCalendar := by
  obtain ⟨s, expires, -, -, -, hexpires, hc⟩ := exists_of_receive? h
  obtain ⟨hlast, hexpiry⟩ := SetCookie.expiryAt?_le hexpires
  rw [isInCalendar_iff]
  constructor
  · -- It was created when it was received.
    rw [created_of_receive? h]
    exact Time.isCalendarSecond_iff.2 ⟨hnow, hlast⟩
  · intro t ht
    have heq : c.expires = expires.map Timestamp.utc := by rw [hc]
    rw [heq, Option.mem_def, Option.map_eq_some_iff] at ht
    obtain ⟨e, he, rfl⟩ := ht
    have hle := hexpiry e he
    simp only [isExpired, heq, he, Option.map_some, decide_eq_false_iff_not] at hfresh
    refine Time.isCalendarSecond_iff.2 ⟨?_, hle⟩
    -- The expiry is after the clock, so its second is not before that of the clock.
    simp only [Timestamp.seconds, Timestamp.utc, nanosPerSecond] at hnow hfresh ⊢
    omega

end Cookie

/-! ## Tables -/

namespace Storage

/-- A time that can be read from a row is in the calendar. -/
theorem Row.isCalendarSecond_of_timestamp? {n : Int} {t : Timestamp} (h : timestamp? n = some t) :
    isCalendarSecond t.seconds = true := by
  rw [timestamp?, Option.ite_none_right_eq_some] at h
  obtain ⟨hn, ht⟩ := h
  cases ht
  have hseconds : (Timestamp.utc (n * nanosPerSecond)).seconds = n := by
    simp only [Timestamp.seconds, Timestamp.utc, nanosPerSecond]
    omega
  rw [hseconds]
  exact hn

/-- A row that has a time outside the calendar is passed over. -/
theorem Row.isInCalendar_of_cookie? {r : Row} {c : Cookie} (h : r.cookie? = some c) :
    c.IsInCalendar := by
  simp only [Row.cookie?, Option.bind_eq_bind, Option.bind_eq_some_iff, Option.some.injEq] at h
  -- Behind the eight cells without a time.
  obtain ⟨_, -, _, -, _, -, _, -, _, -, _, -, _, -, _, -, expires, hexpires, created, hcreated,
    rfl⟩ := h
  obtain ⟨_, -, hcreated⟩ := hcreated
  rw [Cookie.isInCalendar_iff]
  refine ⟨isCalendarSecond_of_timestamp? hcreated, ?_⟩
  intro t ht
  cases ht
  -- The cell of the expiry is not empty, as the cookie has one.
  unfold Cell.optional? at hexpires
  split at hexpires
  · cases hexpires
  · rw [Option.map_eq_some_iff] at hexpires
    obtain ⟨t, hexpires, heq⟩ := hexpires
    cases heq
    obtain ⟨_, -, hexpires⟩ := Option.bind_eq_some_iff.1 hexpires
    exact isCalendarSecond_of_timestamp? hexpires

/-- What a connection reads has times in the calendar only. -/
theorem Connection.isInCalendar_of_load {c : Connection} {d : Files} {cs : List Cookie}
    (h : (c.load d).1 = some cs) : ∀ x ∈ cs, x.IsInCalendar := by
  have hnone : (if c.knowsTable then some [] else none) = some cs → cs = [] := by
    cases c.knowsTable <;> simp
  -- Without a table nothing is read; with one, every cookie comes of one of its rows.
  rcases hlook : c.look d with ⟨_ | _ | ⟨t, v⟩, c'⟩
  · rw [load, hlook] at h
    simp [hnone h]
  · rw [load, hlook] at h
    simp [hnone h]
  · rw [load, hlook] at h
    cases h
    intro x hx
    rw [CookieTable.cookies, List.mem_mergeSort, List.mem_filterMap] at hx
    obtain ⟨r, -, hr⟩ := hx
    exact Row.isInCalendar_of_cookie? hr

end Storage

/-! ## Jars -/

namespace Jar

/-- A jar with times in the calendar that loads cookies with such times. -/
theorem isInCalendar_load {j : Jar} (hj : ∀ c ∈ j.cookies, c.IsInCalendar) {cs : List Cookie}
    (hcs : ∀ c ∈ cs, c.IsInCalendar) (now : Int) : ∀ c ∈ (j.load cs now).cookies, c.IsInCalendar :=
  forall_mem_load (fun _ _ hc hd => hc.withCreated hd) hj hcs now

end Jar

namespace PersistentJar

/-- What all cookies of a jar satisfy, and all that are stored in it, and what is not lost by taking
    the creation time of another cookie, all cookies of the jar satisfy after an operation. -/
theorem Operation.forall_mem_changeJar {P : Cookie → Prop}
    (hreplace : ∀ c d, P c → P d → P { c with created := d.created }) {j : Jar}
    (hj : ∀ c ∈ j.cookies, P c) {now : Int} {op : Operation}
    (hop : ∀ a header c, Cookie.receive? a header now = some c → c.isExpired now = false → P c) :
    ∀ c ∈ (op.changeJar now j).cookies, P c := by
  cases op with
  | receive a header =>
    simp only [changeJar, Jar.receive]
    split
    · -- No header is accepted, none gives a cookie, the cookie withdraws another, or it is stored.
      split
      · exact hj
      · rename_i c hreceived
        split
        · exact fun x hx => hj x (Jar.mem_of_mem_erase hx)
        · rename_i hfresh
          have hc := hop a header c hreceived (by simpa using hfresh)
          exact Jar.forall_mem_insert hreplace hj hc
    · exact hj
  | request a => exact hj
  | removeAll => simp [changeJar, Jar.removeAll, Jar.cookies]
  | removeExpired => exact fun x hx => hj x (Jar.mem_of_mem_filter hx)
  | removeSession => exact fun x hx => hj x (Jar.mem_of_mem_filter hx)
  | setAccepts accepts => exact hj
  | flush => exact hj

/-- The times of the cookies of a jar stay in the calendar if the clock does. -/
theorem Operation.isInCalendar_changeJar {j : Jar} (hj : ∀ c ∈ j.cookies, c.IsInCalendar)
    {now : Int} (hnow : firstSecond ≤ now / nanosPerSecond) (op : Operation) :
    ∀ c ∈ (op.changeJar now j).cookies, c.IsInCalendar :=
  forall_mem_changeJar (fun _ _ hc hd => hc.withCreated hd) hj
    fun _ _ _ hreceived hfresh => Cookie.isInCalendar_of_receive? hreceived hfresh hnow

end PersistentJar

end HttpState
