import HttpState.Proofs.Cookie.Timestamps
import HttpState.Proofs.Jar.Snapshot
import HttpState.Storage.CookieTable
import Mathlib.Data.List.Induction

/-!
# What a table gives back

A table keeps less of a cookie than a list does: timestamps come back as whole seconds, and a cookie
is lost if such a timestamp is outside the calendar. Of cookies with the same key only the last one
has a row. Cookies in the order of their keys come back one by one in this order.

A cookie that has expired does not come back fresh, as its expiry is rounded down. It does therefore
not matter for what has not expired whether expired cookies are put into the table or left out.

## Key results

- `Row.cookie?_ofCookie`: what comes back of one cookie
- `CookieTable.mem_cookies_ofCookies_iff`: what comes back of a list
- `CookieTable.cookies_ofCookies`: the same in order, if the list is in order
- `CookieTable.filter_cookies_ofCookies`: what comes back and has not expired
-/

namespace HttpState

open Time (Timestamp nanosPerSecond isCalendarSecond)

/-! ## The last cookies of their keys -/

namespace Cookie

/-- A cookie of a list behind which none has the same key. -/
def IsLastOf (cs : List Cookie) (c : Cookie) : Prop :=
  ∃ before after, cs = before ++ c :: after ∧ ∀ d ∈ after, d.key ≠ c.key

/-- The last cookies of their keys, in the order in which they are in the list. -/
def latest (cs : List Cookie) : List Cookie :=
  cs.foldl (fun l c => l.filter (·.key != c.key) ++ [c]) []

/-- One more cookie takes the place of the one with its key, at the end. -/
theorem latest_append_singleton (cs : List Cookie) (c : Cookie) :
    latest (cs ++ [c]) = (latest cs).filter (·.key != c.key) ++ [c] := by
  rw [latest, List.foldl_append]
  rfl

/-- With one more cookie in the list, this one is the last of its key, and any other was so before
    and has another key. -/
theorem isLastOf_append_singleton {cs : List Cookie} {c d : Cookie} :
    d.IsLastOf (cs ++ [c]) ↔ d.IsLastOf cs ∧ c.key ≠ d.key ∨ d = c := by
  constructor
  · -- Whether anything comes behind `d` decides.
    rintro ⟨before, after, heq, hafter⟩
    rcases List.eq_nil_or_concat after with rfl | ⟨after, e, rfl⟩
    · exact .inr (List.cons.inj (List.append_inj_right' heq rfl)).1.symm
    · rw [List.concat_eq_append, ← List.cons_append, ← List.append_assoc] at heq
      obtain ⟨rfl, hce⟩ := List.append_inj' heq rfl
      obtain rfl := (List.cons.inj hce).1
      refine .inl ⟨⟨before, after, rfl, ?_⟩, hafter c (by simp)⟩
      intro f hf
      exact hafter f (by simp [hf])
  · rintro (⟨⟨before, after, rfl, hafter⟩, hne⟩ | rfl)
    · refine ⟨before, after ++ [c], by simp, ?_⟩
      intro f hf
      rcases List.mem_append.1 hf with hf | hf
      · exact hafter f hf
      · exact List.mem_singleton.1 hf ▸ hne
    · exact ⟨cs, [], rfl, by simp⟩

/-- The latest cookies of a list are those that are the last of their key. -/
theorem mem_latest_iff {cs : List Cookie} {c : Cookie} : c ∈ latest cs ↔ c.IsLastOf cs := by
  -- From the end, as a cookie is the last one of what has come so far.
  induction cs using List.reverseRecOn with
  | nil => simp [latest, IsLastOf]
  | append_singleton cs d ih =>
    rw [latest_append_singleton, isLastOf_append_singleton, List.mem_append, List.mem_filter, ih,
      List.mem_singleton, bne_iff_ne, ne_comm]

/-- The latest cookies have different keys. -/
theorem nodup_keys_latest (cs : List Cookie) : ((latest cs).map key).Nodup := by
  induction cs using List.reverseRecOn with
  | nil => exact List.nodup_nil
  | append_singleton cs c ih =>
    have hother : ∀ d ∈ (latest cs).filter (·.key != c.key), d.key ≠ c.key := by
      intro d hd
      exact bne_iff_ne.1 (List.mem_filter.1 hd).2
    rw [latest_append_singleton, List.map_append, List.nodup_append']
    refine ⟨ih.sublist (List.filter_sublist.map key), by simp, ?_⟩
    intro k hk hc
    obtain ⟨d, hd, rfl⟩ := List.mem_map.1 hk
    exact hother d hd (by simpa using hc)

/-- Where no key occurs twice, all cookies are the latest. -/
theorem latest_of_nodup {cs : List Cookie} (h : (cs.map key).Nodup) : latest cs = cs := by
  induction cs using List.reverseRecOn with
  | nil => rfl
  | append_singleton cs c ih =>
    rw [List.map_append, List.nodup_append'] at h
    obtain ⟨hcs, _, hdisjoint⟩ := h
    rw [latest_append_singleton, ih hcs, List.filter_eq_self.2]
    intro d hd
    exact bne_iff_ne.2 fun heq => hdisjoint (List.mem_map_of_mem hd) (by simp [heq])

end Cookie

namespace Storage

namespace Row

/-! ## Rows -/

/-- A flag is written as zero or one. -/
theorem integer?_flag (b : Bool) : (flag b).integer? = some (if b then 1 else 0) := rfl

/-- A number that was written for a flag is read as the flag. -/
theorem ite_bne_zero (b : Bool) : ((if b then 1 else 0 : Int) != 0) = b := by
  cases b <;> rfl

/-- An optional text is read as it was written. -/
theorem optional?_text (s : Option String) :
    ((s.map Cell.text).getD .null).optional? Cell.text? = some s := by
  cases s <;> rfl

/-- An expiry as a row gives it back. -/
def expiry? (e : Option Timestamp) : Option (Option Timestamp) :=
  match e with
  | none => some none
  | some t => (timestamp? t.seconds).map some

/-- An optional time is read in whole seconds, if it lies in the calendar. -/
theorem optional?_seconds (e : Option Timestamp) :
    ((e.map fun t => Cell.integer t.seconds).getD .null).optional?
      (fun c => c.integer?.bind timestamp?) = expiry? e := by
  cases e <;> rfl

/-- The row of a cookie gives it back with other timestamps, if it gives one back at all. -/
theorem cookie?_ofCookie (c : Cookie) :
    (ofCookie c).cookie? = (expiry? c.expires).bind fun expires =>
      (timestamp? c.created.seconds).bind fun created =>
        some { c with expires := expires, created := created } := by
  have htext : ∀ s, (Cell.text s).text? = some s := fun s => rfl
  have hinteger : ∀ n, (Cell.integer n).integer? = some n := fun n => rfl
  simp only [cookie?, ofCookie, optional?_text, optional?_seconds, htext, integer?_flag, hinteger,
    Option.bind_eq_bind, Option.bind_some, ite_bne_zero]

/-- What is read from the row of a cookie is this cookie, but for its times. -/
theorem exists_of_cookie?_ofCookie {c d : Cookie} (h : (ofCookie c).cookie? = some d) :
    ∃ expires created, expiry? c.expires = some expires ∧
      d = { c with expires := expires, created := created } := by
  rw [cookie?_ofCookie] at h
  obtain ⟨expires, hexpires, h⟩ := Option.bind_eq_some_iff.1 h
  obtain ⟨created, _, h⟩ := Option.bind_eq_some_iff.1 h
  exact ⟨expires, created, hexpires, (Option.some.inj h).symm⟩

/-- Writing and reading keeps the key of a cookie. -/
theorem key_of_cookie?_ofCookie {c d : Cookie} (h : (ofCookie c).cookie? = some d) :
    d.key = c.key := by
  obtain ⟨_, _, _, rfl⟩ := exists_of_cookie?_ofCookie h
  rfl

/-- Whole seconds are not later than the time they are taken from. -/
theorem nanos_le_of_timestamp? {t u : Timestamp} (h : timestamp? t.seconds = some u) :
    u.nanos ≤ t.nanos := by
  unfold timestamp? at h
  obtain ⟨_, h⟩ := Option.ite_none_right_eq_some.1 h
  rw [← Option.some.inj h]
  simp only [Timestamp.utc, Timestamp.seconds, nanosPerSecond]
  omega

/-- What has expired comes back expired. -/
theorem isExpired_of_cookie?_ofCookie {c d : Cookie} {now : Int}
    (h : (ofCookie c).cookie? = some d) (hc : c.isExpired now = true) : d.isExpired now = true := by
  obtain ⟨expires, created, hexpires, rfl⟩ := exists_of_cookie?_ofCookie h
  unfold Cookie.isExpired at *
  cases hce : c.expires with
  | none =>
    -- A cookie without expiry does not expire.
    rw [hce] at hc
    exact nomatch hc
  | some t =>
    -- Rounding down only makes the expiry earlier.
    rw [hce] at hc hexpires
    obtain ⟨u, hu, rfl⟩ := Option.map_eq_some_iff.1 hexpires
    have hle := nanos_le_of_timestamp? hu
    simp only [decide_eq_true_eq] at hc ⊢
    omega

/-- A time is read back if its second lies in the calendar, and without its fraction. -/
theorem timestamp?_eq_some_iff {t u : Timestamp} :
    timestamp? t.seconds = some u ↔ isCalendarSecond t.seconds = true ∧ u = t.floor := by
  rw [timestamp?, Option.ite_none_right_eq_some, Option.some.injEq]
  exact and_congr_right' eq_comm

/-- A row gives its cookie back if the timestamps of this are in the calendar. They are rounded
    down. -/
theorem cookie?_ofCookie_eq_some_iff {c d : Cookie} :
    (ofCookie c).cookie? = some d ↔
      (∀ t ∈ c.timestamps, isCalendarSecond t.seconds = true) ∧ d = c.inSeconds := by
  -- A cookie without an expiry has no time that could be outside the calendar.
  have hexpires : ∀ e, expiry? c.expires = some e ↔
      (∀ t ∈ c.expires, isCalendarSecond t.seconds = true) ∧ e = c.expires.map Timestamp.floor := by
    intro e
    cases c.expires with
    | none =>
      constructor
      · intro h
        exact ⟨fun t ht => absurd ht (Option.not_mem_none t), (Option.some.inj h).symm⟩
      · rintro ⟨_, rfl⟩
        rfl
    | some t =>
      rw [expiry?, Option.map_eq_some_iff]
      simp only [timestamp?_eq_some_iff, Option.mem_some_iff, forall_eq', Option.map_some]
      constructor
      · rintro ⟨u, ⟨ht, rfl⟩, rfl⟩
        exact ⟨ht, rfl⟩
      · rintro ⟨ht, rfl⟩
        exact ⟨_, ⟨ht, rfl⟩, rfl⟩
  rw [cookie?_ofCookie]
  simp only [Option.bind_eq_some_iff, hexpires, timestamp?_eq_some_iff, Option.some.injEq,
    Cookie.timestamps, List.forall_mem_cons, Option.mem_toList]
  constructor
  · rintro ⟨_, ⟨he, rfl⟩, _, ⟨hcreated, rfl⟩, rfl⟩
    exact ⟨⟨hcreated, he⟩, rfl⟩
  · rintro ⟨⟨hcreated, he⟩, rfl⟩
    exact ⟨_, ⟨he, rfl⟩, _, ⟨hcreated, rfl⟩, rfl⟩

/-- Two rows are about the same key if their cookies have the same key. -/
theorem sameKey_ofCookie {c d : Cookie} :
    (ofCookie c).sameKey (ofCookie d) = true ↔ c.key = d.key := by
  simp [sameKey, ofCookie, Cookie.key, and_assoc]

end Row

namespace CookieTable

/-! ## Tables -/

/-- The table has a row for the last cookie of each key. -/
theorem ofCookies_eq_map_latest (cs : List Cookie) :
    ofCookies cs = (Cookie.latest cs).map Row.ofCookie := by
  induction cs using List.reverseRecOn with
  | nil => rfl
  | append_singleton cs c ih =>
    -- Rows have the same key exactly if their cookies have.
    have hother : (fun r => !(Row.ofCookie c).sameKey r) ∘ Row.ofCookie = (·.key != c.key) := by
      funext d
      rw [Function.comp_apply, Bool.eq_iff_iff, Bool.not_eq_true', Bool.eq_false_iff, Ne,
        Row.sameKey_ofCookie, bne_iff_ne, ne_comm]
    rw [ofCookies, List.foldl_append, List.foldl_cons, List.foldl_nil]
    change replace (ofCookies cs) (.ofCookie c) = _
    rw [ih, replace, List.filter_map, hother, Cookie.latest_append_singleton, List.map_append]
    rfl

/-- Cookies with different keys each get a row of their own. -/
theorem ofCookies_eq_map {cs : List Cookie} (h : (cs.map Cookie.key).Nodup) :
    ofCookies cs = cs.map Row.ofCookie := by
  rw [ofCookies_eq_map_latest, Cookie.latest_of_nodup h]

/-- What comes back of a list: of each key the last cookie, if its timestamps are in the calendar,
    with these timestamps rounded down. -/
theorem mem_cookies_ofCookies_iff {cs : List Cookie} {d : Cookie} :
    d ∈ (ofCookies cs).cookies ↔
      ∃ c : Cookie, c.IsLastOf cs ∧ (∀ t ∈ c.timestamps, isCalendarSecond t.seconds = true) ∧
        d = c.inSeconds := by
  rw [cookies, List.mem_mergeSort, ofCookies_eq_map_latest, List.filterMap_map, List.mem_filterMap]
  simp only [Function.comp_apply, Cookie.mem_latest_iff, Row.cookie?_ofCookie_eq_some_iff]

/-- No two cookies with the same key come back, and they come back in the order of their keys. -/
theorem inKeyOrder_cookies_ofCookies (cs : List Cookie) :
    Cookie.InKeyOrder (ofCookies cs).cookies := by
  have hperm : (ofCookies cs).cookies.Perm ((ofCookies cs).filterMap Row.cookie?) :=
    List.mergeSort_perm _ _
  have hkeys : ((ofCookies cs).cookies.map Cookie.key).Nodup := by
    -- The rows of the table are those of the latest cookies, and these have different keys.
    rw [(hperm.map Cookie.key).nodup_iff, ofCookies_eq_map_latest, List.filterMap_map]
    refine List.pairwise_map.2 (List.pairwise_filterMap.2 ?_)
    refine (List.pairwise_map.1 (Cookie.nodup_keys_latest cs)).imp ?_
    intro a b hab a' ha' b' hb'
    rw [Row.key_of_cookie?_ofCookie ha', Row.key_of_cookie?_ofCookie hb']
    exact hab
  have hsorted : (ofCookies cs).cookies.Pairwise fun a b => a.key.le b.key = true :=
    List.pairwise_mergeSort (fun a b c => Cookie.Key.le_trans a.key b.key c.key)
      (fun a b => Cookie.Key.le_total a.key b.key) _
  exact hsorted.and (List.pairwise_map.1 hkeys)

/-- Cookies in the order of their keys come back one by one. -/
theorem cookies_ofCookies {cs : List Cookie} (h : Cookie.InKeyOrder cs) :
    (ofCookies cs).cookies = cs.filterMap fun c => (Row.ofCookie c).cookie? := by
  have hkeys : (cs.map Cookie.key).Nodup := List.pairwise_map.2 (h.imp And.right)
  have hsorted : (cs.filterMap fun c => (Row.ofCookie c).cookie?).Pairwise
      fun a b => a.key.le b.key = true := by
    refine List.pairwise_filterMap.2 (h.imp ?_)
    intro a b hab a' ha' b' hb'
    rw [Row.key_of_cookie?_ofCookie ha', Row.key_of_cookie?_ofCookie hb']
    exact hab.1
  rw [cookies, ofCookies_eq_map hkeys, List.filterMap_map]
  exact List.mergeSort_of_pairwise hsorted

/-- What comes back and has not expired does not depend on cookies that have expired. -/
theorem filter_cookies_ofCookies {cs : List Cookie} (h : Cookie.InKeyOrder cs) (now : Int) :
    (ofCookies cs).cookies.filter (!·.isExpired now) =
      (ofCookies (cs.filter (!·.isExpired now))).cookies.filter (!·.isExpired now) := by
  rw [cookies_ofCookies h, cookies_ofCookies (h.filter _), List.filter_filterMap,
    List.filter_filterMap, List.filterMap_filter]
  refine List.filterMap_congr ?_
  intro c _
  cases hc : c.isExpired now with
  -- A fresh cookie is on both sides.
  | false => simp
  | true =>
    -- An expired cookie is dropped on the right, and its row has expired as well.
    cases hd : (Row.ofCookie c).cookie? with
    | none => simp
    | some d => simp [Option.filter, Row.isExpired_of_cookie?_ofCookie hd hc]

end CookieTable

end Storage

end HttpState
