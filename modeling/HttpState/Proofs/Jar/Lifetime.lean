import HttpState.Proofs.Cookie.Lifetime
import HttpState.Proofs.Jar.Enumeration
import HttpState.Proofs.Jar.Receipt
import HttpState.Proofs.Jar.Retrieval

/-!
# How long cookies stay fresh

A jar has of each key the cookie that was stored last. Whatever it was that took away others before,
a cookie that is still there says what that call has said, except for its creation time, which may
be that of a cookie it took the place of. So what is known of single headers is known of jars: a
cookie was fresh when it was last set, and does not outlive the longest lifetime from then on.

## Key definitions

- `settings`: the cookies that a run stores, each with the time
- `lastSetting?`: when and to what a key was set last

## Key results

- `eq_or_mem_of_mem_insert`: storing a cookie leaves no other one with its key
- `IsLatest.apply`, `IsLatest.run`: what is in a jar was stored last
- `lifetimes_exact_and_bounded`: the expiry of received cookies and of all cookies of a jar
-/

namespace HttpState.Jar

open HttpState.Time

/-- The cookies that a run stores, one after another, each with the reading of the clock. -/
def settings (j : Jar) : List (Int × Operation) → List (Int × Cookie)
  | [] => []
  | (now, op) :: ops => (op.stores now j).map (now, ·) ++ (op.apply now j).settings ops

/-- The last of some settings that is about a key. -/
def lastOfKey? (k : Cookie.Key) (set : List (Int × Cookie)) : Option (Int × Cookie) :=
  (set.filter (·.2.key == k)).getLast?

/-- When a run has last stored a cookie with a key, and that cookie. -/
def lastSetting? (j : Jar) (ops : List (Int × Operation)) (k : Cookie.Key) :
    Option (Int × Cookie) := lastOfKey? k (j.settings ops)

/-- The last setting of a key is the one that was appended. -/
theorem lastOfKey?_append_self (set : List (Int × Cookie)) (now : Int) (c : Cookie) :
    lastOfKey? c.key (set ++ [(now, c)]) = some (now, c) := by
  simp [lastOfKey?, List.filter_append]

/-- A setting of one key does not change the last one of another. -/
theorem lastOfKey?_append_of_ne {k : Cookie.Key} {c : Cookie} (h : c.key ≠ k)
    (set : List (Int × Cookie)) (now : Int) :
    lastOfKey? k (set ++ [(now, c)]) = lastOfKey? k set := by
  simp [lastOfKey?, List.filter_append, h]

/-! ## What is stored last -/

/-- After a cookie was stored, a cookie with its key says what it says, and all others were there
    before. -/
theorem eq_or_mem_of_mem_insert {j : Jar} (hv : j.Valid) {c x : Cookie}
    (h : x ∈ (j.insert c).cookies) :
    (x.key = c.key ∧ x = { c with created := x.created }) ∨ (x.key ≠ c.key ∧ x ∈ j.cookies) := by
  by_cases hkey : x.key = c.key
  · refine .inl ⟨hkey, ?_⟩
    cases hget : j.get? c.key with
    | some old =>
      -- The cookie that was there has been replaced, and no other one has the key.
      have hfound : (j.insert c).get? c.key = some { c with created := old.created } := by
        rw [get?_replace hv hget, Function.update_self]
      have hx : (j.insert c).get? c.key = some x :=
        (get?_eq_some_iff (hv.insert c).buckets).2 ⟨h, hkey⟩
      rw [Option.some.inj (hx.symm.trans hfound)]
    | none =>
      -- The cookie is new, so no other one has its key.
      cases exists_of_mem_insert h with
      | inl hmem => exact absurd hkey (get?_eq_none_iff.1 hget x hmem)
      | inr hnew =>
        cases hnew with
        | inl heq => rw [heq]
        | inr heq =>
          obtain ⟨d, -, rfl⟩ := heq
          rfl
  · refine .inr ⟨hkey, ?_⟩
    cases exists_of_mem_insert h with
    | inl hmem => exact hmem
    | inr hnew =>
      cases hnew with
      | inl heq => exact absurd (congrArg Cookie.key heq) hkey
      | inr heq =>
        obtain ⟨d, -, rfl⟩ := heq
        exact absurd rfl hkey

/-- Every cookie of a jar is the last one with its key among these settings. -/
def IsLatest (set : List (Int × Cookie)) (j : Jar) : Prop :=
  ∀ c ∈ j.cookies, ∃ p, lastOfKey? c.key set = some p ∧ c = { p.2 with created := c.created }

namespace IsLatest

variable {set : List (Int × Cookie)} {j k : Jar}

/-- A part of the jar is as its settings left it. -/
theorem of_subset (h : IsLatest set j) (hsub : ∀ c ∈ k.cookies, c ∈ j.cookies) : IsLatest set k :=
  fun c hc => h c (hsub c hc)

/-- After one more setting the cookie with its key is this one, and all others are as they were. -/
theorem insert (h : IsLatest set j) (hv : j.Valid) (now : Int) (c : Cookie) :
    IsLatest (set ++ [(now, c)]) (j.insert c) := by
  intro x hx
  cases eq_or_mem_of_mem_insert hv hx with
  | inl hnew =>
    obtain ⟨hkey, heq⟩ := hnew
    exact ⟨(now, c), hkey ▸ lastOfKey?_append_self set now c, heq⟩
  | inr hold =>
    obtain ⟨hkey, hmem⟩ := hold
    rw [lastOfKey?_append_of_ne (Ne.symm hkey)]
    exact h x hmem

/-- Cookies that are stored one after another at one time. -/
theorem foldl_insert (h : IsLatest set j) (hv : j.Valid) (now : Int) (cs : List Cookie) :
    IsLatest (set ++ cs.map (now, ·)) (cs.foldl Jar.insert j) := by
  induction cs generalizing set j with
  | nil => simpa using h
  | cons c cs ih =>
    have hrest := ih (h.insert hv now c) (hv.insert c)
    rwa [List.append_assoc] at hrest

end IsLatest

/-- An operation stores its cookies one after another, or stores nothing and leaves nothing but
    cookies that were there. -/
theorem Operation.apply_cases (now : Int) (j : Jar) (op : Operation) :
    op.apply now j = (op.stores now j).foldl Jar.insert j ∨
      (op.stores now j = [] ∧ ∀ c ∈ (op.apply now j).cookies, c ∈ j.cookies) := by
  cases op with
  | receive a header =>
    cases hstored : (j.receive a header now).1 with
    | true =>
      obtain ⟨c, hreceived, hinsert⟩ := exists_of_receive_fst hstored
      refine .inl ?_
      simp only [Operation.apply, Operation.stores, hstored, hreceived, hinsert]
      rfl
    | false =>
      refine .inr ⟨by simp [Operation.stores, hstored], ?_⟩
      intro c hc
      -- A cookie that was not there comes of a positive answer.
      refine (mem_or_stores_of_mem_receive hc).resolve_right ?_
      intro hstores
      exact absurd hstores.1 (by simp [hstored])
  | load cs => exact .inl rfl
  | removeAll => exact .inr ⟨rfl, fun c hc => absurd hc List.not_mem_nil⟩
  | removeExpired => exact .inr ⟨rfl, fun c hc => mem_of_mem_filter hc⟩
  | removeSession => exact .inr ⟨rfl, fun c hc => mem_of_mem_filter hc⟩
  | setAccepts accepts => exact .inr ⟨rfl, fun c hc => hc⟩

namespace IsLatest

variable {set : List (Int × Cookie)} {j : Jar}

/-- One operation keeps each cookie as its last setting left it: it stores cookies, which are the
    last settings now, or takes some away. -/
theorem apply (h : IsLatest set j) (hv : j.Valid) (now : Int) (op : Operation) :
    IsLatest (set ++ (op.stores now j).map (now, ·)) (op.apply now j) := by
  cases op.apply_cases now j with
  | inl hstores =>
    rw [hstores]
    exact h.foldl_insert hv now _
  | inr hnothing =>
    obtain ⟨hnil, hsub⟩ := hnothing
    rw [hnil, List.map_nil, List.append_nil]
    exact h.of_subset hsub

/-- Every cookie of a jar is the last one with its key that was stored, whatever was done since. -/
theorem run (h : IsLatest set j) (hv : j.Valid) (ops : List (Int × Operation)) :
    IsLatest (set ++ j.settings ops) (j.run ops) := by
  induction ops generalizing set j with
  | nil =>
    rw [settings, List.append_nil]
    exact h
  | cons o ops ih =>
    have hrest := ih (h.apply hv o.1 o.2) (hv.apply o.1 o.2).1
    rwa [List.append_assoc] at hrest

end IsLatest

/-! ## When cookies were stored -/

/-- Where nothing is loaded, what is stored was received, and was fresh then. -/
theorem exists_of_mem_settings {j : Jar} {ops : List (Int × Operation)}
    (hload : ∀ o ∈ ops, o.2.isLoad = false) {now : Int} {c : Cookie}
    (h : (now, c) ∈ j.settings ops) :
    ∃ a header, (now, .receive a header) ∈ ops ∧ Cookie.receive? a header now = some c ∧
      c.isExpired now = false := by
  induction ops generalizing j with
  | nil => exact absurd h List.not_mem_nil
  | cons o ops ih =>
    obtain ⟨time, op⟩ := o
    rw [List.forall_mem_cons] at hload
    cases List.mem_append.1 h with
    | inr hrest =>
      -- The setting is of a later operation.
      obtain ⟨a, header, hmem, hreceived⟩ := ih hload.2 hrest
      exact ⟨a, header, List.mem_cons_of_mem _ hmem, hreceived⟩
    | inl hfirst =>
      -- The setting is of this operation, which is a header that was stored, as nothing is loaded.
      obtain ⟨d, hd, heq⟩ := List.mem_map.1 hfirst
      cases heq
      cases op with
      | receive a header =>
        simp only [Operation.stores, List.mem_ite_nil_right, Option.mem_toList] at hd
        obtain ⟨hstored, hreceived⟩ := hd
        obtain ⟨-, e, he, hfresh⟩ := fresh_of_receive_fst hstored
        rw [hreceived, Option.some.injEq] at he
        rw [← he] at hfresh
        exact ⟨a, header, List.mem_cons_self, hreceived, hfresh⟩
      | load cs => cases hload.1
      | _ => exact absurd hd List.not_mem_nil

/-- Take any address, any text and any time from which on the longest lifetime ends within the
    calendar. There is an answer, and a cookie that is accepted expires as `SetCookie.expiry` says.

    And take any jar that was made empty and that nothing was loaded into. None of its cookies
    expires later than the longest lifetime from now on. Each that expires was set by a call, was
    fresh when its key was last set, and has said since then when it expires. -/
theorem lifetimes_exact_and_bounded :
    (∀ (a : Address) (header : String) (now : Int),
      (later? now SetCookie.longestAllowed).isSome = true →
        Cookie.reception a header now ≠ .beyondCalendar ∧
        ∀ c, Cookie.reception a header now = .cookie c →
          c.expires = (SetCookie.expiry header.toList now).map Timestamp.utc) ∧
    ∀ (perHost total : Nat) (ops : List (Int × Operation)) (now : Int),
      (∀ o ∈ ops, o.2.isLoad = false) → (∀ o ∈ ops, o.1 ≤ now) →
        ∀ c ∈ ((empty (.of perHost total)).run ops).cookies, ∀ t, c.expires = some t →
          t.nanos ≤ now + SetCookie.longestAllowed * nanosPerSecond ∧
          ∃ set d, (empty (.of perHost total)).lastSetting? ops c.key = some (set, d) ∧
            (∃ a header, (set, .receive a header) ∈ ops ∧
              Cookie.receive? a header set = some d) ∧
            c = { d with created := c.created } ∧ set < t.nanos := by
  constructor
  · intro a header now hclock
    refine ⟨Cookie.reception_ne_beyondCalendar hclock a header, ?_⟩
    intro c hc
    exact Cookie.expires_of_receive? (Cookie.receive?_eq_some_iff.2 hc)
  · intro perHost total ops now hload hclock c hc t ht
    have hempty : IsLatest [] (empty (.of perHost total)) :=
      fun x hx => absurd hx List.not_mem_nil
    -- The jar starts without cookies, so each of them was set during the run.
    obtain ⟨⟨set, d⟩, hlast, heq⟩ := hempty.run (valid_empty _) ops c hc
    rw [List.nil_append] at hlast
    obtain ⟨a, header, hmem, hreceived, hfresh⟩ :=
      exists_of_mem_settings hload (List.mem_of_mem_filter (List.mem_of_getLast? hlast))
    have hexpires : d.expires = some t := by rw [← ht, heq]
    have hafter : set < t.nanos := Cookie.isExpired_eq_false_iff.1 hfresh t hexpires
    refine ⟨?_, set, d, hlast, ⟨a, header, hmem, hreceived⟩, heq, hafter⟩
    -- The lifetime is counted from the call, and that was not later than now.
    rw [Cookie.expires_of_receive? hreceived] at hexpires
    obtain ⟨e, he, rfl⟩ := Option.map_eq_some_iff.1 hexpires
    have hle := SetCookie.expiry_le he
    have hnow := hclock _ hmem
    show e ≤ now + SetCookie.longestAllowed * nanosPerSecond
    omega

set_option maxRecDepth 10000 in
/-- A number of seconds that is too long to be told apart from others lasts as long as allowed, and
    a cookie with it was replaced by one that expires earlier. -/
theorem lifetimes_exact_and_bounded_replaced :
    let a : Address := ⟨"a.b", "/", .plain⟩
    let long := "k=v; Max-Age=99999999999999999999; Expires=Thu, 01 Jan 1970 00:00:00 GMT"
    let ops : List (Int × Operation) :=
      [(0, .receive a long), (5, .receive a "k=w; Max-Age=60; Max-Age=1; Max-Age=+2")]
    (∃ c, Cookie.reception a long 0 = .cookie c ∧ c.expires = some (.utc 34560000000000000)) ∧
      ∃ c ∈ ((empty (.of 1 1)).run ops).cookies, c.created = .utc 0 ∧
        c.expires = some (.utc 1000000005) ∧
        ∃ set d, (empty (.of 1 1)).lastSetting? ops c.key = some (set, d) ∧
          set < 1000000005 ∧ d.created = .utc 5 := by
  intro a long ops
  obtain ⟨hexact, hbounded⟩ := lifetimes_exact_and_bounded
  constructor
  · -- A lifetime beyond the limit is cut off, and the expiry date behind it is ignored.
    have hreception : Cookie.reception a long 0 = .cookie ⟨"k", "v", "a.b", "/", true, false, false,
        none, some (.utc 34560000000000000), .utc 0⟩ := by decide +kernel
    refine ⟨_, hreception, ?_⟩
    rw [(hexact a long 0 (by decide)).2 _ hreception]
    decide +kernel
  · -- The second cookie takes the first one's place and creation time, and its last lifetime
    -- counts.
    have hmem : ⟨"k", "w", "a.b", "/", true, false, false, none, some (.utc 1000000005), .utc 0⟩ ∈
        ((empty (.of 1 1)).run ops).cookies := by decide +kernel
    obtain ⟨-, set, d, hlast, -, -, hafter⟩ :=
      hbounded 1 1 ops 7 (by decide) (by decide) _ hmem _ rfl
    refine ⟨_, hmem, rfl, rfl, set, d, hlast, hafter, ?_⟩
    have hfive : ((empty (.of 1 1)).lastSetting? ops ⟨"a.b", "/", "k"⟩).map (·.2.created) =
        some (.utc 5) := by decide +kernel
    rw [show (empty (.of 1 1)).lastSetting? ops ⟨"a.b", "/", "k"⟩ = some (set, d) from hlast]
      at hfive
    exact Option.some.inj hfive

end HttpState.Jar
