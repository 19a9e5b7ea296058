import HttpState.Proofs.Cookie.Received
import HttpState.Proofs.Jar.Eviction

/-!
# Taking a cookie

What a jar answers to a header value and what becomes of its cookies, for every header value and
every jar that can come about. A jar is a map from keys to cookies that has as many as its limits
allow: the header is refused, or its cookie removes a key, replaces the cookie with its key, or is
new and sends away at most one other cookie.

A positive answer says that a cookie was stored. It was, but where it is the new cookie itself that
has to leave, the jar does not have it any more. This takes a jar without a cookie that is older
than the new one, so it needs a clock that has not moved on or has gone back, or cookies that were
kept elsewhere.

## Key results

- `receive_of_refused`, `receive_of_expired`, `receive_of_fresh`: what can happen to a header value
- `receive_refines_map`: what becomes of the jar as a map, and of the order of its cookies
- `receive_stores`: when a positive answer is right
-/

namespace HttpState

open SetCookie (Reception)

/-- A header gives a cookie exactly when its reception is that cookie. -/
theorem Cookie.receive?_eq_some_iff {a : Address} {header : String} {now : Int} {c : Cookie} :
    Cookie.receive? a header now = some c ↔ Cookie.reception a header now = .cookie c := by
  rw [Cookie.receive?]
  cases Cookie.reception a header now <;> simp [Reception.cookie?]

namespace Jar

/-! ## What can happen to a header value -/

section Cases

variable {j : Jar} {a : Address} {header : String} {now : Int} {c : Cookie}

/-- A header value that is not taken changes nothing. -/
theorem receive_of_refused (h : j.accepts = false ∨ Cookie.receive? a header now = none) :
    j.receive a header now = (false, j) := by
  rcases h with h | h
  · simp [receive, h]
  · simp [receive, h]

/-- A cookie that has expired already removes the one with its key. -/
theorem receive_of_expired (haccepts : j.accepts = true)
    (h : Cookie.receive? a header now = some c) (hexpired : c.isExpired now = true) :
    j.receive a header now = (false, j.erase c.key) := by
  simp [receive, haccepts, h, hexpired]

/-- Any other cookie is stored. -/
theorem receive_of_fresh (haccepts : j.accepts = true)
    (h : Cookie.receive? a header now = some c) (hfresh : c.isExpired now = false) :
    j.receive a header now = (true, j.insert c) := by
  simp [receive, haccepts, h, hfresh]

/-- A positive answer comes of a jar that takes cookies and of a cookie that has not expired. -/
theorem fresh_of_receive_fst (h : (j.receive a header now).1 = true) :
    j.accepts = true ∧ ∃ c, Cookie.receive? a header now = some c ∧ c.isExpired now = false := by
  -- Of the four ways a header can be taken only one answers that a cookie was stored.
  cases haccepts : j.accepts with
  | false =>
    rw [receive_of_refused (.inl haccepts)] at h
    exact nomatch h
  | true =>
    cases hreceived : Cookie.receive? a header now with
    | none =>
      rw [receive_of_refused (.inr hreceived)] at h
      exact nomatch h
    | some c =>
      refine ⟨rfl, c, rfl, ?_⟩
      cases hexpired : c.isExpired now with
      | true =>
        rw [receive_of_expired haccepts hreceived hexpired] at h
        exact nomatch h
      | false => rfl

/-- A positive answer comes of a cookie that was stored. -/
theorem exists_of_receive_fst (h : (j.receive a header now).1 = true) :
    ∃ c, Cookie.receive? a header now = some c ∧ (j.receive a header now).2 = j.insert c := by
  obtain ⟨haccepts, c, hreceived, hfresh⟩ := fresh_of_receive_fst h
  refine ⟨c, hreceived, ?_⟩
  rw [receive_of_fresh haccepts hreceived hfresh]

end Cases

/-! ## The jar as a bounded map -/

/-- A jar takes a header value as a map with limits would, whatever the limits are that it was made
    with, whatever was done to it, and whatever the clock reads.

    * If the jar takes no cookies or the header is refused, the answer is negative and the jar stays
      as it is. It also stays as it is where the clock is so late that there is no answer.
    * If the cookie has expired, the answer is negative and its key is removed.
    * Otherwise the answer is positive. A key that is there keeps its place and its creation time,
      and nothing else changes.
    * A cookie with a new key is created now and comes last in its domain. At most one cookie
      leaves, the one that `Evicts` says. -/
theorem receive_refines_map (perHost total : Nat) (ops : List (Int × Operation)) (a : Address)
    (header : String) (now : Int) :
    let j := (empty (.of perHost total)).run ops
    let stored := (j.receive a header now).1
    let j' := (j.receive a header now).2
    j.limits = .of perHost total ∧
    (j.accepts = false ∨ Cookie.reception a header now = .refused → stored = false ∧ j' = j) ∧
    (j.isBeyondCalendar a header now = true → j' = j) ∧
    ∀ c, j.accepts = true → Cookie.reception a header now = .cookie c →
      (j'.accepts = true ∧ j'.limits = j.limits) ∧
      (c.isExpired now = true → stored = false ∧
        j'.get? = Function.update j.get? c.key none ∧
        ∀ domain, j'.ofDomain domain = (j.ofDomain domain).filter (·.key != c.key)) ∧
      (c.isExpired now = false → stored = true ∧
        (∀ old, j.get? c.key = some old →
          j'.get? = Function.update j.get? c.key (some { c with created := old.created }) ∧
          ∀ domain, j'.ofDomain domain = (j.ofDomain domain).map fun d =>
            if d.key = c.key then { c with created := d.created } else d) ∧
        (j.get? c.key = none → c.created = .utc now ∧ ∃ evicted, j.Evicts c evicted ∧
          (∀ k, j'.get? k =
            (Function.update j.get? c.key (some c) k).filter (some · != evicted)) ∧
          ∀ domain, j'.ofDomain domain =
            (j.ofDomain domain ++ if domain = c.domain then [c] else []).filter
              (some · != evicted))) := by
  intro j stored j'
  -- That at most one cookie leaves needs the limits, which hold after every run.
  obtain ⟨hv, hlimits⟩ := (valid_empty (.of perHost total)).run ops
  refine ⟨hlimits, ?_, ?_, ?_⟩
  · -- The jar accepts nothing, or the header gives no cookie.
    intro h
    have hreceive : j.receive a header now = (false, j) := by
      refine receive_of_refused (h.imp_right ?_)
      intro hrefused
      rw [Cookie.receive?, hrefused]
      rfl
    exact ⟨congrArg Prod.fst hreceive, congrArg Prod.snd hreceive⟩
  · -- A cookie that would expire beyond the calendar is no cookie either.
    intro h
    simp only [isBeyondCalendar, Bool.and_eq_true, decide_eq_true_eq] at h
    have hnone : Cookie.receive? a header now = none := by
      rw [Cookie.receive?, h.2]
      rfl
    exact congrArg Prod.snd (receive_of_refused (j := j) (.inr hnone))
  · intro c haccepts hreception
    have hreceived := Cookie.receive?_eq_some_iff.2 hreception
    refine ⟨⟨(accepts_receive _ a header now).trans haccepts, (hv.receive a header now).2⟩, ?_, ?_⟩
    · -- An expired cookie withdraws what has its key.
      intro hexpired
      have hreceive : j.receive a header now = (false, j.erase c.key) :=
        receive_of_expired haccepts hreceived hexpired
      have hj' : j' = j.erase c.key := congrArg Prod.snd hreceive
      rw [hj']
      exact ⟨congrArg Prod.fst hreceive, get?_erase hv c.key, ofDomain_erase hv.buckets c.key⟩
    · intro hfresh
      have hreceive : j.receive a header now = (true, j.insert c) :=
        receive_of_fresh haccepts hreceived hfresh
      have hj' : j' = j.insert c := congrArg Prod.snd hreceive
      rw [hj']
      refine ⟨congrArg Prod.fst hreceive, ?_, ?_⟩
      · -- A cookie with its key stands in the jar already: only its place and its age stay.
        intro old hold
        refine ⟨get?_replace hv hold, ofDomain_replace hv.buckets ?_⟩
        rw [hold]
        exact Option.some_ne_none old
      · -- The key is new, and the cookie may cost another one its place.
        intro hnew
        exact ⟨Cookie.created_of_receive? hreceived, exists_evicts_of_new hv hnew⟩

set_option maxRecDepth 10000 in
/-- In a full jar the oldest cookie leaves for one of a domain with room. -/
theorem receive_refines_map_full :
    let ops : List (Int × Operation) :=
      [(1, .receive ⟨"a.b", "/", .plain⟩ "k=1"), (2, .receive ⟨"b.c", "/", .plain⟩ "k=2")]
    let r := ((empty (.of 1 2)).run ops).receive ⟨"c.d", "/", .plain⟩ "k=3" 3
    r.1 = true ∧ r.2.get? ⟨"a.b", "/", "k"⟩ = none ∧ r.2.get? ⟨"b.c", "/", "k"⟩ ≠ none := by
  intro ops r
  have hreception : Cookie.reception ⟨"c.d", "/", .plain⟩ "k=3" 3 =
      .cookie ⟨"k", "3", "c.d", "/", true, false, false, none, none, .utc 3⟩ := rfl
  have hcookies : ((empty (.of 1 2)).run ops).cookies =
      [⟨"k", "1", "a.b", "/", true, false, false, none, none, .utc 1⟩,
        ⟨"k", "2", "b.c", "/", true, false, false, none, none, .utc 2⟩] := by
    decide +kernel
  obtain ⟨_, _, _, hreceive⟩ :=
    receive_refines_map 1 2 ops ⟨"c.d", "/", .plain⟩ "k=3" 3
  obtain ⟨_, _, hfresh⟩ := hreceive _ (by decide +kernel) hreception
  obtain ⟨hstored, _, hnew⟩ := hfresh rfl
  obtain ⟨_, evicted, hevicts, hget, _⟩ := hnew (by decide +kernel)
  -- No domain is full but the jar is, and only the first cookie is as old as the oldest.
  have hevicted : evicted =
      some ⟨"k", "1", "a.b", "/", true, false, false, none, none, .utc 1⟩ := by
    cases hevicts with
    | ofDomain full oldest => exact absurd full (by decide +kernel)
    | ofJar room full mem oldest =>
      rw [hcookies] at mem oldest
      have hfirst := oldest _ (List.mem_cons_of_mem _ List.mem_cons_self)
      simp only [List.mem_cons, List.not_mem_nil, or_false] at mem
      rcases mem with rfl | rfl | rfl
      · exact absurd hfirst (by decide)
      · rfl
      · exact absurd hfirst (by decide)
    | none room space => exact absurd space (by decide +kernel)
  refine ⟨hstored, ?_, ?_⟩
  · rw [hget, hevicted]
    decide +kernel
  · rw [hget, hevicted]
    decide +kernel

/-! ## When a positive answer is right -/

/-- After a cookie was stored it is in the jar, except that its creation time may be that of an
    earlier one, unless the jar was full, its domain had room, and no cookie was older. -/
theorem exists_mem_insert {j : Jar} (hv : j.Valid) {c : Cookie}
    (hstays : (∃ d ∈ j.cookies, d.key = c.key ∨ d.created.nanos < c.created.nanos) ∨
      (j.ofDomain c.domain).length = j.limits.perHost ∨ j.count < j.limits.total) :
    ∃ x ∈ (j.insert c).cookies, x = { c with created := x.created } := by
  cases hget : j.get? c.key with
  | some old =>
    -- A replacement evicts nothing, whatever the clock reads.
    have hfound : (j.insert c).get? c.key = some { c with created := old.created } := by
      rw [get?_replace hv hget, Function.update_self]
    exact ⟨_, ((get?_eq_some_iff (hv.insert c).buckets).1 hfound).1, rfl⟩
  | none =>
    have hne := get?_eq_none_iff.1 hget
    obtain ⟨evicted, hevicts, hmap, _⟩ := exists_evicts_of_new hv hget
    -- One cookie may leave, but it is not the new one.
    have hself : evicted ≠ some c := by
      apply hevicts.ne_some_self
      · intro hmem
        exact hne c ((mem_ofDomain_iff hv.buckets).1 hmem).1 rfl
      · refine hstays.imp_left ?_
        intro ⟨d, hd, hcase⟩
        exact ⟨d, hd, hcase.resolve_left (hne d hd)⟩
    have hfound : (j.insert c).get? c.key = some c := by
      rw [hmap, Function.update_self, Option.filter_some, if_pos (bne_iff_ne.2 hself.symm)]
    exact ⟨c, ((get?_eq_some_iff (hv.insert c).buckets).1 hfound).1, rfl⟩

/-- Where the jar is full, the domain of a cookie with a new key has room, and all other cookies are
    younger, the cookie is not in the jar when it has been stored. -/
theorem get?_insert_of_younger {j : Jar} (hv : j.Valid) {c : Cookie} (hnew : j.get? c.key = none)
    (hroom : (j.ofDomain c.domain).length < j.limits.perHost) (hfull : j.count = j.limits.total)
    (hyounger : ∀ d ∈ j.cookies, c.created.nanos < d.created.nanos) :
    (j.insert c).get? c.key = none := by
  obtain ⟨evicted, hevicts, hmap, _⟩ := exists_evicts_of_new hv hnew
  rw [hmap, Function.update_self, hevicts.eq_some_self hroom hfull hyounger, Option.filter_some]
  exact if_neg (by simp)

/-- After a positive answer the jar has the cookie that was received, except for its creation time
    if it has replaced another one, provided that its key was there or some cookie is older, its
    domain was full, or the jar was not. Without that, if all other cookies are younger, the answer
    is positive as well but the jar does not have the cookie. -/
theorem receive_stores {perHost total : Nat} {ops : List (Int × Operation)} {a : Address}
    {header : String} {now : Int}
    (h : (((empty (.of perHost total)).run ops).receive a header now).1 = true) :
    let j := (empty (.of perHost total)).run ops
    let j' := (j.receive a header now).2
    ∃ c, Cookie.reception a header now = .cookie c ∧
      ((∃ d ∈ j.cookies, d.key = c.key ∨ d.created.nanos < now) ∨
          (j.ofDomain c.domain).length = max 1 perHost ∨ j.count < max 1 total →
        ∃ x ∈ j'.cookies, x.name = c.name ∧ x.value = c.value ∧ x.domain = c.domain ∧
          x.path = c.path ∧ x.expires = c.expires) ∧
      ((∀ d ∈ j.cookies, d.key ≠ c.key ∧ now < d.created.nanos) →
        (j.ofDomain c.domain).length < max 1 perHost → j.count = max 1 total →
        ∀ x ∈ j'.cookies, x.key ≠ c.key) := by
  intro j j'
  obtain ⟨hv, hlimits⟩ := (valid_empty (.of perHost total)).run ops
  have hperHost : j.limits.perHost = max 1 perHost := by rw [hlimits]; rfl
  have htotal : j.limits.total = max 1 total := by rw [hlimits]; rfl
  obtain ⟨c, hreceived, hj'⟩ := exists_of_receive_fst h
  have hj' : j' = j.insert c := hj'
  have hcreated : c.created.nanos = now := by rw [Cookie.created_of_receive? hreceived]; rfl
  -- The cookie stays in each of the cases in which somebody else is older or there is room.
  refine ⟨c, Cookie.receive?_eq_some_iff.1 hreceived, ?_, ?_⟩
  · intro hstays
    rw [← hperHost, ← htotal, ← hcreated] at hstays
    obtain ⟨x, hx, heq⟩ := exists_mem_insert hv hstays
    rw [hj']
    refine ⟨x, hx, ?_⟩
    rw [heq]
    exact ⟨rfl, rfl, rfl, rfl, rfl⟩
  · -- Every other cookie is younger, and the jar is full: the new cookie is the one that leaves.
    intro hother hroom hfull
    rw [← hperHost] at hroom
    rw [← htotal] at hfull
    rw [← hcreated] at hother
    have hnew : j.get? c.key = none := get?_eq_none_iff.2 fun d hd => (hother d hd).1
    rw [hj']
    exact get?_eq_none_iff.1
      (get?_insert_of_younger hv hnew hroom hfull fun d hd => (hother d hd).2)

set_option maxRecDepth 10000 in
/-- A jar that is full has the cookie that it takes in the place of an older one. -/
theorem receive_stores_full :
    let r := ((empty (.of 1 1)).run [(0, .receive ⟨"b.com", "/", .plain⟩ "old=1")]).receive
      ⟨"a.com", "/", .plain⟩ "new=1" 1
    r.1 = true ∧ ∃ x ∈ r.2.cookies, x.name = "new" ∧ x.value = "1" ∧ x.domain = "a.com" := by
  intro r
  have hstored : r.1 = true := by decide +kernel
  refine ⟨hstored, ?_⟩
  obtain ⟨c, hc, hstays, _⟩ := receive_stores hstored
  have hreception : Cookie.reception ⟨"a.com", "/", .plain⟩ "new=1" 1 =
      .cookie ⟨"new", "1", "a.com", "/", true, false, false, none, none, .utc 1⟩ := rfl
  rw [hreception] at hc
  cases hc
  -- There was an older cookie, so the new one is not the one that leaves.
  have hold : ⟨"old", "1", "b.com", "/", true, false, false, none, none, .utc 0⟩ ∈
      ((empty (.of 1 1)).run [(0, .receive ⟨"b.com", "/", .plain⟩ "old=1")]).cookies := by
    decide +kernel
  obtain ⟨x, hx, hname, hvalue, hdomain, _⟩ := hstays (.inl ⟨_, hold, .inr (by decide)⟩)
  exact ⟨x, hx, hname, hvalue, hdomain⟩

/-- Where the clock has gone back, a full jar says that it has stored a cookie that it has not. -/
theorem receive_does_not_store :
    let r := ((empty (.of 1 1)).run
      [(10000000000, .receive ⟨"b.com", "/", .plain⟩ "old=1")]).receive
      ⟨"a.com", "/", .plain⟩ "new=1" 0
    Cookie.reception ⟨"a.com", "/", .plain⟩ "new=1" 0 =
        .cookie ⟨"new", "1", "a.com", "/", true, false, false, none, none, .utc 0⟩ ∧
      r.1 = true ∧
      ¬ ∃ x ∈ r.2.cookies, x.name = "new" ∧ x.value = "1" ∧ x.domain = "a.com" ∧ x.path = "/" ∧
        x.expires = none := by
  decide +kernel

end Jar

end HttpState
