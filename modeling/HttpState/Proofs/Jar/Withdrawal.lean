import HttpState.Proofs.Cookie.Lifetime
import HttpState.Proofs.Jar.BucketOrder
import HttpState.Proofs.Jar.Receipt

/-!
# Taking a cookie back

A header with the attribute `Max-Age=0` at its end sets the same cookie as without it, except that
the cookie has expired. So its key is the same, whatever the header says about domain and path and
however often, and sending it takes back what the header without it has stored: the jar is what it
was, but for the cookie that was replaced and for the one that made room.

## Key results

- `Cookie.receive?_withdrawal`: the header with a lifetime of zero at its end
- `exists_erase_insert`: removing the key of a cookie that has just been stored
- `receive_withdrawn`: a header value and its withdrawal, for every jar that can come about
-/

namespace HttpState

open HttpState.Time

/-! ## The header -/

/-- A header value with one more attribute, which says that the cookie has expired. -/
def Cookie.withdrawal (header : String) : String := header ++ "; Max-Age=0"

namespace SetCookie

/-- A withdrawal is parsed as the header with a lifetime of zero. -/
theorem parse?_withdrawal (header : String) :
    parse? (Cookie.withdrawal header).toList =
      (parse? header.toList).map fun s => { s with maxAge := some 0 } := by
  have hpart : ';' ∉ " Max-Age=0".toList := by decide
  rw [Cookie.withdrawal, String.toList_append]
  exact parse?_append header.toList hpart

/-- A lifetime of zero ends now, if anything can be computed. -/
theorem expiryAt?_of_maxAge_zero {s : SetCookie} (h : s.maxAge = some 0) {now : Int}
    {expires : Option Int} (hexpires : s.expiryAt? now = some expires) : expires = some now := by
  simp only [expiryAt?, Option.bind_eq_bind, Option.bind_eq_some_iff] at hexpires
  obtain ⟨latest, hlatest, hexpires⟩ := hexpires
  have hclock : (later? now longestAllowed).isSome = true := by rw [hlatest]; rfl
  have hzero := later?_of_le hclock (Nat.zero_le longestAllowed)
  simp only [h, hzero] at hexpires
  simpa [longestAllowed] using hexpires.symm

end SetCookie

/-- A cookie that is withdrawn is the same one, except that it has expired by then. -/
theorem Cookie.receive?_withdrawal {a : Address} {header : String} {now now' : Int} {c : Cookie}
    (h : receive? a header now = some c)
    (hclock : reception a (withdrawal header) now' ≠ .beyondCalendar) :
    receive? a (withdrawal header) now' =
      some { c with expires := some (.utc now'), created := .utc now' } := by
  obtain ⟨s, _, hs, hdomain, hsecure, _, hc⟩ := exists_of_receive? h
  have hparse := SetCookie.parse?_withdrawal header
  rw [hs, Option.map_some] at hparse
  -- Neither the domain nor whether it is allowed depends on the lifetime.
  have hdomain' : { s with maxAge := some 0 }.domainFor? a = some (c.domain, c.hostOnly) := hdomain
  have hallowed : (s.secure && !a.isSecure) = false := by
    cases hsec : s.secure with
    | false => rfl
    | true => simp [hsecure hsec]
  simp only [receive?, reception, hparse, SetCookie.receptionFrom, hdomain', hallowed] at hclock ⊢
  -- The clock is within the calendar, so the withdrawal has an expiry, which is the time it is
  -- received.
  cases hexpires : { s with maxAge := some 0 }.expiryAt? now' with
  | none => simp [hexpires] at hclock
  | some expires =>
    have hnow := SetCookie.expiryAt?_of_maxAge_zero rfl hexpires
    rw [hc, hnow]
    rfl

namespace Jar

/-! ## The cookies with other keys -/

/-- A replacement changes nothing but the cookie with the key. -/
theorem filter_map_replace (c : Cookie) (cs : List Cookie) :
    (cs.map fun d => if d.key = c.key then { c with created := d.created } else d).filter
      (·.key != c.key) = cs.filter (·.key != c.key) := by
  induction cs with
  | nil => rfl
  | cons d cs ih =>
    rw [List.map_cons]
    -- Both are left out, as they have the key.
    by_cases hd : d.key = c.key
    · have hkey : ({ c with created := d.created } : Cookie).key = c.key := rfl
      rw [if_pos hd, List.filter_cons_of_neg (by simp [hkey]),
        List.filter_cons_of_neg (by simp [hd]), ih]
    · -- Nothing is put in its place.
      rw [if_neg hd, List.filter_cons_of_pos (by simp [hd]),
        List.filter_cons_of_pos (by simp [hd]), ih]

/-- A new cookie changes nothing but which cookie has left, if it is not the new one itself. -/
theorem filter_append_new (c : Cookie) (evicted : Option Cookie) (cs : List Cookie)
    (here : Prop) [Decidable here] :
    ((cs ++ if here then [c] else []).filter (some · != evicted)).filter (·.key != c.key) =
      cs.filter fun d => d.key != c.key && some d != evicted.filter (·.key != c.key) := by
  have hnew : (if here then [c] else []).filter
      (fun d => d.key != c.key && some d != evicted) = [] := by
    split <;> simp
  rw [List.filter_filter, List.filter_append, hnew, List.append_nil]
  apply List.filter_congr
  intro d _
  -- The new cookie is filtered out by its key, so it does not matter whether it was the one that
  -- left.
  by_cases hd : d.key = c.key
  · simp [hd]
  · have hleft : some d = evicted.filter (·.key != c.key) ↔ some d = evicted := by
      rw [eq_comm, Option.filter_eq_some_iff, bne_iff_ne, eq_comm]
      exact and_iff_left hd
    rw [Bool.eq_iff_iff]
    simp only [Bool.and_eq_true, bne_iff_ne, ne_eq, hleft]

/-! ## The jar -/

/-- What is left of the domains of a jar when a cookie has been stored and its key is removed: all
    cookies that do not have the key, except for one that has left, if one has. -/
theorem exists_ofDomain_erase_insert {j : Jar} (hv : j.Valid) (c : Cookie) :
    ∃ evicted : Option Cookie, (∀ d, evicted = some d → d ∈ j.cookies ∧ d.key ≠ c.key) ∧
      ∀ domain, ((j.insert c).erase c.key).ofDomain domain =
        (j.ofDomain domain).filter fun d => d.key != c.key && some d != evicted := by
  have herase := ofDomain_erase (hv.insert c).buckets c.key
  cases hget : j.get? c.key with
  | some old =>
    -- A cookie with its key was there: the new one takes its place, and nothing leaves.
    have hne : j.get? c.key ≠ none := by rw [hget]; exact Option.some_ne_none old
    refine ⟨none, nofun, ?_⟩
    intro domain
    rw [herase, ofDomain_replace hv.buckets hne, filter_map_replace]
    apply List.filter_congr
    intro d _
    exact (Bool.and_true _).symm
  | none =>
    obtain ⟨evicted, hevicts, hdomains⟩ := exists_ofDomain_insert hv hget
    -- The new cookie may be the one that has left, and then no other one has.
    refine ⟨evicted.filter (·.key != c.key), ?_, ?_⟩
    · intro d hd
      obtain ⟨rfl, hkey⟩ := Option.filter_eq_some_iff.1 hd
      have hkey : d.key ≠ c.key := by simpa using hkey
      have hne : d ≠ c := fun heq => hkey (congrArg Cookie.key heq)
      exact ⟨(List.mem_cons.1 (hevicts.mem hv.buckets)).resolve_left hne, hkey⟩
    · intro domain
      rw [herase, hdomains, filter_append_new]

/-- Removing the key of a cookie that has just been stored leaves the jar as it was before, without
    the cookie that had the key and the one that has left. -/
theorem exists_erase_insert {j : Jar} (hv : j.Valid) (c : Cookie) :
    ∃ evicted : Option Cookie,
      (∀ d, evicted = some d ↔ d ∈ j.cookies ∧ d.key ≠ c.key ∧ d ∉ (j.insert c).cookies) ∧
      (j.insert c).erase c.key = j.filter fun d => d.key != c.key && some d != evicted := by
  obtain ⟨evicted, hevicted, hdomains⟩ := exists_ofDomain_erase_insert hv c
  have hinsert := hv.insert c
  refine ⟨evicted, ?_, ?_⟩
  · intro d
    -- A cookie with another key is in the jar after both steps if it is there after the first.
    have hmem : d.key ≠ c.key → (d ∈ (j.insert c).cookies ↔ d ∈ j.cookies ∧ evicted ≠ some d) := by
      intro hkey
      have h : d ∈ ((j.insert c).erase c.key).ofDomain d.domain ↔
          d ∈ (j.ofDomain d.domain).filter fun d => d.key != c.key && some d != evicted := by
        rw [hdomains]
      rw [ofDomain_erase hinsert.buckets, List.mem_filter, List.mem_filter,
        mem_ofDomain_self hinsert.buckets, mem_ofDomain_self hv.buckets] at h
      rw [ne_comm]
      simpa [hkey] using h
    constructor
    · intro hd
      obtain ⟨hold, hkey⟩ := hevicted d hd
      refine ⟨hold, hkey, ?_⟩
      rw [hmem hkey]
      exact fun h => h.2 hd
    · intro ⟨hold, hkey, hnot⟩
      by_contra hd
      exact hnot ((hmem hkey).2 ⟨hold, hd⟩)
  · -- The two jars have the same cookies in each domain, so it remains to see that the domains are
    -- in the same order.
    obtain ⟨l, hl, hbefore, hafter⟩ := exists_domains_insert hv c
    refine eq_of_ofDomain_eq (hinsert.erase c.key) (hv.filter _) (accepts_insert j c)
      (limits_insert hv c) hl ((domains_erase_sublist _ _).trans hafter)
      ((domains_filter_sublist _ j).trans hbefore) ?_
    intro domain
    rw [hdomains, ofDomain_filter hv]

/-- A jar of which every cookie is kept stays as it is, also with the buckets it has. -/
theorem filter_eq_self {j : Jar} (hv : j.Valid) {p : Cookie → Bool}
    (h : ∀ c ∈ j.cookies, p c = true) : j.filter p = j := by
  refine eq_of_ofDomain_eq (hv.filter p) hv rfl rfl hv.buckets.domains_nodup
    (domains_filter_sublist p j) (List.Sublist.refl _) ?_
  intro domain
  rw [ofDomain_filter hv, List.filter_eq_self]
  intro c hc
  exact h c ((mem_ofDomain_iff hv.buckets).1 hc).1

/-- Whatever was done to a jar, a header value whose cookie it stores is taken back by the header
    value with a lifetime of zero at its end, as long as the clock is not too late for an answer.
    The answer is negative, and the jar is the one before both calls, with its buckets in the same
    order, without the cookie that had the key and without the other cookie that the first call has
    sent away, which is one at most. If there was none of either kind, it is exactly the jar before,
    and no bucket is left behind. -/
theorem receive_withdrawn {perHost total : Nat} {ops : List (Int × Operation)} {a : Address}
    {header : String} {now now' : Int}
    (h : (((empty (.of perHost total)).run ops).receive a header now).1 = true)
    (hclock : (((empty (.of perHost total)).run ops).receive a header now).2.isBeyondCalendar a
      (Cookie.withdrawal header) now' = false) :
    let j := (empty (.of perHost total)).run ops
    let j' := (j.receive a header now).2
    ∃ c evicted, Cookie.reception a header now = .cookie c ∧
      (∀ d, evicted = some d ↔ d ∈ j.cookies ∧ d.key ≠ c.key ∧ d ∉ j'.cookies) ∧
      j'.receive a (Cookie.withdrawal header) now' =
        (false, j.filter fun d => d.key != c.key && some d != evicted) ∧
      (j.get? c.key = none → evicted = none →
        (j'.receive a (Cookie.withdrawal header) now').2 = j) := by
  intro j j'
  have hv : j.Valid := valid_run _ ops
  obtain ⟨htakes, c, hreceived, hfresh⟩ := fresh_of_receive_fst h
  have hinsert : j' = j.insert c := congrArg Prod.snd (receive_of_fresh htakes hreceived hfresh)
  have haccepts : j'.accepts = true := (accepts_receive j a header now).trans htakes
  -- A withdrawal beyond the calendar would do nothing, which `hclock` rules out.
  have hclock' : Cookie.reception a (Cookie.withdrawal header) now' ≠ .beyondCalendar := by
    intro hlate
    have hbeyond : j'.isBeyondCalendar a (Cookie.withdrawal header) now' = true := by
      simp [isBeyondCalendar, haccepts, hlate]
    exact Bool.false_ne_true (hclock.symm.trans hbeyond)
  have hwithdrawal := Cookie.receive?_withdrawal hreceived hclock'
  obtain ⟨evicted, hevicted, herase⟩ := exists_erase_insert hv c
  have hreceive : j'.receive a (Cookie.withdrawal header) now' =
      (false, j.filter fun d => d.key != c.key && some d != evicted) := by
    rw [receive_of_expired haccepts hwithdrawal (decide_eq_true (Int.le_refl now')), ← herase,
      ← hinsert]
    rfl
  rw [← hinsert] at hevicted
  refine ⟨c, evicted, Cookie.receive?_eq_some_iff.1 hreceived, hevicted, hreceive, ?_⟩
  -- With a new key, and nothing evicted, nothing is filtered out.
  intro hnew hnone
  rw [hreceive]
  refine filter_eq_self hv ?_
  intro d hd
  have hkey := get?_eq_none_iff.1 hnew d hd
  simp [hkey, hnone]

set_option maxRecDepth 10000 in
/-- A cookie for which the oldest one of another domain has left is taken back, whatever its header
    says about its lifetime, and the other one does not come back. -/
theorem receive_withdrawn_full :
    let j := (empty (.of 1 2)).run
      [(1, .receive ⟨"a.b", "/", .plain⟩ "k=1"), (2, .receive ⟨"b.c", "/", .plain⟩ "k=2")]
    let a : Address := ⟨"x.c.d", "/", .plain⟩
    let header := "k=3; Domain=.C.d; Path=/x; Path=/y; Max-Age=9; Max-Age=60"
    let j' := (j.receive a header 3).2
    j'.get? ⟨"c.d", "/y", "k"⟩ ≠ none ∧
      j'.receive a (Cookie.withdrawal header) 4 =
        (false, { j with buckets := [⟨"b.c", [⟨"k", "2", "b.c", "/", true, false, false, none, none,
          .utc 2⟩]⟩] }) := by
  intro j a header j'
  -- The cookie was stored, and its withdrawal does not run out of the calendar.
  have hstored : (j.receive a header 3).1 = true := by decide +kernel
  have hclock : j'.isBeyondCalendar a (Cookie.withdrawal header) 4 = false := by decide +kernel
  obtain ⟨c, evicted, hc, hevicted, hreceive, -⟩ := receive_withdrawn hstored hclock
  have hreception : Cookie.reception a header 3 = .cookie ⟨"k", "3", "c.d", "/y", false, false,
      false, none, some (.utc 60000000003), .utc 3⟩ := by decide +kernel
  rw [hreception] at hc
  cases hc
  -- The jar was full, so the older of its cookies has been evicted.
  have hold : evicted = some ⟨"k", "1", "a.b", "/", true, false, false, none, none, .utc 1⟩ :=
    (hevicted _).2 (by decide +kernel)
  refine ⟨by decide +kernel, ?_⟩
  rw [hreceive, hold]
  decide +kernel

end Jar

end HttpState
