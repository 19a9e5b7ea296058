import HttpState.Proofs.Jar.Lookup

/-!
# Which cookie makes room

Storing a cookie with a new key may be one cookie too many, for its domain or for the jar. Both
limits are enforced by loops, one before the cookie is put into its bucket and one afterwards. In a
jar that keeps its limits at most one of the two loops runs, and it runs once: where the domain has
as many cookies as it may, the number of cookies in the jar stays the same.

## Key results

- `Bucket.exists_of_dropCreatedAt`: dropping the oldest cookie of a list
- `Evicts.ne_some_self`, `Evicts.eq_some_self`: whether the new cookie itself has to leave
- `insert_eq_enforceTotal`, `ofDomain_put`: storing a cookie changes one domain, but for the limit
  of the jar
- `exists_evicts_of_new`: storing a cookie with a new key, in both views of the jar
-/

namespace HttpState

namespace Bucket

/-- The oldest of some cookies, and the first one of equally old ones. -/
def IsFirstOldest (v : Cookie) (cs : List Cookie) : Prop :=
  ∃ front back, cs = front ++ v :: back ∧ (∀ d ∈ front, v.created.nanos < d.created.nanos) ∧
    ∀ d ∈ back, v.created.nanos ≤ d.created.nanos

/-- The first of the oldest cookies is one of them. -/
theorem IsFirstOldest.mem {v : Cookie} {cs : List Cookie} (h : IsFirstOldest v cs) : v ∈ cs := by
  obtain ⟨front, back, rfl, _⟩ := h
  simp

/-- No cookie is older than the first of the oldest. -/
theorem IsFirstOldest.le {v c : Cookie} {cs : List Cookie} (h : IsFirstOldest v cs) (hc : c ∈ cs) :
    v.created.nanos ≤ c.created.nanos := by
  obtain ⟨front, back, rfl, hfront, hback⟩ := h
  simp only [List.mem_append, List.mem_cons] at hc
  rcases hc with hc | rfl | hc
  · exact Int.le_of_lt (hfront c hc)
  · exact Int.le_refl _
  · exact hback c hc

/-- Dropping the first cookie of the time of the oldest one. -/
theorem exists_of_dropCreatedAt {cs : List Cookie} {c : Cookie} (hc : c ∈ cs)
    (hle : ∀ d ∈ cs, c.created.nanos ≤ d.created.nanos) :
    ∃ v, IsFirstOldest v cs ∧ v.created.nanos = c.created.nanos ∧
      dropCreatedAt c.created.nanos cs = cs.erase v := by
  obtain ⟨v, front, back, hfront, hv, rfl, herase⟩ :=
    List.exists_of_eraseP (p := (·.created.nanos == c.created.nanos)) hc (by simp)
  have hv : v.created.nanos = c.created.nanos := by simpa using hv
  -- The search passes over what is in front, so nothing there is as old.
  have hlt : ∀ d ∈ front, v.created.nanos < d.created.nanos := by
    intro d hd
    have hne : d.created.nanos ≠ c.created.nanos := by simpa using hfront d hd
    have hle := hle d (by simp [hd])
    omega
  refine ⟨v, ⟨front, back, rfl, hlt, ?_⟩, hv, ?_⟩
  · intro d hd
    rw [hv]
    exact hle d (by simp [hd])
  · have hnot : v ∉ front := fun hmem => Int.lt_irrefl _ (hlt v hmem)
    rw [dropCreatedAt, herase, List.erase_append_right _ hnot, List.erase_cons_head]

/-- Dropping the oldest cookie of a list that is not empty. -/
theorem exists_of_dropOldest {cs : List Cookie} (h : cs ≠ []) :
    ∃ v, IsFirstOldest v cs ∧ dropOldest cs = cs.erase v := by
  cases ht : oldestTime? cs with
  | none => exact absurd (oldestTime?_eq_none.1 ht) h
  | some t =>
    obtain ⟨⟨c, hc, rfl⟩, hle⟩ := oldestTime?_eq_some ht
    obtain ⟨v, hv, _, herase⟩ := exists_of_dropCreatedAt hc hle
    exact ⟨v, hv, by rw [dropOldest, ht, ← herase]⟩

/-- Where there is room for all cookies but not for another one, the oldest is dropped. -/
theorem makeRoom_of_length_eq {limit : Nat} {cs : List Cookie} (h : cs.length = limit) :
    makeRoom limit cs = dropOldest cs := by
  rw [makeRoom, show cs.length + 1 - limit = 1 by omega]
  rfl

/-- The cookies of a domain after one was stored: it is in the place of the one with its key, or
    behind the others if there is none, which have made room for it. -/
def put (limit : Nat) (c : Cookie) (cs : List Cookie) : List Cookie :=
  (replace? c cs).getD (makeRoom limit cs ++ [c])

/-- Putting a cookie adds one at most. -/
theorem length_put_le (limit : Nat) (c : Cookie) (cs : List Cookie) :
    (put limit c cs).length ≤ cs.length + 1 := by
  cases h : replace? c cs with
  | none =>
    have hle := (makeRoom_sublist limit cs).length_le
    simp only [put, h, Option.getD_none, List.length_append, List.length_singleton]
    omega
  | some ds =>
    obtain ⟨front, d, back, rfl, _, rfl⟩ := exists_of_replace? h
    simp [put, h]

end Bucket

namespace Jar

open Bucket (AllValid)

/-- Which cookie leaves a jar when a cookie `c` with a new key is stored, if one does. -/
inductive Evicts (j : Jar) (c : Cookie) : Option Cookie → Prop where
  /-- The domain has as many cookies as it may: its oldest cookie leaves, the first one of equally
      old ones. -/
  | ofDomain {v : Cookie} (full : (j.ofDomain c.domain).length = j.limits.perHost)
      (oldest : Bucket.IsFirstOldest v (j.ofDomain c.domain)) : Evicts j c (some v)
  /-- The domain has room, but the jar has as many cookies as it may: an oldest cookie leaves, and
      this may be the new one. -/
  | ofJar {v : Cookie} (room : (j.ofDomain c.domain).length < j.limits.perHost)
      (full : j.count = j.limits.total) (mem : v ∈ c :: j.cookies)
      (oldest : ∀ d ∈ c :: j.cookies, v.created.nanos ≤ d.created.nanos) : Evicts j c (some v)
  /-- There is room. -/
  | none (room : (j.ofDomain c.domain).length < j.limits.perHost)
      (space : j.count < j.limits.total) : Evicts j c none

/-- What leaves is the new cookie or one that was there. -/
theorem Evicts.mem {j : Jar} (hv : AllValid j.limits.perHost j.buckets) {c v : Cookie}
    (h : j.Evicts c (some v)) : v ∈ c :: j.cookies := by
  cases h with
  | ofDomain full oldest => exact List.mem_cons_of_mem c ((mem_ofDomain_iff hv).1 oldest.mem).1
  | ofJar room full mem oldest => exact mem

/-- The new cookie itself leaves only if the jar is full, its domain is not, and no cookie is older.
    The cookies of its domain are dropped before it is put there. -/
theorem Evicts.ne_some_self {j : Jar} {c : Cookie} {evicted : Option Cookie}
    (h : j.Evicts c evicted) (hnew : c ∉ j.ofDomain c.domain)
    (hstays : (∃ d ∈ j.cookies, d.created.nanos < c.created.nanos) ∨
      (j.ofDomain c.domain).length = j.limits.perHost ∨ j.count < j.limits.total) :
    evicted ≠ some c := by
  intro heq
  cases h with
  | ofDomain full oldest =>
    cases heq
    exact hnew oldest.mem
  | ofJar room full mem oldest =>
    cases heq
    -- An older cookie would leave first, and without one the jar or the domain is as `room` and
    -- `full` rule out.
    rcases hstays with ⟨d, hd, hlt⟩ | hfull | hspace
    · exact absurd (oldest d (List.mem_cons_of_mem c hd)) (Int.not_le.2 hlt)
    · omega
    · omega
  | none room space => exact nomatch heq

/-- If in addition all other cookies are younger, it does leave. -/
theorem Evicts.eq_some_self {j : Jar} {c : Cookie} {evicted : Option Cookie}
    (h : j.Evicts c evicted) (hroom : (j.ofDomain c.domain).length < j.limits.perHost)
    (hfull : j.count = j.limits.total)
    (hyounger : ∀ d ∈ j.cookies, c.created.nanos < d.created.nanos) : evicted = some c := by
  cases h with
  | ofDomain full oldest => omega
  | ofJar room full mem oldest =>
    rcases List.mem_cons.1 mem with rfl | hmem
    · rfl
    · exact absurd (oldest c List.mem_cons_self) (Int.not_le.2 (hyounger _ hmem))
  | none room space => omega

/-! ## Enforcing the limit of the jar -/

/-- Nothing is dropped from a jar that has room. -/
theorem enforceTotal_of_le {j : Jar} (h : j.count ≤ j.limits.total) : j.enforceTotal = j := by
  rw [enforceTotal, show j.count - j.limits.total = 0 by omega]
  rfl

/-- One cookie too many is dropped. -/
theorem enforceTotal_of_eq_succ {j : Jar} (h : j.count = j.limits.total + 1) :
    j.enforceTotal = j.dropOldest := by
  rw [enforceTotal, show j.count - j.limits.total = 1 by omega]
  rfl

/-- Leaving out a cookie of another domain. -/
theorem filter_ne_of_domain_ne {j : Jar} (hv : AllValid j.limits.perHost j.buckets) {v : Cookie}
    {domain : String} (h : domain ≠ v.domain) :
    (j.ofDomain domain).filter (· != v) = j.ofDomain domain := by
  rw [List.filter_eq_self]
  intro d hd
  rw [bne_iff_ne]
  rintro rfl
  exact h (hv.domain_of_mem_find hd).symm

/-- Dropping the oldest cookie of a jar that is not empty leaves out an oldest one, and no other. -/
theorem exists_ofDomain_dropOldest {j : Jar} (hv : AllValid j.limits.perHost j.buckets)
    (hne : j.cookies ≠ []) :
    ∃ v ∈ j.cookies, (∀ d ∈ j.cookies, v.created.nanos ≤ d.created.nanos) ∧
      ∀ domain, j.dropOldest.ofDomain domain = (j.ofDomain domain).filter (· != v) := by
  -- The jar drops a cookie of the domain of `c` that is as old as `c`, but maybe another one.
  obtain ⟨c, hc, hle, hdrop⟩ := exists_of_dropOldest hv hne
  have hcs : ∀ d ∈ Bucket.find c.domain j.buckets, d ∈ j.cookies ∧ d.domain = c.domain :=
    fun d hd => (mem_ofDomain_iff hv).1 hd
  obtain ⟨v, holdest, htime, herase⟩ :=
    Bucket.exists_of_dropCreatedAt hc fun d hd => hle d (hcs d hd).1
  obtain ⟨hmem, hdomain⟩ := hcs v holdest.mem
  refine ⟨v, hmem, fun d hd => htime ▸ hle d hd, ?_⟩
  intro other
  have hnodup : (Bucket.find c.domain j.buckets).Nodup := nodup_ofDomain hv c.domain
  rw [hdrop, ofDomain, Bucket.find_set hv.domains_nodup]
  split
  · -- The domain that drops it loses this one cookie.
    rename_i heq
    rw [herase, hnodup.erase_eq_filter, ofDomain, heq]
  · -- No other domain has it.
    rename_i hother
    exact (filter_ne_of_domain_ne hv (hdomain ▸ hother)).symm

/-! ## Storing, one limit after the other -/

/-- The jar in which a cookie has been put into its bucket, and the limit of the jar not been
    enforced yet. -/
def put (j : Jar) (c : Cookie) : Jar :=
  { j with
    buckets := Bucket.set c.domain
      (Bucket.put j.limits.perHost c (Bucket.find c.domain j.buckets)) j.buckets }

/-- Putting a cookie does not change the limits. -/
@[simp] theorem limits_put (j : Jar) (c : Cookie) : (j.put c).limits = j.limits := rfl

/-- Putting a cookie does not change whether the jar accepts any. -/
@[simp] theorem accepts_put (j : Jar) (c : Cookie) : (j.put c).accepts = j.accepts := rfl

/-- For a key that is there, putting a cookie is all that storing does. -/
theorem put_of_replace? {j : Jar} {c : Cookie} {cs : List Cookie}
    (h : Bucket.replace? c (Bucket.find c.domain j.buckets) = some cs) : j.put c = j.insert c := by
  rw [insert_of_replace? h, put, Bucket.put, h]
  rfl

/-- For a new key, putting a cookie is pushing it. -/
theorem put_of_new {j : Jar} {c : Cookie}
    (h : Bucket.replace? c (Bucket.find c.domain j.buckets) = none) : j.put c = j.push c := by
  rw [put, Bucket.put, h]
  rfl

/-- Putting a cookie leaves the buckets valid, but there may be one too many of them all. -/
theorem allValid_put {j : Jar} (hv : j.Valid) (c : Cookie) :
    AllValid (j.put c).limits.perHost (j.put c).buckets := by
  cases h : Bucket.replace? c (Bucket.find c.domain j.buckets) with
  | none =>
    rw [put_of_new h]
    exact allValid_push hv.buckets h
  | some cs =>
    rw [put_of_replace? h]
    exact (hv.insert c).buckets

/-- A jar stores a cookie in its bucket and then enforces its own limit. -/
theorem insert_eq_enforceTotal {j : Jar} (hv : j.Valid) (c : Cookie) :
    j.insert c = (j.put c).enforceTotal := by
  cases h : Bucket.replace? c (Bucket.find c.domain j.buckets) with
  | none => rw [insert_of_new h, put_of_new h]
  | some cs =>
    -- A replacement keeps the number of cookies, so there is nothing to enforce.
    rw [put_of_replace? h, enforceTotal_of_le (hv.insert c).count_le]

/-- A cookie that is put into its bucket is one more at most. -/
theorem count_put_le (j : Jar) (c : Cookie) : (j.put c).count ≤ j.count + 1 := by
  have hlen := Bucket.length_contents_set c.domain
    (Bucket.put j.limits.perHost c (Bucket.find c.domain j.buckets)) j.buckets
  have hput := Bucket.length_put_le j.limits.perHost c (Bucket.find c.domain j.buckets)
  simp only [put, count, cookies]
  simp only [Bucket.contents] at hlen
  omega

/-- Only the cookies of its domain change when a cookie is put into its bucket. -/
theorem ofDomain_put {j : Jar} (hv : AllValid j.limits.perHost j.buckets) (c : Cookie)
    (domain : String) :
    (j.put c).ofDomain domain =
      if domain = c.domain then Bucket.put j.limits.perHost c (j.ofDomain domain)
      else j.ofDomain domain := by
  rw [ofDomain, put, Bucket.find_set hv.domains_nodup]
  split
  · rename_i hdomain
    rw [ofDomain, hdomain]
  · rfl

/-! ## A cookie with a new key -/

/-- Pushing a cookie does not change the limits. -/
@[simp] theorem limits_push (j : Jar) (c : Cookie) : (j.push c).limits = j.limits := rfl

/-- Pushing makes room in the domain of the cookie and puts it at the end; other domains are as
    before. -/
theorem ofDomain_push {j : Jar} (hv : AllValid j.limits.perHost j.buckets) (c : Cookie)
    (domain : String) :
    (j.push c).ofDomain domain =
      if domain = c.domain then Bucket.makeRoom j.limits.perHost (j.ofDomain domain) ++ [c]
      else j.ofDomain domain := by
  rw [ofDomain, push, Bucket.find_set hv.domains_nodup]
  split
  · rename_i hdomain
    rw [ofDomain, hdomain]
  · rfl

/-- What pushing does to the number of cookies. -/
theorem count_push (j : Jar) (c : Cookie) :
    (j.push c).count + (j.ofDomain c.domain).length =
      (Bucket.makeRoom j.limits.perHost (j.ofDomain c.domain)).length + 1 + j.count := by
  -- Counted with the old cookies of the domain on one side and the new ones on the other, to do
  -- without a subtraction.
  have hlen := Bucket.length_contents_set c.domain
    (Bucket.makeRoom j.limits.perHost (Bucket.find c.domain j.buckets) ++ [c]) j.buckets
  rw [List.length_append] at hlen
  exact hlen

/-- Where the domain has room, the cookie is put behind the others, and none leaves. -/
theorem push_of_room {j : Jar} (hv : AllValid j.limits.perHost j.buckets) {c : Cookie}
    (hroom : (j.ofDomain c.domain).length < j.limits.perHost) :
    (j.push c).count = j.count + 1 ∧ ∀ domain, (j.push c).ofDomain domain =
      j.ofDomain domain ++ if domain = c.domain then [c] else [] := by
  -- There is room, so nothing is dropped before the push.
  have hmake := Bucket.makeRoom_of_lt hroom
  have hcount := count_push j c
  rw [hmake] at hcount
  refine ⟨by omega, ?_⟩
  intro domain
  rw [ofDomain_push hv]
  split
  · rename_i hdomain
    rw [hdomain, hmake]
  · rw [List.append_nil]

/-- Where the domain has no room, its oldest cookie leaves. -/
theorem exists_push_of_full {j : Jar} (hv : AllValid j.limits.perHost j.buckets) {c : Cookie}
    (hnew : j.get? c.key = none) (hfull : (j.ofDomain c.domain).length = j.limits.perHost) :
    ∃ v, Bucket.IsFirstOldest v (j.ofDomain c.domain) ∧ (j.push c).count = j.count ∧
      ∀ domain, (j.push c).ofDomain domain =
        (j.ofDomain domain ++ if domain = c.domain then [c] else []).filter (· != v) := by
  have hpos := j.limits.perHost_pos
  have hsome : j.ofDomain c.domain ≠ [] := by
    apply List.ne_nil_of_length_pos
    omega
  obtain ⟨v, holdest, hdrop⟩ := Bucket.exists_of_dropOldest hsome
  have hmake := Bucket.makeRoom_of_length_eq hfull
  obtain ⟨hmem, hdomain⟩ := (mem_ofDomain_iff hv).1 holdest.mem
  -- The new cookie is another one than the cookie that leaves, which was there before.
  have hne : c ≠ v := by
    rintro rfl
    exact get?_eq_none_iff.1 hnew c hmem rfl
  have hstays : [c].filter (· != v) = [c] := by simp [hne]
  refine ⟨v, holdest, ?_, ?_⟩
  · -- The domain has as many cookies as before, and so has the jar.
    have hcount := count_push j c
    rw [hmake, Bucket.length_dropOldest] at hcount
    omega
  · -- In its own domain the cookie takes the place of `v`; `v` is in no other domain.
    intro other
    rw [ofDomain_push hv, List.filter_append]
    split
    · rename_i heq
      rw [heq, hmake, hdrop, (nodup_ofDomain hv c.domain).erase_eq_filter, hstays]
    · rename_i hother
      rw [List.filter_nil, List.append_nil, filter_ne_of_domain_ne hv (hdomain ▸ hother)]

/-- What becomes of the domains when a cookie with a new key is stored. -/
theorem exists_ofDomain_insert {j : Jar} (hv : j.Valid) {c : Cookie} (h : j.get? c.key = none) :
    ∃ evicted, j.Evicts c evicted ∧ ∀ domain, (j.insert c).ofDomain domain =
      (j.ofDomain domain ++ if domain = c.domain then [c] else []).filter (some · != evicted) := by
  have hnew := (replace?_eq_none_iff_get? hv.buckets).2 h
  have hpush := allValid_push hv.buckets hnew
  have htotal := hv.count_le
  rw [insert_of_new hnew]
  -- The domain has room, or has to make some.
  rcases Nat.lt_or_eq_of_le (length_ofDomain_le hv.buckets c.domain) with hroom | hfull
  · obtain ⟨hcount, hdomains⟩ := push_of_room hv.buckets hroom
    rcases Nat.lt_or_eq_of_le htotal with hspace | htotal
    · -- Neither limit is reached.
      refine ⟨none, .none hroom hspace, ?_⟩
      intro domain
      rw [enforceTotal_of_le (by rw [limits_push]; omega), hdomains]
      exact (List.filter_eq_self.2 fun d _ => rfl).symm
    · -- The new cookie is one too many for the jar, which drops an oldest one of them all.
      have hcookies : ∀ d, d ∈ (j.push c).cookies ↔ d ∈ c :: j.cookies := by
        intro d
        rw [← mem_ofDomain_self hpush, hdomains, List.mem_append, mem_ofDomain_self hv.buckets,
          List.mem_cons]
        by_cases hd : d = c
        · simp [hd]
        · by_cases hdomain : d.domain = c.domain <;> simp [hd, hdomain]
      obtain ⟨v, hmem, holdest, hdrop⟩ :=
        exists_ofDomain_dropOldest hpush (List.ne_nil_of_mem ((hcookies c).2 (by simp)))
      refine ⟨some v, .ofJar hroom htotal ((hcookies v).1 hmem)
        (fun d hd => holdest d ((hcookies d).2 hd)), ?_⟩
      intro domain
      rw [enforceTotal_of_eq_succ (by rw [limits_push]; omega), hdrop, hdomains]
      rfl
  · -- Where a cookie of the domain leaves, the jar has as many cookies as before.
    obtain ⟨v, holdest, hcount, hdomains⟩ := exists_push_of_full hv.buckets h hfull
    refine ⟨some v, .ofDomain hfull holdest, ?_⟩
    intro domain
    rw [enforceTotal_of_le (by rw [limits_push]; omega), hdomains]
    rfl

/-- The cookies of a jar and one with a new key behind them, as a map: the new one is found at its
    key, and the others are found where they were. -/
theorem mem_append_and_key_iff {j : Jar} (hv : AllValid j.limits.perHost j.buckets) {c : Cookie}
    (hnew : j.get? c.key = none) {k : Cookie.Key} {x : Cookie} :
    (x ∈ j.ofDomain k.domain ++ if k.domain = c.domain then [c] else []) ∧ x.key = k ↔
      Function.update j.get? c.key (some c) k = some x := by
  have hmem : (x ∈ if k.domain = c.domain then [c] else []) ↔ k.domain = c.domain ∧ x = c := by
    split
    · rename_i hdomain
      rw [List.mem_singleton, and_iff_right hdomain]
    · rename_i hdomain
      simp [hdomain]
  rw [List.mem_append, hmem, Function.update_apply]
  split
  · -- The key of the new cookie is found there and nowhere else.
    rename_i hk
    subst hk
    constructor
    · rintro ⟨hx | ⟨_, rfl⟩, hkey⟩
      · exact absurd hkey (get?_eq_none_iff.1 hnew x ((mem_ofDomain_iff hv).1 hx).1)
      · rfl
    · intro h
      cases h
      exact ⟨.inr ⟨rfl, rfl⟩, rfl⟩
  · -- For any other key nothing has changed.
    rename_i hk
    rw [get?_eq_some_iff_mem_ofDomain hv]
    constructor
    · rintro ⟨hx | ⟨_, rfl⟩, hkey⟩
      · exact ⟨hx, hkey⟩
      · exact absurd hkey.symm hk
    · rintro ⟨hx, hkey⟩
      exact ⟨.inl hx, hkey⟩

/-- A cookie with a new key is put behind those of its domain, and at most one cookie leaves the
    jar. -/
theorem exists_evicts_of_new {j : Jar} (hv : j.Valid) {c : Cookie} (h : j.get? c.key = none) :
    ∃ evicted, j.Evicts c evicted ∧
      (∀ k, (j.insert c).get? k =
        (Function.update j.get? c.key (some c) k).filter (some · != evicted)) ∧
      ∀ domain, (j.insert c).ofDomain domain =
        (j.ofDomain domain ++ if domain = c.domain then [c] else []).filter
          (some · != evicted) := by
  obtain ⟨evicted, hevicts, hdomains⟩ := exists_ofDomain_insert hv h
  refine ⟨evicted, hevicts, ?_, hdomains⟩
  -- The map has the cookies of the domain of a key, of which one is left out at most.
  intro k
  apply Option.ext
  intro x
  rw [get?_eq_some_iff_mem_ofDomain (hv.insert c).buckets, hdomains, List.mem_filter,
    and_right_comm, mem_append_and_key_iff hv.buckets h, Option.filter_eq_some_iff]

end Jar

end HttpState
