import HttpState.Proofs.Jar.Run
import HttpState.Proofs.Jar.Bucket

/-!
# What every jar looks like

The invariant of cookie jars. Each domain has at most one bucket. No bucket is empty; it holds
cookies of its own domain only, no two with one key, and no more than the limit for a host. The jar
as a whole holds no more cookies than its limit.

Storing a cookie breaks the last part for a moment: the new cookie is put into its bucket first, and
the oldest cookies of the jar go afterwards. So the invariant comes in two parts, `Bucket.AllValid`
for the buckets, which holds at every moment, and `Jar.Valid`.

## Key results

- `Jar.exists_of_dropOldest`: which cookie goes when the jar is too full
- `Jar.Valid.insert`, `Jar.Valid.erase`, `Jar.Valid.filter`: each change keeps the invariant
- `Jar.valid_run`: it holds after all operations, under every clock
- `Jar.run_isWellFormed`: the same in terms of the buckets, for all limits
-/

namespace HttpState

/-- What holds of a bucket with at most `limit` cookies. -/
structure Bucket.Valid (limit : Nat) (b : Bucket) : Prop where
  nonempty : b.cookies ≠ []
  domain_eq : ∀ c ∈ b.cookies, c.domain = b.domain
  keys_nodup : (b.cookies.map Cookie.key).Nodup
  length_le : b.cookies.length ≤ limit

/-- What holds of the buckets of a jar, also while a cookie is stored. -/
structure Bucket.AllValid (limit : Nat) (bs : List Bucket) : Prop where
  domains_nodup : (Bucket.domains bs).Nodup
  valid : ∀ b ∈ bs, b.Valid limit

/-- What holds of a jar. -/
structure Jar.Valid (j : Jar) : Prop where
  buckets : Bucket.AllValid j.limits.perHost j.buckets
  count_le : j.count ≤ j.limits.total

namespace Bucket

variable {limit : Nat}

/-- Dropping cookies from a bucket keeps it valid as long as some are left. -/
theorem Valid.of_sublist {domain : String} {cs ds : List Cookie} (h : Valid limit ⟨domain, cs⟩)
    (hsub : ds.Sublist cs) (hne : ds ≠ []) : Valid limit ⟨domain, ds⟩ where
  nonempty := hne
  domain_eq := fun c hc => h.domain_eq c (hsub.subset hc)
  keys_nodup := (hsub.map Cookie.key).nodup h.keys_nodup
  length_le := Nat.le_trans hsub.length_le h.length_le

/-- The cookies of a domain that has some form a valid bucket. -/
theorem AllValid.valid_find {bs : List Bucket} (h : AllValid limit bs) {domain : String}
    (hne : find domain bs ≠ []) : Valid limit ⟨domain, find domain bs⟩ := by
  obtain ⟨b, hb, rfl, hcookies⟩ := exists_of_find hne
  rw [← hcookies]
  exact h.valid b hb

/-- What is found for a domain belongs to it. -/
theorem AllValid.domain_of_mem_find {bs : List Bucket} (h : AllValid limit bs) {domain : String}
    {c : Cookie} (hc : c ∈ find domain bs) : c.domain = domain :=
  (h.valid_find (List.ne_nil_of_mem hc)).domain_eq c hc

/-- The keys of what is found for a domain are different. -/
theorem AllValid.keys_nodup_find {bs : List Bucket} (h : AllValid limit bs) (domain : String) :
    ((find domain bs).map Cookie.key).Nodup := by
  by_cases hne : find domain bs = []
  · simp [hne]
  · exact (h.valid_find hne).keys_nodup

/-- Looking up a domain in valid buckets is filtering all cookies by it. -/
theorem AllValid.find_eq_filter {bs : List Bucket} (h : AllValid limit bs) (domain : String) :
    find domain bs = (contents bs).filter (·.domain == domain) :=
  Bucket.find_eq_filter h.domains_nodup (fun b hb => (h.valid b hb).domain_eq) domain

/-- No two cookies in valid buckets have the same key. -/
theorem AllValid.keys_nodup {bs : List Bucket} (h : AllValid limit bs) :
    ((contents bs).map Cookie.key).Nodup := by
  rw [contents, List.map_flatMap, List.nodup_flatMap]
  refine ⟨fun b hb => (h.valid b hb).keys_nodup, ?_⟩
  -- Keys in different buckets differ in the domain.
  have hpairs : bs.Pairwise fun b e => b.domain ≠ e.domain :=
    List.pairwise_map.1 h.domains_nodup
  refine hpairs.imp_of_mem ?_
  intro b e hb he hne k hkb hke
  obtain ⟨c, hc, rfl⟩ := List.mem_map.1 hkb
  obtain ⟨d, hd, hkey⟩ := List.mem_map.1 hke
  have hdomain : d.domain = c.domain := congrArg Cookie.Key.domain hkey
  rw [(h.valid b hb).domain_eq c hc, (h.valid e he).domain_eq d hd] at hdomain
  exact hne hdomain.symm

/-- Putting a valid bucket in the place of that of its domain, or leaving that one out. -/
theorem AllValid.set {bs : List Bucket} (h : AllValid limit bs) {domain : String}
    {cs : List Cookie} (hcs : cs ≠ [] → Valid limit ⟨domain, cs⟩) :
    AllValid limit (Bucket.set domain cs bs) where
  domains_nodup := nodup_domains_set cs h.domains_nodup
  valid := by
    intro b hb
    rcases mem_set h.domains_nodup hb with ⟨rfl, hne⟩ | ⟨hmem, _⟩
    · exact hcs hne
    · exact h.valid b hmem

/-- Dropping cookies of a domain. -/
theorem AllValid.set_sublist {bs : List Bucket} (h : AllValid limit bs) {domain : String}
    {cs : List Cookie} (hsub : cs.Sublist (find domain bs)) :
    AllValid limit (Bucket.set domain cs bs) := by
  apply h.set
  intro hne
  have hfind : find domain bs ≠ [] := by
    intro hnil
    rw [hnil, List.sublist_nil] at hsub
    exact hne hsub
  exact (h.valid_find hfind).of_sublist hsub hne

end Bucket

namespace Jar

open Bucket (AllValid)

/-! ## Dropping the oldest cookie -/

/-- A jar that has cookies drops one that no other is older than, the first of its bucket that was
    created at its time. -/
theorem exists_of_dropOldest {j : Jar} (hv : AllValid j.limits.perHost j.buckets)
    (hne : j.cookies ≠ []) :
    ∃ c ∈ Bucket.find c.domain j.buckets,
      (∀ d ∈ j.cookies, c.created.nanos ≤ d.created.nanos) ∧
        j.dropOldest =
          { j with
            buckets := Bucket.set c.domain
              (Bucket.dropCreatedAt c.created.nanos (Bucket.find c.domain j.buckets)) j.buckets } := by
  cases ht : j.oldestTime? with
  | none => exact absurd (Bucket.oldestTime?_eq_none.1 ht) hne
  | some t =>
    -- Some cookie has this time, so the search for a bucket with such a cookie succeeds.
    obtain ⟨⟨d, hd, hdt⟩, hle⟩ := Bucket.oldestTime?_eq_some ht
    obtain ⟨e, he, hde⟩ := Bucket.mem_contents.1 hd
    cases hb : j.buckets.find? fun b => b.cookies.any (·.created.nanos == t) with
    | none =>
      rw [List.find?_eq_none] at hb
      exact absurd (List.any_eq_true.2 ⟨d, hde, by simpa using hdt⟩) (hb e he)
    | some b =>
      have hmem : b ∈ j.buckets := List.mem_of_find?_eq_some hb
      have hany := List.find?_some hb
      -- It may be another cookie than the one above that is found, but it is as old.
      obtain ⟨c, hc, hct⟩ := List.any_eq_true.1 hany
      have hct : c.created.nanos = t := by simpa using hct
      have hdomain : c.domain = b.domain := (hv.valid b hmem).domain_eq c hc
      have hfind : Bucket.find c.domain j.buckets = b.cookies := by
        rw [hdomain]
        exact Bucket.find_of_mem hv.domains_nodup hmem
      refine ⟨c, by rwa [hfind], ?_, ?_⟩
      · rw [hct]
        exact hle
      · rw [hfind, hdomain, hct]
        simp only [dropOldest, ht, hb]

/-- An empty jar has no oldest cookie to drop. -/
theorem dropOldest_of_nil {j : Jar} (h : j.cookies = []) : j.dropOldest = j := by
  have ht : j.oldestTime? = none := Bucket.oldestTime?_eq_none.2 h
  simp only [dropOldest, ht]

/-- Dropping the oldest cookie keeps the buckets valid, changes nothing else, and leaves one cookie
    less. -/
theorem dropOldest_spec {j : Jar} (hv : AllValid j.limits.perHost j.buckets) :
    AllValid j.limits.perHost j.dropOldest.buckets ∧ j.dropOldest.limits = j.limits ∧
      j.dropOldest.count = j.count - 1 := by
  by_cases hne : j.cookies = []
  · rw [dropOldest_of_nil hne]
    exact ⟨hv, rfl, by simp [count, hne]⟩
  · obtain ⟨c, hc, _, heq⟩ := exists_of_dropOldest hv hne
    rw [heq]
    refine ⟨hv.set_sublist List.eraseP_sublist, rfl, ?_⟩
    -- One cookie leaves its bucket, and the other buckets stay as they are.
    have hlen := Bucket.length_contents_set c.domain
      (Bucket.dropCreatedAt c.created.nanos (Bucket.find c.domain j.buckets)) j.buckets
    have hpos := List.length_pos_of_mem hc
    rw [Bucket.length_dropCreatedAt hc] at hlen
    simp only [count, cookies]
    simp only [Bucket.contents] at hlen
    omega

/-- Dropping the oldest cookie `n` times. -/
theorem repeat_dropOldest_spec {j : Jar} (hv : AllValid j.limits.perHost j.buckets) (n : Nat) :
    AllValid j.limits.perHost (Nat.repeat dropOldest n j).buckets ∧
      (Nat.repeat dropOldest n j).limits = j.limits ∧
      (Nat.repeat dropOldest n j).count = j.count - n := by
  induction n with
  | zero => exact ⟨hv, rfl, rfl⟩
  | succ n ih =>
    obtain ⟨ihv, ihlimits, ihcount⟩ := ih
    -- The next step is about the limits of the jar it starts from, which are the same.
    rw [← ihlimits] at ihv
    obtain ⟨hv', hlimits, hcount⟩ := dropOldest_spec ihv
    rw [ihlimits] at hv'
    refine ⟨hv', hlimits.trans ihlimits, ?_⟩
    rw [Nat.repeat, hcount, ihcount]
    omega

/-- Enforcing the limit of the jar makes valid buckets a valid jar. -/
theorem valid_enforceTotal {j : Jar} (hv : AllValid j.limits.perHost j.buckets) :
    j.enforceTotal.Valid := by
  obtain ⟨hv', hlimits, hcount⟩ := repeat_dropOldest_spec hv (j.count - j.limits.total)
  refine ⟨?_, ?_⟩
  · rw [enforceTotal, hlimits]
    exact hv'
  · rw [enforceTotal, hlimits, hcount]
    omega

/-- Dropping what is too many does not change the limits. -/
theorem limits_enforceTotal {j : Jar} (hv : AllValid j.limits.perHost j.buckets) :
    j.enforceTotal.limits = j.limits :=
  (repeat_dropOldest_spec hv _).2.1

/-! ## Storing a cookie -/

/-- A cookie takes the place of the one with its key. -/
theorem insert_of_replace? {j : Jar} {c : Cookie} {cs : List Cookie}
    (h : Bucket.replace? c (Bucket.find c.domain j.buckets) = some cs) :
    j.insert c = { j with buckets := Bucket.set c.domain cs j.buckets } := by
  simp only [insert, h]

/-- The jar in which a cookie with a new key has been put into its bucket, and the limit of the jar
    not been enforced yet. -/
def push (j : Jar) (c : Cookie) : Jar :=
  { j with
    buckets := Bucket.set c.domain
      (Bucket.makeRoom j.limits.perHost (Bucket.find c.domain j.buckets) ++ [c]) j.buckets }

/-- A cookie with a new key is pushed, and then the jar drops what is too many. -/
theorem insert_of_new {j : Jar} {c : Cookie}
    (h : Bucket.replace? c (Bucket.find c.domain j.buckets) = none) :
    j.insert c = (j.push c).enforceTotal := by
  simp only [insert, h, push]

/-- A bucket with room for a cookie and without its key is valid with this cookie as well. -/
theorem valid_makeRoom_append {j : Jar} (hv : AllValid j.limits.perHost j.buckets) {c : Cookie}
    (h : Bucket.replace? c (Bucket.find c.domain j.buckets) = none) :
    Bucket.Valid j.limits.perHost ⟨c.domain,
      Bucket.makeRoom j.limits.perHost (Bucket.find c.domain j.buckets) ++ [c]⟩ := by
  have hsub := Bucket.makeRoom_sublist j.limits.perHost (Bucket.find c.domain j.buckets)
  refine ⟨by simp, ?_, ?_, ?_⟩
  · -- The others belong to the domain, and so does the new one.
    intro d hd
    rcases List.mem_append.1 hd with hd | hd
    · exact hv.domain_of_mem_find (hsub.subset hd)
    · rw [List.mem_singleton.1 hd]
  · -- The others have different keys, and none has the key of the new one.
    rw [List.map_append, List.map_singleton, List.nodup_append]
    refine ⟨(hsub.map Cookie.key).nodup (hv.keys_nodup_find c.domain), by simp, ?_⟩
    intro k hk k' hk' heq
    obtain ⟨d, hd, rfl⟩ := List.mem_map.1 hk
    rw [List.mem_singleton.1 hk'] at heq
    -- A cookie with the key of `c` would have been replaced.
    have hsame : Bucket.sameKey c d = true :=
      Bucket.sameKey_iff.2 ⟨congrArg Cookie.Key.name heq, congrArg Cookie.Key.path heq⟩
    rw [Bucket.replace?_eq_none.1 h d (hsub.subset hd)] at hsame
    exact absurd hsame (by decide)
  · -- There is room for one more, if the limit is one at least.
    have hpos := j.limits.perHost_pos
    simp only [List.length_append, Bucket.length_makeRoom, List.length_singleton]
    omega

/-- Pushing a cookie with a new key leaves the buckets valid. -/
theorem allValid_push {j : Jar} (hv : AllValid j.limits.perHost j.buckets) {c : Cookie}
    (h : Bucket.replace? c (Bucket.find c.domain j.buckets) = none) :
    AllValid (j.push c).limits.perHost (j.push c).buckets :=
  hv.set fun _ => valid_makeRoom_append hv h

/-- A replacement keeps the number of cookies. -/
theorem count_set_of_replace? {j : Jar} {c : Cookie} {cs : List Cookie}
    (h : Bucket.replace? c (Bucket.find c.domain j.buckets) = some cs) :
    count { j with buckets := Bucket.set c.domain cs j.buckets } = j.count := by
  have hlen := Bucket.length_contents_set c.domain cs j.buckets
  obtain ⟨front, d, back, hfind, _, rfl⟩ := Bucket.exists_of_replace? h
  rw [hfind] at hlen
  simp only [List.length_append, List.length_cons, Bucket.contents] at hlen
  simp only [count, cookies]
  omega

/-- Storing a cookie leaves a valid jar valid. -/
theorem Valid.insert {j : Jar} (hv : j.Valid) (c : Cookie) : (j.insert c).Valid := by
  cases h : Bucket.replace? c (Bucket.find c.domain j.buckets) with
  | none =>
    -- A new key may be one cookie too many, for the bucket and for the jar.
    rw [insert_of_new h]
    exact valid_enforceTotal (allValid_push hv.buckets h)
  | some cs =>
    -- A key that is there stays where it is, so nothing is counted anew.
    rw [insert_of_replace? h]
    refine ⟨hv.buckets.set ?_, (count_set_of_replace? h).symm ▸ hv.count_le⟩
    intro hne
    have hkeys := Bucket.map_key_of_replace? h fun d => hv.buckets.domain_of_mem_find
    obtain ⟨front, d, back, hfind, _, rfl⟩ := Bucket.exists_of_replace? h
    have hold : Bucket.Valid j.limits.perHost ⟨c.domain, front ++ d :: back⟩ := by
      rw [← hfind]
      exact hv.buckets.valid_find (by simp [hfind])
    refine ⟨hne, ?_, ?_, by simpa using hold.length_le⟩
    · intro e he
      rcases List.mem_append.1 he with he | he
      · exact hold.domain_eq e (by simp [he])
      · rcases List.mem_cons.1 he with rfl | he
        · rfl
        · exact hold.domain_eq e (by simp [he])
    · rw [hkeys, hfind]
      exact hold.keys_nodup

/-- Storing a cookie does not change the limits. -/
theorem limits_insert {j : Jar} (hv : j.Valid) (c : Cookie) : (j.insert c).limits = j.limits := by
  cases h : Bucket.replace? c (Bucket.find c.domain j.buckets) with
  | none =>
    rw [insert_of_new h]
    exact limits_enforceTotal (allValid_push hv.buckets h)
  | some cs => rw [insert_of_replace? h]

/-- Dropping a cookie does not change whether the jar accepts any. -/
theorem accepts_dropOldest (j : Jar) : j.dropOldest.accepts = j.accepts := by
  unfold dropOldest
  split
  · rfl
  · split <;> rfl

/-- Nor does dropping what is too many. -/
theorem accepts_enforceTotal (j : Jar) : j.enforceTotal.accepts = j.accepts := by
  have hrepeat : ∀ n, (Nat.repeat dropOldest n j).accepts = j.accepts := by
    intro n
    induction n with
    | zero => rfl
    | succ n ih => exact (accepts_dropOldest _).trans ih
  exact hrepeat _

/-- Storing a cookie does not change whether the jar takes new ones. -/
theorem accepts_insert (j : Jar) (c : Cookie) : (j.insert c).accepts = j.accepts := by
  cases h : Bucket.replace? c (Bucket.find c.domain j.buckets) with
  | none =>
    rw [insert_of_new h]
    exact accepts_enforceTotal _
  | some cs => rw [insert_of_replace? h]

/-- Neither does taking a header value. -/
theorem accepts_receive (j : Jar) (a : Address) (header : String) (now : Int) :
    (j.receive a header now).2.accepts = j.accepts := by
  unfold receive
  split
  · split
    · rfl
    · rename_i c _
      split
      · rfl
      · exact accepts_insert j c
  · rfl

/-! ## The other changes -/

/-- Removing a cookie removes at most that one. -/
theorem erase_sublist (j : Jar) (k : Cookie.Key) :
    ((Bucket.find k.domain j.buckets).filter
      fun c => c.name != k.name || c.path != k.path).Sublist (Bucket.find k.domain j.buckets) :=
  List.filter_sublist

/-- Erasing a key leaves a valid jar valid. -/
theorem Valid.erase {j : Jar} (hv : j.Valid) (k : Cookie.Key) : (j.erase k).Valid := by
  refine ⟨hv.buckets.set_sublist (erase_sublist j k), ?_⟩
  have hlen := Bucket.length_contents_set k.domain
    ((Bucket.find k.domain j.buckets).filter fun c => c.name != k.name || c.path != k.path)
    j.buckets
  have hle := (erase_sublist j k).length_le
  have hcount := hv.count_le
  simp only [count, cookies] at hcount
  simp only [Bucket.contents] at hlen
  simp only [Jar.erase, count, cookies]
  omega

/-- The buckets of a filtered jar are the filtered buckets in which something is left. -/
theorem mem_buckets_filter {p : Cookie → Bool} {j : Jar} {b : Bucket} :
    b ∈ (j.filter p).buckets ↔
      ∃ e ∈ j.buckets, e.cookies.filter p ≠ [] ∧ b = ⟨e.domain, e.cookies.filter p⟩ := by
  simp only [Jar.filter, List.mem_filter, List.mem_map]
  constructor
  · rintro ⟨⟨e, he, rfl⟩, hne⟩
    exact ⟨e, he, by simpa using hne, rfl⟩
  · rintro ⟨e, he, hne, rfl⟩
    exact ⟨⟨e, he, rfl⟩, by simpa using hne⟩

/-- The domains are those of the buckets that are kept. -/
theorem domains_filter_sublist (p : Cookie → Bool) (j : Jar) :
    (Bucket.domains (j.filter p).buckets).Sublist (Bucket.domains j.buckets) := by
  have h := (List.filter_sublist (p := (!·.cookies.isEmpty))
    (l := j.buckets.map fun b => { b with cookies := b.cookies.filter p })).map Bucket.domain
  rwa [List.map_map] at h

/-- Filtering leaves a valid jar valid. -/
theorem Valid.filter {j : Jar} (hv : j.Valid) (p : Cookie → Bool) : (j.filter p).Valid := by
  refine ⟨⟨?_, ?_⟩, ?_⟩
  · exact (domains_filter_sublist p j).nodup hv.buckets.domains_nodup
  · intro b hb
    obtain ⟨e, he, hne, rfl⟩ := mem_buckets_filter.1 hb
    exact (hv.buckets.valid e he).of_sublist List.filter_sublist hne
  · have hle : (j.filter p).count ≤ j.count := by
      rw [count, cookies_filter]
      exact List.length_filter_le p j.cookies
    exact Nat.le_trans hle hv.count_le

/-- A jar without cookies is valid. -/
theorem Valid.removeAll {j : Jar} (_ : j.Valid) : j.removeAll.Valid :=
  ⟨⟨by simp [Jar.removeAll, Bucket.domains], by simp [Jar.removeAll]⟩,
    by simp [Jar.removeAll, count, cookies]⟩

/-- Whether a jar accepts cookies has no part in its validity. -/
theorem Valid.setAccepts {j : Jar} (hv : j.Valid) (accepts : Bool) : (j.setAccepts accepts).Valid :=
  ⟨hv.buckets, hv.count_le⟩

/-- Storing cookies one after another. -/
theorem Valid.foldl_insert {j : Jar} (hv : j.Valid) (cs : List Cookie) :
    (cs.foldl Jar.insert j).Valid ∧ (cs.foldl Jar.insert j).limits = j.limits := by
  induction cs generalizing j with
  | nil => exact ⟨hv, rfl⟩
  | cons c cs ih =>
    obtain ⟨hvalid, hlimits⟩ := ih (hv.insert c)
    exact ⟨hvalid, hlimits.trans (limits_insert hv c)⟩

/-- Whatever header comes, the jar remains valid and its limits are the same. -/
theorem Valid.receive {j : Jar} (hv : j.Valid) (a : Address) (header : String) (now : Int) :
    (j.receive a header now).2.Valid ∧ (j.receive a header now).2.limits = j.limits := by
  unfold Jar.receive
  split
  · split
    · exact ⟨hv, rfl⟩
    · rename_i c _
      -- A cookie that has expired withdraws one, any other is stored.
      split
      · exact ⟨hv.erase c.key, rfl⟩
      · exact ⟨hv.insert c, limits_insert hv c⟩
  · exact ⟨hv, rfl⟩

/-! ## Every run -/

/-- The jar with no cookies is valid, so there is one to begin with. -/
theorem valid_empty (limits : Limits) : (empty limits).Valid :=
  ⟨⟨by simp [empty, Bucket.domains], by simp [empty]⟩, by simp [empty, count, cookies]⟩

/-- One operation keeps the invariant, and the limits as they are. -/
theorem Valid.apply {j : Jar} (hv : j.Valid) (now : Int) (op : Operation) :
    (op.apply now j).Valid ∧ (op.apply now j).limits = j.limits := by
  cases op with
  | receive a header => exact hv.receive a header now
  | load cs => exact hv.foldl_insert _
  | removeAll => exact ⟨hv.removeAll, rfl⟩
  | removeExpired => exact ⟨hv.filter _, rfl⟩
  | removeSession => exact ⟨hv.filter _, rfl⟩
  | setAccepts accepts => exact ⟨hv.setAccepts accepts, rfl⟩

/-- Operations keep the invariant, and the limits as they are. -/
theorem Valid.run {j : Jar} (hv : j.Valid) (ops : List (Int × Operation)) :
    (j.run ops).Valid ∧ (j.run ops).limits = j.limits := by
  induction ops generalizing j with
  | nil => exact ⟨hv, rfl⟩
  | cons o ops ih =>
    obtain ⟨hvalid, hlimits⟩ := hv.apply o.1 o.2
    obtain ⟨hvalid', hlimits'⟩ := ih hvalid
    exact ⟨hvalid', hlimits'.trans hlimits⟩

/-- A jar that was empty once is valid. -/
theorem valid_run (limits : Limits) (ops : List (Int × Operation)) :
    ((empty limits).run ops).Valid :=
  ((valid_empty limits).run ops).1

/-- Whatever the limits are that a jar was made with, and whatever was done to it under whatever
    clock: each domain has at most one bucket, every bucket holds cookies, of its domain only, no
    two cookies of the jar have the same domain, path and name, and neither a bucket nor the jar
    holds more cookies than its limit allows, where a limit of zero counts as one. -/
theorem run_isWellFormed (perHost total : Nat) (ops : List (Int × Operation)) :
    let j := (empty (.of perHost total)).run ops
    (j.buckets.map (·.domain)).Nodup ∧
      (∀ b ∈ j.buckets, b.cookies ≠ [] ∧ ∀ c ∈ b.cookies, c.domain = b.domain) ∧
      (j.cookies.map Cookie.key).Nodup ∧
      (∀ b ∈ j.buckets, b.cookies.length ≤ max 1 perHost) ∧
      j.count ≤ max 1 total := by
  intro j
  -- All of it is part of `Valid`, which every run keeps, and so are the limits.
  obtain ⟨hv, hlimits⟩ := (valid_empty (.of perHost total)).run ops
  have hperHost : j.limits.perHost = max 1 perHost := by rw [hlimits]; rfl
  have htotal : j.limits.total = max 1 total := by rw [hlimits]; rfl
  refine ⟨hv.buckets.domains_nodup, ?_, hv.buckets.keys_nodup, ?_, htotal ▸ hv.count_le⟩
  · intro b hb
    exact ⟨(hv.buckets.valid b hb).nonempty, (hv.buckets.valid b hb).domain_eq⟩
  · intro b hb
    rw [← hperHost]
    exact (hv.buckets.valid b hb).length_le

end Jar

end HttpState
