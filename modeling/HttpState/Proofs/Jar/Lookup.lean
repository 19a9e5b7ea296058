import HttpState.Proofs.Jar.Invariant
import Mathlib.Logic.Function.Basic

/-!
# A jar as a map

Two views of a jar that do not mention buckets. `ofDomain` has the cookies of a domain in their
order, and `get?` is the jar as a map from keys to cookies. Cookies of one domain are in one bucket
and no two cookies have one key, so what a change does to the first view determines what it does to
the second.

## Key results

- `get?_eq_some_iff`: the map has the cookies of the jar
- `ofDomain_erase`, `get?_erase`: removing a cookie
- `ofDomain_replace`, `get?_replace`: putting a cookie in the place of the one with its key
-/

namespace HttpState

namespace Bucket

/-- Looking up a domain after cookies were put in the place of those of a domain. -/
theorem find_set {bs : List Bucket} (hnodup : (domains bs).Nodup) (domain other : String)
    (cs : List Cookie) :
    find other (set domain cs bs) = if other = domain then cs else find other bs := by
  by_cases hother : other = domain
  · subst hother
    rw [if_pos rfl]
    by_cases hcs : cs = []
    · -- Nothing was put, so the domain has no bucket any more.
      subst hcs
      apply find_eq_nil
      intro hmem
      obtain ⟨b, hb, hdomain⟩ := List.mem_map.1 hmem
      rcases mem_set hnodup hb with ⟨_, hne⟩ | ⟨_, hne⟩
      · exact hne rfl
      · exact hne hdomain
    · exact find_set_self other hcs bs
  · rw [if_neg hother, find_set_of_ne hother]

/-- Two cookies of one domain have the same key if name and path are the same. -/
theorem sameKey_iff_key_eq {c d : Cookie} (h : d.domain = c.domain) :
    sameKey c d = true ↔ d.key = c.key := by
  rw [sameKey_iff]
  simp only [Cookie.key, Cookie.Key.mk.injEq, h, true_and]
  exact And.comm

/-- A replacement, as a change of every cookie with the key. No other cookie has it. -/
theorem eq_map_of_replace? {c : Cookie} {cs ds : List Cookie} (h : replace? c cs = some ds)
    (hdomain : ∀ d ∈ cs, d.domain = c.domain) (hnodup : (cs.map Cookie.key).Nodup) :
    ds = cs.map fun d => if d.key = c.key then { c with created := d.created } else d := by
  obtain ⟨front, d, back, rfl, hsame, rfl⟩ := exists_of_replace? h
  have hkey : d.key = c.key := (sameKey_iff_key_eq (hdomain d (by simp))).1 hsame
  -- Keys are unique, so the map changes nothing in front of the replaced cookie or behind it.
  have hother : ∀ e, e ∈ front ∨ e ∈ back → e.key ≠ c.key := by
    intro e he heq
    rw [List.map_append, List.map_cons, List.nodup_middle, List.nodup_cons,
      ← List.map_append] at hnodup
    apply hnodup.1
    rw [hkey, ← heq]
    exact List.mem_map_of_mem (List.mem_append.2 he)
  have hsame : ∀ es : List Cookie, (∀ e ∈ es, e ∈ front ∨ e ∈ back) →
      es.map (fun d => if d.key = c.key then { c with created := d.created } else d) = es := by
    intro es hes
    rw [List.map_congr_left fun e he => if_neg (hother e (hes e he)), List.map_id']
  rw [List.map_append, List.map_cons, if_pos hkey, hsame front fun e he => .inl he,
    hsame back fun e he => .inr he]

end Bucket

namespace Jar

open Bucket (AllValid)

/-- The cookies of a domain, in the order they were first stored. -/
def ofDomain (j : Jar) (domain : String) : List Cookie := Bucket.find domain j.buckets

/-- The cookie with a key. -/
def get? (j : Jar) (k : Cookie.Key) : Option Cookie := j.cookies.find? (·.key == k)

/-! ## The two views -/

/-- The cookies of a jar are those of the domains. -/
theorem mem_ofDomain_iff {j : Jar} (hv : AllValid j.limits.perHost j.buckets) {c : Cookie}
    {domain : String} : c ∈ j.ofDomain domain ↔ c ∈ j.cookies ∧ c.domain = domain := by
  rw [ofDomain, hv.find_eq_filter, List.mem_filter, beq_iff_eq]
  rfl

/-- A cookie stands in the bucket of its own domain exactly if it is in the jar. -/
theorem mem_ofDomain_self {j : Jar} (hv : AllValid j.limits.perHost j.buckets) {c : Cookie} :
    c ∈ j.ofDomain c.domain ↔ c ∈ j.cookies := by
  rw [mem_ofDomain_iff hv, and_iff_left rfl]

/-- A domain has no more cookies than its limit. -/
theorem length_ofDomain_le {j : Jar} (hv : AllValid j.limits.perHost j.buckets) (domain : String) :
    (j.ofDomain domain).length ≤ j.limits.perHost := by
  by_cases h : Bucket.find domain j.buckets = []
  · simp [ofDomain, h]
  · exact (hv.valid_find h).length_le

/-- No cookie stands twice in a bucket. -/
theorem nodup_ofDomain {j : Jar} (hv : AllValid j.limits.perHost j.buckets) (domain : String) :
    (j.ofDomain domain).Nodup :=
  List.Nodup.of_map Cookie.key (hv.keys_nodup_find domain)

/-- Nothing is found for a key exactly if no cookie has it. -/
theorem get?_eq_none_iff {j : Jar} {k : Cookie.Key} :
    j.get? k = none ↔ ∀ c ∈ j.cookies, c.key ≠ k := by
  simp [get?]

/-- The map has the cookies of the jar, each at its key. -/
theorem get?_eq_some_iff {j : Jar} (hv : AllValid j.limits.perHost j.buckets) {k : Cookie.Key}
    {c : Cookie} : j.get? k = some c ↔ c ∈ j.cookies ∧ c.key = k := by
  constructor
  · intro h
    exact ⟨List.mem_of_find?_eq_some h, by simpa using List.find?_some h⟩
  · rintro ⟨hmem, hkey⟩
    cases h : j.get? k with
    | none => exact absurd hkey (get?_eq_none_iff.1 h c hmem)
    | some d =>
      -- Some cookie with the key is found, and there is only one.
      have hd : d.key = k := by simpa using List.find?_some h
      have heq : d = c := List.inj_on_of_nodup_map hv.keys_nodup (List.mem_of_find?_eq_some h) hmem
        (hd.trans hkey.symm)
      rw [heq]

/-- A cookie that is found is one of the domain of its key. -/
theorem get?_eq_some_iff_mem_ofDomain {j : Jar} (hv : AllValid j.limits.perHost j.buckets)
    {k : Cookie.Key} {c : Cookie} : j.get? k = some c ↔ c ∈ j.ofDomain k.domain ∧ c.key = k := by
  rw [get?_eq_some_iff hv, mem_ofDomain_iff hv]
  constructor
  · rintro ⟨hmem, rfl⟩
    exact ⟨⟨hmem, rfl⟩, rfl⟩
  · rintro ⟨⟨hmem, _⟩, hkey⟩
    exact ⟨hmem, hkey⟩

/-- The key of a cookie is there unless nothing is replaced by it. -/
theorem replace?_eq_none_iff_get? {j : Jar} (hv : AllValid j.limits.perHost j.buckets)
    {c : Cookie} :
    Bucket.replace? c (Bucket.find c.domain j.buckets) = none ↔ j.get? c.key = none := by
  rw [Bucket.replace?_eq_none, get?_eq_none_iff]
  constructor
  · -- A cookie with the key would stand in the bucket, and be the one replaced there.
    intro h d hd hkey
    have hdomain : d.domain = c.domain := congrArg Cookie.Key.domain hkey
    have hfalse := h d ((mem_ofDomain_iff hv).2 ⟨hd, hdomain⟩)
    rw [(Bucket.sameKey_iff_key_eq hdomain).2 hkey] at hfalse
    exact nomatch hfalse
  · intro h d hd
    obtain ⟨hmem, hdomain⟩ := (mem_ofDomain_iff hv).1 hd
    have hkey := h d hmem
    rwa [← Bool.not_eq_true, Bucket.sameKey_iff_key_eq hdomain]

/-! ## Removing a cookie -/

/-- Erasing a cookie leaves the other domains alone. -/
theorem ofDomain_erase_of_ne {k : Cookie.Key} {domain : String} (h : domain ≠ k.domain) (j : Jar) :
    (j.erase k).ofDomain domain = j.ofDomain domain :=
  Bucket.find_set_of_ne h _ j.buckets

/-- Erasing a key takes the cookie with the key out of its domain, and leaves all others in their
    order. -/
theorem ofDomain_erase {j : Jar} (hv : AllValid j.limits.perHost j.buckets) (k : Cookie.Key)
    (domain : String) :
    (j.erase k).ofDomain domain = (j.ofDomain domain).filter (·.key != k) := by
  rw [ofDomain, erase, Bucket.find_set hv.domains_nodup]
  split
  · rename_i hdomain
    rw [ofDomain, hdomain]
    apply List.filter_congr
    intro c hc
    have hcdomain := hv.domain_of_mem_find hc
    -- Within the domain of the key, path and name are the key.
    have hkey : c.key = k ↔ c.path = k.path ∧ c.name = k.name := by
      cases k
      simp only [Cookie.key, Cookie.Key.mk.injEq, hcdomain, true_and]
    rw [Bool.eq_iff_iff, Bool.or_eq_true, bne_iff_ne, bne_iff_ne, bne_iff_ne, ne_eq, ne_eq, ne_eq,
      hkey, not_and_or, or_comm]
  · rename_i hdomain
    -- A cookie of another domain has another key.
    refine (List.filter_eq_self.2 ?_).symm
    intro c hc
    have hcdomain := hv.domain_of_mem_find hc
    rw [bne_iff_ne]
    rintro rfl
    exact hdomain hcdomain.symm

/-- As a map, the jar after erasing a key has nothing there and is the same everywhere else. -/
theorem get?_erase {j : Jar} (hv : j.Valid) (k : Cookie.Key) :
    (j.erase k).get? = Function.update j.get? k none := by
  -- The map is read off the cookies of the domain, key by key.
  funext l
  apply Option.ext
  intro x
  rw [get?_eq_some_iff_mem_ofDomain (hv.erase k).buckets, ofDomain_erase hv.buckets,
    List.mem_filter, bne_iff_ne, Function.update_apply]
  split
  · -- The key that is erased: no cookie has it any more.
    rename_i hl
    constructor
    · rintro ⟨⟨_, hne⟩, hkey⟩
      exact absurd (hkey.trans hl) hne
    · exact fun h => nomatch h
  · -- Any other key: the cookie that has it is not the one erased.
    rename_i hl
    rw [get?_eq_some_iff_mem_ofDomain hv.buckets]
    constructor
    · rintro ⟨⟨hmem, _⟩, hkey⟩
      exact ⟨hmem, hkey⟩
    · rintro ⟨hmem, hkey⟩
      exact ⟨⟨hmem, fun h => hl (hkey.symm.trans h)⟩, hkey⟩

/-! ## Filtering -/

/-- Filtering a jar filters each of its domains. -/
theorem ofDomain_filter {j : Jar} (hv : j.Valid) (p : Cookie → Bool) (domain : String) :
    (j.filter p).ofDomain domain = (j.ofDomain domain).filter p := by
  have hcontents : ∀ i : Jar, Bucket.contents i.buckets = i.cookies := fun i => rfl
  rw [ofDomain, (hv.filter p).buckets.find_eq_filter, ofDomain, hv.buckets.find_eq_filter,
    hcontents, hcontents, cookies_filter, List.filter_filter, List.filter_filter]
  simp only [Bool.and_comm]

/-! ## Replacing a cookie -/

/-- Storing a cookie whose key is in the jar changes no place: the new cookie stands where the old
    one stood, with the old one's age. -/
theorem ofDomain_replace {j : Jar} (hv : AllValid j.limits.perHost j.buckets) {c : Cookie}
    (h : j.get? c.key ≠ none) (domain : String) :
    (j.insert c).ofDomain domain =
      (j.ofDomain domain).map fun d =>
        if d.key = c.key then { c with created := d.created } else d := by
  cases hreplace : Bucket.replace? c (Bucket.find c.domain j.buckets) with
  | none => exact absurd ((replace?_eq_none_iff_get? hv).1 hreplace) h
  | some cs =>
    rw [insert_of_replace? hreplace, ofDomain, Bucket.find_set hv.domains_nodup]
    split
    · rename_i hdomain
      rw [ofDomain, hdomain]
      exact Bucket.eq_map_of_replace? hreplace (fun d hd => hv.domain_of_mem_find hd)
        (hv.keys_nodup_find c.domain)
    · rename_i hdomain
      -- No cookie of another domain has the key of the new one.
      have hother : ∀ d ∈ Bucket.find domain j.buckets,
          (if d.key = c.key then { c with created := d.created } else d) = d := by
        intro d hd
        refine if_neg ?_
        intro hkey
        exact hdomain ((hv.domain_of_mem_find hd).symm.trans (congrArg Cookie.Key.domain hkey))
      rw [ofDomain, List.map_congr_left hother, List.map_id']

/-- As a map, the jar after storing a cookie whose key it had has the new cookie there, created when
    the old one was, and is the same everywhere else. -/
theorem get?_replace {j : Jar} (hv : j.Valid) {c old : Cookie} (h : j.get? c.key = some old) :
    (j.insert c).get? = Function.update j.get? c.key (some { c with created := old.created }) := by
  have hne : j.get? c.key ≠ none := by rw [h]; exact Option.some_ne_none old
  -- Two maps are equal if they find the same cookies, and what is found stands in the bucket of its
  -- domain.
  funext k
  apply Option.ext
  intro x
  rw [get?_eq_some_iff_mem_ofDomain (hv.insert c).buckets, ofDomain_replace hv.buckets hne,
    List.mem_map, Function.update_apply]
  split
  · rename_i hk
    subst hk
    obtain ⟨hmem, hkey⟩ := (get?_eq_some_iff_mem_ofDomain hv.buckets).1 h
    constructor
    · rintro ⟨⟨d, hd, rfl⟩, hx⟩
      -- Only a cookie with the key becomes one with the key, and that is the one of before.
      have hdkey : d.key = c.key := by
        by_cases hdkey : d.key = c.key
        · exact hdkey
        · rwa [if_neg hdkey] at hx
      have hold : j.get? c.key = some d :=
        (get?_eq_some_iff_mem_ofDomain hv.buckets).2 ⟨hd, hdkey⟩
      rw [if_pos hdkey, Option.some.inj (h.symm.trans hold)]
    · intro heq
      cases heq
      exact ⟨⟨old, hmem, if_pos hkey⟩, rfl⟩
  · rename_i hk
    rw [get?_eq_some_iff_mem_ofDomain hv.buckets]
    constructor
    · rintro ⟨⟨d, hd, rfl⟩, hx⟩
      by_cases hdkey : d.key = c.key
      · -- The new cookie is not the one that is looked for, as it has its own key.
        rw [if_pos hdkey] at hx
        exact absurd hx.symm hk
      · rw [if_neg hdkey] at hx ⊢
        exact ⟨hd, hx⟩
    · rintro ⟨hmem, hkey⟩
      exact ⟨⟨x, hmem, if_neg (hkey ▸ hk)⟩, hkey⟩

end Jar

end HttpState
