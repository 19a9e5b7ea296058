import HttpState.Jar.Basic
import Mathlib.Data.List.Nodup
import Mathlib.Data.List.Perm.Basic

/-!
# Buckets

What the operations on the cookies of one domain do to these cookies, and what putting cookies in
the place of those of a domain does to all buckets together. Everything here is about lists; which
lists a jar can hold is said in `HttpState.Proofs.Jar.Invariant`.

## Key results

- `length_makeRoom`, `makeRoom_sublist`: making room drops cookies until there is room, and keeps
  the order of the others
- `exists_of_replace?`: a replacement changes one cookie in its place
- `perm_set`: putting cookies in the place of those of a domain, counted as a whole
- `find_eq_filter`: in buckets that hold what they should, looking up a domain is filtering
-/

namespace HttpState.Bucket

/-! ## The oldest cookie -/

/-- There is no oldest time exactly if there are no cookies. -/
theorem oldestTime?_eq_none {cs : List Cookie} : oldestTime? cs = none ↔ cs = [] := by
  simp [oldestTime?]

/-- The oldest time is the time of a cookie, and no cookie is older. -/
theorem oldestTime?_eq_some {cs : List Cookie} {t : Int} (h : oldestTime? cs = some t) :
    (∃ c ∈ cs, c.created.nanos = t) ∧ ∀ c ∈ cs, t ≤ c.created.nanos := by
  obtain ⟨hmem, hle⟩ := List.min?_eq_some_iff.1 h
  refine ⟨by simpa using hmem, ?_⟩
  intro c hc
  exact hle _ (List.mem_map_of_mem hc)

/-- Dropping an oldest cookie leaves the others in their order. -/
theorem dropOldest_sublist (cs : List Cookie) : (dropOldest cs).Sublist cs := by
  unfold dropOldest
  split
  · exact List.eraseP_sublist
  · exact List.Sublist.refl cs

/-- A cookie that was created at the time is dropped. -/
theorem length_dropCreatedAt {cs : List Cookie} {c : Cookie} (h : c ∈ cs) :
    (dropCreatedAt c.created.nanos cs).length = cs.length - 1 :=
  List.length_eraseP_of_mem h (by simp)

/-- One cookie is dropped, if there is any. -/
theorem length_dropOldest (cs : List Cookie) : (dropOldest cs).length = cs.length - 1 := by
  unfold dropOldest
  split
  · rename_i t ht
    obtain ⟨⟨c, hc, rfl⟩, _⟩ := oldestTime?_eq_some ht
    exact length_dropCreatedAt hc
  · rename_i hnone
    rw [oldestTime?_eq_none.1 hnone]
    rfl

/-- So does dropping several of them, one after the other. -/
theorem repeat_dropOldest_sublist (n : Nat) (cs : List Cookie) :
    (Nat.repeat dropOldest n cs).Sublist cs := by
  induction n with
  | zero => exact List.Sublist.refl cs
  | succ n ih => exact (dropOldest_sublist _).trans ih

/-- As many cookies are dropped as was asked for, or all of them. -/
theorem length_repeat_dropOldest (n : Nat) (cs : List Cookie) :
    (Nat.repeat dropOldest n cs).length = cs.length - n := by
  induction n with
  | zero => rfl
  | succ n ih =>
    rw [Nat.repeat, length_dropOldest, ih]
    omega

/-- Making room drops cookies and keeps the order of the others. -/
theorem makeRoom_sublist (limit : Nat) (cs : List Cookie) : (makeRoom limit cs).Sublist cs :=
  repeat_dropOldest_sublist _ cs

/-- Making room drops as many cookies as are too many for another one. -/
theorem length_makeRoom (limit : Nat) (cs : List Cookie) :
    (makeRoom limit cs).length = cs.length - (cs.length + 1 - limit) :=
  length_repeat_dropOldest _ cs

/-- Where there is room already, no cookie is dropped. -/
theorem makeRoom_of_lt {limit : Nat} {cs : List Cookie} (h : cs.length < limit) :
    makeRoom limit cs = cs := by
  rw [makeRoom, show cs.length + 1 - limit = 0 by omega]
  rfl

/-! ## Replacing a cookie -/

/-- Two cookies of one bucket have the same key if their names and paths agree. -/
theorem sameKey_iff {c d : Cookie} : sameKey c d = true ↔ d.name = c.name ∧ d.path = c.path := by
  simp [sameKey]

/-- Nothing is replaced exactly where no cookie has the key. -/
theorem replace?_eq_none {c : Cookie} {cs : List Cookie} :
    replace? c cs = none ↔ ∀ d ∈ cs, sameKey c d = false := by
  induction cs with
  | nil => simp [replace?]
  | cons d ds ih =>
    by_cases hd : sameKey c d = true
    · simp [replace?, hd]
    · simp [replace?, hd, ih]

/-- A replacement puts the new cookie, with the old creation time, in the place of the first cookie
    with its key. -/
theorem exists_of_replace? {c : Cookie} {cs ds : List Cookie} (h : replace? c cs = some ds) :
    ∃ front d back, cs = front ++ d :: back ∧ sameKey c d = true ∧
      ds = front ++ { c with created := d.created } :: back := by
  induction cs generalizing ds with
  | nil => simp [replace?] at h
  | cons d cs ih =>
    -- The first cookie with the key is replaced, and none before it has the key.
    by_cases hd : sameKey c d = true
    · rw [replace?, if_pos hd, Option.some.injEq] at h
      exact ⟨[], d, cs, rfl, hd, h.symm⟩
    · rw [replace?, if_neg hd, Option.map_eq_some_iff] at h
      obtain ⟨es, hes, rfl⟩ := h
      obtain ⟨front, e, back, rfl, he, rfl⟩ := ih hes
      exact ⟨d :: front, e, back, rfl, he, rfl⟩

/-- A replacement among cookies of its domain changes no key. -/
theorem map_key_of_replace? {c : Cookie} {cs ds : List Cookie} (h : replace? c cs = some ds)
    (hdomain : ∀ d ∈ cs, d.domain = c.domain) : ds.map Cookie.key = cs.map Cookie.key := by
  obtain ⟨front, d, back, rfl, hd, rfl⟩ := exists_of_replace? h
  have hkey : ({ c with created := d.created } : Cookie).key = d.key := by
    obtain ⟨hname, hpath⟩ := sameKey_iff.1 hd
    have hdom := hdomain d (by simp)
    simp [Cookie.key, hname, hpath, hdom]
  simp [hkey]

/-! ## Buckets by domain -/

/-- The domains that have buckets. -/
def domains (bs : List Bucket) : List String := bs.map (·.domain)

/-- The cookies of all buckets. -/
def contents (bs : List Bucket) : List Cookie := bs.flatMap (·.cookies)

/-- No buckets have no cookies. -/
@[simp] theorem contents_nil : contents [] = [] := rfl

/-- The cookies of a list of buckets are read off it bucket by bucket. -/
@[simp] theorem contents_cons (b : Bucket) (bs : List Bucket) :
    contents (b :: bs) = b.cookies ++ contents bs := rfl

/-- A cookie of the buckets stands in one of them. -/
theorem mem_contents {c : Cookie} {bs : List Bucket} :
    c ∈ contents bs ↔ ∃ b ∈ bs, c ∈ b.cookies := List.mem_flatMap

/-- The bucket of a domain is the first one with that domain. -/
theorem find_cons (domain : String) (b : Bucket) (bs : List Bucket) :
    find domain (b :: bs) = if b.domain = domain then b.cookies else find domain bs := by
  by_cases h : b.domain = domain <;> simp [find, h]

/-- Where a domain has no bucket, it has no cookies. -/
theorem find_eq_nil {domain : String} {bs : List Bucket} (h : domain ∉ domains bs) :
    find domain bs = [] := by
  induction bs with
  | nil => rfl
  | cons b bs ih =>
    simp only [domains, List.map_cons, List.mem_cons, not_or] at h
    rw [find_cons, if_neg (Ne.symm h.1)]
    exact ih h.2

/-- The bucket of a domain that has one. -/
theorem exists_of_find {domain : String} {bs : List Bucket} (h : find domain bs ≠ []) :
    ∃ b ∈ bs, b.domain = domain ∧ b.cookies = find domain bs := by
  induction bs with
  | nil => exact absurd rfl h
  | cons b bs ih =>
    rw [find_cons] at h ⊢
    -- The bucket is this one, or further down.
    by_cases hb : b.domain = domain
    · rw [if_pos hb]
      exact ⟨b, by simp, hb, rfl⟩
    · rw [if_neg hb] at h ⊢
      obtain ⟨e, he, hdomain, hcookies⟩ := ih h
      exact ⟨e, by simp [he], hdomain, hcookies⟩

/-- Where each domain has one bucket, that bucket is found. -/
theorem find_of_mem {b : Bucket} {bs : List Bucket} (hnodup : (domains bs).Nodup) (hb : b ∈ bs) :
    find b.domain bs = b.cookies := by
  induction bs with
  | nil => simp at hb
  | cons e bs ih =>
    simp only [domains, List.map_cons, List.nodup_cons] at hnodup
    rw [find_cons]
    cases hb with
    | head => rw [if_pos rfl]
    | tail _ hb =>
      -- Domains do not repeat, so this bucket is not the one in question.
      have hne : e.domain ≠ b.domain := by
        intro he
        exact hnodup.1 (he ▸ List.mem_map_of_mem hb)
      rw [if_neg hne]
      exact ih hnodup.2 hb

/-- Putting cookies in the place of those of a domain: the new ones come, those of the domain go,
    and all others stay. -/
theorem perm_set (domain : String) (cs : List Cookie) (bs : List Bucket) :
    (contents (set domain cs bs) ++ find domain bs).Perm (cs ++ contents bs) := by
  induction bs with
  | nil =>
    -- There was no bucket of the domain, so the new one is put behind the others.
    by_cases hc : cs.isEmpty
    · simp [set, find, List.isEmpty_iff.1 hc]
    · simp [set, find, hc]
  | cons b bs ih =>
    rw [find_cons]
    by_cases hb : b.domain = domain
    · -- What the bucket held is what the domain had, and moves behind the rest.
      rw [set, if_pos hb, if_pos hb]
      by_cases hc : cs.isEmpty
      · simpa [List.isEmpty_iff.1 hc] using List.perm_append_comm
      · simpa [hc] using List.Perm.append_left cs List.perm_append_comm
    · -- The cookies of this bucket come first on both sides.
      rw [set, if_neg hb, if_neg hb, contents_cons, contents_cons, List.append_assoc]
      refine (List.Perm.append_left b.cookies ih).trans ?_
      rw [← List.append_assoc, ← List.append_assoc]
      exact List.Perm.append_right _ List.perm_append_comm

/-- Putting a bucket takes away as many cookies as the domain had, and adds its own. -/
theorem length_contents_set (domain : String) (cs : List Cookie) (bs : List Bucket) :
    (contents (set domain cs bs)).length + (find domain bs).length =
      cs.length + (contents bs).length := by
  have h := (perm_set domain cs bs).length_eq
  simpa using h

/-- A bucket is the one that was put, or one of another domain that was there. -/
theorem mem_set {domain : String} {cs : List Cookie} {bs : List Bucket}
    (hnodup : (domains bs).Nodup) {b : Bucket} (hb : b ∈ set domain cs bs) :
    (b = ⟨domain, cs⟩ ∧ cs ≠ []) ∨ (b ∈ bs ∧ b.domain ≠ domain) := by
  induction bs with
  | nil =>
    by_cases hc : cs.isEmpty
    · simp [set, hc] at hb
    · rw [set, if_neg hc, List.mem_singleton] at hb
      exact .inl ⟨hb, by simpa using hc⟩
  | cons e bs ih =>
    simp only [domains, List.map_cons, List.nodup_cons] at hnodup
    by_cases he : e.domain = domain
    · -- The bucket of the domain is the first one, so no other has this domain.
      have hother : ∀ x ∈ bs, x.domain ≠ domain := by
        intro x hx hdomain
        exact hnodup.1 (he ▸ hdomain ▸ List.mem_map_of_mem hx)
      rw [set, if_pos he] at hb
      by_cases hc : cs.isEmpty
      · rw [if_pos hc] at hb
        exact .inr ⟨by simp [hb], hother b hb⟩
      · rw [if_neg hc, List.mem_cons] at hb
        cases hb with
        | inl hb => exact .inl ⟨hb, by simpa using hc⟩
        | inr hb => exact .inr ⟨by simp [hb], hother b hb⟩
    · rw [set, if_neg he, List.mem_cons] at hb
      cases hb with
      | inl hb => exact .inr ⟨by simp [hb], hb ▸ he⟩
      | inr hb =>
        rcases ih hnodup.2 hb with h | ⟨hmem, hne⟩
        · exact .inl h
        · exact .inr ⟨by simp [hmem], hne⟩

/-- Domains stay apart, whatever is put in the place of the cookies of one. -/
theorem nodup_domains_set {domain : String} (cs : List Cookie) {bs : List Bucket}
    (hnodup : (domains bs).Nodup) : (domains (set domain cs bs)).Nodup := by
  induction bs with
  | nil => by_cases hc : cs.isEmpty <;> simp [set, domains, hc]
  | cons e bs ih =>
    have htail : e.domain ∉ domains bs ∧ (domains bs).Nodup := by
      simpa [domains] using hnodup
    -- The bucket of the domain keeps its place, or is taken out of the list.
    by_cases he : e.domain = domain
    · rw [set, if_pos he]
      by_cases hc : cs.isEmpty
      · rw [if_pos hc]
        exact htail.2
      · rw [if_neg hc, ← he]
        simpa [domains] using hnodup
    · rw [set, if_neg he]
      simp only [domains, List.map_cons, List.nodup_cons]
      refine ⟨?_, ih htail.2⟩
      -- A bucket further down is the new one or was there, and has another domain in both cases.
      intro hmem
      obtain ⟨b, hb, hdomain⟩ := List.mem_map.1 hmem
      rcases mem_set htail.2 hb with ⟨rfl, _⟩ | ⟨hb, _⟩
      · exact he hdomain.symm
      · exact htail.1 (hdomain ▸ List.mem_map_of_mem hb)

/-- In buckets that hold cookies of their own domains only, looking up a domain is filtering all
    cookies by it. -/
theorem find_eq_filter {bs : List Bucket} (hnodup : (domains bs).Nodup)
    (hdomain : ∀ b ∈ bs, ∀ c ∈ b.cookies, c.domain = b.domain) (domain : String) :
    find domain bs = (contents bs).filter (·.domain == domain) := by
  induction bs with
  | nil => rfl
  | cons b bs ih =>
    have htail : b.domain ∉ domains bs ∧ (domains bs).Nodup := by
      simpa [domains] using hnodup
    have hrest := ih htail.2 fun e he => hdomain e (by simp [he])
    rw [find_cons, contents_cons, List.filter_append, ← hrest]
    -- In the bucket of the domain every cookie belongs to it; in any other bucket none does.
    by_cases hb : b.domain = domain
    · have hall : b.cookies.filter (·.domain == domain) = b.cookies := by
        rw [List.filter_eq_self]
        intro c hc
        simpa [← hb] using hdomain b (by simp) c hc
      rw [if_pos hb, hall, find_eq_nil (hb ▸ htail.1), List.append_nil]
    · have hno : b.cookies.filter (·.domain == domain) = [] := by
        rw [List.filter_eq_nil_iff]
        intro c hc
        simpa [hdomain b (by simp) c hc] using hb
      rw [if_neg hb, hno, List.nil_append]

/-- Putting the cookies of a domain back in their place changes nothing. -/
theorem set_find_self {domain : String} {bs : List Bucket} (h : ∀ b ∈ bs, b.cookies ≠ []) :
    set domain (find domain bs) bs = bs := by
  induction bs with
  | nil => rfl
  | cons b bs ih =>
    rw [find_cons]
    by_cases hb : b.domain = domain
    · have hne : b.cookies.isEmpty = false := by simpa using h b (by simp)
      rw [if_pos hb, set, if_pos hb, hne, ← hb]
      rfl
    · rw [if_neg hb, set, if_neg hb, ih fun e he => h e (by simp [he])]

end HttpState.Bucket
