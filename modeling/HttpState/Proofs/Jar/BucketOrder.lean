import HttpState.Proofs.Jar.Eviction
import HttpState.Proofs.List

/-!
# The order that buckets keep

A jar puts a new bucket behind the others, and leaves out one that has become empty. Apart from this
no change moves a bucket. So the domains of a jar, those of the jar after a change, and those after
another one that only takes cookies away are all parts of one list without repetitions, and there is
no more to two such jars than the cookies of each domain: where these are the same, the jars are.

## Key results

- `exists_domains_insert`: the domains of a jar before and after a cookie is stored
- `domains_erase_sublist`: those after one is removed
- `Bucket.AllValid.eq_of_find_eq`, `eq_of_ofDomain_eq`: when buckets and jars are the same
-/

namespace HttpState

namespace Bucket

/-! ## Putting cookies -/

/-- A domain that had no bucket comes last. -/
theorem domains_set_sublist_append (domain : String) (cs : List Cookie) (bs : List Bucket) :
    (domains (set domain cs bs)).Sublist (domains bs ++ [domain]) := by
  induction bs with
  | nil =>
    unfold set
    split
    · exact List.nil_sublist _
    · exact List.Sublist.refl _
  | cons b bs ih =>
    unfold set
    split
    · -- The domain has a bucket here, so nothing is put at the end.
      rename_i hb
      split
      · exact (List.sublist_append_left _ _).cons b.domain
      · rw [← hb]
        exact List.sublist_append_left _ _
    · -- The bucket goes somewhere behind this one.
      exact ih.cons_cons b.domain

/-- No domain comes if it had a bucket already, or if there is nothing to put into one. -/
theorem domains_set_sublist {domain : String} {cs : List Cookie} {bs : List Bucket}
    (h : domain ∈ domains bs ∨ cs = []) : (domains (set domain cs bs)).Sublist (domains bs) := by
  induction bs with
  | nil =>
    rw [h.resolve_left List.not_mem_nil]
    exact List.nil_sublist _
  | cons b bs ih =>
    unfold set
    split
    · rename_i hb
      split
      · exact List.sublist_cons_self _ _
      · rw [← hb]
        exact List.Sublist.refl _
    · -- The domain is a later one, as this one is another.
      rename_i hb
      refine (ih (h.imp_left ?_)).cons_cons b.domain
      intro hmem
      exact (List.mem_cons.1 hmem).resolve_left (Ne.symm hb)

/-! ## What buckets are apart from their order -/

section Valid

variable {limit : Nat} {bs bs' : List Bucket}

/-- A domain has a bucket exactly if it has a cookie. -/
theorem AllValid.mem_domains_iff (h : AllValid limit bs) {domain : String} :
    domain ∈ domains bs ↔ find domain bs ≠ [] := by
  constructor
  · intro hmem
    obtain ⟨b, hb, rfl⟩ := List.mem_map.1 hmem
    rw [find_of_mem h.domains_nodup hb]
    exact (h.valid b hb).nonempty
  · intro hne
    by_contra hmem
    exact hne (find_eq_nil hmem)

/-- Buckets consist of their domains and what is found there. -/
theorem AllValid.eq_map_domains (h : AllValid limit bs) :
    bs = (domains bs).map fun domain => ⟨domain, find domain bs⟩ := by
  have hfind : ∀ b ∈ bs, (⟨b.domain, find b.domain bs⟩ : Bucket) = b := by
    intro b hb
    rw [find_of_mem h.domains_nodup hb]
  rw [domains, List.map_map]
  exact ((List.map_congr_left hfind).trans (List.map_id' bs)).symm

/-- Buckets in the order of one list of domains are the same if the same cookies are found. -/
theorem AllValid.eq_of_find_eq (h : AllValid limit bs) (h' : AllValid limit bs') {l : List String}
    (hl : l.Nodup) (hbs : (domains bs).Sublist l) (hbs' : (domains bs').Sublist l)
    (hfind : ∀ domain, find domain bs = find domain bs') : bs = bs' := by
  -- A domain has a bucket exactly if something is found, so both have the same domains.
  have hdomains : domains bs = domains bs' := by
    refine List.eq_of_sublist_of_mem_iff hl hbs hbs' ?_
    intro domain
    rw [h.mem_domains_iff, h'.mem_domains_iff, hfind]
  rw [h.eq_map_domains, h'.eq_map_domains, hdomains]
  simp only [hfind]

end Valid

end Bucket

namespace Jar

open Bucket (AllValid domains)

/-- Dropping an oldest cookie brings no domain, and no domain to another place. -/
theorem domains_dropOldest_sublist (j : Jar) :
    (domains j.dropOldest.buckets).Sublist (domains j.buckets) := by
  unfold dropOldest
  split
  · exact List.Sublist.refl _
  · split
    · exact List.Sublist.refl _
    · rename_i b hb
      exact Bucket.domains_set_sublist
        (.inl (List.mem_map_of_mem (List.mem_of_find?_eq_some hb)))

/-- Nor does dropping as many cookies as are too many. -/
theorem domains_enforceTotal_sublist (j : Jar) :
    (domains j.enforceTotal.buckets).Sublist (domains j.buckets) := by
  rw [enforceTotal]
  induction j.count - j.limits.total with
  | zero => exact List.Sublist.refl _
  | succ n ih => exact (domains_dropOldest_sublist _).trans ih

/-- Nor does erasing a key, whose domain may lose its last cookie. -/
theorem domains_erase_sublist (j : Jar) (k : Cookie.Key) :
    (domains (j.erase k).buckets).Sublist (domains j.buckets) := by
  apply Bucket.domains_set_sublist
  by_cases hmem : k.domain ∈ domains j.buckets
  · exact .inl hmem
  · rw [Bucket.find_eq_nil hmem]
    exact .inr rfl

/-- The domains of a jar before and after a cookie is stored, in one order. -/
theorem exists_domains_insert {j : Jar} (hv : j.Valid) (c : Cookie) :
    ∃ l : List String, l.Nodup ∧ (domains j.buckets).Sublist l ∧
      (domains (j.insert c).buckets).Sublist l := by
  have hnodup := hv.buckets.domains_nodup
  have hinsert : (domains (j.insert c).buckets).Sublist (domains (j.put c).buckets) := by
    rw [insert_eq_enforceTotal hv]
    exact domains_enforceTotal_sublist _
  -- The one list is that of the domains before, with the domain of the cookie if it is new.
  by_cases hmem : c.domain ∈ domains j.buckets
  · exact ⟨_, hnodup, List.Sublist.refl _, hinsert.trans (Bucket.domains_set_sublist (.inl hmem))⟩
  · refine ⟨domains j.buckets ++ [c.domain], ?_, List.sublist_append_left _ _,
      hinsert.trans (Bucket.domains_set_sublist_append _ _ _)⟩
    rw [← List.concat_eq_append]
    exact hnodup.concat hmem

/-- Jars with their buckets in one order are the same if each domain has the same cookies. -/
theorem eq_of_ofDomain_eq {j k : Jar} (hj : j.Valid) (hk : k.Valid)
    (haccepts : j.accepts = k.accepts) (hlimits : j.limits = k.limits) {l : List String}
    (hl : l.Nodup) (hjl : (domains j.buckets).Sublist l) (hkl : (domains k.buckets).Sublist l)
    (h : ∀ domain, j.ofDomain domain = k.ofDomain domain) : j = k := by
  have hbuckets : j.buckets = k.buckets :=
    hj.buckets.eq_of_find_eq (hlimits ▸ hk.buckets) hl hjl hkl h
  cases j
  cases k
  rw [Jar.mk.injEq]
  exact ⟨hbuckets, haccepts, hlimits⟩

end Jar

end HttpState
