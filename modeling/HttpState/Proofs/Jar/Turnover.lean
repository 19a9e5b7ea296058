import HttpState.Proofs.Jar.Eviction

/-!
# What comes and what goes

Storing a cookie with a new key, seen as a change of the cookies of a jar: the new one comes, and
either a cookie of its domain leaves, or any cookie, or none. What that does to the number of
cookies of some kind is the same in all cases, so it is enough to know of both cookies whether they
are of this kind.

## Key definitions

- `numberOf`, `olderThan`, `youngerOf`: numbers of cookies
- `Turnover`: what storing a cookie can do to the cookies of a jar

## Key results

- `turnover_insert`: what storing a cookie does
- `countP_of_perm`: a number of cookies after one has come and one has left
-/

namespace HttpState

namespace Jar

/-! ## Counting -/

/-- How many cookies of a list belong to a domain. -/
def numberOf (domain : String) (cs : List Cookie) : Nat := cs.countP (·.domain == domain)

/-- How many cookies of a list are older than a cookie. -/
def olderThan (m : Cookie) (cs : List Cookie) : Nat :=
  cs.countP fun x => decide (x.created.nanos < m.created.nanos)

/-- How many cookies of a list belong to a domain and are younger than a cookie. -/
def youngerOf (m : Cookie) (domain : String) (cs : List Cookie) : Nat :=
  cs.countP fun x => x.domain == domain && decide (m.created.nanos < x.created.nanos)

/-- The last cookie of a domain in a list. -/
def lastOf (domain : String) (cs : List Cookie) : Option Cookie :=
  (cs.filter (·.domain == domain)).getLast?

variable {l : Limits} {ps K K' : List Cookie} {c m v : Cookie} {domain : String}

/-- The last cookie of a domain is the one appended, if it is of that domain. -/
theorem lastOf_append (domain : String) (ps : List Cookie) (c : Cookie) :
    lastOf domain (ps ++ [c]) = if c.domain = domain then some c else lastOf domain ps := by
  rw [lastOf, List.filter_append]
  by_cases h : c.domain = domain
  · simp [h]
  · simp [h, lastOf]

/-- The last cookie of a domain is one of the list, and of that domain. -/
theorem mem_of_lastOf (h : lastOf domain ps = some c) : c ∈ ps ∧ c.domain = domain := by
  have hmem := List.mem_of_getLast? h
  rw [List.mem_filter, beq_iff_eq] at hmem
  exact hmem

/-- Cookies that come later only add to the younger ones. -/
theorem youngerOf_le_append (m : Cookie) (domain : String) (ps qs : List Cookie) :
    youngerOf m domain ps ≤ youngerOf m domain (ps ++ qs) := by
  rw [youngerOf, youngerOf, List.countP_append]
  exact Nat.le_add_right _ _

/-- The younger cookies of a domain are some of its cookies. -/
theorem youngerOf_le_numberOf (m : Cookie) (domain : String) (cs : List Cookie) :
    youngerOf m domain cs ≤ numberOf domain cs := by
  refine List.countP_mono_left fun x _ hx => ?_
  rw [Bool.and_eq_true] at hx
  exact hx.1

/-- All cookies of a domain are younger than one that none of them is older than or as old as. -/
theorem youngerOf_eq_numberOf
    (h : ∀ x ∈ K, x.domain = domain → m.created.nanos < x.created.nanos) :
    youngerOf m domain K = numberOf domain K := by
  refine List.countP_congr fun x hx => ?_
  rw [Bool.and_eq_true, decide_eq_true_eq, beq_iff_eq]
  exact and_iff_left_of_imp (h x hx)

/-- If all but one cookie of a domain are younger, the number shows it. -/
theorem youngerOf_lt_numberOf {k : Cookie} (hk : k ∈ K) (hdomain : k.domain = domain)
    (hle : k.created.nanos ≤ m.created.nanos) : youngerOf m domain K < numberOf domain K := by
  induction K with
  | nil => simp at hk
  | cons x K ih =>
    have hrest := youngerOf_le_numberOf m domain K
    simp only [youngerOf, numberOf, List.countP_cons] at hrest ih ⊢
    cases List.mem_cons.1 hk with
    | inl hkx =>
      -- This cookie is of the domain and not younger, so it is counted on the right only.
      subst hkx
      have hnot : ¬ m.created.nanos < k.created.nanos := by omega
      simp only [hdomain, beq_self_eq_true, hnot, decide_false, Bool.and_false, if_true]
      simp only [Bool.false_eq_true, if_false]
      omega
    | inr hkK =>
      -- A cookie in front adds to the left only if it adds to the right.
      have hlt := ih hkK
      by_cases hx : x.domain = domain
      · simp only [hx, beq_self_eq_true, Bool.true_and, if_true]
        split <;> omega
      · simpa [hx] using hlt

/-- All cookies of a domain but the oldest one are younger than this one. -/
theorem numberOf_le_youngerOf (hnodup : K.Nodup) (hv : v ∈ K)
    (hlt : ∀ x ∈ K, x.domain = domain → x ≠ v → v.created.nanos < x.created.nanos) :
    numberOf domain K ≤ youngerOf v domain K + 1 := by
  have hperm := List.perm_cons_erase hv
  have hrest : youngerOf v domain (K.erase v) = numberOf domain (K.erase v) := by
    refine youngerOf_eq_numberOf fun x hx hdomain => ?_
    obtain ⟨hne, hx⟩ := (List.Nodup.mem_erase_iff hnodup).1 hx
    exact hlt x hx hdomain hne
  rw [numberOf, youngerOf, hperm.countP_eq, hperm.countP_eq, List.countP_cons, List.countP_cons]
  rw [youngerOf, numberOf] at hrest
  rw [hrest]
  split <;> omega

/-- No cookie counts twice, so a part of a list has at most as many younger ones as the list. -/
theorem youngerOf_le_of_subset (hnodup : K.Nodup) (hsub : ∀ x ∈ K, x ∈ ps) (m : Cookie)
    (domain : String) : youngerOf m domain K ≤ youngerOf m domain ps :=
  (List.subperm_of_subset hnodup hsub).countP_le _

/-! ## Storing a cookie -/

/-- What storing a cookie with a new key can do to the cookies of a jar with these limits. -/
inductive Turnover (l : Limits) (K : List Cookie) (c : Cookie) : List Cookie → Prop where
  /-- The domain is full, and its oldest cookie leaves. -/
  | ofDomain {v : Cookie} {K' : List Cookie} (full : numberOf c.domain K = l.perHost) (mem : v ∈ K)
      (domain : v.domain = c.domain)
      (oldest : ∀ x ∈ K, x.domain = c.domain → v.created.nanos ≤ x.created.nanos)
      (perm : (c :: K).Perm (v :: K')) : Turnover l K c K'
  /-- There is room. -/
  | fits {K' : List Cookie} (room : numberOf c.domain K < l.perHost) (space : K.length < l.total)
      (perm : (c :: K).Perm K') : Turnover l K c K'
  /-- The jar is full, and the oldest cookie leaves, which may be the new one. -/
  | ofJar {v : Cookie} {K' : List Cookie} (room : numberOf c.domain K < l.perHost)
      (full : K.length = l.total) (mem : v ∈ c :: K)
      (oldest : ∀ x ∈ c :: K, v.created.nanos ≤ x.created.nanos)
      (perm : (c :: K).Perm (v :: K')) : Turnover l K c K'

/-- The bucket of a domain holds all cookies of the domain. -/
theorem length_ofDomain {j : Jar} (hv : j.Valid) (domain : String) :
    (j.ofDomain domain).length = numberOf domain j.cookies := by
  rw [ofDomain, hv.buckets.find_eq_filter, numberOf, List.countP_eq_length_filter]
  rfl

/-- Storing a cookie whose key is not there. -/
theorem turnover_insert {j : Jar} (hv : j.Valid) (hnew : ∀ d ∈ j.cookies, d.key ≠ c.key) :
    Turnover j.limits j.cookies c (j.insert c).cookies := by
  obtain ⟨evicted, hevicts, -, hdomains⟩ := exists_evicts_of_new hv (get?_eq_none_iff.2 hnew)
  have hvalid := hv.insert c
  have hc : c ∉ j.cookies := fun hmem => hnew c hmem rfl
  have hnodup : (c :: j.cookies).Nodup :=
    List.nodup_cons.2 ⟨hc, List.Nodup.of_map Cookie.key hv.buckets.keys_nodup⟩
  have hnodup' : (j.insert c).cookies.Nodup :=
    List.Nodup.of_map Cookie.key hvalid.buckets.keys_nodup
  -- Bucket by bucket, what stands in the jar afterwards is all that stood there and the new cookie,
  -- but for the one that left.
  have hmem : ∀ x, x ∈ (j.insert c).cookies ↔ x ∈ c :: j.cookies ∧ some x ≠ evicted := by
    intro x
    rw [← mem_ofDomain_self hvalid.buckets, hdomains, List.mem_filter, List.mem_append,
      mem_ofDomain_self hv.buckets, List.mem_cons, bne_iff_ne]
    refine and_congr_left fun _ => ?_
    constructor
    · intro h
      cases h with
      | inl hx => exact .inr hx
      | inr hx =>
        split at hx
        · exact .inl (List.mem_singleton.1 hx)
        · exact absurd hx List.not_mem_nil
    · intro h
      cases h with
      | inl hx => exact .inr (by simp [hx])
      | inr hx => exact .inl hx
  -- A cookie that leaves was there, so what is left and this cookie are all there was.
  have hperm : ∀ w, w ∈ c :: j.cookies → evicted = some w →
      (c :: j.cookies).Perm (w :: (j.insert c).cookies) := by
    intro w hw heq
    have hnot : w ∉ (j.insert c).cookies := fun hin => ((hmem w).1 hin).2 heq.symm
    -- The new jar without the evicted cookie is the old one with the new cookie; both lists have no
    -- duplicates, so it is enough to compare members.
    refine (List.perm_ext_iff_of_nodup hnodup (List.nodup_cons.2 ⟨hnot, hnodup'⟩)).2 fun x => ?_
    rw [List.mem_cons (a := x) (b := w), hmem, heq]
    by_cases hxw : x = w
    · simp [hxw, hw]
    · simp [hxw]
  cases hevicts with
  | @ofDomain w full oldest =>
    have hw := (mem_ofDomain_iff hv.buckets).1 oldest.mem
    refine .ofDomain (length_ofDomain hv c.domain ▸ full) hw.1 hw.2 ?_
      (hperm w (List.mem_cons_of_mem c hw.1) rfl)
    intro x hx hdomain
    exact oldest.le ((mem_ofDomain_iff hv.buckets).2 ⟨hx, hdomain⟩)
  | @ofJar w room full mem oldest =>
    exact .ofJar (length_ofDomain hv c.domain ▸ room) full mem oldest (hperm w mem rfl)
  | none room space =>
    refine .fits (length_ofDomain hv c.domain ▸ room) space ?_
    refine (List.perm_ext_iff_of_nodup hnodup hnodup').2 fun x => ?_
    rw [hmem]
    simp

/-- What a cookie that comes and one that leaves do to the number of cookies of some kind. -/
theorem countP_of_perm (h : (c :: K).Perm (v :: K')) (p : Cookie → Bool) :
    K.countP p + (p c).toNat = K'.countP p + (p v).toNat := by
  have hcount := h.countP_eq p
  simp only [List.countP_cons] at hcount
  cases hc : p c <;> cases hv : p v <;> simp_all

end Jar

end HttpState
