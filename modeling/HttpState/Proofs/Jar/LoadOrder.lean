import HttpState.Proofs.Jar.Turnover
import Mathlib.Data.Finset.Card

/-!
# Which cookies of a list are loaded

A list may have more cookies than a jar with its limits takes. They come one after another and not
by age, and each may make another one leave. A full jar drops its oldest cookie, and this may be the
one that has just come. A full domain drops its oldest cookie before the new one is there, so the
new one stays even if it is older than all the others. It stays until the next cookie of the domain
comes, and for good if it is the last one.

So the oldest cookies of each domain are dropped first if the last cookie of every domain in the
list is among the youngest of its domain, as many as the domain may have. One that is not, and
stays, takes the place of a younger cookie.

The invariant `Loaded` says of each cookie that was dropped why it was: the jar was full of younger
ones, or its domain was. Since then older cookies may have come, but only as last cookies of full
domains.

## Key definitions

- `Misplaced`: a domain whose last cookie is too old
- `Loaded`: the invariant
- `EvictsOldestFirst`: no cookie that is missing is younger than one of its domain that is there
- `LastIsYoung`: the last cookie of a domain is among the youngest ones

## Key results

- `Loaded.step`, `loaded_foldl_insert`: the invariant of one cookie and of a whole list
- `load_evicts_oldest_first`: for which lists the oldest cookies are dropped first
-/

namespace HttpState

namespace Jar

variable {l : Limits} {ps K K' : List Cookie} {c m v : Cookie}

/-! ## The invariant -/

/-- Among the cookies of a domain in the list `ps` are as many younger than a cookie as the domain
    may have, but the last one is older. -/
structure Misplaced (l : Limits) (ps : List Cookie) (m : Cookie) (domain : String) : Prop where
  younger : l.perHost ≤ youngerOf m domain ps
  older : ∃ x, lastOf domain ps = some x ∧ x.created.nanos < m.created.nanos

/-- Why a cookie of a list has been dropped by a jar with these limits that has read the list `ps`
    and holds the cookies `K`. -/
inductive Dropped (l : Limits) (ps K : List Cookie) (m : Cookie) : Prop where
  /-- The jar was full of younger cookies. Older ones may have come since then, but only to domains
      that were full of younger ones, and whose last cookies they still are. -/
  | byJar (domains : Finset String) (full : K.length = l.total)
      (older : olderThan m K ≤ domains.card) (misplaced : ∀ d ∈ domains, Misplaced l ps m d) :
      Dropped l ps K m
  /-- The domain was full of younger cookies. An older one may have come since then, but only as the
      last one of the domain. -/
  | byDomain (younger : l.perHost ≤ youngerOf m m.domain K + 1)
      (older : ∀ x ∈ K, x.domain = m.domain → x.created.nanos < m.created.nanos →
        lastOf m.domain ps = some x) : Dropped l ps K m

/-- A jar with these limits has read the list `ps` and holds the cookies `K`. -/
structure Loaded (l : Limits) (ps K : List Cookie) : Prop where
  nodup : K.Nodup
  subset : ∀ x ∈ K, x ∈ ps
  length_le : K.length ≤ l.total
  numberOf_le : ∀ d, numberOf d K ≤ l.perHost
  /-- The last cookie of a domain leaves only if the jar is full and the domain is not. -/
  last : ∀ d x, lastOf d ps = some x → x ∉ K → numberOf d K < l.perHost ∧ l.total < ps.length
  dropped : ∀ m ∈ ps, m ∉ K → Dropped l ps K m

/-! ### Misplaced cookies -/

namespace Misplaced

/-- The cookies of other domains make no difference. -/
theorem append_of_ne {d : String} (h : Misplaced l ps m d) (hd : d ≠ c.domain) :
    Misplaced l (ps ++ [c]) m d where
  younger := Nat.le_trans h.younger (youngerOf_le_append m d ps [c])
  older := by
    rw [lastOf_append, if_neg (Ne.symm hd)]
    exact h.older

/-- An older cookie is misplaced behind enough younger ones of its domain. -/
theorem append_self (hyounger : l.perHost ≤ youngerOf m c.domain ps)
    (hcm : c.created.nanos < m.created.nanos) : Misplaced l (ps ++ [c]) m c.domain where
  younger := Nat.le_trans hyounger (youngerOf_le_append m c.domain ps [c])
  older := ⟨c, by rw [lastOf_append, if_pos rfl], hcm⟩

/-- Whatever is misplaced stays so when another older cookie comes. -/
theorem append {d : String} (h : Misplaced l ps m d) (hcm : c.created.nanos < m.created.nanos) :
    Misplaced l (ps ++ [c]) m d := by
  by_cases hd : d = c.domain
  · subst hd
    exact append_self h.younger hcm
  · exact h.append_of_ne hd

end Misplaced

/-! ### Dropped cookies -/

namespace Dropped

/-- A full jar has no cookie that is older. -/
theorem of_forall_le (hfull : K.length = l.total)
    (hle : ∀ x ∈ K, m.created.nanos ≤ x.created.nanos) : Dropped l ps K m := by
  refine .byJar ∅ hfull ?_ (by simp)
  rw [Finset.card_empty, Nat.le_zero, olderThan, List.countP_eq_zero]
  intro x hx
  have hx := hle x hx
  simp only [decide_eq_true_eq]
  omega

/-- The new cookie is the only older one of the domain. -/
theorem of_last (hdomain : c.domain = m.domain) (hyounger : l.perHost ≤ youngerOf m m.domain K + 1)
    (holder : ∀ x ∈ K, x.domain = m.domain → x.created.nanos < m.created.nanos → x = c) :
    Dropped l (ps ++ [c]) K m := by
  refine .byDomain hyounger fun x hx hxd hxm => ?_
  rw [lastOf_append, if_pos hdomain, holder x hx hxd hxm]

/-- The new cookie belongs to another domain. -/
theorem of_ne (hdomain : c.domain ≠ m.domain)
    (hyounger : l.perHost ≤ youngerOf m m.domain K' + 1) (hsub : ∀ x ∈ K', x = c ∨ x ∈ K)
    (holder : ∀ x ∈ K, x.domain = m.domain → x.created.nanos < m.created.nanos →
      lastOf m.domain ps = some x) : Dropped l (ps ++ [c]) K' m := by
  refine .byDomain hyounger fun x hx hxd hxm => ?_
  rw [lastOf_append, if_neg hdomain]
  cases hsub x hx with
  | inl hxc => exact absurd (hxc ▸ hxd) hdomain
  | inr hxK => exact holder x hxK hxd hxm

/-- A domain with room has no older cookies but the new one. -/
theorem of_room (hroom : numberOf c.domain K < l.perHost)
    (hyounger : l.perHost ≤ youngerOf m m.domain K + 1)
    (holder : ∀ x ∈ K, x.domain = m.domain → x.created.nanos < m.created.nanos →
      lastOf m.domain ps = some x)
    (hsub : ∀ x ∈ K', x = c ∨ x ∈ K) (hcount : youngerOf m m.domain K ≤ youngerOf m m.domain K') :
    Dropped l (ps ++ [c]) K' m := by
  by_cases hdomain : c.domain = m.domain
  · -- The last cookie of the domain is the new one now.
    refine of_last hdomain (by omega) fun x hx hxd hxm => ?_
    cases hsub x hx with
    | inl hxc => exact hxc
    | inr hxK =>
      have hlt := youngerOf_lt_numberOf hxK hxd (Int.le_of_lt hxm)
      rw [hdomain] at hroom
      omega
  · -- The domain is another one and keeps its last cookie.
    exact of_ne hdomain (by omega) hsub holder

end Dropped

namespace Loaded

/-- Before anything is read nothing is missing. -/
theorem nil (l : Limits) : Loaded l [] [] where
  nodup := List.nodup_nil
  subset := by simp
  length_le := Nat.zero_le _
  numberOf_le := fun d => Nat.zero_le _
  last := fun d x h => by simp [lastOf] at h
  dropped := by simp

/-- The last cookie of a full domain is there. -/
theorem mem_of_full (h : Loaded l ps K) {d : String} (hfull : numberOf d K = l.perHost)
    {x : Cookie} (hx : lastOf d ps = some x) : x ∈ K := by
  by_contra hnot
  have hroom := (h.last d x hx hnot).1
  omega

/-! ### A full domain -/

section OfDomain

variable (hfull : numberOf c.domain K = l.perHost)
  (holdest : ∀ x ∈ K, x.domain = c.domain → v.created.nanos ≤ x.created.nanos)
  (hperm : (c :: K).Perm (v :: K'))

include hfull holdest hperm

/-- A cookie that a full jar has dropped is missing for the same reason after a full domain has put
    a cookie in the place of its oldest one. -/
theorem byJar_ofDomain (h : Loaded l ps K) {domains : Finset String}
    (hne : m.created.nanos ≠ v.created.nanos)
    (hjar : K.length = l.total) (holder : olderThan m K ≤ domains.card)
    (hmisplaced : ∀ d ∈ domains, Misplaced l ps m d) : Dropped l (ps ++ [c]) K' m := by
  have hlength : K'.length = l.total := by
    have hsame := hperm.length_eq
    simp only [List.length_cons] at hsame
    omega
  have hcount : olderThan m K + (decide (c.created.nanos < m.created.nanos)).toNat =
      olderThan m K' + (decide (v.created.nanos < m.created.nanos)).toNat :=
    countP_of_perm hperm _
  -- A full domain has its last cookie, and no older one than the cookie that leaves.
  have hlast : c.domain ∈ domains → v.created.nanos < m.created.nanos := by
    intro hc
    obtain ⟨x, hx, hlt⟩ := (hmisplaced c.domain hc).older
    have hle := holdest x (h.mem_of_full hfull hx) (mem_of_lastOf hx).2
    omega
  by_cases hcm : c.created.nanos < m.created.nanos
  · by_cases hvm : v.created.nanos < m.created.nanos
    · -- An older cookie comes for an older one.
      refine .byJar domains hlength ?_ fun d hd => (hmisplaced d hd).append hcm
      simp only [hcm, hvm, decide_true] at hcount
      omega
    · -- An older cookie comes to a domain that was full of younger ones.
      have hnot : c.domain ∉ domains := fun hc => hvm (hlast hc)
      have hall : youngerOf m c.domain K = numberOf c.domain K := by
        refine youngerOf_eq_numberOf fun x hx hd => ?_
        have hle := holdest x hx hd
        omega
      have hread := youngerOf_le_of_subset h.nodup h.subset m c.domain
      refine .byJar (domains.cons c.domain hnot) hlength ?_ ?_
      · rw [Finset.card_cons]
        simp only [hcm, hvm, decide_true, decide_false, Bool.toNat_true, Bool.toNat_false] at hcount
        omega
      · intro d hd
        cases Finset.mem_cons.1 hd with
        | inl hdc => exact hdc ▸ .append_self (by omega) hcm
        | inr hd => exact (hmisplaced d hd).append hcm
  · -- A younger cookie comes, so if its domain was misplaced, an older one has left.
    refine .byJar (domains.erase c.domain) hlength ?_ ?_
    · by_cases hc : c.domain ∈ domains
      · have hvm := hlast hc
        rw [Finset.card_erase_of_mem hc]
        simp only [hcm, hvm, decide_true, decide_false, Bool.toNat_true, Bool.toNat_false] at hcount
        omega
      · rw [Finset.erase_eq_of_notMem hc]
        simp only [hcm, decide_false, Bool.toNat_false] at hcount
        omega
    · intro d hd
      obtain ⟨hdc, hd⟩ := Finset.mem_erase.1 hd
      exact (hmisplaced d hd).append_of_ne hdc

/-- So is one that a full domain has dropped. -/
theorem byDomain_ofDomain (hnodup : (c :: K).Nodup) (hv : v ∈ K) (hdomain : v.domain = c.domain)
    (hne : m.created.nanos ≠ v.created.nanos)
    (hyounger : l.perHost ≤ youngerOf m m.domain K + 1)
    (holder : ∀ x ∈ K, x.domain = m.domain → x.created.nanos < m.created.nanos →
      lastOf m.domain ps = some x) : Dropped l (ps ++ [c]) K' m := by
  have hcount : youngerOf m m.domain K +
        (c.domain == m.domain && decide (m.created.nanos < c.created.nanos)).toNat =
      youngerOf m m.domain K' +
        (v.domain == m.domain && decide (m.created.nanos < v.created.nanos)).toNat :=
    countP_of_perm hperm _
  have hsub : ∀ x ∈ K', x = c ∨ x ∈ K := fun x hx =>
    List.mem_cons.1 (hperm.symm.subset (List.mem_cons_of_mem v hx))
  -- The cookie may belong to the domain of the missing one, or to another domain.
  by_cases hcd : c.domain = m.domain
  · by_cases hvm : v.created.nanos < m.created.nanos
    · -- The cookie that leaves is the only older one of the domain.
      have hnot : ¬ m.created.nanos < v.created.nanos := by omega
      simp only [hnot, decide_false, Bool.and_false, Bool.toNat_false] at hcount
      refine .of_last hcd (by omega) fun x hx hxd hxm => (hsub x hx).resolve_right fun hxK => ?_
      have hxlast := holder x hxK hxd hxm
      have hvlast := holder v hv (hdomain.trans hcd) hvm
      have hxv : x = v := Option.some.inj (hxlast.symm.trans hvlast)
      exact (List.nodup_cons.1 (hperm.nodup hnodup)).1 (hxv ▸ hx)
    · -- All cookies of the domain are younger, and one of them leaves.
      have hall : youngerOf m m.domain K = numberOf m.domain K := by
        refine youngerOf_eq_numberOf fun x hx hd => ?_
        have hle := holdest x hx (hd.trans hcd.symm)
        omega
      have hone := Bool.toNat_le
        (v.domain == m.domain && decide (m.created.nanos < v.created.nanos))
      rw [hcd] at hfull
      refine .of_last hcd (by omega) fun x hx hxd hxm => (hsub x hx).resolve_right fun hxK => ?_
      have hle := holdest x hxK (hxd.trans hcd.symm)
      omega
  · have hvd : ¬ v.domain = m.domain := fun h => hcd (hdomain.symm.trans h)
    simp only [beq_eq_false_iff_ne.2 hcd, beq_eq_false_iff_ne.2 hvd, Bool.false_and,
      Bool.toNat_false] at hcount
    exact .of_ne hcd (by omega) hsub holder

/-- The oldest cookie of a full domain is dropped. -/
theorem dropped_ofDomain (h : Loaded l ps K) (hv : v ∈ K) (hdomain : v.domain = c.domain)
    (hinj : ∀ x ∈ K, x.created.nanos = v.created.nanos → x = v) :
    Dropped l (ps ++ [c]) K' v := by
  have hcount : youngerOf v v.domain K +
        (c.domain == v.domain && decide (v.created.nanos < c.created.nanos)).toNat =
      youngerOf v v.domain K' +
        (v.domain == v.domain && decide (v.created.nanos < v.created.nanos)).toNat :=
    countP_of_perm hperm _
  simp only [Int.lt_irrefl, decide_false, Bool.and_false, Bool.toNat_false] at hcount
  -- All other cookies of the domain are younger, as no two are equally old.
  have hrest : numberOf v.domain K ≤ youngerOf v v.domain K + 1 := by
    refine numberOf_le_youngerOf h.nodup hv fun x hx hd hne => ?_
    have hle := holdest x hx (hd.trans hdomain)
    have hnot : x.created.nanos ≠ v.created.nanos := fun heq => hne (hinj x hx heq)
    omega
  rw [← hdomain] at hfull
  -- Of what is left in the domain, only the new cookie may be older.
  refine .of_last hdomain.symm (by omega) fun x hx hxd hxv => ?_
  have hxK := List.mem_cons.1 (hperm.symm.subset (List.mem_cons_of_mem v hx))
  refine hxK.resolve_right fun hxK => ?_
  have hle := holdest x hxK (hxd.trans hdomain)
  omega

/-- The invariant, when a full domain has put a cookie in the place of its oldest one. -/
theorem ofDomain (h : Loaded l ps K) (hc : c ∉ ps) (hinj : ∀ x ∈ ps, ∀ y ∈ ps,
    x.created.nanos = y.created.nanos → x = y) (hv : v ∈ K) (hdomain : v.domain = c.domain) :
    Loaded l (ps ++ [c]) K' := by
  have hnodup : (c :: K).Nodup := List.nodup_cons.2 ⟨fun hmem => hc (h.subset c hmem), h.nodup⟩
  have hnodup' := hperm.nodup hnodup
  have hlength := hperm.length_eq
  simp only [List.length_cons] at hlength
  -- As many cookies of each domain as before.
  have hnumber : ∀ d, numberOf d K' = numberOf d K := by
    intro d
    have hcount : numberOf d K + (c.domain == d).toNat = numberOf d K' + (v.domain == d).toNat :=
      countP_of_perm hperm _
    rw [hdomain] at hcount
    omega
  have hmem : ∀ x, x ∈ v :: K' ↔ x ∈ c :: K := fun x => hperm.symm.mem_iff
  have hcK : c ∈ K' := by
    refine (List.mem_cons.1 ((hmem c).2 (by simp))).resolve_left fun hcv => ?_
    exact hc (h.subset c (hcv ▸ hv))
  constructor
  · -- Nothing is there twice, and nothing that was not read.
    exact (List.nodup_cons.1 hnodup').2
  · intro x hx
    cases List.mem_cons.1 ((hmem x).1 (List.mem_cons_of_mem v hx)) with
    | inl hxc => simp [hxc]
    | inr hxK => exact List.mem_append_left [c] (h.subset x hxK)
  · have hle := h.length_le
    omega
  · intro d
    rw [hnumber]
    exact h.numberOf_le d
  · -- The last cookie of a domain: the new one for its domain, and the same as before for the
    -- others.
    intro d x hlast hx
    rw [lastOf_append] at hlast
    split at hlast
    · exact absurd (Option.some.inj hlast ▸ hcK) hx
    · rename_i hcd
      have hxK : x ∉ K := by
        intro hxK
        cases List.mem_cons.1 ((hmem x).2 (List.mem_cons_of_mem c hxK)) with
        | inl hxv => exact hcd ((hdomain.symm.trans (hxv ▸ rfl)).trans (mem_of_lastOf hlast).2)
        | inr hxK' => exact hx hxK'
      obtain ⟨hroom, hmore⟩ := h.last d x hlast hxK
      rw [hnumber, List.length_append]
      exact ⟨hroom, by omega⟩
  · -- A missing cookie has just left, or was missing before for a reason that is still good.
    intro m hm hmK'
    have hmc : m ≠ c := fun heq => hmK' (heq ▸ hcK)
    have hmps : m ∈ ps := by simpa [hmc] using hm
    by_cases hmv : m = v
    · subst hmv
      exact dropped_ofDomain hfull holdest hperm h hv hdomain fun x hx heq =>
        hinj x (h.subset x hx) m hmps heq
    · have hmK : m ∉ K := by
        intro hmK
        exact hmK' ((List.mem_cons.1 ((hmem m).2 (List.mem_cons_of_mem c hmK))).resolve_left hmv)
      have hne : m.created.nanos ≠ v.created.nanos := fun heq =>
        hmv (hinj m hmps v (h.subset v hv) heq)
      cases h.dropped m hmps hmK with
      | byJar domains hjar holder hmisplaced =>
        exact byJar_ofDomain hfull holdest hperm h hne hjar holder hmisplaced
      | byDomain hyounger holder =>
        exact byDomain_ofDomain hfull holdest hperm hnodup hv hdomain hne hyounger holder

end OfDomain

/-! ### A domain with room -/

section Room

variable (h : Loaded l ps K) (hroom : numberOf c.domain K < l.perHost)

include h hroom

/-- The invariant, when a cookie has come and none has left. -/
theorem fits (hc : c ∉ ps) (hspace : K.length < l.total) (hperm : (c :: K).Perm K') :
    Loaded l (ps ++ [c]) K' := by
  have hnodup : (c :: K).Nodup := List.nodup_cons.2 ⟨fun hmem => hc (h.subset c hmem), h.nodup⟩
  have hlength := hperm.length_eq
  rw [List.length_cons] at hlength
  have hmem : ∀ x, x ∈ K' ↔ x = c ∨ x ∈ K := fun x => hperm.symm.mem_iff.trans List.mem_cons
  -- Only the domain of the new cookie has one more.
  have hnumber : ∀ d, numberOf d K' = numberOf d K + if c.domain = d then 1 else 0 := by
    intro d
    rw [numberOf, ← hperm.countP_eq, List.countP_cons]
    simp [numberOf]
  constructor
  · exact hperm.nodup hnodup
  · intro x hx
    cases (hmem x).1 hx with
    | inl hxc => simp [hxc]
    | inr hxK => exact List.mem_append_left [c] (h.subset x hxK)
  · omega
  · intro d
    have hle := h.numberOf_le d
    rw [hnumber]
    split
    · rename_i hcd
      rw [hcd] at hroom
      omega
    · omega
  · -- The new cookie is there, so a last cookie that is missing is one of another domain.
    intro d x hlast hx
    rw [lastOf_append] at hlast
    split at hlast
    · exact absurd ((hmem x).2 (.inl (Option.some.inj hlast).symm)) hx
    · rename_i hcd
      obtain ⟨hless, hmore⟩ := h.last d x hlast fun hxK => hx ((hmem x).2 (.inr hxK))
      rw [hnumber, if_neg hcd, List.length_append]
      exact ⟨hless, by omega⟩
  · intro m hm hmK'
    have hmc : m ≠ c := fun heq => hmK' ((hmem m).2 (.inl heq))
    have hmps : m ∈ ps := by simpa [hmc] using hm
    cases h.dropped m hmps fun hmK => hmK' ((hmem m).2 (.inr hmK)) with
    -- The jar had room, so no cookie was dropped because the jar was full.
    | byJar domains hjar _ _ => omega
    | byDomain hyounger holder =>
      refine .of_room hroom hyounger holder (fun x hx => (hmem x).1 hx) ?_
      rw [youngerOf, youngerOf, ← hperm.countP_eq, List.countP_cons]
      omega

section OfJar

variable (hfull : K.length = l.total) (holdest : ∀ x ∈ c :: K, v.created.nanos ≤ x.created.nanos)
  (hperm : (c :: K).Perm (v :: K'))

include hfull holdest hperm

/-- A cookie that was dropped before is missing still for a reason after a full jar has dropped
    another one. -/
theorem dropped_ofJar (hmps : m ∈ ps) (hmK : m ∉ K) :
    Dropped l (ps ++ [c]) K' m := by
  have hlength := hperm.length_eq
  simp only [List.length_cons] at hlength
  have hsub : ∀ x ∈ K', x = c ∨ x ∈ K := fun x hx =>
    List.mem_cons.1 (hperm.symm.subset (List.mem_cons_of_mem v hx))
  by_cases hvm : v.created.nanos < m.created.nanos
  · -- An older cookie has left, but the reason that `m` is missing remains.
    cases h.dropped m hmps hmK with
    | byJar domains hjar holder hmisplaced =>
      have hcount : olderThan m K + (decide (c.created.nanos < m.created.nanos)).toNat =
          olderThan m K' + (decide (v.created.nanos < m.created.nanos)).toNat :=
        countP_of_perm hperm _
      by_cases hcm : c.created.nanos < m.created.nanos
      · refine .byJar domains (by omega) ?_ fun d hd => (hmisplaced d hd).append hcm
        simp only [hcm, hvm, decide_true] at hcount
        omega
      · -- The domain of a younger cookie is not misplaced any more, but an older cookie has left.
        simp only [hcm, hvm, decide_true, decide_false, Bool.toNat_true, Bool.toNat_false] at hcount
        refine .byJar (domains.erase c.domain) (by omega) ?_ ?_
        · have hcard := Finset.pred_card_le_card_erase (s := domains) (a := c.domain)
          omega
        · intro d hd
          obtain ⟨hdc, hd⟩ := Finset.mem_erase.1 hd
          exact (hmisplaced d hd).append_of_ne hdc
    | byDomain hyounger holder =>
      have hcount : youngerOf m m.domain K +
            (c.domain == m.domain && decide (m.created.nanos < c.created.nanos)).toNat =
          youngerOf m m.domain K' +
            (v.domain == m.domain && decide (m.created.nanos < v.created.nanos)).toNat :=
        countP_of_perm hperm _
      have hnot : ¬ m.created.nanos < v.created.nanos := by omega
      simp only [hnot, decide_false, Bool.and_false, Bool.toNat_false] at hcount
      exact .of_room hroom hyounger holder hsub (by omega)
  · -- The oldest of all cookies is younger.
    refine .of_forall_le (by omega) fun x hx => ?_
    have hle := holdest x (List.mem_cons.2 (hsub x hx))
    omega

/-- The invariant, when a full jar has dropped its oldest cookie. -/
theorem ofJar (hc : c ∉ ps) : Loaded l (ps ++ [c]) K' := by
  have hnodup : (c :: K).Nodup := List.nodup_cons.2 ⟨fun hmem => hc (h.subset c hmem), h.nodup⟩
  have hlength := hperm.length_eq
  simp only [List.length_cons] at hlength
  have hread := (List.subperm_of_subset h.nodup h.subset).length_le
  have hmem : ∀ x, x ∈ v :: K' ↔ x ∈ c :: K := fun x => hperm.symm.mem_iff
  have hsub : ∀ x ∈ c :: K, x ∈ ps ++ [c] := by
    intro x hx
    cases List.mem_cons.1 hx with
    | inl hxc => simp [hxc]
    | inr hxK => exact List.mem_append_left [c] (h.subset x hxK)
  have hnumber : ∀ d, numberOf d K + (c.domain == d).toNat =
      numberOf d K' + (v.domain == d).toNat := fun d => countP_of_perm hperm _
  constructor
  · exact (List.nodup_cons.1 (hperm.nodup hnodup)).2
  · exact fun x hx => hsub x ((hmem x).1 (List.mem_cons_of_mem v hx))
  · omega
  · -- The domain of the new cookie had room for it.
    intro d
    have hd := hnumber d
    have hle := h.numberOf_le d
    by_cases hcd : c.domain = d
    · rw [hcd] at hroom
      simp only [hcd, beq_self_eq_true, Bool.toNat_true] at hd
      omega
    · simp only [beq_eq_false_iff_ne.2 hcd, Bool.toNat_false] at hd
      omega
  · -- A last cookie is missing only if the jar was full and its domain has room.
    intro d x hlast hx
    have hd := hnumber d
    have hxv : x ∈ c :: K → x = v := fun hxK =>
      (List.mem_cons.1 ((hmem x).2 hxK)).resolve_right hx
    rw [List.length_append, List.length_singleton]
    refine ⟨?_, by omega⟩
    rw [lastOf_append] at hlast
    split at hlast
    · -- The new cookie itself has left.
      rename_i hcd
      obtain rfl := Option.some.inj hlast
      rw [hxv (by simp)] at hd hcd hroom
      rw [hcd] at hroom
      omega
    · rename_i hcd
      simp only [beq_eq_false_iff_ne.2 hcd, Bool.toNat_false] at hd
      by_cases hxK : x ∈ K
      · have hvd : v.domain = d := hxv (List.mem_cons_of_mem c hxK) ▸ (mem_of_lastOf hlast).2
        have hle := h.numberOf_le d
        simp only [hvd, beq_self_eq_true, Bool.toNat_true] at hd
        omega
      · have hless := (h.last d x hlast hxK).1
        omega
  · -- The cookie that has just left was the oldest of all.
    intro m hm hmK'
    by_cases hmv : m = v
    · subst hmv
      refine .of_forall_le (by omega) fun x hx => ?_
      exact holdest x ((hmem x).1 (List.mem_cons_of_mem m hx))
    · have hnot : m ∉ c :: K := fun hmK =>
        hmv ((List.mem_cons.1 ((hmem m).2 hmK)).resolve_right hmK')
      rw [List.mem_cons, not_or] at hnot
      have hmps : m ∈ ps := by simpa [hnot.1] using hm
      exact dropped_ofJar h hroom hfull holdest hperm hmps hnot.2

end OfJar

end Room

/-- Storing a cookie keeps the invariant. -/
theorem step (h : Loaded l ps K) (ht : Turnover l K c K')
    (htimes : ((ps ++ [c]).map (·.created.nanos)).Nodup) : Loaded l (ps ++ [c]) K' := by
  -- Cookies are told apart by their creation times.
  have hinj : ∀ x ∈ ps ++ [c], ∀ y ∈ ps ++ [c], x.created.nanos = y.created.nanos → x = y :=
    fun x hx y hy heq => List.inj_on_of_nodup_map htimes hx hy heq
  have hc : c ∉ ps := by
    have hnodup := List.Nodup.of_map _ htimes
    rw [List.nodup_append_comm, List.singleton_append, List.nodup_cons] at hnodup
    exact hnodup.1
  cases ht with
  | ofDomain hfull hv hdomain holdest hperm =>
    exact ofDomain hfull holdest hperm h hc (fun x hx y hy heq =>
      hinj x (List.mem_append_left [c] hx) y (List.mem_append_left [c] hy) heq) hv hdomain
  | fits hroom hspace hperm => exact h.fits hroom hc hspace hperm
  | ofJar hroom hfull _ holdest hperm => exact h.ofJar hroom hfull holdest hperm hc

end Loaded

/-! ## Loading a list -/

/-- A jar without cookies that stores cookies with different keys and of different ages, one after
    another. -/
theorem loaded_foldl_insert (l : Limits) {cs : List Cookie} (hkeys : (cs.map Cookie.key).Nodup)
    (htimes : (cs.map (·.created.nanos)).Nodup) :
    Loaded l cs (cs.foldl insert (empty l)).cookies := by
  -- From the end, as the invariant is about what has been read so far.
  induction cs using List.reverseRecOn with
  | nil => exact .nil l
  | append_singleton ps c ih =>
    obtain ⟨hvalid, hlimits⟩ := (valid_empty l).foldl_insert ps
    have hsub : ps.Sublist (ps ++ [c]) := List.sublist_append_left ps [c]
    have hloaded := ih ((hsub.map _).nodup hkeys) ((hsub.map _).nodup htimes)
    have hnew : ∀ d ∈ (ps.foldl insert (empty l)).cookies, d.key ≠ c.key := by
      intro d hd heq
      rw [List.map_append, List.map_singleton, List.nodup_append_comm, List.singleton_append,
        List.nodup_cons] at hkeys
      exact hkeys.1 (heq ▸ List.mem_map_of_mem (hloaded.subset d hd))
    -- The new cookie is one turnover more.
    have hturnover := turnover_insert hvalid hnew
    rw [hlimits] at hturnover
    rw [List.foldl_append]
    exact hloaded.step hturnover htimes

/-- No cookie of a list that is missing from the jar is younger than one of its domain that is
    there. -/
def EvictsOldestFirst (cs : List Cookie) (j : Jar) : Prop :=
  ∀ m ∈ cs, m ∉ j.cookies → ∀ k ∈ j.cookies, k.domain = m.domain →
    ¬ k.created.nanos < m.created.nanos

/-- The last cookie of a domain in a list is among the youngest ones of the domain, as many as the
    domain may have. -/
def LastIsYoung (l : Limits) (cs : List Cookie) (domain : String) : Prop :=
  ∀ x, lastOf domain cs = some x → youngerOf x domain cs < l.perHost

namespace Loaded

variable {cs : List Cookie} {j : Jar}

/-- If the last cookies are among the youngest, nothing was dropped for an older one. -/
theorem evictsOldestFirst (h : Loaded l cs j.cookies) (hyoung : ∀ d, LastIsYoung l cs d) :
    EvictsOldestFirst cs j := by
  intro m hm hmissing k hk hdomain hkm
  cases h.dropped m hm hmissing with
  | byJar domains hfull holder hmisplaced =>
    -- Some older cookie is there, so some domain is misplaced.
    have hpos : 0 < olderThan m j.cookies := List.countP_pos_iff.2 ⟨k, hk, by simpa using hkm⟩
    obtain ⟨d, hd⟩ := Finset.card_pos.1 (Nat.lt_of_lt_of_le hpos holder)
    obtain ⟨hmany, x, hx, hxm⟩ := hmisplaced d hd
    have hless := hyoung d x hx
    have hmono : youngerOf m d cs ≤ youngerOf x d cs := by
      refine List.countP_mono_left fun y _ hy => ?_
      simp only [Bool.and_eq_true, decide_eq_true_eq] at hy ⊢
      exact ⟨hy.1, by omega⟩
    omega
  | byDomain hyounger holder =>
    -- The older cookie is the last one, and `m` is one more that is younger.
    have hless := hyoung m.domain k (holder k hk hdomain hkm)
    have hnodup : (m :: j.cookies).Nodup := List.nodup_cons.2 ⟨hmissing, h.nodup⟩
    have hread := youngerOf_le_of_subset hnodup (List.forall_mem_cons.2 ⟨hm, h.subset⟩) k m.domain
    have hmono : youngerOf m m.domain j.cookies ≤ youngerOf k m.domain j.cookies := by
      refine List.countP_mono_left fun y _ hy => ?_
      simp only [Bool.and_eq_true, decide_eq_true_eq] at hy ⊢
      exact ⟨hy.1, by omega⟩
    have hone : youngerOf k m.domain (m :: j.cookies) = youngerOf k m.domain j.cookies + 1 := by
      simp [youngerOf, hkm]
    omega

/-- A last cookie that is not among the youngest takes the place of a younger one. -/
theorem exists_younger_missing (h : Loaded l cs j.cookies) (hnodup : cs.Nodup) {d : String}
    {x : Cookie} (hx : lastOf d cs = some x) (hmany : l.perHost ≤ youngerOf x d cs)
    (hkept : x ∈ j.cookies) :
    ∃ m ∈ cs, m ∉ j.cookies ∧ m.domain = d ∧ x.created.nanos < m.created.nanos := by
  by_contra hnone
  -- Otherwise all younger ones are there, and `x` is one cookie too many.
  have hall : youngerOf x d cs ≤ youngerOf x d j.cookies := by
    rw [youngerOf, youngerOf, List.countP_eq_length_filter, List.countP_eq_length_filter]
    refine (List.subperm_of_subset (hnodup.filter _) fun m hm => ?_).length_le
    obtain ⟨hmem, hyounger⟩ := List.mem_filter.1 hm
    refine List.mem_filter.2 ⟨?_, hyounger⟩
    simp only [Bool.and_eq_true, beq_iff_eq, decide_eq_true_eq] at hyounger
    by_contra hmissing
    exact hnone ⟨m, hmem, hmissing, hyounger⟩
  have hlt := youngerOf_lt_numberOf hkept (mem_of_lastOf hx).2 (Int.le_refl x.created.nanos)
  have hle := h.numberOf_le d
  omega

/-- The last cookies of a list that is not longer than the jar may be are there. -/
theorem last_mem (h : Loaded l cs j.cookies) (hlength : cs.length ≤ l.total) {d : String}
    {x : Cookie} (hx : lastOf d cs = some x) : x ∈ j.cookies := by
  by_contra hmissing
  have hmore := (h.last d x hx hmissing).2
  omega

end Loaded

/-- Cookies with different keys and of different ages, none of which has expired, are loaded so that
    of each domain the oldest ones are missing, if the last cookie of every domain in the list is
    among the youngest ones of its domain, as many as a domain may have.

    A last cookie that is not, and has not been dropped by a full jar, takes the place of a younger
    one of its domain. So for a list that is not longer than the jar may be, the oldest ones are
    missing exactly if all last cookies are among the youngest. -/
theorem load_evicts_oldest_first (perHost total : Nat) {cs : List Cookie} {now : Int}
    (hfresh : ∀ c ∈ cs, c.isExpired now = false) (hkeys : (cs.map Cookie.key).Nodup)
    (htimes : (cs.map (·.created.nanos)).Nodup) :
    let l := Limits.of perHost total
    let j := (empty l).load cs now
    ((∀ d, LastIsYoung l cs d) → EvictsOldestFirst cs j) ∧
      (∀ d x, lastOf d cs = some x → l.perHost ≤ youngerOf x d cs → x ∈ j.cookies →
        ∃ m ∈ cs, m ∉ j.cookies ∧ m.domain = x.domain ∧ x.created.nanos < m.created.nanos) ∧
      (cs.length ≤ l.total → (EvictsOldestFirst cs j ↔ ∀ d, LastIsYoung l cs d)) := by
  intro l j
  have hall : cs.filter (!·.isExpired now) = cs := by
    rw [List.filter_eq_self]
    intro c hc
    rw [hfresh c hc]
    rfl
  -- None of the cookies has expired, so all of them are stored.
  have hj : j = cs.foldl insert (empty l) := by simp only [j, load, hall]
  have hloaded : Loaded l cs j.cookies := hj ▸ loaded_foldl_insert l hkeys htimes
  have htakes : ∀ d x, lastOf d cs = some x → l.perHost ≤ youngerOf x d cs → x ∈ j.cookies →
      ∃ m ∈ cs, m ∉ j.cookies ∧ m.domain = x.domain ∧ x.created.nanos < m.created.nanos := by
    intro d x hx hmany hkept
    rw [(mem_of_lastOf hx).2]
    exact hloaded.exists_younger_missing (List.Nodup.of_map _ hkeys) hx hmany hkept
  refine ⟨hloaded.evictsOldestFirst, htakes, fun hlength => ⟨?_, hloaded.evictsOldestFirst⟩⟩
  -- For the converse, a last cookie that is too old stays and takes the place of a younger one.
  intro hevicts d x hx
  by_contra hmany
  have hkept := hloaded.last_mem hlength hx
  obtain ⟨m, hm, hmissing, hdomain, hxm⟩ := htakes d x hx (Nat.le_of_not_lt hmany) hkept
  exact hevicts m hm hmissing x hkept hdomain.symm hxm

/-- A session cookie that was created at a time. -/
def createdAt (name : String) (nanos : Int) : Cookie :=
  ⟨name, "1", "b.c", "/", true, false, false, none, none, .utc nanos⟩

/-- A younger cookie takes the place of an older one that came before it. -/
theorem load_evicts_oldest_first_younger_last :
    EvictsOldestFirst [createdAt "old" 5, createdAt "new" 10]
      ((empty (.of 1 3)).load [createdAt "old" 5, createdAt "new" 10] 20) := by
  obtain ⟨holdest, -, -⟩ := @load_evicts_oldest_first 1 3
    [createdAt "old" 5, createdAt "new" 10] 20 (by decide) (by decide) (by decide)
  -- The last cookie of the domain is the younger one, so `load_evicts_oldest_first` applies.
  refine holdest fun d x hx => ?_
  obtain ⟨hmem, rfl⟩ := mem_of_lastOf hx
  have hdomain : ∀ c ∈ [createdAt "old" 5, createdAt "new" 10], c.domain = "b.c" := by decide
  rw [hdomain x hmem] at hx ⊢
  have hlast : lastOf "b.c" [createdAt "old" 5, createdAt "new" 10] =
      some (createdAt "new" 10) := by decide
  obtain rfl := Option.some.inj (hx.symm.trans hlast)
  decide

/-- An older cookie takes the place of a younger one that came before it. -/
theorem load_evicts_a_younger_cookie :
    ¬ EvictsOldestFirst [createdAt "new" 10, createdAt "old" 5]
      ((empty (.of 1 3)).load [createdAt "new" 10, createdAt "old" 5] 20) := by
  intro h
  exact h (createdAt "new" 10) (by decide) (by decide) (createdAt "old" 5) (by decide) rfl
    (by decide)

end Jar

end HttpState
