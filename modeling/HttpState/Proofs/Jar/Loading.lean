import HttpState.Proofs.Jar.Contents
import HttpState.Proofs.Jar.Snapshot

/-!
# Loading without a loss

A jar leaves out cookies where they are too many, and merges those with the same key. A list that
comes from a jar with the same limits gives it no reason to: the list fits, and so does every
beginning of it, so each cookie finds room for itself.

## Key results

- `Valid.fits`: the cookies of a jar fit its limits
- `cookies_insert_perm`: storing a cookie that fits
- `load_snapshot`: a snapshot is loaded as a whole, and becomes the snapshot of the new jar
-/

namespace HttpState

/-- A jar with these limits has room for these cookies. -/
structure Limits.Fits (l : Limits) (cs : List Cookie) : Prop where
  keys_nodup : (cs.map Cookie.key).Nodup
  perHost_le : ∀ d, (cs.filter (·.domain == d)).length ≤ l.perHost
  total_le : cs.length ≤ l.total

variable {l : Limits} {cs ds : List Cookie}

/-- Whether cookies fit does not depend on their order. -/
theorem Limits.Fits.of_perm (h : l.Fits cs) (hperm : ds.Perm cs) : l.Fits ds where
  keys_nodup := (hperm.map Cookie.key).nodup_iff.2 h.keys_nodup
  perHost_le := fun d => (hperm.filter (·.domain == d)).length_eq ▸ h.perHost_le d
  total_le := hperm.length_eq ▸ h.total_le

/-- Some of the cookies that fit fit as well. -/
theorem Limits.Fits.of_sublist (h : l.Fits cs) (hsub : ds.Sublist cs) : l.Fits ds where
  keys_nodup := (hsub.map Cookie.key).nodup h.keys_nodup
  perHost_le := fun d => Nat.le_trans (hsub.filter (·.domain == d)).length_le (h.perHost_le d)
  total_le := Nat.le_trans hsub.length_le h.total_le

namespace Jar

/-- The cookies of a jar fit its limits. -/
theorem Valid.fits {j : Jar} (hv : j.Valid) : j.limits.Fits j.cookies where
  keys_nodup := hv.buckets.keys_nodup
  perHost_le := by
    intro d
    have hfind := hv.buckets.find_eq_filter d
    rw [Bucket.contents] at hfind
    rw [cookies, ← hfind]
    by_cases hne : Bucket.find d j.buckets = []
    · simp [hne]
    · exact (hv.buckets.valid_find hne).length_le
  total_le := hv.count_le

/-! ## Storing cookies that fit -/

/-- A cookie whose key is not there is not merged with another one. -/
theorem replace?_eq_none_of_fits {j : Jar} (hv : j.Valid) {c : Cookie}
    (h : j.limits.Fits (c :: j.cookies)) :
    Bucket.replace? c (Bucket.find c.domain j.buckets) = none := by
  rw [Bucket.replace?_eq_none]
  intro d hd
  have hnot := h.keys_nodup
  rw [List.map_cons, List.nodup_cons] at hnot
  cases hsame : Bucket.sameKey c d with
  | false => rfl
  | true =>
    -- A cookie of the bucket with the same name and path would have the same key.
    obtain ⟨hname, hpath⟩ := Bucket.sameKey_iff.1 hsame
    have hdomain := hv.buckets.domain_of_mem_find hd
    have hkey : d.key = c.key := by
      rw [Cookie.key, Cookie.key, hname, hpath, hdomain]
    have hmem : d ∈ j.cookies := mem_of_mem_find hd
    exact absurd (hkey ▸ List.mem_map_of_mem hmem) hnot.1

/-- A cookie that fits is added, and no other one goes. -/
theorem cookies_insert_perm {j : Jar} (hv : j.Valid) {c : Cookie}
    (h : j.limits.Fits (c :: j.cookies)) : (j.insert c).cookies.Perm (c :: j.cookies) := by
  have hnew := replace?_eq_none_of_fits hv h
  have hroom : (Bucket.find c.domain j.buckets).length < j.limits.perHost := by
    have hhost := h.perHost_le c.domain
    rw [List.filter_cons_of_pos (by simp), List.length_cons] at hhost
    rw [hv.buckets.find_eq_filter]
    exact hhost
  -- The bucket has room, so it keeps its cookies and gets one more.
  have hpush : (j.push c).cookies.Perm (c :: j.cookies) := by
    have hset := Bucket.perm_set c.domain (Bucket.find c.domain j.buckets ++ [c]) j.buckets
    have hmiddle : (Bucket.find c.domain j.buckets ++ [c] ++ j.cookies).Perm
        (c :: j.cookies ++ Bucket.find c.domain j.buckets) := by
      rw [List.append_assoc]
      exact List.perm_append_comm
    simp only [push, cookies, Bucket.makeRoom_of_lt hroom]
    exact (List.perm_append_right_iff _).1 (hset.trans hmiddle)
  -- The jar has room, so nothing is dropped afterwards.
  have htotal : (j.push c).enforceTotal = j.push c := by
    have hlen := hpush.length_eq
    have hle := h.total_le
    rw [enforceTotal, count, show (j.push c).limits = j.limits from rfl,
      show (j.push c).cookies.length - j.limits.total = 0 by omega]
    rfl
  rw [insert_of_new hnew, htotal]
  exact hpush

/-- Cookies that fit are added one after another. -/
theorem cookies_foldl_insert_perm {j : Jar} (hv : j.Valid) {cs : List Cookie}
    (h : j.limits.Fits (j.cookies ++ cs)) :
    (cs.foldl insert j).cookies.Perm (j.cookies ++ cs) := by
  induction cs generalizing j with
  | nil => simp
  | cons c cs ih =>
    have hfirst : j.limits.Fits (c :: j.cookies) := by
      have hsub : (j.cookies ++ [c]).Sublist (j.cookies ++ c :: cs) :=
        List.Sublist.append_left (List.cons_sublist_cons.2 (List.nil_sublist cs)) _
      have hswap : ([c] ++ j.cookies).Perm (j.cookies ++ [c]) := List.perm_append_comm
      exact (h.of_sublist hsub).of_perm hswap
    have hinsert := cookies_insert_perm hv hfirst
    -- What the jar holds and what is still to come is the same list as before, in another order.
    have hmove : ((j.insert c).cookies ++ cs).Perm (j.cookies ++ c :: cs) :=
      (hinsert.append_right cs).trans List.perm_middle.symm
    refine (ih (hv.insert c) ?_).trans hmove
    rw [limits_insert hv]
    exact h.of_perm hmove

/-! ## Snapshots -/

/-- What a snapshot of a jar with these limits looks like. -/
structure IsSnapshot (l : Limits) (cs : List Cookie) : Prop where
  fits : l.Fits cs
  persistent : ∀ c ∈ cs, c.isPersistent = true
  sorted : cs.Pairwise fun a b => a.key.le b.key = true

/-- No cookies are a snapshot. -/
theorem isSnapshot_nil (l : Limits) : IsSnapshot l [] :=
  ⟨⟨by simp, by simp, by simp⟩, by simp, by simp⟩

/-- A snapshot of a jar fits its limits, holds persistent cookies only and is sorted. -/
theorem isSnapshot_snapshot {j : Jar} (hv : j.Valid) (now : Int) :
    IsSnapshot j.limits (j.snapshot now) where
  fits := (hv.fits.of_sublist List.filter_sublist).of_perm (snapshot_perm j now)
  persistent := by
    intro c hc
    -- A cookie in the snapshot is one that is saved.
    have hsaved := (List.mem_filter.1 ((snapshot_perm j now).subset hc)).2
    simp only [Cookie.isSaved, Bool.and_eq_true] at hsaved
    exact hsaved.1
  sorted := pairwise_snapshot j now

/-- A snapshot is loaded as a whole, but for what has expired since it was taken, and becomes the
    snapshot of the new jar. -/
theorem load_snapshot {l : Limits} {cs : List Cookie} (h : IsSnapshot l cs) (now : Int) :
    ((empty l).load cs now).cookies.Perm (cs.filter (!·.isExpired now)) ∧
      ((empty l).load cs now).snapshot now = cs.filter (!·.isExpired now) := by
  have hfits : l.Fits (cs.filter (!·.isExpired now)) := h.fits.of_sublist List.filter_sublist
  have hperm : ((empty l).load cs now).cookies.Perm (cs.filter (!·.isExpired now)) :=
    cookies_foldl_insert_perm (valid_empty l) hfits
  have hvalid : ((empty l).load cs now).Valid := ((valid_empty l).foldl_insert _).1
  refine ⟨hperm, snapshot_eq_of_perm hvalid ?_ (h.sorted.filter _)⟩
  -- All cookies of a snapshot are persistent, so nothing is left out of the new one.
  have hpersistent : ∀ c ∈ cs.filter (!·.isExpired now), c.isPersistent = true :=
    fun c hc => h.persistent c (List.mem_of_mem_filter hc)
  have hsaved := hperm.filter (·.isSaved now)
  rw [Cookie.filter_isSaved_of_persistent hpersistent] at hsaved
  exact hsaved.symm

end Jar

end HttpState
