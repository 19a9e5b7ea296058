import HttpState.Proofs.Jar.Invariant
import HttpState.Proofs.List

/-!
# Snapshots of a jar

The persistent cookies of a jar that have not expired, in the order of their keys. No two cookies of
a jar have the same key, so there is only one such order: a snapshot is determined by which cookies
are in it, and taking it again later leaves out what has expired since then.

Changes that leave the number of cookies as it is are looked at as well: removing cookies then
removes none.

## Key results

- `snapshot_eq_of_perm`: a list of these cookies in the order of their keys is the snapshot
- `filter_snapshot`: a snapshot at a later time
- `receive_of_count_eq`: a header value that stores no cookie and removes none leaves the jar as
  it is
-/

namespace HttpState

namespace Cookie

/-! ## The order of keys -/

/-- Keys are compared by domain, path and name in turn, so their order is transitive. -/
theorem Key.le_trans (a b c : Key) (hab : a.le b = true) (hbc : b.le c = true) :
    a.le c = true := by
  unfold Key.le at *
  grind

/-- Any two keys can be compared. -/
theorem Key.le_total (a b : Key) : (a.le b || b.le a) = true := by
  unfold Key.le
  grind

/-- Keys that are not greater than each other are equal. -/
theorem Key.le_antisymm {a b : Key} (hab : a.le b = true) (hba : b.le a = true) : a = b := by
  unfold Key.le at *
  -- The parts are equal one after the other.
  have hdomain : a.domain = b.domain := by grind
  have hpath : a.path = b.path := by grind
  have hname : a.name = b.name := by grind
  cases a
  cases b
  simp_all

/-- Cookies are in the order of their keys, and no two of them have the same one. -/
def InKeyOrder (cs : List Cookie) : Prop :=
  cs.Pairwise fun a b => a.key.le b.key = true ∧ a.key ≠ b.key

/-- A part of a list in the order of keys is in the order of keys. -/
theorem InKeyOrder.filter {cs : List Cookie} (h : InKeyOrder cs) (p : Cookie → Bool) :
    InKeyOrder (cs.filter p) :=
  List.Pairwise.filter p h

/-! ## Time -/

/-- What has expired stays expired. -/
theorem isExpired_of_le {c : Cookie} {now later : Int} (h : now ≤ later)
    (hc : c.isExpired now = true) : c.isExpired later = true := by
  unfold isExpired at *
  split at hc
  · simp only [decide_eq_true_eq] at hc ⊢
    omega
  · exact nomatch hc

/-- Leaving out what has expired now does not matter later. -/
theorem filter_isExpired_of_le {now later : Int} (h : now ≤ later) (cs : List Cookie) :
    (cs.filter (!·.isExpired now)).filter (!·.isExpired later) =
      cs.filter (!·.isExpired later) := by
  rw [List.filter_filter]
  congr 1
  funext c
  cases hc : c.isExpired now with
  | true => simp [isExpired_of_le h hc]
  | false => simp

/-- A cookie that a snapshot has. -/
def isSaved (now : Int) (c : Cookie) : Bool := c.isPersistent && !c.isExpired now

/-- Of persistent cookies a snapshot has all that have not expired. -/
theorem filter_isSaved_of_persistent {cs : List Cookie} {now : Int}
    (h : ∀ c ∈ cs.filter (!·.isExpired now), c.isPersistent = true) :
    (cs.filter (!·.isExpired now)).filter (·.isSaved now) = cs.filter (!·.isExpired now) := by
  rw [List.filter_eq_self]
  intro c hc
  rw [isSaved, h c hc, Bool.true_and]
  exact (List.mem_filter.1 hc).2

/-- What is saved and has not expired later is what would be saved later. -/
theorem isSaved_later {c : Cookie} {now later : Int} (h : now ≤ later) :
    (c.isSaved now && !c.isExpired later) = c.isSaved later := by
  unfold isSaved
  cases hnow : c.isExpired now with
  | true => simp [isExpired_of_le h hnow]
  | false => simp

end Cookie

namespace Jar

/-! ## Snapshots -/

/-- The cookies of a snapshot are those of the jar that are to be saved. -/
theorem snapshot_perm (j : Jar) (now : Int) :
    (j.snapshot now).Perm (j.cookies.filter (·.isSaved now)) :=
  List.mergeSort_perm _ _

/-- A snapshot is sorted by key. -/
theorem pairwise_snapshot (j : Jar) (now : Int) :
    (j.snapshot now).Pairwise fun a b => a.key.le b.key = true :=
  List.pairwise_mergeSort (fun a b c => Cookie.Key.le_trans a.key b.key c.key)
    (fun a b => Cookie.Key.le_total a.key b.key) _

/-- No key stands twice in a snapshot, so its order is strict. -/
theorem inKeyOrder_snapshot {j : Jar} (hv : j.Valid) (now : Int) :
    Cookie.InKeyOrder (j.snapshot now) := by
  have hkeys : ((j.snapshot now).map Cookie.key).Nodup := by
    refine (((snapshot_perm j now).map Cookie.key).nodup_iff).2 ?_
    exact hv.buckets.keys_nodup.sublist (List.filter_sublist.map Cookie.key)
  exact (pairwise_snapshot j now).and (List.pairwise_map.1 hkeys)

/-- A list of the cookies that are to be saved is the snapshot if it is in the order of the keys. -/
theorem snapshot_eq_of_perm {j : Jar} (hv : j.Valid) {now : Int} {cs : List Cookie}
    (hperm : cs.Perm (j.cookies.filter (·.isSaved now)))
    (hsorted : cs.Pairwise fun a b => a.key.le b.key = true) : j.snapshot now = cs := by
  refine List.mergeSort_eq_of_perm (fun a b c => Cookie.Key.le_trans a.key b.key c.key)
    (fun a b => Cookie.Key.le_total a.key b.key) hperm hsorted ?_
  intro a ha b hb hab hba
  have hkey : a.key = b.key := Cookie.Key.le_antisymm hab hba
  exact List.inj_on_of_nodup_map hv.buckets.keys_nodup (List.mem_of_mem_filter ha)
    (List.mem_of_mem_filter hb) hkey

/-- Later, a snapshot has the cookies that have not expired since then. -/
theorem filter_snapshot {j : Jar} (hv : j.Valid) {now later : Int} (h : now ≤ later) :
    (j.snapshot now).filter (!·.isExpired later) = j.snapshot later := by
  refine (snapshot_eq_of_perm hv ?_ ((pairwise_snapshot j now).filter _)).symm
  have hperm := (snapshot_perm j now).filter (!·.isExpired later)
  rw [List.filter_filter] at hperm
  have hsaved : (fun c : Cookie => !c.isExpired later && c.isSaved now) =
      (·.isSaved later) := by
    funext c
    rw [Bool.and_comm, Cookie.isSaved_later h]
  rwa [hsaved] at hperm

/-- A snapshot holds nothing that has expired. -/
theorem filter_snapshot_self {j : Jar} (hv : j.Valid) (now : Int) :
    (j.snapshot now).filter (!·.isExpired now) = j.snapshot now :=
  filter_snapshot hv (Int.le_refl now)

/-- The persistent cookies of a jar, expired ones included. -/
def persistent (j : Jar) : List Cookie := j.cookies.filter Cookie.isPersistent

/-- Snapshots depend on the persistent cookies only. -/
theorem snapshot_eq_of_persistent_eq {j k : Jar} (h : j.persistent = k.persistent) (now : Int) :
    j.snapshot now = k.snapshot now := by
  have hsplit : ∀ i : Jar, i.cookies.filter (fun c => c.isPersistent && !c.isExpired now) =
      i.persistent.filter (!·.isExpired now) := by
    intro i
    rw [persistent, List.filter_filter]
    congr 1
    funext c
    rw [Bool.and_comm]
  rw [snapshot, snapshot, hsplit, hsplit, h]

/-! ## Changes that change nothing -/

/-- Filtering cookies removes none if their number stays the same. -/
theorem cookies_filter_of_count_eq {j : Jar} {p : Cookie → Bool}
    (h : (j.filter p).count = j.count) : (j.filter p).cookies = j.cookies := by
  rw [count, cookies_filter, count, List.length_filter_eq_length_iff] at h
  rw [cookies_filter, List.filter_eq_self]
  exact h

/-- Removing the cookie with a key removes none if the number of cookies stays the same. -/
theorem erase_of_count_eq {j : Jar} (hv : j.Valid) {k : Cookie.Key}
    (h : (j.erase k).count = j.count) : j.erase k = j := by
  -- As many cookies as before are left in the bucket, so they are those of before.
  have hlen := Bucket.length_contents_set k.domain
    ((Bucket.find k.domain j.buckets).filter fun c => c.name != k.name || c.path != k.path)
    j.buckets
  have hall : (Bucket.find k.domain j.buckets).filter
      (fun c => c.name != k.name || c.path != k.path) = Bucket.find k.domain j.buckets := by
    rw [List.filter_eq_self, ← List.length_filter_eq_length_iff]
    simp only [erase, count, cookies] at h
    simp only [Bucket.contents] at hlen
    omega
  rw [erase, hall, Bucket.set_find_self fun b hb => (hv.buckets.valid b hb).nonempty]

/-- A header value that stores no cookie and removes none leaves the jar as it is. -/
theorem receive_of_count_eq {j : Jar} (hv : j.Valid) {a : Address} {header : String} {now : Int}
    (hstored : (j.receive a header now).1 = false)
    (hcount : (j.receive a header now).2.count = j.count) : (j.receive a header now).2 = j := by
  unfold receive at *
  split at hcount
  · -- The jar accepts cookies; otherwise it has not changed.
    rename_i haccepts
    rw [if_pos haccepts] at hstored
    rw [if_pos haccepts]
    cases hreceived : Cookie.receive? a header now with
    | none => rfl
    | some c =>
      simp only [hreceived] at hstored hcount ⊢
      split at hcount
      · rename_i hexpired
        rw [if_pos hexpired]
        exact erase_of_count_eq hv hcount
      · -- A cookie that has not expired would have been stored.
        rename_i hexpired
        rw [if_neg hexpired] at hstored
        exact nomatch hstored
  · rename_i haccepts
    rw [if_neg haccepts]

end Jar

end HttpState
