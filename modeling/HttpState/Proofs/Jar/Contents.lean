import HttpState.Proofs.Cookie.Received
import HttpState.Proofs.Jar.Run
import HttpState.Proofs.Jar.Bucket

/-!
# Where the cookies of a jar come from

No operation makes up a cookie. Whatever is in a jar was in it before, or the operation brought it,
with its own creation time or with that of a cookie it took the place of.

## Key results

- `mem_of_mem_insert`: storing a cookie adds nothing but this cookie
- `mem_or_stores_of_mem_receive`: taking a header value adds nothing but the cookie that it stores
- `forall_mem_run`: what all cookies satisfy that are brought to an empty jar, all cookies in it
  satisfy, if the creation time does not matter
-/

namespace HttpState.Jar

/-- Putting cookies in the place of those of a domain adds no others. -/
theorem mem_of_mem_set {domain : String} {cs : List Cookie} {bs : List Bucket} {x : Cookie}
    (h : x ∈ Bucket.contents (Bucket.set domain cs bs)) : x ∈ cs ∨ x ∈ Bucket.contents bs := by
  have hperm := Bucket.perm_set domain cs bs
  exact List.mem_append.1 (hperm.subset (List.mem_append_left _ h))

/-- What is found for a domain is in the jar. -/
theorem mem_of_mem_find {domain : String} {bs : List Bucket} {x : Cookie}
    (h : x ∈ Bucket.find domain bs) : x ∈ Bucket.contents bs := by
  obtain ⟨b, hb, _, hcookies⟩ := Bucket.exists_of_find (List.ne_nil_of_mem h)
  rw [← hcookies] at h
  exact Bucket.mem_contents.2 ⟨b, hb, h⟩

/-- Dropping an oldest cookie brings none. -/
theorem mem_of_mem_dropOldest {j : Jar} {x : Cookie} (h : x ∈ j.dropOldest.cookies) :
    x ∈ j.cookies := by
  unfold dropOldest at h
  split at h
  · exact h
  · split at h
    · exact h
    · rename_i b hb
      -- It stands in the bucket that lost a cookie, or in another one.
      rcases mem_of_mem_set h with hx | hx
      · have hmem : b ∈ j.buckets := List.mem_of_find?_eq_some hb
        exact Bucket.mem_contents.2 ⟨b, hmem, List.eraseP_sublist.subset hx⟩
      · exact hx

/-- Nor does dropping as many as are too many. -/
theorem mem_of_mem_enforceTotal {j : Jar} {x : Cookie} (h : x ∈ j.enforceTotal.cookies) :
    x ∈ j.cookies := by
  have hrepeat : ∀ n, ∀ y ∈ (Nat.repeat dropOldest n j).cookies, y ∈ j.cookies := by
    intro n
    induction n with
    | zero => exact fun _ hy => hy
    | succ n ih => exact fun y hy => ih y (mem_of_mem_dropOldest hy)
  exact hrepeat _ x h

/-- Storing a cookie adds nothing but this cookie, with its own creation time or with that of a
    cookie that was there. -/
theorem exists_of_mem_insert {j : Jar} {c x : Cookie} (h : x ∈ (j.insert c).cookies) :
    x ∈ j.cookies ∨ x = c ∨ ∃ d ∈ j.cookies, x = { c with created := d.created } := by
  unfold insert at h
  simp only at h
  split at h
  · -- A replaced cookie hands its age on, and the others stay.
    rename_i cs hreplace
    obtain ⟨front, d, back, hfind, _, rfl⟩ := Bucket.exists_of_replace? hreplace
    have hold : ∀ y ∈ front ++ d :: back, y ∈ j.cookies := fun y hy => mem_of_mem_find (hfind ▸ hy)
    rcases mem_of_mem_set h with hx | hx
    · rcases List.mem_append.1 hx with hx | hx
      · exact .inl (hold x (by simp [hx]))
      · rcases List.mem_cons.1 hx with hx | hx
        · exact .inr (.inr ⟨d, hold d (by simp), hx⟩)
        · exact .inl (hold x (by simp [hx]))
    · exact .inl hx
  · -- Any other cookie was there, or is the new one.
    rcases mem_of_mem_set (mem_of_mem_enforceTotal h) with hx | hx
    · rcases List.mem_append.1 hx with hx | hx
      · have hsub := Bucket.makeRoom_sublist j.limits.perHost (Bucket.find c.domain j.buckets)
        exact .inl (mem_of_mem_find (hsub.subset hx))
      · exact .inr (.inl (List.mem_singleton.1 hx))
    · exact .inl hx

/-- Storing a cookie adds nothing but this cookie, with its own creation time or another one. -/
theorem mem_of_mem_insert {j : Jar} {c x : Cookie} (h : x ∈ (j.insert c).cookies) :
    x ∈ j.cookies ∨ ∃ t, x = { c with created := t } := by
  rcases exists_of_mem_insert h with hx | rfl | ⟨d, _, rfl⟩
  · exact .inl hx
  · exact .inr ⟨x.created, rfl⟩
  · exact .inr ⟨d.created, rfl⟩

/-- Erasing a key brings no cookie. -/
theorem mem_of_mem_erase {j : Jar} {k : Cookie.Key} {x : Cookie} (h : x ∈ (j.erase k).cookies) :
    x ∈ j.cookies := by
  rcases mem_of_mem_set h with hx | hx
  · exact mem_of_mem_find (List.mem_of_mem_filter hx)
  · exact hx

/-- Nor does filtering. -/
theorem mem_of_mem_filter {p : Cookie → Bool} {j : Jar} {x : Cookie}
    (h : x ∈ (j.filter p).cookies) : x ∈ j.cookies := by
  rw [cookies_filter] at h
  exact List.mem_of_mem_filter h

/-- A header value stores a cookie: the answer to it is positive, and but for the creation time it
    sets this cookie. -/
def Stores (j : Jar) (a : Address) (header : String) (now : Int) (x : Cookie) : Prop :=
  (j.receive a header now).1 = true ∧
    Cookie.receive? a header now = some { x with created := .utc now }

/-- Taking a header value adds nothing but the cookie that it stores. -/
theorem mem_or_stores_of_mem_receive {j : Jar} {a : Address} {header : String} {now : Int}
    {x : Cookie} (h : x ∈ (j.receive a header now).2.cookies) :
    x ∈ j.cookies ∨ j.Stores a header now x := by
  unfold Stores receive at *
  split at h
  · split at h
    · exact .inl h
    · -- The header gives a cookie: it withdraws another one, or is stored.
      rename_i haccepts _ c hc
      split at h
      · exact .inl (mem_of_mem_erase h)
      · rename_i hfresh
        rcases mem_of_mem_insert h with hx | ⟨t, rfl⟩
        · exact .inl hx
        · refine .inr ⟨by simp [haccepts, hfresh], ?_⟩
          rw [hc, ← Cookie.created_of_receive? hc]
  · exact .inl h

/-- All cookies that an operation may bring satisfy `P`. -/
def Operation.Brings (P : Cookie → Prop) (now : Int) : Operation → Prop
  | .receive a header => ∀ c, Cookie.receive? a header now = some c → P c
  | .load cs => ∀ c ∈ cs, P c
  | _ => True

section Replace

variable {P : Cookie → Prop} (hreplace : ∀ c d, P c → P d → P { c with created := d.created })
  {j : Jar} (hj : ∀ c ∈ j.cookies, P c)

include hreplace hj

/-- A stored cookie may take the creation time of another one. If `P` does not get lost by this,
    then all cookies satisfy it after storing one that does. -/
theorem forall_mem_insert {c : Cookie} (hc : P c) : ∀ x ∈ (j.insert c).cookies, P x := by
  intro x hx
  rcases exists_of_mem_insert hx with hx | hx | ⟨d, hd, hx⟩
  · exact hj x hx
  · exact hx ▸ hc
  · exact hx ▸ hreplace c d hc (hj d hd)

/-- What is loaded has the property if what was there has it and the whole list has it. -/
theorem forall_mem_load {cs : List Cookie} (hcs : ∀ c ∈ cs, P c) (now : Int) :
    ∀ x ∈ (j.load cs now).cookies, P x := by
  have hfresh : ∀ c ∈ cs.filter (!·.isExpired now), P c :=
    fun c hc => hcs c (List.mem_of_mem_filter hc)
  rw [load]
  -- By induction on what has not expired, whatever the jar holds by then.
  generalize cs.filter (!·.isExpired now) = ds at hfresh
  induction ds generalizing j with
  | nil => exact hj
  | cons c ds ih =>
    have hinsert := forall_mem_insert hreplace hj (hfresh c (by simp))
    exact ih hinsert fun d hd => hfresh d (by simp [hd])

end Replace

section Forall

variable {P : Cookie → Prop} (hcreated : ∀ c t, P c → P { c with created := t })

include hcreated

/-- One operation keeps what all cookies satisfy. -/
theorem forall_mem_apply {j : Jar} (hj : ∀ c ∈ j.cookies, P c) {now : Int} {op : Operation}
    (hop : op.Brings P now) : ∀ x ∈ (op.apply now j).cookies, P x := by
  cases op with
  | receive a header =>
    -- A stored cookie may be a received one with another creation time.
    intro x hx
    rcases mem_or_stores_of_mem_receive hx with hx | ⟨_, hreceived⟩
    · exact hj x hx
    · exact hcreated { x with created := .utc now } x.created (hop _ hreceived)
  | load cs => exact forall_mem_load (fun c d hc _ => hcreated c d.created hc) hj hop now
  | removeAll => simp [Operation.apply, removeAll, cookies]
  | removeExpired => exact fun x hx => hj x (mem_of_mem_filter hx)
  | removeSession => exact fun x hx => hj x (mem_of_mem_filter hx)
  | setAccepts accepts => exact hj

/-- What holds of all cookies in a jar and of all that are brought to it holds of all cookies in it
    after a run. -/
theorem forall_mem_run {j : Jar} (hj : ∀ c ∈ j.cookies, P c) {ops : List (Int × Operation)}
    (hops : ∀ o ∈ ops, o.2.Brings P o.1) : ∀ x ∈ (j.run ops).cookies, P x := by
  induction ops generalizing j with
  | nil => exact hj
  | cons o ops ih =>
    exact ih (forall_mem_apply hcreated hj (hops o (by simp))) fun p hp => hops p (by simp [hp])

end Forall

end HttpState.Jar
