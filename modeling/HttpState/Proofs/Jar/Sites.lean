import HttpState.Proofs.Jar.Part

/-!
# Sites that have nothing to do with each other

A request to a host is answered from the cookies of the host and of its parent domains. What other
domains do to a jar changes nothing about these cookies, as long as the jar as a whole never has too
many: replacements, deletions and the limit for a host are all confined to one domain. So a run of
which everything is left out that is about other domains gives the same answers for the host.

The jar of the shorter run has no cookies of other domains. It has the same cookies of the domains
in question, in the same order, and this is what each operation is shown to keep. It also has fewer
cookies than the other jar, so its limit is not reached either.

## Key definitions

- `Operation.isForeign`: a header value that sets a cookie of another domain
- `NeverTooMany`: no operation of a run leaves it to the limit of the jar to drop a cookie

## Key results

- `IsPart.run`: a run, and what is left of it without the other domains
- `header?_of_foreign_sites`: the answers for a host
-/

namespace HttpState.Jar

/-! ## Runs -/

/-- Whether an operation takes a header value that sets a cookie of none of the domains. -/
def Operation.isForeign (domains : List String) (now : Int) : Operation → Bool
  | .receive a header => (Cookie.receive? a header now).any fun c => decide (c.domain ∉ domains)
  | _ => false

/-- A run without the header values that set a cookie of none of the domains. -/
def withoutForeign (domains : List String) (ops : List (Int × Operation)) :
    List (Int × Operation) :=
  ops.filter fun o => !o.2.isForeign domains o.1

/-- The limit of a jar never has a cookie dropped in a run. -/
def NeverTooMany (j : Jar) (ops : List (Int × Operation)) : Prop :=
  ∀ before o after, ops = before ++ o :: after → o.2.Fits o.1 (j.run before)

/-- A run is its first operation and the run from there. -/
theorem run_cons (j : Jar) (o : Int × Operation) (ops : List (Int × Operation)) :
    j.run (o :: ops) = (o.2.apply o.1 j).run ops := rfl

/-- Before anything happens nothing is too much. -/
theorem neverTooMany_nil (j : Jar) : j.NeverTooMany [] := by
  intro before o after h
  exact absurd h (by simp)

/-- Nothing is ever too much if the first operation fits, and so do all others after it. -/
theorem neverTooMany_cons {j : Jar} {o : Int × Operation} {ops : List (Int × Operation)} :
    j.NeverTooMany (o :: ops) ↔ o.2.Fits o.1 j ∧ (o.2.apply o.1 j).NeverTooMany ops := by
  constructor
  · intro h
    refine ⟨h [] o ops rfl, ?_⟩
    rintro before p after rfl
    exact h (o :: before) p after rfl
  · rintro ⟨hfirst, hrest⟩ before p after heq
    -- The operation in question is the first one, or a later one.
    cases before with
    | nil =>
      cases heq
      exact hfirst
    | cons q before =>
      cases heq
      exact hrest before p after rfl

/-- What holds for a run holds for its beginning. -/
theorem NeverTooMany.of_prefix {j : Jar} {before ops : List (Int × Operation)}
    (h : j.NeverTooMany ops) (hbefore : before <+: ops) : j.NeverTooMany before := by
  rintro front o back rfl
  obtain ⟨rest, rfl⟩ := hbefore
  exact h front o (back ++ rest) (by simp)

instance decidableNeverTooMany (j : Jar) :
    (ops : List (Int × Operation)) → Decidable (j.NeverTooMany ops)
  | [] => isTrue (neverTooMany_nil j)
  | o :: ops =>
    have := decidableNeverTooMany (o.2.apply o.1 j) ops
    decidable_of_iff _ neverTooMany_cons.symm

/-! ## Leaving out what is foreign -/

section Related

variable {domains : List String} {j k : Jar}

/-- What is not foreign brings cookies of the domains. -/
theorem brings_of_not_isForeign {now : Int} {op : Operation} (hload : op.isLoad = false)
    (h : op.isForeign domains now = false) : op.Brings (fun c => c.domain ∈ domains) now := by
  cases op with
  | receive a header =>
    intro c hc
    simpa [Operation.isForeign, hc] using h
  | load cs => cases hload
  | removeAll => trivial
  | removeExpired => trivial
  | removeSession => trivial
  | setAccepts accepts => trivial

/-- What is foreign is not seen in a part with the domains. -/
theorem IsPart.apply_foreign (h : IsPart (· ∈ domains) k j) (hj : j.Valid) {now : Int}
    {op : Operation} (hforeign : op.isForeign domains now = true) (hfits : op.Fits now j) :
    IsPart (· ∈ domains) k (op.apply now j) := by
  cases op with
  | receive a header =>
    refine h.receive_foreign hj ?_ hfits
    intro c hc
    simpa [Operation.isForeign, hc] using hforeign
  | _ => cases hforeign

/-- A run without what is about other domains, on a part of a jar. -/
theorem IsPart.run {ops : List (Int × Operation)} (h : IsPart (· ∈ domains) k j) (hj : j.Valid)
    (hk : k.Valid) (hload : ∀ o ∈ ops, o.2.isLoad = false) (hfits : j.NeverTooMany ops) :
    IsPart (· ∈ domains) (k.run (withoutForeign domains ops)) (j.run ops) := by
  induction ops generalizing j k with
  | nil => exact h
  | cons o ops ih =>
    have hj' := (hj.apply o.1 o.2).1
    obtain ⟨hfirst, hrest⟩ := neverTooMany_cons.1 hfits
    have hload' : ∀ p ∈ ops, p.2.isLoad = false := fun p hp => hload p (List.mem_cons_of_mem o hp)
    rw [run_cons, withoutForeign]
    -- The part takes no step where the operation is left out.
    cases hforeign : o.2.isForeign domains o.1 with
    | true =>
      rw [List.filter_cons_of_neg (by simp [hforeign])]
      exact ih (h.apply_foreign hj hforeign hfirst) hj' hk hload' hrest
    | false =>
      rw [List.filter_cons_of_pos (by simp [hforeign]), run_cons]
      have hbrings := brings_of_not_isForeign (hload o List.mem_cons_self) hforeign
      exact ih (h.apply hj hk (hload o List.mem_cons_self) hbrings hfirst) hj'
        (hk.apply o.1 o.2).1 hload' hrest

end Related

/-- What is done to a jar that was empty once and never has too many cookies does not change the
    answers for a host, at any time in the run, if it is about a cookie whose domain is neither the
    host nor one of its parent domains. -/
theorem header?_of_foreign_sites {perHost total : Nat} {ops : List (Int × Operation)}
    (hload : ∀ o ∈ ops, o.2.isLoad = false)
    (hfits : (empty (.of perHost total)).NeverTooMany ops) (host : String) :
    ∀ before, before <+: ops → ∀ a : Address, a.host = host → ∀ now,
      ((empty (.of perHost total)).run
          (withoutForeign (Scope.candidates host) before)).header? a now =
        ((empty (.of perHost total)).run before).header? a now := by
  rintro before hbefore a rfl now
  -- At the beginning no domain has cookies, so either jar is a part of the other.
  have hpart : IsPart (· ∈ Scope.candidates a.host) (empty (.of perHost total))
      (empty (.of perHost total)) := {
    accepts := rfl
    limits := rfl
    ofDomain := fun d => (ite_self (c := d ∈ Scope.candidates a.host) []).symm }
  have hload' : ∀ o ∈ before, o.2.isLoad = false := fun o ho => hload o (hbefore.subset ho)
  have hv := valid_empty (.of perHost total)
  exact (hpart.run hv hv hload' (hfits.of_prefix hbefore)).header?_eq (fun d hd => hd) now

/-- A run over two hosts, where a host may have one cookie and the jar three. One host reaches its
    limit and has a cookie deleted, the other one gets a cookie of its parent domain. -/
def twoSites : List (Int × Operation) :=
  [(0, .receive ⟨"a.b.c", "/", .plain⟩ "k=1"),
    (1, .receive ⟨"x.y", "/", .plain⟩ "k=2"),
    (2, .receive ⟨"x.y", "/", .plain⟩ "l=3"),
    (3, .receive ⟨"a.b.c", "/", .plain⟩ "l=4; Domain=b.c"),
    (4, .receive ⟨"x.y", "/", .plain⟩ "l=5; Max-Age=0"),
    (5, .removeExpired)]

/-- The cookies of a related domain are enough to know the header, whatever else comes in
    between. -/
theorem header?_of_foreign_sites_twoSites :
    let j := empty (.of 1 3)
    let related : List (Int × Operation) :=
      [(0, .receive ⟨"a.b.c", "/", .plain⟩ "k=1"),
        (3, .receive ⟨"a.b.c", "/", .plain⟩ "l=4; Domain=b.c"), (5, .removeExpired)]
    (∀ o ∈ twoSites, o.2.isLoad = false) ∧ j.NeverTooMany twoSites ∧
      withoutForeign (Scope.candidates "a.b.c") twoSites = related ∧
      (j.run related).header? ⟨"a.b.c", "/", .secure⟩ 9 =
        (j.run twoSites).header? ⟨"a.b.c", "/", .secure⟩ 9 := by
  intro j related
  have hload : ∀ o ∈ twoSites, o.2.isLoad = false := by decide
  -- The jar never has more than three cookies.
  have hfits : j.NeverTooMany twoSites := by decide +kernel
  have hrelated : withoutForeign (Scope.candidates "a.b.c") twoSites = related := by
    decide +kernel
  refine ⟨hload, hfits, hrelated, ?_⟩
  rw [← hrelated]
  exact header?_of_foreign_sites hload hfits "a.b.c" twoSites List.prefix_rfl _ rfl 9

end HttpState.Jar
