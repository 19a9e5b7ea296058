import HttpState.Proofs.Jar.Receipt
import HttpState.Proofs.Jar.Retrieval

/-!
# Parts of a jar

Replacing a cookie, deleting one and making room for one change the cookies of one domain only, and
what becomes of them depends on them alone. So if one jar has the cookies that another jar has of
some domains, and no others, this is still so when a cookie of these domains is stored in both of
them or removed from both, as long as the limit of the jar does not have to be enforced. The jar
that is the part has no more cookies than the other one, so the limit is not reached in the part
unless it is reached in the whole.

A part with all domains is the jar itself, except that its buckets may come in another order.

## Key results

- `IsPart.header?_eq`: the answers for a host
- `IsPart.insert`, `IsPart.erase`, `IsPart.filter`: changes that are made in both jars
- `IsPart.insert_foreign`, `IsPart.erase_foreign`: changes of another domain
- `IsPart.apply`: an operation on both jars
-/

namespace HttpState.Jar

open Bucket (AllValid)

/-- A jar has the cookies that another jar has of some domains, in the same order, and no others. -/
structure IsPart (domains : String → Prop) [DecidablePred domains] (k j : Jar) : Prop where
  accepts : k.accepts = j.accepts
  limits : k.limits = j.limits
  ofDomain : ∀ d, k.ofDomain d = if domains d then j.ofDomain d else []

namespace IsPart

variable {domains : String → Prop} [DecidablePred domains] {j k : Jar}

/-- The cookies of a part are cookies of the jar, each of them once. -/
theorem subperm (h : IsPart domains k j) (hj : AllValid j.limits.perHost j.buckets)
    (hk : AllValid k.limits.perHost k.buckets) : k.cookies.Subperm j.cookies := by
  refine List.subperm_of_subset (List.Nodup.of_map Cookie.key hk.keys_nodup) ?_
  intro c hc
  have hmem := (mem_ofDomain_self hk).2 hc
  rw [h.ofDomain] at hmem
  split at hmem
  · exact (mem_ofDomain_self hj).1 hmem
  · exact absurd hmem List.not_mem_nil

/-- A part of a jar has no more cookies than the jar. -/
theorem count_le (h : IsPart domains k j) (hj : AllValid j.limits.perHost j.buckets)
    (hk : AllValid k.limits.perHost k.buckets) : k.count ≤ j.count :=
  (h.subperm hj hk).length_le

/-- A host is answered from a part of a jar that has its domains. -/
theorem header?_eq (h : IsPart domains k j) {a : Address}
    (ha : ∀ d ∈ Scope.candidates a.host, domains d) (now : Int) :
    k.header? a now = j.header? a now := by
  have hwithin : k.within a.host = j.within a.host :=
    List.flatMap_congr fun d hd => (h.ofDomain d).trans (if_pos (ha d hd))
  rw [header?_eq_ite, header?_eq_ite, sentTo_eq, sentTo_eq, hwithin]

/-! ## Storing a cookie -/

/-- A cookie of one of the domains is put into both jars in the same way. -/
theorem put (h : IsPart domains k j) (hj : AllValid j.limits.perHost j.buckets)
    (hk : AllValid k.limits.perHost k.buckets) {c : Cookie} (hc : domains c.domain) :
    IsPart domains (k.put c) (j.put c) where
  accepts := h.accepts
  limits := h.limits
  ofDomain d := by
    rw [ofDomain_put hk, ofDomain_put hj, h.limits, h.ofDomain]
    by_cases hd : d = c.domain
    · rw [if_pos hd, if_pos hd, if_pos (hd ▸ hc), if_pos (hd ▸ hc)]
    · rw [if_neg hd, if_neg hd]

/-- A cookie of another domain is not seen in the part. -/
theorem put_foreign (h : IsPart domains k j) (hj : AllValid j.limits.perHost j.buckets)
    {c : Cookie} (hc : ¬ domains c.domain) : IsPart domains k (j.put c) where
  accepts := h.accepts
  limits := h.limits
  ofDomain d := by
    rw [h.ofDomain, ofDomain_put hj]
    by_cases hd : domains d
    · -- The cookie is of another domain than `d`, as this is one of the domains.
      have hne : d ≠ c.domain := fun heq => hc (heq ▸ hd)
      rw [if_pos hd, if_pos hd, if_neg hne]
    · rw [if_neg hd, if_neg hd]

/-- If the limit of the jar is not reached when a cookie is stored, it is not reached in a part of
    it either. -/
theorem insert (h : IsPart domains k j) (hj : j.Valid) (hk : k.Valid) {c : Cookie}
    (hc : domains c.domain) (hfits : (j.put c).count ≤ j.limits.total) :
    IsPart domains (k.insert c) (j.insert c) := by
  have hput := h.put hj.buckets hk.buckets hc
  have hfits' : (k.put c).count ≤ k.limits.total := by
    have hle := hput.count_le (allValid_put hj c) (allValid_put hk c)
    rw [h.limits]
    omega
  rw [insert_eq_enforceTotal hj, insert_eq_enforceTotal hk, enforceTotal_of_le hfits,
    enforceTotal_of_le hfits']
  exact hput

/-- A cookie of a foreign domain that fits leaves the part as it is. -/
theorem insert_foreign (h : IsPart domains k j) (hj : j.Valid) {c : Cookie}
    (hc : ¬ domains c.domain) (hfits : (j.put c).count ≤ j.limits.total) :
    IsPart domains k (j.insert c) := by
  rw [insert_eq_enforceTotal hj, enforceTotal_of_le hfits]
  exact h.put_foreign hj.buckets hc

/-! ## Removing cookies -/

/-- Erasing a key of the part erases it in the jar and in the part. -/
theorem erase (h : IsPart domains k j) (hj : AllValid j.limits.perHost j.buckets)
    (hk : AllValid k.limits.perHost k.buckets) (key : Cookie.Key) :
    IsPart domains (k.erase key) (j.erase key) where
  accepts := h.accepts
  limits := h.limits
  ofDomain d := by
    rw [ofDomain_erase hk, ofDomain_erase hj, h.ofDomain]
    split <;> simp

/-- Erasing a key of a foreign domain leaves the part as it is. -/
theorem erase_foreign (h : IsPart domains k j) {key : Cookie.Key} (hkey : ¬ domains key.domain) :
    IsPart domains k (j.erase key) where
  accepts := h.accepts
  limits := h.limits
  ofDomain d := by
    rw [h.ofDomain]
    by_cases hd : domains d
    · -- A domain of the part is another one than that of the key.
      have hne : d ≠ key.domain := fun heq => hkey (heq ▸ hd)
      rw [if_pos hd, if_pos hd, ofDomain_erase_of_ne hne]
    · rw [if_neg hd, if_neg hd]

/-- Filtering the jar filters its part. -/
theorem filter (h : IsPart domains k j) (hj : j.Valid) (hk : k.Valid) (p : Cookie → Bool) :
    IsPart domains (k.filter p) (j.filter p) where
  accepts := h.accepts
  limits := h.limits
  ofDomain d := by
    rw [ofDomain_filter hk, ofDomain_filter hj, h.ofDomain]
    split <;> simp

/-- Without cookies the jar and its part are the same. -/
theorem removeAll (h : IsPart domains k j) : IsPart domains k.removeAll j.removeAll where
  accepts := h.accepts
  limits := h.limits
  ofDomain d := by
    show [] = if domains d then [] else []
    simp

/-- The jar and its part are told alike whether to accept cookies. -/
theorem setAccepts (h : IsPart domains k j) (accepts : Bool) :
    IsPart domains (k.setAccepts accepts) (j.setAccepts accepts) where
  accepts := rfl
  limits := h.limits
  ofDomain := h.ofDomain

end IsPart

/-! ## Operations -/

/-- Whether an operation brings in cookies that were kept elsewhere. -/
def Operation.isLoad : Operation → Bool
  | .load _ => true
  | _ => false

/-- Where an operation takes a header value and stores its cookie, the jar has no more cookies than
    its limit before this limit is enforced. -/
def Operation.Fits (now : Int) (j : Jar) : Operation → Prop
  | .receive a header => (j.receive a header now).1 = true →
      ∀ c, Cookie.receive? a header now = some c → (j.put c).count ≤ j.limits.total
  | _ => True

instance (now : Int) (j : Jar) (op : Operation) : Decidable (op.Fits now j) :=
  match op with
  | .receive a header =>
    decidable_of_iff ((j.receive a header now).1 = true →
        ∀ c ∈ (Cookie.receive? a header now).toList, (j.put c).count ≤ j.limits.total)
      (by simp [Operation.Fits])
  | .load _ | .removeAll | .removeExpired | .removeSession | .setAccepts _ => isTrue trivial

namespace IsPart

variable {domains : String → Prop} [DecidablePred domains] {j k : Jar}

/-- A header whose cookie belongs to the part does the same to the jar and to its part, if nothing
    has to leave. -/
theorem receive (h : IsPart domains k j) (hj : j.Valid) (hk : k.Valid) {a : Address}
    {header : String} {now : Int}
    (hrelated : ∀ c, Cookie.receive? a header now = some c → domains c.domain)
    (hfits : (Operation.receive a header).Fits now j) :
    IsPart domains (k.receive a header now).2 (j.receive a header now).2 := by
  -- Whether the header value is taken, and whether its cookie has expired, is the same for both.
  cases haccepts : j.accepts with
  | false =>
    have haccepts' : k.accepts = false := h.accepts.trans haccepts
    rw [receive_of_refused (.inl haccepts), receive_of_refused (.inl haccepts')]
    exact h
  | true =>
    have haccepts' : k.accepts = true := h.accepts.trans haccepts
    cases hreceived : Cookie.receive? a header now with
    | none =>
      rw [receive_of_refused (.inr hreceived), receive_of_refused (.inr hreceived)]
      exact h
    | some c =>
      cases hexpired : c.isExpired now with
      | true =>
        rw [receive_of_expired haccepts hreceived hexpired,
          receive_of_expired haccepts' hreceived hexpired]
        exact h.erase hj.buckets hk.buckets c.key
      | false =>
        have hstored := receive_of_fresh haccepts hreceived hexpired
        -- The jar has room for the cookie, so its part has.
        have hspace := hfits (congrArg Prod.fst hstored) c hreceived
        rw [hstored, receive_of_fresh haccepts' hreceived hexpired]
        exact h.insert hj hk (hrelated c hreceived) hspace

/-- A header value about another domain, which only the whole jar takes. -/
theorem receive_foreign (h : IsPart domains k j) (hj : j.Valid) {a : Address} {header : String}
    {now : Int} (hforeign : ∀ c, Cookie.receive? a header now = some c → ¬ domains c.domain)
    (hfits : (Operation.receive a header).Fits now j) :
    IsPart domains k (j.receive a header now).2 := by
  cases haccepts : j.accepts with
  | false =>
    rw [receive_of_refused (.inl haccepts)]
    exact h
  | true =>
    cases hreceived : Cookie.receive? a header now with
    | none =>
      rw [receive_of_refused (.inr hreceived)]
      exact h
    | some c =>
      -- A cookie of a foreign domain is erased or stored outside the part.
      have hc := hforeign c hreceived
      cases hexpired : c.isExpired now with
      | true =>
        rw [receive_of_expired haccepts hreceived hexpired]
        exact h.erase_foreign hc
      | false =>
        have hstored := receive_of_fresh haccepts hreceived hexpired
        have hspace := hfits (congrArg Prod.fst hstored) c hreceived
        rw [hstored]
        exact h.insert_foreign hj hc hspace

/-- An operation that is made on both jars and brings cookies of the domains only. -/
theorem apply (h : IsPart domains k j) (hj : j.Valid) (hk : k.Valid) {now : Int} {op : Operation}
    (hload : op.isLoad = false) (hrelated : op.Brings (fun c => domains c.domain) now)
    (hfits : op.Fits now j) : IsPart domains (op.apply now k) (op.apply now j) := by
  cases op with
  | receive a header => exact h.receive hj hk hrelated hfits
  | load cs => exact nomatch hload
  | removeAll => exact h.removeAll
  | removeExpired => exact h.filter hj hk _
  | removeSession => exact h.filter hj hk _
  | setAccepts accepts => exact h.setAccepts accepts

end IsPart

end HttpState.Jar
