import HttpState.Proofs.Jar.Part
import HttpState.Proofs.Jar.Snapshot

/-!
# The order of buckets

A jar is a map from domains to cookies, and a map can be enumerated in many orders. It is enumerated
when its cookies are counted, filtered or saved, and when the oldest cookie of all is looked for.
The order that its buckets have in a list is one that was chosen once. Here the buckets come in a
new order at every step, also between storing a cookie and enforcing the limit of the jar.

This makes no difference as long as the limit of the jar never has to choose between equally old
cookies of different domains. Two jars that are equal as maps give the same answers then, and stay
equal, whatever the orders are. Within one domain the order of cookies is part of the map, so there
the first one of equally old cookies leaves in both jars. A snapshot has an order of its own, and as
no two cookies have one key, it leaves no choice.

## Key definitions

- `Enumeration`: an order of buckets, and what the operations do under it
- `SameMap`: jars that are equal as maps
- `EvictsClearly`: there is nothing to choose when the limit of the jar is enforced

## Key results

- `SameMap.dropOldest`: the oldest cookie of two jars that are equal as maps
- `SameMap.turn`: one step of each of the two jars
- `answers_of_any_order`: every run
-/

namespace HttpState

namespace Bucket

/-- Looking up a domain does not depend on the order of buckets. -/
theorem find_perm {bs bs' : List Bucket} (h : bs.Perm bs') (hnodup : (domains bs).Nodup)
    (domain : String) : find domain bs = find domain bs' := by
  have hdomains : (domains bs).Perm (domains bs') := h.map Bucket.domain
  by_cases hmem : domain ∈ domains bs
  · obtain ⟨b, hb, rfl⟩ := List.mem_map.1 hmem
    rw [find_of_mem hnodup hb, find_of_mem (hdomains.nodup_iff.1 hnodup) (h.mem_iff.1 hb)]
  · have hmem' : domain ∉ domains bs' := fun hd => hmem (hdomains.mem_iff.2 hd)
    rw [find_eq_nil hmem, find_eq_nil hmem']

/-- Which order the buckets stand in has no part in whether they are valid. -/
theorem AllValid.of_perm {limit : Nat} {bs bs' : List Bucket} (h : AllValid limit bs)
    (hperm : bs'.Perm bs) : AllValid limit bs' where
  domains_nodup := (hperm.map Bucket.domain).nodup_iff.2 h.domains_nodup
  valid b hb := h.valid b (hperm.mem_iff.1 hb)

end Bucket

namespace Jar

open Bucket (AllValid)

/-! ## Orders -/

/-- An order for the buckets of each jar. -/
structure Enumeration where
  order : List Bucket → List Bucket
  perm : ∀ bs, (order bs).Perm bs

/-- The cookies that an operation stores in a jar, one after another. -/
def Operation.stores (now : Int) (j : Jar) : Operation → List Cookie
  | .receive a header =>
    if (j.receive a header now).1 then (Cookie.receive? a header now).toList else []
  | .load cs => cs.filter (!·.isExpired now)
  | _ => []

namespace Enumeration

/-- The order that the buckets have already. -/
def asTheyAre : Enumeration := ⟨id, fun bs => .refl bs⟩

/-- The jar with its buckets in this order. -/
def arrange (e : Enumeration) (j : Jar) : Jar := { j with buckets := e.order j.buckets }

/-- Stores a cookie. The buckets are enumerated when the limit of the jar is enforced. -/
def insert (e : Enumeration) (j : Jar) (c : Cookie) : Jar := (e.arrange (j.put c)).enforceTotal

/-- The jar after an operation when the clock reads `now`. -/
def apply (e : Enumeration) (now : Int) (j : Jar) (op : Operation) : Jar :=
  match op.stores now j with
  | [] => op.apply now j
  | cs => cs.foldl e.insert j

end Enumeration

/-- No cookie of a jar is older. -/
def IsOldest (j : Jar) (c : Cookie) : Prop := ∀ d ∈ j.cookies, c.created.nanos ≤ d.created.nanos

/-- All oldest cookies of a jar are of one domain. -/
def OldestInOneDomain (j : Jar) : Prop :=
  ∀ v ∈ j.cookies, ∀ w ∈ j.cookies, j.IsOldest v → j.IsOldest w → v.domain = w.domain

/-- If a jar has more cookies than it may, its oldest ones are of one domain. -/
def EvictsClearly (j : Jar) : Prop := j.limits.total < j.count → j.OldestInOneDomain

/-- Whenever the limit of the jar is enforced while cookies are stored, the oldest cookies are of
    one domain. -/
def Enumeration.StoresClearly (e : Enumeration) (j : Jar) : List Cookie → Prop
  | [] => True
  | c :: cs => (e.arrange (j.put c)).EvictsClearly ∧ e.StoresClearly (e.insert j c) cs

/-! ## Runs -/

/-- What is asked of a jar, or done to it. -/
inductive Call where
  | change (op : Operation)
  | header? (a : Address)
  | snapshot
  | count
  deriving DecidableEq, Repr

/-- What a jar answers. -/
inductive Answer where
  | stored (stored : Bool)
  | done
  | header (header? : Option String)
  | cookies (cs : List Cookie)
  | number (n : Nat)
  deriving DecidableEq, Repr

/-- What a jar answers to a call when the clock reads `now`. -/
def Call.answer (now : Int) (j : Jar) : Call → Answer
  | .change (.receive a header) => .stored (j.receive a header now).1
  | .change _ => .done
  | .header? a => .header (j.header? a now)
  | .snapshot => .cookies (j.snapshot now)
  | .count => .number j.count

/-- One step: a call, the reading of the clock, and the order that the buckets have by then. -/
structure Turn where
  order : Enumeration
  now : Int
  call : Call

namespace Turn

/-- A step without the order of the buckets. -/
def asked (t : Turn) : Int × Call := (t.now, t.call)

def answer (t : Turn) (j : Jar) : Answer := t.call.answer t.now (t.order.arrange j)

/-- The jar after a step. -/
def jar (t : Turn) (j : Jar) : Jar :=
  match t.call with
  | .change op => t.order.apply t.now (t.order.arrange j) op
  | _ => t.order.arrange j

/-- Whenever a step enforces the limit of the jar, the oldest cookies are of one domain. -/
def IsClear (t : Turn) (j : Jar) : Prop :=
  match t.call with
  | .change op => t.order.StoresClearly (t.order.arrange j) (op.stores t.now (t.order.arrange j))
  | _ => True

end Turn

/-- The jar after steps. -/
def runTurns (j : Jar) (ts : List Turn) : Jar := ts.foldl (fun j t => t.jar j) j

/-- What a jar answers at each step, and the map that it is afterwards. -/
def trace (j : Jar) : List Turn → List (Answer × (String → List Cookie))
  | [] => []
  | t :: ts => (t.answer j, (t.jar j).ofDomain) :: (t.jar j).trace ts

/-- Whenever the limit of the jar is enforced in a run, the oldest cookies are of one domain. -/
def IsClearRun (j : Jar) : List Turn → Prop
  | [] => True
  | t :: ts => t.IsClear j ∧ (t.jar j).IsClearRun ts

instance (j : Jar) (c : Cookie) : Decidable (j.IsOldest c) :=
  inferInstanceAs (Decidable (∀ d ∈ j.cookies, _))

instance (j : Jar) : Decidable j.OldestInOneDomain :=
  inferInstanceAs (Decidable (∀ v ∈ j.cookies, ∀ w ∈ j.cookies, _ → _ → _))

instance (j : Jar) : Decidable j.EvictsClearly :=
  inferInstanceAs (Decidable (_ → _))

instance decidableStoresClearly (e : Enumeration) (j : Jar) :
    (cs : List Cookie) → Decidable (e.StoresClearly j cs)
  | [] => isTrue trivial
  | c :: cs =>
    have := decidableStoresClearly e (e.insert j c) cs
    inferInstanceAs (Decidable (_ ∧ _))

instance (t : Turn) (j : Jar) : Decidable (t.IsClear j) :=
  match t with
  | ⟨e, now, .change op⟩ =>
    inferInstanceAs (Decidable (e.StoresClearly (e.arrange j) (op.stores now (e.arrange j))))
  | ⟨_, _, .header? _⟩ | ⟨_, _, .snapshot⟩ | ⟨_, _, .count⟩ => isTrue trivial

instance decidableIsClearRun (j : Jar) : (ts : List Turn) → Decidable (j.IsClearRun ts)
  | [] => isTrue trivial
  | t :: ts =>
    have := decidableIsClearRun (t.jar j) ts
    inferInstanceAs (Decidable (_ ∧ _))

/-! ## Jars that are equal as maps -/

/-- Two jars are equal as maps: their domains have the same cookies. -/
structure SameMap (j k : Jar) : Prop where
  accepts : j.accepts = k.accepts
  limits : j.limits = k.limits
  ofDomain : ∀ domain, j.ofDomain domain = k.ofDomain domain

/-- One of them is all of the other one. -/
theorem sameMap_iff_isPart {j k : Jar} : SameMap j k ↔ IsPart (fun _ => True) j k := by
  constructor
  · intro h
    exact ⟨h.accepts, h.limits, fun d => (h.ofDomain d).trans (if_pos trivial).symm⟩
  · intro h
    exact ⟨h.accepts, h.limits, fun d => (h.ofDomain d).trans (if_pos trivial)⟩

namespace SameMap

variable {i j k : Jar}

/-- To have the same maps goes both ways. -/
theorem symm (h : SameMap j k) : SameMap k j :=
  ⟨h.accepts.symm, h.limits.symm, fun d => (h.ofDomain d).symm⟩

/-- Jars with the maps of one jar have the same maps. -/
theorem trans (hij : SameMap i j) (hjk : SameMap j k) : SameMap i k :=
  ⟨hij.accepts.trans hjk.accepts, hij.limits.trans hjk.limits,
    fun d => (hij.ofDomain d).trans (hjk.ofDomain d)⟩

section AllValid

variable (h : SameMap j k) (hj : AllValid j.limits.perHost j.buckets)
  (hk : AllValid k.limits.perHost k.buckets)

include h hj hk

/-- All cookies together are the same, in any order. -/
theorem cookies_perm : j.cookies.Perm k.cookies :=
  ((sameMap_iff_isPart.1 h).subperm hk hj).antisymm ((sameMap_iff_isPart.1 h.symm).subperm hj hk)

/-- Jars with the same maps hold as many cookies. -/
theorem count_eq : j.count = k.count := (h.cookies_perm hj hk).length_eq

/-- The oldest cookie is of the same domain in both jars, and there it is the first one. -/
theorem dropOldest (hclear : j.OldestInOneDomain) : SameMap j.dropOldest k.dropOldest := by
  have hperm := h.cookies_perm hj hk
  -- Without cookies there is nothing to drop, in either jar.
  by_cases hne : j.cookies = []
  · have hne' : k.cookies = [] := List.perm_nil.1 (hne ▸ hperm).symm
    rw [dropOldest_of_nil hne, dropOldest_of_nil hne']
    exact h
  · have hne' : k.cookies ≠ [] := fun hnil => hne (List.perm_nil.1 (hnil ▸ hperm))
    obtain ⟨c, hc, hle, hdrop⟩ := exists_of_dropOldest hj hne
    obtain ⟨d, hd, hle', hdrop'⟩ := exists_of_dropOldest hk hne'
    have hcmem : c ∈ j.cookies := (mem_ofDomain_self hj).1 hc
    have hdmem : d ∈ j.cookies := hperm.mem_iff.2 ((mem_ofDomain_self hk).1 hd)
    -- Both searches find cookies that no other one is older than, but maybe not the same one.
    have hlater : j.IsOldest d := fun e he => hle' e (hperm.mem_iff.1 he)
    have htime : c.created.nanos = d.created.nanos :=
      Int.le_antisymm (hle d hdmem) (hlater c hcmem)
    have hdomain : c.domain = d.domain := hclear c hcmem d hdmem hle hlater
    refine ⟨?_, ?_, ?_⟩
    · rw [accepts_dropOldest, accepts_dropOldest, h.accepts]
    · rw [(dropOldest_spec hj).2.1, (dropOldest_spec hk).2.1, h.limits]
    · -- The same time is looked for in the same bucket, and the other buckets are left alone.
      intro domain
      have hfind : Bucket.find d.domain j.buckets = Bucket.find d.domain k.buckets :=
        h.ofDomain d.domain
      rw [hdrop, hdrop', hdomain, htime, hfind, Jar.ofDomain, Jar.ofDomain,
        Bucket.find_set hj.domains_nodup, Bucket.find_set hk.domains_nodup]
      split
      · rfl
      · exact h.ofDomain domain

/-- A jar that has one cookie too many drops the same cookie as a jar that is equal to it. -/
theorem enforceTotal (hclear : j.EvictsClearly) (hcount : j.count ≤ j.limits.total + 1) :
    SameMap j.enforceTotal k.enforceTotal := by
  have hcount' := h.count_eq hj hk
  have hlimits := h.limits
  by_cases hle : j.count ≤ j.limits.total
  · rw [enforceTotal_of_le hle, enforceTotal_of_le (by rw [← hlimits]; omega)]
    exact h
  · have hfull : j.count = j.limits.total + 1 := by omega
    rw [enforceTotal_of_eq_succ hfull, enforceTotal_of_eq_succ (by rw [← hlimits]; omega)]
    exact h.dropOldest hj hk (hclear (by omega))

theorem put (c : Cookie) : SameMap (j.put c) (k.put c) :=
  sameMap_iff_isPart.2 ((sameMap_iff_isPart.1 h).put hk hj trivial)

end AllValid

/-! ## Answers -/

/-- Whether a header value stores a cookie does not depend on the cookies in the jar. -/
theorem receive_fst (h : SameMap j k) (a : Address) (header : String) (now : Int) :
    (j.receive a header now).1 = (k.receive a header now).1 := by
  unfold receive
  rw [h.accepts]
  split
  · split
    · rfl
    · split <;> rfl
  · rfl

/-- A snapshot is sorted, so it says nothing of the order of the buckets. -/
theorem snapshot_eq (h : SameMap j k) (hj : j.Valid) (hk : k.Valid) (now : Int) :
    j.snapshot now = k.snapshot now := by
  have hperm := (h.cookies_perm hj.buckets hk.buckets).filter (·.isSaved now)
  exact snapshot_eq_of_perm hj ((snapshot_perm k now).trans hperm.symm) (pairwise_snapshot k now)

/-- Every answer is read off the map. -/
theorem answer_eq (h : SameMap j k) (hj : j.Valid) (hk : k.Valid) (now : Int) (call : Call) :
    call.answer now j = call.answer now k := by
  cases call with
  | change op =>
    cases op with
    | receive a header => exact congrArg Answer.stored (h.receive_fst a header now)
    | _ => rfl
  | header? a =>
    exact congrArg Answer.header ((sameMap_iff_isPart.1 h).header?_eq (fun _ _ => trivial) now)
  | snapshot => exact congrArg Answer.cookies (h.snapshot_eq hj hk now)
  | count => exact congrArg Answer.number (h.count_eq hj.buckets hk.buckets)

end SameMap

/-! ## One step -/

section Step

variable {j k : Jar}

/-- Another order of the buckets is the same map. -/
theorem sameMap_arrange (e : Enumeration) (hj : AllValid j.limits.perHost j.buckets) :
    SameMap j (e.arrange j) :=
  ⟨rfl, rfl, Bucket.find_perm (e.perm j.buckets).symm hj.domains_nodup⟩

/-- Another order of the buckets leaves them valid. -/
theorem allValid_arrange (e : Enumeration) (hj : AllValid j.limits.perHost j.buckets) :
    AllValid (e.arrange j).limits.perHost (e.arrange j).buckets :=
  hj.of_perm (e.perm j.buckets)

/-- Another order of the buckets leaves the jar valid. -/
theorem valid_arrange (e : Enumeration) (hj : j.Valid) : (e.arrange j).Valid := by
  refine ⟨allValid_arrange e hj.buckets, ?_⟩
  have hcount := (sameMap_arrange e hj.buckets).count_eq hj.buckets (allValid_arrange e hj.buckets)
  rw [← hcount]
  exact hj.count_le

/-- Storing a cookie leaves the jar valid, whichever oldest cookie is found first. -/
theorem Enumeration.valid_insert (e : Enumeration) (hj : j.Valid) (c : Cookie) :
    (e.insert j c).Valid :=
  valid_enforceTotal (allValid_arrange e (allValid_put hj c))

/-- So does storing several cookies. -/
theorem Enumeration.valid_foldl_insert (e : Enumeration) (hj : j.Valid) (cs : List Cookie) :
    (cs.foldl e.insert j).Valid := by
  induction cs generalizing j with
  | nil => exact hj
  | cons c cs ih => exact ih (e.valid_insert hj c)

/-- Every operation leaves the jar valid, whatever order the buckets are looked at in. -/
theorem Enumeration.valid_apply (e : Enumeration) (hj : j.Valid) (now : Int) (op : Operation) :
    (e.apply now j op).Valid := by
  unfold Enumeration.apply
  split
  · exact (hj.apply now op).1
  · exact e.valid_foldl_insert hj _

/-- A turn leaves the jar valid. -/
theorem Turn.valid_jar (t : Turn) (hj : j.Valid) : (t.jar j).Valid := by
  unfold Turn.jar
  split
  · exact t.order.valid_apply (valid_arrange t.order hj) t.now _
  · exact valid_arrange t.order hj

namespace SameMap

/-- Storing a cookie under different orders. -/
theorem insert (h : SameMap j k) (hj : j.Valid) (hk : k.Valid) (e f : Enumeration) {c : Cookie}
    (hclear : (e.arrange (j.put c)).EvictsClearly) :
    SameMap (e.insert j c) (f.insert k c) := by
  have hputj := allValid_put hj c
  have hputk := allValid_put hk c
  -- Before anything is dropped the two jars differ in the order of their buckets only.
  have hput : SameMap (e.arrange (j.put c)) (f.arrange (k.put c)) :=
    (sameMap_arrange e hputj).symm.trans
      ((h.put hj.buckets hk.buckets c).trans (sameMap_arrange f hputk))
  refine hput.enforceTotal (allValid_arrange e hputj) (allValid_arrange f hputk) hclear ?_
  -- A valid jar has room for all its cookies, so one more is one too many at most.
  have hcount := (sameMap_arrange e hputj).count_eq hputj (allValid_arrange e hputj)
  have hle := count_put_le j c
  have htotal := hj.count_le
  show (e.arrange (j.put c)).count ≤ j.limits.total + 1
  omega

/-- Storing the same cookies into two jars with the same maps leaves the same maps, as long as it is
    clear each time which domain has to drop one. -/
theorem foldl_insert (h : SameMap j k) (hj : j.Valid) (hk : k.Valid) (e f : Enumeration)
    {cs : List Cookie} (hclear : e.StoresClearly j cs) :
    SameMap (cs.foldl e.insert j) (cs.foldl f.insert k) := by
  induction cs generalizing j k with
  | nil => exact h
  | cons c cs ih =>
    exact ih (h.insert hj hk e f hclear.1) (e.valid_insert hj c) (f.valid_insert hk c) hclear.2

/-- Jars with the same maps store the same cookies. -/
theorem stores_eq (h : SameMap j k) (now : Int) (op : Operation) :
    op.stores now j = op.stores now k := by
  cases op with
  | receive a header => simp only [Operation.stores, h.receive_fst a header now]
  | _ => rfl

/-- An operation that stores nothing leaves nothing to the limit of the jar. -/
theorem apply_of_stores_nil (h : SameMap j k) (hj : j.Valid) (hk : k.Valid) {now : Int}
    {op : Operation} (hnil : op.stores now j = []) :
    SameMap (op.apply now j) (op.apply now k) := by
  -- `j` is the part here, so what is asked of the whole is asked of `k`.
  have hnil' := (h.stores_eq now op).symm.trans hnil
  have hpart := sameMap_iff_isPart.1 h
  cases op with
  | receive a header =>
    refine sameMap_iff_isPart.2 (hpart.apply hk hj rfl (fun _ _ => trivial) ?_)
    intro hstored c hc
    simp [Operation.stores, hstored, hc] at hnil'
  | load cs =>
    -- Everything in the list has expired, so nothing happens.
    have hcs : cs.filter (!·.isExpired now) = [] := hnil
    simp only [Operation.apply, load, hcs]
    exact h
  | _ => exact sameMap_iff_isPart.2 (hpart.apply hk hj rfl trivial trivial)

/-- An operation leaves two jars with the same maps when it is clear what leaves. -/
theorem apply (h : SameMap j k) (hj : j.Valid) (hk : k.Valid) (e f : Enumeration) {now : Int}
    {op : Operation} (hclear : e.StoresClearly j (op.stores now j)) :
    SameMap (e.apply now j op) (f.apply now k op) := by
  unfold Enumeration.apply
  rw [← h.stores_eq now op]
  split
  · rename_i hnil
    exact h.apply_of_stores_nil hj hk hnil
  · exact h.foldl_insert hj hk e f hclear

/-- One step of each of two jars that are equal as maps, under different orders. -/
theorem turn (h : SameMap j k) (hj : j.Valid) (hk : k.Valid) {t u : Turn}
    (hasked : t.asked = u.asked) (hclear : t.IsClear j) :
    t.answer j = u.answer k ∧ SameMap (t.jar j) (u.jar k) := by
  obtain ⟨hnow, hcall⟩ := Prod.mk.inj hasked
  have harranged : SameMap (t.order.arrange j) (u.order.arrange k) :=
    (sameMap_arrange t.order hj.buckets).symm.trans (h.trans (sameMap_arrange u.order hk.buckets))
  have hj' := valid_arrange t.order hj
  have hk' := valid_arrange u.order hk
  -- The answer comes of the arranged jars, and so does what becomes of them.
  constructor
  · rw [Turn.answer, Turn.answer, ← hnow, ← hcall]
    exact harranged.answer_eq hj' hk' t.now t.call
  · unfold Turn.jar Turn.IsClear at *
    rw [← hnow, ← hcall]
    split
    · rename_i op hop
      rw [hop] at hclear
      exact harranged.apply hj' hk' t.order u.order hclear
    · exact harranged

end SameMap

end Step

/-! ## Every run -/

/-- A valid jar remains so through any turns. -/
theorem valid_runTurns {j : Jar} (hj : j.Valid) (ts : List Turn) : (j.runTurns ts).Valid := by
  induction ts generalizing j with
  | nil => exact hj
  | cons t ts ih => exact ih (t.valid_jar hj)

/-- Runs of two jars that are equal as maps. -/
theorem SameMap.run {j k : Jar} (h : SameMap j k) (hj : j.Valid) (hk : k.Valid)
    {ts us : List Turn} (hasked : ts.map Turn.asked = us.map Turn.asked)
    (hclear : j.IsClearRun ts) :
    j.trace ts = k.trace us ∧ SameMap (j.runTurns ts) (k.runTurns us) := by
  -- `hasked` makes the runs equally long and pairs their steps.
  induction ts generalizing j k us with
  | nil =>
    cases us with
    | nil => exact ⟨rfl, h⟩
    | cons u us => exact nomatch hasked
  | cons t ts ih =>
    cases us with
    | nil => exact nomatch hasked
    | cons u us =>
      rw [List.map_cons, List.map_cons, List.cons.injEq] at hasked
      obtain ⟨hanswer, hmap⟩ := h.turn hj hk hasked.1 hclear.1
      obtain ⟨htrace, hrun⟩ := ih hmap (t.valid_jar hj) (u.valid_jar hk) hasked.2 hclear.2
      have hofDomain : (t.jar j).ofDomain = (u.jar k).ofDomain := funext hmap.ofDomain
      rw [trace, trace, hanswer, hofDomain, htrace]
      exact ⟨rfl, hrun⟩

/-- With the buckets in the order that they have already, an operation does what it does. -/
theorem apply_asTheyAre {j : Jar} (hj : j.Valid) (now : Int) (op : Operation) :
    Enumeration.asTheyAre.apply now j op = op.apply now j := by
  -- With the buckets as they are, storing is what it always was.
  have hinsert (cs : List Cookie) :
      cs.foldl Enumeration.asTheyAre.insert j = cs.foldl Jar.insert j := by
    induction cs generalizing j with
    | nil => rfl
    | cons c cs ih =>
      have hfirst : Enumeration.asTheyAre.insert j c = j.insert c :=
        (insert_eq_enforceTotal hj c).symm
      rw [List.foldl_cons, List.foldl_cons, hfirst, ih (hj.insert c)]
  unfold Enumeration.apply
  split
  · rfl
  · rename_i hne
    rw [hinsert]
    cases op with
    | receive a header =>
      -- A cookie that was not stored is not among what was stored.
      cases hstored : (j.receive a header now).1 with
      | false => simp [Operation.stores, hstored] at hne
      | true =>
        obtain ⟨c, hreceived, hjar⟩ := exists_of_receive_fst hstored
        simp only [Operation.stores, hstored, hreceived, if_true, Option.toList_some]
        exact hjar.symm
    | load cs => rfl
    | _ => exact absurd rfl hne

/-- A run of operations is one of the runs here. -/
theorem runTurns_asTheyAre {j : Jar} (hj : j.Valid) (ops : List (Int × Operation)) :
    j.runTurns (ops.map fun o => ⟨.asTheyAre, o.1, .change o.2⟩) = j.run ops := by
  induction ops generalizing j with
  | nil => rfl
  | cons o ops ih =>
    have hfirst : Turn.jar ⟨.asTheyAre, o.1, .change o.2⟩ j = o.2.apply o.1 j :=
      apply_asTheyAre hj o.1 o.2
    show (Turn.jar ⟨.asTheyAre, o.1, .change o.2⟩ j).runTurns _ = (o.2.apply o.1 j).run ops
    rw [hfirst, ih (hj.apply o.1 o.2).1]

/-- The answers of a jar do not depend on the order of its buckets. Two jars that are equal as maps
    answer alike at every step and stay equal as maps, whatever orders are chosen for each of them
    at each step, if the oldest cookies are of one domain whenever the limit of the jar is enforced.

    At any time a snapshot is strictly in the order of domain, path and name, and has exactly the
    cookies of the jar that are persistent and have not expired. -/
theorem answers_of_any_order {j k : Jar} (hj : j.Valid) (hk : k.Valid) (h : SameMap j k)
    {ts us : List Turn} (hasked : ts.map Turn.asked = us.map Turn.asked) :
    (j.IsClearRun ts → j.trace ts = k.trace us ∧ SameMap (j.runTurns ts) (k.runTurns us)) ∧
      ∀ now,
        ((j.runTurns ts).snapshot now).Pairwise
            (fun c d => c.key.le d.key = true ∧ c.key ≠ d.key) ∧
          ∀ c, c ∈ (j.runTurns ts).snapshot now ↔
            c ∈ (j.runTurns ts).cookies ∧ c.isPersistent = true ∧ c.isExpired now = false := by
  refine ⟨h.run hj hk hasked, ?_⟩
  -- A snapshot is in the order of the keys, and has the cookies that are saved.
  intro now
  refine ⟨inKeyOrder_snapshot (valid_runTurns hj ts) now, ?_⟩
  intro c
  rw [(snapshot_perm _ now).mem_iff, List.mem_filter, Cookie.isSaved, Bool.and_eq_true,
    Bool.not_eq_true']

/-- A run with a full jar in which each step finds the buckets in some order. -/
def fullRun (e : Enumeration) : List Turn :=
  [⟨e, 1, .change (.receive ⟨"a.b", "/", .plain⟩ "k=1")⟩,
    ⟨e, 2, .change (.receive ⟨"b.c", "/", .plain⟩ "k=2; Max-Age=60")⟩,
    ⟨e, 3, .change (.receive ⟨"c.d", "/", .plain⟩ "k=3; Max-Age=60")⟩,
    ⟨e, 4, .header? ⟨"b.c", "/", .plain⟩⟩, ⟨e, 5, .snapshot⟩]

/-- With the buckets turned round at each step, the answers are the same, but the buckets come out
    in another order. -/
theorem answers_of_any_order_reversed :
    let j := empty (.of 2 2)
    let e : Enumeration := ⟨List.reverse, List.reverse_perm⟩
    j.IsClearRun (fullRun .asTheyAre) ∧ j.trace (fullRun .asTheyAre) = j.trace (fullRun e) ∧
      (j.runTurns (fullRun .asTheyAre)).buckets ≠ (j.runTurns (fullRun e)).buckets := by
  intro j e
  have hv : j.Valid := valid_empty (.of 2 2)
  have hsame : SameMap j j := ⟨rfl, rfl, fun _ => rfl⟩
  have hclear : j.IsClearRun (fullRun .asTheyAre) := by decide +kernel
  have hasked : (fullRun .asTheyAre).map Turn.asked = (fullRun e).map Turn.asked := rfl
  exact ⟨hclear, ((answers_of_any_order hv hv hsame hasked).1 hclear).1, by decide +kernel⟩

end Jar

end HttpState
