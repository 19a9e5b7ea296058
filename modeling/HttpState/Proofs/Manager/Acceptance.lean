import HttpState.Manager.Application
import HttpState.Proofs.Jar.Invariant
import HttpState.Proofs.List
import HttpState.Proofs.Manager.Shared

/-!
# Whether both jars take new cookies

Both jars of a manager say whether they take new cookies. A call that changes this writes the jar of
normal browsing, lets go of it, and writes the private jar. Two such calls can therefore meet
halfway. If they want different things, each of the jars may end up with what another call wrote,
and stay so when both calls have returned.

Once all calls have returned, both jars have been written the same, but maybe not in the same order,
and what counts is what came last. The orders cannot matter unless two calls at the same time want
different things. As long as there are none, the jars agree whenever no call is halfway, and a call
that no other one contradicts makes them agree again.

## Key results

- `Shared.accepts_run`: both jars say what they were told last
- `Shared.writes_perm`: both jars are told the same in the end
- `Shared.acceptsAlike_run`: the jars keep agreeing while no calls contradict each other
- `Shared.accept_flags_agree`: all of this, after any use by several threads
- `Shared.accept_flags_disagree`: two calls after which the jars do not agree
-/

namespace HttpState.Manager

/-- Only one call changes whether a jar takes new cookies. -/
theorem JarChange.accepts_eq {m : Manager} {mode : PrivacyMode} {now : Int} {op : Operation}
    {j : Jar} (h : m.JarChange mode now op j) (hop : ∀ b, op ≠ .setAccepts b) :
    j.accepts = (m.jar mode).accepts := by
  cases h with
  | same => rfl
  | received url header a => exact Jar.accepts_receive _ a header now
  | removedAll | removedExpired => rfl
  | accepted b hcall => exact absurd hcall (hop b)

namespace Shared

open scoped List

/-! ## What the jars are told -/

/-- What a section writes to the normal jar. -/
def Section.normalWrite? : Section → Option Bool
  | .call _ (.setAccepts b) => some b
  | _ => none

/-- What a section writes to the private jar. -/
def privateWrite? (σ : Shared) : Section → Option Bool
  | .acceptPrivate b => if b ∈ σ.halfway then some b else none
  | _ => none

/-- All that is written to the normal jar, in the order in which it comes to it. -/
def normalWrites (sections : List Section) : List Bool := sections.filterMap Section.normalWrite?

/-- All that is written to the private jar, in the order in which it comes to it. -/
def privateWrites (σ : Shared) : List Section → List Bool
  | [] => []
  | e :: sections => (σ.privateWrite? e).toList ++ (σ.apply e).privateWrites sections

/-- A section that belongs to no call of this kind leaves alone what the jars say. -/
theorem accepts_apply_of_ne (σ : Shared) {e : Section} (hcall : ∀ now b, e ≠ .call now (.setAccepts b))
    (hprivate : ∀ b, e ≠ .acceptPrivate b) :
    (σ.apply e).halfway = σ.halfway ∧ (σ.apply e).manager.accepts = σ.manager.accepts ∧
      (σ.apply e).manager.privateJar.accepts = σ.manager.privateJar.accepts := by
  cases e with
  | call now op =>
    have hop : ∀ b, op ≠ .setAccepts b := by
      rintro b rfl
      exact hcall now b rfl
    refine ⟨?_, ?_, ?_⟩
    · -- No other call leaves anything halfway.
      cases op with
      | setAccepts b => exact absurd rfl (hop b)
      | _ => rfl
    · exact (jarChange_call σ now op .normal).accepts_eq hop
    · exact (jarChange_call σ now op .privateBrowsing).accepts_eq hop
  | acceptPrivate b => exact absurd rfl (hprivate b)
  | outside change => exact ⟨rfl, rfl, rfl⟩
  | takeUp request =>
    simp only [apply, takeUp]
    split <;> exact ⟨rfl, rfl, rfl⟩
  | carryOut request fails =>
    -- Removing the session cookies does not touch the flag, whether it fails or not.
    simp only [apply, carryOut]
    split
    · refine ⟨rfl, ?_, rfl⟩
      cases fails with
      | false =>
        change σ.manager.normal.removeSession.jar.accepts = σ.manager.normal.jar.accepts
        rw [NormalJar.jar_removeSession]
        rfl
      | true => rfl
    · exact ⟨rfl, rfl, rfl⟩
  | release request =>
    simp only [apply, release]
    split <;> exact ⟨rfl, rfl, rfl⟩

/-- After a section, each jar says what the section has written to it, or what it said before. The
    first half of a call puts a value off for the private jar, and the second half writes it. -/
theorem accepts_apply (σ : Shared) (e : Section) :
    (σ.apply e).manager.accepts = e.normalWrite?.getD σ.manager.accepts ∧
      (σ.apply e).manager.privateJar.accepts =
        (σ.privateWrite? e).getD σ.manager.privateJar.accepts ∧
      (e.normalWrite?.toList ++ σ.halfway).Perm
        ((σ.privateWrite? e).toList ++ (σ.apply e).halfway) := by
  by_cases hcall : ∃ now b, e = .call now (.setAccepts b)
  · obtain ⟨now, b, rfl⟩ := hcall
    -- The call tells the normal jar, and leaves the private jar to be told.
    exact ⟨congrArg Jar.accepts (σ.manager.normal.jar_setAccepts b), rfl, .refl _⟩
  · have hnone : e.normalWrite? = none := by
      unfold Section.normalWrite?
      split
      · exact absurd ⟨_, _, rfl⟩ hcall
      · rfl
    -- Telling the private jar finishes what some call has begun; without such a call there is
    -- nothing to tell.
    by_cases hprivate : ∃ b, e = .acceptPrivate b
    · obtain ⟨b, rfl⟩ := hprivate
      by_cases hmem : b ∈ σ.halfway
      · simp only [apply, acceptPrivate, privateWrite?, if_pos hmem]
        exact ⟨rfl, rfl, List.perm_cons_erase hmem⟩
      · simp only [apply, acceptPrivate, privateWrite?, if_neg hmem]
        exact ⟨rfl, rfl, .refl _⟩
    · -- All other sections tell neither jar.
      have hnone' : σ.privateWrite? e = none := by
        unfold privateWrite?
        split
        · exact absurd ⟨_, rfl⟩ hprivate
        · rfl
      obtain ⟨hhalfway, hnormal, hpriv⟩ := σ.accepts_apply_of_ne
        (fun now b heq => hcall ⟨now, b, heq⟩) (fun b heq => hprivate ⟨b, heq⟩)
      rw [hnone, hnone', hhalfway, hnormal, hpriv]
      exact ⟨rfl, rfl, .refl _⟩

/-- What is told to the normal jar is told section by section. -/
theorem normalWrites_cons (e : Section) (sections : List Section) :
    normalWrites (e :: sections) = e.normalWrite?.toList ++ normalWrites sections := by
  rw [normalWrites, List.filterMap_cons]
  cases e.normalWrite? <;> rfl

/-- Each jar says what was written to it last. -/
theorem accepts_run (σ : Shared) (sections : List Section) :
    (σ.run sections).manager.accepts =
        (normalWrites sections).getLast?.getD σ.manager.accepts ∧
      (σ.run sections).manager.privateJar.accepts =
        (σ.privateWrites sections).getLast?.getD σ.manager.privateJar.accepts := by
  induction sections generalizing σ with
  | nil => exact ⟨rfl, rfl⟩
  | cons e sections ih =>
    -- The last write counts, or else what the first section left.
    obtain ⟨hnormal, hpriv⟩ := ih (σ.apply e)
    obtain ⟨hnormal', hpriv', _⟩ := σ.accepts_apply e
    rw [run_cons, hnormal, hpriv, hnormal', hpriv', normalWrites_cons, privateWrites,
      List.getLast?_toList_append_getD, List.getLast?_toList_append_getD]
    exact ⟨rfl, rfl⟩

/-- Both jars are told the same, but for what is still halfway. -/
theorem writes_perm (σ : Shared) (sections : List Section) :
    (normalWrites sections ++ σ.halfway).Perm
      (σ.privateWrites sections ++ (σ.run sections).halfway) := by
  -- In each section, what is told to the normal jar and what was halfway before is what is told to
  -- the private jar and what is halfway afterwards.
  induction sections generalizing σ with
  | nil => exact .refl _
  | cons e sections ih =>
    obtain ⟨_, _, hfirst⟩ := σ.accepts_apply e
    have hrest := ih (σ.apply e)
    rw [normalWrites_cons, privateWrites, run_cons]
    calc e.normalWrite?.toList ++ normalWrites sections ++ σ.halfway
        _ = e.normalWrite?.toList ++ (normalWrites sections ++ σ.halfway) := List.append_assoc ..
        _ ~ normalWrites sections ++ (e.normalWrite?.toList ++ σ.halfway) :=
          List.perm_append_comm_assoc ..
        _ ~ normalWrites sections ++ ((σ.privateWrite? e).toList ++ (σ.apply e).halfway) :=
          hfirst.append_left _
        _ ~ (σ.privateWrite? e).toList ++ (normalWrites sections ++ (σ.apply e).halfway) :=
          List.perm_append_comm_assoc ..
        _ ~ (σ.privateWrite? e).toList ++ ((σ.apply e).privateWrites sections ++
            ((σ.apply e).run sections).halfway) := hrest.append_left _
        _ = _ := (List.append_assoc ..).symm

/-! ## Calls that do not contradict each other -/

/-- What the calls that are halfway write to the private jar is what the normal jar says. When there
    are none, the two jars say the same. -/
structure AcceptsAlike (σ : Shared) : Prop where
  halfway : ∀ b ∈ σ.halfway, b = σ.manager.accepts
  settled : σ.halfway = [] → σ.manager.privateJar.accepts = σ.manager.accepts

/-- No call says that new cookies are taken while another one is halfway that says the opposite. -/
def Undisputed (σ : Shared) (sections : List Section) : Prop :=
  ∀ before now b after, sections = before ++ .call now (.setAccepts b) :: after →
    (!b) ∉ (σ.run before).halfway

/-- Where nothing happens, nothing is disputed. -/
theorem undisputed_nil (σ : Shared) : σ.Undisputed [] := by
  intro before now b after heq
  exact absurd heq.symm (by simp)

/-- A run is undisputed if its first section is, and what follows it. -/
theorem undisputed_cons {σ : Shared} {e : Section} {sections : List Section} :
    σ.Undisputed (e :: sections) ↔
      (∀ now b, e = .call now (.setAccepts b) → (!b) ∉ σ.halfway) ∧
        (σ.apply e).Undisputed sections := by
  constructor
  · intro h
    refine ⟨?_, ?_⟩
    · rintro now b rfl
      exact h [] now b sections rfl
    · rintro before now b after rfl
      exact h (e :: before) now b after rfl
  · -- The call in question is the first section, or a later one.
    rintro ⟨hhead, htail⟩ before now b after heq
    cases before with
    | nil => exact hhead now b (List.cons.inj heq).1
    | cons e' before =>
      obtain ⟨rfl, hrest⟩ := List.cons.inj heq
      exact htail before now b after hrest

/-- The first half of a call that no other one contradicts, whatever the jars said before. -/
theorem acceptsAlike_call_setAccepts {σ : Shared} (now : Int) {b : Bool}
    (hb : (!b) ∉ σ.halfway) : (σ.apply (.call now (.setAccepts b))).AcceptsAlike := by
  have haccepts : (σ.apply (.call now (.setAccepts b))).manager.accepts = b :=
    congrArg Jar.accepts (σ.manager.normal.jar_setAccepts b)
  refine ⟨?_, fun hnil => absurd hnil (by simp [apply, call])⟩
  intro d hd
  rw [haccepts]
  rcases List.mem_cons.1 hd with rfl | hd
  · rfl
  · -- Any other call that is halfway writes the same value.
    by_contra hne
    exact hb (Bool.eq_not.2 hne ▸ hd)

/-- The second half of a call. -/
theorem AcceptsAlike.acceptPrivate {σ : Shared} (h : σ.AcceptsAlike) (b : Bool) :
    (σ.acceptPrivate b).AcceptsAlike := by
  unfold Shared.acceptPrivate
  split
  · rename_i hmem
    refine ⟨?_, ?_⟩
    · intro d hd
      exact h.halfway d (List.mem_of_mem_erase hd)
    · exact fun _ => h.halfway b hmem
  · exact h

/-- An undisputed section leaves the two flags alike. -/
theorem AcceptsAlike.apply {σ : Shared} (h : σ.AcceptsAlike) {e : Section}
    {sections : List Section} (hundisputed : σ.Undisputed (e :: sections)) :
    (σ.apply e).AcceptsAlike := by
  by_cases hcall : ∃ now b, e = .call now (.setAccepts b)
  · -- A call for both jars: from here on they agree.
    obtain ⟨now, b, rfl⟩ := hcall
    exact acceptsAlike_call_setAccepts now ((undisputed_cons.1 hundisputed).1 now b rfl)
  · -- Something else, which leaves both alone or sets the private one only.
    by_cases hprivate : ∃ b, e = .acceptPrivate b
    · obtain ⟨b, rfl⟩ := hprivate
      exact h.acceptPrivate b
    · obtain ⟨hhalfway, hnormal, hpriv⟩ := σ.accepts_apply_of_ne
        (fun now b heq => hcall ⟨now, b, heq⟩) (fun b heq => hprivate ⟨b, heq⟩)
      refine ⟨?_, ?_⟩
      · rw [hhalfway, hnormal]
        exact h.halfway
      · rw [hhalfway, hnormal, hpriv]
        exact h.settled

/-! ## Runs -/

/-- While no calls contradict each other, the jars keep agreeing. -/
theorem acceptsAlike_run {σ : Shared} (h : σ.AcceptsAlike) {sections : List Section}
    (hundisputed : σ.Undisputed sections) : (σ.run sections).AcceptsAlike := by
  induction sections generalizing σ with
  | nil => exact h
  | cons e sections ih => exact ih (h.apply hundisputed) (undisputed_cons.1 hundisputed).2

/-- A call that no other one contradicts makes the jars agree, whatever they said before. -/
theorem acceptsAlike_run_of_call {σ : Shared} {sections : List Section}
    (hundisputed : σ.Undisputed sections)
    (hcall : ∃ now b, .call now (.setAccepts b) ∈ sections) : (σ.run sections).AcceptsAlike := by
  induction sections generalizing σ with
  | nil =>
    -- No such call is left.
    obtain ⟨_, _, hmem⟩ := hcall
    exact absurd hmem List.not_mem_nil
  | cons e sections ih =>
    obtain ⟨now, b, hmem⟩ := hcall
    obtain ⟨hhead, htail⟩ := undisputed_cons.1 hundisputed
    rcases List.mem_cons.1 hmem with rfl | hrest
    · -- It is the first section, and what follows keeps them alike.
      exact acceptsAlike_run (acceptsAlike_call_setAccepts now (hhead now b rfl)) htail
    · -- It comes later.
      exact ih htail ⟨now, b, hrest⟩

/-- Take any manager and anything that any number of threads do with it. Each of the jars says what
    was written to it last, or what the manager was made with, and both have been written the same
    values, but for those of calls that are halfway.

    Suppose now that no call is halfway, and that from the start, or from some later time on, no
    call has said that new cookies are taken while another one was halfway that says the opposite;
    and if it is from a later time on, that there has been such a call since. Then both jars say the
    same, so that what the manager says of the normal jar holds of both. -/
theorem accept_flags_agree (c : Config) (normal : NormalJar) (privateJar : Jar) (p : FilePolicy)
    (s : Storage) (earlier later : List Section) :
    let σ₀ := start (ofJars c normal privateJar p) s
    let σ := σ₀.run (earlier ++ later)
    σ.manager.accepts = (normalWrites (earlier ++ later)).getLast?.getD c.acceptCookies ∧
      σ.manager.privateJar.accepts =
        (σ₀.privateWrites (earlier ++ later)).getLast?.getD c.acceptCookies ∧
      normalWrites (earlier ++ later) ~ σ₀.privateWrites (earlier ++ later) ++ σ.halfway ∧
      (σ.halfway = [] → (σ₀.run earlier).Undisputed later →
        (earlier = [] ∨ ∃ now b, .call now (.setAccepts b) ∈ later) →
          σ.manager.privateJar.accepts = σ.manager.accepts) := by
  intro σ₀ σ
  have hinitial : σ₀.manager.accepts = c.acceptCookies :=
    congrArg Jar.accepts (normal.jar_setAccepts c.acceptCookies)
  obtain ⟨hnormal, hpriv⟩ := σ₀.accepts_run (earlier ++ later)
  refine ⟨hinitial ▸ hnormal, hpriv, ?_, ?_⟩
  · -- Every value told to one jar is told to the other, or is still to be told to it.
    have hperm := σ₀.writes_perm (earlier ++ later)
    rwa [show σ₀.halfway = [] from rfl, List.append_nil] at hperm
  · -- Nothing is halfway any more, so the last value told to the normal jar has reached the private
    -- one.
    intro hquiet hundisputed hcall
    have halike : ((σ₀.run earlier).run later).AcceptsAlike := by
      rcases hcall with rfl | hcall
      · refine acceptsAlike_run ⟨?_, fun _ => hinitial.symm⟩ hundisputed
        exact fun b hb => absurd hb List.not_mem_nil
      · exact acceptsAlike_run_of_call hundisputed hcall
    rw [← run_append] at halike
    exact halike.settled hquiet

/-- Two calls that want different things: the one that comes last to the normal jar is the first to
    come to the private one. -/
def disputedCalls : List Section :=
  [.call 0 (.setAccepts true), .call 1 (.setAccepts false), .acceptPrivate false,
    .acceptPrivate true]

/-- Two calls that meet halfway but want the same. -/
def agreeingCalls : List Section :=
  [.call 2 (.setAccepts true), .call 3 (.setAccepts true), .acceptPrivate true,
    .acceptPrivate true]

/-- The jars agree after calls that want the same, although there was a dispute before. -/
theorem accept_flags_agree_again :
    let m := ofJars {} (.volatile (.empty (.of 2 2))) (.empty (.of 2 2)) (.of false)
    let σ := (start m .empty).run (disputedCalls ++ agreeingCalls)
    σ.halfway = [] ∧ σ.manager.accepts = true ∧ σ.manager.privateJar.accepts = true := by
  intro m σ
  have hundisputed : ((start m .empty).run disputedCalls).Undisputed agreeingCalls := by
    simp [agreeingCalls, undisputed_cons, undisputed_nil, disputedCalls, run, apply, call,
      acceptPrivate, start]
  have hagree := accept_flags_agree {} (.volatile (.empty (.of 2 2))) (.empty (.of 2 2)) (.of false)
    .empty disputedCalls agreeingCalls
  exact ⟨rfl, rfl, hagree.2.2.2 rfl hundisputed (.inr ⟨2, true, List.mem_cons_self⟩)⟩

/-- After a dispute both calls have returned, and the jars disagree. -/
theorem accept_flags_disagree :
    let σ := (start (Application.start .empty).manager.1 .empty).run disputedCalls
    σ.halfway = [] ∧ σ.manager.accepts = false ∧ σ.manager.privateJar.accepts = true :=
  ⟨rfl, rfl, rfl⟩

end Shared

end HttpState.Manager
