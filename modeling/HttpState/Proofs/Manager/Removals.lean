import HttpState.Manager.Application
import HttpState.Proofs.Jar.Contents
import HttpState.Proofs.Manager.Shared
import Mathlib.Data.List.Induction

/-!
# Waiting for removals in the background

Whoever waits until no operation is pending finds all removals carried out that were requested
before. Every request is counted as a pending operation until a worker releases it, which comes
after the removal has been carried out, and nothing else is counted. So when the count is zero, no
removal is in the queue or with a worker.

What the jar of normal browsing then holds depends on what the other threads did in the meantime. A
removal leaves no session cookies, and only a call stores a cookie; so each session cookie was
stored after the last of these removals.

## Key results

- `Shared.isCounted_run`: the count is the number of removals that are on their way
- `Shared.hasCarriedOut_of_isIdle`: with nothing pending, what was requested has been carried out
- `Shared.session_cookie_of_run`: where the session cookies in the normal jar come from
- `Shared.barrier_covers_removals`: what can be relied on in every state, and after waiting
-/

namespace HttpState.Manager.Shared

open scoped List

/-! ## The number of pending operations -/

/-- The removals that are in the queue or with a worker. -/
def onTheWay (σ : Shared) : List Nat := σ.manager.queue ++ σ.running ++ σ.leaving

/-- What is pending are the removals that are on their way, each of which has its own number. -/
structure IsCounted (σ : Shared) : Prop where
  pending : σ.manager.barrier.pending = σ.onTheWay.length
  nodup : σ.onTheWay.Nodup
  requested : ∀ request ∈ σ.onTheWay, request < σ.manager.requests

/-- A manager with nothing in its queue and an idle barrier has nothing on the way. -/
theorem isCounted_start (m : Manager) (s : Storage) (hqueue : m.queue = [])
    (hbarrier : m.barrier = .idle) : (start m s).IsCounted := by
  have hnil : (start m s).onTheWay = [] := by simp [onTheWay, start, hqueue]
  refine ⟨?_, ?_, ?_⟩
  · rw [hnil]
    exact congrArg Barrier.pending hbarrier
  · simp [hnil]
  · simp [hnil]

/-- The count stays right when nothing but the order of the removals changes. -/
theorem IsCounted.of_perm {σ τ : Shared} (h : σ.IsCounted) (hperm : τ.onTheWay ~ σ.onTheWay)
    (hrequests : τ.manager.requests = σ.manager.requests)
    (hbarrier : τ.manager.barrier = σ.manager.barrier) : τ.IsCounted := by
  refine ⟨?_, hperm.nodup_iff.2 h.nodup, ?_⟩
  · rw [hbarrier, h.pending, hperm.length_eq]
  · intro request hmem
    rw [hrequests]
    exact h.requested request (hperm.mem_iff.1 hmem)

/-- What holds an operation can complete it. -/
theorem IsCounted.complete? {σ : Shared} (h : σ.IsCounted) {request : Nat}
    (hmem : request ∈ σ.leaving) :
    ∃ b, σ.manager.barrier.complete? = some b ∧ b.pending + 1 = σ.manager.barrier.pending := by
  have hpos : 0 < σ.onTheWay.length := List.length_pos_of_mem (List.mem_append_right _ hmem)
  have hcount := h.pending
  cases hpending : σ.manager.barrier.pending with
  | zero => omega
  | succ n => exact ⟨⟨n⟩, by simp [Barrier.complete?, hpending], rfl⟩

/-- A request is counted, under a number that no removal on its way has. -/
theorem isCounted_request {σ : Shared} (h : σ.IsCounted) (now : Int) :
    -- The new removal stands at the end of the queue, with the number of all that have been
    -- requested.
    (σ.apply (.call now .requestSessionRemoval)).IsCounted := by
  have hperm : (σ.apply (.call now .requestSessionRemoval)).onTheWay ~
      σ.manager.requests :: σ.onTheWay := by
    simp only [onTheWay, apply, call, Operation.apply, requestSessionRemoval, List.append_assoc]
    exact List.perm_middle
  have hnew : σ.manager.requests ∉ σ.onTheWay := fun hmem => Nat.lt_irrefl _ (h.requested _ hmem)
  refine ⟨?_, hperm.nodup_iff.2 (List.nodup_cons.2 ⟨hnew, h.nodup⟩), ?_⟩
  · rw [hperm.length_eq, List.length_cons, ← h.pending]
    rfl
  · intro request hmem
    rcases List.mem_cons.1 (hperm.mem_iff.1 hmem) with rfl | hmem
    · exact Nat.lt_succ_self _
    · exact Nat.lt_succ_of_lt (h.requested request hmem)

/-- A removal that is released is on its way no more, and is not counted any more. -/
theorem isCounted_release {σ : Shared} (h : σ.IsCounted) {request : Nat}
    (hmem : request ∈ σ.leaving) : (σ.apply (.release request)).IsCounted := by
  obtain ⟨b, hb, hpending⟩ := h.complete? hmem
  have hbarrier : (σ.apply (.release request)).manager.barrier = b := by
    simp [apply, release, hmem, hb]
  have hrequests : (σ.apply (.release request)).manager.requests = σ.manager.requests := by
    simp [apply, release, hmem]
  have hperm : σ.onTheWay ~ request :: (σ.apply (.release request)).onTheWay := by
    simp only [onTheWay, apply, release, if_pos hmem]
    -- The removal was on the way, and all others still are.
    exact ((List.perm_cons_erase hmem).append_left _).trans List.perm_middle
  refine ⟨?_, (List.nodup_cons.1 (hperm.nodup_iff.1 h.nodup)).2, ?_⟩
  · have hlength := hperm.length_eq
    rw [List.length_cons, ← h.pending] at hlength
    rw [hbarrier]
    omega
  · intro other hother
    rw [hrequests]
    exact h.requested other (hperm.mem_iff.2 (List.mem_cons_of_mem _ hother))

/-- Taking something from one list to the next leaves the same in both together. -/
theorem erase_append_cons_perm {l m : List Nat} {request : Nat} (h : request ∈ l) :
    l.erase request ++ request :: m ~ l ++ m :=
  List.perm_middle.trans ((List.perm_cons_erase h).symm.append_right m)

/-- The step of the invariant: whichever section runs, what is pending are the removals on their
    way. A removal moves on from list to list and is counted until it is released. -/
theorem isCounted_apply {σ : Shared} (h : σ.IsCounted) (e : Section) : (σ.apply e).IsCounted := by
  cases e with
  | call now op =>
    -- Only one call is about removals: the request of one.
    by_cases hop : op = .requestSessionRemoval
    · subst hop
      exact isCounted_request h now
    · obtain ⟨hqueue, hrequests, hbarrier, hrunning, hleaving⟩ := sameRemovals_call σ now hop
      refine h.of_perm ?_ hrequests hbarrier
      rw [apply, onTheWay, hqueue, hrunning, hleaving]
      exact .refl _
  | acceptPrivate b =>
    simp only [apply, acceptPrivate]
    split
    · exact h.of_perm (.refl _) rfl rfl
    · exact h
  | takeUp request =>
    -- The removal goes from the queue to those that have been taken.
    simp only [apply, takeUp]
    split
    · rename_i hmem
      exact h.of_perm ((erase_append_cons_perm hmem).append_right _) rfl rfl
    · exact h
  | carryOut request fails =>
    -- The removal goes on to those that have been carried out.
    simp only [apply, carryOut]
    split
    · rename_i hmem
      refine h.of_perm ?_ rfl rfl
      simp only [onTheWay, List.append_assoc]
      exact (erase_append_cons_perm hmem).append_left _
    · exact h
  | release request =>
    by_cases hmem : request ∈ σ.leaving
    · exact isCounted_release h hmem
    · simp only [apply, release, if_neg hmem]
      exact h
  | outside change => exact h.of_perm (.refl _) rfl rfl

/-- The count is right in every state that a manager comes to. -/
theorem isCounted_run {σ : Shared} (h : σ.IsCounted) (sections : List Section) :
    (σ.run sections).IsCounted := by
  induction sections generalizing σ with
  | nil => exact h
  | cons e sections ih => exact ih (isCounted_apply h e)

/-- When nothing is pending, no removal is on its way. -/
theorem IsCounted.onTheWay_of_isIdle {σ : Shared} (h : σ.IsCounted)
    (hidle : σ.manager.barrier.isIdle = true) : σ.onTheWay = [] := by
  have hzero : σ.manager.barrier.pending = 0 := by simpa [Barrier.isIdle] using hidle
  exact List.eq_nil_of_length_eq_zero (h.pending.symm.trans hzero)

/-! ## From the request to the removal -/

/-- Among the sections there is one in which a worker that has taken a removal carries it out. -/
def HasCarriedOut (σ : Shared) (sections : List Section) (request : Nat) (fails : Bool) : Prop :=
  ∃ before after, sections = before ++ .carryOut request fails :: after ∧
    request ∈ (σ.run before).running

/-- A removal is carried out in the first section, or in a later one. -/
theorem hasCarriedOut_cons {σ : Shared} {e : Section} {sections : List Section} {request : Nat}
    {fails : Bool} :
    σ.HasCarriedOut (e :: sections) request fails ↔
      (e = .carryOut request fails ∧ request ∈ σ.running) ∨
        (σ.apply e).HasCarriedOut sections request fails := by
  -- Whether the section stands first decides which.
  constructor
  · rintro ⟨before, after, heq, hmem⟩
    cases before with
    | nil =>
      obtain ⟨rfl, rfl⟩ := List.cons.inj heq
      exact .inl ⟨rfl, hmem⟩
    | cons e' before =>
      obtain ⟨rfl, rfl⟩ := List.cons.inj heq
      exact .inr ⟨before, after, rfl, hmem⟩
  · rintro (⟨rfl, hmem⟩ | ⟨before, after, rfl, hmem⟩)
    · exact ⟨[], sections, rfl, hmem⟩
    · exact ⟨e :: before, after, rfl, hmem⟩

/-- In no sections nothing is carried out. -/
theorem not_hasCarriedOut_nil {σ : Shared} {request : Nat} {fails : Bool} :
    ¬ σ.HasCarriedOut [] request fails := by
  rintro ⟨before, after, heq, _⟩
  exact absurd heq.symm (by simp)

/-- A removal is carried out in the first part of a run, or in the second. -/
theorem hasCarriedOut_append {σ : Shared} {before after : List Section} {request : Nat}
    {fails : Bool} :
    σ.HasCarriedOut (before ++ after) request fails ↔
      σ.HasCarriedOut before request fails ∨
        (σ.run before).HasCarriedOut after request fails := by
  induction before generalizing σ with
  | nil => simp [not_hasCarriedOut_nil]
  | cons e before ih =>
    rw [List.cons_append, hasCarriedOut_cons, ih, hasCarriedOut_cons, run_cons, or_assoc]

/-- A removal was requested and has not been carried out. -/
def Awaits (σ : Shared) (request : Nat) : Prop :=
  request ∈ σ.manager.queue ∨ request ∈ σ.running

/-- A removal that waits goes on waiting, unless it is carried out. -/
theorem awaits_apply {σ : Shared} {request : Nat} (h : σ.Awaits request) (e : Section) :
    (σ.apply e).Awaits request ∨ ∃ fails, e = .carryOut request fails ∧ request ∈ σ.running := by
  -- Only two sections take something out of the lists: one puts the removal into the other list,
  -- and one carries it out.
  cases e with
  | call now op =>
    refine .inl ?_
    by_cases hop : op = .requestSessionRemoval
    · subst hop
      exact h.imp_left (List.mem_append_left _)
    · have hsame := sameRemovals_call σ now hop
      unfold Awaits apply
      rw [hsame.queue, hsame.running]
      exact h
  | acceptPrivate b =>
    refine .inl ?_
    simp only [apply, acceptPrivate]
    split
    · exact h
    · exact h
  | takeUp other =>
    refine .inl ?_
    simp only [apply, takeUp]
    split
    · -- The removal is the one that is taken, or stays where it is.
      by_cases heq : request = other
      · exact .inr (List.mem_cons.2 (.inl heq))
      · exact h.imp (List.mem_erase_of_ne heq).2 (List.mem_cons_of_mem other)
    · exact h
  | carryOut other fails =>
    by_cases heq : other = request ∧ request ∈ σ.running
    · exact .inr ⟨fails, by rw [heq.1], heq.2⟩
    · refine .inl ?_
      simp only [apply, carryOut]
      split
      · rename_i hmem
        refine h.imp_right ?_
        intro hrunning
        exact (List.mem_erase_of_ne (fun hrequest => heq ⟨hrequest.symm, hrunning⟩)).2 hrunning
      · exact h
  | release other =>
    refine .inl ?_
    simp only [apply, release]
    split
    · exact h
    · exact h
  | outside change => exact .inl h

/-- A request waits, under the number that the next request had. -/
theorem awaits_request (σ : Shared) (now : Int) :
    (σ.apply (.call now .requestSessionRemoval)).Awaits σ.manager.requests :=
  .inl (List.mem_append_right _ List.mem_cons_self)

/-- A removal that waits is carried out at some time, or still waits at the end. -/
theorem hasCarriedOut_of_awaits {σ : Shared} {request : Nat} (h : σ.Awaits request)
    (sections : List Section) :
    (σ.run sections).Awaits request ∨ ∃ fails, σ.HasCarriedOut sections request fails := by
  induction sections generalizing σ with
  | nil => exact .inl h
  | cons e sections ih =>
    rcases awaits_apply h e with hawaits | ⟨fails, rfl, hmem⟩
    · refine (ih hawaits).imp_right ?_
      rintro ⟨fails, hcarried⟩
      exact ⟨fails, hasCarriedOut_cons.2 (.inr hcarried)⟩
    · exact .inr ⟨fails, hasCarriedOut_cons.2 (.inl ⟨rfl, hmem⟩)⟩

/-- When nothing is pending, every removal has been carried out that was requested before. -/
theorem hasCarriedOut_of_isIdle {σ : Shared} (h : σ.IsCounted) {before after : List Section}
    {now : Int}
    (hidle : (σ.run (before ++ .call now .requestSessionRemoval :: after)).manager.barrier.isIdle =
      true) :
    ∃ fails, ((σ.run before).apply (.call now .requestSessionRemoval)).HasCarriedOut after
      (σ.run before).manager.requests fails := by
  have hnone := (isCounted_run h _).onTheWay_of_isIdle hidle
  rw [run_append, run_cons] at hnone
  simp only [onTheWay, List.append_eq_nil_iff] at hnone
  refine (hasCarriedOut_of_awaits (awaits_request (σ.run before) now) after).resolve_left ?_
  simp [Awaits, hnone]

/-! ## Session cookies -/

/-- No call makes up a cookie of normal browsing: one call stores the cookie that it sets. -/
theorem mem_or_stores_of_mem_call {σ : Shared} {now : Int} {op : Operation} {x : Cookie}
    (hx : x ∈ (σ.call now op).manager.normal.jar.cookies) :
    x ∈ σ.manager.normal.jar.cookies ∨ ∃ url header a,
      op = .setCookie url header .normal ∧ σ.manager.address? url = some a ∧
        σ.manager.normal.jar.Stores a header now x := by
  have hchange := jarChange_call σ now op .normal
  change x ∈ ((σ.call now op).manager.jar .normal).cookies at hx
  generalize (σ.call now op).manager.jar .normal = j at hchange hx
  cases hchange with
  | same => exact .inl hx
  | received url header a hcall ha =>
    refine (Jar.mem_or_stores_of_mem_receive hx).imp_right ?_
    exact fun hstores => ⟨url, header, a, hcall, ha, hstores⟩
  -- After removing everything there is no cookie left to ask about.
  | removedAll => exact absurd hx List.not_mem_nil
  | removedExpired => exact .inl (Jar.mem_of_mem_filter hx)
  | accepted b => exact .inl hx

/-- No section makes up a cookie of normal browsing. -/
theorem mem_or_stores_of_mem_apply {σ : Shared} {e : Section} {x : Cookie}
    (hx : x ∈ (σ.apply e).manager.normal.jar.cookies) :
    x ∈ σ.manager.normal.jar.cookies ∨ ∃ now url header a,
      e = .call now (.setCookie url header .normal) ∧ σ.manager.address? url = some a ∧
        σ.manager.normal.jar.Stores a header now x := by
  cases e with
  | call now op =>
    refine (mem_or_stores_of_mem_call hx).imp_right ?_
    rintro ⟨url, header, a, rfl, ha, hstores⟩
    exact ⟨now, url, header, a, rfl, ha, hstores⟩
  | carryOut request fails =>
    -- A removal of the session cookies only takes cookies away.
    refine .inl ?_
    simp only [apply, carryOut] at hx
    split at hx
    · cases fails with
      | false =>
        rw [if_neg Bool.false_ne_true, NormalJar.jar_removeSession] at hx
        exact Jar.mem_of_mem_filter hx
      | true => exact hx
    · exact hx
  | outside change => exact .inl hx
  | _ =>
    refine .inl ?_
    simp only [apply, acceptPrivate, takeUp, release] at hx
    split at hx <;> exact hx

/-- A removal that is carried out leaves no session cookies. -/
theorem isPersistent_of_mem_carryOut {σ : Shared} {request : Nat} (h : request ∈ σ.running)
    {x : Cookie} (hx : x ∈ (σ.apply (.carryOut request false)).manager.normal.jar.cookies) :
    x.isPersistent = true := by
  simp only [apply, carryOut, if_pos h, if_neg Bool.false_ne_true,
    NormalJar.jar_removeSession] at hx
  rw [Jar.removeSession, Jar.cookies_filter] at hx
  exact (List.mem_filter.1 hx).2

/-- A session cookie in the jar of normal browsing was there at the start and no removal has been
    carried out, or a call has stored it after all removals that have been carried out. -/
theorem session_cookie_of_run {σ : Shared} {sections : List Section} {x : Cookie}
    (hx : x ∈ (σ.run sections).manager.normal.jar.cookies) (hsession : x.isPersistent = false) :
    (x ∈ σ.manager.normal.jar.cookies ∧ ∀ request, ¬ σ.HasCarriedOut sections request false) ∨
      ∃ before now url header a after,
        sections = before ++ .call now (.setCookie url header .normal) :: after ∧
        (σ.run before).manager.address? url = some a ∧
        (σ.run before).manager.normal.jar.Stores a header now x ∧
        ∀ request, σ.HasCarriedOut sections request false →
          σ.HasCarriedOut before request false := by
  -- The last section decides, so the induction is from the end.
  induction sections using List.reverseRecOn with
  | nil => exact .inl ⟨hx, fun _ => not_hasCarriedOut_nil⟩
  | append_singleton sections e ih =>
    rw [run_append] at hx
    -- It has not removed the session cookies, as one of them is there now.
    have hlast : ∀ request, σ.HasCarriedOut (sections ++ [e]) request false →
        σ.HasCarriedOut sections request false := by
      intro request hcarried
      refine (hasCarriedOut_append.1 hcarried).resolve_right ?_
      intro hlast
      rcases hasCarriedOut_cons.1 hlast with ⟨rfl, hmem⟩ | hnil
      · exact absurd (isPersistent_of_mem_carryOut hmem hx) (by simp [hsession])
      · exact not_hasCarriedOut_nil hnil
    rcases mem_or_stores_of_mem_apply hx with hmem | ⟨now, url, header, a, rfl, ha, hstores⟩
    · rcases ih hmem with
        ⟨hold, hnone⟩ | ⟨before, now, url, header, a, after, rfl, ha, hstores, hafter⟩
      · exact .inl ⟨hold, fun request hcarried => hnone request (hlast request hcarried)⟩
      · refine .inr ⟨before, now, url, header, a, after ++ [e], by simp, ha, hstores, ?_⟩
        exact fun request hcarried => hafter request (hlast request hcarried)
    · exact .inr ⟨sections, now, url, header, a, [], rfl, ha, hstores, hlast⟩

/-! ## The barrier -/

/-- A removal that a worker carries out or fails to carry out, takes or releases, leaves the private
    jar as it is. -/
theorem privateJar_apply_removal (σ : Shared) (request : Nat) {e : Section}
    (h : e = .takeUp request ∨ (∃ fails, e = .carryOut request fails) ∨ e = .release request) :
    (σ.apply e).manager.privateJar = σ.manager.privateJar := by
  rcases h with rfl | ⟨fails, rfl⟩ | rfl
  all_goals
    simp only [apply, takeUp, carryOut, release]
    split <;> rfl

/-- Take any manager and anything that any number of threads do with it, with any number of workers
    that carry removals out in any order or fail to.

    * What is pending are the removals that are in the queue or with a worker, each of which has a
      number of its own.
    * A worker that is to complete an operation can do so, and then one less is pending.
    * A removal that a worker has taken holds its operation afterwards, also when it fails.
    * Nothing that a worker does changes the private jar.

    When waiting ends, which takes that nothing is pending, each removal has been carried out that
    was requested before. If none of them failed, a call has stored each session cookie in the
    normal jar, after all of these removals. Only if there were none of them it can be a cookie that
    the manager began with. -/
theorem barrier_covers_removals (c : Config) (normal : NormalJar) (privateJar : Jar)
    (p : FilePolicy) (s : Storage) (sections : List Section) :
    let σ₀ := start (ofJars c normal privateJar p) s
    let σ := σ₀.run sections
    (σ.manager.barrier.pending = σ.manager.queue.length + σ.running.length + σ.leaving.length ∧
      (σ.manager.queue ++ σ.running ++ σ.leaving).Nodup) ∧
    (∀ request ∈ σ.leaving, ∃ b, σ.manager.barrier.complete? = some b ∧
      (σ.apply (.release request)).manager.barrier = b ∧
      b.pending + 1 = σ.manager.barrier.pending) ∧
    (∀ request ∈ σ.running, ∀ fails, request ∈ (σ.apply (.carryOut request fails)).leaving) ∧
    (∀ request, ∀ e : Section,
      e = .takeUp request ∨ (∃ fails, e = .carryOut request fails) ∨ e = .release request →
        (σ.apply e).manager.privateJar = σ.manager.privateJar) ∧
    (σ.manager.barrier.isIdle = true →
      (∀ before now after, sections = before ++ .call now .requestSessionRemoval :: after →
        ∃ fails, ((σ₀.run before).apply (.call now .requestSessionRemoval)).HasCarriedOut after
          (σ₀.run before).manager.requests fails) ∧
      ((∀ request, ¬ σ₀.HasCarriedOut sections request true) →
        ∀ x ∈ σ.manager.normal.jar.cookies, x.isPersistent = false →
          (x ∈ normal.jar.cookies ∧ ∀ now, .call now .requestSessionRemoval ∉ sections) ∨
          ∃ front now url header a back,
            sections = front ++ .call now (.setCookie url header .normal) :: back ∧
            (σ₀.run front).manager.address? url = some a ∧
            (σ₀.run front).manager.normal.jar.Stores a header now x ∧
            ∀ before now after, sections = before ++ .call now .requestSessionRemoval :: after →
              σ₀.HasCarriedOut front (σ₀.run before).manager.requests false)) := by
  intro σ₀ σ
  have hstart : σ₀.IsCounted := isCounted_start _ s rfl rfl
  have hcounted : σ.IsCounted := isCounted_run hstart sections
  refine ⟨⟨?_, hcounted.nodup⟩, ?_, ?_, ?_, ?_⟩
  · -- The three lists together are what is on the way.
    rw [hcounted.pending, onTheWay, List.length_append, List.length_append]
  · intro request hmem
    obtain ⟨b, hb, hpending⟩ := hcounted.complete? hmem
    refine ⟨b, hb, ?_, hpending⟩
    simp [apply, release, hmem, hb]
  · intro request hmem fails
    simp [apply, carryOut, hmem]
  · exact fun request e => privateJar_apply_removal σ request
  · -- Nothing is pending, so no removal is on its way: each one that was requested has been carried
    -- out.
    intro hidle
    have hcarried : ∀ before now after,
        sections = before ++ .call now .requestSessionRemoval :: after →
        ∃ fails, ((σ₀.run before).apply (.call now .requestSessionRemoval)).HasCarriedOut after
          (σ₀.run before).manager.requests fails := by
      rintro before now after rfl
      exact hasCarriedOut_of_isIdle hstart hidle
    refine ⟨hcarried, ?_⟩
    intro hfails x hx hsession
    -- None has failed, so all of them have removed the session cookies that were there.
    have hwell : ∀ before now after,
        sections = before ++ .call now .requestSessionRemoval :: after →
        σ₀.HasCarriedOut sections (σ₀.run before).manager.requests false := by
      intro before now after heq
      obtain ⟨fails, hafter⟩ := hcarried before now after heq
      have hall : σ₀.HasCarriedOut sections (σ₀.run before).manager.requests fails := by
        rw [heq]
        exact hasCarriedOut_append.2 (.inr (hasCarriedOut_cons.2 (.inr hafter)))
      cases fails with
      | false => exact hall
      | true => exact absurd hall (hfails _)
    rcases session_cookie_of_run hx hsession with
      ⟨hold, hnone⟩ | ⟨front, now, url, header, a, back, heq, ha, hstores, hfront⟩
    · -- The cookie was there from the beginning, and then no removal can have been requested.
      change x ∈ (normal.setAccepts c.acceptCookies).jar.cookies at hold
      rw [NormalJar.jar_setAccepts] at hold
      refine .inl ⟨hold, ?_⟩
      intro now hmem
      obtain ⟨before, after, heq⟩ := List.append_of_mem hmem
      exact hnone _ (hwell before now after heq)
    · -- The cookie was stored later, and then every removal requested was carried out before.
      refine .inr ⟨front, now, url, header, a, back, heq, ha, hstores, ?_⟩
      exact fun before now after heq => hfront _ (hwell before now after heq)

/-- A session cookie that is set between a removal and the release of its operation is there after
    waiting. -/
example :
    let σ := (start (Application.start .empty).manager.1 .empty).run
      [.call 0 .requestSessionRemoval, .takeUp 0, .carryOut 0 false,
        .call 1 (.setCookie "http://a.b/" "k=v" .normal), .release 0]
    σ.manager.barrier.isIdle = true ∧ σ.manager.hasCookies .normal = true := by
  decide +kernel

end HttpState.Manager.Shared
