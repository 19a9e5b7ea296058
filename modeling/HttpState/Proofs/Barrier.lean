import HttpState.Barrier
import Mathlib.Logic.Function.Basic

/-!
# Threads that wait at a barrier

Any number of threads start and complete operations at a barrier and wait until none is pending. The
count is behind a lock, and what a thread does while it holds the lock is one section. A thread that
finds operations pending goes to sleep, which gives the lock back; the completion of the last one
wakes all that sleep. A thread may also wake up for no reason, or because its time is up. In any
case it has to get the lock before it can look at the count again, and by then others may have
started something new.

## Key definitions

- `Monitor`: a barrier, and where each thread is with its wait
- `Monitor.apply`, `Monitor.run`: what becomes of it by one section, and by many

## Key results

- `Monitor.change_apply`: all that a section can do
- `Monitor.isSound_run`: nobody sleeps while nothing is pending
- `Monitor.phase_run_look`: then all who wait return when it is their turn
- `Monitor.waiting_is_sound`: what can be relied on in every state
-/

namespace HttpState

/-- Where a thread is with its wait, which may be limited in time. -/
inductive Monitor.Phase where
  /-- It does not wait. -/
  | away
  /-- It sleeps until something wakes it. -/
  | asleep (timed : Bool)
  /-- It has been woken, and looks at the count again as soon as it gets the lock. -/
  | awake (timed : Bool)
  deriving DecidableEq, Repr

/-- A barrier that several threads use. -/
structure Monitor where
  guarded : GuardedBarrier
  /-- Where each thread is. -/
  phase : Nat → Monitor.Phase

namespace Monitor

/-- A barrier that no thread has used yet. -/
def idle : Monitor := ⟨.idle, fun _ => .away⟩

/-- The number of pending operations. -/
def pending (σ : Monitor) : Nat := σ.guarded.barrier.pending

/-- The number of guards that have not been dropped. -/
def guards (σ : Monitor) : Nat := σ.guarded.guards

/-- What a thread does without interruption. -/
inductive Section where
  | start
  | complete
  /-- Starts an operation and takes a guard for it. -/
  | beginGuarded
  /-- Drops a guard. -/
  | drop
  /-- A thread begins to wait, which may be limited in time. A wait without any time is late at
      once. -/
  | wait (thread : Nat) (timed late : Bool)
  /-- A thread wakes up for no reason, or because its time is up. -/
  | wake (thread : Nat)
  /-- A thread that has woken up looks at the count again, maybe after its time was up. -/
  | look (thread : Nat) (late : Bool)
  deriving DecidableEq, Repr

/-- What comes of a section for the thread that is in it. -/
inductive Outcome where
  | done
  /-- There was nothing to complete. -/
  | failed
  | sleeps
  /-- The wait is over; `idle` says whether nothing is pending. -/
  | returned (idle : Bool)
  /-- No thread can be in this section. -/
  | impossible
  deriving DecidableEq, Repr

/-- A thread that is asleep wakes up. -/
def Phase.woken : Phase → Phase
  | .asleep timed => .awake timed
  | p => p

/-- A thread looks at the count. It returns if nothing is pending or if its time is up, and goes to
    sleep otherwise. -/
def lookAt (σ : Monitor) (thread : Nat) (timed late : Bool) : Outcome × Monitor :=
  if σ.guarded.barrier.isIdle then
    (.returned true, { σ with phase := Function.update σ.phase thread .away })
  else if timed && late then
    (.returned false, { σ with phase := Function.update σ.phase thread .away })
  else (.sleeps, { σ with phase := Function.update σ.phase thread (.asleep timed) })

/-- An operation has been completed. If it was the last one, all threads that sleep are woken. -/
def completed (σ : Monitor) (g : GuardedBarrier) : Monitor where
  guarded := g
  phase := if g.barrier.isIdle then fun t => (σ.phase t).woken else σ.phase

/-- What comes of a section. Where there is nothing to complete, the lock is given back before the
    thread fails, so the others do not notice. -/
def apply (σ : Monitor) : Section → Outcome × Monitor
  | .start => (.done, { σ with guarded := σ.guarded.start })
  | .complete =>
    match σ.guarded.complete? with
    | some g => (.done, σ.completed g)
    | none => (.failed, σ)
  | .beginGuarded => (.done, { σ with guarded := σ.guarded.beginGuarded })
  | .drop =>
    if σ.guarded.guards = 0 then (.impossible, σ)
    else
      match σ.guarded.drop with
      | (true, g) => (.done, σ.completed g)
      | (false, g) => (.failed, { σ with guarded := g })
  | .wait thread timed late =>
    if σ.phase thread = .away then σ.lookAt thread timed late else (.impossible, σ)
  | .wake thread =>
    (.done, { σ with phase := Function.update σ.phase thread (σ.phase thread).woken })
  | .look thread late =>
    match σ.phase thread with
    | .awake timed => σ.lookAt thread timed late
    | _ => (.impossible, σ)

/-- What comes of sections, one after the other. -/
def run (σ : Monitor) (sections : List Section) : Monitor :=
  sections.foldl (fun σ e => (σ.apply e).2) σ

/-- The sections with what came of each of them. -/
def trace (σ : Monitor) : List Section → List (Section × Outcome)
  | [] => []
  | e :: sections => (e, (σ.apply e).1) :: (σ.apply e).2.trace sections

/-- Whether a section starts an operation. -/
def Section.isStart : Section → Bool
  | .start | .beginGuarded => true
  | _ => false

/-- Whether a section is to complete an operation. -/
def Section.isComplete : Section → Bool
  | .complete | .drop => true
  | _ => false

/-- How many sections of a kind have succeeded. -/
def successes (kind : Section → Bool) (steps : List (Section × Outcome)) : Nat :=
  steps.countP fun s => kind s.1 && s.2 = .done

/-- A run is its first section and the run from there. -/
theorem run_cons (σ : Monitor) (e : Section) (sections : List Section) :
    σ.run (e :: sections) = (σ.apply e).2.run sections := rfl

/-- One more step adds to the successes if it is of the kind that is counted and has been done. -/
theorem successes_cons (kind : Section → Bool) (e : Section) (o : Outcome)
    (steps : List (Section × Outcome)) :
    successes kind ((e, o) :: steps) =
      successes kind steps + if kind e = true ∧ o = .done then 1 else 0 := by
  simp [successes, List.countP_cons]

/-! ## What a section can do -/

/-- A section in which a thread gives up if something is pending: its wait is limited in time, and
    the time is up. -/
def IsLate (σ : Monitor) (e : Section) : Prop :=
  ∃ t, e = .wait t true true ∨ (e = .look t true ∧ σ.phase t = .awake true)

/-- All that can come of a section, for the thread in it and for the others. -/
inductive Change (σ : Monitor) (e : Section) : Outcome → Monitor → Prop
  | started {τ : Monitor} (kind : e.isStart = true ∧ e.isComplete = false)
      (pending : τ.pending = σ.pending + 1) (phase : τ.phase = σ.phase) : Change σ e .done τ
  | completed {τ : Monitor} (kind : e.isStart = false ∧ e.isComplete = true)
      (pending : τ.pending + 1 = σ.pending)
      (phase : τ.phase = if τ.pending = 0 then fun t => (σ.phase t).woken else σ.phase) :
      Change σ e .done τ
  /-- There was nothing to complete. -/
  | failed {τ : Monitor} (kind : e = .complete ∨ (e = .drop ∧ 0 < σ.guards))
      (pending : σ.pending = 0) (barrier : τ.guarded.barrier = σ.guarded.barrier)
      (phase : τ.phase = σ.phase) : Change σ e .failed τ
  /-- The section is about waiting, or cannot be. Nobody goes to sleep but where something is
      pending, and no wait ends but where nothing is pending or the time is up. -/
  | waited {o : Outcome} {τ : Monitor} (kind : e.isStart = false)
      (drop : e.isComplete = true → e = .drop ∧ σ.guards = 0 ∧ o = .impossible)
      (guarded : τ.guarded = σ.guarded) (outcome : o ≠ .failed)
      (sleeps : ∀ t timed, τ.phase t = .asleep timed →
        σ.phase t = .asleep timed ∨ 0 < σ.pending)
      (idle : o = .returned true → σ.pending = 0) (late : o = .returned false → σ.IsLate e) :
      Change σ e o τ

/-- The barrier is idle exactly while nothing is pending. -/
theorem isIdle_iff {σ : Monitor} : σ.guarded.barrier.isIdle = true ↔ σ.pending = 0 := by
  simp [Barrier.isIdle, pending]

/-- Completing an operation that is pending. -/
theorem change_completed {σ : Monitor} {e : Section} {g : GuardedBarrier}
    (hkind : e.isStart = false ∧ e.isComplete = true)
    (hpending : g.barrier.pending + 1 = σ.pending) : σ.Change e .done (σ.completed g) := by
  refine .completed hkind hpending ?_
  by_cases hidle : g.barrier.pending = 0
  · simp [Monitor.completed, Monitor.pending, Barrier.isIdle, hidle]
  · simp [Monitor.completed, Monitor.pending, Barrier.isIdle, hidle]

/-- Whoever has just been woken does not sleep. -/
theorem woken_ne_asleep (p : Phase) (timed : Bool) : p.woken ≠ .asleep timed := by
  cases p <;> simp [Phase.woken]

/-- Whoever sleeps when a thread has another phase is this thread, or has slept before. -/
theorem asleep_of_update {phase : Nat → Phase} {thread : Nat} {p : Phase} {t : Nat} {timed : Bool}
    (h : Function.update phase thread p t = .asleep timed) :
    p = .asleep timed ∨ phase t = .asleep timed := by
  rw [Function.update_apply] at h
  split at h
  · exact .inl h
  · exact .inr h

/-- Looking at the count. -/
theorem change_lookAt {σ : Monitor} {e : Section} {thread : Nat} {timed late : Bool}
    (hstart : e.isStart = false) (hcomplete : e.isComplete = false)
    (hlate : timed = true → late = true → σ.IsLate e) :
    σ.Change e (σ.lookAt thread timed late).1 (σ.lookAt thread timed late).2 := by
  have hdrop : ∀ o : Outcome,
      e.isComplete = true → e = .drop ∧ σ.guards = 0 ∧ o = .impossible := by
    simp [hcomplete]
  unfold lookAt
  split
  · -- Nothing is pending: the thread returns, and it can only have been asleep before.
    rename_i hidle
    refine .waited hstart (hdrop _) rfl (by simp) ?_ (fun _ => isIdle_iff.1 hidle) (by simp)
    intro t timed' hasleep
    exact .inl ((asleep_of_update hasleep).resolve_left (by simp))
  · rename_i hbusy
    -- Something is pending: the thread gives up if its time is up, and goes to sleep if not.
    have hpos : 0 < σ.pending := Nat.pos_of_ne_zero fun h => hbusy (isIdle_iff.2 h)
    split
    · rename_i htime
      obtain ⟨htimed, hup⟩ := Bool.and_eq_true_iff.1 htime
      exact .waited hstart (hdrop _) rfl (by simp) (fun _ _ _ => .inr hpos) (by simp)
        fun _ => hlate htimed hup
    · exact .waited hstart (hdrop _) rfl (by simp) (fun _ _ _ => .inr hpos) (by simp) (by simp)

/-- A section that cannot be changes nothing. -/
theorem change_impossible {σ : Monitor} {e : Section} (hstart : e.isStart = false)
    (hdrop : e.isComplete = true → e = .drop ∧ σ.guards = 0) : σ.Change e .impossible σ :=
  .waited hstart (fun h => ⟨(hdrop h).1, (hdrop h).2, rfl⟩) rfl (by simp) (fun _ _ => .inl)
    (by simp) (by simp)

/-- The inversion of a section: whatever it is and whenever it comes, what follows from it is one of
    the four changes. Every invariant of the monitor is read off this. -/
theorem change_apply (σ : Monitor) (e : Section) : σ.Change e (σ.apply e).1 (σ.apply e).2 := by
  cases e with
  | start => exact .started ⟨rfl, rfl⟩ rfl rfl
  | beginGuarded => exact .started ⟨rfl, rfl⟩ rfl rfl
  | complete =>
    -- What completing does depends on the count alone.
    cases hpending : σ.guarded.barrier.pending with
    | zero =>
      have hnone : σ.guarded.complete? = none := by
        simp [GuardedBarrier.complete?, Barrier.complete?, hpending]
      simp only [apply, hnone]
      exact .failed (.inl rfl) hpending rfl rfl
    | succ n =>
      have hsome : σ.guarded.complete? = some { σ.guarded with barrier := ⟨n⟩ } := by
        simp [GuardedBarrier.complete?, Barrier.complete?, hpending]
      simp only [apply, hsome]
      exact change_completed ⟨rfl, rfl⟩ hpending.symm
  | drop =>
    -- With no guard there is nothing to drop. A guard that is dropped completes its operation,
    -- which fails if somebody has completed it before.
    by_cases hguards : σ.guarded.guards = 0
    · simp only [apply, hguards, if_true]
      exact change_impossible rfl fun _ => ⟨rfl, hguards⟩
    · cases hpending : σ.guarded.barrier.pending with
      | zero =>
        have hdrop : σ.guarded.drop =
            (false, { σ.guarded with guards := σ.guarded.guards - 1 }) := by
          simp [GuardedBarrier.drop, Barrier.complete?, hpending]
        simp only [apply, hguards, if_false, hdrop]
        exact .failed (.inr ⟨rfl, Nat.pos_of_ne_zero hguards⟩) hpending rfl rfl
      | succ n =>
        have hdrop : σ.guarded.drop = (true, ⟨⟨n⟩, σ.guarded.guards - 1⟩) := by
          simp [GuardedBarrier.drop, Barrier.complete?, hpending]
        simp only [apply, hguards, if_false, hdrop]
        exact change_completed ⟨rfl, rfl⟩ hpending.symm
  | wait thread timed late =>
    simp only [apply]
    split
    · refine change_lookAt rfl rfl ?_
      rintro rfl rfl
      exact ⟨thread, .inl rfl⟩
    · exact change_impossible rfl (by simp [Section.isComplete])
  | wake thread =>
    simp only [apply]
    -- Waking up neither counts nor ends a wait.
    refine .waited rfl (by simp [Section.isComplete]) rfl (by simp) ?_ (by simp) (by simp)
    intro t timed hasleep
    exact .inl ((asleep_of_update hasleep).resolve_left (woken_ne_asleep _ _))
  | look thread late =>
    simp only [apply]
    split
    · rename_i timed hawake
      refine change_lookAt rfl rfl ?_
      rintro rfl rfl
      exact ⟨thread, .inr ⟨rfl, hawake⟩⟩
    · exact change_impossible rfl (by simp [Section.isComplete])

/-- A completion fails exactly if nothing is pending. -/
theorem failed_apply_iff {σ : Monitor} {e : Section} :
    (σ.apply e).1 = .failed ↔ σ.pending = 0 ∧ (e = .complete ∨ (e = .drop ∧ 0 < σ.guards)) := by
  -- Only the outcome matters, so the section and the state after it are forgotten.
  have hchange := σ.change_apply e
  generalize (σ.apply e).1 = o at hchange ⊢
  generalize (σ.apply e).2 = τ at hchange
  cases hchange with
  | started kind pending phase =>
    have hkind : ¬ (e = .complete ∨ (e = .drop ∧ 0 < σ.guards)) := by
      rintro (rfl | ⟨rfl, _⟩)
      · exact nomatch kind.1
      · exact nomatch kind.1
    simp [hkind]
  | completed kind pending phase =>
    have hpos : σ.pending ≠ 0 := by omega
    simp [hpos]
  | failed kind pending barrier phase => simp [kind, pending]
  | waited kind drop guarded outcome sleeps idle late =>
    have hkind : ¬ (e = .complete ∨ (e = .drop ∧ 0 < σ.guards)) := by
      rintro (rfl | ⟨rfl, hguards⟩)
      · exact nomatch (drop rfl).1
      · exact absurd (drop rfl).2.1 (Nat.pos_iff_ne_zero.1 hguards)
    simp [hkind, outcome]

/-- Where a completion fails, the count and the threads that wait stay as they are. -/
theorem same_of_failed {σ : Monitor} {e : Section} (h : (σ.apply e).1 = .failed) :
    (σ.apply e).2.guarded.barrier = σ.guarded.barrier ∧ (σ.apply e).2.phase = σ.phase := by
  have hchange := σ.change_apply e
  rw [h] at hchange
  cases hchange with
  | failed kind pending barrier phase => exact ⟨barrier, phase⟩
  | waited kind drop guarded outcome sleeps idle late => exact absurd rfl outcome

/-- Whoever is told that nothing is pending is told so while this is so. -/
theorem pending_of_returned {σ : Monitor} {e : Section} (h : (σ.apply e).1 = .returned true) :
    σ.pending = 0 ∧ (σ.apply e).2.pending = 0 := by
  have hchange := σ.change_apply e
  rw [h] at hchange
  cases hchange with
  | waited kind drop guarded outcome sleeps idle late =>
    refine ⟨idle rfl, ?_⟩
    rw [Monitor.pending, guarded]
    exact idle rfl

/-- Only a wait that is limited in time is given up, and only when its time is up. -/
theorem isLate_of_returned {σ : Monitor} {e : Section} (h : (σ.apply e).1 = .returned false) :
    σ.IsLate e := by
  have hchange := σ.change_apply e
  rw [h] at hchange
  cases hchange with
  | waited kind drop guarded outcome sleeps idle late => exact late rfl

/-! ## The count -/

/-- What a section does to the count is told by whether it has succeeded. -/
theorem pending_apply (σ : Monitor) (e : Section) :
    (σ.apply e).2.pending + (if e.isComplete = true ∧ (σ.apply e).1 = .done then 1 else 0) =
      σ.pending + if e.isStart = true ∧ (σ.apply e).1 = .done then 1 else 0 := by
  have hchange := σ.change_apply e
  generalize (σ.apply e).1 = o at hchange ⊢
  generalize (σ.apply e).2 = τ at hchange ⊢
  cases hchange with
  | started kind pending phase => simp [kind, pending]
  | completed kind pending phase => simp [kind, pending]
  | failed kind pending barrier phase => simp [Monitor.pending, barrier]
  | waited kind drop guarded outcome sleeps idle late =>
    -- A section about waiting leaves the count, and is no completion that succeeds.
    have hnot : ¬ (e.isComplete = true ∧ o = .done) := by
      rintro ⟨hcomplete, rfl⟩
      exact nomatch (drop hcomplete).2.2
    simp [Monitor.pending, guarded, kind, hnot]

/-- The count is the number of starts that have succeeded, less that of completions. -/
theorem pending_run (σ : Monitor) (sections : List Section) :
    (σ.run sections).pending + successes Section.isComplete (σ.trace sections) =
      σ.pending + successes Section.isStart (σ.trace sections) := by
  induction sections generalizing σ with
  | nil => rfl
  | cons e sections ih =>
    have hstep := σ.pending_apply e
    have hrest := ih (σ.apply e).2
    rw [run_cons, trace, successes_cons, successes_cons]
    omega

/-- A section that neither starts nor completes anything leaves the barrier alone. -/
theorem guarded_apply {σ : Monitor} {e : Section} (hstart : e.isStart = false)
    (hcomplete : e.isComplete = false) : (σ.apply e).2.guarded = σ.guarded := by
  have hchange := σ.change_apply e
  generalize (σ.apply e).1 = o at hchange
  generalize (σ.apply e).2 = τ at hchange ⊢
  cases hchange with
  -- The first three changes come of starts and completions only.
  | started kind pending phase => exact absurd (hstart.symm.trans kind.1) (by decide)
  | completed kind pending phase => exact absurd (hcomplete.symm.trans kind.2) (by decide)
  | failed kind pending barrier phase =>
    rcases kind with rfl | ⟨rfl, _⟩
    · exact absurd hcomplete (by decide)
    · exact absurd hcomplete (by decide)
  | waited kind drop guarded outcome sleeps idle late => exact guarded

/-- Where operations are started and completed through guards only, the count is the number of
    guards, so every guard has something to complete. -/
theorem pending_eq_guards_apply {σ : Monitor} (h : σ.pending = σ.guards) {e : Section}
    (he : e ≠ .start ∧ e ≠ .complete) :
    (σ.apply e).2.pending = (σ.apply e).2.guards ∧ (σ.apply e).1 ≠ .failed := by
  -- A guard that is dropped finds its operation pending, for the two numbers are equal.
  have hfailed : (σ.apply e).1 ≠ .failed := by
    intro hfailed
    have hchange := σ.change_apply e
    rw [hfailed] at hchange
    cases hchange with
    | failed kind pending barrier phase =>
      rcases kind with rfl | ⟨rfl, hguards⟩
      · exact he.2 rfl
      · omega
    | waited kind drop guarded outcome sleeps idle late => exact outcome rfl
  -- A section that keeps the guarded barrier keeps the equality.
  have hsame : (σ.apply e).2.guarded = σ.guarded →
      (σ.apply e).2.pending = (σ.apply e).2.guards := by
    intro hguarded
    rw [Monitor.pending, Monitor.guards, hguarded]
    exact h
  refine ⟨?_, hfailed⟩
  cases e with
  | start => exact absurd rfl he.1
  | complete => exact absurd rfl he.2
  | beginGuarded => exact congrArg (· + 1) h
  | drop =>
    by_cases hguards : σ.guarded.guards = 0
    · exact hsame (by simp only [apply, hguards, if_true])
    · obtain ⟨n, hn⟩ := Nat.exists_eq_succ_of_ne_zero hguards
      have hpending : σ.guarded.barrier.pending = n + 1 := h.trans hn
      have hdrop : σ.guarded.drop = (true, ⟨⟨n⟩, n⟩) := by
        simp [GuardedBarrier.drop, Barrier.complete?, hpending, hn]
      simp only [apply, hguards, if_false, hdrop]
      rfl
  | wait thread timed late => exact hsame (guarded_apply rfl rfl)
  | wake thread => exact h
  | look thread late => exact hsame (guarded_apply rfl rfl)

/-- Operations that are started and completed through guards only keep the count and the number of
    guards equal, however many sections there are, and no guard ever fails. -/
theorem pending_eq_guards_run {σ : Monitor} (h : σ.pending = σ.guards) {sections : List Section}
    (hsections : ∀ e ∈ sections, e ≠ .start ∧ e ≠ .complete) :
    (σ.run sections).pending = (σ.run sections).guards ∧
      ∀ s ∈ σ.trace sections, s.2 ≠ .failed := by
  induction sections generalizing σ with
  | nil => exact ⟨h, fun s hs => nomatch hs⟩
  | cons e sections ih =>
    -- The first section keeps the equality and does not fail, the others by induction.
    obtain ⟨hpending, hfailed⟩ := pending_eq_guards_apply h (hsections e (by simp))
    obtain ⟨hrun, hrest⟩ := ih hpending fun e' he' => hsections e' (by simp [he'])
    refine ⟨hrun, ?_⟩
    intro s hs
    rcases List.mem_cons.1 hs with rfl | hs
    · exact hfailed
    · exact hrest s hs

/-! ## Waiting -/

/-- Nobody sleeps while nothing is pending. -/
def IsSound (σ : Monitor) : Prop := σ.pending = 0 → ∀ t timed, σ.phase t ≠ .asleep timed

/-- At the beginning nobody sleeps at all. -/
theorem isSound_idle : idle.IsSound := by
  intro _ t timed hasleep
  have haway : Phase.away = .asleep timed := hasleep
  exact nomatch haway

/-- No section leaves anybody asleep when nothing is pending: who goes to sleep saw something
    pending, and the last completion wakes all that sleep. -/
theorem isSound_apply {σ : Monitor} (h : σ.IsSound) (e : Section) : (σ.apply e).2.IsSound := by
  have hchange := σ.change_apply e
  generalize (σ.apply e).1 = o at hchange
  generalize (σ.apply e).2 = τ at hchange ⊢
  intro hidle t timed hasleep
  cases hchange with
  -- A start leaves something pending, so there is nothing to show.
  | started kind pending phase => omega
  | completed kind pending phase =>
    -- The completion that leaves nothing pending wakes everybody.
    rw [phase, if_pos hidle] at hasleep
    exact woken_ne_asleep _ _ hasleep
  | failed kind pending barrier phase => exact h pending t timed (phase ▸ hasleep)
  | waited kind drop guarded outcome sleeps idle late =>
    have hzero : σ.pending = 0 := (congrArg (·.barrier.pending) guarded).symm.trans hidle
    -- Who sleeps now slept before, or has just seen something pending.
    rcases sleeps t timed hasleep with hbefore | hpos
    · exact h hzero t timed hbefore
    · omega

/-- Soundness is kept by a whole run, by induction on its sections. -/
theorem isSound_run {σ : Monitor} (h : σ.IsSound) (sections : List Section) :
    (σ.run sections).IsSound := by
  induction sections generalizing σ with
  | nil => exact h
  | cons e sections ih => exact ih (isSound_apply h e)

/-- While nothing is pending, a thread that has woken up returns when it gets the lock. -/
theorem apply_look_of_idle {σ : Monitor} (hidle : σ.pending = 0) {t : Nat} {timed : Bool}
    (hawake : σ.phase t = .awake timed) (late : Bool) :
    σ.apply (.look t late) =
      (.returned true, { σ with phase := Function.update σ.phase t .away }) := by
  simp only [apply, hawake, lookAt, isIdle_iff.2 hidle, if_true]

/-- While nothing is pending, all who wait return when it is their turn, in any order. -/
theorem phase_run_look {σ : Monitor} (h : σ.IsSound) (hidle : σ.pending = 0) (threads : List Nat) :
    let τ := σ.run (threads.map fun t => .look t false)
    τ.pending = 0 ∧ ∀ t, τ.phase t = if t ∈ threads then .away else σ.phase t := by
  induction threads generalizing σ with
  | nil => exact ⟨hidle, fun t => rfl⟩
  | cons thread threads ih =>
    -- The look of a thread that has been woken ends its wait; the look of a thread that does not
    -- wait changes nothing.
    have hstep : (σ.apply (.look thread false)).2 =
        { σ with phase := Function.update σ.phase thread .away } := by
      cases hphase : σ.phase thread with
      | away =>
        have hsame : Function.update σ.phase thread .away = σ.phase := by
          rw [← hphase, Function.update_eq_self]
        simp only [apply, hphase, hsame]
      | asleep timed => exact absurd hphase (h hidle thread timed)
      | awake timed => rw [apply_look_of_idle hidle hphase]
    have hidle' : (σ.apply (.look thread false)).2.pending = 0 := by
      rw [hstep]
      exact hidle
    obtain ⟨hpending, hrest⟩ := ih (isSound_apply h (.look thread false)) hidle'
    refine ⟨hpending, ?_⟩
    intro t
    refine (hrest t).trans ?_
    rw [hstep]
    by_cases hthread : t = thread
    · simp [hthread]
    · simp [hthread]

/-- In every state that any number of threads come to, in whatever order they take turns:

    * The count is the number of starts that have succeeded, less the number of completions. If
      operations are started and completed through guards only, it is the number of guards, and no
      guard has failed.
    * A completion fails exactly if nothing is pending. The count and the threads that wait then
      stay as they are.
    * Nobody returns from a wait but where nothing is pending; a wait that is limited in time may
      also be given up when the time is up, and says so.
    * While nothing is pending, nobody sleeps: whoever waits has been woken, and returns with the
      next look at the count. -/
theorem waiting_is_sound (sections : List Section) :
    let σ := idle.run sections
    let steps := idle.trace sections
    (σ.pending + successes Section.isComplete steps = successes Section.isStart steps ∧
      ((∀ e ∈ sections, e ≠ .start ∧ e ≠ .complete) →
        σ.pending = σ.guards ∧ ∀ s ∈ steps, s.2 ≠ .failed)) ∧
    (∀ e,
      ((σ.apply e).1 = .failed ↔ σ.pending = 0 ∧ (e = .complete ∨ (e = .drop ∧ 0 < σ.guards))) ∧
      ((σ.apply e).1 = .failed →
        (σ.apply e).2.guarded.barrier = σ.guarded.barrier ∧ (σ.apply e).2.phase = σ.phase) ∧
      ((σ.apply e).1 = .returned true → σ.pending = 0 ∧ (σ.apply e).2.pending = 0) ∧
      ((σ.apply e).1 = .returned false → σ.IsLate e)) ∧
    (σ.pending = 0 → ∀ t timed, σ.phase t ≠ .asleep timed ∧
      (σ.phase t = .awake timed → ∀ late, (σ.apply (.look t late)).1 = .returned true)) := by
  intro σ steps
  -- The count goes with the sections that succeeded, and soundness is kept by each of them.
  have hcount := pending_run idle sections
  have hsound : σ.IsSound := isSound_run isSound_idle sections
  refine ⟨⟨hcount.trans (Nat.zero_add _), pending_eq_guards_run rfl⟩,
    fun e => ⟨failed_apply_iff, same_of_failed, pending_of_returned, isLate_of_returned⟩, ?_⟩
  -- Once nothing is pending, nobody sleeps, and whoever looks returns.
  intro hidle t timed
  refine ⟨hsound hidle t timed, ?_⟩
  intro hawake late
  rw [apply_look_of_idle hidle hawake]

/-- A thread is woken but another operation starts before it looks at the count, so it goes to sleep
    again. It is woken a second time, and returns. -/
theorem waiting_is_sound_late_start :
    let σ := idle.run
      [.beginGuarded, .wait 1 false false, .drop, .start, .look 1 false, .complete]
    σ.pending = 0 ∧ σ.phase 1 = .awake false ∧ (σ.apply (.look 1 false)).1 = .returned true := by
  intro σ
  have hidle : σ.pending = 0 := rfl
  have hawake : σ.phase 1 = .awake false := rfl
  obtain ⟨_, _, hwaiting⟩ := waiting_is_sound
    [.beginGuarded, .wait 1 false false, .drop, .start, .look 1 false, .complete]
  exact ⟨hidle, hawake, (hwaiting hidle 1 false).2 hawake false⟩

end Monitor

end HttpState
