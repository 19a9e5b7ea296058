import HttpState.Proofs.Manager.Jars

/-!
# A manager that several threads use

Threads that use a manager at the same time take turns: each of its two jars is behind a lock, and
so is the number of pending operations. What a call does under one lock is one section, and what the
other threads do may come between any two sections.

Almost every call has a single section. The call that says whether new cookies are taken writes one
jar and then the other, and in between both locks are free. A request for a removal counts an
operation before it queues the removal, but nobody can do anything in between that depends on the
queue, so this is one section.

A removal has three sections: a worker takes it from the queue, carries it out, and then releases
the operation that was counted for it. It releases this operation even if carrying it out has
failed. How many workers there are is left open here, as is the order in which they take removals.

## Key definitions

- `Shared`: a manager, its storage, and what has begun but not ended
- `Shared.apply`, `Shared.run`: what becomes of it by one section, and by many

## Key results

- `Shared.run_sections`: a run without interruptions is a run of all the sections of its events
-/

namespace HttpState.Manager

/-- A manager that several threads use. -/
structure Shared where
  manager : Manager
  storage : Storage
  /-- The removals that workers have taken but not carried out. -/
  running : List Nat
  /-- The removals that have been carried out, or have failed, and still hold their operation. -/
  leaving : List Nat
  /-- What the calls write to the private jar that have so far written to the normal one only. -/
  halfway : List Bool

namespace Shared

/-- A manager that no thread has used yet. -/
def start (m : Manager) (s : Storage) : Shared := ⟨m, s, [], [], []⟩

/-- What a thread does without interruption. -/
inductive Section where
  /-- A call when the clock reads `now`, or the first half of one that writes both jars. -/
  | call (now : Int) (op : Operation)
  /-- The second half of a call that says whether new cookies are taken. -/
  | acceptPrivate (accepts : Bool)
  /-- A worker takes a removal from the queue. -/
  | takeUp (request : Nat)
  /-- A worker carries a removal out; if that fails, it removes nothing. -/
  | carryOut (request : Nat) (fails : Bool)
  /-- A worker completes the operation of a removal. -/
  | release (request : Nat)
  /-- Something else happens to storage. -/
  | outside (change : Storage → Storage)

/-- A call, or the first half of one that writes both jars. -/
def call (σ : Shared) (now : Int) : Operation → Shared
  | .setAccepts b =>
    { σ with
      manager := { σ.manager with normal := σ.manager.normal.setAccepts b }
      halfway := b :: σ.halfway }
  | op =>
    let (_, m, s) := op.apply now σ.manager σ.storage
    { σ with manager := m, storage := s }

/-- The second half of a call that writes both jars. -/
def acceptPrivate (σ : Shared) (accepts : Bool) : Shared :=
  if accepts ∈ σ.halfway then
    { σ with
      manager := { σ.manager with privateJar := σ.manager.privateJar.setAccepts accepts }
      halfway := σ.halfway.erase accepts }
  else σ

/-- A worker takes a removal, if it is in the queue. -/
def takeUp (σ : Shared) (request : Nat) : Shared :=
  if request ∈ σ.manager.queue then
    { σ with
      manager := { σ.manager with queue := σ.manager.queue.erase request }
      running := request :: σ.running }
  else σ

/-- A worker carries out a removal that it has taken, or fails to. -/
def carryOut (σ : Shared) (request : Nat) (fails : Bool) : Shared :=
  if request ∈ σ.running then
    { σ with
      manager :=
        { σ.manager with
          normal := if fails then σ.manager.normal else σ.manager.normal.removeSession }
      running := σ.running.erase request
      leaving := request :: σ.leaving }
  else σ

/-- A worker completes the operation that it holds. -/
def release (σ : Shared) (request : Nat) : Shared :=
  if request ∈ σ.leaving then
    { σ with
      manager :=
        { σ.manager with barrier := σ.manager.barrier.complete?.getD σ.manager.barrier }
      leaving := σ.leaving.erase request }
  else σ

/-- What comes of a section. -/
def apply (σ : Shared) : Section → Shared
  | .call now op => σ.call now op
  | .acceptPrivate b => σ.acceptPrivate b
  | .takeUp request => σ.takeUp request
  | .carryOut request fails => σ.carryOut request fails
  | .release request => σ.release request
  | .outside change => { σ with storage := change σ.storage }

/-- What comes of sections, one after the other. -/
def run (σ : Shared) (sections : List Section) : Shared := sections.foldl apply σ

@[simp] theorem run_nil (σ : Shared) : σ.run [] = σ := rfl

/-- A run is its first section and the run from there. -/
theorem run_cons (σ : Shared) (e : Section) (sections : List Section) :
    σ.run (e :: sections) = (σ.apply e).run sections := rfl

/-- What follows runs from where the beginning has led. -/
theorem run_append (σ : Shared) (before after : List Section) :
    σ.run (before ++ after) = (σ.run before).run after :=
  List.foldl_append

/-! ## Runs without interruptions -/

/-- The sections of an event that nothing interrupts. -/
def sections : Event → List Section
  | .call now (.setAccepts b) => [.call now (.setAccepts b), .acceptPrivate b]
  | .call now op => [.call now op]
  | .removal request fails => [.takeUp request, .carryOut request fails, .release request]
  | .outside change => [.outside change]

/-- The sections of an event together do what the event does. -/
theorem run_sections_event (m : Manager) (s : Storage) (e : Event) :
    (start m s).run (sections e) = start (e.apply m s).2.1 (e.apply m s).2.2 := by
  cases e with
  | outside change => rfl
  | removal request fails =>
    simp only [sections, run_cons, run_nil, apply, takeUp, carryOut, release, start, Event.apply,
      runRemoval, List.contains_iff_mem]
    -- The removal is taken from the queue, carried out and released, without anything in between.
    by_cases h : request ∈ m.queue
    · simp [h]
    · simp [h]
  | call now op =>
    cases op with
    | setAccepts b =>
      simp [sections, run_cons, apply, call, acceptPrivate, start, Event.apply, Operation.apply,
        Manager.setAccepts]
    | _ => rfl

/-- A run of a manager that one thread uses is also a run of the manager among several threads. -/
theorem run_sections (m : Manager) (s : Storage) (events : List Event) :
    (start m s).run (events.flatMap sections) = start (m.run s events).1 (m.run s events).2 := by
  induction events generalizing m s with
  | nil => rfl
  | cons e events ih =>
    rw [List.flatMap_cons, run_append, run_sections_event, ih, Manager.run_cons]

/-! ## Calls -/

/-- The first half of a call that writes both jars is no exception to what calls do to a jar. -/
theorem jarChange_call (σ : Shared) (now : Int) (op : Operation) (mode : PrivacyMode) :
    σ.manager.JarChange mode now op ((σ.call now op).manager.jar mode) := by
  cases op with
  | setAccepts b =>
    cases mode with
    | normal => exact jarChange_apply σ.manager σ.storage now (.setAccepts b) .normal
    | privateBrowsing => exact .same
  | _ => exact jarChange_apply σ.manager σ.storage now _ mode

/-- The same removals are on their way, and the same number of operations is pending. -/
structure SameRemovals (σ τ : Shared) : Prop where
  queue : τ.manager.queue = σ.manager.queue
  requests : τ.manager.requests = σ.manager.requests
  barrier : τ.manager.barrier = σ.manager.barrier
  running : τ.running = σ.running
  leaving : τ.leaving = σ.leaving

/-- Only one call is about removals. -/
theorem sameRemovals_call (σ : Shared) (now : Int) {op : Operation}
    (h : op ≠ .requestSessionRemoval) : σ.SameRemovals (σ.call now op) := by
  cases op with
  | setCookie url header mode =>
    simp only [call, Operation.apply, setCookie]
    cases σ.manager.address? url with
    | none => exact ⟨rfl, rfl, rfl, rfl, rfl⟩
    | some a => cases mode <;> exact ⟨rfl, rfl, rfl, rfl, rfl⟩
  | requestSessionRemoval => exact absurd rfl h
  | _ => exact ⟨rfl, rfl, rfl, rfl, rfl⟩

end Shared

end HttpState.Manager
