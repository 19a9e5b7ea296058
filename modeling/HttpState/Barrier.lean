/-!
# Pending operations

A barrier counts the operations that have started but not completed; whoever needs a settled state
waits until there are none. Completing more operations than have started is an error that leaves the
barrier as it is.

* `complete?_eq_none_iff`: completing fails exactly when nothing is pending.
-/

namespace HttpState

/-- The number of pending operations. -/
structure Barrier where
  pending : Nat
  deriving DecidableEq, Repr, Inhabited

namespace Barrier

/-- A barrier with nothing pending. -/
def idle : Barrier := ⟨0⟩

/-- Whether nothing is pending. -/
def isIdle (b : Barrier) : Bool := b.pending == 0

/-- Starts an operation. -/
def start (b : Barrier) : Barrier := ⟨b.pending + 1⟩

/-- Completes an operation, if one is pending. -/
def complete? (b : Barrier) : Option Barrier :=
  match b.pending with
  | 0 => none
  | n + 1 => some ⟨n⟩

/-- What completing says when nothing is pending. -/
def unbalancedMessage : String :=
  "PendingOperationBarrier::complete called with no pending operations"

/-- Completing takes back what starting counted. -/
@[simp] theorem complete?_start (b : Barrier) : b.start.complete? = some b := rfl

/-- Only an idle barrier has nothing to complete. -/
theorem complete?_eq_none_iff {b : Barrier} : b.complete? = none ↔ b.isIdle := by
  rcases b with ⟨_ | n⟩ <;> simp [complete?, isIdle]

end Barrier

/-- A barrier and the guards that have been handed out for operations on it. A guard completes its
    operation when it is dropped, also when the task that holds it fails. -/
structure GuardedBarrier where
  barrier : Barrier
  /-- How many guards have not been dropped. -/
  guards : Nat
  deriving DecidableEq, Repr, Inhabited

namespace GuardedBarrier

/-- A barrier with nothing pending and no guards. -/
def idle : GuardedBarrier := ⟨.idle, 0⟩

/-- Starts an operation without a guard. -/
def start (g : GuardedBarrier) : GuardedBarrier := { g with barrier := g.barrier.start }

/-- Completes an operation, if one is pending. -/
def complete? (g : GuardedBarrier) : Option GuardedBarrier :=
  g.barrier.complete?.map fun b => { g with barrier := b }

/-- Starts an operation and hands out a guard for it. -/
def beginGuarded (g : GuardedBarrier) : GuardedBarrier := ⟨g.barrier.start, g.guards + 1⟩

/-- Drops a guard and says whether it completed an operation; there is nothing to complete if
    somebody else has completed too many. The guard is gone in any case. -/
def drop (g : GuardedBarrier) : Bool × GuardedBarrier :=
  match g.barrier.complete? with
  | some b => (true, ⟨b, g.guards - 1⟩)
  | none => (false, { g with guards := g.guards - 1 })

/-- Drops all guards. -/
def dropAll (g : GuardedBarrier) : GuardedBarrier := Nat.repeat (fun g => g.drop.2) g.guards g

end GuardedBarrier

end HttpState
