/-!
# Whether files carry cookies

The policy can be changed until the first cookie manager takes it over; then it is frozen, and later
changes have no effect.
-/

namespace HttpState

/-- Whether addresses of files may carry cookies. -/
structure FilePolicy where
  accepts : Bool
  /-- A manager has taken the policy over. -/
  frozen : Bool
  deriving DecidableEq, Repr, Inhabited

namespace FilePolicy

/-- A policy that nobody has taken over. -/
def of (accepts : Bool) : FilePolicy := ⟨accepts, false⟩

/-- Changes the policy, unless it is frozen. Says whether it did. -/
def setAccepts (p : FilePolicy) (accepts : Bool) : Bool × FilePolicy :=
  if p.frozen then (false, p) else (true, { p with accepts := accepts })

/-- Freezes the policy. -/
def freeze (p : FilePolicy) : FilePolicy := { p with frozen := true }

/-- A frozen policy stays as it is. -/
theorem setAccepts_of_frozen {p : FilePolicy} (h : p.frozen = true) (b : Bool) :
    p.setAccepts b = (false, p) := by
  simp [setAccepts, h]

/-- Freezing keeps the choice made so far. -/
@[simp] theorem accepts_freeze (p : FilePolicy) : p.freeze.accepts = p.accepts := rfl

end FilePolicy

end HttpState
