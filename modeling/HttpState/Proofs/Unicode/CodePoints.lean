import HttpState.Unicode.Run
import Mathlib.Data.Nat.Bitwise

/-!
# Sets of code points as numbers

What holds of the tables of characters is found by computation, with many questions whether a code
point belongs to a table. To answer them at once, a table is turned into a number whose bits say
which code points belong to it.

## Key definitions

- `CodePoints.bound`: the end of the code points that the numbers are about
- `CodePoints.ofRuns`: the number of a list of runs
- `CodePoints.areMissing`: whether none of some consecutive code points belongs to a set

## Key results

- `CodePoints.testBit_ofRuns`: the bits of the number
-/

namespace HttpState.Unicode

namespace Run

/-- The first and the last code points of runs without gaps that make up a run. -/
def pieces (r : Run) : List (Nat × Nat) :=
  if r.step = 1 then [(r.first, r.last)]
  else (List.range ((r.last - r.first) / r.step + 1)).map fun i =>
    (r.first + r.step * i, r.first + r.step * i)

/-- A run has steps forward. -/
def IsProper (r : Run) : Prop := 0 < r.step ∧ r.first ≤ r.last

instance (r : Run) : Decidable r.IsProper := inferInstanceAs (Decidable (_ ∧ _))

/-- A run contains every step-th number from its first to its last. -/
theorem contains_iff {r : Run} {n : Nat} :
    r.contains n = true ↔ r.first ≤ n ∧ n ≤ r.last ∧ (n - r.first) % r.step = 0 := by
  simp [contains, and_assoc]

/-- A proper run contains what is reached from its first number in whole steps. -/
theorem contains_iff_exists {r : Run} (hr : r.IsProper) {n : Nat} :
    r.contains n = true ↔ ∃ i ≤ (r.last - r.first) / r.step, n = r.first + r.step * i := by
  obtain ⟨hstep, hle⟩ := hr
  rw [contains_iff]
  constructor
  · -- The number of steps is the quotient of the distance.
    rintro ⟨hfirst, hlast, hmod⟩
    refine ⟨(n - r.first) / r.step, Nat.div_le_div_right (by omega), ?_⟩
    have := Nat.div_add_mod (n - r.first) r.step
    omega
  · rintro ⟨i, hi, rfl⟩
    have hmul : r.step * i ≤ r.last - r.first :=
      (Nat.mul_le_mul_left _ hi).trans (Nat.mul_div_le _ _)
    exact ⟨by omega, by omega, by simp⟩

/-- The pieces of a run contain the same numbers as the run. -/
theorem any_pieces {r : Run} (hr : r.IsProper) (n : Nat) :
    (r.pieces.any fun p => p.1 ≤ n && n ≤ p.2) = r.contains n := by
  unfold pieces
  split
  · -- A run of all its numbers is one piece, any other run has a piece for each number.
    rename_i hstep
    simp [contains, hstep, Nat.mod_one]
  · rw [Bool.eq_iff_iff, contains_iff_exists hr]
    simp only [List.any_map, List.any_eq_true, List.mem_range, Function.comp_apply,
      Bool.and_eq_true, decide_eq_true_eq, Nat.lt_succ_iff]
    exact exists_congr fun i => and_congr_right' (by omega)

end Run

namespace CodePoints

/-- The end of the code points that sets are about. -/
def bound : Nat := 0x30000

/-- A set with the code points from `first` to `last`. -/
def withRun (s first last : Nat) : Nat :=
  s ||| (1 <<< (min (last + 1) bound - first) - 1) <<< first

/-- Adding a stretch to a set adds the numbers from its first to its last. -/
theorem testBit_withRun (s first last : Nat) {n : Nat} (hn : n < bound) :
    (withRun s first last).testBit n = (s.testBit n || (first ≤ n && n ≤ last)) := by
  rw [withRun, Nat.testBit_or, Nat.shiftLeft_eq 1, Nat.one_mul, Nat.testBit_shiftLeft,
    Nat.testBit_two_pow_sub_one]
  congr 1
  rw [Bool.eq_iff_iff]
  simp only [Bool.and_eq_true, decide_eq_true_eq]
  omega

/-- A set with all code points of some runs. Matching on the set makes it computed at every step,
    and not only when the last step is done. -/
def withRuns : List (Nat × Nat) → Nat → Nat
  | [], s => s
  | (first, last) :: rs, s =>
    match withRun s first last with
    | .zero => withRuns rs .zero
    | .succ t => withRuns rs (.succ t)

/-- Stretches are added one after another. -/
theorem withRuns_cons (r : Nat × Nat) (rs : List (Nat × Nat)) (s : Nat) :
    withRuns (r :: rs) s = withRuns rs (withRun s r.1 r.2) := by
  rw [withRuns]
  split
  · rename_i h
    rw [h]
  · rename_i h
    rw [h]

/-- A set with some stretches added has what it had and what lies in one of them. -/
theorem testBit_withRuns (rs : List (Nat × Nat)) (s : Nat) {n : Nat} (hn : n < bound) :
    (withRuns rs s).testBit n = (s.testBit n || rs.any fun p => p.1 ≤ n && n ≤ p.2) := by
  induction rs generalizing s with
  | nil => simp [withRuns]
  | cons r rs ih => rw [withRuns_cons, ih, testBit_withRun _ _ _ hn, List.any_cons, Bool.or_assoc]

/-- The code points of some runs. -/
def ofRuns (rs : List Run) : Nat := withRuns (rs.flatMap Run.pieces) 0

/-- The set of some runs has what one of them contains. -/
theorem testBit_ofRuns {rs : List Run} (h : ∀ r ∈ rs, r.IsProper) {n : Nat} (hn : n < bound) :
    (ofRuns rs).testBit n = rs.any (·.contains n) := by
  rw [ofRuns, testBit_withRuns _ _ hn, Nat.zero_testBit, Bool.false_or, List.any_flatMap]
  rw [Bool.eq_iff_iff, List.any_eq_true, List.any_eq_true]
  refine exists_congr fun r => and_congr_right fun hr => ?_
  rw [Run.any_pieces (h r hr)]

/-- The code points of a list. -/
def ofList (ns : List Nat) : Nat := withRuns (ns.map fun n => (n, n)) 0

/-- The set of a list has the numbers of the list. -/
theorem testBit_ofList {ns : List Nat} {n : Nat} (hn : n < bound) :
    (ofList ns).testBit n = true ↔ n ∈ ns := by
  rw [ofList, testBit_withRuns _ _ hn, Nat.zero_testBit, Bool.false_or, List.any_map,
    List.any_eq_true]
  simp only [Function.comp_apply, Bool.and_eq_true, decide_eq_true_eq, ← Nat.le_antisymm_iff,
    exists_eq_right]

/-- Whether a set has none of the `count` code points from `first` on. -/
def areMissing (s first count : Nat) : Bool := (s >>> first) % (1 <<< count) == 0

/-- If a stretch of numbers is missing, each of them is. -/
theorem testBit_of_areMissing {s first count n : Nat} (h : areMissing s first count = true)
    (hfirst : first ≤ n) (hn : n < first + count) : s.testBit n = false := by
  -- The stretch is cut out by a shift and a remainder.
  have hbit : ((s >>> first) % (1 <<< count)).testBit (n - first) = false := by
    rw [beq_iff_eq.1 h, Nat.zero_testBit]
  rw [Nat.shiftLeft_eq, Nat.one_mul, Nat.testBit_mod_two_pow, Nat.testBit_shiftRight,
    Nat.add_sub_cancel' hfirst, decide_eq_true (by omega), Bool.true_and] at hbit
  exact hbit

end CodePoints

end HttpState.Unicode
