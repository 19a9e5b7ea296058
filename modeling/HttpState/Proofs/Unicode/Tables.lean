import HttpState.Proofs.Unicode.CodePoints
import HttpState.Unicode.Normalization

/-!
# What holds of the tables of characters

The tables of decompositions and of the host mapping are data, and what the proofs about them need
is found by computation: that the parts of a decomposition have no decomposition of their own, apart
from the first one, that no chain of first parts is longer than four, that pairs of characters
compose one character only, and that neither replacing, decomposing nor composing makes a character
that a host name does not hold from ones that it holds.

## Key definitions

- `notKept`, `decomposed`, `decomposedTo`: sets of code points, as numbers
- `isSoundDecomposition`, `isSoundMapping`: what is asked of every entry

## Key results

- `tablesAreSound_eq_true`: the computation
-/

namespace HttpState.Unicode

open CodePoints (bound)

/-! ## What is computed -/

/-- The code points that a host name does not hold as they are. -/
def notKept : Nat :=
  (hostMappingRuns.map CodePoints.ofRuns).foldr (· ||| ·) (CodePoints.withRun 0 0x41 0x5A)

/-- The code points that can be decomposed. -/
def decomposed : Nat := CodePoints.ofList (decompositionTable.toList.map Run.first)

/-- The code points that can be decomposed, the first part of them again, and so on `depth` times
    more. -/
def decomposedTo : Nat → Nat
  | 0 => decomposed
  | depth + 1 =>
    CodePoints.ofList ((decompositionTable.toList.filter fun r =>
      r.numbers.head?.any (decomposedTo depth).testBit).map Run.first)

/-- Whether a number is a code point below the bound that stands for a character and not for a
    Hangul syllable. -/
def isPlain (n : Nat) : Bool := n < 0xAC00 || (0xE000 ≤ n && n < bound)

/-- Whether a number is a code point below the bound that a host name holds as it is. -/
def isHeld (n : Nat) : Bool := n < bound && Nat.isValidChar n && !notKept.testBit n

/-- Whether an entry of the table of decompositions is sound. -/
def isSoundDecomposition (r : Run) : Bool :=
  isPlain r.first && 0xC0 ≤ r.first && !(0x1100 ≤ r.first && r.first < 0x1200) &&
    r.numbers.all isPlain && r.numbers.head?.any (· != 0x2E) &&
    (r.numbers.drop 1).all (fun n => 0x80 ≤ n && !decomposed.testBit n) &&
    (notKept.testBit r.first || r.numbers.all fun n => !notKept.testBit n) &&
    (r.sign != some '=' || !notKept.testBit r.first || r.numbers.any notKept.testBit)

/-- The code points of a run, each changed by `f`. -/
def changed (r : Run) (f : Nat → Nat) : List Nat :=
  (List.range ((r.last - r.first) / r.step + 1)).map fun i => f (r.first + r.step * i)

/-- Whether a run of the host mapping is sound. -/
def isSoundMapping (r : Run) : Bool :=
  0 < r.step && r.first ≤ r.last && 0x80 ≤ r.first &&
    (r.sign != some '=' || r.numbers.all isHeld) &&
    (r.sign != some '+' || (changed r (· + r.numbers.headD 0)).all isHeld) &&
    (r.sign != some '_' || (changed r (· - r.numbers.headD 0)).all isHeld)

/-- Whether every number of a list is above the one before it. -/
def isIncreasing : List Nat → Bool
  | a :: b :: l => a < b && isIncreasing (b :: l)
  | _ => true

/-- All that is known of the tables. The four runs are those of the letters and syllables of
    Hangul. -/
def tablesAreSound : Bool :=
  decompositionTable.toList.all isSoundDecomposition &&
    hostMappingRuns.all (·.all isSoundMapping) &&
    [(0x1100, 19), (0x1161, 21), (0x11A8, 27), (0xAC00, 11172)].all
      (fun (first, count) => CodePoints.areMissing notKept first count) &&
    decomposedTo 4 == 0 && isIncreasing (pairDecompositions.map (·.1))

/-- The tables pass the check. This is the one computation over all of them, and everything that is
    known of them comes out of it. -/
theorem tablesAreSound_eq_true : tablesAreSound = true := by decide +kernel

/-- Every entry of the decomposition table passes its check. -/
theorem soundDecompositions : ∀ r ∈ decompositionTable.toList, isSoundDecomposition r = true := by
  have h := tablesAreSound_eq_true
  simp only [tablesAreSound, Bool.and_eq_true, List.all_eq_true] at h
  exact h.1.1.1.1

/-- Every run of the mapping table passes its check. -/
theorem soundMappings : ∀ r ∈ hostMappingRuns.flatten, isSoundMapping r = true := by
  have h := tablesAreSound_eq_true
  simp only [tablesAreSound, Bool.and_eq_true, List.all_eq_true] at h
  intro r hr
  obtain ⟨rs, hrs, hr⟩ := List.mem_flatten.1 hr
  exact h.1.1.1.2 rs hrs r hr

/-- No character decomposes more than four times. -/
theorem decomposedTo_four : decomposedTo 4 = 0 := by
  have h := tablesAreSound_eq_true
  simp only [tablesAreSound, Bool.and_eq_true, beq_iff_eq] at h
  exact h.1.2

/-- The pairs stand in increasing order. -/
theorem isIncreasing_pairDecompositions : isIncreasing (pairDecompositions.map (·.1)) = true := by
  have h := tablesAreSound_eq_true
  simp only [tablesAreSound, Bool.and_eq_true] at h
  exact h.2

/-- A host name holds all letters and syllables of Hangul. -/
theorem notKept_hangul {n : Nat}
    (h : (0x1100 ≤ n ∧ n < 0x1100 + 19) ∨ (0x1161 ≤ n ∧ n < 0x1161 + 21) ∨
      (0x11A8 ≤ n ∧ n < 0x11A8 + 27) ∨ (0xAC00 ≤ n ∧ n < 0xAC00 + 11172)) :
    notKept.testBit n = false := by
  have hsound := tablesAreSound_eq_true
  simp only [tablesAreSound, Bool.and_eq_true, List.all_cons, List.all_nil] at hsound
  obtain ⟨⟨⟨_, hL, hV, hT, hS, _⟩, _⟩, _⟩ := hsound
  rcases h with ⟨hle, hlt⟩ | ⟨hle, hlt⟩ | ⟨hle, hlt⟩ | ⟨hle, hlt⟩
  · exact CodePoints.testBit_of_areMissing hL hle hlt
  · exact CodePoints.testBit_of_areMissing hV hle hlt
  · exact CodePoints.testBit_of_areMissing hT hle hlt
  · exact CodePoints.testBit_of_areMissing hS hle hlt

end HttpState.Unicode
