import HttpState.Proofs.Unicode.Tables
import Mathlib.Data.List.Chain

/-!
# What is found in the table of decompositions

A code point that the table has an entry for is replaced by a first part and a rest. Only the first
part can be replaced again, four times at most, so four levels decompose a code point completely. A
pair of code points that compose one is found in the table with the code point that has the pair as
its entry, and there is only one.

## Key definitions

- `Decomposes`: what is known of an entry of the table

## Key results

- `decomposes_of_find?`, `of_findRun?`: what is found for a code point, and for a pair
- `find?_of_mem_pairDecompositions`: pairs are found
- `find?_of_mem_decomposeWithin`: decompositions are complete
- `forall_mem_decomposeWithin`: what holds of all code points in a decomposition
-/

namespace HttpState.Unicode

open CodePoints (bound)

/-! ## Decompositions -/

/-- The table is searched entry by entry. -/
theorem find?_decompositionTable (n : Nat) :
    decompositionTable.find? n = decompositionTable.toList.find? (·.contains n) :=
  Array.find?_toList.symm

/-- The table holds the pairs that may be composed again, and the decompositions that may not. -/
theorem toList_decompositionTable : decompositionTable.toList =
    pairDecompositions.map (fun (n, a, b) => ⟨n, n, 1, some '=', [a, b]⟩) ++
      excludedDecompositions.map fun (n, s) => ⟨n, n, 1, some '!', s⟩ := by
  rw [decompositionTable, Table.ofRuns, List.toList_toArray]

/-- Every entry of the table is about one code point. -/
theorem contains_iff_of_mem_decompositionTable {r : Run} (h : r ∈ decompositionTable.toList)
    {n : Nat} : r.contains n = true ↔ n = r.first := by
  rw [toList_decompositionTable, List.mem_append, List.mem_map, List.mem_map] at h
  rcases h with ⟨p, _, rfl⟩ | ⟨p, _, rfl⟩
  · simp only [Run.contains_iff, Nat.mod_one, and_true]
    omega
  · simp only [Run.contains_iff, Nat.mod_one, and_true]
    omega

/-- A plain number is within the bound of the sets. -/
theorem lt_bound_of_isPlain {n : Nat} (h : isPlain n = true) : n < bound := by
  simp only [isPlain, Bool.or_eq_true, Bool.and_eq_true, decide_eq_true_eq] at h
  have hbound : bound = 0x30000 := rfl
  omega

/-- What is known of a code point with a decomposition into a first part and the rest. -/
structure Decomposes (n first : Nat) (rest : List Nat) : Prop where
  isPlain : isPlain n = true
  le : 0xC0 ≤ n
  not_letter : ¬ (0x1100 ≤ n ∧ n < 0x1200)
  isPlain_parts : ∀ m ∈ first :: rest, Unicode.isPlain m = true
  first_ne : first ≠ 0x2E
  find?_rest : ∀ m ∈ rest, decompositionTable.find? m = none
  le_rest : ∀ m ∈ rest, 0x80 ≤ m
  kept : notKept.testBit n = false → ∀ m ∈ first :: rest, notKept.testBit m = false

/-- The set of decomposed numbers has what the table has an entry for. -/
theorem testBit_decomposed_iff {n : Nat} (hn : n < bound) :
    decomposed.testBit n = true ↔ decompositionTable.find? n ≠ none := by
  rw [decomposed, CodePoints.testBit_ofList hn, find?_decompositionTable, Ne, List.find?_eq_none,
    List.mem_map]
  simp only [not_forall, Decidable.not_not]
  constructor
  · rintro ⟨r, hr, rfl⟩
    exact ⟨r, hr, (contains_iff_of_mem_decompositionTable hr).2 rfl⟩
  · rintro ⟨r, hr, hn⟩
    exact ⟨r, hr, ((contains_iff_of_mem_decompositionTable hr).1 hn).symm⟩

/-- What is found for a number is an entry of the table about this number. -/
theorem mem_of_find? {n : Nat} {r : Run} (h : decompositionTable.find? n = some r) :
    r ∈ decompositionTable.toList ∧ r.first = n := by
  rw [find?_decompositionTable] at h
  have hmem := List.mem_of_find?_eq_some h
  have hcontains : r.contains n = true := List.find?_some (p := fun r : Run => r.contains n) h
  exact ⟨hmem, ((contains_iff_of_mem_decompositionTable hmem).1 hcontains).symm⟩

/-- Every entry of the table decomposes its number in the way the check has found. -/
theorem decomposes_of_mem {r : Run} (h : r ∈ decompositionTable.toList) :
    ∃ first rest, r.numbers = first :: rest ∧ Decomposes r.first first rest := by
  have hsound := soundDecompositions r h
  simp only [isSoundDecomposition, Bool.and_eq_true, Bool.or_eq_true, Bool.not_eq_true',
    decide_eq_true_eq, List.all_eq_true, Option.any_eq_true, bne_iff_ne, ne_eq,
    Bool.and_eq_false_iff, decide_eq_false_iff_not] at hsound
  obtain ⟨⟨⟨⟨⟨⟨⟨hplain, hle⟩, hletter⟩, hparts⟩, hhead⟩, hrest⟩, hkept⟩, _⟩ := hsound
  obtain ⟨first, hfirst, hne⟩ := hhead
  obtain ⟨rest, hnumbers⟩ := List.head?_eq_some_iff.1 hfirst
  rw [hnumbers] at hparts hrest hkept
  refine ⟨first, rest, hnumbers, hplain, hle, by omega, hparts, hne, ?_, fun m hm => (hrest m hm).1,
    ?_⟩
  · -- The other parts are not decomposed again, so the table has no entry for them.
    intro m hm
    have hbit := (hrest m hm).2
    have hbound := lt_bound_of_isPlain (hparts m (List.mem_cons_of_mem _ hm))
    by_contra hsome
    rw [(testBit_decomposed_iff hbound).2 hsome] at hbit
    cases hbit
  · intro hn
    rcases hkept with hbit | hkept
    · rw [hn] at hbit
      cases hbit
    · exact hkept

/-- What is found in the table of decompositions. -/
theorem decomposes_of_find? {n : Nat} {r : Run} (h : decompositionTable.find? n = some r) :
    ∃ first rest, r.numbers = first :: rest ∧ Decomposes n first rest := by
  obtain ⟨hmem, rfl⟩ := mem_of_find? h
  exact decomposes_of_mem hmem

/-- A number with an entry in the table decomposes. -/
theorem exists_decomposes {n : Nat} (h : decompositionTable.find? n ≠ none) :
    ∃ first rest, Decomposes n first rest := by
  obtain ⟨r, hr⟩ := Option.ne_none_iff_exists'.1 h
  obtain ⟨first, rest, -, hdec⟩ := decomposes_of_find? hr
  exact ⟨first, rest, hdec⟩

/-! ### Compositions -/

/-- The check of neighbours is enough to know that a list is increasing. -/
theorem pairwise_of_isIncreasing {l : List Nat} (h : isIncreasing l = true) :
    l.Pairwise (· < ·) := by
  rw [← List.isChain_iff_pairwise]
  induction l with
  | nil => exact .nil
  | cons a l ih =>
    cases l with
    | nil => exact .singleton a
    | cons b l =>
      simp only [isIncreasing, Bool.and_eq_true, decide_eq_true_eq] at h
      exact .cons_cons h.1 (ih h.2)

/-- In an increasing list of runs of one number each, searching for a number finds its run. -/
theorem find?_of_pairwise {l : List Run} (hl : l.Pairwise fun r s => r.first < s.first)
    (hcontains : ∀ r ∈ l, ∀ n, r.contains n = true ↔ n = r.first) {r : Run} (hr : r ∈ l) :
    l.find? (·.contains r.first) = some r := by
  induction l with
  | nil => cases hr
  | cons s l ih =>
    rw [List.pairwise_cons] at hl
    rw [List.forall_mem_cons] at hcontains
    rcases List.mem_cons.1 hr with rfl | hr
    · -- The first run is it.
      exact List.find?_cons_of_pos (p := fun s : Run => s.contains r.first) ((hcontains.1 _).2 rfl)
    · -- The first run is another one, with a smaller code point.
      have hne : ¬ s.contains r.first = true := by
        rw [hcontains.1]
        exact (hl.1 r hr).ne'
      rw [List.find?_cons_of_neg (p := fun s : Run => s.contains r.first) hne]
      exact ih hl.2 hcontains.2 hr

/-- A code point that is made of a pair is found in the table. -/
theorem find?_of_mem_pairDecompositions {n a b : Nat} (h : (n, a, b) ∈ pairDecompositions) :
    decompositionTable.find? n = some ⟨n, n, 1, some '=', [a, b]⟩ := by
  have hpairwise : (pairDecompositions.map fun (n, a, b) =>
      (⟨n, n, 1, some '=', [a, b]⟩ : Run)).Pairwise fun r s => r.first < s.first := by
    have := pairwise_of_isIncreasing isIncreasing_pairDecompositions
    rw [List.pairwise_map] at this ⊢
    exact this
  rw [find?_decompositionTable, toList_decompositionTable, List.find?_append,
    -- The pairs come first in the table, so the entry is found among them.
    find?_of_pairwise (r := ⟨n, n, 1, some '=', [a, b]⟩) hpairwise, Option.some_or]
  · intro r hr m
    apply contains_iff_of_mem_decompositionTable
    rw [toList_decompositionTable]
    exact List.mem_append_left _ hr
  · exact List.mem_map.2 ⟨_, h, rfl⟩

/-- What is found for a pair of code points in the table of decompositions. -/
theorem of_findRun? {a b : Nat} {r : Run}
    (h : decompositionTable.findRun? (fun r => r.sign == some '=' && r.numbers == [a, b]) = some r) :
    decompositionTable.find? r.first = some r ∧ r.numbers = [a, b] ∧
      (notKept.testBit a = false → notKept.testBit b = false →
        notKept.testBit r.first = false) := by
  rw [Table.findRun?, ← Array.find?_toList] at h
  have hmem := List.mem_of_find?_eq_some h
  have hsome := List.find?_some h
  simp only [Bool.and_eq_true, beq_iff_eq] at hsome
  obtain ⟨hsign, hnumbers⟩ := hsome
  have hsound := soundDecompositions r hmem
  simp only [isSoundDecomposition, Bool.and_eq_true, Bool.or_eq_true, hsign, hnumbers,
    bne_self_eq_false, Bool.false_eq_true, false_or, List.any_cons, List.any_nil, Bool.or_false,
    Bool.not_eq_true'] at hsound
  refine ⟨?_, hnumbers, ?_⟩
  · -- The sign is that of a pair, so the entry is none of those that may not be composed.
    rw [toList_decompositionTable, List.mem_append, List.mem_map, List.mem_map] at hmem
    rcases hmem with ⟨⟨n, c, d⟩, hp, rfl⟩ | ⟨⟨n, l⟩, hp, rfl⟩
    · exact find?_of_mem_pairDecompositions hp
    · cases hsign
  · intro ha hb
    rcases hsound.2 with hkept | hkept | hkept
    · exact hkept
    · rw [ha] at hkept
      cases hkept
    · rw [hb] at hkept
      cases hkept

/-! ### Levels of decompositions -/

/-- The first part can be decomposed one time less often. -/
theorem testBit_decomposedTo_first {depth n first : Nat} {rest : List Nat} {r : Run}
    (h : decompositionTable.find? n = some r) (hnumbers : r.numbers = first :: rest)
    (hbit : (decomposedTo (depth + 1)).testBit n = false) :
    (decomposedTo depth).testBit first = false := by
  rw [← Bool.not_eq_true] at hbit ⊢
  refine mt (fun hfirst => ?_) hbit
  obtain ⟨hmem, rfl⟩ := mem_of_find? h
  obtain ⟨_, _, _, hdec⟩ := decomposes_of_find? h
  rw [decomposedTo, CodePoints.testBit_ofList (lt_bound_of_isPlain hdec.isPlain)]
  refine List.mem_map.2 ⟨r, List.mem_filter.2 ⟨hmem, ?_⟩, rfl⟩
  rw [hnumbers]
  exact hfirst

/-- An entry is followed into its first part, and the other parts stay. -/
theorem decomposeWithin_succ_of_find? {depth n first : Nat} {rest : List Nat} {r : Run}
    (h : decompositionTable.find? n = some r) (hnumbers : r.numbers = first :: rest) :
    decomposeWithin (depth + 1) n = decomposeWithin depth first ++ rest := by
  rw [decomposeWithin, h]
  simp only [hnumbers]

/-- A number without an entry stands for itself, however deep one may go. -/
theorem decomposeWithin_of_find?_eq_none {depth n : Nat} (h : decompositionTable.find? n = none) :
    decomposeWithin depth n = [n] := by
  cases depth with
  | zero => rfl
  | succ depth => rw [decomposeWithin, h]

/-- What does not decompose at all has no entry. -/
theorem find?_eq_none_of_decomposedTo_zero {n : Nat} (h : (decomposedTo 0).testBit n = false) :
    decompositionTable.find? n = none := by
  by_contra hsome
  obtain ⟨_, _, hdec⟩ := exists_decomposes hsome
  rw [decomposedTo, (testBit_decomposed_iff (lt_bound_of_isPlain hdec.isPlain)).2 hsome] at h
  cases h

/-- A code point whose first parts can be decomposed less often than `depth` times is decomposed
    into code points that have no decomposition. -/
theorem find?_of_mem_decomposeWithin {depth n : Nat} (h : (decomposedTo depth).testBit n = false) :
    ∀ m ∈ decomposeWithin depth n, decompositionTable.find? m = none := by
  induction depth generalizing n with
  | zero =>
    intro m hm
    rw [decomposeWithin, List.mem_singleton] at hm
    rw [hm]
    exact find?_eq_none_of_decomposedTo_zero h
  | succ depth ih =>
    intro m hm
    cases hfind : decompositionTable.find? n with
    | none =>
      rw [decomposeWithin_of_find?_eq_none hfind, List.mem_singleton] at hm
      rw [hm, hfind]
    | some r =>
      -- Only the first part is decomposed again, and the induction is on how often it can be.
      obtain ⟨first, rest, hnumbers, hdec⟩ := decomposes_of_find? hfind
      rw [decomposeWithin_succ_of_find? hfind hnumbers, List.mem_append] at hm
      rcases hm with hm | hm
      · exact ih (testBit_decomposedTo_first hfind hnumbers h) m hm
      · exact hdec.find?_rest m hm

/-- One more level makes no difference. -/
theorem decomposeWithin_succ {depth n : Nat} (h : (decomposedTo depth).testBit n = false) :
    decomposeWithin (depth + 1) n = decomposeWithin depth n := by
  induction depth generalizing n with
  | zero => exact decomposeWithin_of_find?_eq_none (find?_eq_none_of_decomposedTo_zero h)
  | succ depth ih =>
    cases hfind : decompositionTable.find? n with
    | none => rw [decomposeWithin_of_find?_eq_none hfind, decomposeWithin_of_find?_eq_none hfind]
    | some r =>
      obtain ⟨first, rest, hnumbers, hdec⟩ := decomposes_of_find? hfind
      rw [decomposeWithin_succ_of_find? hfind hnumbers,
        decomposeWithin_succ_of_find? hfind hnumbers,
        ih (testBit_decomposedTo_first hfind hnumbers h)]

/-- What holds of a code point, and of the parts of every code point that it holds of, holds of all
    code points that it is decomposed into. -/
theorem forall_mem_decomposeWithin {P : Nat → Prop}
    (hparts : ∀ n first rest, Decomposes n first rest → P n → ∀ m ∈ first :: rest, P m)
    (depth : Nat) {n : Nat} (hn : P n) : ∀ m ∈ decomposeWithin depth n, P m := by
  induction depth generalizing n with
  | zero =>
    intro m hm
    rw [decomposeWithin, List.mem_singleton] at hm
    rwa [hm]
  | succ depth ih =>
    intro m hm
    cases hfind : decompositionTable.find? n with
    | none =>
      rw [decomposeWithin_of_find?_eq_none hfind, List.mem_singleton] at hm
      rwa [hm]
    | some r =>
      obtain ⟨first, rest, hnumbers, hdec⟩ := decomposes_of_find? hfind
      have hall := hparts n first rest hdec hn
      rw [decomposeWithin_succ_of_find? hfind hnumbers, List.mem_append] at hm
      -- The first part is decomposed further, the others are parts already.
      rcases hm with hm | hm
      · exact ih (hall first List.mem_cons_self) m hm
      · exact hall m (List.mem_cons_of_mem _ hm)

end HttpState.Unicode
