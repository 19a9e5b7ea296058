import HttpState.Proofs.Text.LetterCase
import HttpState.Proofs.Unicode.Composition

/-!
# Characters that a host name holds

The characters that others are replaced by are kept as they are, and so is what kept characters are
decomposed into and what they compose. So a name whose characters have been mapped goes on holding
kept characters only when it is normalized.

## Key results

- `hostMapping_eq_kept_iff`: the characters that are kept, as a set
- `kept_of_replaced`, `kept_of_mem_mapHost`: mapped characters are kept
- `kept_of_mem_decompose`, `kept_of_composite?`: and so are their parts, and what they compose
-/

namespace HttpState.Unicode

open CodePoints (bound)

/-! ## The set of the characters that are not kept -/

/-- Every run of the table is a proper one, and begins behind the ASCII characters. -/
theorem isProper_of_mem_hostMappingRuns {r : Run} (h : r ∈ hostMappingRuns.flatten) :
    r.IsProper ∧ 0x80 ≤ r.first := by
  have hsound := soundMappings r h
  simp only [isSoundMapping, Bool.and_eq_true, decide_eq_true_eq] at hsound
  obtain ⟨⟨⟨⟨⟨hstep, hle⟩, hfirst⟩, _⟩, _⟩, _⟩ := hsound
  exact ⟨⟨hstep, hle⟩, hfirst⟩

/-- A bit of a union is set if it is set in one of the numbers. -/
theorem testBit_foldr_or (s n : Nat) (l : List Nat) :
    (l.foldr (· ||| ·) s).testBit n = (s.testBit n || l.any (·.testBit n)) := by
  induction l with
  | nil => simp
  | cons t l ih => rw [List.foldr_cons, Nat.testBit_or, ih, List.any_cons, Bool.or_left_comm]

/-- The set of characters that are not kept holds the capital letters and what the table has a run
    for. -/
theorem testBit_notKept_iff {n : Nat} (hn : n < bound) :
    notKept.testBit n = true ↔
      (0x41 ≤ n ∧ n ≤ 0x5A) ∨ ∃ r ∈ hostMappingRuns.flatten, r.contains n = true := by
  -- Of the ASCII characters, only the capital letters are not kept; all others are in the table.
  rw [notKept, testBit_foldr_or, CodePoints.testBit_withRun _ _ _ hn, Nat.zero_testBit,
    Bool.false_or, Bool.or_eq_true, Bool.and_eq_true, decide_eq_true_eq, decide_eq_true_eq,
    List.any_map, List.any_eq_true]
  refine or_congr_right ?_
  constructor
  · rintro ⟨rs, hrs, hbit⟩
    rw [Function.comp_apply, CodePoints.testBit_ofRuns _ hn, List.any_eq_true] at hbit
    · obtain ⟨r, hr, hcontains⟩ := hbit
      exact ⟨r, List.mem_flatten_of_mem hrs hr, hcontains⟩
    · exact fun r hr => (isProper_of_mem_hostMappingRuns (List.mem_flatten_of_mem hrs hr)).1
  · rintro ⟨r, hr, hcontains⟩
    obtain ⟨rs, hrs, hr⟩ := List.mem_flatten.1 hr
    refine ⟨rs, hrs, ?_⟩
    rw [Function.comp_apply, CodePoints.testBit_ofRuns _ hn, List.any_eq_true]
    · exact ⟨r, hr, hcontains⟩
    · exact fun r hr => (isProper_of_mem_hostMappingRuns (List.mem_flatten_of_mem hrs hr)).1

/-- The table is searched run by run. -/
theorem find?_hostMappingTable (n : Nat) :
    hostMappingTable.find? n = hostMappingRuns.flatten.find? (·.contains n) := by
  rw [hostMappingTable, Table.ofRuns, Table.find?, Table.findRun?, List.find?_toArray]

/-- A character above ASCII is kept if no run of the table contains it. -/
theorem hostMappingAbove_eq_kept_iff {n : Nat} :
    hostMappingAbove n = .kept ↔ hostMappingTable.find? n = none := by
  unfold hostMappingAbove
  -- A run that is found maps the character, whatever its sign says.
  cases hostMappingTable.find? n with
  | none => simp
  | some r =>
    simp only [reduceCtorEq, iff_false]
    split
    · simp
    split
    · simp
    split
    · simp
    split
    · simp
    · simp

/-- The ASCII characters are the first 128. -/
theorem isAscii_iff {c : Char} : isAscii c = true ↔ c.toNat < 0x80 := decide_eq_true_iff

/-- A host name holds the characters that are not in the set. -/
theorem hostMapping_eq_kept_iff {c : Char} (hc : c.toNat < bound) :
    hostMapping c = .kept ↔ notKept.testBit c.toNat = false := by
  rw [← Bool.not_eq_true, testBit_notKept_iff hc]
  unfold hostMapping
  split
  · rename_i hascii
    rw [isAscii_iff] at hascii
    -- The table begins behind ASCII, so only the capital letters count.
    have hrun : ¬ ∃ r ∈ hostMappingRuns.flatten, r.contains c.toNat = true := by
      rintro ⟨r, hr, hcontains⟩
      have hfirst := (isProper_of_mem_hostMappingRuns hr).2
      have := (Run.contains_iff.1 hcontains).1
      omega
    simp only [hrun, or_false]
    have hupper := @Text.isUpper_iff c
    split
    · rename_i h
      simp only [reduceCtorEq, false_iff, not_not]
      exact hupper.1 h
    · rename_i h
      simp only [true_iff]
      exact mt hupper.2 h
  · rename_i hascii
    rw [isAscii_iff] at hascii
    rw [hostMappingAbove_eq_kept_iff, find?_hostMappingTable, List.find?_eq_none]
    simp only [not_or, not_exists, not_and]
    -- A character behind ASCII is no capital letter, so only the table counts.
    constructor
    · exact fun h => ⟨by omega, h⟩
    · exact fun h => h.2

/-! ## Mapped characters -/

/-- A number in the set of held characters stands for a character that is kept. -/
theorem kept_of_isHeld {n : Nat} (h : isHeld n = true) : hostMapping (Char.ofNat n) = .kept := by
  simp only [isHeld, Bool.and_eq_true, decide_eq_true_eq, Bool.not_eq_true'] at h
  obtain ⟨⟨hbound, hvalid⟩, hkept⟩ := h
  have htoNat : (Char.ofNat n).toNat = n := by
    rw [Char.ofNat, dif_pos hvalid]
    rfl
  rw [hostMapping_eq_kept_iff (by rwa [htoNat]), htoNat]
  exact hkept

/-- What a proper run changes one of its numbers into is among all that it changes them into. -/
theorem mem_changed {r : Run} (hr : r.IsProper) {n : Nat} (h : r.contains n = true)
    (f : Nat → Nat) : f n ∈ changed r f := by
  obtain ⟨i, hi, rfl⟩ := (Run.contains_iff_exists hr).1 h
  exact List.mem_map.2 ⟨i, List.mem_range.2 (by omega), rfl⟩

/-- A letter in lower case is kept. -/
theorem kept_toLower {c : Char} (h : isAscii c = true) : hostMapping c.toLower = .kept := by
  have hascii : isAscii c.toLower = true := by
    rw [isAscii_iff] at h ⊢
    rw [Text.toNat_toLower]
    split <;> omega
  have hupper : ¬ c.toLower.isUpper = true := by
    rw [Text.isUpper_toLower]
    simp
  rw [hostMapping, if_pos hascii, if_neg hupper]

/-- Code points above ASCII are replaced by characters that are kept. -/
theorem kept_of_hostMappingAbove {n : Nat} {s : List Char} (h : hostMappingAbove n = .replaced s) :
    ∀ d ∈ s, hostMapping d = .kept := by
  unfold hostMappingAbove at h
  cases hfind : hostMappingTable.find? n with
  | none =>
    rw [hfind] at h
    cases h
  | some r =>
    rw [hfind] at h
    rw [find?_hostMappingTable] at hfind
    have hmem := List.mem_of_find?_eq_some hfind
    have hcontains : r.contains n = true :=
      List.find?_some (p := fun r : Run => r.contains n) hfind
    have hproper := (isProper_of_mem_hostMappingRuns hmem).1
    have hsound := soundMappings r hmem
    simp only [isSoundMapping, Bool.and_eq_true, Bool.or_eq_true, bne_iff_ne, ne_eq,
      List.all_eq_true] at hsound
    obtain ⟨⟨⟨_, hequal⟩, hplus⟩, hminus⟩ := hsound
    dsimp only at h
    -- The sign of the run says whether it has the characters themselves or a distance to them.
    split at h
    · rename_i hsign
      cases h
      intro d hd
      obtain ⟨m, hm, rfl⟩ := List.mem_map.1 hd
      exact kept_of_isHeld (hequal.resolve_left (not_not.2 hsign) m hm)
    split at h
    · rename_i hsign
      cases h
      intro d hd
      rw [List.mem_singleton.1 hd]
      exact kept_of_isHeld (hplus.resolve_left (not_not.2 hsign) _
        (mem_changed hproper hcontains fun n => n + r.numbers.headD 0))
    split at h
    · rename_i hsign
      cases h
      intro d hd
      rw [List.mem_singleton.1 hd]
      exact kept_of_isHeld (hminus.resolve_left (not_not.2 hsign) _
        (mem_changed hproper hcontains fun n => n - r.numbers.headD 0))
    split at h
    · cases h
    · cases h

/-- Characters are replaced by characters that are kept. -/
theorem kept_of_replaced {c : Char} {s : List Char} (h : hostMapping c = .replaced s) :
    ∀ d ∈ s, hostMapping d = .kept := by
  unfold hostMapping at h
  split at h
  · rename_i hascii
    split at h
    · cases h
      exact List.forall_mem_singleton.2 (kept_toLower hascii)
    · cases h
  · exact kept_of_hostMappingAbove h

/-- What is left of a name after its characters have been mapped is kept. -/
theorem kept_of_mem_mapHost {s t : List Char} (h : mapHost s = some t) :
    ∀ c ∈ t, hostMapping c = .kept := by
  induction s generalizing t with
  | nil =>
    cases h
    exact List.forall_mem_nil _
  | cons c s ih =>
    rw [mapHost] at h
    split at h
    · -- The character is kept, and what follows is mapped.
      rename_i hkept
      obtain ⟨u, hu, rfl⟩ := Option.map_eq_some_iff.1 h
      exact List.forall_mem_cons.2 ⟨hkept, ih hu⟩
    · exact ih h
    · cases h
    · -- The character is replaced by others, which are kept by what the table was checked for.
      rename_i u hreplaced
      obtain ⟨v, hv, rfl⟩ := Option.map_eq_some_iff.1 h
      exact List.forall_mem_append.2 ⟨kept_of_replaced hreplaced, ih hv⟩

/-! ## Decompositions and compositions -/

/-- The letters that make up syllables are within the bound of the sets. -/
theorem lt_bound_of_isLetter {n : Nat} (h : IsLetter n) : n < bound := by
  have hbound : bound = 0x30000 := rfl
  unfold IsLetter at h
  omega

/-- Such a letter is kept. -/
theorem kept_of_isLetter {c : Char} (h : IsLetter c.toNat) : hostMapping c = .kept := by
  rw [hostMapping_eq_kept_iff (lt_bound_of_isLetter h)]
  apply notKept_hangul
  unfold IsLetter at h
  omega

/-- A syllable is kept. -/
theorem kept_of_isSyllable {c : Char} (h : IsSyllable c.toNat) : hostMapping c = .kept := by
  have hbound : bound = 0x30000 := rfl
  have hlt : c.toNat < bound := by
    have := h.2
    omega
  rw [hostMapping_eq_kept_iff hlt]
  exact notKept_hangul (.inr (.inr (.inr h)))

/-- A kept character is decomposed into kept ones. -/
theorem kept_of_mem_decompose {c d : Char} (hc : hostMapping c = .kept) (h : d ∈ decompose c) :
    hostMapping d = .kept := by
  by_cases hsyllable : IsSyllable c.toNat
  · rw [decompose_of_isSyllable hsyllable] at h
    obtain ⟨m, hm, rfl⟩ := List.mem_map.1 h
    have hletter : IsLetter m :=
      isLetter_of_mem_hangulLetters (by have := hsyllable.2; have := hsyllable.1; omega) hm
    apply kept_of_isLetter
    rwa [toNat_ofNat_of_isLetter hletter]
  · -- A character without a decomposition stands for itself; any other falls apart along the table,
    -- where what is kept falls apart into what is kept.
    cases hfind : decompositionTable.find? c.toNat with
    | none =>
      rw [decompose_eq_singleton hsyllable hfind, List.mem_singleton] at h
      rwa [h]
    | some r =>
      obtain ⟨_, _, _, hdec⟩ := decomposes_of_find? hfind
      rw [hostMapping_eq_kept_iff (lt_bound_of_isPlain hdec.isPlain)] at hc
      rw [decompose_eq_map hsyllable] at h
      obtain ⟨m, hm, rfl⟩ := List.mem_map.1 h
      have hm := forall_mem_decomposeWithin
        (P := fun n => isPlain n = true ∧ notKept.testBit n = false)
        (fun _ _ _ hdec hn k hk => ⟨hdec.isPlain_parts k hk, hdec.kept hn.2 k hk⟩)
        4 ⟨hdec.isPlain, hc⟩ m hm
      rw [hostMapping_eq_kept_iff, toNat_ofNat_of_isPlain hm.1]
      · exact hm.2
      · rw [toNat_ofNat_of_isPlain hm.1]
        exact lt_bound_of_isPlain hm.1

/-- Kept characters compose kept ones. -/
theorem kept_of_composite? {a b d : Char} (h : composite? a b = some d)
    (ha : hostMapping a = .kept) (hb : hostMapping b = .kept) : hostMapping d = .kept := by
  rcases composite?_cases h with hsyllable | ⟨r, hfind, hnumbers, hkept⟩
  · exact kept_of_isSyllable (isSyllable_of_hangulSyllable? hsyllable)
  · obtain ⟨first, rest, hcons, hdec⟩ := decomposes_of_find? hfind
    obtain ⟨rfl, rfl⟩ := List.cons.inj (hnumbers.symm.trans hcons)
    have hparts := hdec.isPlain_parts
    rw [List.forall_mem_cons, List.forall_mem_singleton] at hparts
    rw [hostMapping_eq_kept_iff (lt_bound_of_isPlain hparts.1)] at ha
    rw [hostMapping_eq_kept_iff (lt_bound_of_isPlain hparts.2)] at hb
    rw [hostMapping_eq_kept_iff (lt_bound_of_isPlain hdec.isPlain)]
    exact hkept ha hb

end HttpState.Unicode
