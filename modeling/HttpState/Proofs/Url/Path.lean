import HttpState.Url.Path

/-!
# Dot segments

A segment `.` with a slash on either side of it can be put into a path or left out: the path
resolves to the same segments. Tabs and line breaks in the path make no difference to that.

## Key definitions

- `InsertsDots`: a path with dot segments behind some of its slashes

## Key results

- `InsertsDots.resolve_eq`: the path resolves to the same
-/

namespace HttpState.Url

/-- A text without breaks stays as it is. -/
theorem withoutBreaks_of_forall {s : List Char} (h : ∀ c ∈ s, isBreak c = false) :
    withoutBreaks s = s :=
  List.filter_eq_self.2 fun c hc => by rw [h c hc]; rfl

/-- Without breaks, counting characters over is dropping them. -/
theorem behind_eq_drop {s : List Char} (h : ∀ c ∈ s, isBreak c = false) (n : Nat) :
    behind n s = s.drop n := by
  induction s generalizing n with
  | nil => cases n <;> rfl
  | cons c s ih =>
    rw [List.forall_mem_cons] at h
    cases n with
    | zero => rfl
    | succ n => rw [behind, if_neg (by simp [h.1]), ih h.2, List.drop_succ_cons]

/-- The second text is the first with `./` put behind some of its slashes, once or more often. -/
inductive InsertsDots : List Char → List Char → Prop
  | nil : InsertsDots [] []
  | cons (c : Char) {s t : List Char} : InsertsDots s t → InsertsDots (c :: s) (c :: t)
  | dot {s t : List Char} :
    InsertsDots ('/' :: s) ('/' :: t) → InsertsDots ('/' :: s) ('/' :: '.' :: '/' :: t)

namespace InsertsDots

variable {s t : List Char}

/-- No dot segments are put into a path at all. -/
theorem refl (s : List Char) : InsertsDots s s := by
  induction s with
  | nil => exact .nil
  | cons c s ih => exact .cons c ih

/-- The first character stays. -/
theorem head?_eq (h : InsertsDots s t) : t.head? = s.head? := by
  cases h <;> rfl

/-- The last character stays. -/
theorem getLast?_eq (h : InsertsDots s t) : t.getLast? = s.getLast? := by
  induction h with
  | nil => rfl
  | @cons c s t h ih => rw [List.getLast?_cons, List.getLast?_cons, ih]
  | @dot s t h ih => rw [← ih, List.getLast?_cons_cons, List.getLast?_cons_cons]

/-- Nothing but dots is put in, and slashes that were there. -/
theorem mem_or_eq (h : InsertsDots s t) {c : Char} (hc : c ∈ t) : c ∈ s ∨ c = '.' := by
  induction h with
  | nil => exact .inl hc
  | cons d h ih =>
    rcases List.mem_cons.1 hc with rfl | hc
    · simp
    · exact (ih hc).imp_left (List.mem_cons_of_mem d)
  | dot h ih =>
    simp only [List.mem_cons] at hc ih ⊢
    rcases hc with hc | hc | hc
    · exact .inl (.inl hc)
    · exact .inr hc
    · exact ih hc

/-- Tabs and line breaks are dropped from both texts alike. -/
theorem withoutBreaks (h : InsertsDots s t) :
    InsertsDots (withoutBreaks s) (withoutBreaks t) := by
  induction h with
  | nil => exact .nil
  | @cons c s t h ih =>
    by_cases hc : isBreak c = true
    · simpa [Url.withoutBreaks, hc] using ih
    · simpa [Url.withoutBreaks, hc] using ih.cons c
  | dot h ih => exact ih.dot

end InsertsDots

/-! ## Resolving -/

/-- Behind any segments two lists of segments resolve to the same, and neither is the end of the
    path unless the other is. -/
def SameRest (l m : List Segment) : Prop :=
  (l = [] ↔ m = []) ∧ ∀ done, resolveFrom false false done l = resolveFrom false false done m

namespace SameRest

variable {l m : List Segment}

/-- Either both rests are empty or none is. -/
theorem isEmpty_eq (h : SameRest l m) : l.isEmpty = m.isEmpty := by
  rw [Bool.eq_iff_iff, List.isEmpty_iff, List.isEmpty_iff]
  exact h.1

/-- Resolving a segment depends on nothing else of what follows it. -/
theorem cons (h : SameRest l m) (s : Segment) : SameRest (s :: l) (s :: m) := by
  refine ⟨by simp, fun done => ?_⟩
  simp only [resolveFrom, Bool.false_and, Bool.false_eq_true, if_false, h.isEmpty_eq, h.2]

/-- A dot segment in front of others is dropped. -/
theorem dot (h : SameRest l m) (hl : l ≠ []) : SameRest l (['.'] :: m) := by
  have hm : m.isEmpty = false := by
    rw [← h.isEmpty_eq]
    simpa using hl
  refine ⟨by simp [hl], fun done => ?_⟩
  have hdot : resolveFrom false false done (['.'] :: m) = resolveFrom false false done m := by
    simp [resolveFrom, hm, show Segment.clean ['.'] = ['.'] by decide,
      show Segment.isDoubleDot ['.'] = false by decide, show Segment.isDot ['.'] = true by decide]
  rw [hdot, h.2]

end SameRest

/-- The segments of a text, one character at a time. -/
theorem segments_cons (c : Char) (s : List Char) :
    segments (c :: s) =
      if c = '/' ∨ c = '\\' then [] :: segments s else (segments s).modifyHead (c :: ·) := by
  simp only [segments, List.splitOnP_cons_eq_if_modifyHead, Bool.or_eq_true, beq_iff_eq]

/-- A text has at least one segment. -/
theorem segments_ne_nil (s : List Char) : segments s ≠ [] :=
  List.splitOnP_ne_nil _ s

namespace InsertsDots

variable {s t : List Char}

/-- The segments that are put in stand behind the first one and are not the last. -/
theorem exists_segments (h : InsertsDots s t) :
    ∃ first l m, segments s = first :: l ∧ segments t = first :: m ∧ SameRest l m := by
  induction h with
  | nil => exact ⟨[], [], [], rfl, rfl, Iff.rfl, fun _ => rfl⟩
  | @cons c s t h ih =>
    obtain ⟨first, l, m, hs, ht, hrest⟩ := ih
    rw [segments_cons, segments_cons, hs, ht]
    split
    · exact ⟨[], first :: l, first :: m, rfl, rfl, hrest.cons first⟩
    · exact ⟨c :: first, l, m, rfl, rfl, hrest⟩
  | @dot s t h ih =>
    obtain ⟨first, l, m, hs, ht, hrest⟩ := ih
    rw [segments_cons, if_pos (.inl rfl)] at hs ht
    obtain ⟨rfl, rfl⟩ := List.cons.inj hs
    obtain ⟨-, rfl⟩ := List.cons.inj ht
    -- Both texts begin with a slash, so the dot stands in front of all segments of the rest.
    have hdots : segments ('/' :: '.' :: '/' :: t) = [] :: ['.'] :: segments t := by
      simp [segments_cons]
    refine ⟨[], segments s, ['.'] :: segments t, ?_, hdots, ?_⟩
    · rw [segments_cons, if_pos (.inl rfl)]
    · exact hrest.dot (segments_ne_nil s)

/-- With or without dot segments, a path behind its first slash resolves to the same. -/
theorem resolve_eq (h : InsertsDots s t) (hs : ∀ c ∈ s.head?, c = '/') :
    resolve false (t.drop 1) = resolve false (s.drop 1) := by
  cases s with
  | nil => cases h; rfl
  | cons c s =>
    cases hs c rfl
    obtain ⟨t, rfl⟩ : ∃ r, t = '/' :: r := by cases h <;> exact ⟨_, rfl⟩
    obtain ⟨first, l, m, hsl, htm, hrest⟩ := h.exists_segments
    rw [segments_cons, if_pos (.inl rfl)] at hsl htm
    obtain ⟨-, rfl⟩ := List.cons.inj hsl
    obtain ⟨-, rfl⟩ := List.cons.inj htm
    exact (hrest.2 []).symm

end InsertsDots

end HttpState.Url
