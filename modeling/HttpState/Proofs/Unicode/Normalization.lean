import HttpState.Proofs.List
import HttpState.Proofs.Unicode.HostMapping

/-!
# Normal forms are normal

Normalizing a text that is the normal form of another one changes nothing, and neither does
normalizing a part of it between full stops. A text is composed from a decomposed one, in which the
marks are in order. Decomposing and ordering it again gives back what it was composed from: a mark
that was composed with its letter comes out again in front of the marks that stood between the two,
and these are of lower classes, so it is put behind them again.

## Key definitions

- `IsDecomposed`, `IsOrdered`: what a text is before it is composed

## Key results

- `reorder_flatMap_decompose_compose`: decomposing undoes composing
- `nfc_of_mem_splitOn`: the parts of a normal form are normal
- `kept_of_mem_nfc`: normalizing keeps kept characters
-/

namespace HttpState.Unicode

/-- Every character of a text is its own decomposition. -/
def IsDecomposed (s : List Char) : Prop := ∀ c ∈ s, decompose c = [c]

/-- No mark stands behind one of a higher class. -/
def IsOrdered (s : List Char) : Prop :=
  s.IsChain fun c d => combiningClass d = 0 ∨ combiningClass c ≤ combiningClass d

/-! ## Ordering -/

/-- Inserting a mark adds it to the text. -/
theorem insertMark_perm (c : Char) (s : List Char) : (insertMark c s).Perm (c :: s) := by
  induction s with
  | nil => exact .refl _
  | cons d s ih =>
    rw [insertMark]
    split
    · exact (ih.cons d).trans (.swap c d s)
    · exact .refl _

/-- Reordering changes nothing but the order. -/
theorem reorder_perm (s : List Char) : (reorder s).Perm s := by
  induction s with
  | nil => exact .refl _
  | cons c s ih => exact (insertMark_perm c (reorder s)).trans (ih.cons c)

/-- A mark that is in order already stays where it is. -/
theorem insertMark_of_isOrdered {c : Char} {s : List Char} (h : IsOrdered (c :: s)) :
    insertMark c s = c :: s := by
  cases s with
  | nil => rfl
  | cons d s =>
    rw [insertMark, if_neg]
    have hcd := (List.isChain_cons_cons.1 h).1
    omega

/-- The rest of an ordered text is ordered. -/
theorem IsOrdered.tail {c : Char} {s : List Char} (h : IsOrdered (c :: s)) : IsOrdered s :=
  List.IsChain.of_cons h

/-- An ordered text stays as it is. -/
theorem reorder_of_isOrdered {s : List Char} (h : IsOrdered s) : reorder s = s := by
  induction s with
  | nil => rfl
  | cons c s ih =>
    change insertMark c (reorder s) = c :: s
    rw [ih h.tail, insertMark_of_isOrdered h]

/-- The first character after a mark was inserted is the mark, or the one that was first and has a
    lower class. -/
theorem head?_insertMark (c : Char) (s : List Char) :
    ∀ d ∈ (insertMark c s).head?, d = c ∨ (s.head? = some d ∧ 0 < combiningClass d ∧
      combiningClass d < combiningClass c) := by
  intro d hd
  cases s with
  | nil =>
    -- It is the only one.
    left
    simpa [insertMark, eq_comm] using hd
  | cons e s =>
    rw [insertMark] at hd
    split at hd
    · -- It stands behind marks of lower classes.
      rename_i hlt
      obtain rfl : e = d := by simpa using hd
      exact .inr ⟨rfl, hlt⟩
    · -- Otherwise in front.
      left
      simpa [eq_comm] using hd

/-- Inserting a mark keeps a text ordered. -/
theorem IsOrdered.insertMark {s : List Char} (h : IsOrdered s) (c : Char) :
    IsOrdered (insertMark c s) := by
  induction s with
  | nil => exact .singleton c
  | cons d s ih =>
    rw [Unicode.insertMark]
    split
    · -- The mark goes further back, behind one of a lower class.
      rename_i hlt
      refine List.isChain_cons.2 ⟨?_, ih h.tail⟩
      intro e he
      rcases head?_insertMark c s e he with rfl | ⟨hhead, _⟩
      · exact .inr hlt.2.le
      · exact (List.isChain_cons.1 h).1 e hhead
    · -- The mark stays in front.
      rename_i hnot
      refine List.isChain_cons_cons.2 ⟨?_, h⟩
      omega

/-- A reordered text is in order. -/
theorem isOrdered_reorder (s : List Char) : IsOrdered (reorder s) := by
  induction s with
  | nil => exact .nil
  | cons c s ih => exact ih.insertMark c

/-- A mark may be put behind one of a lower class first, or afterwards. -/
theorem insertMark_comm {c m : Char} (hm : 0 < combiningClass m)
    (hlt : combiningClass m < combiningClass c) (s : List Char) :
    insertMark c (insertMark m s) = insertMark m (insertMark c s) := by
  induction s with
  | nil =>
    rw [insertMark, insertMark, insertMark, if_pos ⟨hm, hlt⟩, insertMark, insertMark,
      if_neg (by omega)]
  | cons d s ih =>
    -- What both marks pass by stays in front. Otherwise `m` goes in here, and `c` behind it.
    by_cases hdm : 0 < combiningClass d ∧ combiningClass d < combiningClass m
    · have hdc : 0 < combiningClass d ∧ combiningClass d < combiningClass c := by omega
      rw [insertMark.eq_2 m, if_pos hdm, insertMark, if_pos hdc, insertMark.eq_2 c, if_pos hdc,
        insertMark, if_pos hdm, ih]
    · rw [insertMark.eq_2 m, if_neg hdm, insertMark, if_pos ⟨hm, hlt⟩, insertMark.eq_2 c]
      split
      · rw [insertMark, if_neg hdm]
      · rw [insertMark, if_neg (by omega)]

/-- Reordering a text inserts its characters into the rest, which is in order already. -/
theorem reorder_append (s t : List Char) : reorder (s ++ t) = s.foldr insertMark (reorder t) :=
  List.foldr_append

/-- Texts that are reordered alike may stand for each other at the end of a text. -/
theorem reorder_append_congr (s : List Char) {t u : List Char} (h : reorder t = reorder u) :
    reorder (s ++ t) = reorder (s ++ u) := by
  rw [reorder_append, reorder_append, h]

/-- A mark may stand in front of or behind marks of lower classes. -/
theorem reorder_cons_append {c : Char} {marks : List Char}
    (h : ∀ m ∈ marks, 0 < combiningClass m ∧ combiningClass m < combiningClass c) (s : List Char) :
    reorder (c :: (marks ++ s)) = reorder (marks ++ c :: s) := by
  induction marks with
  | nil => rfl
  | cons m marks ih =>
    rw [List.forall_mem_cons] at h
    have hih : insertMark c (reorder (marks ++ s)) = reorder (marks ++ c :: s) := ih h.2
    change insertMark c (insertMark m (reorder (marks ++ s))) =
      insertMark m (reorder (marks ++ c :: s))
    rw [insertMark_comm h.1.1 h.1.2, hih]

/-! ## Composing -/

/-- The marks between a letter and the rest of a text, the last one first, as composing leaves them:
    they are marks, in order, and in order with the rest. -/
structure AreBetween (marks s : List Char) : Prop where
  pos : ∀ m ∈ marks, 0 < combiningClass m
  pairwise : marks.Pairwise fun m k => combiningClass k ≤ combiningClass m
  head? : ∀ m ∈ marks, ∀ c ∈ s.head?, combiningClass c = 0 ∨ combiningClass m ≤ combiningClass c

/-- No marks are between any letters. -/
theorem areBetween_nil (s : List Char) : AreBetween [] s :=
  ⟨List.forall_mem_nil _, .nil, List.forall_mem_nil _⟩

/-- A mark that is not composed is the last one then. -/
theorem AreBetween.push {marks s : List Char} {c : Char} (h : AreBetween marks (c :: s))
    (hs : IsOrdered (c :: s)) (hc : combiningClass c ≠ 0) : AreBetween (c :: marks) s := by
  have hle : ∀ m ∈ marks, combiningClass m ≤ combiningClass c :=
    fun m hm => (h.head? m hm c rfl).resolve_left hc
  refine ⟨List.forall_mem_cons.2 ⟨by omega, h.pos⟩, List.pairwise_cons.2 ⟨hle, h.pairwise⟩, ?_⟩
  intro m hm d hd
  have hcd := (List.isChain_cons.1 hs).1 d hd
  rcases List.mem_cons.1 hm with rfl | hm
  · exact hcd
  · have := hle m hm
    omega

/-- A character that is composed leaves the others in order. -/
theorem AreBetween.skip {marks s : List Char} {c : Char} (h : AreBetween marks (c :: s))
    (hs : IsOrdered (c :: s)) (hlt : ∀ m ∈ marks, combiningClass m < combiningClass c) :
    AreBetween marks s := by
  refine ⟨h.pos, h.pairwise, ?_⟩
  intro m hm d hd
  have hcd := (List.isChain_cons.1 hs).1 d hd
  have := hlt m hm
  omega

/-- A character composes with the letter only if all marks between them are of lower classes. -/
theorem AreBetween.lt_of_free {marks s : List Char} {c : Char} (h : AreBetween marks (c :: s))
    (hfree : ∀ m ∈ marks.head?, combiningClass m < combiningClass c) :
    ∀ m ∈ marks, combiningClass m < combiningClass c := by
  cases marks with
  | nil => exact List.forall_mem_nil _
  | cons k marks =>
    have hk := hfree k rfl
    refine List.forall_mem_cons.2 ⟨hk, ?_⟩
    intro m hm
    exact ((List.pairwise_cons.1 h.pairwise).1 m hm).trans_lt hk

/-- How composing goes on behind a letter and marks, whatever follows: it composes the letter with
    the next character, it goes on with the next letter, or it passes a mark. -/
theorem composeFrom_cons (starter : Char) (marks : List Char) (c : Char) :
    (∃ d, composite? starter c = some d ∧
      (∀ m ∈ marks.head?, combiningClass m < combiningClass c) ∧
      ∀ s, composeFrom starter marks (c :: s) = composeFrom d marks s) ∨
    (combiningClass c = 0 ∧
      ∀ s, composeFrom starter marks (c :: s) = starter :: (marks.reverse ++ composeFrom c [] s)) ∨
    (combiningClass c ≠ 0 ∧
      ∀ s, composeFrom starter marks (c :: s) = composeFrom starter (c :: marks) s) := by
  -- When nothing is composed, a letter begins anew and a mark is passed.
  have hrest : (∀ s, composeFrom starter marks (c :: s) = if combiningClass c = 0 then
        starter :: marks.reverse ++ composeFrom c [] s else composeFrom starter (c :: marks) s) →
      (combiningClass c = 0 ∧
        ∀ s, composeFrom starter marks (c :: s) =
          starter :: (marks.reverse ++ composeFrom c [] s)) ∨
        (combiningClass c ≠ 0 ∧
          ∀ s, composeFrom starter marks (c :: s) = composeFrom starter (c :: marks) s) := by
    intro h
    by_cases hc : combiningClass c = 0
    · exact .inl ⟨hc, fun s => (h s).trans (if_pos hc)⟩
    · exact .inr ⟨hc, fun s => (h s).trans (if_neg hc)⟩
  -- A character is free to be composed if the last mark that was passed has a lower class.
  cases marks with
  | nil =>
    cases hcomposite : composite? starter c with
    | some d =>
      exact .inl ⟨d, rfl, by simp, fun s => by simp only [composeFrom, if_true, hcomposite]⟩
    | none => exact .inr (hrest fun s => by simp only [composeFrom, if_true, hcomposite])
  | cons m marks =>
    by_cases hfree : combiningClass m < combiningClass c
    · cases hcomposite : composite? starter c with
      | some d =>
        exact .inl ⟨d, rfl, by simpa using hfree, fun s => by
          simp only [composeFrom, hfree, decide_true, if_true, hcomposite]⟩
      | none =>
        exact .inr (hrest fun s => by
          simp only [composeFrom, hfree, decide_true, if_true, hcomposite])
    · exact .inr (hrest fun s => by
        simp only [composeFrom, hfree, decide_false, Bool.false_eq_true, if_false])

/-- Decomposing a decomposed text changes nothing. -/
theorem IsDecomposed.flatMap_decompose {s : List Char} (h : IsDecomposed s) :
    s.flatMap decompose = s := by
  rw [List.flatMap_congr h, List.flatMap_singleton']

/-- The reverse of a decomposed text is decomposed. -/
theorem IsDecomposed.reverse {s : List Char} (h : IsDecomposed s) : IsDecomposed s.reverse :=
  fun c hc => h c (List.mem_reverse.1 hc)

/-- A text is decomposed if its first character is, and so is the rest. -/
theorem isDecomposed_cons {c : Char} {s : List Char} :
    IsDecomposed (c :: s) ↔ decompose c = [c] ∧ IsDecomposed s := List.forall_mem_cons

/-- What is composed behind a letter and marks is decomposed again. -/
theorem reorder_flatMap_decompose_composeFrom {starter : Char} {marks s : List Char}
    (hmarks : IsDecomposed marks) (hs : IsDecomposed s) (hbetween : AreBetween marks s)
    (hordered : IsOrdered s) :
    reorder ((composeFrom starter marks s).flatMap decompose) =
      reorder (decompose starter ++ (marks.reverse ++ s)) := by
  -- `AreBetween` is what the induction carries: it lets a mark that was composed step back.
  induction s generalizing starter marks with
  | nil =>
    rw [composeFrom, List.flatMap_cons, hmarks.reverse.flatMap_decompose, List.append_nil]
  | cons c s ih =>
    rw [isDecomposed_cons] at hs
    rcases composeFrom_cons starter marks c with ⟨d, hd, hfree, heq⟩ | ⟨_, heq⟩ | ⟨hc, heq⟩
    · -- The mark comes out in front of the others, but may as well stand behind them.
      have hlt := hbetween.lt_of_free hfree
      rw [heq, ih hmarks hs.2 (hbetween.skip hordered hlt) hordered.tail,
        decompose_of_composite? hd, List.append_assoc]
      apply reorder_append_congr
      refine reorder_cons_append ?_ s
      intro m hm
      rw [List.mem_reverse] at hm
      exact ⟨hbetween.pos m hm, hlt m hm⟩
    · -- The next letter begins anew, and the marks so far are written.
      have hnext := @ih c [] (List.forall_mem_nil _) hs.2 (areBetween_nil s) hordered.tail
      rw [hs.1] at hnext
      rw [heq, List.flatMap_cons, List.flatMap_append, hmarks.reverse.flatMap_decompose]
      apply reorder_append_congr
      exact reorder_append_congr _ hnext
    · -- A mark that is passed waits with the others, in the order in which they come.
      rw [heq, ih (isDecomposed_cons.2 ⟨hs.1, hmarks⟩) hs.2 (hbetween.push hordered hc)
        hordered.tail, List.reverse_cons, List.append_assoc, List.singleton_append]

/-- Decomposing undoes composing. -/
theorem reorder_flatMap_decompose_compose {s : List Char} (hs : IsDecomposed s)
    (hordered : IsOrdered s) : reorder ((compose s).flatMap decompose) = s := by
  suffices h : reorder ((compose s).flatMap decompose) = reorder s by
    rw [h, reorder_of_isOrdered hordered]
  induction s with
  | nil => rfl
  | cons c s ih =>
    rw [isDecomposed_cons] at hs
    rw [compose]
    -- From the first letter on the text is composed; marks in front of it stay as they are.
    split
    · rw [reorder_flatMap_decompose_composeFrom (List.forall_mem_nil _) hs.2 (areBetween_nil s)
        hordered.tail, hs.1]
      rfl
    · rw [List.flatMap_cons, hs.1]
      exact reorder_append_congr [c] (ih hs.2 hordered.tail)

/-! ## Normal forms -/

/-- A text in normal form is composed from a text that is decomposed and ordered. -/
theorem nfc_compose {s : List Char} (hs : IsDecomposed s) (hordered : IsOrdered s) :
    nfc (compose s) = compose s := by
  rw [nfc]
  split
  · rfl
  · rw [reorder_flatMap_decompose_compose hs hordered]

/-- A text that was decomposed and put in order is decomposed. -/
theorem isDecomposed_reorder (s : List Char) : IsDecomposed (reorder (s.flatMap decompose)) := by
  intro c hc
  rw [(reorder_perm _).mem_iff, List.mem_flatMap] at hc
  obtain ⟨d, _, hc⟩ := hc
  exact decompose_of_mem_decompose hc

/-! ### Parts between full stops -/

/-- Nothing is composed across a full stop. -/
theorem composeFrom_fullStop (marks s : List Char) :
    composeFrom '.' marks s = '.' :: (marks.reverse ++ compose s) := by
  induction s generalizing marks with
  | nil => rw [composeFrom, compose, List.append_nil]
  | cons c s ih =>
    rcases composeFrom_cons '.' marks c with ⟨d, hd, _⟩ | ⟨hc, heq⟩ | ⟨hc, heq⟩
    · rw [composite?_fullStop] at hd
      cases hd
    · rw [heq, compose, if_pos hc]
    · rw [heq, ih, compose, if_neg hc, List.reverse_cons, List.append_assoc, List.singleton_append]

/-- A full stop is no mark. -/
theorem combiningClass_fullStop : combiningClass '.' = 0 := rfl

/-- A full stop ends what is composed before it, and begins anew. -/
theorem composeFrom_append_fullStop (starter : Char) (marks s t : List Char) :
    composeFrom starter marks (s ++ '.' :: t) =
      composeFrom starter marks s ++ '.' :: compose t := by
  induction s generalizing starter marks with
  | nil =>
    -- A full stop is no mark and composes nothing, so the text behind it is composed by itself.
    rcases composeFrom_cons starter marks '.' with ⟨d, hd, _⟩ | ⟨_, heq⟩ | ⟨hc, _⟩
    · exact absurd (le_of_composite? hd) (by decide)
    · rw [List.nil_append, heq, composeFrom_fullStop, composeFrom, List.reverse_nil,
        List.nil_append, List.cons_append]
    · exact absurd combiningClass_fullStop hc
  | cons c s ih =>
    rw [List.cons_append]
    rcases composeFrom_cons starter marks c with ⟨d, _, _, heq⟩ | ⟨_, heq⟩ | ⟨_, heq⟩
    · rw [heq, heq, ih]
    · rw [heq, heq, ih, List.cons_append, List.append_assoc]
    · rw [heq, heq, ih]

/-- Composing goes on behind a full stop as if nothing stood before it. -/
theorem compose_append_fullStop (s t : List Char) :
    compose (s ++ '.' :: t) = compose s ++ '.' :: compose t := by
  induction s with
  | nil =>
    have hcompose : compose ('.' :: t) = composeFrom '.' [] t := if_pos combiningClass_fullStop
    rw [List.nil_append, hcompose, composeFrom_fullStop]
    rfl
  | cons c s ih =>
    rw [List.cons_append, compose, compose]
    split
    · exact composeFrom_append_fullStop c [] s t
    · rw [ih, List.cons_append]

/-- Parts between full stops are composed each by itself. -/
theorem compose_intercalate {ls : List (List Char)} (hls : ls ≠ []) :
    compose (['.'].intercalate ls) = ['.'].intercalate (ls.map compose) := by
  induction ls with
  | nil => exact absurd rfl hls
  | cons l ls ih =>
    cases ls with
    | nil => simp
    | cons m ls =>
      rw [List.intercalate_cons_cons, List.append_assoc, List.singleton_append,
        compose_append_fullStop, ih (by simp), List.map_cons, List.map_cons, List.map_cons,
        List.intercalate_cons_cons, List.append_assoc, List.singleton_append]

/-! ### Characters -/

/-- What holds of the characters of a text, and of what such characters compose, holds of all
    characters of what is composed of it. -/
theorem forall_mem_composeFrom {P : Char → Prop}
    (hP : ∀ a b d, composite? a b = some d → P a → P b → P d) {starter : Char}
    {marks s : List Char} (hstarter : P starter) (hmarks : ∀ c ∈ marks, P c) (hs : ∀ c ∈ s, P c) :
    ∀ c ∈ composeFrom starter marks s, P c := by
  induction s generalizing starter marks with
  | nil =>
    -- The end of the text: the last starter and its marks.
    rw [composeFrom, List.forall_mem_cons]
    exact ⟨hstarter, fun c hc => hmarks c (List.mem_reverse.1 hc)⟩
  | cons c s ih =>
    rw [List.forall_mem_cons] at hs
    rcases composeFrom_cons starter marks c with ⟨d, hd, _, heq⟩ | ⟨_, heq⟩ | ⟨_, heq⟩
    · -- The character is composed with the starter.
      rw [heq]
      exact ih (hP _ _ _ hd hstarter hs.1) hmarks hs.2
    · -- The character is a new starter.
      rw [heq, List.forall_mem_cons, List.forall_mem_append]
      exact ⟨hstarter, fun c hc => hmarks c (List.mem_reverse.1 hc),
        ih hs.1 (List.forall_mem_nil _) hs.2⟩
    · -- The character is one more mark.
      rw [heq]
      exact ih hstarter (List.forall_mem_cons.2 ⟨hs.1, hmarks⟩) hs.2

/-- A property that composing two characters keeps is kept by composing a text. -/
theorem forall_mem_compose {P : Char → Prop}
    (hP : ∀ a b d, composite? a b = some d → P a → P b → P d) {s : List Char}
    (hs : ∀ c ∈ s, P c) : ∀ c ∈ compose s, P c := by
  induction s with
  | nil => exact List.forall_mem_nil _
  | cons c s ih =>
    rw [List.forall_mem_cons] at hs
    rw [compose]
    -- What follows the first letter is composed with it, and marks in front of it are left alone.
    split
    · exact forall_mem_composeFrom hP hs.1 (List.forall_mem_nil _) hs.2
    · exact List.forall_mem_cons.2 ⟨hs.1, ih hs.2⟩

/-- A text without a full stop has none after it is composed. -/
theorem fullStop_not_mem_compose {s : List Char} (h : '.' ∉ s) : '.' ∉ compose s := by
  have hne : ∀ c ∈ compose s, c ≠ '.' := by
    refine forall_mem_compose ?_ fun c hc heq => h (heq ▸ hc)
    rintro a b d hd _ _ rfl
    exact absurd (le_composite? hd) (by decide)
  exact fun hmem => hne '.' hmem rfl

/-- The normal form of kept characters has kept characters. -/
theorem kept_of_mem_nfc {s : List Char} (h : ∀ c ∈ s, hostMapping c = .kept) :
    ∀ c ∈ nfc s, hostMapping c = .kept := by
  rw [nfc]
  split
  · exact h
  · refine forall_mem_compose (fun a b d => kept_of_composite?) ?_
    intro c hc
    rw [(reorder_perm _).mem_iff, List.mem_flatMap] at hc
    obtain ⟨d, hd, hc⟩ := hc
    exact kept_of_mem_decompose (h d hd) hc

/-- The parts of a normal form between full stops are in normal form. -/
theorem nfc_of_mem_splitOn {s l : List Char} (h : l ∈ (nfc s).splitOn '.') : nfc l = l := by
  -- A text of ASCII characters is in normal form, and so are its parts.
  by_cases hascii : ∀ c ∈ s, isAscii c = true
  · rw [nfc_ascii hascii] at h
    exact nfc_ascii fun c hc => hascii c ((List.isInfix_of_mem_splitOn h).subset hc)
  · rw [nfc, if_neg (by rwa [List.all_eq_true])] at h
    generalize hz : reorder (s.flatMap decompose) = z at h
    have hdecomposed : IsDecomposed z := hz ▸ isDecomposed_reorder s
    have hordered : IsOrdered z := hz ▸ isOrdered_reorder _
    -- Each part has been composed by itself, from a part that is decomposed and in order.
    have hsplit : (compose z).splitOn '.' = (z.splitOn '.').map compose := by
      have hcompose := compose_intercalate (List.splitOn_ne_nil '.' z)
      rw [List.intercalate_splitOn] at hcompose
      rw [hcompose]
      refine List.splitOn_intercalate '.' ?_ (by simp)
      intro m hm
      obtain ⟨k, hk, rfl⟩ := List.mem_map.1 hm
      exact fullStop_not_mem_compose (List.not_mem_of_mem_splitOn hk)
    rw [hsplit] at h
    obtain ⟨k, hk, rfl⟩ := List.mem_map.1 h
    have hpart := List.isInfix_of_mem_splitOn hk
    have hpartOrdered : IsOrdered k := hordered.infix hpart
    exact nfc_compose (fun c hc => hdecomposed c (hpart.subset hc)) hpartOrdered

end HttpState.Unicode
