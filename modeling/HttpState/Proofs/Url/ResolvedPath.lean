import HttpState.Proofs.List
import HttpState.Proofs.Text.LetterCase
import HttpState.Proofs.Url.Path

/-!
# Resolved paths

The segments of a resolved path are those of the path in their written form, empty ones, and drive
letters. None of them is a dot segment, except where a tab or a line break stands behind a drive
letter in the path of a file. A path whose segments are in their written form, and none of them a
dot segment, is resolved to itself. A drive letter that the path of a file begins with stays as
well, but stands for the host.

## Key definitions

- `Segment.isDotSegment`: `.` and `..`
- `Segment.IsClean`: a segment in its written form
- `IsPathOfUrl`: a path in its written form

## Key results

- `forall_mem_resolveFrom`: what holds of all segments of a resolved path
- `isClean_of_mem_resolve`, `isDotSegment_of_mem_resolve`: the segments of a resolved path
- `resolveFrom_of_isClean`: what a path of written segments is resolved to
- `IsPathOfUrl.renderPath_resolve`, `IsPathOfUrl.renderPath_dropEmpty_slash_iff`,
  `IsPathOfUrl.renderPath_dropEmpty_iff`: when a path is resolved to itself
-/

namespace HttpState.Url

open HttpState.Text

namespace Segment

/-- Whether a segment is resolved: it stands for the directory itself or the one above. -/
def isDotSegment (s : Segment) : Bool := s.isDot || s.isDoubleDot

/-- A segment in its written form: nothing in it has to be escaped, and no slash divides it. -/
def IsClean (s : Segment) : Prop := ∀ c ∈ s, needsEscape c = false ∧ c ≠ '/' ∧ c ≠ '\\'

/-- Hexadecimal digits need no escape. -/
theorem needsEscape_hexChar {n : Nat} (h : n < 16) :
    needsEscape (hexChar n) = false ∧ hexChar n ≠ '/' ∧ hexChar n ≠ '\\' := by
  have hall : ∀ m : Fin 16, needsEscape (hexChar m.val) = false ∧ hexChar m.val ≠ '/' ∧
      hexChar m.val ≠ '\\' := by decide
  exact hall ⟨n, h⟩

/-- An escape is made of characters that need none. -/
theorem isClean_escapeByte (b : UInt8) : IsClean (escapeByte b) := by
  have hb : b.toNat < 256 := b.toNat_lt
  intro c hc
  simp only [escapeByte, List.mem_cons, List.not_mem_nil, or_false] at hc
  rcases hc with rfl | rfl | rfl
  · decide
  · exact needsEscape_hexChar (by omega)
  · exact needsEscape_hexChar (by omega)

/-- Nothing is left to be escaped once a segment has been. -/
theorem isClean_escape {s : Segment} (h : ∀ c ∈ s, c ≠ '/' ∧ c ≠ '\\') : IsClean s.escape := by
  intro c hc
  obtain ⟨d, hd, hc⟩ := List.mem_flatMap.1 hc
  split at hc
  · obtain ⟨b, -, hc⟩ := List.mem_flatMap.1 hc
    exact isClean_escapeByte b c hc
  · rename_i hescape
    rw [List.mem_singleton.1 hc]
    exact ⟨by simpa using hescape, h d hd⟩

/-- A cleaned segment is clean if no slash was in it. -/
theorem isClean_clean {s : Segment} (h : ∀ c ∈ s, c ≠ '/' ∧ c ≠ '\\') : IsClean s.clean :=
  isClean_escape fun c hc => h c (List.mem_of_mem_filter hc)

/-- Letters need no escape and are no slashes. -/
theorem needsEscape_of_isAlpha {c : Char} (h : c.isAlpha = true) :
    needsEscape c = false ∧ c ≠ '/' ∧ c ≠ '\\' := by
  have hnot : ∀ d : Char, d.isAlpha = false → c ≠ d := fun d hd =>
    ne_of_apply_ne Char.isAlpha (by simp [h, hd])
  rw [isAlpha_iff, isUpper_iff, isLower_iff] at h
  refine ⟨?_, hnot _ (by decide), hnot _ (by decide)⟩
  simp only [needsEscape, Bool.or_eq_false_iff, List.contains_eq_mem,
    decide_eq_false_iff_not, List.mem_cons, List.not_mem_nil, or_false, not_or]
  refine ⟨⟨by omega, by omega⟩, ?_⟩
  repeat' apply And.intro
  all_goals exact hnot _ (by decide)

/-- A drive letter as it is written: the letter and a colon. -/
theorem drive_eq {s : Segment} (h : s.isDriveLetter = true) :
    ∃ a : Char, a.isAlpha = true ∧ s.drive = [a, ':'] := by
  unfold isDriveLetter at h
  split at h
  · rename_i a b
    exact ⟨a, (Bool.and_eq_true_iff.1 h).1, rfl⟩
  · cases h

/-- A drive letter is clean. -/
theorem isClean_drive {a : Char} (h : a.isAlpha = true) : IsClean [a, ':'] := by
  simp only [IsClean, List.forall_mem_cons]
  exact ⟨needsEscape_of_isAlpha h, by decide, by simp⟩

/-- A drive letter is no dot segment. -/
theorem isDotSegment_drive (a : Char) : isDotSegment [a, ':'] = false := by
  simp [isDotSegment, isDot, isDoubleDot, dots]

/-- No dot segment is written as a drive letter. -/
theorem isDotSegment_of_isDriveLetter {s : Segment} (h : s.isDriveLetter = true) :
    s.isDotSegment = false := by
  unfold isDriveLetter at h
  split at h
  · rename_i a b
    have ha : a ≠ '.' ∧ a ≠ '%' := by
      constructor
      · rintro rfl
        exact absurd h (by simp)
      · rintro rfl
        exact absurd h (by simp)
    simp [isDotSegment, isDot, isDoubleDot, dots, ha]
  · cases h

/-- Cutting a drive letter off leaves two clean segments. -/
theorem isClean_of_cutDrive? {s letter t : Segment} (hs : ∀ c ∈ s, c ≠ '/' ∧ c ≠ '\\')
    (h : s.cutDrive? = some (letter, t)) : IsClean letter ∧ IsClean t := by
  unfold cutDrive? at h
  split at h
  · rename_i a c r hbreaks
    split at h
    · rename_i hcut
      obtain ⟨rfl, rfl⟩ := Prod.mk.inj (Option.some.inj h)
      rw [Bool.and_eq_true] at hcut
      refine ⟨isClean_drive hcut.1, isClean_escape fun d hd => hs d ?_⟩
      have hmem : d ∈ withoutBreaks s := by
        rw [hbreaks]
        exact List.mem_cons_of_mem _ (List.mem_cons_of_mem _ hd)
      exact List.mem_of_mem_filter hmem
    · cases h
  · cases h

/-! ### Written segments -/

/-- Breaks need an escape. -/
theorem isBreak_of_needsEscape {c : Char} (h : needsEscape c = false) : isBreak c = false := by
  rw [← Bool.not_eq_true]
  intro hbreak
  simp only [isBreak, Bool.or_eq_true, beq_iff_eq] at hbreak
  rcases hbreak with (rfl | rfl) | rfl <;> exact absurd h (by decide)

/-- Nothing is escaped where nothing needs it. -/
theorem escape_eq_self {s : Segment} (h : ∀ c ∈ s, needsEscape c = false) : s.escape = s := by
  rw [escape]
  induction s with
  | nil => rfl
  | cons c s ih =>
    rw [List.forall_mem_cons] at h
    rw [List.flatMap_cons, ih h.2, h.1]
    rfl

/-- Cleaning does nothing where nothing needs an escape. -/
theorem clean_eq_self {s : Segment} (h : ∀ c ∈ s, needsEscape c = false) : s.clean = s := by
  rw [clean, withoutBreaks_of_forall fun c hc => isBreak_of_needsEscape (h c hc), escape_eq_self h]

/-- No drive letter is cut off where no break stands. -/
theorem cutDrive?_of_isBreak {s : Segment} (h : ∀ c ∈ s, isBreak c = false) :
    s.cutDrive? = none := by
  refine cutDrive?_eq_none ?_
  rw [List.any_eq_false]
  exact fun c hc => by simp [h c hc]

end Segment

/-! ## Segments of a path -/

/-- A slash divides the segments in front of it from those behind it. -/
theorem segments_append (s t : List Char) : segments (s ++ '/' :: t) = segments s ++ segments t := by
  induction s with
  | nil => rw [List.nil_append, segments_cons, if_pos (.inl rfl)]; rfl
  | cons c s ih =>
    rw [List.cons_append, segments_cons, segments_cons, ih]
    split
    · rfl
    · obtain ⟨first, rest, hcons⟩ := List.exists_cons_of_ne_nil (segments_ne_nil s)
      rw [hcons]
      rfl

/-- A text without slashes is its only segment. -/
theorem segments_singleton {s : Segment} (h : ∀ c ∈ s, c ≠ '/' ∧ c ≠ '\\') : segments s = [s] := by
  induction s with
  | nil => rfl
  | cons c s ih =>
    rw [List.forall_mem_cons] at h
    rw [segments_cons, if_neg (by simp [h.1]), ih h.2, List.modifyHead_cons]

/-- A path is divided into the segments that it is put together from. -/
theorem segments_intercalate {ss : List Segment} (hne : ss ≠ [])
    (h : ∀ s ∈ ss, ∀ c ∈ s, c ≠ '/' ∧ c ≠ '\\') : segments (['/'].intercalate ss) = ss := by
  induction ss with
  | nil => exact absurd rfl hne
  | cons s ss ih =>
    rw [List.forall_mem_cons] at h
    by_cases hss : ss = []
    · rw [hss, List.intercalate_singleton, segments_singleton h.1]
    · rw [List.intercalate_cons_of_ne_nil hss, List.append_assoc, List.singleton_append,
        segments_append, segments_singleton h.1, ih hss h.2, List.singleton_append]

/-- A path without backslashes is put together from its segments. -/
theorem renderPath_segments {s : List Char} (h : '\\' ∉ s) : renderPath (segments s) = '/' :: s := by
  have hsplit : segments s = s.splitOn '/' := by
    induction s with
    | nil => rfl
    | cons c s ih =>
      rw [List.mem_cons, not_or] at h
      rw [segments_cons, List.splitOn_cons_eq_if_modifyHead, ih h.2]
      simp [Ne.symm h.1]
  rw [renderPath, hsplit, List.intercalate_splitOn]

/-- The segments of a path have no slashes and no other characters than the path. -/
theorem mem_of_mem_segments {s : List Char} {t : Segment} (ht : t ∈ segments s) {c : Char}
    (hc : c ∈ t) : c ∈ s ∧ c ≠ '/' ∧ c ≠ '\\' := by
  induction s generalizing t with
  | nil =>
    rw [List.mem_singleton.1 ht] at hc
    cases hc
  | cons d s ih =>
    rw [segments_cons] at ht
    split at ht
    · -- A slash: a new segment begins.
      rcases List.mem_cons.1 ht with rfl | ht
      · cases hc
      · exact (ih ht hc).imp_left (List.mem_cons_of_mem d)
    · -- Any other character belongs to the first segment.
      rename_i hd
      rw [not_or] at hd
      obtain ⟨first, rest, hcons⟩ := List.exists_cons_of_ne_nil (segments_ne_nil s)
      rw [hcons] at ht ih
      rw [List.modifyHead_cons] at ht
      rcases List.mem_cons.1 ht with rfl | ht
      · rcases List.mem_cons.1 hc with rfl | hc
        · exact ⟨List.mem_cons_self, hd⟩
        · exact (ih List.mem_cons_self hc).imp_left (List.mem_cons_of_mem d)
      · exact (ih (List.mem_cons_of_mem first ht) hc).imp_left (List.mem_cons_of_mem d)

/-! ## Resolving -/

/-- Dropping a segment adds none. -/
theorem mem_of_mem_dropSegment {ss : List Segment} {s : Segment} (h : s ∈ dropSegment ss) :
    s ∈ ss := by
  cases ss with
  | nil => exact h
  | cons t rest =>
    rw [dropSegment] at h
    split at h
    · exact h
    · exact List.mem_cons_of_mem t h

/-- What holds of the segments of a resolved path: it holds of the empty segment, of what is left of
    the segments of the path, and in the path of a file of drive letters. -/
theorem forall_mem_resolveFrom {P : Segment → Prop} {file hasDrive : Bool}
    {done rest : List Segment} (hnil : P [])
    (hclean : ∀ s ∈ rest, s.clean.isDotSegment = false → P s.clean)
    (hdrive : file = true → ∀ s ∈ rest, s.clean.isDriveLetter = true → P s.clean.drive)
    (hcut : file = true → ∀ s ∈ rest, ∀ letter t, s.cutDrive? = some (letter, t) →
      P letter ∧ P t) (hdone : ∀ s ∈ done, P s) :
    ∀ s ∈ (resolveFrom file hasDrive done rest).segments, P s := by
  induction rest generalizing hasDrive done with
  | nil => simpa [resolveFrom] using hdone
  | cons s rest ih =>
    rw [List.forall_mem_cons] at hclean
    have hrest := fun hasDrive done => @ih hasDrive done hclean.2
      (fun hfile t ht => hdrive hfile t (List.mem_cons_of_mem s ht))
      (fun hfile t ht => hcut hfile t (List.mem_cons_of_mem s ht))
    have hdrop : ∀ t ∈ dropSegment done, P t := fun t ht => hdone t (mem_of_mem_dropSegment ht)
    unfold resolveFrom
    split
    · -- A drive letter in front of a tab or a line break: two segments at once.
      rename_i letter t hsome
      split at hsome
      · rename_i hfile
        rw [Bool.and_eq_true] at hfile
        obtain ⟨hletter, ht⟩ := hcut hfile.1 s List.mem_cons_self letter t hsome
        exact hrest _ _ (List.forall_mem_cons.2 ⟨ht, List.forall_mem_cons.2 ⟨hletter, hdone⟩⟩)
      · cases hsome
    · dsimp only
      split
      · -- `..`: the last segment is dropped.
        split
        · simp only [List.mem_reverse]
          exact List.forall_mem_cons.2 ⟨hnil, hdrop⟩
        · exact hrest _ _ hdrop
      · rename_i hdouble
        split
        · -- `.`: nothing is added.
          split
          · simp only [List.mem_reverse]
            exact List.forall_mem_cons.2 ⟨hnil, hdone⟩
          · exact hrest _ _ hdone
        · rename_i hdot
          split
          · -- A drive letter, written with its colon.
            rename_i hfile
            simp only [Bool.and_eq_true] at hfile
            exact hrest _ _ (List.forall_mem_cons.2
              ⟨hdrive hfile.1.1 s List.mem_cons_self hfile.2, hdone⟩)
          · -- Any other segment is added.
            have hs : s.clean.isDotSegment = false := by
              simpa [Segment.isDotSegment] using And.intro hdot hdouble
            exact hrest _ _ (List.forall_mem_cons.2 ⟨hclean.1 hs, hdone⟩)

/-- The segments of a resolved path are in their written form. -/
theorem isClean_of_mem_resolve {file : Bool} {s : List Char} :
    ∀ t ∈ (resolve file s).segments, t.IsClean := by
  have hslash : ∀ t ∈ segments s, ∀ c ∈ t, c ≠ '/' ∧ c ≠ '\\' := fun t ht c hc =>
    (mem_of_mem_segments ht hc).2
  refine forall_mem_resolveFrom (List.forall_mem_nil _)
    (fun t ht _ => Segment.isClean_clean (hslash t ht)) (fun _ t _ hdrive => ?_)
    (fun _ t ht letter u hcut => Segment.isClean_of_cutDrive? (hslash t ht) hcut)
    (List.forall_mem_nil _)
  obtain ⟨a, ha, hletter⟩ := Segment.drive_eq hdrive
  exact hletter ▸ Segment.isClean_drive ha

/-- No segment of a resolved path is a dot segment, if there are no tabs and line breaks in the path
    of a file. -/
theorem isDotSegment_of_mem_resolve {file : Bool} {s : List Char}
    (h : file = true → ∀ c ∈ s, isBreak c = false) :
    ∀ t ∈ (resolve file s).segments, t.isDotSegment = false := by
  refine forall_mem_resolveFrom rfl (fun t _ ht => ht) (fun _ t _ hdrive => ?_)
    (fun hfile t ht letter u hcut => ?_) (List.forall_mem_nil _)
  · obtain ⟨a, -, hletter⟩ := Segment.drive_eq hdrive
    rw [hletter, Segment.isDotSegment_drive]
  · rw [Segment.cutDrive?_of_isBreak fun c hc => h hfile c (mem_of_mem_segments ht hc).1] at hcut
    cases hcut

/-- Segments in their written form are resolved to themselves if none of them is a dot segment. A
    path of a file is not to begin with a drive letter. -/
theorem resolveFrom_of_isClean {file hasDrive : Bool} {done ss : List Segment}
    (hclean : ∀ s ∈ ss, ∀ c ∈ s, Segment.needsEscape c = false)
    (hdots : ∀ s ∈ ss, s.isDotSegment = false)
    (hfirst : file = true → done = [] → ∀ s ∈ ss.head?, s.isDriveLetter = false) :
    resolveFrom file hasDrive done ss = ⟨done.reverse ++ ss, hasDrive⟩ := by
  induction ss generalizing done with
  | nil => rw [resolveFrom, List.append_nil]
  | cons s ss ih =>
    rw [List.forall_mem_cons] at hclean hdots
    have hs := hdots.1
    rw [Segment.isDotSegment, Bool.or_eq_false_iff] at hs
    -- A drive letter would have to be the first segment.
    have hdrive : (file && done.isEmpty && s.isDriveLetter) = false := by
      cases hfile : file && done.isEmpty with
      | false => rfl
      | true =>
        rw [Bool.and_eq_true, List.isEmpty_iff] at hfile
        exact hfirst hfile.1 hfile.2 s rfl
    have hrest := @ih (s :: done) hclean.2 hdots.2 (fun _ h => by cases h)
    rw [resolveFrom, Segment.cutDrive?_of_isBreak fun c hc =>
      Segment.isBreak_of_needsEscape (hclean.1 c hc), ite_self]
    simp only [Segment.clean_eq_self hclean.1, hs, hdrive, Bool.false_eq_true, if_false, hrest]
    simp

/-! ## Paths -/

/-- What holds of the segments of a path holds of those behind empty ones at its beginning. -/
theorem mem_of_mem_dropEmpty {ss : List Segment} {s : Segment} (h : s ∈ dropEmpty ss) : s ∈ ss := by
  induction ss using dropEmpty.induct with
  | case1 => exact h
  | case2 => exact h
  | case3 t rest hne hempty ih =>
    rw [dropEmpty.eq_3 t rest hne, if_pos hempty] at h
    exact List.mem_cons_of_mem t (ih h)
  | case4 t rest hne hempty =>
    rwa [dropEmpty.eq_3 t rest hne, if_neg hempty] at h

/-- Dropping the empty segments in front twice is dropping them once. -/
theorem dropEmpty_idem (ss : List Segment) : dropEmpty (dropEmpty ss) = dropEmpty ss := by
  induction ss using dropEmpty.induct with
  | case1 => rfl
  | case2 => rfl
  | case3 t rest hne hempty ih => rw [dropEmpty.eq_3 t rest hne, if_pos hempty, ih]
  | case4 t rest hne hempty =>
    rw [dropEmpty.eq_3 t rest hne, if_neg hempty, dropEmpty.eq_3 t rest hne, if_neg hempty]

/-- A path of written segments, behind its first slash, has these segments; a path of none has an
    empty one. -/
theorem segments_renderPath {ss : List Segment} (h : ∀ s ∈ ss, s.IsClean) :
    segments ((renderPath ss).drop 1) = if ss = [] then [[]] else ss := by
  rw [renderPath, List.drop_succ_cons, List.drop_zero]
  split
  · rename_i hnil
    rw [hnil]
    rfl
  · rename_i hne
    exact segments_intercalate hne fun s hs c hc => (h s hs c hc).2

/-- Nothing in a path of written segments has to be escaped, and its slashes are forward ones. -/
theorem of_mem_renderPath {ss : List Segment} (h : ∀ s ∈ ss, s.IsClean) {c : Char}
    (hc : c ∈ renderPath ss) : Segment.needsEscape c = false ∧ c ≠ '\\' := by
  rw [renderPath, List.mem_cons] at hc
  rcases hc with rfl | hc
  · decide
  · rcases List.mem_or_exists_of_mem_intercalate hc with hslash | ⟨s, hs, hc⟩
    · rw [List.mem_singleton.1 hslash]
      decide
    · exact (h s hs c hc).imp_right And.right

/-! ## Written paths -/

/-- A path, behind its first slash, as it is written in a URL that has been read. -/
def IsPathOfUrl (s : List Char) : Prop := ∀ c ∈ s, Segment.needsEscape c = false ∧ c ≠ '\\'

/-- Where a resolved path is written, it is such a path, and has the segments that it has been put
    together from. -/
theorem exists_isPathOfUrl {ss : List Segment} (h : ∀ s ∈ ss, s.IsClean) :
    ∃ s, renderPath ss = '/' :: s ∧ IsPathOfUrl s ∧ segments s = if ss = [] then [[]] else ss :=
  ⟨_, rfl, fun _ hc => of_mem_renderPath h (List.mem_cons_of_mem '/' hc), segments_renderPath h⟩

namespace IsPathOfUrl

variable {s : List Char} (h : IsPathOfUrl s)

include h

/-- The segments of such a path need no escape. -/
theorem needsEscape : ∀ t ∈ segments s, ∀ c ∈ t, Segment.needsEscape c = false :=
  fun _ ht c hc => (h c (mem_of_mem_segments ht hc).1).1

/-- Such a path is written out of its segments. -/
theorem renderPath_segments : renderPath (segments s) = '/' :: s :=
  Url.renderPath_segments fun hmem => (h _ hmem).2 rfl

/-- Without dot segments, the path is resolved to itself. -/
theorem renderPath_resolve (hdots : ∀ t ∈ segments s, t.isDotSegment = false) :
    renderPath (resolve false s).segments = '/' :: s := by
  rw [resolve, resolveFrom_of_isClean h.needsEscape hdots (by simp)]
  exact h.renderPath_segments

/-- Without a drive letter in front, that is so in the URL of a file as well. -/
theorem resolve_eq (hdots : ∀ t ∈ segments s, t.isDotSegment = false)
    (hdrive : ∀ t ∈ (segments s).head?, t.isDriveLetter = false) :
    resolve true s = ⟨segments s, false⟩ :=
  resolveFrom_of_isClean h.needsEscape hdots fun _ _ => hdrive

/-- With its first slash, the path begins with an empty segment, and so not with a drive letter. -/
theorem resolve_slash (hdots : ∀ t ∈ segments s, t.isDotSegment = false) :
    resolve true ('/' :: s) = ⟨[] :: segments s, false⟩ := by
  have hsegments : segments ('/' :: s) = [] :: segments s := by
    rw [segments_cons, if_pos (.inl rfl)]
  have hclean : ∀ t ∈ [] :: segments s, ∀ c ∈ t, Segment.needsEscape c = false :=
    List.forall_mem_cons.2 ⟨List.forall_mem_nil _, h.needsEscape⟩
  rw [resolve, hsegments, resolveFrom_of_isClean hclean (List.forall_mem_cons.2 ⟨rfl, hdots⟩)]
  · rfl
  · rintro - - t ⟨⟩
    rfl

end IsPathOfUrl

/-- What a path without tabs and line breaks is resolved to has no dot segments. -/
theorem isDotSegment_of_mem_segments {s t : List Char} (ht : ∀ c ∈ t, isBreak c = false)
    (h : renderPath (dropEmpty (resolve true t).segments) = '/' :: s) :
    ∀ q ∈ segments s, q.isDotSegment = false := by
  have hclean : ∀ q ∈ dropEmpty (resolve true t).segments, q.IsClean := fun q hq =>
    isClean_of_mem_resolve q (mem_of_mem_dropEmpty hq)
  have hsegments := segments_renderPath hclean
  rw [h, List.drop_succ_cons, List.drop_zero] at hsegments
  rw [hsegments]
  split
  · exact List.forall_mem_singleton.2 rfl
  · exact fun q hq => isDotSegment_of_mem_resolve (fun _ => ht) q (mem_of_mem_dropEmpty hq)

/-- A drive letter that was found stays found. -/
theorem hasDrive_resolveFrom {file : Bool} {done rest : List Segment} :
    (resolveFrom file true done rest).hasDrive = true := by
  induction rest generalizing done with
  | nil => rfl
  | cons s rest ih =>
    unfold resolveFrom
    -- Each segment is handled in one of the ways of `resolveFrom`, and none of them clears the
    -- flag.
    split
    · exact ih
    · dsimp only
      repeat' split
      all_goals first
        | rfl
        | exact ih

/-- A drive letter at the beginning of the path of a file stands for the host. -/
theorem hasDrive_resolve {s : List Char} (h : IsPathOfUrl s) {t : Segment}
    (ht : t ∈ (segments s).head?) (hdrive : t.isDriveLetter = true) :
    (resolve true s).hasDrive = true := by
  obtain ⟨rest, hrest⟩ := List.head?_eq_some_iff.1 ht
  have hclean : ∀ c ∈ t, Segment.needsEscape c = false :=
    h.needsEscape t (List.mem_of_mem_head? ht)
  have hdots : t.isDot = false ∧ t.isDoubleDot = false := by
    simpa [Segment.isDotSegment] using Segment.isDotSegment_of_isDriveLetter hdrive
  rw [resolve, hrest, resolveFrom, Segment.cutDrive?_of_isBreak fun c hc =>
    Segment.isBreak_of_needsEscape (hclean c hc), ite_self]
  simp only [Segment.clean_eq_self hclean, hdots, hdrive]
  exact hasDrive_resolveFrom

namespace IsPathOfUrl

variable {s : List Char} (h : IsPathOfUrl s)

include h

/-- Such a path has no breaks. -/
theorem forall_isBreak : ∀ c ∈ '/' :: s, isBreak c = false :=
  List.forall_mem_cons.2 ⟨rfl, fun c hc => Segment.isBreak_of_needsEscape (h c hc).1⟩

variable (hempty : dropEmpty (segments s) = segments s)

include hempty

/-- In the URL of a file that has no host, a path is read as it is written if it has no dot
    segments. -/
theorem renderPath_dropEmpty_slash_iff :
    renderPath (dropEmpty (resolve true ('/' :: s)).segments) = '/' :: s ↔
      ∀ t ∈ segments s, t.isDotSegment = false := by
  constructor
  · exact isDotSegment_of_mem_segments h.forall_isBreak
  · intro hdots
    rw [h.resolve_slash hdots, dropEmpty.eq_3 [] _ (segments_ne_nil s), if_pos List.isEmpty_nil,
      hempty, h.renderPath_segments]

/-- In the URL of a file that has a host, it must not begin with a drive letter either. -/
theorem renderPath_dropEmpty_iff :
    (resolve true s).hasDrive = false ∧
        renderPath (dropEmpty (resolve true s).segments) = '/' :: s ↔
      (∀ t ∈ segments s, t.isDotSegment = false) ∧
        ∀ t ∈ (segments s).head?, t.isDriveLetter = false := by
  constructor
  · -- A drive letter or dot segment would have changed the path.
    rintro ⟨hdrive, hpath⟩
    refine ⟨isDotSegment_of_mem_segments (List.forall_mem_cons.1 h.forall_isBreak).2 hpath, ?_⟩
    intro t ht
    rw [← Bool.not_eq_true]
    intro hletter
    rw [hasDrive_resolve h ht hletter] at hdrive
    cases hdrive
  · rintro ⟨hdots, hfirst⟩
    rw [h.resolve_eq hdots hfirst]
    exact ⟨rfl, by rw [hempty, h.renderPath_segments]⟩

end IsPathOfUrl

end HttpState.Url
