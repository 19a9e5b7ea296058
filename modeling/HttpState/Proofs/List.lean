import Mathlib.Data.List.Nodup
import Mathlib.Data.List.Perm.Basic

/-!
# Lemmas about lists

What is needed of lists in general: the order of two items in a list without repetitions, stability
of sorting, and lists that are put together from the parts of others.
-/

namespace List

variable {α β : Type}

/-! ## The order of two items -/

/-- Of two different items of a list, one stands before the other. -/
theorem pair_sublist_or_of_mem {l : List α} {x y : α} (hx : x ∈ l) (hy : y ∈ l) (hne : x ≠ y) :
    [x, y] <+ l ∨ [y, x] <+ l := by
  induction l with
  | nil => simp at hx
  | cons z l ih =>
    -- Whichever of the two comes first stands before the other; if neither does, both stand further
    -- down.
    rcases mem_cons.1 hx with rfl | hx'
    · have hyl : y ∈ l := (mem_cons.1 hy).resolve_left (Ne.symm hne)
      exact .inl (Sublist.cons_cons x (singleton_sublist.2 hyl))
    · rcases mem_cons.1 hy with rfl | hy'
      · exact .inr (Sublist.cons_cons y (singleton_sublist.2 hx'))
      · exact (ih hx' hy').imp (Sublist.cons z) (Sublist.cons z)

/-- In a list without repetitions, no item stands before and behind another one. -/
theorem not_pair_sublist_of_nodup {l : List α} (hl : l.Nodup) {x y : α} (h : [x, y] <+ l) :
    ¬ [y, x] <+ l := by
  induction l with
  | nil => exact absurd h.length_le (by simp)
  | cons z l ih =>
    -- The head of `l` would be the first of both pairs, or stand in the rest as well.
    rw [nodup_cons] at hl
    intro h'
    cases h with
    | cons _ h =>
      cases h' with
      | cons _ h' => exact ih hl.2 h h'
      | cons_cons _ _ => exact hl.1 (h.subset (by simp))
    | cons_cons _ h =>
      cases h' with
      | cons _ h' => exact hl.1 (h'.subset (by simp))
      | cons_cons _ h' => exact hl.1 (h'.subset (by simp))

/-- Two parts of a list without repetitions are the same if they have the same items. -/
theorem eq_of_sublist_of_mem_iff {l m n : List α} (hn : n.Nodup) (hl : l <+ n) (hm : m <+ n)
    (hmem : ∀ x, x ∈ l ↔ x ∈ m) : l = m := by
  have hperm : l ~ m := (perm_ext_iff_of_nodup (hl.nodup hn) (hm.nodup hn)).2 hmem
  -- Both have their items in the order of the whole list, in which there is no choice.
  have horder : ∀ {k : List α}, k <+ n → k.Pairwise fun x y => [x, y] <+ n :=
    fun hk => pairwise_iff_forall_sublist.2 fun h => h.trans hk
  refine hperm.eq_of_pairwise ?_ (horder hl) (horder hm)
  intro x y _ _ hxy hyx
  exact absurd hyx (not_pair_sublist_of_nodup hn hxy)

/-! ## Sorting -/

section Sorting

variable {le : α → α → Bool} (trans : ∀ a b c, le a b = true → le b c = true → le a c = true)
  (total : ∀ a b, (le a b || le b a) = true)

include trans total

/-- Sorting is stable: items that may stand in either order keep the one they have. -/
theorem pairwise_mergeSort_of_pairwise {R : α → α → Prop} {l : List α} (hnodup : l.Nodup)
    (hR : l.Pairwise R) :
    (l.mergeSort le).Pairwise fun x y => le x y = true ∧ (le y x = true → R x y) := by
  have hsorted := pairwise_mergeSort trans total l
  have hnodup' : (l.mergeSort le).Nodup := (mergeSort_perm l le).nodup_iff.2 hnodup
  rw [pairwise_iff_forall_sublist] at hR hsorted ⊢
  intro x y hxy
  refine ⟨hsorted hxy, ?_⟩
  intro hle
  have hne : x ≠ y := by
    rintro rfl
    exact nodup_iff_sublist.1 hnodup' x hxy
  have hx : x ∈ l := (mergeSort_perm l le).subset (hxy.subset (by simp))
  have hy : y ∈ l := (mergeSort_perm l le).subset (hxy.subset (by simp))
  rcases pair_sublist_or_of_mem hx hy hne with h | h
  · exact hR h
  · -- Behind each other in `l`, they would have kept that order.
    have hyx := pair_sublist_mergeSort trans total hle h
    exact absurd hyx (not_pair_sublist_of_nodup hnodup' hxy)

/-- A sorted permutation of a list is what sorting it gives, if no two different items of it may
    stand in either order. -/
theorem mergeSort_eq_of_perm {l m : List α} (hperm : m ~ l) (hm : m.Pairwise fun a b => le a b)
    (hanti : ∀ a ∈ l, ∀ b ∈ l, le a b = true → le b a = true → a = b) : l.mergeSort le = m := by
  have hsort : l.mergeSort le ~ l := mergeSort_perm l le
  refine (hsort.trans hperm.symm).eq_of_pairwise ?_ (pairwise_mergeSort trans total l) hm
  intro a b ha hb
  exact hanti a (hsort.subset ha) b (hperm.subset hb)

end Sorting

/-! ## Parts of a list -/

/-- A list is cut behind its longest beginning that satisfies a condition. -/
theorem span_append {p : α → Bool} {l m : List α} (hl : ∀ x ∈ l, p x = true)
    (hm : ∀ x, m.head? = some x → p x = false) :
    (l ++ m).takeWhile p = l ∧ (l ++ m).dropWhile p = m := by
  rw [takeWhile_append_of_pos hl, dropWhile_append_of_pos hl]
  cases m with
  | nil => simp
  | cons x m => simp [hm x rfl]

/-- What is put together with separators holds its parts, each as a whole. -/
theorem isInfix_intercalate {sep l : List α} {ls : List (List α)} (h : l ∈ ls) :
    l <:+: sep.intercalate ls := by
  induction ls with
  | nil => simp at h
  | cons m ls ih =>
    -- With one list there is no separator. Otherwise `l` is the first list, or stands behind the
    -- first separator.
    by_cases hls : ls = []
    · subst hls
      obtain rfl := mem_singleton.1 h
      exact intercalate_singleton.symm ▸ infix_refl l
    · rw [intercalate_cons_of_ne_nil hls, append_assoc]
      rcases mem_cons.1 h with rfl | h
      · exact (prefix_append l _).isInfix
      · obtain ⟨s, t, hst⟩ := ih h
        exact ⟨m ++ (sep ++ s), t, by simp [← hst]⟩

/-- What is put together with separators holds nothing but these and its parts. -/
theorem mem_or_exists_of_mem_intercalate {sep : List α} {ls : List (List α)} {x : α}
    (h : x ∈ sep.intercalate ls) : x ∈ sep ∨ ∃ l ∈ ls, x ∈ l := by
  induction ls with
  | nil => simp at h
  | cons m ls ih =>
    by_cases hls : ls = []
    · -- One list, so no separator.
      subst hls
      rw [intercalate_singleton] at h
      exact .inr ⟨m, by simp, h⟩
    · -- The first list, a separator, and the rest.
      rw [intercalate_cons_of_ne_nil hls, append_assoc, mem_append, mem_append] at h
      rcases h with h | h | h
      · exact .inr ⟨m, by simp, h⟩
      · exact .inl h
      · exact (ih h).imp_right fun ⟨l, hl, hx⟩ => ⟨l, mem_cons_of_mem m hl, hx⟩

/-- All but the first item of a separator may as well belong to the parts behind it. -/
theorem intercalate_cons_cons_sep (x : α) (sep l : List α) (ls : List (List α)) :
    (x :: sep).intercalate (l :: ls) = [x].intercalate (l :: ls.map (sep ++ ·)) := by
  induction ls generalizing l with
  | nil => simp
  | cons m ls ih =>
    rw [map_cons, intercalate_cons_cons, intercalate_cons_cons, ih]
    cases ls with
    | nil => simp
    | cons n ls => simp [intercalate_cons_cons]

/-- No part that is split off holds the separator. -/
theorem not_mem_of_mem_splitOn [DecidableEq α] {x : α} {l m : List α} (h : m ∈ l.splitOn x) :
    x ∉ m := by
  induction l generalizing m with
  | nil => simp_all
  | cons y l ih =>
    rw [splitOn_cons_eq_if_modifyHead] at h
    -- A separator begins a new piece; any other element becomes part of the first piece.
    split at h
    · rcases mem_cons.1 h with rfl | h
      · exact not_mem_nil
      · exact ih h
    · rename_i hy
      obtain ⟨n, ns, hns⟩ := exists_cons_of_ne_nil (splitOn_ne_nil x l)
      rw [hns, modifyHead_cons, mem_cons] at h
      rcases h with rfl | h
      · rw [mem_cons, not_or]
        exact ⟨fun heq => hy (by simp [heq]), ih (by simp [hns])⟩
      · exact ih (by simp [hns, h])

/-- What is split holds its parts, each as a whole. -/
theorem isInfix_of_mem_splitOn [DecidableEq α] {x : α} {l m : List α} (h : m ∈ l.splitOn x) :
    m <:+: l := by
  have hinfix := @isInfix_intercalate α [x] m _ h
  rwa [intercalate_splitOn] at hinfix

/-- A list without its repetitions has none. -/
theorem nodup_eraseDups [BEq α] [LawfulBEq α] (l : List α) : l.eraseDups.Nodup := by
  -- The rest loses elements before it is looked at, so the induction is on the length.
  induction h : l.length using Nat.strongRecOn generalizing l with
  | ind n ih =>
    cases l with
    | nil => simp
    | cons x l =>
      rw [eraseDups_cons, nodup_cons, mem_eraseDups, mem_filter]
      refine ⟨by simp, ih _ ?_ _ rfl⟩
      have := length_filter_le (fun y => !y == x) l
      rw [length_cons] at h
      omega

/-- A part at the end comes behind one more separator. -/
theorem intercalate_append_singleton {ls : List (List α)} (hls : ls ≠ []) (sep l : List α) :
    sep.intercalate (ls ++ [l]) = sep.intercalate ls ++ sep ++ l := by
  induction ls with
  | nil => exact absurd rfl hls
  | cons m ls ih =>
    -- The separator is written only between two lists, so the last list is a case of its own.
    by_cases hls : ls = []
    · subst hls
      simp [intercalate_cons_cons]
    · rw [cons_append, intercalate_cons_of_ne_nil (by simp), ih hls,
        intercalate_cons_of_ne_nil hls]
      simp

/-- What comes last, if anything comes after `x` and what may come next. -/
theorem getLast?_toList_append_getD (next : Option α) (l : List α) (x : α) :
    (next.toList ++ l).getLast?.getD x = l.getLast?.getD (next.getD x) := by
  cases next with
  | none => rfl
  | some y => simp [getLast?_cons]

/-- The items of one key and then those of other keys. -/
theorem filter_append_filter_perm [DecidableEq β] (f : α → β) {k : β} {ks : List β} (hk : k ∉ ks)
    (l : List α) :
    l.filter (f · == k) ++ l.filter (fun x => decide (f x ∈ ks)) ~
      l.filter fun x => decide (f x ∈ k :: ks) := by
  induction l with
  | nil => simp
  | cons x l ih =>
    -- The element is counted for `k`, for one of `ks`, or for none of them.
    by_cases hx : f x = k
    · simpa [hx, hk] using ih
    · by_cases hin : f x ∈ ks
      · simpa [hx, hin] using perm_middle.trans (Perm.cons x ih)
      · simpa [hx, hin] using ih

/-- The parts of a list that belong to different keys, one after another, are the items whose key is
    among these. -/
theorem flatMap_filter_perm [DecidableEq β] (f : α → β) {ks : List β} (hks : ks.Nodup)
    (l : List α) :
    (ks.flatMap fun k => l.filter (f · == k)) ~ l.filter fun x => decide (f x ∈ ks) := by
  induction ks with
  | nil => simp
  | cons k ks ih =>
    rw [nodup_cons] at hks
    rw [flatMap_cons]
    exact (Perm.append_left _ (ih hks.2)).trans (filter_append_filter_perm f hks.1 l)

/-- What each item of a list is turned into is found in the result, if all of them can be turned
    into something. -/
theorem exists_of_mapM_eq_some {f : α → Option β} {l : List α} {m : List β} (h : l.mapM f = some m)
    {x : α} (hx : x ∈ l) : ∃ y ∈ m, f x = some y := by
  induction l generalizing m with
  | nil => simp at hx
  | cons z l ih =>
    simp only [mapM_cons, Option.bind_eq_bind, Option.bind_eq_some_iff, Option.pure_def,
      Option.some.injEq] at h
    obtain ⟨y, hy, rest, hrest, rfl⟩ := h
    cases mem_cons.1 hx with
    | inl hxz => exact ⟨y, by simp, hxz ▸ hy⟩
    | inr hxl =>
      obtain ⟨w, hw, hf⟩ := ih hrest hxl
      exact ⟨w, mem_cons_of_mem y hw, hf⟩

/-- What the items of a list are turned into has every property of what an item may be turned
    into. -/
theorem forall_mem_of_mapM_eq_some {f : α → Option β} {P : β → Prop}
    (hf : ∀ x y, f x = some y → P y) {l : List α} {m : List β} (h : l.mapM f = some m) :
    ∀ y ∈ m, P y := by
  induction l generalizing m with
  | nil =>
    cases h
    exact forall_mem_nil P
  | cons x l ih =>
    simp only [mapM_cons, Option.bind_eq_bind, Option.bind_eq_some_iff, Option.pure_def,
      Option.some.injEq] at h
    obtain ⟨y, hy, rest, hrest, rfl⟩ := h
    exact forall_mem_cons.2 ⟨hf x y hy, ih hrest⟩

/-- Items that can be turned into something are so one by one. -/
theorem mapM_eq_some_map {f : α → Option β} {g : α → β} {l : List α}
    (h : ∀ x ∈ l, f x = some (g x)) : l.mapM f = some (l.map g) := by
  induction l with
  | nil => rfl
  | cons x l ih =>
    rw [forall_mem_cons] at h
    rw [mapM_cons, h.1, ih h.2]
    rfl

/-- Items that are turned into the same as others before may take the place of these. -/
theorem mapM_map_eq_some {f : α → Option β} {g : α → α} {l : List α} {m : List β}
    (h : l.mapM f = some m) (hg : ∀ x ∈ l, ∀ y ∈ m, f x = some y → f (g x) = some y) :
    (l.map g).mapM f = some m := by
  induction l generalizing m with
  | nil => exact h
  | cons x l ih =>
    simp only [mapM_cons, Option.bind_eq_bind, Option.bind_eq_some_iff, Option.pure_def,
      Option.some.injEq] at h
    obtain ⟨y, hy, rest, hrest, rfl⟩ := h
    have hx := hg x (by simp) y (by simp) hy
    have hl := ih hrest fun z hz w hw => hg z (mem_cons_of_mem x hz) w (mem_cons_of_mem y hw)
    rw [map_cons, mapM_cons, hx, hl]
    rfl

/-- A list is turned into another one if each of its items can be turned into something. -/
theorem exists_mapM_eq_some_iff {f : α → Option β} {l : List α} :
    (∃ m, l.mapM f = some m) ↔ ∀ x ∈ l, ∃ y, f x = some y := by
  induction l with
  | nil => simp
  | cons x l ih =>
    rw [forall_mem_cons, ← ih, mapM_cons]
    constructor
    · -- Each item has its result.
      rintro ⟨m, h⟩
      obtain ⟨y, hy, h⟩ := Option.bind_eq_some_iff.1 h
      obtain ⟨rest, hrest, _⟩ := Option.bind_eq_some_iff.1 h
      exact ⟨⟨y, hy⟩, rest, hrest⟩
    · -- The results are put together.
      rintro ⟨⟨y, hy⟩, rest, hrest⟩
      exact ⟨y :: rest, by simp [hy, hrest]⟩

end List
