import HttpState.Text.Blank
import Mathlib.Data.List.DropRight

/-!
# Trimming

What trimming takes away from a text whose middle part neither begins nor ends with a character that
is trimmed: all that stands before this part, if it consists of such characters, and no more than
what stands behind it.

- `dropEndWhile_eq_rdropWhile`: trimming at the end, by the name under which lists have it
- `dropEndWhile_append`, `trimWhile_append`: trimming a text that is put together from parts
-/

namespace HttpState.Text

variable {p : Char → Bool}

/-- Dropping from the end is dropping from the right. -/
theorem dropEndWhile_eq_rdropWhile (p : Char → Bool) (s : List Char) :
    dropEndWhile p s = s.rdropWhile p := rfl

/-- Nothing is dropped in front of a character that is not trimmed. -/
theorem dropWhile_of_head? {s : List Char} (h : ∀ c ∈ s.head?, p c = false) :
    s.dropWhile p = s := by
  cases s with
  | nil => rfl
  | cons c s => exact List.dropWhile_cons_of_neg (by simp [h c rfl])

/-- What is left ends in a character that is not trimmed. -/
theorem of_mem_getLast?_dropEndWhile {s : List Char} {c : Char}
    (h : c ∈ (dropEndWhile p s).getLast?) : p c = false := by
  rw [dropEndWhile, List.getLast?_reverse, Option.mem_def] at h
  have hnot := List.head?_dropWhile_not p s.reverse
  rw [h] at hnot
  exact Bool.eq_false_iff.2 (by simpa using hnot)

/-- What is left after trimming begins with a character that is not trimmed. -/
theorem of_mem_head?_trimWhile {s : List Char} {c : Char} (h : c ∈ (trimWhile p s).head?) :
    p c = false := by
  obtain ⟨after, hafter⟩ := List.rdropWhile_prefix p (s.dropWhile p)
  have hhead : (s.dropWhile p).head? = some c := by
    rw [← hafter, ← dropEndWhile_eq_rdropWhile, List.head?_append,
      show (dropEndWhile p (s.dropWhile p)).head? = some c from h]
    rfl
  have hnot := List.head?_dropWhile_not p s
  rw [hhead] at hnot
  exact Bool.eq_false_iff.2 (by simpa using hnot)

/-- Trimming adds no characters. -/
theorem mem_of_mem_trimWhile {s : List Char} {c : Char} (h : c ∈ trimWhile p s) : c ∈ s :=
  (List.dropWhile_sublist p).subset ((List.rdropWhile_prefix p _).subset h)

/-- A character that stays keeps what stands before it. -/
theorem dropEndWhile_append {s : List Char} (h : ∀ c ∈ s.getLast?, p c = false) (t : List Char) :
    dropEndWhile p (s ++ t) = s ++ dropEndWhile p t := by
  have hs : s.reverse.dropWhile p = s.reverse :=
    dropWhile_of_head? (by simpa using h)
  rw [dropEndWhile, dropEndWhile, List.reverse_append, List.dropWhile_append, hs]
  split
  · rename_i hnil
    rw [List.isEmpty_iff.1 hnil]
    simp
  · simp

/-- Nothing is dropped at the end of a text that ends in a character that is not trimmed. -/
theorem dropEndWhile_eq_self {s : List Char} (h : ∀ c ∈ s.getLast?, p c = false) :
    dropEndWhile p s = s := by
  have happend := dropEndWhile_append h []
  rwa [List.append_nil, show dropEndWhile p [] = [] from rfl, List.append_nil] at happend

/-- A text without characters to trim stays as it is. -/
theorem trimWhile_eq_self {s : List Char} (h : ∀ c ∈ s, p c = false) : trimWhile p s = s := by
  rw [trimWhile, dropWhile_of_head? fun c hc => h c (List.mem_of_mem_head? hc)]
  exact dropEndWhile_eq_self fun c hc => h c (List.mem_of_getLast? hc)

/-- Trimming stops at the middle part. -/
theorem trimWhile_append {before s : List Char} (hbefore : ∀ c ∈ before, p c = true)
    (hne : s ≠ []) (hhead : ∀ c ∈ s.head?, p c = false) (hlast : ∀ c ∈ s.getLast?, p c = false)
    (after : List Char) :
    trimWhile p (before ++ (s ++ after)) = s ++ dropEndWhile p after := by
  have hfirst : ∀ c ∈ (s ++ after).head?, p c = false := by
    obtain ⟨c, s, rfl⟩ := List.exists_cons_of_ne_nil hne
    exact hhead
  rw [trimWhile, List.dropWhile_append_of_pos hbefore, dropWhile_of_head? hfirst,
    dropEndWhile_append hlast]

end HttpState.Text
