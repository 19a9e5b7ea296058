import HttpState.Text.Blank
import HttpState.Text.Scan

/-!
# Written numbers

What a number written with a fixed number of digits looks like, and that its digits denote it.

- `decimal_padded`: the digits of a number denote it
- `dropEndWhile_append_replicate`: what is dropped at the end of a text, if it is one character
-/

namespace HttpState.Text

/-- What a number below ten is written with is a digit. -/
theorem isDigit_digitChar (n : Nat) : (digitChar n).isDigit = true := by
  have h := digit?_digitChar n
  unfold digit? at h
  split at h
  · assumption
  · exact nomatch h

/-- A number written in decimal has digits only. -/
theorem isDigit_of_mem_padded {width n : Nat} {c : Char} (h : c ∈ padded width n) :
    c.isDigit = true := by
  induction width generalizing n with
  | zero => simp [padded] at h
  | succ w ih =>
    rcases List.mem_append.1 h with h | h
    · exact ih h
    · rw [List.mem_singleton.1 h]
      exact isDigit_digitChar n

/-- A digit behind others counts once, and the others ten times. -/
theorem decimal_append_digitChar (s : List Char) (n : Nat) :
    decimal (s ++ [digitChar n]) = decimal s * 10 + n % 10 := by
  simp [decimal, number, List.foldl_append, digit?_digitChar]

/-- The digits of a number denote it. -/
theorem decimal_padded {width n : Nat} (h : n < powerOfTen width) :
    decimal (padded width n) = n := by
  induction width generalizing n with
  | zero => exact (Nat.lt_one_iff.1 h).symm
  | succ w ih =>
    rw [powerOfTen_succ] at h
    have hn : n / 10 < powerOfTen w := Nat.div_lt_of_lt_mul (by rwa [Nat.mul_comm] at h)
    rw [padded, decimal_append_digitChar, ih hn]
    omega

/-- What is dropped at the end of a text, if it is always the same character. -/
theorem dropEndWhile_append_replicate (c : Char) (s : List Char) :
    ∃ n, s = dropEndWhile (· == c) s ++ List.replicate n c := by
  -- What is dropped are such characters only.
  have hdropped : s.reverse.takeWhile (· == c) =
      List.replicate (s.reverse.takeWhile (· == c)).length c := by
    rw [List.eq_replicate_iff]
    refine ⟨rfl, ?_⟩
    intro d hd
    simpa using List.all_eq_true.1 List.all_takeWhile d hd
  refine ⟨(s.reverse.takeWhile (· == c)).length, ?_⟩
  have hsplit := congrArg List.reverse (List.takeWhile_append_dropWhile (p := (· == c))
    (l := s.reverse))
  rw [List.reverse_append, List.reverse_reverse, hdropped, List.reverse_replicate] at hsplit
  exact hsplit.symm

end HttpState.Text
