import HttpState.Unicode.HostMapping

/-!
# Text without upper-case letters

Letter case in this library is that of ASCII. A text without upper-case letters is its own
lower-case form, and every lower-case form is such a text. Characters that are not letters are not
touched, and neither are they made.
-/

namespace HttpState.Text

/-- A text without an upper-case letter. -/
def IsLowerCase (s : List Char) : Prop := ∀ c ∈ s, c.isUpper = false

instance (s : List Char) : Decidable (IsLowerCase s) := inferInstanceAs (Decidable (∀ c ∈ s, _))

/-- The upper-case letters by their numbers. -/
theorem isUpper_iff {c : Char} : c.isUpper = true ↔ 65 ≤ c.toNat ∧ c.toNat ≤ 90 :=
  decide_eq_true_iff

/-- The lower-case letters by their numbers. -/
theorem isLower_iff {c : Char} : c.isLower = true ↔ 97 ≤ c.toNat ∧ c.toNat ≤ 122 := by
  unfold Char.isLower
  simp only [ge_iff_le, Bool.and_eq_true, decide_eq_true_eq, UInt32.le_iff_toNat_le]
  exact Iff.rfl

/-- The digits by their numbers. -/
theorem isDigit_iff {c : Char} : c.isDigit = true ↔ 48 ≤ c.toNat ∧ c.toNat ≤ 57 := by
  unfold Char.isDigit
  simp only [ge_iff_le, Bool.and_eq_true, decide_eq_true_eq, UInt32.le_iff_toNat_le]
  exact Iff.rfl

/-- A letter is an upper-case or a lower-case one. -/
theorem isAlpha_iff {c : Char} : c.isAlpha = true ↔ c.isUpper = true ∨ c.isLower = true :=
  Bool.or_eq_true_iff

/-- A letter or a digit. -/
theorem isAlphanum_iff {c : Char} : c.isAlphanum = true ↔ c.isAlpha = true ∨ c.isDigit = true :=
  Bool.or_eq_true_iff

/-- A letter in lower case has a number 32 above that in upper case. -/
theorem toNat_toLower (c : Char) :
    c.toLower.toNat = if 65 ≤ c.toNat ∧ c.toNat ≤ 90 then c.toNat + 32 else c.toNat := by
  split
  · rename_i h
    unfold Char.toLower
    rw [dif_pos (of_decide_eq_true (isUpper_iff.2 h))]
    change (c.toNat + 32) % 4294967296 = c.toNat + 32
    omega
  · rename_i h
    rw [Unicode.toLower_of_not_isUpper (by simpa using mt isUpper_iff.1 h)]

/-- No upper-case letter is left in lower case. -/
theorem isUpper_toLower (c : Char) : c.toLower.isUpper = false := by
  rw [← Bool.not_eq_true, isUpper_iff, toNat_toLower]
  split <;> omega

/-- Lower case makes nothing but lower-case letters. -/
theorem eq_of_toLower_eq {c d : Char} (hd : d.isLower = false) (h : c.toLower = d) : c = d := by
  have hn := toNat_toLower c
  rw [← Bool.not_eq_true, isLower_iff] at hd
  rw [h] at hn
  refine Char.toNat_inj.1 ?_
  split at hn
  · omega
  · exact hn.symm

/-- A text put in lower case is in lower case. -/
theorem isLowerCase_map_toLower (s : List Char) : IsLowerCase (s.map Char.toLower) := by
  intro c hc
  obtain ⟨d, _, rfl⟩ := List.mem_map.1 hc
  exact isUpper_toLower d

/-- Text in lower case stays as it is. -/
theorem IsLowerCase.map_toLower {s : List Char} (h : IsLowerCase s) : s.map Char.toLower = s := by
  rw [List.map_congr_left fun c hc => Unicode.toLower_of_not_isUpper (h c hc), List.map_id']

end HttpState.Text
