import HttpState.Json.Reader

/-!
# Reading strings that were written

A string written with its escapes is read back as the text it denotes, whatever characters it has.

- `readString_flatMap_escapeChar`: the law, by one lemma for each kind of escape
-/

namespace HttpState.Json

open HttpState.Text

/-- Behind a character that was read, no half of a pair is left over. -/
theorem afterHalf_none_comp_consChar (c : Char) : afterHalf none ∘ consChar c = consChar c := rfl

/-- An escape of one character is read as that character. -/
theorem readString_escape {c d : Char} (hu : c ≠ 'u') (h : escapedChar? c = some d)
    (t : List Char) :
    readString none ('\\' :: c :: t) = (readString none t).map (consChar d) := by
  rw [readString.eq_4 none c t fun _ _ _ _ _ hc => absurd hc hu, h]
  rfl

/-- A character that has no escape is read as it is. -/
theorem readString_plain {c : Char} (hquote : c ≠ '"') (hback : c ≠ '\\') (hlow : ¬ c.toNat < 0x20)
    (t : List Char) : readString none (c :: t) = (readString none t).map (consChar c) := by
  rw [readString.eq_5 none c t hquote (fun _ _ _ _ _ hc => absurd hc hback)
    (fun _ _ hc => absurd hc hback), if_neg hlow]
  rfl

/-- The four digits of a control character denote its number. -/
theorem escapeUnit?_control {n : Nat} (h : n < 0x20) :
    escapeUnit? '0' '0' (hexChar (n / 16)) (hexChar (n % 16)) = some n := by
  have hall : ∀ m : Fin 0x20,
      escapeUnit? '0' '0' (hexChar (m.val / 16)) (hexChar (m.val % 16)) = some m.val := by decide
  exact hall ⟨n, h⟩

/-- An escape by number is read as the character with the number. -/
theorem readString_control {c : Char} (h : c.toNat < 0x20) (t : List Char) :
    readString none
        ('\\' :: 'u' :: '0' :: '0' :: hexChar (c.toNat / 16) :: hexChar (c.toNat % 16) :: t) =
      (readString none t).map (consChar c) := by
  -- A control character is no half of a pair, so the escape stands for itself.
  have hhigh : isHighSurrogate c.toNat = false := by
    simp only [isHighSurrogate, Bool.and_eq_false_iff, decide_eq_false_iff_not]
    omega
  have hlow : isLowSurrogate c.toNat = false := by
    simp only [isLowSurrogate, Bool.and_eq_false_iff, decide_eq_false_iff_not]
    omega
  rw [readString]
  simp only [escapeUnit?_control h, hhigh, hlow, Bool.false_eq_true, if_false, Char.ofNat_toNat,
    afterHalf_none_comp_consChar]

/-- What is written for a character is read as that character. -/
theorem readString_escapeChar (c : Char) (t : List Char) :
    readString none (escapeChar c ++ t) = (readString none t).map (consChar c) := by
  have hnumber : ∀ d : Char, c.toNat = d.toNat → c = d := by
    intro d h
    rw [← Char.ofNat_toNat c, h, Char.ofNat_toNat]
  -- One case for each character that has an escape of its own, then the control characters, then
  -- all others.
  unfold escapeChar
  split
  · rename_i hc
    rw [hc]
    exact readString_escape (by decide) (by decide) t
  split
  · rename_i hc
    rw [hc]
    exact readString_escape (by decide) (by decide) t
  split
  · rename_i hc
    rw [hnumber '\x08' hc]
    exact readString_escape (by decide) (by decide) t
  split
  · rename_i hc
    rw [hc]
    exact readString_escape (by decide) (by decide) t
  split
  · rename_i hc
    rw [hc]
    exact readString_escape (by decide) (by decide) t
  split
  · rename_i hc
    rw [hnumber '\x0c' hc]
    exact readString_escape (by decide) (by decide) t
  split
  · rename_i hc
    rw [hc]
    exact readString_escape (by decide) (by decide) t
  split
  · rename_i hcontrol
    exact readString_control hcontrol t
  · rename_i hquote hback _ _ _ _ _ hcontrol
    exact readString_plain hquote hback hcontrol t

/-- What is written for a text, up to the closing quote, is read as the text. -/
theorem readString_flatMap_escapeChar (s t : List Char) :
    readString none (s.flatMap escapeChar ++ '"' :: t) = some (some s, t) := by
  induction s with
  | nil =>
    rw [List.flatMap_nil, List.nil_append, readString]
    rfl
  | cons c s ih =>
    rw [List.flatMap_cons, List.append_assoc, readString_escapeChar, ih]
    rfl

end HttpState.Json
