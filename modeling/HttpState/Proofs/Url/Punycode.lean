import HttpState.Proofs.Text.LetterCase
import HttpState.Url.Punycode

/-!
# Characters of an encoded text

An encoding is made of the ASCII characters of the text it encodes, of hyphens, and of digits in
base 36, which are letters in lower case and decimal digits. The other way round, a text that can be
decoded holds nothing else: what is no hyphen and no such digit is found again in what it decodes
to.

## Key results

- `mem_encode`: the characters of an encoding
- `mem_of_decode?`: the characters of a text that can be decoded
-/

namespace HttpState.Url.Punycode

open HttpState.Text

/-- A digit in base 36, as it is written: a letter in lower case or a decimal digit. -/
def isDigitChar (c : Char) : Bool := c.isLower || c.isDigit

/-! ## Encoding -/

/-- The digits are lower-case letters and decimal digits. -/
theorem isDigitChar_digitChar {d : Nat} (h : d < 36) : isDigitChar (digitChar d) = true := by
  have hall : ∀ e : Fin 36, isDigitChar (digitChar e.val) = true := by decide
  exact hall ⟨d, h⟩

/-- Thresholds are the digits from 1 to 26. -/
theorem threshold_bounds (place bias : Nat) :
    1 ≤ threshold place bias ∧ threshold place bias ≤ 26 := by
  unfold threshold
  split
  · omega
  · split <;> omega

/-- A number is written with digits in base 36. It gets smaller with each digit, as a threshold is 1
    at least, so `digitsFrom` never comes to the end of its fuel with a large number. -/
theorem isDigitChar_of_mem_digitsFrom {bias fuel place q : Nat} (h : q ≤ fuel) {c : Char}
    (hc : c ∈ digitsFrom bias fuel place q) : isDigitChar c = true := by
  induction fuel generalizing place q with
  | zero =>
    -- No fuel is left: `q` is zero and is written as one digit.
    simp only [digitsFrom, List.mem_singleton] at hc
    exact hc ▸ isDigitChar_digitChar (by omega)
  | succ fuel ih =>
    obtain ⟨hpos, hle⟩ := threshold_bounds place bias
    simp only [digitsFrom] at hc
    split at hc
    · -- The last digit is below the threshold.
      rw [List.mem_singleton] at hc
      exact hc ▸ isDigitChar_digitChar (by omega)
    · rename_i hq
      cases List.mem_cons.1 hc with
      | inl hc =>
        have hmod : (q - threshold place bias) % (36 - threshold place bias) <
            36 - threshold place bias := Nat.mod_lt _ (by omega)
        exact hc ▸ isDigitChar_digitChar (by omega)
      | inr hc =>
        have hdiv : (q - threshold place bias) / (36 - threshold place bias) ≤
            q - threshold place bias := Nat.div_le_self _ _
        exact ih (by omega) hc

/-- Passing a character writes digits or nothing. -/
theorem mem_output_pass {basic m : Nat} {e : Encoding} {c d : Char}
    (hd : d ∈ (e.pass basic m c).output) : d ∈ e.output ∨ isDigitChar d = true := by
  unfold Encoding.pass at hd
  split at hd
  · exact .inl hd
  · split at hd
    · cases List.mem_append.1 hd with
      | inl hd => exact .inl hd
      | inr hd => exact .inr (isDigitChar_of_mem_digitsFrom (Nat.le_refl _) hd)
    · exact .inl hd

/-- Passing the whole text writes digits only. -/
theorem mem_output_foldl_pass {basic m : Nat} {s : List Char} {e : Encoding} {d : Char}
    (hd : d ∈ (s.foldl (Encoding.pass basic m) e).output) :
    d ∈ e.output ∨ isDigitChar d = true := by
  induction s generalizing e with
  | nil => exact .inl hd
  | cons c s ih =>
    cases ih hd with
    | inl h => exact mem_output_pass h
    | inr h => exact .inr h

/-- Dealing with all code points writes digits only. -/
theorem mem_output_encodeAbove {s : List Char} {basic n : Nat} {ms : List Nat} {e : Encoding}
    {d : Char} (hd : d ∈ (encodeAbove s basic n ms e).output) :
    d ∈ e.output ∨ isDigitChar d = true := by
  induction ms generalizing n e with
  | nil => exact .inl hd
  | cons m ms ih =>
    cases ih hd with
    | inl h =>
      -- `delta` is moved on before the passes and after them; what was written does not depend on
      -- it.
      have hpasses : d ∈ (s.foldl (Encoding.pass basic m)
          { e with delta := e.delta + (m - n) * (e.handled + 1) }).output := h
      cases mem_output_foldl_pass hpasses with
      | inl hd => exact .inl hd
      | inr hd => exact .inr hd
    | inr h => exact .inr h

/-- An encoding is made of the ASCII characters of the text, of hyphens and of digits. -/
theorem mem_encode {s : List Char} {c : Char} (h : c ∈ encode s) :
    (c ∈ s ∧ c.toNat < 0x80) ∨ c = '-' ∨ isDigitChar c = true := by
  cases mem_output_encodeAbove h with
  | inr hdigit => exact .inr (.inr hdigit)
  | inl hhead =>
    -- What is written first are the ASCII characters of the text, and a hyphen if there are any.
    have hbasic : ∀ d ∈ s.filter (·.toNat < 0x80), d ∈ s ∧ d.toNat < 0x80 := fun d hd =>
      (List.mem_filter.1 hd).imp_right of_decide_eq_true
    dsimp only at hhead
    split at hhead
    · simp at hhead
    · simp only [List.mem_append, List.mem_singleton] at hhead
      cases hhead with
      | inl hc => exact .inl (hbasic c hc)
      | inr hc => exact .inr (.inl hc)

/-! ## Decoding -/

/-- Only lower-case letters and decimal digits are read as digits. -/
theorem isDigitChar_of_digit? {c : Char} {n : Nat} (h : digit? c = some n) :
    isDigitChar c = true := by
  have hle : ∀ a b : Char, a ≤ b ↔ a.toNat ≤ b.toNat := fun _ _ => Iff.rfl
  simp only [isDigitChar, Bool.or_eq_true, isLower_iff, isDigit_iff]
  simp only [digit?, hle, Char.reduceToNat] at h
  split at h
  · omega
  · split at h
    · omega
    · exact nomatch h

/-- What is read by the decoder is a digit, and what was decoded before stays. -/
theorem step_spec {d e : Decoding} {c : Char} (h : d.step c = some e) :
    isDigitChar c = true ∧ ∀ x ∈ d.output, x ∈ e.output := by
  unfold Decoding.step at h
  simp only [Option.bind_eq_bind, Option.bind_eq_some_iff] at h
  obtain ⟨value, hvalue, h⟩ := h
  refine ⟨isDigitChar_of_digit? hvalue, ?_⟩
  intro x hx
  split at h
  · -- Too large an index is refused.
    exact nomatch h
  · split at h
    · split at h
      · -- A character is put between two parts of the text, which are kept.
        obtain rfl := Option.some.inj h
        rw [← List.take_append_drop ((d.index + value * d.weight) % (d.output.length + 1))
          d.output, List.mem_append] at hx
        simp only [List.mem_append, List.mem_cons]
        cases hx with
        | inl hx => exact .inl hx
        | inr hx => exact .inr (.inr hx)
      · exact nomatch h
    · -- Another digit has to follow: nothing is put in yet.
      split at h
      · exact nomatch h
      · obtain rfl := Option.some.inj h
        exact hx

/-- Reading digits loses no character of the output. -/
theorem foldlM_step_spec {s : List Char} {d e : Decoding} (h : s.foldlM Decoding.step d = some e) :
    (∀ c ∈ s, isDigitChar c = true) ∧ ∀ x ∈ d.output, x ∈ e.output := by
  induction s generalizing d with
  | nil =>
    obtain rfl := Option.some.inj h
    exact ⟨by simp, fun x hx => hx⟩
  | cons c s ih =>
    rw [List.foldlM_cons, Option.bind_eq_bind, Option.bind_eq_some_iff] at h
    obtain ⟨f, hstep, hrest⟩ := h
    obtain ⟨hc, hkept⟩ := step_spec hstep
    obtain ⟨hs, hkept'⟩ := ih hrest
    exact ⟨List.forall_mem_cons.2 ⟨hc, hs⟩, fun x hx => hkept' x (hkept x hx)⟩

/-- Between the two parts of a text stands at most one character, a hyphen. -/
theorem mem_of_splitBasic {s : List Char} {c : Char} (h : c ∈ s) :
    c ∈ (splitBasic s).1 ∨ c = '-' ∨ c ∈ (splitBasic s).2 := by
  simp only [splitBasic]
  split
  · -- No hyphen: all of the text is the tail.
    exact .inr (.inr h)
  · -- From the end, the text is its tail and what the search for a hyphen stops at.
    have hsplit : s = (s.reverse.dropWhile (· != '-')).reverse ++
        (s.reverse.takeWhile (· != '-')).reverse := by
      rw [← List.reverse_append, List.takeWhile_append_dropWhile, List.reverse_reverse]
    generalize (s.reverse.takeWhile (· != '-')).reverse = tail at hsplit ⊢
    cases hrest : s.reverse.dropWhile (· != '-') with
    | nil =>
      rw [hrest] at hsplit
      exact .inr (.inr (by simpa [hsplit] using h))
    | cons a rest =>
      have ha : a = '-' := by
        have hne : s.reverse.dropWhile (· != '-') ≠ [] := by simp [hrest]
        simpa [hrest] using List.head_dropWhile_not (· != '-') hne
      rw [hrest, ha, List.reverse_cons, List.append_assoc, List.singleton_append] at hsplit
      have htake : s.take (s.length - tail.length - 1) = rest.reverse := by
        have hlength : s.length - tail.length - 1 = rest.reverse.length := by
          rw [hsplit, List.length_append, List.length_cons]
          omega
        rw [hlength, hsplit, List.take_left]
      rw [htake]
      rw [hsplit, List.mem_append, List.mem_cons] at h
      exact h

/-- A text that can be decoded is made of characters of what it decodes to, of hyphens and of
    digits. -/
theorem mem_of_decode? {s t : List Char} (h : decode? s = some t) {c : Char} (hc : c ∈ s) :
    c ∈ t ∨ c = '-' ∨ isDigitChar c = true := by
  simp only [decode?, Option.bind_eq_bind, Option.bind_eq_some_iff] at h
  obtain ⟨d, hfold, h⟩ := h
  split at h
  · -- The digits are the tail, and decoding keeps the characters in front of the hyphen.
    obtain rfl := Option.some.inj h
    obtain ⟨hdigits, hkept⟩ := foldlM_step_spec hfold
    cases mem_of_splitBasic hc with
    | inl hbasic => exact .inl (hkept c hbasic)
    | inr htail =>
      cases htail with
      | inl hhyphen => exact .inr (.inl hhyphen)
      | inr htail => exact .inr (.inr (hdigits c htail))
  · exact nomatch h

end HttpState.Url.Punycode
