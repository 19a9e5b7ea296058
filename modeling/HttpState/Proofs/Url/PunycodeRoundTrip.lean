import HttpState.Proofs.List
import HttpState.Proofs.Url.Punycode
import Mathlib.Algebra.Group.Nat.Defs

/-!
# Decoding undoes encoding

The encoder deals with the code points of a text one after the other, from the smallest one that is
not an ASCII character, and passes the whole text for each of them. It writes down how many steps
come before each character with the code point. The decoder takes that many steps, and is then
where the encoder is: it has put together the characters that the encoder has dealt with, and its
bias is that of the encoder. All that can go wrong is that a number is too large, and for a text of
up to 1000 characters that does not happen.

## Key definitions

- `Decoding.IsReading`: how large the numbers can be in the middle of a number
- `known`: the characters that the encoder has dealt with
- `Follows`: where the decoder is when the encoder passes a character

## Key results

- `foldlM_step_digitsFrom`: a number is read as it was written
- `Follows.foldl_pass`, `Follows.encodeAbove`: the decoder follows the encoder
- `decode?_encode`: a text that is not too long is decoded from its encoding
-/

namespace HttpState.Url.Punycode

/-! ## Biases -/

/-- Each division makes room for 36 more. -/
theorem adaptLoop_le {fuel delta k j : Nat} (h : delta < 456 * 35 ^ j) :
    adaptLoop fuel delta k ≤ k + 36 * j + 35 := by
  have hlast : 36 * delta / (delta + 38) ≤ 35 := by
    rw [Nat.div_le_iff_le_mul_add_pred (by omega)]
    omega
  induction fuel generalizing delta k j with
  | zero =>
    rw [adaptLoop]
    omega
  | succ fuel ih =>
    rw [adaptLoop]
    split
    · -- The loop divides only what is above 455, so `j` is not zero.
      cases j with
      | zero => omega
      | succ j =>
        -- One division by 35 takes one power of 35 off.
        have hdiv : delta / 35 < 456 * 35 ^ j := by
          rw [Nat.div_lt_iff_lt_mul (by omega), Nat.mul_assoc, ← Nat.pow_succ]
          exact h
        have := ih (k := k + 36) hdiv (by
          rw [Nat.div_le_iff_le_mul_add_pred (by omega)]
          omega)
        omega
    · omega

/-- The bias of a delta that fits in 31 bits is at most 215. -/
theorem adapt_le {delta count : Nat} {first : Bool} (h : delta < 0x80000000) :
    adapt delta count first ≤ 215 := by
  unfold adapt
  have hhalf : (if first then delta / 700 else delta / 2) ≤ delta / 2 := by
    split <;> omega
  generalize (if first then delta / 700 else delta / 2) = half at hhalf
  have hdiv : half / count ≤ half := Nat.div_le_self _ _
  -- Half of 2 ^ 31 is divided five times at most.
  have hpow : 456 * 35 ^ 5 = 23949975000 := by decide
  exact adaptLoop_le (j := 5) (by omega)

/-! ## Numbers -/

theorem digit?_digitChar {d : Nat} (h : d < 36) : digit? (digitChar d) = some d := by
  have hall : ∀ e : Fin 36, digit? (digitChar e.val) = some e.val := by decide
  exact hall ⟨d, h⟩

/-- The state of the decoder when a number has been read that makes `index` of the position. -/
def Decoding.insert? (d : Decoding) (index : Nat) : Option Decoding :=
  let count := d.output.length + 1
  let code := d.code + index / count
  if code.isValidChar then
    let position := index % count
    some {
      output := d.output.take position ++ Char.ofNat code :: d.output.drop position
      code := code
      index := position + 1
      bias := adapt (index - d.start) count (d.start == 0)
      start := position + 1
      weight := 1
      place := 36 }
  else none

/-- Reading a digit below the threshold puts a character in. -/
theorem step_last {d : Decoding} {value : Nat} (hvalue : value < threshold d.place d.bias)
    (hindex : d.index + value * d.weight < 0x100000000) :
    d.step (digitChar value) = d.insert? (d.index + value * d.weight) := by
  have := (threshold_bounds d.place d.bias).2
  simp only [Decoding.step, digit?_digitChar (show value < 36 by omega), Option.bind_eq_bind,
    Option.bind_some, ge_iff_le, if_neg (Nat.not_le.2 hindex), if_pos hvalue, Decoding.insert?]

/-- Reading any other digit goes on to the next place, with a larger weight. -/
theorem step_more {d : Decoding} {value : Nat} (hvalue : threshold d.place d.bias ≤ value)
    (hlt : value < 36) (hindex : d.index + value * d.weight < 0x100000000)
    (hweight : d.weight * (36 - threshold d.place d.bias) < 0x100000000) :
    d.step (digitChar value) = some { d with
      index := d.index + value * d.weight
      weight := d.weight * (36 - threshold d.place d.bias)
      place := d.place + 36 } := by
  simp only [Decoding.step, digit?_digitChar hlt, Option.bind_eq_bind, Option.bind_some, ge_iff_le,
    if_neg (Nat.not_le.2 hindex), if_neg (Nat.not_lt.2 hvalue), if_neg (Nat.not_le.2 hweight)]

/-- The weight of a digit: the `k`-th one has at most the weight 35 ^ k. -/
structure Decoding.IsReading (d : Decoding) (k : Nat) : Prop where
  place : d.place = 36 * (k + 1)
  weight : d.weight ≤ 35 ^ k
  bias : d.bias ≤ 215

/-- Where a number goes on, the weight of the next digit is not too large. The thresholds of the
    first five digits do not tell how large the number is, but 35 ^ 6 is below the limit; behind
    these, the threshold is 26. -/
theorem weight_lt {d : Decoding} {k q : Nat} (h : d.IsReading k)
    (hq : threshold d.place d.bias ≤ q) (hindex : d.index + q * d.weight < 0x100000000) :
    d.weight * (36 - threshold d.place d.bias) < 0x100000000 := by
  obtain ⟨hplace, hweight, hbias⟩ := h
  by_cases hfar : d.bias + 26 ≤ d.place
  · -- Far from the bias the weight grows ten times, and the index has counted 26 of it.
    have hthreshold : threshold d.place d.bias = 26 := by
      unfold threshold
      rw [if_neg (by omega), if_pos hfar]
    rw [hthreshold] at hq ⊢
    have : 26 * d.weight ≤ q * d.weight := Nat.mul_le_mul_right _ hq
    omega
  · -- Near the bias at most five digits have been read.
    have hk : k ≤ 5 := by omega
    have hpow : 35 ^ k ≤ 35 ^ 5 := Nat.pow_le_pow_right (by omega) hk
    have hpos := (threshold_bounds d.place d.bias).1
    have hmul : d.weight * (36 - threshold d.place d.bias) ≤ 35 ^ 5 * 35 :=
      Nat.mul_le_mul (Nat.le_trans hweight hpow) (by omega)
    have hlimit : 35 ^ 5 * 35 < 0x100000000 := by decide
    omega

/-- A number is read as it was written. -/
theorem foldlM_step_digitsFrom {d : Decoding} {fuel k q : Nat} (hfuel : q ≤ fuel)
    (hreading : d.IsReading k) (hindex : d.index + q * d.weight < 0x100000000) :
    (digitsFrom d.bias fuel d.place q).foldlM Decoding.step d =
      d.insert? (d.index + q * d.weight) := by
  induction fuel generalizing d k q with
  | zero =>
    obtain rfl : q = 0 := by omega
    -- Nothing is left to write, and zero is below every threshold.
    rw [digitsFrom, List.foldlM_cons, step_last _ hindex]
    · simp
    · exact (threshold_bounds _ _).1
  | succ fuel ih =>
    rw [digitsFrom]
    obtain ⟨hpos, hle⟩ := threshold_bounds d.place d.bias
    split
    · -- The last digit.
      rename_i hlast
      rw [List.foldlM_cons, step_last hlast hindex]
      simp
    · -- A digit with the rest behind it, which is read from the next place on.
      rename_i hmore
      generalize ht : threshold d.place d.bias = t at *
      have hdivmod := Nat.div_add_mod (q - t) (36 - t)
      have hmod : (q - t) % (36 - t) < 36 - t := Nat.mod_lt _ (by omega)
      generalize hvalue : t + (q - t) % (36 - t) = value
      generalize hrest : (q - t) / (36 - t) = rest at *
      -- What is left of the number counts as much as it did before.
      have hsum : value * d.weight + rest * (d.weight * (36 - t)) = q * d.weight := by
        have hq : q = value + rest * (36 - t) := by
          have := Nat.mul_comm (36 - t) rest
          omega
        rw [hq, Nat.add_mul, Nat.mul_assoc, Nat.mul_comm d.weight]
      have hweight := weight_lt hreading (by rw [ht]; omega) hindex
      rw [List.foldlM_cons, step_more (by rw [ht]; omega) (by omega) (by omega) hweight,
        Option.bind_eq_bind, Option.bind_some]
      have hreading' : Decoding.IsReading { d with
          index := d.index + value * d.weight
          weight := d.weight * (36 - threshold d.place d.bias)
          place := d.place + 36 } (k + 1) := by
        refine ⟨?_, ?_, hreading.bias⟩
        · have := hreading.place
          simp only
          omega
        · rw [Nat.pow_succ]
          exact Nat.mul_le_mul hreading.weight (by omega)
      rw [ht] at hreading' ⊢
      have hih := ih (q := rest) ?_ hreading' ?_
      · simp only at hih
        rw [hih, Decoding.insert?, Decoding.insert?]
        simp only [Nat.add_assoc, hsum]
      · have : rest ≤ q - t := hrest ▸ Nat.div_le_self _ _
        omega
      · simp only [Nat.add_assoc, hsum]
        exact hindex

/-! ## Characters -/

/-- The characters of a text up to a code point, at the beginning and in the rest of it: those that
    are known while the code point is dealt with, and the rest has not been passed. -/
def known (m : Nat) (passed rest : List Char) : List Char :=
  passed.filter (·.toNat ≤ m) ++ rest.filter (·.toNat < m)

section

variable {m : Nat} {passed rest : List Char} {c : Char}

/-- A character up to the code point is known once it is passed. -/
theorem filter_concat_of_le (hc : c.toNat ≤ m) :
    (passed ++ [c]).filter (·.toNat ≤ m) = passed.filter (·.toNat ≤ m) ++ [c] := by
  rw [List.filter_append, List.filter_cons_of_pos (by simpa using hc), List.filter_nil]

/-- A later character is not known once it is passed. -/
theorem filter_concat_of_lt (hc : m < c.toNat) :
    (passed ++ [c]).filter (·.toNat ≤ m) = passed.filter (·.toNat ≤ m) := by
  rw [List.filter_append, List.filter_cons_of_neg (by simpa using hc), List.filter_nil,
    List.append_nil]

/-- Passing a character of another code point makes none known. -/
theorem known_concat_of_ne (hc : c.toNat ≠ m) :
    known m (passed ++ [c]) rest = known m passed (c :: rest) := by
  rw [known, known]
  rcases Nat.lt_or_gt_of_ne hc with hlt | hlt
  · rw [filter_concat_of_le (Nat.le_of_lt hlt), List.filter_cons_of_pos (by simpa using hlt),
      List.append_assoc, List.singleton_append]
  · rw [filter_concat_of_lt hlt, List.filter_cons_of_neg (by simpa using Nat.le_of_lt hlt)]

/-- A character of the code point is not known before it is passed. -/
theorem known_cons_of_eq (hc : c.toNat = m) :
    known m passed (c :: rest) = passed.filter (·.toNat ≤ m) ++ rest.filter (·.toNat < m) := by
  rw [known, List.filter_cons_of_neg (by simpa using Nat.le_of_eq hc.symm)]

/-- Passing it makes it known. -/
theorem known_concat_of_eq (hc : c.toNat = m) :
    known m (passed ++ [c]) rest =
      passed.filter (·.toNat ≤ m) ++ c :: rest.filter (·.toNat < m) := by
  rw [known, filter_concat_of_le (Nat.le_of_eq hc), List.append_assoc, List.singleton_append]

end

/-- The decoder has read what the encoder has written, which passes the characters of a text while
    it deals with the code point `m`. Both count positions, the places between known characters,
    once for each code point: the encoder is ahead of the decoder by the steps that it has not
    written. -/
structure Follows (head : List Char) (first : Decoding) (basic : Nat) (passed rest : List Char)
    (m : Nat) (e : Encoding) (d : Decoding) : Prop where
  written : ∃ digits, e.output = head ++ digits ∧ digits.foldlM Decoding.step first = some d
  output : d.output = known m passed rest
  steps : d.code * (d.output.length + 1) + d.index + e.delta =
    m * (d.output.length + 1) + (passed.filter (·.toNat ≤ m)).length
  code_le : d.code ≤ m
  handled : e.handled = d.output.length
  bias : d.bias = e.bias
  reading : d.IsReading 0
  weight : d.weight = 1
  start : d.start = d.index
  basic_le : basic ≤ e.handled
  isFirst : e.handled = basic ↔ d.start = 0

section

variable {head : List Char} {first : Decoding} {basic m : Nat} {passed rest : List Char}
  {e : Encoding} {d : Decoding} {c : Char}

/-- A known character is a step. -/
theorem Follows.pass_known (h : Follows head first basic passed (c :: rest) m e d)
    (hc : c.toNat < m) :
    Follows head first basic (passed ++ [c]) rest m (e.pass basic m c) d := by
  have hpass : e.pass basic m c = { e with delta := e.delta + 1 } := by
    rw [Encoding.pass, if_pos hc]
  rw [hpass]
  refine { h with output := ?_, steps := ?_ }
  · rw [h.output, known_concat_of_ne (Nat.ne_of_lt hc)]
  · have := h.steps
    simp only [filter_concat_of_le (Nat.le_of_lt hc), List.length_append, List.length_singleton]
    omega

/-- A character that comes later is no step. -/
theorem Follows.pass_later (h : Follows head first basic passed (c :: rest) m e d)
    (hc : m < c.toNat) :
    Follows head first basic (passed ++ [c]) rest m (e.pass basic m c) d := by
  have hpass : e.pass basic m c = e := by
    rw [Encoding.pass, if_neg (by omega), if_neg (by omega)]
  rw [hpass]
  refine { h with output := ?_, steps := ?_ }
  · rw [h.output, known_concat_of_ne (Nat.ne_of_gt hc)]
  · rw [filter_concat_of_lt hc]
    exact h.steps

/-- The decoder when it has put a character with the code point `m` in its position, where the
    encoder was when it wrote the steps. -/
def Encoding.follower (e : Encoding) (basic m : Nat) (passed rest : List Char) (c : Char) :
    Decoding where
  output := known m (passed ++ [c]) rest
  code := m
  index := (passed.filter (·.toNat ≤ m)).length + 1
  bias := adapt e.delta (e.handled + 1) (e.handled == basic)
  start := (passed.filter (·.toNat ≤ m)).length + 1
  weight := 1
  place := 36

/-- What the decoder makes of the steps that the encoder writes at a character with the code point
    that is dealt with: this code point, and the position of the character among the known ones. -/
theorem Follows.insert? (h : Follows head first basic passed (c :: rest) m e d) (hc : c.toNat = m) :
    d.insert? (d.index + e.delta) = some (e.follower basic m passed rest c) := by
  have houtput : d.output = passed.filter (·.toNat ≤ m) ++ rest.filter (·.toNat < m) := by
    rw [h.output, known_cons_of_eq hc]
  have hlength := congrArg List.length houtput
  rw [List.length_append] at hlength
  -- The steps are whole rounds through the places between known characters, one for each code
  -- point, and then the way to the position: dividing by the number of places tells the two apart.
  generalize hposition : (passed.filter (·.toNat ≤ m)).length = position at *
  generalize hcount : d.output.length + 1 = count at *
  have hindex : d.index + e.delta = position + count * (m - d.code) := by
    have hsteps := h.steps
    rw [hcount, hposition] at hsteps
    have hmul : count * (m - d.code) = m * count - d.code * count := by
      rw [Nat.mul_sub, Nat.mul_comm count, Nat.mul_comm count]
    have hle : d.code * count ≤ m * count := Nat.mul_le_mul_right _ h.code_le
    omega
  have hlt : position < count := by omega
  have hdiv : d.code + (d.index + e.delta) / count = m := by
    rw [hindex, Nat.add_mul_div_left _ _ (by omega), Nat.div_eq_of_lt hlt]
    have := h.code_le
    omega
  have hmod : (d.index + e.delta) % count = position := by
    rw [hindex, Nat.add_mul_mod_self_left, Nat.mod_eq_of_lt hlt]
  have hvalid : m.isValidChar := by
    rw [← hc]
    exact c.valid
  have hfirst : (d.start == 0) = (e.handled == basic) := by
    rw [Bool.eq_iff_iff, beq_iff_eq, beq_iff_eq]
    exact h.isFirst.symm
  have hdelta : d.index + e.delta - d.start = e.delta := by
    have := h.start
    omega
  have hhandled : e.handled + 1 = count := by
    rw [h.handled, hcount]
  rw [Decoding.insert?, Encoding.follower]
  simp only [hcount, hdiv, hmod, hvalid, if_true, hdelta, hfirst, hhandled, hposition]
  rw [known_concat_of_eq hc, houtput, ← hposition, List.take_left, List.drop_left, ← hc,
    Char.ofNat_toNat]

/-- A text that is not too long never takes too many steps. -/
theorem Follows.index_add_delta_lt (h : Follows head first basic passed (c :: rest) m e d)
    (hc : c.toNat = m) (hlength : (passed ++ c :: rest).length ≤ 1000) :
    d.index + e.delta < 0x80000000 := by
  have hknown : d.output.length ≤ passed.length + rest.length := by
    rw [h.output, known_cons_of_eq hc, List.length_append]
    exact Nat.add_le_add (List.length_filter_le _ _) (List.length_filter_le _ _)
  have hpassed : (passed.filter (·.toNat ≤ m)).length ≤ d.output.length := by
    rw [h.output, known, List.length_append]
    omega
  have hm : m < 0x110000 := by
    rcases c.valid with hlt | ⟨-, hlt⟩
    · change c.toNat < 0xD800 at hlt
      omega
    · change c.toNat < 0x110000 at hlt
      omega
  rw [List.length_append, List.length_cons] at hlength
  have hmul : m * (d.output.length + 1) ≤ 0x110000 * 1000 := Nat.mul_le_mul (by omega) (by omega)
  have := h.steps
  omega

/-- A character with the code point that is dealt with is written, and read. -/
theorem Follows.pass_now (h : Follows head first basic passed (c :: rest) m e d)
    (hc : c.toNat = m) (hlength : (passed ++ c :: rest).length ≤ 1000) :
    ∃ d', Follows head first basic (passed ++ [c]) rest m (e.pass basic m c) d' := by
  -- The encoder writes the steps since the last character, and starts counting again.
  have hpass : e.pass basic m c =
      { output := e.output ++ digitsFrom e.bias e.delta 36 e.delta
        delta := 0
        bias := adapt e.delta (e.handled + 1) (e.handled == basic)
        handled := e.handled + 1 } := by
    rw [Encoding.pass, if_neg (by omega), if_pos hc]
  have hlimit := h.index_add_delta_lt hc hlength
  have hplace : d.place = 36 := h.reading.place
  obtain ⟨digits, hdigits, hfold⟩ := h.written
  -- The decoder reads them as one number, and puts the character in.
  have hread : (digitsFrom e.bias e.delta 36 e.delta).foldlM Decoding.step d =
      d.insert? (d.index + e.delta) := by
    have := foldlM_step_digitsFrom (d := d) (Nat.le_refl e.delta) h.reading
      (by rw [h.weight, Nat.mul_one]; omega)
    rwa [h.bias, hplace, h.weight, Nat.mul_one] at this
  -- One more character is known now.
  have hlen : (known m (passed ++ [c]) rest).length = d.output.length + 1 := by
    rw [h.output, known_concat_of_eq hc, known_cons_of_eq hc]
    simp only [List.length_append, List.length_cons]
    omega
  have hbasic := h.basic_le
  rw [hpass]
  refine ⟨e.follower basic m passed rest c, {
    written := ⟨digits ++ digitsFrom e.bias e.delta 36 e.delta, ?_, ?_⟩
    output := rfl
    steps := ?_
    code_le := Nat.le_refl m
    handled := ?_
    bias := rfl
    reading := ⟨rfl, Nat.le_refl 1, adapt_le (by omega)⟩
    weight := rfl
    start := rfl
    basic_le := ?_
    isFirst := ?_ }⟩
  · rw [hdigits, List.append_assoc]
  · rw [List.foldlM_append, hfold, Option.bind_eq_bind, Option.bind_some, hread, h.insert? hc]
  · simp only [Encoding.follower, filter_concat_of_le (Nat.le_of_eq hc), List.length_append,
      List.length_singleton, Nat.add_zero]
  · simp only [Encoding.follower, hlen, h.handled]
  · simp only
    omega
  · simp only [Encoding.follower]
    omega

/-- The decoder follows the encoder through the whole text. -/
theorem Follows.foldl_pass (h : Follows head first basic passed rest m e d)
    (hlength : (passed ++ rest).length ≤ 1000) :
    ∃ d', Follows head first basic (passed ++ rest) [] m (rest.foldl (Encoding.pass basic m) e)
      d' := by
  induction rest generalizing passed e d with
  | nil => exact ⟨d, by rwa [List.append_nil, List.foldl_nil]⟩
  | cons c rest ih =>
    have happend : passed ++ c :: rest = passed ++ [c] ++ rest := by simp
    have hnext : ∃ d', Follows head first basic (passed ++ [c]) rest m (e.pass basic m c) d' := by
      rcases Nat.lt_trichotomy c.toNat m with hc | hc | hc
      · -- A known character: one step.
        exact ⟨d, h.pass_known hc⟩
      · -- A character of the code point: the steps are written and read.
        exact h.pass_now hc hlength
      · -- A later character: no step.
        exact ⟨d, h.pass_later hc⟩
    obtain ⟨d', hd'⟩ := hnext
    rw [happend] at hlength ⊢
    exact ih hd' hlength

/-- The encoder goes on to a code point, if there are none in between. -/
theorem Follows.skip {s : List Char} {n : Nat} (h : Follows head first basic [] s n e d)
    (hle : n ≤ m) (hbetween : s.filter (·.toNat < n) = s.filter (·.toNat < m)) :
    Follows head first basic [] s m { e with delta := e.delta + (m - n) * (e.handled + 1) } d := by
  refine { h with output := ?_, steps := ?_, code_le := Nat.le_trans h.code_le hle }
  · -- No character of the text lies between the two code points.
    rw [h.output, known, known, hbetween]
    rfl
  · -- The steps skipped are whole rounds.
    have hsteps := h.steps
    have hmul : (m - n) * (e.handled + 1) =
        m * (d.output.length + 1) - n * (d.output.length + 1) := by
      rw [h.handled, Nat.sub_mul]
    have hmulLe : n * (d.output.length + 1) ≤ m * (d.output.length + 1) :=
      Nat.mul_le_mul_right _ hle
    simp only [List.filter_nil, List.length_nil] at hsteps ⊢
    omega

/-- The encoder goes back to the beginning of the text, which is one more step. -/
theorem Follows.next {s : List Char} (h : Follows head first basic s [] m e d) :
    Follows head first basic [] s (m + 1) { e with delta := e.delta + 1 } d := by
  have hfilter : s.filter (·.toNat ≤ m) = s.filter (·.toNat < m + 1) :=
    List.filter_congr fun c _ => by rw [decide_eq_decide]; omega
  have houtput : d.output = s.filter (·.toNat < m + 1) := by
    rw [h.output, known, hfilter, List.filter_nil, List.append_nil]
  refine { h with output := houtput, steps := ?_, code_le := Nat.le_succ_of_le h.code_le }
  have hsteps := h.steps
  rw [hfilter, ← houtput] at hsteps
  simp only [List.filter_nil, List.length_nil, Nat.add_mul]
  omega

end

/-- Between a code point and the next one that is dealt with, the text has none. -/
theorem filter_lt_of_next {s : List Char} {n m : Nat} {ms : List Nat} (hle : n ≤ m)
    (hms : ∀ k ∈ ms, m < k) (hs : ∀ c ∈ s, n ≤ c.toNat → c.toNat ∈ m :: ms) :
    s.filter (·.toNat < n) = s.filter (·.toNat < m) := by
  apply List.filter_congr
  intro c hc
  rw [decide_eq_decide]
  constructor
  · -- Every character below `n` is below `m`.
    omega
  · -- A character from `n` up is `m` or one of those behind it.
    intro hlt
    by_contra hnot
    rcases List.mem_cons.1 (hs c hc (by omega)) with heq | hmem
    · omega
    · have := hms _ hmem
      omega

/-- The decoder follows the encoder through all code points. -/
theorem Follows.encodeAbove {head s : List Char} {first : Decoding} {basic n : Nat} {ms : List Nat}
    {e : Encoding} {d : Decoding} (h : Follows head first basic [] s n e d)
    (hlength : s.length ≤ 1000) (hpairwise : ms.Pairwise (· < ·)) (hms : ∀ m ∈ ms, n ≤ m)
    (hs : ∀ c ∈ s, n ≤ c.toNat → c.toNat ∈ ms) :
    ∃ digits d', (Punycode.encodeAbove s basic n ms e).output = head ++ digits ∧
      digits.foldlM Decoding.step first = some d' ∧ d'.output = s ∧ d'.place = 36 := by
  -- One code point after the other: the encoder goes on to it, passes the text, and starts again.
  induction ms generalizing n e d with
  | nil =>
    -- Nothing is above `n`, so the decoder has the whole text.
    obtain ⟨digits, hdigits, hfold⟩ := h.written
    refine ⟨digits, d, hdigits, hfold, ?_, h.reading.place⟩
    rw [h.output, known, List.filter_nil, List.nil_append, List.filter_eq_self]
    intro c hc
    have := fun hle => List.not_mem_nil (hs c hc hle)
    simpa using this
  | cons m ms ih =>
    rw [List.pairwise_cons] at hpairwise
    rw [List.forall_mem_cons] at hms
    have hskip := h.skip hms.1 (filter_lt_of_next hms.1 hpairwise.1 hs)
    obtain ⟨d', hpassed⟩ := hskip.foldl_pass hlength
    rw [List.nil_append] at hpassed
    rw [Punycode.encodeAbove]
    exact ih hpassed.next hpairwise.2 hpairwise.1 fun c hc hle =>
      (List.mem_cons.1 (hs c hc (by omega))).resolve_left (by omega)

/-! ## Texts -/

/-- The code points that are encoded: those of the text above ASCII. -/
theorem mem_codePointsAbove {s : List Char} {n : Nat} :
    n ∈ codePointsAbove s ↔ 0x80 ≤ n ∧ ∃ c ∈ s, c.toNat = n := by
  rw [codePointsAbove, List.mem_mergeSort, List.mem_eraseDups, List.mem_filter, List.mem_map,
    decide_eq_true_eq, and_comm]

/-- They are in order and each of them occurs once. -/
theorem pairwise_codePointsAbove (s : List Char) : (codePointsAbove s).Pairwise (· < ·) := by
  have hsorted := @List.pairwise_mergeSort Nat (fun a b => decide (a ≤ b))
    (fun a b c hab hbc => by simp only [decide_eq_true_eq] at *; omega)
    (fun a b => by simp only [Bool.or_eq_true, decide_eq_true_eq]; omega)
    ((s.map Char.toNat).filter (0x80 ≤ ·)).eraseDups
  have hnodup : (codePointsAbove s).Nodup :=
    (List.mergeSort_perm _ _).nodup_iff.2 (List.nodup_eraseDups _)
  refine (hsorted.and hnodup).imp ?_
  rintro a b ⟨hle, hne⟩
  have := of_decide_eq_true hle
  omega

/-- An encoding is split into the ASCII characters of the text and the digits. -/
theorem splitBasic_append {basic digits : List Char} (h : ∀ c ∈ digits, c ≠ '-') :
    splitBasic ((if basic.isEmpty then [] else basic ++ ['-']) ++ digits) = (basic, digits) := by
  have hall : ∀ c ∈ digits.reverse, (c != '-') = true := fun c hc =>
    bne_iff_ne.2 (h c (List.mem_reverse.1 hc))
  cases hbasic : basic.isEmpty with
  | true =>
    -- No ASCII characters, so no hyphen is written.
    obtain rfl := List.isEmpty_iff.1 hbasic
    have htail : (digits.reverse.takeWhile (· != '-')).reverse = digits := by
      rw [← List.append_nil digits.reverse, (List.span_append hall (by simp)).1,
        List.reverse_reverse]
    simp only [splitBasic, if_true, List.nil_append, htail, Nat.sub_self, Nat.zero_sub,
      List.take_zero, List.isEmpty_nil]
  | false =>
    -- The hyphen behind the ASCII characters is the last one.
    have htail : ((basic ++ ['-'] ++ digits).reverse.takeWhile (· != '-')).reverse = digits := by
      rw [List.reverse_append, List.reverse_append, List.reverse_singleton, List.singleton_append,
        (List.span_append hall (by simp)).1, List.reverse_reverse]
    have htake : (basic ++ ['-'] ++ digits).take
        ((basic ++ ['-'] ++ digits).length - digits.length - 1) = basic := by
      rw [List.append_assoc]
      exact List.take_left' (by simp only [List.length_append, List.length_singleton]; omega)
    simp only [splitBasic, Bool.false_eq_true, if_false, htail, htake, hbasic]

/-- A text is decoded from its encoding if it is not too long. -/
theorem decode?_encode {s : List Char} (h : s.length ≤ 1000) : decode? (encode s) = some s := by
  generalize hbasic : s.filter (·.toNat < 0x80) = basic
  generalize hhead : (if basic.isEmpty then [] else basic ++ ['-']) = head
  -- Encoder and decoder start with the ASCII characters.
  have hstart : Follows head ⟨basic, 0x80, 0, 72, 0, 1, 36⟩ basic.length [] s 0x80
      ⟨head, 0, 72, basic.length⟩ ⟨basic, 0x80, 0, 72, 0, 1, 36⟩ := {
    written := ⟨[], by simp, rfl⟩
    output := by rw [known, hbasic]; rfl
    steps := by simp
    code_le := Nat.le_refl _
    handled := rfl
    bias := rfl
    reading := ⟨rfl, Nat.le_refl 1, (by decide : 72 ≤ 215)⟩
    weight := rfl
    start := rfl
    basic_le := Nat.le_refl _
    isFirst := by simp }
  obtain ⟨digits, d, hencode, hfold, houtput, hplace⟩ :=
    hstart.encodeAbove h (pairwise_codePointsAbove s) (fun m hm => (mem_codePointsAbove.1 hm).1)
      fun c hc hle => mem_codePointsAbove.2 ⟨hle, c, hc, rfl⟩
  -- No hyphen is among the digits, so the text is split where it was put together.
  have hdigits : ∀ c ∈ digits, c ≠ '-' := by
    rintro c hc rfl
    exact absurd ((foldlM_step_spec hfold).1 _ hc) (by decide)
  have hsplit : splitBasic (encode s) = (basic, digits) := by
    rw [← splitBasic_append hdigits, hhead, ← hencode, encode, hbasic, hhead]
  rw [decode?, hsplit]
  simp only [hfold, Option.bind_eq_bind, Option.bind_some, hplace, houtput, if_true]

end HttpState.Url.Punycode
