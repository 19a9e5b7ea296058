import HttpState.Time.Rfc3339
import HttpState.Proofs.List
import HttpState.Proofs.Text.Scan
import HttpState.Proofs.Time.Calendar

/-!
# Reading RFC 3339 text that was written

A timestamp that has an RFC 3339 text is read back from it, to the nanosecond and with its offset.

## Key results

- `readFraction_fractionText`, `readOffset_offsetText`: the two parts of variable length
- `ofLocal_date`: a timestamp is what its own clock shows
- `ofRfc3339?_of_toRfc3339?`: the whole text
-/

namespace HttpState.Time.Timestamp

open HttpState.Text

/-! ## Fractions of a second -/

/-- A fraction counts as if it had nine digits. -/
theorem fractionNanos_of_append_replicate {ds : List Char} {k n : Nat} (hn : n < powerOfTen 9)
    (h : padded 9 n = ds ++ List.replicate k '0') : fractionNanos ds = n := by
  have hlen := congrArg List.length h
  rw [length_padded, List.length_append, List.length_replicate] at hlen
  -- The zeros that are filled up are those that were left out.
  have htake : (ds ++ List.replicate 9 '0').take 9 = padded 9 n := by
    rw [List.take_append, List.take_of_length_le (by omega), List.take_replicate, h,
      show min (9 - ds.length) 9 = k by omega]
  rw [fractionNanos, htake, decimal_padded hn]

/-- A fraction is read up to where its digits end. -/
theorem readFraction_fractionText {n : Nat} (hn : n < powerOfTen 9) {s : List Char}
    (hs : ∀ c, s.head? = some c → c.isDigit = false ∧ c ≠ '.') :
    readFraction (fractionText n ++ s) = some (n, s) := by
  -- No fraction is written, and none is read as no dot follows.
  by_cases hzero : n = 0
  · rw [fractionText, if_pos hzero, List.nil_append, hzero]
    unfold readFraction
    split
    · exact absurd rfl (hs '.' rfl).2
    · rfl
  · -- Not all nine digits are zeros, so some are left of them.
    obtain ⟨k, hk⟩ := dropEndWhile_append_replicate '0' (padded 9 n)
    obtain ⟨ds, hds⟩ : ∃ ds, dropEndWhile (· == '0') (padded 9 n) = ds := ⟨_, rfl⟩
    rw [hds] at hk
    have hnanos := fractionNanos_of_append_replicate hn hk
    have hdigits : ∀ c ∈ ds, c.isDigit = true := by
      intro c hc
      have hmem : c ∈ padded 9 n := hk ▸ List.mem_append_left _ hc
      exact isDigit_of_mem_padded hmem
    have hne : ds ≠ [] := by
      rintro rfl
      exact hzero hnanos.symm
    obtain ⟨htake, hdrop⟩ := List.span_append hdigits fun c hc => (hs c hc).1
    have htext : fractionText n = '.' :: ds := by
      rw [fractionText, if_neg hzero, ← hds]
      rfl
    rw [htext, List.cons_append]
    simp [readFraction, htake, hdrop, hne, hnanos]

/-! ## Offsets -/

/-- An offset is read back from its sign, its hours and its minutes. -/
theorem readOffset_sign {c : Char} (hc : c = '+' ∨ c = '-') {hours minutes : Nat}
    (hh : hours ≤ 23) (hm : minutes ≤ 59) :
    readOffset (c :: (padded 2 hours ++ ':' :: padded 2 minutes)) =
      some (if c = '-' then -(((hours * 60 + minutes : Nat) : Int) * 60)
        else ((hours * 60 + minutes : Nat) : Int) * 60) := by
  have hhours : hours < powerOfTen 2 := Nat.lt_of_le_of_lt hh (by decide)
  have hminutes : digits 2 (padded 2 minutes ++ []) = some (minutes, []) :=
    digits_padded [] (Nat.lt_of_le_of_lt hm (by decide))
  rw [List.append_nil] at hminutes
  rcases hc with rfl | rfl
  all_goals
    refine Option.bind_eq_some_iff.2 ⟨_, digits_padded _ hhours, ?_⟩
    refine Option.bind_eq_some_iff.2 ⟨_, rfl, ?_⟩
    refine Option.bind_eq_some_iff.2 ⟨_, hminutes, ?_⟩
    show (if _ ∧ hours ≤ 23 ∧ minutes ≤ 59 then _ else none) = _
    rw [if_pos ⟨rfl, hh, hm⟩]

/-- An offset of whole minutes below a day is read back. -/
theorem readOffset_offsetText {offset : Int} (hminutes : offset % 60 = 0)
    (hday : offset.natAbs < 86400) : readOffset (offsetText offset) = some offset := by
  by_cases hzero : offset = 0
  · rw [hzero]
    rfl
  · -- Whole minutes below a day make at most 23 hours and 59 minutes.
    have hh : offset.natAbs / 60 / 60 ≤ 23 := by omega
    have hm : offset.natAbs / 60 % 60 ≤ 59 := by omega
    rw [offsetText, if_neg hzero]
    -- West of Greenwich, written with a minus.
    by_cases hneg : offset < 0
    · simp only [hneg, if_true, List.cons_append]
      rw [readOffset_sign (.inr rfl) hh hm, if_pos rfl, Option.some.injEq]
      omega
    · -- East of Greenwich, written with a plus.
      simp only [hneg, if_false, List.cons_append]
      rw [readOffset_sign (.inl rfl) hh hm, if_neg (by decide), Option.some.injEq]
      omega

/-- An offset does not go on with a fraction. -/
theorem head?_offsetText (offset : Int) :
    ∀ c, (offsetText offset).head? = some c → c.isDigit = false ∧ c ≠ '.' := by
  intro c hc
  unfold offsetText at hc
  split at hc
  · cases hc
    decide
  · simp only [List.cons_append, List.head?_cons, Option.some.injEq] at hc
    subst hc
    split <;> decide

/-! ## Timestamps -/

/-- A timestamp is what its own clock shows: its date, second of the day, fraction and offset. -/
theorem ofLocal_date (t : Timestamp) :
    ofLocal t.date t.secondOfDay t.subsecond t.offset = t := by
  have hday : t.date.dayNumber = t.localSeconds / secondsPerDay := Date.dayNumber_ofDayNumber _
  have hnanos : (t.date.dayNumber * secondsPerDay + t.secondOfDay - t.offset) * nanosPerSecond +
      t.subsecond = t.nanos := by
    rw [hday]
    simp only [secondOfDay, subsecond, localSeconds, seconds, secondsPerDay, nanosPerSecond]
    omega
  rw [ofLocal, hnanos]

/-- The clock time of a timestamp is within one day. -/
theorem secondOfDay_lt (t : Timestamp) : t.secondOfDay < 86400 := by
  simp only [secondOfDay, secondsPerDay]
  omega

/-- The fraction of a second has nine digits. -/
theorem subsecond_lt (t : Timestamp) : t.subsecond < powerOfTen 9 := by
  have h : t.subsecond < 1000000000 := by
    simp only [subsecond, nanosPerSecond]
    omega
  exact h

/-- The month and the day of a date have at most two digits. -/
theorem date_bounds (t : Timestamp) : t.date.month ≤ 12 ∧ t.date.day ≤ 31 := by
  have hof : Date.of? t.date.year t.date.month t.date.day = some t.date := Date.of?_ofDayNumber _
  unfold Date.of? at hof
  split at hof
  · rename_i h
    obtain ⟨_, hmonth, _, hday⟩ := h
    refine ⟨hmonth, Nat.le_trans hday ?_⟩
    unfold daysInMonth
    split <;> split <;> decide
  · exact nomatch hof

/-- A date and a time of the day that are written with all their digits are read back, field by
    field. -/
theorem ofRfc3339?_of_fields {date : Date} {year hour minute second subsecond : Nat} {offset : Int}
    {s : List Char} (hyear : year ≤ 9999) (hmonth : date.month ≤ 12) (hday : date.day ≤ 31)
    (hhour : hour ≤ 23) (hminute : minute ≤ 59) (hsecond : second ≤ 59)
    (hdate : Date.of? year date.month date.day = some date)
    (hfraction : readFraction s = some (subsecond, offsetText offset))
    (hoffset : readOffset (offsetText offset) = some offset) :
    ofRfc3339? (padded 4 year ++ '-' :: (padded 2 date.month ++ '-' :: (padded 2 date.day ++
      'T' :: (padded 2 hour ++ ':' :: (padded 2 minute ++ ':' :: (padded 2 second ++ s)))))) =
        some (ofLocal date ((hour * 60 + minute) * 60 + second) subsecond offset) := by
  have hpow4 : year < powerOfTen 4 := Nat.lt_of_le_of_lt hyear (by decide)
  have hpow2 : ∀ {n : Nat}, n ≤ 59 → n < powerOfTen 2 := fun h => Nat.lt_of_le_of_lt h (by decide)
  unfold ofRfc3339?
  -- Each field is read with what separates it from the next one.
  refine Option.bind_eq_some_iff.2 ⟨_, digits_padded _ hpow4, ?_⟩
  refine Option.bind_eq_some_iff.2 ⟨_, rfl, ?_⟩
  refine Option.bind_eq_some_iff.2 ⟨_, digits_padded _ (hpow2 (by omega)), ?_⟩
  refine Option.bind_eq_some_iff.2 ⟨_, rfl, ?_⟩
  refine Option.bind_eq_some_iff.2 ⟨_, digits_padded _ (hpow2 (by omega)), ?_⟩
  refine Option.bind_eq_some_iff.2 ⟨_, rfl, ?_⟩
  refine Option.bind_eq_some_iff.2 ⟨_, digits_padded _ (hpow2 (by omega)), ?_⟩
  refine Option.bind_eq_some_iff.2 ⟨_, rfl, ?_⟩
  refine Option.bind_eq_some_iff.2 ⟨_, digits_padded _ (hpow2 hminute), ?_⟩
  refine Option.bind_eq_some_iff.2 ⟨_, rfl, ?_⟩
  refine Option.bind_eq_some_iff.2 ⟨_, digits_padded _ (hpow2 hsecond), ?_⟩
  refine Option.bind_eq_some_iff.2 ⟨_, hfraction, ?_⟩
  refine Option.bind_eq_some_iff.2 ⟨_, hoffset, ?_⟩
  refine Option.bind_eq_some_iff.2 ⟨_, hdate, ?_⟩
  -- The clock shows no leap second.
  show (if _ then if second = 60 then _ else _ else none) = _
  rw [if_pos ⟨by decide, hhour, hminute, by omega⟩, if_neg (by omega)]

/-- A timestamp is read back from its RFC 3339 text. -/
theorem ofRfc3339?_of_toRfc3339? {t : Timestamp} {s : List Char} (h : t.toRfc3339? = some s) :
    ofRfc3339? s = some t := by
  unfold toRfc3339? at h
  split at h
  · rename_i hhas
    simp only [hasRfc3339, Bool.and_eq_true, decide_eq_true_eq, beq_iff_eq] at hhas
    obtain ⟨⟨⟨hyear0, hyear1⟩, hminutes⟩, hoffset⟩ := hhas
    obtain ⟨hmonth, hday⟩ := date_bounds t
    have hsecond := secondOfDay_lt t
    have hdate : Date.of? (t.date.year.toNat : Int) t.date.month t.date.day = some t.date := by
      rw [Int.toNat_of_nonneg hyear0]
      exact Date.of?_ofDayNumber _
    have hfields := ofRfc3339?_of_fields (by omega) hmonth hday
      (show t.secondOfDay / 3600 ≤ 23 by omega) (show t.secondOfDay / 60 % 60 ≤ 59 by omega)
      (show t.secondOfDay % 60 ≤ 59 by omega) hdate
      (readFraction_fractionText (subsecond_lt t) (head?_offsetText t.offset))
      (readOffset_offsetText hminutes hoffset)
    have hclock : (t.secondOfDay / 3600 * 60 + t.secondOfDay / 60 % 60) * 60 +
        t.secondOfDay % 60 = t.secondOfDay := by omega
    rw [hclock, ofLocal_date] at hfields
    rw [← Option.some.inj h, rfc3339]
    simp only [List.append_assoc, List.cons_append]
    exact hfields
  · -- No text was written, against `h`.
    exact nomatch h

end HttpState.Time.Timestamp
