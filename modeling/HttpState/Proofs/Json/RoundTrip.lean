import HttpState.Proofs.Json.Text
import HttpState.Proofs.List

/-!
# Reading JSON that was written

A value that is written on several lines is read back, if it is one that records are made of: no
numbers but natural ones, and no strings that denote no text.

The readers take a bound on the number of calls on the way down. What is read here is shorter than
the bound at every call, so the bound that `parse?` computes from the length of the text is enough.

## Key results

- `readNumber_append`: natural numbers are read up to where they end
- `readValue_prettyAt`: values, inside any number of open arrays and objects
- `parse?_pretty`: whole texts
-/

namespace HttpState.Json

open HttpState.Text

/-! ## Values that are read back -/

/-- The digits of a natural number, without needless zeros in front. -/
def IsNatural (ds : List Char) : Prop :=
  ds ≠ [] ∧ (∀ c ∈ ds, c.isDigit = true) ∧ (ds.head? = some '0' → ds = ['0'])

mutual

/-- Values that records are made of. -/
def IsPlain : Json → Prop
  | .null => True
  | .bool _ => True
  | .number ds => IsNatural ds
  | .string t => t.isSome = true
  | .array xs => IsPlainItems xs
  | .object ms => IsPlainMembers ms

/-- Items all of which are plain. -/
def IsPlainItems : List Json → Prop
  | [] => True
  | x :: xs => IsPlain x ∧ IsPlainItems xs

/-- Members all of which are plain. -/
def IsPlainMembers : List (Option (List Char) × Json) → Prop
  | [] => True
  | (k, v) :: ms => k.isSome = true ∧ IsPlain v ∧ IsPlainMembers ms

end

/-- Plain items are items each of which is plain. -/
theorem isPlainItems_iff {xs : List Json} : IsPlainItems xs ↔ ∀ x ∈ xs, IsPlain x := by
  induction xs with
  | nil => simp [IsPlainItems]
  | cons x xs ih => simp [IsPlainItems, ih]

/-- An object is plain if all its values are. -/
theorem isPlain_ofMembers {ms : List (String × Json)} :
    IsPlain (ofMembers ms) ↔ ∀ m ∈ ms, IsPlain m.2 := by
  simp only [ofMembers, IsPlain]
  induction ms with
  | nil => simp [IsPlainMembers]
  | cons m ms ih => simp [IsPlainMembers, ih]

/-! ## Numbers -/

/-- What follows a number does not go on with it. -/
def EndsNumber (s : List Char) : Prop :=
  ∀ c, s.head? = some c → c.isDigit = false ∧ c ≠ '.' ∧ c ≠ 'e' ∧ c ≠ 'E'

/-- The end of the text ends a number. -/
theorem endsNumber_nil : EndsNumber [] := by
  intro c hc
  exact absurd hc (by simp)

/-- So does any character that cannot belong to one. -/
theorem endsNumber_cons {c : Char} (h : c.isDigit = false ∧ c ≠ '.' ∧ c ≠ 'e' ∧ c ≠ 'E')
    (s : List Char) : EndsNumber (c :: s) := by
  intro d hd
  rw [List.head?_cons, Option.some.injEq] at hd
  exact hd ▸ h

/-- Digits are read up to where they end. -/
theorem readDigits_append {ds s : List Char} (hne : ds ≠ []) (hds : ∀ c ∈ ds, c.isDigit = true)
    (hs : EndsNumber s) : readDigits (ds ++ s) = some (ds, s) := by
  obtain ⟨htake, hdrop⟩ := List.span_append hds fun c hc => (hs c hc).1
  unfold readDigits
  rw [htake, hdrop]
  simp [hne]

/-- No fraction follows where the number ends. -/
theorem readFraction_of_endsNumber {s : List Char} (hs : EndsNumber s) :
    readFraction s = some ([], s) := by
  unfold readFraction
  split
  · exact absurd rfl (hs '.' rfl).2.1
  · rfl

/-- No exponent follows where the number ends. -/
theorem readExponent_of_endsNumber {s : List Char} (hs : EndsNumber s) :
    readExponent s = some ([], s) := by
  unfold readExponent
  split
  · rename_i e r
    rw [if_neg]
    -- Neither letter of an exponent can follow.
    rintro (rfl | rfl)
    · exact absurd rfl (hs 'e' rfl).2.2.1
    · exact absurd rfl (hs 'E' rfl).2.2.2
  · rfl

/-- The digits of a natural number are read up to its end. -/
theorem readInteger_append {ds s : List Char} (hds : IsNatural ds) (hs : EndsNumber s) :
    readInteger (ds ++ s) = some (ds, s) := by
  obtain ⟨hne, hdigits, hzero⟩ := hds
  unfold readInteger
  split
  · rename_i r heq
    -- The number begins with a zero, so it is zero.
    have hhead : ds.head? = some '0' := by
      cases ds with
      | nil => exact absurd rfl hne
      | cons d ds => rw [List.head?_cons, (List.cons.inj heq).1]
    rw [hzero hhead] at heq ⊢
    have hr : r = s := (List.cons.inj heq).2.symm
    rw [hr]
    cases s with
    | nil => rfl
    | cons c s => simp [(hs c rfl).1]
  · exact readDigits_append hne hdigits hs

/-- A natural number is read up to where it ends. -/
theorem readNumber_append {ds s : List Char} (hds : IsNatural ds) (hs : EndsNumber s) :
    readNumber (ds ++ s) = some (ds, s) := by
  have hunsigned : readUnsigned (ds ++ s) = some (ds, s) := by
    simp [readUnsigned, readInteger_append hds hs, readFraction_of_endsNumber hs,
      readExponent_of_endsNumber hs]
  unfold readNumber
  split
  · -- The number has no sign.
    rename_i r heq
    have hminus : '-' ∈ ds := by
      cases ds with
      | nil => exact absurd rfl hds.1
      | cons d ds => simp [(List.cons.inj heq).1]
    exact absurd (hds.2.1 '-' hminus) (by decide)
  · exact hunsigned

/-! ## Blanks -/

/-- White space ends at any other character. -/
theorem skipSpace_cons {c : Char} (h : isSpace c = false) (s : List Char) :
    skipSpace (c :: s) = c :: s := by
  rw [skipSpace, List.dropWhile_cons, h]
  rfl

/-- A line break and the spaces behind it are skipped. -/
theorem skipSpace_newline (level : Nat) (s : List Char) :
    skipSpace (newline level ++ s) = skipSpace s := by
  have hspace : ∀ c ∈ newline level, isSpace c = true := by
    intro c hc
    rcases List.mem_cons.1 hc with rfl | hc
    · rfl
    · rw [(List.mem_replicate.1 hc).2]
      rfl
  rw [skipSpace, List.dropWhile_append_of_pos hspace]
  rfl

/-- The text of a plain value does not begin with a blank, nor with the end of an array. -/
theorem exists_cons_prettyAt (level : Nat) {j : Json} (hj : j.IsPlain) :
    ∃ c t, prettyAt level j = c :: t ∧ isSpace c = false ∧ c ≠ ']' := by
  have hdigit : ∀ c : Char, c.isDigit = true → isSpace c = false ∧ c ≠ ']' := by
    intro c hc
    refine ⟨?_, ?_⟩
    · simp only [isSpace, Bool.or_eq_false_iff, beq_eq_false_iff_ne, ne_eq]
      refine ⟨⟨⟨?_, ?_⟩, ?_⟩, ?_⟩ <;> rintro rfl <;> exact absurd hc (by decide)
    · rintro rfl
      exact absurd hc (by decide)
  -- Each kind of value begins with a character of its own.
  cases j with
  | null => exact ⟨'n', _, rfl, by decide, by decide⟩
  | bool b => cases b <;> exact ⟨_, _, rfl, by decide, by decide⟩
  | number ds =>
    obtain ⟨hne, hdigits, _⟩ := hj
    cases ds with
    | nil => exact absurd rfl hne
    | cons d ds => exact ⟨d, ds, rfl, hdigit d (hdigits d (by simp))⟩
  | string t =>
    cases t with
    | none => exact absurd hj (by simp [IsPlain])
    | some t => exact ⟨'"', _, rfl, by decide, by decide⟩
  | array xs => cases xs <;> exact ⟨'[', _, rfl, by decide, by decide⟩
  | object ms => cases ms <;> exact ⟨'\x7b', _, rfl, by decide, by decide⟩

/-- The text of a plain value begins with no white space. -/
theorem skipSpace_prettyAt (level : Nat) {j : Json} (hj : j.IsPlain) (s : List Char) :
    skipSpace (prettyAt level j ++ s) = prettyAt level j ++ s := by
  obtain ⟨c, t, heq, hspace, _⟩ := exists_cons_prettyAt level hj
  rw [heq, List.cons_append, skipSpace_cons hspace]

/-! ## Values -/

/-- What follows a value on its line does not go on with a number. -/
theorem endsNumber_prettyItems (level : Nat) (xs : List Json) (s : List Char) :
    EndsNumber (prettyItems level xs ++ s) := by
  cases xs <;> exact endsNumber_cons (by decide) _

/-- What follows a member is no part of a number. -/
theorem endsNumber_prettyMembers (level : Nat) (ms : List (Option (List Char) × Json))
    (s : List Char) : EndsNumber (prettyMembers level ms ++ s) := by
  cases ms <;> exact endsNumber_cons (by decide) _

/-- A text that begins with a digit is read as a number. -/
theorem readValue_of_isDigit {n : Nat} {c : Char} {s t : List Char} (hc : c.isDigit = true)
    (hs : skipSpace s = c :: t) :
    readValue (n + 1) s = (readNumber (c :: t)).map fun (ds, r) => (.number ds, r) := by
  have hne : ∀ d : Char, d.isDigit = false → c ≠ d := by
    rintro d hd rfl
    rw [hc] at hd
    exact absurd hd (by decide)
  -- Every other kind of value begins with a character that is no digit.
  rw [readValue, hs]
  split
  · rename_i heq
    exact absurd (List.cons.inj heq).1 (hne 'n' (by decide))
  · rename_i heq
    exact absurd (List.cons.inj heq).1 (hne 't' (by decide))
  · rename_i heq
    exact absurd (List.cons.inj heq).1 (hne 'f' (by decide))
  · rename_i heq
    exact absurd (List.cons.inj heq).1 (hne '"' (by decide))
  · rename_i heq
    exact absurd (List.cons.inj heq).1 (hne '[' (by decide))
  · rename_i heq
    exact absurd (List.cons.inj heq).1 (hne '\x7b' (by decide))
  · rfl

-- The bound goes down with every call, from a value to its parts and from one part to the next.
mutual

/-- A plain value is read back, with any text behind it that does not go on with a number. -/
theorem readValue_prettyAt (j : Json) (hj : j.IsPlain) {level n : Nat} {s r : List Char}
    (hs : skipSpace s = prettyAt level j ++ r) (hr : EndsNumber r)
    (hn : (prettyAt level j).length < n) : readValue n s = some (j, r) := by
  obtain ⟨m, rfl⟩ : ∃ m, n = m + 1 := ⟨n - 1, by omega⟩
  -- One case for each kind of value. The bound is on the length of the text, which grows shorter
  -- with every item and member.
  match j, hj with
  | .null, _ =>
    rw [readValue, hs]
    rfl
  | .bool true, _ =>
    rw [readValue, hs]
    rfl
  | .bool false, _ =>
    rw [readValue, hs]
    rfl
  | .number ds, hj =>
    cases ds with
    | nil => exact absurd rfl hj.1
    | cons d ds =>
      have hd : d.isDigit = true := hj.2.1 d (by simp)
      have htext : skipSpace s = d :: (ds ++ r) := hs
      have hnumber := readNumber_append hj hr
      rw [List.cons_append] at hnumber
      rw [readValue_of_isDigit hd htext, hnumber]
      rfl
  | .string (some t), _ =>
    have htext : skipSpace s = '"' :: (t.flatMap escapeChar ++ '"' :: r) := by
      rw [hs]
      simp [prettyAt, quotedText, quoted]
    rw [readValue, htext]
    simp only [readString_flatMap_escapeChar, Option.map_some]
  | .array [], _ =>
    rw [readValue, hs]
    rfl
  | .array (x :: xs), hj =>
    obtain ⟨hx, hxs⟩ : x.IsPlain ∧ IsPlainItems xs := hj
    have htext : skipSpace s =
        '[' :: (newline (level + 1) ++ (prettyAt (level + 1) x ++ (prettyItems level xs ++ r))) := by
      rw [hs]
      simp [prettyAt]
    have hlen : (prettyAt (level + 1) x).length + (prettyItems level xs).length < m := by
      simp only [prettyAt, newline, List.length_append, List.length_cons] at hn
      omega
    -- The text of an item does not begin with the bracket that closes the array.
    obtain ⟨c, t, hcons, hspace, hbracket⟩ := exists_cons_prettyAt (level + 1) hx
    have hitems : readItems m (prettyAt (level + 1) x ++ (prettyItems level xs ++ r)) =
        some (x :: xs, r) :=
      readItems_prettyAt x hx xs hxs (skipSpace_prettyAt (level + 1) hx _) hlen
    rw [readValue, htext]
    simp only [skipSpace_newline, skipSpace_prettyAt (level + 1) hx]
    rw [hcons, List.cons_append] at hitems ⊢
    split
    · rename_i heq
      exact absurd (List.cons.inj heq).1 hbracket
    · rw [hitems]
      rfl
  | .object [], _ =>
    rw [readValue, hs]
    rfl
  | .object ((some k, v) :: ms), hj =>
    obtain ⟨_, hv, hms⟩ : (some k).isSome = true ∧ v.IsPlain ∧ IsPlainMembers ms := hj
    have htext : skipSpace s = '\x7b' :: (newline (level + 1) ++ ('"' :: (k.flatMap escapeChar ++
        '"' :: ':' :: ' ' :: (prettyAt (level + 1) v ++ (prettyMembers level ms ++ r))))) := by
      rw [hs]
      simp [prettyAt, quotedText, quoted]
    have hlen : (prettyAt (level + 1) v).length + (prettyMembers level ms).length < m := by
      simp only [prettyAt, newline, List.length_append, List.length_cons] at hn
      omega
    have hmembers : readMembers m ('"' :: (k.flatMap escapeChar ++
        '"' :: ':' :: ' ' :: (prettyAt (level + 1) v ++ (prettyMembers level ms ++ r)))) =
          some ((some k, v) :: ms, r) :=
      readMembers_prettyAt k v hv ms hms (skipSpace_cons (by decide) _) hlen
    rw [readValue, htext]
    simp only [skipSpace_newline, skipSpace_cons (show isSpace '"' = false by decide)]
    split
    · rename_i heq
      exact absurd (List.cons.inj heq).1 (by decide)
    · rw [hmembers]
      rfl
termination_by n

/-- Items of an array, from the first one on. -/
theorem readItems_prettyAt (x : Json) (hx : x.IsPlain) (xs : List Json) (hxs : IsPlainItems xs)
    {level n : Nat} {s r : List Char}
    (hs : skipSpace s = prettyAt (level + 1) x ++ (prettyItems level xs ++ r))
    (hn : (prettyAt (level + 1) x).length + (prettyItems level xs).length < n) :
    readItems n s = some (x :: xs, r) := by
  obtain ⟨m, rfl⟩ : ∃ m, n = m + 1 := ⟨n - 1, by omega⟩
  -- What follows the first item is not empty, so the item is shorter than the bound by two.
  have hpos : 0 < (prettyItems level xs).length := by cases xs <;> simp [prettyItems]
  have hfirst := readValue_prettyAt x hx (n := m) hs (endsNumber_prettyItems level xs r) (by omega)
  rw [readItems, hfirst]
  match xs, hxs with
  | [], _ =>
    have hend : skipSpace (prettyItems level [] ++ r) = ']' :: r := by
      rw [prettyItems, List.append_assoc, skipSpace_newline]
      exact skipSpace_cons (by decide) r
    simp only [hend]
  | y :: ys, hxs =>
    -- A comma follows, and then the next item on a line of its own.
    obtain ⟨hy, hys⟩ : y.IsPlain ∧ IsPlainItems ys := hxs
    have hnext : skipSpace (prettyItems level (y :: ys) ++ r) =
        ',' :: (newline (level + 1) ++ (prettyAt (level + 1) y ++ (prettyItems level ys ++ r))) := by
      simp only [prettyItems, List.cons_append, List.append_assoc]
      exact skipSpace_cons (by decide) _
    have hlen : (prettyAt (level + 1) y).length + (prettyItems level ys).length < m := by
      simp only [prettyItems, newline, List.length_append, List.length_cons] at hn
      omega
    have hstart := skipSpace_newline (level + 1)
      (prettyAt (level + 1) y ++ (prettyItems level ys ++ r))
    rw [skipSpace_prettyAt (level + 1) hy] at hstart
    have hrest := readItems_prettyAt y hy ys hys hstart hlen
    simp only [hnext, hrest, Option.map_some]
termination_by n

/-- Members of an object, from the key of the first one on. -/
theorem readMembers_prettyAt (k : List Char) (v : Json) (hv : v.IsPlain)
    (ms : List (Option (List Char) × Json)) (hms : IsPlainMembers ms) {level n : Nat}
    {s r : List Char}
    (hs : skipSpace s = '"' :: (k.flatMap escapeChar ++
      '"' :: ':' :: ' ' :: (prettyAt (level + 1) v ++ (prettyMembers level ms ++ r))))
    (hn : (prettyAt (level + 1) v).length + (prettyMembers level ms).length < n) :
    readMembers n s = some ((some k, v) :: ms, r) := by
  obtain ⟨m, rfl⟩ : ∃ m, n = m + 1 := ⟨n - 1, by omega⟩
  -- As with items, what follows the first member is not empty.
  have hpos : 0 < (prettyMembers level ms).length := by cases ms <;> simp [prettyMembers]
  have hblank : skipSpace (' ' :: (prettyAt (level + 1) v ++ (prettyMembers level ms ++ r))) =
      prettyAt (level + 1) v ++ (prettyMembers level ms ++ r) :=
    skipSpace_prettyAt (level + 1) hv _
  have hvalue := readValue_prettyAt v hv (n := m) hblank (endsNumber_prettyMembers level ms r)
    (by omega)
  rw [readMembers, hs]
  simp only [readString_flatMap_escapeChar, skipSpace_cons (show isSpace ':' = false by decide),
    hvalue]
  match ms, hms with
  | [], _ =>
    have hend : skipSpace (prettyMembers level [] ++ r) = '\x7d' :: r := by
      rw [prettyMembers, List.append_assoc, skipSpace_newline]
      exact skipSpace_cons (by decide) r
    simp only [hend]
  | (some l, w) :: ns, hms =>
    -- A comma follows, and then the next member on a line of its own.
    obtain ⟨_, hw, hns⟩ : (some l).isSome = true ∧ w.IsPlain ∧ IsPlainMembers ns := hms
    have htext : prettyMembers level ((some l, w) :: ns) ++ r =
        ',' :: (newline (level + 1) ++ ('"' :: (l.flatMap escapeChar ++
          '"' :: ':' :: ' ' :: (prettyAt (level + 1) w ++ (prettyMembers level ns ++ r))))) := by
      simp [prettyMembers, quotedText, quoted]
    have hnext := (congrArg skipSpace htext).trans (skipSpace_cons (by decide) _)
    have hlen : (prettyAt (level + 1) w).length + (prettyMembers level ns).length < m := by
      simp only [prettyMembers, newline, List.length_append, List.length_cons] at hn
      omega
    have hstart := skipSpace_newline (level + 1) ('"' :: (l.flatMap escapeChar ++
      '"' :: ':' :: ' ' :: (prettyAt (level + 1) w ++ (prettyMembers level ns ++ r))))
    rw [skipSpace_cons (by decide)] at hstart
    have hrest := readMembers_prettyAt l w hw ns hns hstart hlen
    simp only [hnext, hrest, Option.map_some]
termination_by n

end

/-- The text of a plain value is read back. -/
theorem parse?_pretty {j : Json} (hj : j.IsPlain) : parse? j.pretty = some j := by
  have hskip : skipSpace j.pretty = prettyAt 0 j ++ [] := by
    have h := skipSpace_prettyAt 0 hj []
    rwa [List.append_nil] at h ⊢
  have hread := readValue_prettyAt j hj (n := 2 * j.pretty.length + 2) hskip endsNumber_nil
    (by rw [pretty]; omega)
  rw [parse?, hread]
  rfl

end HttpState.Json
