import HttpState.Proofs.Text.LetterCase
import Mathlib.Data.Char
import Mathlib.Data.List.Lex

/-!
# Texts and their bytes

The UTF-8 bytes of a text. A character is a first byte, which says how many bytes follow, and then
six bits of the number of the character in each byte that follows. Texts therefore have the same
order as their bytes.

## Key results

- `utf8_lt_utf8_iff`: texts are in the order of their bytes
- `utf8_inj`: texts with the same bytes are the same
- `map_lowerByte_utf8`: a text can be written in lower case byte by byte
- `exists_utf8_eq`: bytes of a text in other letter case are those of a text
-/

namespace HttpState.Text

/-- The bytes of a text in UTF-8. -/
def utf8 (s : List Char) : List UInt8 := s.flatMap String.utf8EncodeChar

/-- The bytes of a string are those of its characters. -/
theorem utf8_toList (s : String) : utf8 s.toList = s.toUTF8.data.toList := by
  rw [String.toUTF8_eq_toByteArray, ← String.utf8Encode_toList]
  simp [utf8, List.utf8Encode]

/-- The bytes of the first character come first. -/
@[simp] theorem utf8_cons (c : Char) (s : List Char) :
    utf8 (c :: s) = String.utf8EncodeChar c ++ utf8 s := List.flatMap_cons

/-! ## Characters -/

/-- The bytes of a number: a first one above `base`, and `k` bytes with six bits each. -/
def sixBits (base : Nat) : Nat → Nat → List UInt8
  | 0, v => [UInt8.ofNat (v + base)]
  | k + 1, v => sixBits base k (v / 64) ++ [UInt8.ofNat (v % 64 + 128)]

/-- What is left of a number for its first byte. -/
def leading : Nat → Nat → Nat
  | 0, v => v
  | k + 1, v => leading k (v / 64)

/-- No character is beyond the last code point. -/
theorem toNat_lt_of_valid (c : Char) : c.toNat < 0x110000 := by
  rcases c.valid with h | ⟨_, h⟩
  · exact Nat.lt_of_lt_of_le h (by decide)
  · exact h

/-- A character has one byte below `0x80`, two below `0x800`, three below `0x10000`, and four from
    there. -/
theorem utf8EncodeChar_eq (c : Char) :
    String.utf8EncodeChar c =
      if c.toNat < 0x80 then sixBits 0 0 c.toNat
      else if c.toNat < 0x800 then sixBits 192 1 c.toNat
      else if c.toNat < 0x10000 then sixBits 224 2 c.toNat
      else sixBits 240 3 c.toNat := by
  have hc := toNat_lt_of_valid c
  unfold String.utf8EncodeChar
  simp only [show c.val.toNat = c.toNat from rfl, ← Nat.lt_succ_iff]
  split
  · -- One byte.
    rfl
  · split
    · -- Two bytes.
      rw [Nat.mod_eq_of_lt (show c.toNat / 64 < 32 by omega)]
      rfl
    · split
      · -- Three bytes.
        rw [Nat.mod_eq_of_lt (show c.toNat / 4096 < 16 by omega)]
        simp [sixBits, Nat.div_div_eq_div_mul]
      · -- Four bytes.
        rw [Nat.mod_eq_of_lt (show c.toNat / 262144 < 8 by omega)]
        simp [sixBits, Nat.div_div_eq_div_mul]

/-- A number below 256 is kept by a byte. -/
theorem toNat_ofNat {n : Nat} (h : n < 256) : (UInt8.ofNat n).toNat = n :=
  UInt8.toNat_ofNat_of_lt' h

/-- Bytes are ordered by the first of them, where those differ. -/
theorem ofNat_cons_lt {m n : Nat} (h : m < n) (hn : n < 256) (s t : List UInt8) :
    UInt8.ofNat m :: s < UInt8.ofNat n :: t := by
  refine List.cons_lt_cons_iff.2 (.inl ?_)
  rw [UInt8.lt_iff_toNat_lt, toNat_ofNat (h.trans hn), toNat_ofNat hn]
  exact h

/-- Numbers that are written with as many bytes are in the order of these. -/
theorem sixBits_append_lt {base k v w : Nat} (h : v < w) (hw : leading k w + base < 256)
    (s t : List UInt8) : sixBits base k v ++ s < sixBits base k w ++ t := by
  induction k generalizing v w s t with
  | zero => exact ofNat_cons_lt (Nat.add_lt_add_right h base) hw s t
  | succ k ih =>
    simp only [sixBits, List.append_assoc, List.cons_append, List.nil_append]
    by_cases heq : v / 64 = w / 64
    · rw [heq]
      exact List.append_left_lt (ofNat_cons_lt (by omega) (by omega) s t)
    · exact ih (by omega) hw _ _

/-- The first byte of an encoding. -/
theorem exists_sixBits_eq_cons (base k v : Nat) :
    ∃ bs, sixBits base k v = UInt8.ofNat (leading k v + base) :: bs := by
  induction k generalizing v with
  | zero => exact ⟨[], rfl⟩
  | succ k ih =>
    obtain ⟨bs, hbs⟩ := ih (v / 64)
    refine ⟨bs ++ [UInt8.ofNat (v % 64 + 128)], ?_⟩
    rw [sixBits, hbs]
    rfl

/-- A number that is written behind a smaller first byte comes first. -/
theorem sixBits_append_lt_of_leading {base k v base' k' w : Nat}
    (h : leading k v + base < leading k' w + base') (hw : leading k' w + base' < 256)
    (s t : List UInt8) : sixBits base k v ++ s < sixBits base' k' w ++ t := by
  obtain ⟨bs, hbs⟩ := exists_sixBits_eq_cons base k v
  obtain ⟨bs', hbs'⟩ := exists_sixBits_eq_cons base' k' w
  rw [hbs, hbs']
  exact ofNat_cons_lt h hw _ _

/-- Two different characters are in the order of their bytes, whatever follows them. -/
theorem utf8EncodeChar_append_lt {c d : Char} (h : c < d) (s t : List UInt8) :
    String.utf8EncodeChar c ++ s < String.utf8EncodeChar d ++ t := by
  have hlt : c.toNat < d.toNat := h
  have hd := toNat_lt_of_valid d
  rw [utf8EncodeChar_eq, utf8EncodeChar_eq]
  generalize c.toNat = v at *
  generalize d.toNat = w at *
  -- Both have as many bytes, or `c` has fewer and therefore a smaller first byte.
  split_ifs
  all_goals first
    | omega
    | exact sixBits_append_lt hlt (by simp only [leading]; omega) s t
    | exact sixBits_append_lt_of_leading (by simp only [leading]; omega)
        (by simp only [leading]; omega) s t

/-! ## Texts -/

/-- Encoding keeps the order of two texts. -/
theorem utf8_lt_of_lt {s t : List Char} (h : s < t) : utf8 s < utf8 t := by
  induction h with
  | @nil c t =>
    obtain ⟨b, bs, hb⟩ := List.exists_cons_of_ne_nil (String.utf8EncodeChar_ne_nil (c := c))
    rw [utf8_cons, hb]
    exact List.nil_lt_cons _ _
  | rel h =>
    rw [utf8_cons, utf8_cons]
    exact utf8EncodeChar_append_lt h _ _
  | cons h ih =>
    rw [utf8_cons, utf8_cons]
    exact List.append_left_lt ih

/-- Comparing texts by their code points is comparing them by their bytes. -/
theorem utf8_lt_utf8_iff {s t : List Char} : utf8 s < utf8 t ↔ s < t := by
  refine ⟨?_, utf8_lt_of_lt⟩
  intro h
  rcases lt_trichotomy s t with hlt | rfl | hgt
  · exact hlt
  · exact absurd h (List.lt_irrefl _)
  · exact absurd h (List.lt_asymm (utf8_lt_of_lt hgt))

/-- Texts with the same bytes are the same. -/
theorem utf8_inj {s t : List Char} : utf8 s = utf8 t ↔ s = t := by
  refine ⟨?_, congrArg utf8⟩
  intro h
  rcases lt_trichotomy s t with hlt | heq | hgt
  · exact absurd (h ▸ utf8_lt_of_lt hlt) (List.lt_irrefl _)
  · exact heq
  · exact absurd (h ▸ utf8_lt_of_lt hgt) (List.lt_irrefl _)

/-! ## Letter case -/

/-- A byte in lower case. Only the bytes of letters have a letter case. -/
def lowerByte (b : UInt8) : UInt8 := if 65 ≤ b ∧ b ≤ 90 then b + 32 else b

/-- What `lowerByte` does to the value of a byte. -/
theorem toNat_lowerByte (b : UInt8) :
    (lowerByte b).toNat =
      if 65 ≤ b.toNat ∧ b.toNat ≤ 90 then b.toNat + 32 else b.toNat := by
  unfold lowerByte
  simp only [UInt8.le_iff_toNat_le, UInt8.toNat_ofNat]
  split
  · rw [UInt8.toNat_add]
    simp only [UInt8.toNat_ofNat]
    omega
  · rfl

/-- A byte whose lower case is from `0x80` up is no letter, so it is kept. -/
theorem lowerByte_of_le {b : UInt8} (h : 0x80 ≤ (lowerByte b).toNat) : lowerByte b = b := by
  rw [toNat_lowerByte] at h
  have hnot : ¬ (65 ≤ b.toNat ∧ b.toNat ≤ 90) := by split at h <;> omega
  rw [← UInt8.toNat_inj, toNat_lowerByte, if_neg hnot]

/-- Bytes that no ASCII character has are no letters. -/
theorem map_lowerByte_of_le {bs : List UInt8} (h : ∀ b ∈ bs, 0x80 ≤ (lowerByte b).toNat) :
    bs.map lowerByte = bs :=
  (List.map_congr_left fun b hb => lowerByte_of_le (h b hb)).trans (List.map_id' bs)

/-- Characters below `0x80` are their own byte. -/
theorem utf8EncodeChar_of_lt {c : Char} (h : c.toNat < 0x80) :
    String.utf8EncodeChar c = [UInt8.ofNat c.toNat] := by
  rw [utf8EncodeChar_eq, if_pos h]
  rfl

/-- All bytes of a longer encoding are from `0x80` up. -/
theorem le_of_mem_sixBits {base k v : Nat} (hbase : 0x80 ≤ base) (h : leading k v + base < 256)
    {b : UInt8} (hb : b ∈ sixBits base k v) : 0x80 ≤ b.toNat := by
  induction k generalizing v with
  | zero =>
    rw [sixBits, List.mem_singleton] at hb
    rw [hb, toNat_ofNat (show v + base < 256 from h)]
    omega
  | succ k ih =>
    rw [sixBits, List.mem_append, List.mem_singleton] at hb
    rcases hb with hb | rfl
    · exact ih h hb
    · rw [toNat_ofNat (by omega)]
      omega

/-- No byte of a character above ASCII is that of an ASCII character. -/
theorem le_of_mem_utf8EncodeChar {c : Char} (h : 0x80 ≤ c.toNat) {b : UInt8}
    (hb : b ∈ String.utf8EncodeChar c) : 0x80 ≤ b.toNat := by
  have hc := toNat_lt_of_valid c
  rw [utf8EncodeChar_eq, if_neg (by omega)] at hb
  split_ifs at hb
  all_goals exact le_of_mem_sixBits (by decide) (by simp only [leading]; omega) hb

/-- A character can be written in lower case byte by byte. -/
theorem map_lowerByte_utf8EncodeChar (c : Char) :
    (String.utf8EncodeChar c).map lowerByte = String.utf8EncodeChar c.toLower := by
  have hlower := toNat_toLower c
  by_cases hc : c.toNat < 0x80
  · -- One byte: lowering the letter and lowering its byte are the same.
    have hc' : c.toLower.toNat < 0x80 := by split at hlower <;> omega
    rw [utf8EncodeChar_of_lt hc, utf8EncodeChar_of_lt hc', List.map_singleton,
      List.singleton_inj, ← UInt8.toNat_inj, toNat_lowerByte, hlower,
      toNat_ofNat (by omega), toNat_ofNat (by split <;> omega)]
  · -- More bytes: neither the character nor a byte of it is an upper-case letter.
    have hself : c.toLower = c := by
      rw [← Char.toNat_inj, hlower, if_neg (by omega)]
    rw [hself]
    refine map_lowerByte_of_le fun b hb => ?_
    have hb' := le_of_mem_utf8EncodeChar (by omega) hb
    rw [toNat_lowerByte, if_neg (by omega)]
    exact hb'

/-- A text can be written in lower case byte by byte. -/
theorem map_lowerByte_utf8 (s : List Char) :
    (utf8 s).map lowerByte = utf8 (s.map Char.toLower) := by
  induction s with
  | nil => rfl
  | cons c s ih =>
    rw [utf8_cons, List.map_append, map_lowerByte_utf8EncodeChar, ih, List.map_cons, utf8_cons]

/-- Bytes that are those of a character but for their letter case are those of the character in
    another letter case. -/
theorem exists_utf8EncodeChar_eq {bs : List UInt8} {c : Char}
    (h : bs.map lowerByte = String.utf8EncodeChar c) :
    ∃ d : Char, String.utf8EncodeChar d = bs ∧ d.toLower = c := by
  by_cases hc : c.toNat < 0x80
  · -- One byte, which is that of `c` or of its upper-case letter.
    rw [utf8EncodeChar_of_lt hc, List.map_eq_singleton_iff] at h
    obtain ⟨b, rfl, hb⟩ := h
    have hn := congrArg UInt8.toNat hb
    rw [toNat_lowerByte, toNat_ofNat (by omega)] at hn
    have hb' : b.toNat < 0x80 := by split at hn <;> omega
    have hd : (Char.ofNat b.toNat).toNat = b.toNat := by
      rw [Char.ofNat, dif_pos (.inl (by omega))]
      rfl
    refine ⟨Char.ofNat b.toNat, ?_, ?_⟩
    · rw [utf8EncodeChar_of_lt (by omega), hd, UInt8.ofNat_toNat]
    · rw [← Char.toNat_inj, toNat_toLower, hd, hn]
  · -- No byte is that of a letter, so the bytes are those of `c`.
    have hge : 0x80 ≤ c.toNat := by omega
    refine ⟨c, ?_, ?_⟩
    · rw [← h]
      exact map_lowerByte_of_le fun b hb =>
        le_of_mem_utf8EncodeChar hge (h ▸ List.mem_map_of_mem hb)
    · rw [← Char.toNat_inj, toNat_toLower, if_neg (by omega)]

/-- Bytes that are those of a text but for their letter case are those of the text in another letter
    case. -/
theorem exists_utf8_eq {bs : List UInt8} {s : List Char} (h : bs.map lowerByte = utf8 s) :
    ∃ t, utf8 t = bs ∧ t.map Char.toLower = s := by
  induction s generalizing bs with
  | nil => exact ⟨[], (List.map_eq_nil_iff.1 h).symm, rfl⟩
  | cons c s ih =>
    rw [utf8_cons, List.map_eq_append_iff] at h
    obtain ⟨first, rest, rfl, hfirst, hrest⟩ := h
    obtain ⟨d, rfl, rfl⟩ := exists_utf8EncodeChar_eq hfirst
    obtain ⟨t, rfl, rfl⟩ := ih hrest
    exact ⟨d :: t, utf8_cons d t, rfl⟩

end HttpState.Text
