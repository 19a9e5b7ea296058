/-!
# Scanning text from the left

Small readers on `List Char`. Each gives the rest of the text, or `none` where the text does not
begin with what is read.

* `digits_padded`: reading `n` digits gives back a number written with `n` digits.
-/

namespace HttpState.Text

/-- The value of a decimal digit. -/
def digit? (c : Char) : Option Nat :=
  if c.isDigit then some (c.toNat - 48) else none

/-- The value of a hexadecimal digit of either case. -/
def hexDigit? (c : Char) : Option Nat :=
  if '0' ≤ c ∧ c ≤ '9' then some (c.toNat - 48)
  else if 'A' ≤ c ∧ c ≤ 'F' then some (c.toNat - 55)
  else if 'a' ≤ c ∧ c ≤ 'f' then some (c.toNat - 87)
  else none

/-- The number that a list of digits denotes in a base; a character without a value counts as
    zero. -/
def number (base : Nat) (value? : Char → Option Nat) (s : List Char) : Nat :=
  s.foldl (fun n c => n * base + (value? c).getD 0) 0

/-- The number that decimal digits denote. -/
def decimal (s : List Char) : Nat := number 10 digit? s

/-- The number that hexadecimal digits denote. -/
def hexadecimal (s : List Char) : Nat := number 16 hexDigit? s

/-- The rest of a text that begins with the character `c`. -/
def expect (c : Char) : List Char → Option (List Char)
  | [] => none
  | d :: s => if d = c then some s else none

/-- The rest of a text that begins with `word`. -/
def expectWord : List Char → List Char → Option (List Char)
  | [], s => some s
  | c :: word, s => (expect c s).bind (expectWord word)

/-- The position in `words` of the first word that a text begins with, and the rest. -/
def oneOf (words : List (List Char)) (s : List Char) : Option (Nat × List Char) :=
  go 0 words
where
  /-- The search from position `i` on. -/
  go (i : Nat) : List (List Char) → Option (Nat × List Char)
    | [] => none
    | word :: rest =>
      match expectWord word s with
      | some t => some (i, t)
      | none => go (i + 1) rest

/-- Reads exactly `n` decimal digits in front of which `acc` has been read. -/
def digitsFrom (acc : Nat) : Nat → List Char → Option (Nat × List Char)
  | 0, s => some (acc, s)
  | _ + 1, [] => none
  | n + 1, c :: s =>
    match digit? c with
    | some d => digitsFrom (acc * 10 + d) n s
    | none => none

/-- Reads exactly `n` decimal digits. -/
def digits (n : Nat) (s : List Char) : Option (Nat × List Char) :=
  digitsFrom 0 n s

/-- The number that is written as a one and `n` zeros. -/
def powerOfTen (n : Nat) : Nat := Nat.pow 10 n

/-- Ten to the power zero. -/
theorem powerOfTen_zero : powerOfTen 0 = 1 := rfl

/-- Each further power multiplies by ten. -/
theorem powerOfTen_succ (n : Nat) : powerOfTen (n + 1) = powerOfTen n * 10 := rfl

/-- The decimal digit of value `n % 10`. -/
def digitChar (n : Nat) : Char :=
  Char.ofNat (48 + n % 10)

/-- `n` written with exactly `width` decimal digits; the leading ones are lost if they do not
    fit. -/
def padded : Nat → Nat → List Char
  | 0, _ => []
  | width + 1, n => padded width (n / 10) ++ [digitChar n]

/-- A digit that was written reads as itself, modulo ten. -/
theorem digit?_digitChar (n : Nat) : digit? (digitChar n) = some (n % 10) := by
  have h : ∀ m : Fin 10, digit? (Char.ofNat (48 + m.val)) = some m.val := by decide
  exact h ⟨n % 10, Nat.mod_lt _ (by decide)⟩

/-- A padded number has exactly the width asked for. -/
@[simp] theorem length_padded (width n : Nat) : (padded width n).length = width := by
  induction width generalizing n with
  | zero => rfl
  | succ w ih => simp [padded, ih]

/-- Reading `a + b` digits is reading `a` digits and then `b` more with what they gave. -/
theorem digitsFrom_append (acc a b : Nat) (s : List Char) (t : List Char) (h : s.length = a) :
    digitsFrom acc (a + b) (s ++ t) =
      (digitsFrom acc a s).bind fun r => digitsFrom r.1 b t := by
  -- By induction on the first part, for any number read so far.
  induction a generalizing acc s with
  | zero => simp_all [digitsFrom, List.length_eq_zero_iff.1 h]
  | succ a ih =>
    cases s with
    | nil => simp at h
    | cons c r =>
      rw [Nat.succ_add]
      simp only [digitsFrom, List.cons_append]
      cases digit? c with
      | none => rfl
      | some d => exact ih _ _ (by simpa using h)

/-- A number that fits its width is read back from its padded form. -/
theorem digitsFrom_padded (acc width n : Nat) (t : List Char) (h : n < powerOfTen width) :
    digitsFrom acc width (padded width n ++ t) = some (acc * powerOfTen width + n, t) := by
  induction width generalizing acc n t with
  | zero =>
    have hn : n = 0 := Nat.lt_one_iff.1 h
    simp [digitsFrom, padded, powerOfTen_zero, hn]
  | succ w ih =>
    -- All digits but the last are the padded quotient by ten.
    rw [powerOfTen_succ] at h ⊢
    have hn : n / 10 < powerOfTen w := Nat.div_lt_of_lt_mul (by rwa [Nat.mul_comm] at h)
    have h1 := ih acc (n / 10) [] hn
    rw [List.append_nil] at h1
    rw [padded, List.append_assoc, digitsFrom_append _ _ _ _ _ (length_padded _ _), h1]
    simp only [Option.bind_some, digitsFrom, List.cons_append, List.nil_append,
      digit?_digitChar, Option.some.injEq, Prod.mk.injEq, and_true]
    rw [← Nat.mul_assoc]
    omega

/-- A number written with `n` digits is read back. -/
theorem digits_padded {width n : Nat} (t : List Char) (h : n < powerOfTen width) :
    digits width (padded width n ++ t) = some (n, t) := by
  rw [digits, digitsFrom_padded 0 width n t h, Nat.zero_mul, Nat.zero_add]

end HttpState.Text
