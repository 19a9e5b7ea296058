import HttpState.Unicode.HostMappingTable

/-!
# Mapping the characters of a host name

Before a host name is looked at, each of its characters is kept, dropped, forbidden or replaced:
upper case by lower case, full-width and other compatibility forms by plain ones. ASCII needs no
table: its upper-case letters are replaced by lower-case ones and everything else is kept.

* `mapHost_ascii`: mapping an ASCII text is writing it in lower case.
-/

namespace HttpState.Unicode

/-- What becomes of a character in a host name. -/
inductive HostMapping where
  | kept
  | dropped
  | forbidden
  | replaced (s : List Char)
  deriving DecidableEq, Repr

/-- Whether a character is an ASCII character. -/
def isAscii (c : Char) : Bool := c.toNat < 0x80

/-- What becomes of a character that is no ASCII character. -/
def hostMappingAbove (n : Nat) : HostMapping :=
  match hostMappingTable.find? n with
  | none => .kept
  | some r =>
    -- The sign of a run says what its numbers mean.
    if r.sign = some '=' then .replaced (r.numbers.map Char.ofNat)
    else if r.sign = some '+' then .replaced [Char.ofNat (n + r.numbers.headD 0)]
    else if r.sign = some '_' then .replaced [Char.ofNat (n - r.numbers.headD 0)]
    else if r.sign = some '~' then .dropped
    else .forbidden

/-- What becomes of a character in a host name. -/
def hostMapping (c : Char) : HostMapping :=
  if isAscii c then if c.isUpper then .replaced [c.toLower] else .kept
  else hostMappingAbove c.toNat

/-- What is left of a host name after each character has been mapped; nothing if one is
    forbidden. -/
def mapHost : List Char → Option (List Char)
  | [] => some []
  | c :: s =>
    match hostMapping c with
    | .kept => (mapHost s).map (c :: ·)
    | .dropped => mapHost s
    | .forbidden => none
    | .replaced t => (mapHost s).map (t ++ ·)

/-- Lower case changes capital letters only. -/
theorem toLower_of_not_isUpper {c : Char} (h : c.isUpper = false) : c.toLower = c := by
  have hc : ¬ (c.val ≥ 'A'.val ∧ c.val ≤ 'Z'.val) := of_decide_eq_false h
  exact dif_neg hc

/-- On a text of ASCII characters the mapping is lower case. -/
theorem mapHost_ascii {s : List Char} (h : ∀ c ∈ s, isAscii c) :
    mapHost s = some (s.map Char.toLower) := by
  induction s with
  | nil => rfl
  | cons c s ih =>
    have hc : isAscii c := h c (by simp)
    have hs := ih fun d hd => h d (by simp [hd])
    -- A capital letter is mapped to its small letter, any other ASCII character to itself.
    by_cases hu : c.isUpper
    · simp [mapHost, hostMapping, hc, hu, hs]
    · have hu' : c.isUpper = false := by simpa using hu
      simp [mapHost, hostMapping, hc, hs, hu', toLower_of_not_isUpper hu']

end HttpState.Unicode
