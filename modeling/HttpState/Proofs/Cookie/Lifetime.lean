import HttpState.Proofs.Cookie.Attributes
import HttpState.Proofs.Cookie.Received

/-!
# The lifetime of a received cookie

When a received cookie expires, in terms of the text of its header. `Max-Age` may have any number of
digits and `Expires` may name any day of the calendar, but both are cut off at the longest lifetime.
So as long as the longest lifetime ends within the calendar, there is always an expiry to compute.

## Key definitions

- `SetCookie.lifetime?`: the seconds that a `Max-Age` denotes, however many
- `SetCookie.expiry`: when a header has its cookie expire

## Key results

- `SetCookie.expiryAt?_eq`: the expiry that is computed is the one that the header asks for
- `Cookie.reception_ne_beyondCalendar`: the computation does not leave the calendar
- `Cookie.expires_of_receive?`: the expiry of a received cookie
-/

namespace HttpState

open HttpState.Text HttpState.Time

namespace SetCookie

/-- The lifetime in seconds that the value of a `Max-Age` attribute denotes: a number of any length,
    or zero if a minus sign stands before the digits. A value without anything denotes the longest
    one. -/
def lifetime? : List Char → Option Nat
  | [] => some longestAge
  | c :: ds =>
    if c = '-' then if ds.all Char.isDigit then some 0 else none
    else if (c :: ds).all Char.isDigit then some (decimal (c :: ds)) else none

/-- When the cookie of a header expires that is received at a time: after its `Max-Age`, or without
    one at its `Expires`, but not later than the longest lifetime allows. -/
def expiry (text : List Char) (now : Int) : Option Int :=
  match ((values "max-age" text).filterMap lifetime?).getLast? with
  | some seconds => some (now + (min seconds longestAllowed : Nat) * nanosPerSecond)
  | none => ((values "expires" text).filterMap HttpDate.read?).getLast?.map
      (min · (now + longestAllowed * nanosPerSecond))

/-- A lifetime is read as far as it is told apart from longer ones. -/
theorem readMaxAge_eq (v : List Char) : readMaxAge v = (lifetime? v).map (min longestAge) := by
  cases v with
  | nil => rfl
  | cons c ds =>
    simp only [lifetime?]
    split
    · -- A minus sign: digits behind it make it zero.
      rename_i hminus
      subst hminus
      simp only [readMaxAge]
      split <;> rfl
    · rename_i hplus
      -- The first character is no minus sign, so the value is a number or nothing.
      have hread : readMaxAge (c :: ds) =
          if (c :: ds).all Char.isDigit then
            if longestAge ≤ decimal (c :: ds) then some longestAge else some (decimal (c :: ds))
          else none := by
        unfold readMaxAge
        split
        · rename_i heq
          exact absurd (List.cons.inj heq).1 hplus
        · simp
      rw [hread]
      split
      · rw [Option.map_some, ← apply_ite some, Nat.min_def]
      · rfl

/-- The last readable `max-age` is kept, cut off at the largest number that is read. -/
theorem maxAge_eq_of_parse? {text : List Char} {s : SetCookie} (h : parse? text = some s) :
    s.maxAge = ((values "max-age" text).filterMap lifetime?).getLast?.map (min longestAge) := by
  have hread : readMaxAge = fun v => (lifetime? v).map (min longestAge) := funext readMaxAge_eq
  rw [maxAge_of_parse? h, hread, ← List.map_filterMap, List.getLast?_map]

section Clock

variable {now : Int}

/-- As long as the longest lifetime ends within the calendar, every shorter one does. -/
theorem later?_of_le (hclock : (later? now longestAllowed).isSome = true) {seconds : Nat}
    (hle : seconds ≤ longestAllowed) :
    later? now seconds = some (now + seconds * nanosPerSecond) := by
  obtain ⟨latest, hlatest⟩ := Option.isSome_iff_exists.1 hclock
  rw [later?_eq_some_iff] at hlatest ⊢
  refine ⟨rfl, ?_⟩
  simp only [nanosPerSecond] at hlatest ⊢
  omega

/-- The expiry that is computed is the one that the header asks for. -/
theorem expiryAt?_eq {text : List Char} {s : SetCookie} (h : parse? text = some s)
    (hclock : (later? now longestAllowed).isSome = true) :
    s.expiryAt? now = some (expiry text now) := by
  have hlatest := later?_of_le hclock (Nat.le_refl _)
  have hlongest : longestAllowed ≤ longestAge := by decide
  simp only [expiryAt?, hlatest, expiry, expires_of_parse? h, maxAge_eq_of_parse? h,
    Option.bind_eq_bind, Option.bind_some]
  cases ((values "max-age" text).filterMap lifetime?).getLast? with
  | none => rfl
  | some seconds =>
    simp only [Option.map_some]
    split
    · -- What is longer than allowed is cut off, be it read as a whole or not.
      have hmin : min seconds longestAllowed = longestAllowed := by omega
      rw [hmin]
    · have hmin : min longestAge seconds = min seconds longestAllowed := by omega
      rw [hmin, later?_of_le hclock (Nat.min_le_right _ _)]
      rfl

/-- No cookie lives longer than allowed. -/
theorem expiry_le {text : List Char} {t : Int} (h : expiry text now = some t) :
    t ≤ now + longestAllowed * nanosPerSecond := by
  unfold expiry at h
  split at h
  · simp only [Option.some.injEq, nanosPerSecond] at h ⊢
    omega
  · obtain ⟨e, -, rfl⟩ := Option.map_eq_some_iff.1 h
    exact Int.min_le_right _ _

end Clock

end SetCookie

namespace Cookie

variable {a : Address} {header : String} {now : Int} {c : Cookie}

/-- Where the longest lifetime ends within the calendar, every header gets an answer. -/
theorem reception_ne_beyondCalendar
    (hclock : (later? now SetCookie.longestAllowed).isSome = true) (a : Address) (header : String) :
    reception a header now ≠ .beyondCalendar := by
  unfold reception
  split
  · exact nofun
  · rename_i s hs
    -- The lifetime is bounded, so the expiry is in the calendar.
    have hexpiry := SetCookie.expiryAt?_eq hs hclock
    unfold SetCookie.receptionFrom
    split
    · exact nofun
    · split
      · exact nofun
      · rw [hexpiry]
        exact nofun

/-- A received cookie expires when its header asks for it. -/
theorem expires_of_receive? (h : receive? a header now = some c) :
    c.expires = (SetCookie.expiry header.toList now).map Timestamp.utc := by
  obtain ⟨s, expires, hs, -, -, hexpires, hc⟩ := exists_of_receive? h
  -- A header is only received while the longest lifetime ends within the calendar.
  have hclock : (later? now SetCookie.longestAllowed).isSome = true := by
    simp only [SetCookie.expiryAt?, Option.bind_eq_bind, Option.bind_eq_some_iff] at hexpires
    obtain ⟨latest, hlatest, -⟩ := hexpires
    rw [hlatest]
    rfl
  have hexpiry := SetCookie.expiryAt?_eq hs hclock
  rw [hexpires, Option.some.injEq] at hexpiry
  rw [hc, hexpiry]

end Cookie

end HttpState
