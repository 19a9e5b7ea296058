import HttpState.Cookie.SetCookie

/-!
# Attributes of a header that sets a cookie

What a header says about an attribute depends on the values that it gives to this attribute and on
nothing else: of those that can be read, the last one counts. So each attribute can be looked at on
its own, and an attribute that is added at the end of a header changes nothing about the others.

## Key definitions

- `values`: the values that a header gives to an attribute

## Key results

- `maxAge_of_parse?`, `expires_of_parse?`, `path_of_parse?`: the last value that can be read counts
- `parse?_append`: a header with one more attribute
-/

namespace HttpState.SetCookie

/-- The value of an attribute, if a part of a header is an attribute of this name with a value. -/
def value? (name : String) (part : List Char) : Option (List Char) :=
  let (key, value) := splitPair part
  if String.ofList (key.map Char.toLower) = name then value else none

/-- The values that a header gives to an attribute, in their order. What comes before the first
    semicolon is the name and the value of the cookie, and no attribute. -/
def values (name : String) (text : List Char) : List (List Char) :=
  (text.splitOn ';').tail.filterMap (value? name)

/-! ## One attribute after another -/

section Field

variable {α : Type} {field : SetCookie → Option α} {name : String} {read : List Char → Option α}

/-- A field that takes over what an attribute says ends up with what the last one says. -/
theorem foldl_addAttribute_eq_getLast?
    (hfield : ∀ s part, field (s.addAttribute part) = ((value? name part).bind read).or (field s))
    (parts : List (List Char)) (s : SetCookie) :
    field (parts.foldl addAttribute s) =
      ((parts.filterMap (value? name)).filterMap read).getLast?.or (field s) := by
  induction parts generalizing s with
  | nil => rfl
  | cons part parts ih =>
    rw [List.foldl_cons, ih, hfield, List.filterMap_cons]
    cases hvalue : value? name part with
    | none => rfl
    | some v =>
      -- The attribute has the name asked for; whether its value can be read decides.
      simp only [List.filterMap_cons, Option.bind_some]
      cases hread : read v with
      | none => rfl
      | some x =>
        -- What is behind this attribute comes first, if it says anything.
        rw [List.getLast?_cons]
        cases ((parts.filterMap (value? name)).filterMap read).getLast? <;> rfl

/-- The attributes of a header are read one after another, and none of them has been read before. -/
theorem exists_foldl_of_parse? {text : List Char} {s : SetCookie} (h : parse? text = some s) :
    ∃ name value, s = (text.splitOn ';').tail.foldl addAttribute
      ⟨name, value, none, none, false, false, none, none, none⟩ := by
  unfold parse? at h
  split at h
  · exact nomatch h
  · rename_i pair attributes hsplit
    split at h
    · rename_i name value hpair
      split at h
      · exact nomatch h
      · rw [hsplit]
        exact ⟨name, value, (Option.some.inj h).symm⟩
    · exact nomatch h

/-- A field is that of the last attribute with its name which can be read. -/
theorem field_of_parse?
    (hfield : ∀ s part, field (s.addAttribute part) = ((value? name part).bind read).or (field s))
    (hnone : ∀ n v, field ⟨n, v, none, none, false, false, none, none, none⟩ = none)
    {text : List Char} {s : SetCookie} (h : parse? text = some s) :
    field s = ((values name text).filterMap read).getLast? := by
  obtain ⟨n, v, hs⟩ := exists_foldl_of_parse? h
  rw [hs, foldl_addAttribute_eq_getLast? hfield, hnone, Option.or_none]
  rfl

end Field

/-- An attribute says something about one field only, and nothing if it has no value. -/
theorem addAttribute_spec (s : SetCookie) (part : List Char) :
    (s.addAttribute part).maxAge = ((value? "max-age" part).bind readMaxAge).or s.maxAge ∧
      (s.addAttribute part).expires =
        ((value? "expires" part).bind Time.HttpDate.read?).or s.expires ∧
      (s.addAttribute part).path = ((value? "path" part).bind some).or s.path := by
  unfold addAttribute value?
  -- Only the attribute's name decides which field is set.
  generalize splitPair part = pair
  obtain ⟨key, value⟩ := pair
  dsimp only
  generalize String.ofList (key.map Char.toLower) = word
  cases value with
  | none => split <;> simp_all
  | some v =>
    split <;> simp_all
    all_goals split <;> simp_all

/-! ## The header as a whole -/

variable {text : List Char} {s : SetCookie}

/-- The last readable `max-age` counts. -/
theorem maxAge_of_parse? (h : parse? text = some s) :
    s.maxAge = ((values "max-age" text).filterMap readMaxAge).getLast? :=
  field_of_parse? (fun s part => (s.addAttribute_spec part).1) (fun _ _ => rfl) h

/-- The last readable `expires` counts. -/
theorem expires_of_parse? (h : parse? text = some s) :
    s.expires = ((values "expires" text).filterMap Time.HttpDate.read?).getLast? :=
  field_of_parse? (fun s part => (s.addAttribute_spec part).2.1) (fun _ _ => rfl) h

/-- The last `path` counts, whatever it says. -/
theorem path_of_parse? (h : parse? text = some s) : s.path = (values "path" text).getLast? := by
  have hpath := field_of_parse? (fun s part => (s.addAttribute_spec part).2.2) (fun _ _ => rfl) h
  rwa [List.filterMap_some] at hpath

/-- An attribute at the end of a header is read last. -/
theorem parse?_append (text : List Char) {part : List Char} (hpart : ';' ∉ part) :
    parse? (text ++ ';' :: part) = (parse? text).map (·.addAttribute part) := by
  have hsplit : (text ++ ';' :: part).splitOn ';' = text.splitOn ';' ++ [part] := by
    rw [List.splitOn_append_cons_self, List.splitOn_eq_singleton hpart]
  obtain ⟨pair, attributes, hne⟩ := List.exists_cons_of_ne_nil (List.splitOn_ne_nil ';' text)
  simp only [parse?, hsplit, hne, List.cons_append]
  -- The name and the value stand before the first semicolon and stay what they are.
  split
  · split
    · rfl
    · rw [List.foldl_append]
      rfl
  · rfl

end HttpState.SetCookie
