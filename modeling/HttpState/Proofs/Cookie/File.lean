import HttpState.Cookie.File
import HttpState.Proofs.Cookie.Timestamps
import HttpState.Proofs.Json.RoundTrip
import HttpState.Proofs.Time.Rfc3339

/-!
# Reading files of cookies that were written

A cookie that has a record is read back from it with all its fields, and so is a list of cookies
from the text of a file.

## Key results

- `Cookie.ofJson?_of_toJson?`: records of cookies
- `CookieFile.parse_of_text?`: files of cookies
-/

namespace HttpState

open Text (isBlank)
open Time (Timestamp)

namespace Cookie

/-- What is written for an expiry. -/
def expiresJson? : Option Timestamp → Option Json
  | none => some Json.null
  | some t => t.toRfc3339?.map fun s => Json.string (some s)

/-- What is written for a `SameSite` attribute. -/
def sameSiteJson (s : Option String) : Json := (s.map Json.ofText).getD .null

/-- A string is read back from JSON. -/
@[simp] theorem text?_ofText (s : String) : (Json.ofText s).text? = some s := by
  simp [Json.ofText, Json.text?]

/-- A string is plain JSON. -/
theorem isPlain_ofText (s : String) : (Json.ofText s).IsPlain := by
  simp [Json.ofText, Json.IsPlain]

/-- A missing `sameSite` is written as null, and both are read back. -/
theorem sameSite_spec (s : Option String) :
    (sameSiteJson s).IsPlain ∧ (sameSiteJson s).nullable? Json.text? = some s := by
  cases s with
  | none => exact ⟨trivial, rfl⟩
  | some s =>
    refine ⟨isPlain_ofText s, ?_⟩
    show ((Json.ofText s).text?).map some = some (some s)
    rw [text?_ofText, Option.map_some]

/-- A timestamp that can be written is read back. -/
theorem timestamp?_of_toRfc3339? {t : Timestamp} {s : List Char} (h : t.toRfc3339? = some s) :
    timestamp? (.string (some s)) = some t :=
  Timestamp.ofRfc3339?_of_toRfc3339? h

/-- A missing expiry is written as null, and both are read back. -/
theorem expires_spec {e : Option Timestamp} {j : Json} (h : expiresJson? e = some j) :
    j.IsPlain ∧ j.nullable? timestamp? = some e := by
  cases e with
  | none =>
    cases h
    exact ⟨trivial, rfl⟩
  | some t =>
    obtain ⟨s, hs, rfl⟩ := Option.map_eq_some_iff.1 h
    refine ⟨rfl, ?_⟩
    show (timestamp? (.string (some s))).map some = some (some t)
    rw [timestamp?_of_toRfc3339? hs, Option.map_some]

/-- The record of a cookie with these values for its two timestamps. -/
def record (c : Cookie) (expires created : Json) : Json :=
  .ofMembers [
    ("name", .ofText c.name),
    ("value", .ofText c.value),
    ("domain", .ofText c.domain),
    ("path", .ofText c.path),
    ("host_only", .bool c.hostOnly),
    ("secure", .bool c.secure),
    ("http_only", .bool c.httpOnly),
    ("same_site", sameSiteJson c.sameSite),
    ("expires", expires),
    ("creation_time", created)]

/-- A cookie has a record if its timestamps have a text. -/
theorem toJson?_eq (c : Cookie) :
    c.toJson? = (expiresJson? c.expires).bind fun expires =>
      c.created.toRfc3339?.bind fun created => some (c.record expires (.string (some created))) := by
  unfold toJson? expiresJson?
  cases c.expires <;> rfl

/-- A cookie is written only if both of its timestamps are. -/
theorem exists_of_toJson? {c : Cookie} {j : Json} (h : c.toJson? = some j) :
    ∃ expires created, expiresJson? c.expires = some expires ∧
      c.created.toRfc3339? = some created ∧ j = c.record expires (.string (some created)) := by
  rw [toJson?_eq] at h
  obtain ⟨expires, hexpires, h⟩ := Option.bind_eq_some_iff.1 h
  obtain ⟨created, hcreated, h⟩ := Option.bind_eq_some_iff.1 h
  exact ⟨expires, created, hexpires, hcreated, (Option.some.inj h).symm⟩

/-- A cookie has no record exactly if one of its timestamps has no text. -/
theorem toJson?_eq_none_iff {c : Cookie} :
    c.toJson? = none ↔ ∃ t ∈ c.timestamps, t.toRfc3339? = none := by
  have hexpires : expiresJson? c.expires = none ↔ ∃ t ∈ c.expires, t.toRfc3339? = none := by
    cases c.expires <;> simp [expiresJson?]
  rw [toJson?_eq, timestamps]
  cases hexp : expiresJson? c.expires with
  | none =>
    -- The expiry has no text.
    obtain ⟨t, ht, hnone⟩ := hexpires.1 hexp
    simpa using .inr ⟨t, ht, hnone⟩
  | some j =>
    -- The expiry has one, so all depends on the creation.
    have hall : ¬ ∃ t ∈ c.expires, t.toRfc3339? = none := by
      rw [← hexpires, hexp]
      simp
    cases hcr : c.created.toRfc3339? with
    | none => simp [hcr]
    | some s => simpa [hcr] using hall

/-- All fields of a record are found in it. -/
theorem fields?_record (c : Cookie) (expires created : Json) :
    (c.record expires created).fields? (fieldNames.map String.toList) =
      some [some (.ofText c.name), some (.ofText c.value), some (.ofText c.domain),
        some (.ofText c.path), some (.bool c.hostOnly), some (.bool c.secure),
        some (.bool c.httpOnly), some (sameSiteJson c.sameSite), some expires,
        some created] := rfl

/-- The record of a cookie can be read back from its text. -/
theorem isPlain_of_toJson? {c : Cookie} {j : Json} (h : c.toJson? = some j) : j.IsPlain := by
  obtain ⟨expires, created, hexpires, _, rfl⟩ := exists_of_toJson? h
  rw [record, Json.isPlain_ofMembers]
  intro m hm
  simp only [List.mem_cons, List.not_mem_nil, or_false] at hm
  -- The ten members, in the order they are written.
  rcases hm with rfl | rfl | rfl | rfl | rfl | rfl | rfl | rfl | rfl | rfl
  · exact isPlain_ofText _
  · exact isPlain_ofText _
  · exact isPlain_ofText _
  · exact isPlain_ofText _
  · trivial
  · trivial
  · trivial
  · exact (sameSite_spec _).1
  · exact (expires_spec hexpires).1
  · exact rfl

/-- A cookie is read back from its record with all its fields. -/
theorem ofJson?_of_toJson? {c : Cookie} {j : Json} (h : c.toJson? = some j) :
    ofJson? j = some c := by
  obtain ⟨expires, created, hexpires, hcreated, rfl⟩ := exists_of_toJson? h
  have hsame := (sameSite_spec c.sameSite).2
  have hexp := (expires_spec hexpires).2
  have hcr := timestamp?_of_toRfc3339? hcreated
  simp only [ofJson?, fields?_record, text?_ofText, Json.bool?, Option.getD_some, hsame, hexp, hcr,
    Option.bind_eq_bind, Option.bind_some]

end Cookie

namespace CookieFile

/-- Cookies are read back from their records. -/
theorem mapM_of_mapM {cs : List Cookie} {js : List Json} (h : cs.mapM Cookie.toJson? = some js) :
    (∀ j ∈ js, j.IsPlain) ∧ js.mapM Cookie.ofJson? = some cs := by
  induction cs generalizing js with
  | nil =>
    cases h
    exact ⟨by simp, rfl⟩
  | cons c cs ih =>
    rw [List.mapM_cons] at h
    obtain ⟨j, hj, h⟩ := Option.bind_eq_some_iff.1 h
    obtain ⟨js', hjs, h⟩ := Option.bind_eq_some_iff.1 h
    cases h
    obtain ⟨hplain, hread⟩ := ih hjs
    refine ⟨?_, ?_⟩
    · intro k hk
      rcases List.mem_cons.1 hk with rfl | hk
      · exact Cookie.isPlain_of_toJson? hj
      · exact hplain k hk
    · rw [List.mapM_cons, Cookie.ofJson?_of_toJson? hj, hread]
      rfl

/-- A list of cookies has no text exactly if a timestamp in it has none. -/
theorem text?_eq_none_iff {cs : List Cookie} :
    text? cs = none ↔ ∃ c ∈ cs, ∃ t ∈ c.timestamps, t.toRfc3339? = none := by
  have hrecords : text? cs = none ↔ cs.mapM Cookie.toJson? = none := by
    unfold text?
    cases cs.mapM Cookie.toJson? <;> simp
  rw [hrecords]
  clear hrecords
  induction cs with
  | nil => simp
  | cons c cs ih =>
    -- The first cookie has no text, or the others have none.
    rw [List.mapM_cons, List.exists_mem_cons_iff, ← Cookie.toJson?_eq_none_iff]
    refine Iff.trans ?_ (or_congr_right ih)
    cases c.toJson? with
    | none => simp
    | some j => cases cs.mapM Cookie.toJson? <;> simp

/-- The record of a file with these records of cookies. -/
def ofRecords (records : List Json) : Json :=
  .ofMembers [("version", .ofNat version), ("cookies", .array records)]

/-- The content of a file is plain JSON if its records are. -/
theorem isPlain_ofRecords {records : List Json} (h : ∀ j ∈ records, j.IsPlain) :
    (ofRecords records).IsPlain := by
  rw [ofRecords, Json.isPlain_ofMembers]
  intro m hm
  simp only [List.mem_cons, List.not_mem_nil, or_false] at hm
  rcases hm with rfl | rfl
  · have hdigits : Nat.toDigits 10 version = ['1'] := rfl
    show Json.IsNatural (Nat.toDigits 10 version)
    rw [hdigits]
    refine ⟨by decide, ?_, by decide⟩
    intro c hc
    rw [List.mem_singleton.1 hc]
    rfl
  · exact Json.isPlainItems_iff.2 h

/-- A file of records that can be read is read back, with its version. -/
theorem ofJson?_ofRecords {records : List Json} {cs : List Cookie}
    (h : records.mapM Cookie.ofJson? = some cs) :
    ofJson? (ofRecords records) = some (version, cs) := by
  have hfields : (ofRecords records).fields? ["version".toList, "cookies".toList] =
      some [some (.ofNat version), some (.array records)] := rfl
  have hversion : (Json.ofNat version).natBelow? 0x100000000 = some version := by decide
  simp only [ofJson?, hfields, hversion, Json.items?, h, Option.bind_eq_bind, Option.bind_some]

/-- The cookies of a file are read back from its text. -/
theorem parse_of_text? {cs : List Cookie} {s : String} (h : text? cs = some s) :
    parse s = .ok cs := by
  obtain ⟨records, hrecords, h⟩ := Option.bind_eq_some_iff.1 h
  obtain ⟨hplain, hread⟩ := mapM_of_mapM hrecords
  have hs : s.toList = (ofRecords records).pretty := by
    rw [← Option.some.inj h]
    exact String.toList_ofList
  -- The text begins with a brace, so it is not blank.
  have hblank : (ofRecords records).pretty.all isBlank = false := by
    show (isBlank '\x7b' && _) = false
    rw [show isBlank '\x7b' = false by decide, Bool.false_and]
  rw [parse, hs, hblank, Json.parse?_pretty (isPlain_ofRecords hplain)]
  simp only [Option.bind_some, ofJson?_ofRecords hread]
  rfl

end CookieFile

end HttpState
