import HttpState.Address
import HttpState.Proofs.Text.LetterCase
import HttpState.Proofs.Text.Trim

/-!
# What is known of an address

## Key definitions

- `Url.hostText`: the host of a URL as it is written

## Key results

- `Address.hostText?_eq_some`: for which hosts that of an address is empty
- `Address.ofUrl_eq_ok`, `Address.parse_eq_ok`: where an address comes from
- `Address.isLowerCase_host`: the host of every address has no upper-case letters
-/

namespace HttpState

/-- The host of a URL as it is written. -/
def Url.hostText (u : Url) : List Char := (u.host.map Url.Host.render).getD []

/-- A scheme that has a channel is a network scheme, unless it is that of files. -/
theorem Url.kind_of_ofScheme? {scheme : List Char} {channel : Channel}
    (h : Channel.ofScheme? scheme = some channel) :
    SchemeKind.of scheme = if channel = .file then .file else .network := by
  unfold Channel.ofScheme? at h
  -- One case for each scheme the channel is read from.
  split at h
  · rename_i heq
    obtain rfl := Option.some.inj h
    rcases heq with rfl | rfl <;> rfl
  · split at h
    · rename_i heq
      obtain rfl := Option.some.inj h
      rcases heq with rfl | rfl <;> rfl
    · split at h
      · rename_i heq
        obtain rfl := Option.some.inj h
        rw [heq]
        rfl
      · exact nomatch h

namespace Address

open HttpState.Text

/-- The host of a file's address is empty if that of the URL is; the host of any other address also
    if that of the URL consists of full stops. -/
theorem hostText?_eq_some {channel : Channel} {host : Option Url.Host} {text : List Char}
    (h : hostText? channel host = some text) :
    text = [] ↔ if channel = .file then (host.map Url.Host.render).getD [] = []
      else ∀ c ∈ (host.map Url.Host.render).getD [], c = '.' := by
  simp only [hostText?] at h
  split at h
  · -- A file keeps its host as it is.
    rename_i hfile
    rw [Option.some.injEq] at h
    rw [if_pos hfile, ← h, List.map_eq_nil_iff]
  · -- Elsewhere the full stops at the end are dropped.
    rename_i hweb
    simp only [Option.ite_none_left_eq_some, Option.some.injEq] at h
    rw [if_neg hweb, ← h.2, List.map_eq_nil_iff, dropEndWhile_eq_rdropWhile,
      List.rdropWhile_eq_nil_iff]
    simp only [beq_iff_eq]

/-- The host of an address is in lower case, whatever it was written as. -/
theorem isLowerCase_of_hostText? {channel : Channel} {host : Option Url.Host} {text : List Char}
    (h : hostText? channel host = some text) : IsLowerCase text := by
  simp only [hostText?] at h
  split at h
  · rw [Option.some.injEq] at h
    exact h ▸ isLowerCase_map_toLower _
  · split at h
    · exact nomatch h
    · rw [Option.some.injEq] at h
      exact h ▸ isLowerCase_map_toLower _

/-- Where an address has its parts from. -/
theorem ofUrl_eq_ok {u : Url} {a : Address} (h : ofUrl u = .ok a) :
    ∃ channel host, Channel.ofScheme? u.scheme = some channel ∧
      hostText? channel u.host = some host ∧
      a = ⟨String.ofList host, String.ofList (if u.path.isEmpty then ['/'] else u.path),
        channel⟩ := by
  unfold ofUrl at h
  split at h
  · -- The scheme is not supported.
    exact nomatch h
  · rename_i channel hchannel
    split at h
    · -- A host is missing.
      exact nomatch h
    · rename_i host hhost
      cases h
      exact ⟨channel, host, hchannel, hhost, rfl⟩

/-- An address is that of a URL. -/
theorem parse_eq_ok {raw : String} {a : Address} (h : parse raw = .ok a) :
    ∃ u, Url.parse (withScheme (trim raw.toList)) = .ok u ∧ ofUrl u = .ok a := by
  unfold parse at h
  simp only at h
  split at h
  · exact nomatch h
  · split at h
    · exact nomatch h
    · rename_i u hu
      exact ⟨u, hu, h⟩

/-- The host of an address of a URL has no upper-case letters. -/
theorem isLowerCase_host_of_ofUrl {u : Url} {a : Address} (h : ofUrl u = .ok a) :
    IsLowerCase a.host.toList := by
  obtain ⟨channel, host, -, hhost, rfl⟩ := ofUrl_eq_ok h
  rw [String.toList_ofList]
  exact isLowerCase_of_hostText? hhost

/-- The host of an address has no upper-case letters. -/
theorem isLowerCase_host {raw : String} {a : Address} (h : parse raw = .ok a) :
    IsLowerCase a.host.toList := by
  obtain ⟨u, -, hu⟩ := parse_eq_ok h
  exact isLowerCase_host_of_ofUrl hu

end Address

end HttpState
