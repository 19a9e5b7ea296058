import HttpState.Manager.Application
import HttpState.Proofs.Address
import HttpState.Proofs.Cookie.Received
import HttpState.Proofs.Jar.Contents
import HttpState.Proofs.Jar.Retrieval
import HttpState.Proofs.Manager.Jars

/-!
# Cookies of files and cookies of the web

A jar does not keep what kind of address a cookie came from; only its host tells. The addresses of
files are meant to have the empty host, and those of the web to have another one. Where that is so,
cookies of files are sent to files only and cookies of the web to the web only, as an empty host and
any other host have no cookies in common.

It is not always so. A URL of a file may name a server, which is the host of its address then, and
the host of a web URL may consist of full stops, which are all taken away.

## Key results

- `Address.hostTellsKind_iff`: the URLs for which the host tells the kind of address
- `Cookie.domain_eq_empty_iff`, `Cookie.domain_eq_empty_iff_of_isSentTo`: cookies with an empty
  domain are set by empty hosts, and sent to empty hosts
- `sent_cookies_isolated`: where a cookie that is sent can have come from
-/

namespace HttpState

open HttpState.Text

/-! ## Hosts of addresses -/

/-- The host is empty if the address is that of a file, and only then. -/
def Address.HostTellsKind (a : Address) : Prop := a.isFile = true ↔ a.host = ""

/-- The host tells the kind of address for a file without a server, and for a web host that has
    something else than full stops. -/
theorem Address.hostTellsKind_iff {u : Url} {a : Address} (h : ofUrl u = .ok a) :
    a.HostTellsKind ↔ if a.isFile then u.hostText = [] else ∃ c ∈ u.hostText, c ≠ '.' := by
  unfold ofUrl at h
  split at h
  · exact nomatch h
  · rename_i channel _
    split at h
    · exact nomatch h
    · rename_i text htext
      have hempty := hostText?_eq_some htext
      cases h
      simp only [HostTellsKind, isFile, String.ofList_eq_empty_iff, hempty, beq_iff_eq,
        Url.hostText]
      -- For a file the host is empty as it is; any other host has something that is not a full
      -- stop.
      by_cases hfile : channel = .file
      · simp [hfile]
      · simp [hfile]

/-! ## Domains of cookies -/

/-- A cookie has a domain, or is bound to its host. Every received cookie does. -/
def Cookie.IsScoped (c : Cookie) : Prop := c.hostOnly = true ∨ c.domain ≠ ""

namespace Scope

/-- Two texts of the same letters are empty or not together. -/
theorem eq_empty_iff_of_sameLetters {a b : String} (h : sameLetters a b = true) :
    a = "" ↔ b = "" := by
  have hmap : a.toList.map Char.toLower = b.toList.map Char.toLower := by
    simpa [sameLetters] using h
  rw [← String.toList_eq_nil_iff, ← String.toList_eq_nil_iff, ← List.map_eq_nil_iff, hmap,
    List.map_eq_nil_iff]

/-- A host that a domain matches is empty if the domain is. No host lies below an empty domain that
    a cookie can have. -/
theorem eq_empty_iff_of_domainMatches {domain host : String} {hostOnly : Bool}
    (hne : hostOnly = true ∨ domain ≠ "") (h : domainMatches domain host hostOnly = true) :
    domain = "" ↔ host = "" := by
  simp only [domainMatches, Bool.or_eq_true, Bool.and_eq_true, Bool.not_eq_true'] at h
  -- The cookie is bound to its host, or the host lies below its domain.
  rcases h with hsame | ⟨⟨hfalse, _⟩, hbelow⟩
  · exact eq_empty_iff_of_sameLetters hsame
  · -- Neither is empty: the cookie is not bound to its host, and the host ends in a full stop and
    -- the domain.
    have hdomain : domain ≠ "" := by
      rcases hne with htrue | hne
      · rw [hfalse] at htrue
        exact absurd htrue Bool.false_ne_true
      · exact hne
    have hhost : host ≠ "" := by
      rintro rfl
      have hsuffix := List.isSuffixOf_iff_suffix.1 hbelow
      exact absurd hsuffix.length_le (by simp)
    exact ⟨fun heq => absurd heq hdomain, fun heq => absurd heq hhost⟩

end Scope

/-- The domain of a received cookie is empty if the host is that it came from, and then it is bound
    to this host. -/
theorem Cookie.domain_eq_empty_iff {a : Address} {header : String} {now : Int} {c : Cookie}
    (h : Cookie.receive? a header now = some c) :
    (c.domain = "" ↔ a.host = "") ∧ c.IsScoped := by
  have hne := Cookie.hostOnly_or_domain_ne_of_receive? h
  exact ⟨Scope.eq_empty_iff_of_domainMatches hne (Cookie.domainMatches_of_receive? h), hne⟩

/-- A host that a cookie is sent to is empty if the domain of the cookie is. -/
theorem Cookie.domain_eq_empty_iff_of_isSentTo {c : Cookie} {a : Address} {now : Int}
    (hscoped : c.IsScoped) (h : c.isSentTo a now = true) : c.domain = "" ↔ a.host = "" := by
  simp only [Cookie.isSentTo, Bool.and_eq_true] at h
  exact Scope.eq_empty_iff_of_domainMatches hscoped h.1.1.1

namespace Manager

/-! ## Cookies of a run -/

/-- A cookie that a call in a run sets for an address, or removes if it has expired. -/
def Received (m : Manager) (events : List Event) (mode : PrivacyMode) (a : Address) (c : Cookie) :
    Prop :=
  ∃ now url header, Event.call now (.setCookie url header mode) ∈ events ∧
    m.address? url = some a ∧ Cookie.receive? a header now = some c

/-- The cookies of a jar were there when the run began or have been received in it, except for their
    creation times. -/
theorem exists_received_of_mem (m : Manager) (s : Storage) (events : List Event)
    (mode : PrivacyMode) : ∀ d ∈ ((m.run s events).1.jar mode).cookies,
      (∃ t, { d with created := t } ∈ (m.jar mode).cookies) ∨
        ∃ a c, m.Received events mode a c ∧ d = { c with created := d.created } := by
  obtain ⟨ops, hrun, hops⟩ := exists_jar_run m s events mode
  rw [hrun]
  -- A property of all cookies that a run of the jar brings; it does not mention creation times.
  apply Jar.forall_mem_run
  · -- The age of a cookie has no part in it.
    intro c t hc
    rcases hc with ⟨t', hc⟩ | ⟨a, c', hreceived, heq⟩
    · exact .inl ⟨t', hc⟩
    · refine .inr ⟨a, c', hreceived, ?_⟩
      rw [heq]
  · exact fun d hd => .inl ⟨d.created, hd⟩
  · intro o ho
    obtain ⟨e, he, hperforms⟩ := hops o ho
    obtain ⟨now, op⟩ := o
    cases op with
    | receive a header =>
      -- What a header brings was received by an event of the run, at the address of its URL.
      obtain ⟨url, rfl, ha⟩ := hperforms
      intro c hc
      exact .inr ⟨a, c, ⟨now, url, header, he, ha, hc⟩, rfl⟩
    | load cs => exact absurd hperforms id
    | _ => trivial

/-- Where a cookie that a manager sends can have come from, whatever was done with the manager. It
    was there at the beginning, or a call for the same mode has set it. Any address that can have
    set it, or has set or removed another cookie with its key, has an empty host exactly if the
    address has one that it is sent to. So where both hosts tell the kind of their address, both
    addresses are of files or both are of the web. -/
theorem sent_cookies_isolated {m : Manager} {s : Storage} {events : List Event}
    {mode : PrivacyMode} {a' : Address} {now' : Int} {d : Cookie}
    (hd : d ∈ ((m.run s events).1.jar mode).sentTo a' now') :
    ((∃ t, { d with created := t } ∈ (m.jar mode).cookies) ∨
        ∃ a c, m.Received events mode a c ∧ d = { c with created := d.created }) ∧
      ∀ a c, m.Received events mode a c →
        d = { c with created := d.created } ∨ (c.key = d.key ∧ d.IsScoped) →
        (a.host = "" ↔ a'.host = "") ∧
          (a.HostTellsKind → a'.HostTellsKind → a.isFile = a'.isFile) := by
  obtain ⟨hmem, hsent⟩ := Jar.mem_and_isSentTo_of_mem_sentTo hd
  refine ⟨exists_received_of_mem m s events mode d hmem, ?_⟩
  intro a c ⟨now, url, header, _, _, hreceived⟩ hcase
  obtain ⟨hempty, hscoped⟩ := Cookie.domain_eq_empty_iff hreceived
  -- In both cases the two cookies have the same domain, which both hosts have to match.
  have hsame : c.domain = d.domain ∧ d.IsScoped := by
    rcases hcase with heq | ⟨hkey, hd⟩
    · rw [heq]
      exact ⟨rfl, hscoped⟩
    · exact ⟨congrArg Cookie.Key.domain hkey, hd⟩
  -- The domain of the cookie is empty exactly if either host is.
  have hhost : a.host = "" ↔ a'.host = "" :=
    calc a.host = "" ↔ c.domain = "" := hempty.symm
      _ ↔ d.domain = "" := by rw [hsame.1]
      _ ↔ a'.host = "" := Cookie.domain_eq_empty_iff_of_isSentTo hsame.2 hsent
  refine ⟨hhost, ?_⟩
  intro hkind hkind'
  rw [Bool.eq_iff_iff]
  calc a.isFile = true ↔ a.host = "" := hkind
    _ ↔ a'.host = "" := hhost
    _ ↔ a'.isFile = true := hkind'.symm

/-- The manager of an application that lets files carry cookies. -/
def withFiles : Manager := ((Application.start .empty).setAllowFile true).manager.1

set_option maxRecDepth 10000 in
/-- What a file without a server sends was set by an address with an empty host. -/
theorem sent_cookies_isolated_file :
    ∃ a c, withFiles.Received [.call 0 (.setCookie "file:///a/b" "k=v" .normal)] .normal a c ∧
      c.value = "v" ∧ a.host = "" := by
  have hsent : ⟨"k", "v", "", "/a", true, false, false, none, none, .utc 0⟩ ∈
      ((withFiles.run .empty [.call 0 (.setCookie "file:///a/b" "k=v" .normal)]).1.jar
        .normal).sentTo ⟨"", "/a/c", .file⟩ 1 := by
    decide +kernel
  obtain ⟨horigin, hhosts⟩ := sent_cookies_isolated hsent
  -- The jar had no cookies, so the cookie comes of the one event.
  rcases horigin with ⟨t, ht⟩ | ⟨a, c, hreceived, heq⟩
  · have hempty : (withFiles.jar .normal).cookies = [] := rfl
    rw [hempty] at ht
    exact absurd ht List.not_mem_nil
  · have hhost := (hhosts a c hreceived (.inl heq)).1
    exact ⟨a, c, hreceived, (congrArg Cookie.value heq).symm, hhost.2 rfl⟩

set_option maxRecDepth 10000 in
/-- A file on a server has the host of the server, and a web host that is a full stop is empty. In
    both cases cookies get from files to the web, or the other way. -/
theorem sent_cookies_not_isolated :
    (withFiles.run .empty [.call 0 (.setCookie "file://example.com/" "k=v" .normal)]).1.getCookie?
        "http://example.com/" .normal 1 = some "k=v" ∧
      (withFiles.run .empty [.call 0 (.setCookie "http://./" "w=1" .normal)]).1.getCookie?
        "file:///" .normal 1 = some "w=1" := by
  decide +kernel

end Manager

end HttpState
