import HttpState.Proofs.Jar.Session
import HttpState.Proofs.Manager.Run

/-!
# What a manager does to its jars

An event does nothing to the jar of a mode, or it does what one operation on the jar does. Stores,
background removals and the other jar are of no concern for this, so whatever holds of all runs of a
jar holds of the jars of a manager.

## Key results

- `jarChange_apply`: what a call can do to the jar of a mode
- `exists_jar_apply`: one event, as operations on the jar of a mode
- `exists_jar_run`: a run of a manager, as a run of the jar of a mode
-/

namespace HttpState

/-! ## Jars of normal browsing -/

namespace NormalJar

open PersistentJar (Operation)

variable (j : NormalJar) (s : Storage) (now : Int)

/-- A header does to a jar what it does without a store. -/
theorem jar_receive (a : Address) (header : String) :
    (j.receive a header s now).1.jar = (j.jar.receive a header now).2 := by
  cases j with
  | volatile j => rfl
  | persistent j => exact Operation.jar_apply now j s (.receive a header)

/-- So does removing all cookies. -/
theorem jar_removeAll : (j.removeAll s now).1.jar = j.jar.removeAll := by
  cases j with
  | volatile j => rfl
  | persistent j => exact Operation.jar_apply now j s .removeAll

/-- So does removing the expired ones. -/
theorem jar_removeExpired : (j.removeExpired s now).1.jar = j.jar.removeExpired now := by
  cases j with
  | volatile j => rfl
  | persistent j => exact Operation.jar_apply now j s .removeExpired

/-- A flush does not change the jar. -/
theorem jar_flush : (j.flush s now).2.1.jar = j.jar := by
  cases j with
  | volatile j => rfl
  | persistent j => exact Operation.jar_apply now j s .flush

/-- Removing the session cookies is the same for both kinds of normal jar. -/
theorem jar_removeSession : j.removeSession.jar = j.jar.removeSession := by
  cases j <;> rfl

/-- So is telling it whether to accept cookies. -/
theorem jar_setAccepts (accepts : Bool) :
    (j.setAccepts accepts).jar = j.jar.setAccepts accepts := by
  cases j <;> rfl

end NormalJar

namespace Manager

/-! ## Events -/

/-- The operations on the jar of a mode that an event can come down to. A cookie is only received in
    a call for this mode, and no event loads cookies. -/
def Event.Performs (m : Manager) (mode : PrivacyMode) (e : Event) : Int × Jar.Operation → Prop
  | (now, .receive a header) =>
    ∃ url, e = .call now (.setCookie url header mode) ∧ m.address? url = some a
  | (_, .load _) => False
  | _ => True

/-- Where URLs have the same addresses, an event performs the same operations. -/
theorem Event.Performs.of_fileCookies_eq {m n : Manager} {mode : PrivacyMode} {e : Event}
    {o : Int × Jar.Operation} (h : e.Performs n mode o) (heq : n.fileCookies = m.fileCookies) :
    e.Performs m mode o := by
  obtain ⟨now, op⟩ := o
  cases op with
  | receive a header =>
    obtain ⟨url, he, ha⟩ := h
    refine ⟨url, he, ?_⟩
    rw [← ha, address?, address?, heq]
  | load cs => exact h
  | _ => trivial

/-- A jar that is as it was comes of a run of nothing. -/
theorem exists_jar_run_of_eq {P : Int × Jar.Operation → Prop} {j j' : Jar} (h : j' = j) :
    ∃ ops : List (Int × Jar.Operation), j' = j.run ops ∧ ∀ o ∈ ops, P o :=
  ⟨[], h, nofun⟩

/-- A jar that one operation has changed comes of a run of this operation. -/
theorem exists_jar_run_of_apply {P : Int × Jar.Operation → Prop} {j j' : Jar} (now : Int)
    (op : Jar.Operation) (h : j' = op.apply now j) (hp : P (now, op)) :
    ∃ ops : List (Int × Jar.Operation), j' = j.run ops ∧ ∀ o ∈ ops, P o := by
  refine ⟨[(now, op)], h, ?_⟩
  intro o ho
  rw [List.mem_singleton.1 ho]
  exact hp

/-- A cookie that is set for a URL is received by the jar of its mode. -/
theorem jar_setCookie (m : Manager) {url : String} {a : Address} (h : m.address? url = some a)
    (header : String) (mode : PrivacyMode) (s : Storage) (now : Int) :
    (m.setCookie url header mode s now).1.jar mode = ((m.jar mode).receive a header now).2 := by
  unfold setCookie
  rw [h]
  cases mode with
  | normal => exact NormalJar.jar_receive m.normal s now a header
  | privateBrowsing => rfl

/-- A call for one mode leaves the jar of the other as it is. -/
theorem jar_setCookie_of_ne (m : Manager) (url header : String) {mode other : PrivacyMode}
    (h : other ≠ mode) (s : Storage) (now : Int) :
    (m.setCookie url header mode s now).1.jar other = m.jar other := by
  unfold setCookie
  cases m.address? url with
  | none => rfl
  | some a =>
    -- Each mode writes to its own jar.
    cases mode with
    | normal =>
      cases other with
      | normal => exact absurd rfl h
      | privateBrowsing => rfl
    | privateBrowsing =>
      cases other with
      | normal => rfl
      | privateBrowsing => exact absurd rfl h

/-- A removal removes the session cookies if it is queued and does not fail. -/
theorem jar_runRemoval (m : Manager) (request : Nat) (fails : Bool) :
    (m.runRemoval request fails).normal.jar =
      if m.queue.contains request && !fails then m.normal.jar.removeSession else m.normal.jar := by
  unfold runRemoval
  cases m.queue.contains request with
  | false => rfl
  | true =>
    cases fails with
    | false => exact m.normal.jar_removeSession
    | true => rfl

/-- What a call for a manager can do to the jar of a mode. -/
inductive JarChange (m : Manager) (mode : PrivacyMode) (now : Int) (op : Operation) : Jar → Prop
  /-- Most calls are not about this jar. -/
  | same : JarChange m mode now op (m.jar mode)
  /-- The jar takes a header value, for a URL that may carry cookies. -/
  | received (url header : String) (a : Address) (call : op = .setCookie url header mode)
      (address : m.address? url = some a) :
      JarChange m mode now op ((m.jar mode).receive a header now).2
  /-- All cookies are removed. -/
  | removedAll : JarChange m mode now op (m.jar mode).removeAll
  /-- The cookies are removed that have expired. -/
  | removedExpired : JarChange m mode now op ((m.jar mode).removeExpired now)
  /-- It is said whether new cookies are taken. -/
  | accepted (b : Bool) (call : op = .setAccepts b) :
      JarChange m mode now op ((m.jar mode).setAccepts b)

/-- A call leaves the jar of a mode in one of these states. -/
theorem jarChange_apply (m : Manager) (s : Storage) (now : Int) (op : Operation)
    (mode : PrivacyMode) : JarChange m mode now op ((op.apply now m s).2.1.jar mode) := by
  cases op with
  | setCookie url header other =>
    change JarChange m mode now _ ((m.setCookie url header other s now).1.jar mode)
    -- Only the jar of the mode that is written to receives anything.
    by_cases hmode : mode = other
    · subst hmode
      cases ha : m.address? url with
      | none =>
        rw [setCookie, ha]
        exact .same
      | some a =>
        rw [jar_setCookie m ha]
        exact .received url header a rfl ha
    · rw [jar_setCookie_of_ne m url header hmode]
      exact .same
  | setAccepts b =>
    -- Both jars are told.
    cases mode with
    | normal =>
      change JarChange m .normal now _ (m.normal.setAccepts b).jar
      rw [NormalJar.jar_setAccepts]
      exact .accepted b rfl
    | privateBrowsing => exact .accepted b rfl
  | removeAll =>
    -- What is removed or flushed is the normal jar; the private jar is cleared on its own.
    cases mode with
    | normal =>
      change JarChange m .normal now _ (m.normal.removeAll s now).1.jar
      rw [NormalJar.jar_removeAll]
      exact .removedAll
    | privateBrowsing => exact .same
  | removeExpired =>
    cases mode with
    | normal =>
      change JarChange m .normal now _ (m.normal.removeExpired s now).1.jar
      rw [NormalJar.jar_removeExpired]
      exact .removedExpired
    | privateBrowsing => exact .same
  | flush =>
    cases mode with
    | normal =>
      change JarChange m .normal now _ (m.normal.flush s now).2.1.jar
      rw [NormalJar.jar_flush]
      exact .same
    | privateBrowsing => exact .same
  | clearPrivate =>
    cases mode with
    | normal => exact .same
    | privateBrowsing => exact .removedAll
  | _ => exact .same

/-- An event does nothing to the jar of a mode, or what an operation does. -/
theorem exists_jar_apply (m : Manager) (s : Storage) (e : Event) (mode : PrivacyMode) :
    ∃ ops : List (Int × Jar.Operation), (e.apply m s).2.1.jar mode = (m.jar mode).run ops ∧
      ∀ o ∈ ops, e.Performs m mode o := by
  cases e with
  | outside change => exact exists_jar_run_of_eq rfl
  | removal request fails =>
    -- Only a removal that is in the queue and does not fail touches a jar, and that is the normal
    -- one.
    cases mode with
    | normal =>
      -- A removal needs no clock, so any reading will do.
      have hjar := jar_runRemoval m request fails
      cases hruns : m.queue.contains request && !fails with
      | true =>
        rw [hruns, if_pos rfl] at hjar
        exact exists_jar_run_of_apply 0 .removeSession hjar trivial
      | false =>
        rw [hruns, if_neg Bool.false_ne_true] at hjar
        exact exists_jar_run_of_eq hjar
    | privateBrowsing => exact exists_jar_run_of_eq (privateJar_runRemoval m request fails)
  | call now op =>
    have hchange := jarChange_apply m s now op mode
    change ∃ ops : List (Int × Jar.Operation), (op.apply now m s).2.1.jar mode = _ ∧ _
    -- What the call can have done to this jar is one operation, or none.
    generalize (op.apply now m s).2.1.jar mode = j at hchange ⊢
    cases hchange with
    | same => exact exists_jar_run_of_eq rfl
    | received url header a hcall ha =>
      exact exists_jar_run_of_apply now (.receive a header) rfl ⟨url, by rw [hcall], ha⟩
    | removedAll => exact exists_jar_run_of_apply now .removeAll rfl trivial
    | removedExpired => exact exists_jar_run_of_apply now .removeExpired rfl trivial
    | accepted b => exact exists_jar_run_of_apply now (.setAccepts b) rfl trivial

/-! ## Runs -/

/-- A run of a manager is a run of the jar of a mode. -/
theorem exists_jar_run (m : Manager) (s : Storage) (events : List Event) (mode : PrivacyMode) :
    ∃ ops : List (Int × Jar.Operation), (m.run s events).1.jar mode = (m.jar mode).run ops ∧
      ∀ o ∈ ops, ∃ e ∈ events, e.Performs m mode o := by
  induction events generalizing m s with
  | nil => exact exists_jar_run_of_eq rfl
  | cons e events ih =>
    -- The operations of the first event, and then those of the others.
    obtain ⟨ops, hops, hperforms⟩ := exists_jar_apply m s e mode
    obtain ⟨ops', hops', hperforms'⟩ := ih (e.apply m s).2.1 (e.apply m s).2.2
    refine ⟨ops ++ ops', ?_, ?_⟩
    · rw [run_cons, hops', hops, Jar.run, Jar.run, Jar.run, List.foldl_append]
    · intro o ho
      rcases List.mem_append.1 ho with ho | ho
      · exact ⟨e, List.mem_cons_self, hperforms o ho⟩
      · obtain ⟨e', he', hperform⟩ := hperforms' o ho
        refine ⟨e', List.mem_cons_of_mem e he', ?_⟩
        -- The manager has come to another state, in which URLs have the same addresses.
        exact hperform.of_fileCookies_eq (fileCookies_apply m s e)

end Manager

end HttpState
