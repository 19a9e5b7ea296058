import HttpState.Manager.Application
import HttpState.Proofs.Manager.Run

/-!
# Normal and private browsing do not interfere

Two runs of a manager are compared, one of which lacks events that are about one of the two modes.
The other mode cannot tell them apart: all calls that are not about the first mode have the same
answers in both runs and, as private browsing never reaches a store, storage is the same as well if
events of private browsing are missing.

The two runs have different managers. `SameNormal` says that they differ in the private jar only,
`SamePrivate` that the private jars are the same. An event that is missing on one side keeps such a
relation, and so does an event that happens on both sides.

## Key results

- `SameNormal.apply`, `sameNormal_apply`: what an event does to managers with the same normal jar
- `SamePrivate.apply`, `samePrivate_apply`: what an event does to managers with the same private jar
- `modes_do_not_interfere`: the two runs, with whatever events are missing
-/

namespace HttpState.Manager

/-! ## Managers that differ in private browsing -/

/-- The managers differ in the cookies of private browsing at most. -/
def SameNormal (m n : Manager) : Prop := ∃ j, n = { m with privateJar := j }

/-- A manager is the same as itself outside private browsing. -/
theorem SameNormal.refl (m : Manager) : SameNormal m m := ⟨m.privateJar, rfl⟩

/-- Two such steps of likeness make one. -/
theorem SameNormal.trans {m n o : Manager} (h : SameNormal m n) (h' : SameNormal n o) :
    SameNormal m o := by
  obtain ⟨j, rfl⟩ := h
  obtain ⟨j', rfl⟩ := h'
  exact ⟨j', rfl⟩

/-- Likeness outside private browsing goes both ways. -/
theorem SameNormal.symm {m n : Manager} (h : SameNormal m n) : SameNormal n m := by
  obtain ⟨j, rfl⟩ := h
  exact ⟨m.privateJar, rfl⟩

/-- Setting a cookie in private browsing changes the private jar only, and no storage. -/
theorem setCookie_private (m : Manager) (url header : String) (s : Storage) (now : Int) :
    SameNormal m (m.setCookie url header .privateBrowsing s now).1 ∧
      (m.setCookie url header .privateBrowsing s now).2 = s := by
  unfold setCookie
  cases m.address? url with
  | none => exact ⟨.refl m, rfl⟩
  | some a => exact ⟨⟨_, rfl⟩, rfl⟩

/-- A call about private browsing changes nothing but its cookies. -/
theorem sameNormal_apply (m : Manager) (s : Storage) {e : Event} (h : e.isPrivate = true) :
    SameNormal m (e.apply m s).2.1 ∧ (e.apply m s).2.2 = s := by
  cases e with
  -- Removals are for the normal jar.
  | removal request fails => exact nomatch h
  | outside change => exact nomatch h
  | call now op =>
    cases op with
    | setCookie url header mode =>
      cases mode with
      | normal => exact nomatch h
      | privateBrowsing => exact setCookie_private m url header s now
    -- Reading changes nothing.
    | getCookie url mode | hasCookies mode => exact ⟨.refl m, rfl⟩
    -- Only the private jar is cleared.
    | clearPrivate => exact ⟨⟨_, rfl⟩, rfl⟩
    | _ => exact nomatch h

/-- Setting a cookie outside private browsing does the same to two managers that are alike there. -/
theorem SameNormal.setCookie {m n : Manager} (h : SameNormal m n) (url header : String)
    (s : Storage) (now : Int) :
    SameNormal (m.setCookie url header .normal s now).1 (n.setCookie url header .normal s now).1 ∧
      (n.setCookie url header .normal s now).2 = (m.setCookie url header .normal s now).2 := by
  obtain ⟨j, rfl⟩ := h
  unfold Manager.setCookie
  rw [show address? { m with privateJar := j } url = m.address? url from rfl]
  cases m.address? url with
  | none => exact ⟨⟨j, rfl⟩, rfl⟩
  | some a => exact ⟨⟨j, rfl⟩, rfl⟩

/-- So does a removal of the session cookies. -/
theorem SameNormal.runRemoval {m n : Manager} (h : SameNormal m n) (request : Nat) (fails : Bool) :
    SameNormal (m.runRemoval request fails) (n.runRemoval request fails) := by
  obtain ⟨j, rfl⟩ := h
  unfold Manager.runRemoval
  cases m.queue.contains request with
  | false => exact ⟨j, rfl⟩
  | true => exact ⟨_, rfl⟩

/-- Any other event does the same to managers that differ in the cookies of private browsing. -/
theorem SameNormal.apply {m n : Manager} (h : SameNormal m n) (s : Storage) {e : Event}
    (he : e.isPrivate = false) :
    (e.apply n s).1 = (e.apply m s).1 ∧ SameNormal (e.apply m s).2.1 (e.apply n s).2.1 ∧
      (e.apply n s).2.2 = (e.apply m s).2.2 := by
  cases e with
  -- Removals and changes outside do not look at the private jar.
  | removal request fails => exact ⟨rfl, h.runRemoval request fails, rfl⟩
  | outside change => exact ⟨rfl, h, rfl⟩
  | call now op =>
    -- A call about private browsing is ruled out by `he`.
    cases op with
    | setCookie url header mode =>
      cases mode with
      | normal =>
        refine ⟨?_, h.setCookie url header s now⟩
        obtain ⟨j, rfl⟩ := h
        rfl
      | privateBrowsing => exact nomatch he
    | getCookie url mode | hasCookies mode =>
      cases mode with
      | normal =>
        obtain ⟨j, rfl⟩ := h
        exact ⟨rfl, ⟨j, rfl⟩, rfl⟩
      | privateBrowsing => exact nomatch he
    | clearPrivate => exact nomatch he
    | _ =>
      obtain ⟨j, rfl⟩ := h
      exact ⟨rfl, ⟨_, rfl⟩, rfl⟩

/-- Two runs that begin with managers that differ in private browsing, the second one without some
    events of private browsing: what is seen of all other events is the same. -/
theorem SameNormal.run {m n : Manager} (h : SameNormal m n) (s : Storage) {keep : Event → Bool}
    (hkeep : ∀ e, e.isPrivate = false → keep e = true) (events : List Event) :
    (m.trace s events).filter (!·.event.isPrivate) =
        (n.trace s (events.filter keep)).filter (!·.event.isPrivate) ∧
      (m.run s events).2 = (n.run s (events.filter keep)).2 := by
  induction events generalizing m n s with
  | nil => exact ⟨rfl, rfl⟩
  | cons e events ih =>
    cases hprivate : e.isPrivate with
    | false =>
      -- The event happens on both sides, is answered alike and leaves storage alike.
      obtain ⟨hanswer, hsame, hstorage⟩ := h.apply s hprivate
      obtain ⟨htrace, hrun⟩ := ih hsame (e.apply m s).2.2
      rw [List.filter_cons_of_pos (hkeep e hprivate), trace_cons, trace_cons, run_cons, run_cons,
        hanswer, hstorage, List.filter_cons_of_pos (by simp [hprivate]),
        List.filter_cons_of_pos (by simp [hprivate]), htrace]
      exact ⟨rfl, hrun⟩
    | true =>
      -- The event is not seen on the left. On the right it may be missing.
      obtain ⟨hm, hmstorage⟩ := sameNormal_apply m s hprivate
      rw [trace_cons, run_cons, hmstorage, List.filter_cons_of_neg (by simp [hprivate])]
      cases hkept : keep e with
      | false =>
        rw [List.filter_cons_of_neg (by simp [hkept])]
        exact ih (hm.symm.trans h) s
      | true =>
        obtain ⟨hn, hnstorage⟩ := sameNormal_apply n s hprivate
        rw [List.filter_cons_of_pos hkept, trace_cons, run_cons, hnstorage,
          List.filter_cons_of_neg (by simp [hprivate])]
        exact ih (hm.symm.trans (h.trans hn)) s

/-! ## Managers that differ in normal browsing -/

/-- The managers have the same cookies of private browsing, and the same view of files. -/
structure SamePrivate (m n : Manager) : Prop where
  privateJar : m.privateJar = n.privateJar
  fileCookies : m.fileCookies = n.fileCookies

/-- A manager has the same private cookies as itself. -/
theorem SamePrivate.refl (m : Manager) : SamePrivate m m := ⟨rfl, rfl⟩

/-- Likeness in private browsing goes both ways. -/
theorem SamePrivate.symm {m n : Manager} (h : SamePrivate m n) : SamePrivate n m :=
  ⟨h.privateJar.symm, h.fileCookies.symm⟩

/-- Two steps of likeness in private browsing make one. -/
theorem SamePrivate.trans {m n o : Manager} (h : SamePrivate m n) (h' : SamePrivate n o) :
    SamePrivate m o :=
  ⟨h.privateJar.trans h'.privateJar, h.fileCookies.trans h'.fileCookies⟩

/-- Managers with the same policy on files find the same addresses. -/
theorem SamePrivate.address? {m n : Manager} (h : SamePrivate m n) (url : String) :
    m.address? url = n.address? url := by
  simp only [Manager.address?, h.fileCookies]

/-- Setting a cookie outside private browsing keeps the private ones. -/
theorem samePrivate_setCookie (m : Manager) (url header : String) (s : Storage) (now : Int) :
    SamePrivate m (m.setCookie url header .normal s now).1 := by
  refine ⟨?_, (fileCookies_setCookie m url header .normal s now).symm⟩
  unfold setCookie
  cases m.address? url with
  | none => rfl
  | some a => rfl

/-- So does a removal of the session cookies. -/
theorem samePrivate_runRemoval (m : Manager) (request : Nat) (fails : Bool) :
    SamePrivate m (m.runRemoval request fails) :=
  ⟨(privateJar_runRemoval m request fails).symm, (fileCookies_runRemoval m request fails).symm⟩

/-- An event about normal browsing leaves the cookies of private browsing as they are. -/
theorem samePrivate_apply (m : Manager) (s : Storage) {e : Event} (h : e.isNormal = true) :
    SamePrivate m (e.apply m s).2.1 := by
  cases e with
  | removal request fails => exact samePrivate_runRemoval m request fails
  | outside change => exact nomatch h
  | call now op =>
    cases op with
    | setCookie url header mode =>
      cases mode with
      | normal => exact samePrivate_setCookie m url header s now
      | privateBrowsing => exact nomatch h
    -- Reading changes nothing.
    | getCookie url mode | hasCookies mode => exact ⟨rfl, rfl⟩
    | requestSessionRemoval | removeAll | removeExpired | flush => exact ⟨rfl, rfl⟩
    | _ => exact nomatch h

/-- Setting a cookie in private browsing does the same to two managers that are alike there, and is
    out of the calendar for both or for neither. -/
theorem SamePrivate.setCookie {m n : Manager} (h : SamePrivate m n) (url header : String)
    (s t : Storage) (now : Int) :
    SamePrivate (m.setCookie url header .privateBrowsing s now).1
        (n.setCookie url header .privateBrowsing t now).1 ∧
      m.isBeyondCalendar url header .privateBrowsing now =
        n.isBeyondCalendar url header .privateBrowsing now := by
  unfold Manager.setCookie isBeyondCalendar
  rw [h.address?]
  -- The address is refused by both.
  cases n.address? url with
  | none => exact ⟨h, rfl⟩
  | some a =>
    -- It is the same one, and the private jars are the same.
    refine ⟨⟨?_, h.fileCookies⟩, ?_⟩
    · exact congrArg (fun j => (j.receive a header now).2) h.privateJar
    · exact congrArg (fun j => j.isBeyondCalendar a header now) h.privateJar

/-- The header for a URL in private browsing is read off the private jar. -/
theorem SamePrivate.getCookie? {m n : Manager} (h : SamePrivate m n) (url : String) (now : Int) :
    m.getCookie? url .privateBrowsing now = n.getCookie? url .privateBrowsing now := by
  unfold Manager.getCookie?
  rw [h.address?]
  exact congrArg (fun j => (n.address? url).bind fun a => j.header? a now) h.privateJar

/-- An event that happens to managers with the same cookies of private browsing leaves them the
    same, whatever storage is like, and a call about private browsing has the same answer. -/
theorem SamePrivate.apply {m n : Manager} (h : SamePrivate m n) (s t : Storage) (e : Event) :
    SamePrivate (e.apply m s).2.1 (e.apply n t).2.1 ∧
      (e.isPrivate = true → (e.apply m s).1 = (e.apply n t).1) := by
  cases hnormal : e.isNormal with
  | true =>
    -- Both sides keep their cookies of private browsing, whatever else they do.
    have hm := samePrivate_apply m s hnormal
    have hn := samePrivate_apply n t hnormal
    refine ⟨(hm.symm.trans h).trans hn, ?_⟩
    intro hprivate
    rw [Event.isPrivate_of_isNormal hnormal] at hprivate
    exact nomatch hprivate
  | false =>
    cases e with
    | removal request fails => exact nomatch hnormal
    | outside change => exact ⟨h, fun _ => rfl⟩
    | call now op =>
      cases op with
      | setCookie url header mode =>
        cases mode with
        | normal => exact nomatch hnormal
        | privateBrowsing =>
          obtain ⟨hsame, hbeyond⟩ := h.setCookie url header s t now
          refine ⟨hsame, fun _ => ?_⟩
          exact congrArg (fun b : Bool => if b then Answer.beyondCalendar else .done) hbeyond
      | getCookie url mode =>
        cases mode with
        | normal => exact nomatch hnormal
        | privateBrowsing => exact ⟨h, fun _ => congrArg Answer.header (h.getCookie? url now)⟩
      | hasCookies mode =>
        cases mode with
        | normal => exact nomatch hnormal
        | privateBrowsing =>
          exact ⟨h, fun _ => congrArg (fun j : Jar => Answer.flag j.hasCookies) h.privateJar⟩
      | setAccepts b =>
        exact ⟨⟨congrArg (·.setAccepts b) h.privateJar, h.fileCookies⟩, fun _ => rfl⟩
      | clearPrivate => exact ⟨⟨congrArg (·.removeAll) h.privateJar, h.fileCookies⟩, fun _ => rfl⟩
      | accepts | pending | isIdle | fileCookies => exact ⟨h, fun hprivate => nomatch hprivate⟩
      | _ => exact nomatch hnormal

/-- Two runs that begin with managers that differ in normal browsing, the second one without some
    events of normal browsing: the answers to all calls about private browsing are the same. -/
theorem SamePrivate.run {m n : Manager} (h : SamePrivate m n) (s t : Storage) {keep : Event → Bool}
    (hkeep : ∀ e, e.isNormal = false → keep e = true) (events : List Event) :
    ((m.trace s events).filter (·.event.isPrivate)).map (fun o => (o.event, o.answer)) =
      ((n.trace t (events.filter keep)).filter (·.event.isPrivate)).map
        fun o => (o.event, o.answer) := by
  -- Storage differs between the two sides from the first missing event on, so both are general.
  induction events generalizing m n s t with
  | nil => rfl
  | cons e events ih =>
    cases hkept : keep e with
    | false =>
      -- The event is missing on the right, so it is one outside private browsing, which changes
      -- nothing that is seen.
      have hnormal : e.isNormal = true := by
        cases hnormal : e.isNormal with
        | true => rfl
        | false => exact absurd (hkeep e hnormal) (by simp [hkept])
      have hprivate := Event.isPrivate_of_isNormal hnormal
      rw [List.filter_cons_of_neg (by simp [hkept]), trace_cons,
        List.filter_cons_of_neg (by simp [hprivate])]
      exact ih ((samePrivate_apply m s hnormal).symm.trans h) _ t
    | true =>
      obtain ⟨hsame, hanswer⟩ := h.apply s t e
      rw [List.filter_cons_of_pos hkept, trace_cons, trace_cons]
      cases hprivate : e.isPrivate with
      | true =>
        rw [List.filter_cons_of_pos (by simp [hprivate]),
          List.filter_cons_of_pos (by simp [hprivate]), List.map_cons, List.map_cons,
          hanswer hprivate, ih hsame]
      | false =>
        rw [List.filter_cons_of_neg (by simp [hprivate]),
          List.filter_cons_of_neg (by simp [hprivate])]
        exact ih hsame _ _

/-! ## Leaving out one of the modes -/

/-- Take any run of a manager, whatever it was made with, and leave some events out.

    * If only events of private browsing are left out, all other events are answered as before,
      storage is the same after each of them, and it is the same at the end.
    * If only events of normal browsing are left out, calls about private browsing are answered as
      before. -/
theorem modes_do_not_interfere (m : Manager) (s : Storage) (events : List Event) :
    (∀ keep : Event → Bool, (∀ e, e.isPrivate = false → keep e = true) →
      (m.trace s events).filter (!·.event.isPrivate) =
          (m.trace s (events.filter keep)).filter (!·.event.isPrivate) ∧
        (m.run s events).2 = (m.run s (events.filter keep)).2) ∧
    (∀ keep : Event → Bool, (∀ e, e.isNormal = false → keep e = true) →
      ((m.trace s events).filter (·.event.isPrivate)).map (fun o => (o.event, o.answer)) =
        ((m.trace s (events.filter keep)).filter (·.event.isPrivate)).map
          fun o => (o.event, o.answer)) := by
  -- A run without the other mode goes the same way, step by step, as seen from this one.
  refine ⟨?_, ?_⟩
  · intro keep hkeep
    exact (SameNormal.refl m).run s hkeep events
  · intro keep hkeep
    exact (SamePrivate.refl m).run s s hkeep events

set_option maxRecDepth 10000 in
/-- A cookie of private browsing is not seen in normal browsing, and removing the cookies of normal
    browsing does not remove it. -/
theorem modes_do_not_interfere_one_cookie :
    let m := (Application.start .empty).manager.1
    let events : List Event :=
      [.call 0 (.setCookie "http://a.b/" "k=v" .privateBrowsing), .call 1 (.hasCookies .normal),
        .call 2 .removeAll, .call 3 (.hasCookies .privateBrowsing)]
    ((m.trace .empty events).filter (!·.event.isPrivate)).map (·.answer) = [.flag false, .done] ∧
      ((m.trace .empty events).filter (·.event.isPrivate)).map (·.answer) =
        [.done, .flag true] := by
  intro m events
  -- Each mode is looked at in the answers to its own calls.
  obtain ⟨hnormal, hprivate⟩ := modes_do_not_interfere m .empty events
  have htrace := (hnormal (!·.isPrivate) (by simp)).1
  have hanswers := congrArg (List.map Prod.snd) (hprivate (!·.isNormal) (by simp))
  rw [List.map_map, List.map_map] at hanswers
  refine ⟨?_, hanswers.trans ?_⟩
  · rw [htrace]
    decide +kernel
  · decide +kernel

end HttpState.Manager
