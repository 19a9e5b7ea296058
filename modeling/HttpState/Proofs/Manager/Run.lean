import HttpState.Manager.Basic

/-!
# Using a manager

What is done with a manager, and what is seen of it. Every call comes with its own reading of the
clock. Between calls a removal may run in the background, if it has been requested and has not run
yet, and anything may happen to storage: a medium refuses to work or works again, or somebody else
writes.

## Key definitions

- `Event.apply`: one event, with the answer to it
- `run`: what becomes of manager and storage
- `trace`: what is seen, event by event
-/

namespace HttpState.Manager

/-- A call of a manager. -/
inductive Operation where
  | setCookie (url header : String) (mode : PrivacyMode)
  | getCookie (url : String) (mode : PrivacyMode)
  | hasCookies (mode : PrivacyMode)
  | setAccepts (accepts : Bool)
  | accepts
  | requestSessionRemoval
  | removeAll
  | removeExpired
  | flush
  | clearPrivate
  | pending
  | isIdle
  | fileCookies
  deriving DecidableEq, Repr

/-- What comes of a call. -/
inductive Answer where
  /-- The call has no result. -/
  | done
  /-- The call fails because the clock is too late; see `Manager.isBeyondCalendar`. -/
  | beyondCalendar
  | header (header? : Option String)
  | flag (b : Bool)
  | number (n : Nat)
  deriving DecidableEq, Repr

namespace Operation

/-- A call when the clock reads `now`. -/
def apply (now : Int) (m : Manager) (s : Storage) : Operation → Answer × Manager × Storage
  | .setCookie url header mode =>
    (if m.isBeyondCalendar url header mode now then .beyondCalendar else .done,
      m.setCookie url header mode s now)
  | .getCookie url mode => (.header (m.getCookie? url mode now), m, s)
  | .hasCookies mode => (.flag (m.hasCookies mode), m, s)
  | .setAccepts b => (.done, m.setAccepts b, s)
  | .accepts => (.flag m.accepts, m, s)
  | .requestSessionRemoval => (.done, m.requestSessionRemoval, s)
  | .removeAll => (.done, m.removeAll s now)
  | .removeExpired => (.done, m.removeExpired s now)
  | .flush => let (ok, m, s) := m.flush s now; (.flag ok, m, s)
  | .clearPrivate => (.done, m.clearPrivate, s)
  | .pending => (.number m.barrier.pending, m, s)
  | .isIdle => (.flag m.barrier.isIdle, m, s)
  | .fileCookies => (.flag m.fileCookies, m, s)

/-- Whether a call is about the cookies of private browsing and no others. -/
def isPrivate : Operation → Bool
  | .setCookie _ _ mode | .getCookie _ mode | .hasCookies mode => mode.isPrivate
  | .clearPrivate => true
  | _ => false

/-- Whether a call is about the cookies of normal browsing and no others. -/
def isNormal : Operation → Bool
  | .setCookie _ _ mode | .getCookie _ mode | .hasCookies mode => !mode.isPrivate
  | .requestSessionRemoval | .removeAll | .removeExpired | .flush => true
  | _ => false

end Operation

/-- Something that happens while a manager is in use. -/
inductive Event where
  /-- A call when the clock reads `now`. -/
  | call (now : Int) (op : Operation)
  /-- A removal runs in the background; one that fails removes nothing. -/
  | removal (request : Nat) (fails : Bool)
  /-- Something else happens to storage. -/
  | outside (change : Storage → Storage)

namespace Event

/-- What comes of an event. -/
def apply (m : Manager) (s : Storage) : Event → Answer × Manager × Storage
  | .call now op => op.apply now m s
  | .removal request fails => (.done, m.runRemoval request fails, s)
  | .outside change => (.done, m, change s)

/-- Whether an event is about the cookies of private browsing and no others. -/
def isPrivate : Event → Bool
  | .call _ op => op.isPrivate
  | _ => false

/-- Whether an event is about the cookies of normal browsing and no others. -/
def isNormal : Event → Bool
  | .call _ op => op.isNormal
  | .removal _ _ => true
  | .outside _ => false

/-- No event is about both modes. -/
theorem isPrivate_of_isNormal {e : Event} (h : e.isNormal = true) : e.isPrivate = false := by
  cases e with
  | removal request fails => rfl
  | outside change => rfl
  | call now op =>
    cases op with
    | setCookie url header mode | getCookie url mode | hasCookies mode =>
      cases mode with
      | normal => rfl
      | privateBrowsing => exact nomatch h
    | clearPrivate => exact nomatch h
    | _ => rfl

end Event

/-! ## What stays as it is -/

/-- A removal does not touch the private jar. -/
theorem privateJar_runRemoval (m : Manager) (request : Nat) (fails : Bool) :
    (m.runRemoval request fails).privateJar = m.privateJar := by
  unfold runRemoval
  split
  · rfl
  · rfl

/-- Whether there are cookies for files is decided when a manager is made, so a removal keeps it. -/
theorem fileCookies_runRemoval (m : Manager) (request : Nat) (fails : Bool) :
    (m.runRemoval request fails).fileCookies = m.fileCookies := by
  unfold runRemoval
  split
  · rfl
  · rfl

/-- So does setting a cookie. -/
theorem fileCookies_setCookie (m : Manager) (url header : String) (mode : PrivacyMode)
    (s : Storage) (now : Int) :
    (m.setCookie url header mode s now).1.fileCookies = m.fileCookies := by
  unfold setCookie
  cases m.address? url with
  | none => rfl
  | some a => cases mode <;> rfl

/-- Whether files carry cookies does not change. -/
theorem fileCookies_apply (m : Manager) (s : Storage) (e : Event) :
    (e.apply m s).2.1.fileCookies = m.fileCookies := by
  cases e with
  | outside change => rfl
  | removal request fails => exact fileCookies_runRemoval m request fails
  | call now op =>
    cases op with
    | setCookie url header mode => exact fileCookies_setCookie m url header mode s now
    | _ => rfl

/-! ## Runs -/

/-- What is seen of an event: the answer to a call, and what is in storage afterwards. -/
structure Observation where
  event : Event
  answer : Answer
  storage : Storage

/-- Manager and storage after an event. -/
def step (σ : Manager × Storage) (e : Event) : Manager × Storage := (e.apply σ.1 σ.2).2

/-- Manager and storage after events. -/
def run (m : Manager) (s : Storage) (events : List Event) : Manager × Storage :=
  events.foldl step (m, s)

/-- What is seen of events. -/
def trace (m : Manager) (s : Storage) : List Event → List Observation
  | [] => []
  | e :: events =>
    let (answer, m, s) := e.apply m s
    ⟨e, answer, s⟩ :: trace m s events

/-- A run is its first event and the run from there. -/
theorem run_cons (m : Manager) (s : Storage) (e : Event) (events : List Event) :
    m.run s (e :: events) = (e.apply m s).2.1.run (e.apply m s).2.2 events := rfl

/-- A trace is what is observed of the first event, and the trace from there. -/
theorem trace_cons (m : Manager) (s : Storage) (e : Event) (events : List Event) :
    m.trace s (e :: events) =
      ⟨e, (e.apply m s).1, (e.apply m s).2.2⟩ ::
        (e.apply m s).2.1.trace (e.apply m s).2.2 events := rfl

end HttpState.Manager
