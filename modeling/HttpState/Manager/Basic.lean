import HttpState.Barrier
import HttpState.Config
import HttpState.FilePolicy
import HttpState.PrivacyMode

/-!
# The cookie manager

A manager has a jar for normal and a jar for private browsing. It takes the text of a URL, and
passes over those that are no address or, unless files carry cookies, the address of a file. The
private jar never has a store.

Session cookies of the normal jar are removed in the background: a request for it is queued and
counted as pending, and the removal runs at some later time, in any order with other removals. A
removal that fails changes nothing but counts as complete.
-/

namespace HttpState

/-- The jar of normal browsing, with or without a store. -/
inductive NormalJar where
  | volatile (jar : Jar)
  | persistent (jar : PersistentJar)
  deriving DecidableEq, Repr

namespace NormalJar

/-- The cookies of the jar. -/
def jar : NormalJar → Jar
  | .volatile j => j
  | .persistent j => j.jar

/-- Takes a cookie; see `Jar.receive`. -/
def receive (j : NormalJar) (a : Address) (header : String) (s : Storage) (now : Int) :
    NormalJar × Storage :=
  match j with
  | .volatile j => (.volatile (j.receive a header now).2, s)
  | .persistent j => let (_, j, s) := j.receive a header s now; (.persistent j, s)

/-- Removes all cookies. -/
def removeAll (j : NormalJar) (s : Storage) (now : Int) : NormalJar × Storage :=
  match j with
  | .volatile j => (.volatile j.removeAll, s)
  | .persistent j => let (j, s) := j.removeAll s now; (.persistent j, s)

/-- Removes the cookies that have expired. -/
def removeExpired (j : NormalJar) (s : Storage) (now : Int) : NormalJar × Storage :=
  match j with
  | .volatile j => (.volatile (j.removeExpired now), s)
  | .persistent j => let (j, s) := j.removeExpired s now; (.persistent j, s)

/-- Removes the session cookies. -/
def removeSession : NormalJar → NormalJar
  | .volatile j => .volatile j.removeSession
  | .persistent j => .persistent j.removeSession

/-- Writes what the store, if there is one, has not seen. -/
def flush (j : NormalJar) (s : Storage) (now : Int) :
    Except StoreError Unit × NormalJar × Storage :=
  match j with
  | .volatile j => (.ok (), .volatile j, s)
  | .persistent j => let (r, j, s) := j.flush s now; (r, .persistent j, s)

/-- Says whether new cookies are taken. -/
def setAccepts (accepts : Bool) : NormalJar → NormalJar
  | .volatile j => .volatile (j.setAccepts accepts)
  | .persistent j => .persistent (j.setAccepts accepts)

end NormalJar

/-- A cookie manager. -/
structure Manager where
  normal : NormalJar
  privateJar : Jar
  /-- The removals that have not run yet, by the number of the request for them. -/
  queue : List Nat
  /-- How many removals have been requested. -/
  requests : Nat
  barrier : Barrier
  /-- How many removals may run at the same time. -/
  workers : Nat
  /-- Whether files carry cookies. -/
  fileCookies : Bool
  deriving DecidableEq, Repr

/-- Why there is no manager. -/
inductive ManagerError where
  | config (e : ConfigError)
  | store (e : StoreError)
  /-- More removals are to run at the same time than can be counted. -/
  | tooManyWorkers
  /-- The application has a shared manager already. -/
  | alreadyInitialized
  deriving DecidableEq, Repr

/-- The largest number of removals that may run at the same time. -/
def Manager.maxWorkers : Nat := 0x1fffffffffffffff

/-- The wording of an error, where it is that of this library. -/
def ManagerError.message? : ManagerError → Option String
  | .config e => some ("Invalid cookie manager configuration: " ++ e.message)
  | .store e => e.message?
  | .tooManyWorkers =>
    some ("a semaphore may not have more than MAX_PERMITS permits (" ++
      toString Manager.maxWorkers ++ ")")
  | .alreadyInitialized => some "Cookie manager is already initialized"

namespace Manager

/-- Says for both jars whether new cookies are taken. -/
def setAccepts (m : Manager) (accepts : Bool) : Manager :=
  { m with normal := m.normal.setAccepts accepts, privateJar := m.privateJar.setAccepts accepts }

/-- The manager of given jars under a policy. -/
def ofJars (c : Config) (normal : NormalJar) (privateJar : Jar) (p : FilePolicy) : Manager :=
  setAccepts ⟨normal, privateJar, [], 0, .idle, max 1 c.workers, p.accepts⟩ c.acceptCookies

/-- A manager of given jars, which takes a policy over. -/
def ofJars? (c : Config) (normal : NormalJar) (privateJar : Jar) (p : FilePolicy) :
    Except ManagerError (Manager × FilePolicy) :=
  if maxWorkers < c.workers then .error .tooManyWorkers
  else .ok (ofJars c normal privateJar p, p.freeze)

/-- Opens the jar of normal browsing. -/
def openNormal (c : Config) (s : Storage) (now : Int) :
    Except StoreError NormalJar × Storage :=
  match c.store with
  | none => (.ok (.volatile c.emptyJar), s)
  | some place =>
    match place.openStore s with
    | (.error e, s) => (.error e, s)
    | (.ok store, s) =>
      -- Opening may change the storage, for instance by making the table of a database.
      ((PersistentJar.load c.emptyJar store c.writeMode s now).map .persistent, s)

/-- Makes a manager, which takes a policy over. -/
def create (c : Config) (p : FilePolicy) (s : Storage) (now : Int) :
    Except ManagerError (Manager × FilePolicy) × Storage :=
  match c.validate with
  | .error e => (.error (.config e), s)
  | .ok () =>
    match openNormal c s now with
    | (.error e, s) => (.error (.store e), s)
    | (.ok normal, s) => (ofJars? c normal c.emptyJar p, s)

/-- The address of the text of a URL, if it may carry cookies. -/
def address? (m : Manager) (url : String) : Option Address :=
  match Address.parse url with
  | .error _ => none
  | .ok a => if a.isFile && !m.fileCookies then none else some a

/-- The cookies of a privacy mode. -/
def jar (m : Manager) : PrivacyMode → Jar
  | .normal => m.normal.jar
  | .privateBrowsing => m.privateJar

/-- Whether taking a header value fails because the clock is too late; see
    `Jar.isBeyondCalendar`. -/
def isBeyondCalendar (m : Manager) (url header : String) (mode : PrivacyMode) (now : Int) : Bool :=
  match m.address? url with
  | none => false
  | some a => (m.jar mode).isBeyondCalendar a header now

/-- Takes the cookie that a header value sets for a URL. -/
def setCookie (m : Manager) (url header : String) (mode : PrivacyMode) (s : Storage) (now : Int) :
    Manager × Storage :=
  match m.address? url with
  | none => (m, s)
  | some a =>
    match mode with
    | .normal => let (j, s) := m.normal.receive a header s now; ({ m with normal := j }, s)
    | .privateBrowsing => ({ m with privateJar := (m.privateJar.receive a header now).2 }, s)

/-- The header of a request for a URL. -/
def getCookie? (m : Manager) (url : String) (mode : PrivacyMode) (now : Int) : Option String :=
  (m.address? url).bind fun a => (m.jar mode).header? a now

/-- Whether a privacy mode has cookies. -/
def hasCookies (m : Manager) (mode : PrivacyMode) : Bool := (m.jar mode).hasCookies

/-- Whether new cookies are taken. -/
def accepts (m : Manager) : Bool := m.normal.jar.accepts

/-- Requests that the session cookies of normal browsing are removed. -/
def requestSessionRemoval (m : Manager) : Manager :=
  { m with
    queue := m.queue ++ [m.requests]
    requests := m.requests + 1
    barrier := m.barrier.start }

/-- Runs a removal that is queued; if it fails, it removes nothing. -/
def runRemoval (m : Manager) (request : Nat) (fails : Bool) : Manager :=
  if m.queue.contains request then
    { m with
      normal := if fails then m.normal else m.normal.removeSession
      queue := m.queue.erase request
      barrier := m.barrier.complete?.getD m.barrier }
  else m

/-- Runs all removals that are queued. -/
def settle (m : Manager) (fails : Bool) : Manager :=
  m.queue.foldl (fun m request => m.runRemoval request fails) m

/-- Removes all cookies of normal browsing. -/
def removeAll (m : Manager) (s : Storage) (now : Int) : Manager × Storage :=
  let (j, s) := m.normal.removeAll s now
  ({ m with normal := j }, s)

/-- Removes the cookies of normal browsing that have expired. -/
def removeExpired (m : Manager) (s : Storage) (now : Int) : Manager × Storage :=
  let (j, s) := m.normal.removeExpired s now
  ({ m with normal := j }, s)

/-- Writes the cookies of normal browsing to their store, and says whether that went well. -/
def flush (m : Manager) (s : Storage) (now : Int) : Bool × Manager × Storage :=
  let (r, j, s) := m.normal.flush s now
  (r.isOk, { m with normal := j }, s)

/-- Removes the cookies of private browsing. -/
def clearPrivate (m : Manager) : Manager := { m with privateJar := m.privateJar.removeAll }

/-- A truth value as it is shown. -/
def boolText (b : Bool) : String := if b then "true" else "false"

/-- A manager as it is shown. -/
def text (m : Manager) : String :=
  "CookieManager \x7b pending: " ++ toString m.barrier.pending ++
    ", executor: BackgroundExecutor \x7b pooled: true, limit: " ++ toString m.workers ++
    " \x7d, file_scheme: " ++ boolText m.fileCookies ++ ", .. \x7d"

end Manager

end HttpState
