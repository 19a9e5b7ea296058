import HttpState.Manager.Basic

/-!
# The manager of an application

An application has one policy for cookies of files and at most one shared manager. The manager is
made with a configuration at most once, or, when it is first asked for, with the default one. The
policy is frozen as soon as any manager is made.
-/

namespace HttpState

/-- What the cookie managers of an application share. -/
structure Application where
  policy : FilePolicy
  /-- The manager that everyone in the application shares. -/
  shared : Option Manager
  storage : Storage

namespace Application

/-- An application that has just started: files carry no cookies, and there is no manager. -/
def start (s : Storage) : Application := ⟨.of false, none, s⟩

/-- Says whether files carry cookies, as long as there has been no manager. -/
def setAllowFile (a : Application) (accepts : Bool) : Application :=
  { a with policy := (a.policy.setAccepts accepts).2 }

/-- Makes a manager of its own, which takes over the policy of the application. -/
def newManager (a : Application) (c : Config) (now : Int) :
    Except ManagerError Manager × Application :=
  match Manager.create c a.policy a.storage now with
  | (.error e, s) => (.error e, { a with storage := s })
  | (.ok (m, policy), s) => (.ok m, { a with policy := policy, storage := s })

/-- Makes the manager that everyone shares, if there is none. -/
def install (a : Application) (c : Config) (now : Int) :
    Except ManagerError Manager × Application :=
  match a.shared with
  | some _ => (.error .alreadyInitialized, a)
  | none =>
    match a.newManager c now with
    | (.error e, a) => (.error e, a)
    | (.ok m, a) => (.ok m, { a with shared := some m })

/-- The manager that everyone shares; one without a store is made if there is none. -/
def manager (a : Application) : Manager × Application :=
  match a.shared with
  | some m => (m, a)
  | none =>
    let c : Config := {}
    let m := Manager.ofJars c (.volatile c.emptyJar) c.emptyJar a.policy
    (m, { a with policy := a.policy.freeze, shared := some m })

end Application

end HttpState
