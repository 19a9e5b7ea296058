import HttpState.Jar.Request
import HttpState.Storage.Store

/-!
# Jars with a store

A jar over a store remembers whether it has changes that the store has not seen. It writes its
persistent cookies when it is flushed and, if it writes on every change, whenever it changes; a
write that fails then is tried again by the next flush. Session cookies never reach a store.
-/

namespace HttpState

/-- When a jar with a store writes. -/
inductive WriteMode where
  | onFlush
  | onWrite
  deriving DecidableEq, Repr

/-- A jar over a store. -/
structure PersistentJar where
  jar : Jar
  store : Store
  mode : WriteMode
  /-- There are changes that the store has not seen. -/
  dirty : Bool
  deriving DecidableEq, Repr

namespace PersistentJar

/-- A jar over a store that is not read. -/
def attach (jar : Jar) (store : Store) (mode : WriteMode) : PersistentJar :=
  ⟨jar, store, mode, false⟩

/-- A jar with the cookies that a store keeps. -/
def load (jar : Jar) (store : Store) (mode : WriteMode) (s : Storage) (now : Int) :
    Except StoreError PersistentJar :=
  match store.load s with
  | (.ok cs, store) => .ok (attach (jar.load cs now) store mode)
  | (.error e, _) => .error e

/-- Writes the persistent cookies of the jar to its store. -/
def persist (j : PersistentJar) (s : Storage) (now : Int) :
    Except StoreError Unit × PersistentJar × Storage :=
  match j.store.persist (j.jar.snapshot now) s with
  | (.ok (), store, s) => (.ok (), { j with store := store, dirty := false }, s)
  | (.error e, store, s) => (.error e, { j with store := store }, s)

/-- Takes notice of a change. -/
def changed (j : PersistentJar) (s : Storage) (now : Int) : PersistentJar × Storage :=
  let j := { j with dirty := true }
  match j.mode with
  | .onFlush => (j, s)
  | .onWrite => (j.persist s now).2

/-- Takes notice of a change if there was one. -/
def changedIf (b : Bool) (j : PersistentJar) (s : Storage) (now : Int) : PersistentJar × Storage :=
  if b then j.changed s now else (j, s)

/-- Takes a cookie; see `Jar.receive`. -/
def receive (j : PersistentJar) (a : Address) (header : String) (s : Storage) (now : Int) :
    Bool × PersistentJar × Storage :=
  let (stored, jar) := j.jar.receive a header now
  (stored, changedIf (stored || jar.count != j.jar.count) { j with jar := jar } s now)

/-- Removes all cookies. -/
def removeAll (j : PersistentJar) (s : Storage) (now : Int) : PersistentJar × Storage :=
  changed { j with jar := j.jar.removeAll } s now

/-- Removes the cookies that have expired. -/
def removeExpired (j : PersistentJar) (s : Storage) (now : Int) : PersistentJar × Storage :=
  let jar := j.jar.removeExpired now
  changedIf (jar.count != j.jar.count) { j with jar := jar } s now

/-- Removes the session cookies, which the store does not keep. -/
def removeSession (j : PersistentJar) : PersistentJar := { j with jar := j.jar.removeSession }

/-- Writes the changes that the store has not seen, if there are some. -/
def flush (j : PersistentJar) (s : Storage) (now : Int) :
    Except StoreError Unit × PersistentJar × Storage :=
  if j.dirty then j.persist s now else (.ok (), j, s)

/-- Says whether new cookies are taken. -/
def setAccepts (j : PersistentJar) (accepts : Bool) : PersistentJar :=
  { j with jar := j.jar.setAccepts accepts }

end PersistentJar

end HttpState
