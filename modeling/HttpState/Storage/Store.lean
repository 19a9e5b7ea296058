import HttpState.Cookie.File
import HttpState.Storage.Database

/-!
# Cookie stores

A store keeps the persistent cookies of a jar: in memory, in a file of cookies, or in a database.
`Storage` is the state of everything that stores keep cookies in; a store says where in it they are,
and what it remembers from one use to the next.

* A store in memory keeps the last list that was written and counts the lists.
* A file is written beside its place and then moved there, so a write that fails leaves the file
  as it was. A missing file holds no cookies.
* A database keeps a table of cookies, which a write replaces as a whole.
-/

namespace HttpState

open HttpState.Storage (Path Files Connection)

/-- What a store in memory keeps. -/
structure Storage.Memory where
  cookies : List Cookie
  /-- How many lists have been written. -/
  writes : Nat
  /-- The memory can neither be read nor written. -/
  offline : Bool

/-- Everything that stores keep cookies in. -/
structure Storage where
  memory : Storage.Memory
  directory : Files

/-- Where a store keeps cookies. -/
inductive StorePlace where
  | memory
  | json (path : Path)
  | sqlite (path : Path)
  deriving DecidableEq, Repr

/-- A store in use. -/
inductive Store where
  | memory
  | json (path : Path)
  | sqlite (connection : Connection)
  deriving DecidableEq, Repr

/-- Why a store cannot be opened, read or written. -/
inductive StoreError where
  /-- The file system refuses. -/
  | io
  /-- A file is no file of cookies, or a cookie has no record. -/
  | json
  /-- The file is no database, or the database refuses. -/
  | sqlite
  | unsupportedVersion (version : Nat)
  deriving DecidableEq, Repr

/-- The wording of an error, where it is that of this library. -/
def StoreError.message? : StoreError → Option String
  | .unsupportedVersion v => some ("Unsupported cookie file version " ++ toString v)
  | _ => none

namespace Storage

/-- Storage that holds nothing. -/
def empty : Storage := ⟨⟨[], 0, false⟩, .empty⟩

end Storage

/-- Opens a store at a place. -/
def StorePlace.openStore (place : StorePlace) (s : Storage) : Except StoreError Store × Storage :=
  match place with
  | .memory => (.ok .memory, s)
  | .json p => (.ok (.json p), s)
  | .sqlite p =>
    match Files.openDatabase s.directory p with
    | (some c, d) => (.ok (.sqlite c), { s with directory := d })
    | (none, d) => (.error .sqlite, { s with directory := d })

namespace Store

/-- Where a store keeps cookies. -/
def place : Store → StorePlace
  | .memory => .memory
  | .json p => .json p
  | .sqlite c => .sqlite c.path

/-- The path of the file that is written beside the file at a path. -/
def besides (p : Path) : Path := p.withEnding ".tmp"

/-- Reads a file of cookies. -/
def loadFile (p : Path) (s : Storage) : Except StoreError (List Cookie) :=
  match s.directory.read p with
  -- A file that is not there is a store without cookies.
  | .error .notFound => .ok []
  | .error .notAFile => .error .io
  | .ok c =>
    match c.text? with
    | none => .error .io
    | some text =>
      match CookieFile.parse text with
      | .ok cs => .ok cs
      | .error .notARecord => .error .json
      | .error (.unsupportedVersion v) => .error (.unsupportedVersion v)

/-- Writes a file of cookies: beside its place first, then over the file that is there. -/
def persistFile (p : Path) (cs : List Cookie) (s : Storage) : Except StoreError Unit × Storage :=
  match CookieFile.text? cs with
  | none => (.error .json, s)
  | some text =>
    -- The text is written into another file first, so that the old one stays whole.
    match s.directory.write? (besides p) (.bytes text.toUTF8) with
    | none => (.error .io, s)
    | some d =>
      match d.rename? (besides p) p with
      | none => (.error .io, { s with directory := d })
      | some d => (.ok (), { s with directory := d })

/-- The cookies that a store keeps, and the store for the next use. -/
def load (store : Store) (s : Storage) : Except StoreError (List Cookie) × Store :=
  match store with
  | .memory => (if s.memory.offline then .error .io else .ok s.memory.cookies, store)
  | .json p => (loadFile p s, store)
  | .sqlite c =>
    match c.load s.directory with
    | (some cs, c) => (.ok cs, .sqlite c)
    | (none, c) => (.error .sqlite, .sqlite c)

/-- Makes a store keep these cookies and no others. -/
def persist (store : Store) (cs : List Cookie) (s : Storage) :
    Except StoreError Unit × Store × Storage :=
  match store with
  | .memory =>
    if s.memory.offline then (.error .io, store, s)
    else (.ok (), store, { s with memory := ⟨cs, s.memory.writes + 1, false⟩ })
  | .json p => let (r, s) := persistFile p cs s; (r, store, s)
  | .sqlite c =>
    match c.persist cs s.directory with
    | (some d, c) => (.ok (), .sqlite c, { s with directory := d })
    | (none, c) => (.error .sqlite, .sqlite c, s)

end Store

end HttpState
