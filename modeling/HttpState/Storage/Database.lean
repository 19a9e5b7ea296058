import HttpState.Storage.CookieTable
import HttpState.Storage.Directory

/-!
# Connections to a database

A database is a file with the table of cookies. A file of at most one byte is a database that is
still blank; any other file that was not written as a database is unreadable. A database needs a
journal and a log beside its file, so folders of these names make it unreadable as well.

A connection keeps the file open, and goes on reading it when its name is gone, but writes only to
the file that bears the name. It remembers that there is a table, and then asks for the rows without
looking: where the rows cannot be read, there are none. Only a blank database makes it forget the
table. From then on it fails until it sees the table again, and it looks for it only where the
database has another version than the one it has seen last.

* `load_persist`: what a connection has written, it reads back.
-/

namespace HttpState.Storage

/-- What a file holds. -/
inductive Content where
  | bytes (b : ByteArray)
  /-- A database, with the number of the writes that have made it. -/
  | database (table : CookieTable) (version : Nat)

/-- The text of a file, if it holds text. -/
def Content.text? : Content → Option String
  | .bytes b => String.fromUTF8? b
  | .database _ _ => none

/-- A directory tree that may hold databases. -/
abbrev Files := Directory Content

/-- What is found where a database is expected. -/
inductive Finding where
  | unreadable
  | blank
  | table (t : CookieTable) (version : Nat)

/-- A connection to a database. -/
structure Connection where
  path : Path
  /-- The number of the file that is kept open. -/
  number : Nat
  /-- The version of the database that was seen last; 0 stands for none. -/
  version : Nat
  /-- The table has been seen and not been missed since. -/
  knowsTable : Bool
  deriving DecidableEq, Repr

namespace Files

/-- Whether a folder stands in the place of the journal of a database. -/
def hasJournalFolder (d : Files) (p : Path) : Bool := d.hasFolder (p.withEnding "-journal")

/-- Whether a folder stands in the place of the log of a database. -/
def hasLogFolder (d : Files) (p : Path) : Bool := d.hasFolder (p.withEnding "-wal")

/-- What is found in a file that holds `c` and was opened at a path. -/
def finding (d : Files) (p : Path) (c : Content) : Finding :=
  if d.hasLogFolder p then .unreadable
  else
    match c with
    | .bytes b => if b.size ≤ 1 then .blank else .unreadable
    | .database t v => if d.hasJournalFolder p then .unreadable else .table t v

/-- Makes the file of a database where there is none. -/
def ensureFile (d : Files) (p : Path) : Files :=
  match d.read p with
  | .error .notFound => (d.write? p (.bytes .empty)).getD d
  | _ => d

/-- Connects to the file at a path, whose table has been seen in a version. -/
def connect (d : Files) (p : Path) (version : Nat) : Option Connection × Files :=
  match d.keepOpen? p with
  | some (n, d) => (some ⟨p, n, version, true⟩, d)
  | none => (none, d)

/-- Opens the database at a path, and makes its file and its table where they are missing. -/
def openDatabase (d : Files) (p : Path) : Option Connection × Files :=
  let d := ensureFile d p
  match d.read p with
  | .error _ => (none, d)
  | .ok c =>
    match finding d p c with
    | .unreadable => (none, d)
    | .table _ v => connect d p v
    | .blank =>
      -- The table is made, unless a folder stands in the place of the journal.
      if hasJournalFolder d p then (none, d)
      else
        match d.write? p (.database [] 1) with
        | some d => connect d p 1
        | none => (none, d)

/-- Adds a row to the table of the database at a path, as another program may do. -/
def insertRow (d : Files) (p : Path) (r : Row) : Bool × Files :=
  let d := ensureFile d p
  match d.read p with
  | .error _ => (false, d)
  | .ok c =>
    match finding d p c with
    | .table t v =>
      match (t.insert? r).bind fun t => d.write? p (.database t (v + 1)) with
      | some d => (true, d)
      | none => (false, d)
    | _ => (false, d)

end Files

namespace Connection

/-- Looks at the database. -/
def look (c : Connection) (d : Files) : Finding × Connection :=
  match d.content? c.number with
  | none => (.unreadable, c)
  | some x =>
    match Files.finding d c.path x with
    | .unreadable => (.unreadable, { c with version := 0 })
    | .blank => (.blank, c)
    | .table t v =>
      -- A table that the connection does not know of shows only in a new version.
      if !c.knowsTable && c.version == v then (.blank, c)
      else (.table t v, { c with version := v, knowsTable := true })

/-- The cookies in the table, `none` if there is no table as far as the connection knows. -/
def load (c : Connection) (d : Files) : Option (List Cookie) × Connection :=
  let known := if c.knowsTable then some [] else none
  match c.look d with
  | (.table t _, c) => (some t.cookies, c)
  | (.blank, c) => (known, { c with knowsTable := false })
  | (.unreadable, c) => (known, c)

/-- Makes the table hold these cookies and no others, if that is possible. -/
def persist (c : Connection) (cs : List Cookie) (d : Files) : Option Files × Connection :=
  match c.look d with
  | (.table _ v, c) =>
    -- The file may have been moved away since it was opened.
    if d.numberAt? c.path = some c.number then
      match d.write? c.path (.database (.ofCookies cs) (v + 1)) with
      | some d => (some d, { c with version := v + 1 })
      | none => (none, c)
    else (none, c)
  | (.blank, c) =>
    -- Where a write can begin, it finds out that the table is missing.
    let starts := (d.find? c.path).isSome && !Files.hasJournalFolder d c.path
    (none, { c with knowsTable := c.knowsTable && !starts })
  | (.unreadable, c) => (none, c)

/-- A connection that reads a table has seen neither a folder in the place of the log nor one in the
    place of the journal, and knows the table from then on. -/
theorem look_eq_table {c c' : Connection} {d : Files} {t : CookieTable} {v : Nat}
    (h : c.look d = (.table t v, c')) :
    c'.knowsTable = true ∧ Files.hasLogFolder d c'.path = false ∧
      Files.hasJournalFolder d c'.path = false := by
  unfold look at h
  split at h
  · simp at h
  · rename_i x _
    split at h
    · simp at h
    · simp at h
    · rename_i hf
      split at h
      · simp at h
      · obtain ⟨_, rfl⟩ := Prod.mk.inj h
        refine ⟨rfl, ?_⟩
        -- The finding is a table only when both folders are absent.
        unfold Files.finding at hf
        split at hf
        · simp at hf
        · rename_i hl
          refine ⟨by simpa using hl, ?_⟩
          split at hf
          · split at hf <;> simp at hf
          · split at hf
            · simp at hf
            · rename_i hj
              simpa using hj

/-- A connection that has persisted a list reads back the rows of that list. -/
theorem load_persist {c c' : Connection} {cs : List Cookie} {d d' : Files}
    (h : c.persist cs d = (some d', c')) :
    c'.load d' = (some (CookieTable.ofCookies cs).cookies, c') := by
  unfold persist at h
  split at h
  · rename_i v c₁ hl
    obtain ⟨hk, hlog, hjournal⟩ := look_eq_table hl
    split at h
    · rename_i hn
      split at h
      · rename_i e hw
        obtain ⟨he, rfl⟩ := Prod.mk.inj h
        -- The write leaves the file its number and makes no folder, so looking again finds the new
        -- table.
        obtain rfl := Option.some.inj he
        simp only [Files.hasLogFolder, Files.hasJournalFolder] at hlog hjournal
        simp [load, look, Files.finding, Files.hasLogFolder, Files.hasJournalFolder,
          Directory.content?_write? hw hn, Directory.hasFolder_write? hw, hlog, hjournal, hk]
      · simp at h
    · simp at h
  · simp at h
  · simp at h

end Connection

end HttpState.Storage
