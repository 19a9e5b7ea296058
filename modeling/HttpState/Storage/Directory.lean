/-!
# Directories

A directory tree as a value: which files and folders there are below its root, and what the files
hold. Paths are lists of names. Writing and renaming can fail: because of what is there, or because
the medium refuses to. A step that fails changes nothing.

A file can be kept open. It then has a number, by which it is still found, with what it held, after
its name was taken away or given to another file.

* `find?_put_self`, `find?_put_of_ne`: what is put at a path is found there, and nothing changes at
  other paths.
* `find?_erase_self`: what is taken away is not found any more.
* `content?_write?`, `numberAt?_write?`, `hasFolder_write?`: a file that is written over keeps its
  number, and folders stay where they are.
-/

namespace HttpState.Storage

/-- The names on the way from the root to a file or folder. -/
abbrev Path := List String

/-- The path whose last name is longer by an ending. -/
def Path.withEnding (p : Path) (ending : String) : Path :=
  p.dropLast ++ (p.getLast?.map (· ++ ending)).toList

/-- A file that holds `δ`, with its number if it is kept open, or a folder. -/
inductive Node (δ : Type) where
  | file (content : δ) (number : Option Nat)
  | folder
  deriving DecidableEq, Repr

/-- A directory tree whose files hold `δ`. -/
structure Directory (δ : Type) where
  /-- What stands at each path below the root, at most once for each path. -/
  nodes : List (Path × Node δ)
  /-- The files that are kept open and have no name any more, by their numbers. -/
  nameless : List (Nat × δ)
  /-- The number of the next file that is kept open. -/
  nextNumber : Nat
  /-- The medium refuses to write files. -/
  refusesWrite : Bool
  /-- The medium refuses to rename files. -/
  refusesRename : Bool

/-- Why a file cannot be read. -/
inductive ReadError where
  /-- The file, or a folder on the way to it, is missing. -/
  | notFound
  /-- Something else than a file is there, or something else than a folder on the way to it. -/
  | notAFile
  deriving DecidableEq, Repr

/-- What a file holds, if it has the number `n`. -/
def Node.contentOf? {δ : Type} (n : Nat) : Node δ → Option δ
  | .file c (some m) => if m = n then some c else none
  | _ => none

namespace Directory

variable {δ : Type}

/-- The directory without files and folders. -/
def empty : Directory δ := ⟨[], [], 0, false, false⟩

/-- What stands at a path. The root is a folder. -/
def find? (d : Directory δ) (p : Path) : Option (Node δ) :=
  if p.isEmpty then some .folder else (d.nodes.find? (·.1 == p)).map (·.2)

/-- Whether there is a folder at a path. -/
def hasFolder (d : Directory δ) (p : Path) : Bool :=
  match d.find? p with
  | some .folder => true
  | _ => false

/-- Whether there is a file at a path. -/
def hasFile (d : Directory δ) (p : Path) : Bool :=
  match d.find? p with
  | some (.file _ _) => true
  | _ => false

/-- The paths on the way to a path, the root first. -/
def ancestors (p : Path) : List Path := (List.range p.length).map p.take

/-- What a file holds. -/
def read (d : Directory δ) (p : Path) : Except ReadError δ :=
  match d.find? p with
  | some (.file c _) => .ok c
  | some .folder => .error .notAFile
  | none => if (ancestors p).any d.hasFile then .error .notAFile else .error .notFound

/-- The number of the file at a path, if it is kept open. -/
def numberAt? (d : Directory δ) (p : Path) : Option Nat :=
  match d.find? p with
  | some (.file _ n) => n
  | _ => none

/-- What the file with a number holds. -/
def content? (d : Directory δ) (n : Nat) : Option δ :=
  match d.nodes.findSome? (·.2.contentOf? n) with
  | some c => some c
  | none => (d.nameless.find? (·.1 == n)).map (·.2)

/-- Puts a node at a path. -/
def put (d : Directory δ) (p : Path) (n : Node δ) : Directory δ :=
  { d with nodes := (p, n) :: d.nodes.filter (·.1 != p) }

/-- Takes away what stands at a path. -/
def erase (d : Directory δ) (p : Path) : Directory δ :=
  { d with nodes := d.nodes.filter (·.1 != p) }

/-- Dropping the entries of one path does not change what another path finds. -/
theorem find?_filter_of_ne (ns : List (Path × Node δ)) {p q : Path} (h : q ≠ p) :
    (ns.filter (·.1 != p)).find? (·.1 == q) = ns.find? (·.1 == q) := by
  rw [List.find?_filter]
  congr 1
  funext x
  by_cases hx : x.1 = q <;> simp [hx, h]

/-- What was put at a path is found there. -/
theorem find?_put_self (d : Directory δ) {p : Path} (h : p ≠ []) (n : Node δ) :
    (d.put p n).find? p = some n := by
  simp [find?, put, h]

/-- Putting something at one path does not change what is found at another. -/
theorem find?_put_of_ne (d : Directory δ) {p q : Path} (h : q ≠ p) (n : Node δ) :
    (d.put p n).find? q = d.find? q := by
  have hp : (p == q) = false := by simpa using Ne.symm h
  simp only [find?, put, List.find?_cons, hp]
  rw [find?_filter_of_ne _ h]

/-- Nothing is found at an erased path. -/
theorem find?_erase_self (d : Directory δ) {p : Path} (h : p ≠ []) :
    (d.erase p).find? p = none := by
  simp [find?, erase, h]

/-- Keeps the file at a path open, and gives its number. -/
def keepOpen? (d : Directory δ) (p : Path) : Option (Nat × Directory δ) :=
  match d.find? p with
  | some (.file _ (some n)) => some (n, d)
  | some (.file c none) =>
    some (d.nextNumber,
      { d.put p (.file c (some d.nextNumber)) with nextNumber := d.nextNumber + 1 })
  | _ => none

/-- Remembers what the file at a path holds, if it is kept open, for when it loses its name. -/
def remember (d : Directory δ) (p : Path) : Directory δ :=
  match d.find? p with
  | some (.file c (some n)) => { d with nameless := (n, c) :: d.nameless }
  | _ => d

/-- Takes a file away. -/
def remove (d : Directory δ) (p : Path) : Directory δ :=
  if d.hasFile p then (d.remember p).erase p else d

/-- Whether a file can stand at a path: its folder is there, and it is no folder itself. -/
def canHoldFile (d : Directory δ) (p : Path) : Bool :=
  !d.hasFolder p && d.hasFolder p.dropLast

/-- Writes a file, if that is possible; a file that is there is written over. -/
def write? (d : Directory δ) (p : Path) (c : δ) : Option (Directory δ) :=
  if !d.refusesWrite && d.canHoldFile p then some (d.put p (.file c (d.numberAt? p))) else none

/-- After a write, the file that stood at the path holds what was written. -/
theorem content?_write? {d e : Directory δ} {p : Path} {c : δ} {n : Nat}
    (h : d.write? p c = some e) (hn : d.numberAt? p = some n) : e.content? n = some c := by
  unfold write? at h
  split at h
  · cases h
    simp [content?, put, hn, Node.contentOf?]
  · cases h

/-- A write keeps the number of the file at the path: it is the same file with new content. -/
theorem numberAt?_write? {d e : Directory δ} {p : Path} {c : δ} (h : d.write? p c = some e) :
    e.numberAt? p = d.numberAt? p := by
  unfold write? at h
  split at h
  · cases h
    by_cases hp : p = []
    · simp [numberAt?, find?, hp]
    · simp [numberAt?, find?_put_self d hp]
  · cases h

/-- A write makes no folder and removes none. -/
theorem hasFolder_write? {d e : Directory δ} {p : Path} {c : δ} (h : d.write? p c = some e)
    (q : Path) : e.hasFolder q = d.hasFolder q := by
  unfold write? at h
  split at h
  · rename_i hw
    cases h
    -- At the path itself there was no folder, for a file could be written there.
    by_cases hq : q = p
    · subst hq
      have hd : d.hasFolder q = false := by simp_all [canHoldFile]
      have hne : q ≠ [] := by
        rintro rfl
        simp [hasFolder, find?] at hd
      rw [hd]
      simp [hasFolder, find?_put_self d hne]
    · simp [hasFolder, find?_put_of_ne d hq]
  · cases h

/-- Moves a file to another path, in the place of a file that is there, if that is possible. -/
def rename? (d : Directory δ) (p q : Path) : Option (Directory δ) :=
  match d.find? p with
  | some (.file c n) =>
    if !d.refusesRename && d.canHoldFile q then
      some (((d.remember q).erase p).put q (.file c n))
    else none
  | _ => none

/-- Makes the folders on the way to a path and one at the path, where nothing is yet. -/
def makeFolders (d : Directory δ) (p : Path) : Directory δ :=
  ((ancestors p).drop 1 ++ [p]).foldl
    (fun d q => if (d.find? q).isNone then d.put q .folder else d) d

/-- The names directly below the root, in order. -/
def names (d : Directory δ) : List String :=
  (d.nodes.filterMap fun n =>
    match n.1 with
    | [name] => some name
    | _ => none).mergeSort

end Directory

end HttpState.Storage
