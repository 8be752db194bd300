import Oneshot.Host.Error
import Oneshot.Text.Utf8

/-!
# A file tree

A tree maps places to what stands there. A place is the list of names on the way from the root. The
operations are those of a file system: they follow links, count them, and refuse what a file system
refuses, with the same causes. A directory keeps its serial number when it is moved, so that a
working directory is known again, or known to be gone.

- `get?_put` and `get?_erase`: what stands at a place after a change elsewhere and there.
- `mkdir_root`: a directory that is there is not made again.
-/

namespace Oneshot

namespace Virtual

/-- A place: the names on the way from the root. -/
abbrev Place := List Text

/-- A device of the system. -/
inductive Device where
  /-- It is empty, and what is written to it is lost. -/
  | null
  | zero
  /-- Nothing can be written to it. -/
  | full
  /-- The terminal of a process that has none. -/
  | terminal
  /-- A descriptor of the process that opens it. -/
  | descriptor (number : Nat)
deriving DecidableEq, Repr

/-- What stands at a place. -/
inductive Entry where
  /-- A directory. No two directories that are ever made have the same serial number. -/
  | directory (serial : Nat)
  | file (content : Bytes) (isExecutable : Bool)
  | link (target : Text)
  /-- A program that belongs to the system. -/
  | tool (name : Text)
  | device (device : Device)
deriving DecidableEq, Repr

/-- Whether an entry is a directory. -/
def Entry.isDirectory : Entry → Bool
  | .directory _ => true
  | _ => false

/-- A tree, with one entry to a place. The root has no entry: it is always a directory, with the
serial number zero. -/
structure Tree where
  entries : List (Place × Entry)
  /-- How many directories have been made so far. -/
  born : Nat

/-- The directory that a process works in: where it stood when the process went there, and its
serial number, by which it is known after it has been moved or removed. -/
structure WorkDir where
  place : Place
  serial : Nat
deriving DecidableEq, Repr

namespace Tree

/-- What some entries say of a place. -/
def entryAt (place : Place) : List (Place × Entry) → Option Entry
  | [] => if place = [] then some (.directory 0) else none
  | (p, entry) :: rest => if p = place then some entry else entryAt place rest

/-- Entries with one for a place. -/
def putEntry (place : Place) (entry : Entry) : List (Place × Entry) → List (Place × Entry)
  | [] => [(place, entry)]
  | (p, old) :: rest =>
    if p = place then (place, entry) :: rest else (p, old) :: putEntry place entry rest

/-- What stands at a place. -/
def get? (tree : Tree) (place : Place) : Option Entry :=
  entryAt place tree.entries

/-- The tree with an entry at a place. -/
def put (tree : Tree) (place : Place) (entry : Entry) : Tree :=
  { tree with entries := putEntry place entry tree.entries }

/-- The tree with a new directory at a place. -/
def putDirectory (tree : Tree) (place : Place) : Tree :=
  ⟨putEntry place (.directory (tree.born + 1)) tree.entries, tree.born + 1⟩

/-- The tree without the entry at a place. -/
def erase (tree : Tree) (place : Place) : Tree :=
  { tree with entries := tree.entries.filter (·.1 != place) }

/-- Whether a place lies at or below another. -/
def isWithin (place other : Place) : Bool :=
  other.isPrefixOf place

/-- The tree without a place and all that lies below it. -/
def prune (tree : Tree) (place : Place) : Tree :=
  { tree with entries := tree.entries.filter fun e => !isWithin e.1 place }

/-- Whether something lies below a place. -/
def hasChildren (tree : Tree) (place : Place) : Bool :=
  tree.entries.any fun e => isWithin e.1 place && e.1 != place

/-- The names in the directory at a place. -/
def namesIn (tree : Tree) (place : Place) : List Text :=
  tree.entries.filterMap fun e =>
    if e.1.dropLast = place ∧ e.1 ≠ [] then e.1.getLast? else none

/-- The tree with all that lies at or below `old` moved to `new`. -/
def move (tree : Tree) (old new : Place) : Tree :=
  { tree with entries := tree.entries.map fun e =>
      if isWithin e.1 old then (new ++ e.1.drop old.length, e.2) else e }

/-! ### Finding places -/

/-- The longest name that a directory can hold, in bytes. -/
def nameLimit : Nat := 255

/-- The longest path that the system takes, in bytes, with its end mark. -/
def pathLimit : Nat := 4096

/-- How many links are followed on one way. -/
def linkLimit : Nat := 40

/-- The steps of a path. One that ends with a slash has to lead to a directory. -/
def steps (path : Text) : List Text :=
  let names := (Text.splitAt '/' path).filter (!·.isEmpty)
  if path.getLast? = some '/' && !names.isEmpty then names ++ [['.']] else names

/-- The place at the end of a way, and what stands there if anything does. -/
abbrev Found := Except Errno (Place × Option Entry)

/-- Goes on from the directory at `place`. A link on the way is left to `onLink`, with what is still
to go behind it. -/
def walkWith (tree : Tree) (followLast : Bool) (onLink : Place → Text → List Text → Found)
    (place : Place) : List Text → Found
  | [] => .ok (place, tree.get? place)
  | name :: rest =>
    if name = ['.'] then walkWith tree followLast onLink place rest
    else if name = ['.', '.'] then walkWith tree followLast onLink place.dropLast rest
    else if nameLimit < (Utf8.encode name).length then .error .nameTooLong
    else
      match tree.get? (place ++ [name]) with
      | none => if rest = [] then .ok (place ++ [name], none) else .error .noEntry
      | some (.directory _) => walkWith tree followLast onLink (place ++ [name]) rest
      | some (.link target) =>
        if rest = [] ∧ followLast = false then .ok (place ++ [name], some (.link target))
        else onLink place target rest
      | some entry => if rest = [] then .ok (place ++ [name], some entry) else .error .notDirectory

/-- Goes on from a directory, following at most `links` links. -/
def walk (tree : Tree) (followLast : Bool) : (links : Nat) → Place → List Text → Found
  | 0 => walkWith tree followLast fun _ _ _ => .error .linkLoop
  | links + 1 => walkWith tree followLast fun place target rest =>
    if target.isEmpty then .error .noEntry
    else
      walk tree followLast links (if ['/'].isPrefixOf target then [] else place)
        (steps target ++ rest)

/-- The place of a working directory, if it still has one. -/
def placeOf? (tree : Tree) (workDir : WorkDir) : Option Place :=
  if tree.get? workDir.place = some (.directory workDir.serial) then some workDir.place
  else (tree.entries.find? (·.2 == .directory workDir.serial)).map Prod.fst

/-- Goes on from a working directory that has been removed. It holds nothing any more, but the way
to the directory above is still known. -/
def walkDetached (tree : Tree) (followLast : Bool) (workDir : WorkDir) (names : List Text) :
    Found :=
  match names.dropWhile (· == ['.']) with
  | [] => .ok (workDir.place, some (.directory workDir.serial))
  | ['.', '.'] :: rest =>
    let above := workDir.place.dropLast
    match tree.get? above with
    | some (.directory _) => walk tree followLast linkLimit above rest
    | _ => .error .noEntry
  | _ :: _ => .error .noEntry

/-- The place to which a path leads from a working directory. -/
def find (tree : Tree) (workDir : WorkDir) (followLast : Bool) (path : Text) : Found :=
  if path.isEmpty then .error .noEntry
  else if pathLimit ≤ (Utf8.encode path).length then .error .nameTooLong
  else if ['/'].isPrefixOf path then walk tree followLast linkLimit [] (steps path)
  else
    match tree.placeOf? workDir with
    | some place => walk tree followLast linkLimit place (steps path)
    | none => walkDetached tree followLast workDir (steps path)

/-- What stands where a path leads. -/
def lookUp (tree : Tree) (workDir : WorkDir) (path : Text) : Except Errno (Place × Entry) :=
  match tree.find workDir true path with
  | .error e => .error e
  | .ok (_, none) => .error .noEntry
  | .ok (place, some entry) => .ok (place, entry)

/-- A path without the slashes at its end. -/
def withoutFinalSlashes (path : Text) : Text :=
  let start := Text.dropEndWhile (· == '/') path
  if start.isEmpty then path.take 1 else start

/-- Whether the last step of a path is a name, and not `.` or `..`. -/
def endsInName (path : Text) : Bool :=
  match (steps (withoutFinalSlashes path)).getLast? with
  | some name => name != ['.'] && name != ['.', '.']
  | none => false

/-! ### Operations -/

/-- Makes a directory. -/
def mkdir (tree : Tree) (workDir : WorkDir) (path : Text) : Except Errno Tree :=
  match tree.find workDir false (withoutFinalSlashes path) with
  | .error e => .error e
  | .ok (place, none) => .ok (tree.putDirectory place)
  | .ok (_, some _) => .error .alreadyThere

/-- How many zeros are read from the device that has no end of them. -/
def zeroCount : Nat := 65536

/-- What can be read from a device. -/
def readDevice : Device → Except Errno Bytes
  | .terminal => .error .noDevice
  | .zero | .full => .ok (List.replicate zeroCount 0)
  | _ => .ok []

/-- Whether something can be written to a device. -/
def writeDevice : Device → Except Errno Unit
  | .terminal => .error .noDevice
  | .full => .error .noSpace
  | _ => .ok ()

/-- The content of a file. -/
def readFile (tree : Tree) (workDir : WorkDir) (path : Text) : Except Errno Bytes :=
  match tree.lookUp workDir path with
  | .error e => .error e
  | .ok (_, .file content _) => .ok content
  | .ok (_, .tool _) => .ok []
  | .ok (_, .device device) => readDevice device
  | .ok (_, _) => .error .isDirectory

/-- Writes a file, in place of what it held; one that is there keeps its permissions. -/
def writeFile (tree : Tree) (workDir : WorkDir) (path : Text) (content : Bytes) :
    Except Errno (Place × Tree) :=
  match tree.find workDir true path with
  | .error e => .error e
  | .ok (place, none) => .ok (place, tree.put place (.file content false))
  | .ok (place, some (.file _ isExecutable)) =>
    .ok (place, tree.put place (.file content isExecutable))
  | .ok (_, some (.tool _)) => .error .accessDenied
  | .ok (place, some (.device device)) => (writeDevice device).map fun _ => (place, tree)
  | .ok (_, some _) => .error .isDirectory

/-- Writes a file that is not there yet. -/
def createFile (tree : Tree) (workDir : WorkDir) (path : Text) (content : Bytes) :
    Except Errno Tree :=
  match tree.find workDir false path with
  | .error e => .error e
  | .ok (place, none) => .ok (tree.put place (.file content false))
  | .ok (_, some _) => .error .alreadyThere

/-- Renames `old` to `new`. Only an empty directory gives way to a directory, and only something
that is no directory to something that is none. -/
def rename (tree : Tree) (workDir : WorkDir) (old new : Text) : Except Errno Tree :=
  match tree.find workDir false old, tree.find workDir false new with
  | .error e, _ => .error e
  | _, .error e => .error e
  | .ok (source, entry?), .ok (target, occupant) =>
    if !endsInName old || !endsInName new then .error .busy
    else
      match entry? with
      | none => .error .noEntry
      | some entry =>
        let isDir := entry.isDirectory
        if source = target then .ok tree
        else if isDir && isWithin target source then .error .invalid
        else if isWithin source target then .error .notEmpty
        else
          match occupant with
          | none => .ok (tree.move source target)
          | some (.directory _) =>
            if !isDir then .error .isDirectory
            else if tree.hasChildren target then .error .notEmpty
            else .ok ((tree.erase target).move source target)
          | some _ =>
            if isDir then .error .notDirectory else .ok ((tree.erase target).move source target)

/-- The tree without a directory and all that it holds; anything else stays. -/
def discard (tree : Tree) (workDir : WorkDir) (path : Text) : Tree :=
  match tree.find workDir false path with
  | .ok (place, some (.directory _)) => tree.prune place
  | _ => tree

/-- Whether a path leads to a file that may be executed. -/
def isExecutable (tree : Tree) (workDir : WorkDir) (path : Text) : Bool :=
  match tree.lookUp workDir path with
  | .ok (_, .file _ isExecutable) => isExecutable
  | .ok (_, .tool _) => true
  | _ => false

/-- The text of a place. -/
def textOf (place : Place) : Text :=
  '/' :: Text.join ['/'] place

/-! ### What stands where -/

theorem get?_put (place other : Place) (entry : Entry) (tree : Tree) :
    (tree.put place entry).get? other
      = if place = other then some entry else tree.get? other := by
  obtain ⟨entries, born⟩ := tree
  simp only [put, get?]
  induction entries with
  | nil =>
    by_cases h : place = other <;> simp [putEntry, entryAt, h]
  | cons e rest ih =>
    obtain ⟨p, old⟩ := e
    by_cases hp : p = place
    · subst hp
      by_cases ho : p = other <;> simp [putEntry, entryAt, ho]
    · by_cases ho : p = other
      · subst ho
        have : place ≠ p := fun h => hp h.symm
        simp [putEntry, entryAt, hp, this]
      · simp [putEntry, entryAt, hp, ho, ih]

theorem get?_erase {place other : Place} (h : place ≠ other) (tree : Tree) :
    (tree.erase place).get? other = tree.get? other := by
  obtain ⟨entries, born⟩ := tree
  simp only [erase, get?]
  induction entries with
  | nil => rfl
  | cons e rest ih =>
    obtain ⟨p, old⟩ := e
    by_cases hp : p = place
    · subst hp
      simp [entryAt, h, ih]
    · by_cases ho : p = other
      · subst ho
        simp [entryAt, hp]
      · simp [entryAt, hp, ho, ih]

/-- A working directory that stands where it stood has its place. -/
theorem placeOf?_of_get? {tree : Tree} {workDir : WorkDir}
    (h : tree.get? workDir.place = some (.directory workDir.serial)) :
    tree.placeOf? workDir = some workDir.place := by
  simp [placeOf?, h]

/-- A directory that is there is not made again. -/
theorem mkdir_root (tree : Tree) (workDir : WorkDir) {serial : Nat}
    (h : tree.get? [] = some (.directory serial)) :
    tree.mkdir workDir ['/'] = .error .alreadyThere := by
  have hs : steps ['/'] = [] := by decide
  have hw : withoutFinalSlashes ['/'] = ['/'] := by decide
  have hl : (Utf8.encode ['/']).length = 1 := by decide
  simp [mkdir, hw, find, hl, pathLimit, hs, linkLimit, walk, walkWith, h]

end Tree

end Virtual

end Oneshot
