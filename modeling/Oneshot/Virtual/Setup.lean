import Oneshot.Failure
import Oneshot.Virtual.Launcher

/-!
# Setting up a world

A fresh world has the tools of a system and an empty directory to work in. Files, directories and
links can be put into it from outside, and two of its states can be compared.

- `changes_self`: a world that nobody touches shows no changes.
-/

namespace Oneshot

namespace Virtual

namespace Tree

/-- The paths of the directories on the way to a path, the shortest first. -/
def waysTo (path : Text) : List Text :=
  (Tool.pathBeginnings path).dropLast

/-- Makes a directory with those on the way to it. What cannot be made is left out. -/
def makeDirs (tree : Tree) (workDir : WorkDir) (path : Text) : Tree :=
  (Tool.pathBeginnings path).foldl (fun tree path =>
    match tree.mkdir workDir path with
    | .ok tree => tree
    | .error _ => tree) tree

/-- Makes the directories on the way to a path. -/
def makeWay (tree : Tree) (workDir : WorkDir) (path : Text) : Tree :=
  (waysTo path).foldl (makeDirs · workDir ·) tree

/-- Writes a file, with the directories on the way to it. -/
def plantFile (tree : Tree) (workDir : WorkDir) (path : Text) (content : Bytes)
    (isExecutable : Bool) : Tree :=
  let tree := tree.makeWay workDir path
  match tree.writeFile workDir path content with
  | .ok (place, tree) =>
    if isExecutable then tree.put place (.file content true) else tree
  | .error _ => tree

/-- Makes a link, with the directories on the way to it. -/
def plantLink (tree : Tree) (workDir : WorkDir) (path target : Text) : Tree :=
  let tree := tree.makeWay workDir path
  match tree.find workDir false path with
  | .ok (place, none) => tree.put place (.link target)
  | _ => tree

/-- Removes what stands at a path, with all that lies below it. -/
def removeAll (tree : Tree) (workDir : WorkDir) (path : Text) : Tree :=
  match tree.find workDir false path with
  | .ok (place, some _) => tree.prune place
  | _ => tree

/-- Whether two entries look the same to one who reads them. Permissions are not looked at, and
neither are the serial numbers of directories. -/
def looksLike : Option Entry → Option Entry → Bool
  | some (.directory _), some (.directory _) => true
  | some (.file content _), some (.file other _) => content == other
  | entry, other => entry == other

/-- The places below a directory at which two trees differ, with what stands there in the second. -/
def changes (directory : Place) (old new : Tree) : List (Place × Option Entry) :=
  let places := ((old.entries ++ new.entries).map Prod.fst).eraseDups.filter fun place =>
    isWithin place directory && place != directory
  (places.filter fun place => !looksLike (old.get? place) (new.get? place)).map fun place =>
    (place, new.get? place)

theorem looksLike_self (entry : Option Entry) : looksLike entry entry = true := by
  unfold looksLike
  split
  · rfl
  · simp_all
  · exact beq_self_eq_true _

/-- A world that nobody touches shows no changes. -/
theorem changes_self (directory : Place) (tree : Tree) : changes directory tree tree = [] := by
  simp [changes, looksLike_self]

end Tree

namespace World

/-- The directory to work in, below the directory that a fresh world is made for. -/
def workIn (ground : Place) : Place :=
  ground ++ ["work".toList]

/-- The directories that every system has, those above first. -/
def systemDirectories : List String :=
  let top : List String :=
    ["/boot", "/dev", "/dev/pts", "/dev/shm", "/etc", "/home", "/media", "/mnt", "/opt", "/proc",
      "/root", "/run", "/srv", "/sys", "/tmp", "/usr", "/var"]
  let rest : List String :=
    ["/usr/bin", "/usr/games", "/usr/include", "/usr/lib", "/usr/lib64", "/usr/local",
      "/usr/local/bin", "/usr/local/lib", "/usr/local/sbin", "/usr/sbin", "/usr/share", "/usr/src",
      "/var/cache", "/var/lib", "/var/log", "/var/mail", "/var/spool", "/var/tmp"]
  top ++ rest

/-- The place of an absolute path. -/
def placeOf (path : String) : Place :=
  (Text.splitAt '/' path.toList).filter (!·.isEmpty)

/-- The links that every system has. -/
def systemLinks : List (String × String) :=
  [("/bin", "usr/bin"), ("/lib", "usr/lib"), ("/lib64", "usr/lib64"), ("/sbin", "usr/sbin"),
    ("/dev/fd", "/proc/self/fd"), ("/var/run", "/run")]

/-- The devices of every system. -/
def systemDevices : List (String × Device) :=
  [("/dev/null", .null), ("/dev/zero", .zero), ("/dev/full", .full), ("/dev/random", .zero),
    ("/dev/urandom", .zero), ("/dev/tty", .terminal), ("/dev/stdin", .descriptor 0),
    ("/dev/stdout", .descriptor 1), ("/dev/stderr", .descriptor 2)]

/-- What every system has, beside its directories. -/
def systemEntries : List (Place × Entry) :=
  let accounts : Place × Entry :=
    (Account.filePlace, .file (bytesOf (rawOf (Account.fileOf Account.ofSystem))) false)
  let links := systemLinks.map fun (path, target) => (placeOf path, Entry.link target.toList)
  let devices := systemDevices.map fun (path, device) => (placeOf path, Entry.device device)
  let tools := toolNames.map fun name => (placeOf "/usr/bin" ++ [name], Entry.tool name)
  accounts :: links ++ devices ++ tools

/-- The tree of a fresh world: what every system has, the directory `ground`, and one to work in
below it. -/
def freshTree (ground : Place) : Tree :=
  let start : Tree := ⟨[], 0⟩
  let directories := ground :: workIn ground :: systemDirectories.map placeOf
  let tree := directories.foldl Tree.putDirectory start
  { tree with entries := tree.entries ++ systemEntries }

/-- The directory at a place, as a process works in it. -/
def workDirAt (tree : Tree) (place : Place) : WorkDir :=
  match tree.get? place with
  | some (.directory serial) => ⟨place, serial⟩
  | _ => ⟨place, 0⟩

/-- A fresh world with an environment. The ends of staging names are numbers. -/
def fresh (ground : Place) (vars : Variables) (isTerminal : Bool) : World where
  tree := freshTree ground
  workDir := workDirAt (freshTree ground) (workIn ground)
  vars := vars
  isTerminal := isTerminal
  endings := fun n => Text.ofNat (10000000 + n)
  output := []
  errors := []
  childOutput := []
  childErrors := []
  announced := []

/-- A world in which nothing has been printed yet. -/
def silent (w : World) : World :=
  { w with output := [], errors := [], childOutput := [], childErrors := [], announced := [] }

/-- The value of an action in a world whose children are scripts, and the world behind it. -/
def perform {α : Type} (w : World) (action : Action α) (others : Request → World → World) :
    Except Failure α × World :=
  (Routine.interpret (answerAmid others runScripts) action.run).run w

end World

end Virtual

end Oneshot
