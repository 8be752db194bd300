import Oneshot.Virtual.Tool.Basic

/-!
# Making and removing files

The tools that make, remove and mark files and directories.

- `modeExecutes?_add`: a mode that adds the right to execute makes files executable.
-/

namespace Oneshot

namespace Virtual

namespace Tool

/-- Changes the tree, or complains. -/
def changing (tool : String) (headline : Text) (change : Process → Except Errno Tree) :
    Run Nat := do
  let p ← get
  match change p with
  | .ok tree =>
    set { p with system.tree := tree }
    return 0
  | .error cause =>
    complain tool (headline ++ ": ".toList ++ cause.wording)
    return 1

/-- Prints what a tool does, if that is asked for. -/
def report (given : Given) (message : Text) : Run Unit :=
  if given.has 'v' then say 1 (message ++ ['\n']) else return

/-- What stands at a path, which may be nothing. A link at its end is not followed. -/
def entryAt? (p : Process) (path : Text) : Except Errno (Place × Option Entry) :=
  p.system.tree.find p.workDir false (textOfRaw path)

/-- The path of something below a directory. -/
def below (directory name : Text) : Text :=
  Text.dropEndWhile (· == '/') directory ++ '/' :: name

/-- The last name of a path. -/
def baseName (path : Text) : Text :=
  let path := Tree.withoutFinalSlashes path
  if path = ['/'] then path else ((Text.splitAt '/' path).getLast?).getD []

/-- The path without its last name. -/
def directoryName (path : Text) : Text :=
  match Text.cutLast? ['/'] (Tree.withoutFinalSlashes path) with
  | none => ['.']
  | some (directory, _) =>
    let directory := Text.dropEndWhile (· == '/') directory
    if directory.isEmpty then ['/'] else directory

/-- The beginnings of a path, the shortest first. -/
def pathBeginnings (path : Text) : List Text :=
  let names := (Text.splitAt '/' path).filter (!·.isEmpty)
  let start := if ['/'].isPrefixOf path then ['/'] else []
  (List.range names.length).map fun i => start ++ Text.join ['/'] (names.take (i + 1))

/-! ### Directories -/

/-- Makes a directory. -/
def makeDirectory (given : Given) (path : Text) : Run Nat := do
  let headline := "cannot create directory ".toList ++ (← inMarks path)
  let status ← changing "mkdir" headline fun p => p.system.tree.mkdir p.workDir (textOfRaw path)
  if status = 0 then
    report given ("mkdir: created directory ".toList ++ quoted path)
  return status

/-- Makes a directory with all that are missing on the way to it. -/
def makeWay (given : Given) (path : Text) : Run Nat := do
  let beginnings := pathBeginnings path
  for (directory, i) in beginnings.zipIdx do
    if !(← get).isDirectory directory then
      let isLast := i + 1 = beginnings.length
      match (← get).lookUp directory with
      | .ok _ =>
        let cause : Errno := if isLast then .alreadyThere else .notDirectory
        complain "mkdir" ("cannot create directory ".toList ++ (← inMarks directory)
          ++ ": ".toList ++ cause.wording)
        return 1
      | .error _ =>
        if (← makeDirectory given directory) ≠ 0 then return 1
  return 0

/-- Makes directories. -/
def mkdir : Tool :=
  withGiven ⟨"mkdir", "pvm:Z", [("parents", 'p'), ("verbose", 'v'), ("mode", 'm')], false⟩ 1
    fun given =>
    if given.operands.isEmpty then refuseMissing "mkdir" []
    else
      forEach given.operands fun path =>
        if given.has 'p' && !path.isEmpty then makeWay given path else makeDirectory given path

/-- The tree without an empty directory. -/
def withoutDirectory (p : Process) (path : Text) : Except Errno Tree :=
  if (Text.splitAt '/' (Tree.withoutFinalSlashes path)).getLast? = some ['.'] then .error .invalid
  else
    match entryAt? p path with
    | .error cause => .error cause
    | .ok (_, none) => .error .noEntry
    | .ok (place, some (.directory _)) =>
      if p.system.tree.hasChildren place then .error .notEmpty
      else .ok (p.system.tree.erase place)
    | .ok (_, some _) => .error .notDirectory

/-- Removes empty directories, with those on the way to them if that is asked for. -/
def rmdir : Tool :=
  withGiven ⟨"rmdir", "pvi", [("parents", 'p'), ("verbose", 'v'),
    ("ignore-fail-on-non-empty", 'i')], false⟩ 1 fun given =>
    if given.operands.isEmpty then refuseMissing "rmdir" []
    else
      forEach given.operands fun path => do
        let paths := if given.has 'p' then (pathBeginnings path).reverse else [path]
        for path in paths do
          report given ("rmdir: removing directory, ".toList ++ quoted path)
          let p ← get
          match withoutDirectory p path with
          | .ok tree => set { p with system.tree := tree }
          | .error cause =>
            if given.has 'i' && cause == .notEmpty then return 0
            complain "rmdir" ("failed to remove ".toList ++ quoted path ++ ": ".toList
              ++ cause.wording)
            return 1
        return 0

/-! ### Removal -/

/-- The paths at and below a place, those of a directory in front of its own. -/
def pathsBelow (tree : Tree) (place : Place) (path : Text) : List (Text × Bool) :=
  let inside := (tree.entries.filter fun e => Tree.isWithin e.1 place).mergeSort fun a b =>
    b.1.length ≤ a.1.length
  inside.map fun (other, entry) =>
    let rest := other.drop place.length
    (if rest.isEmpty then path else below path (rawOf (Text.join ['/'] rest)), entry.isDirectory)

/-- Removes what stands at a path. -/
def removePath (given : Given) (path : Text) : Run Nat := do
  let refuse (message : Text) : Run Nat := do
    complain "rm" message
    return 1
  let p ← get
  let isDeep := given.has 'r' || given.has 'R'
  let last := (Text.splitAt '/' (Tree.withoutFinalSlashes path)).getLast?
  if isDeep && (last == some ['.'] || last == some ['.', '.']) then
    refuse ("refusing to remove '.' or '..' directory: skipping ".toList ++ quoted path)
  else if isDeep && path = ['/'] then
    complain "rm" "it is dangerous to operate recursively on '/'"
    refuse "use --no-preserve-root to override this failsafe"
  else
    let fault (cause : Errno) : Run Nat :=
      refuse ("cannot remove ".toList ++ quoted path ++ ": ".toList ++ cause.wording)
    match entryAt? p path with
    | .error cause =>
      if given.has 'f' && (cause == .noEntry || cause == .notDirectory) then return 0
      else fault cause
    | .ok (_, none) => if given.has 'f' then return 0 else fault .noEntry
    | .ok (place, some entry) =>
      let isDirectory := entry.isDirectory
      let isEmpty := !p.system.tree.hasChildren place
      if isDirectory && !isDeep && !given.has 'd' then fault .isDirectory
      else if isDirectory && !isDeep && !isEmpty then fault .notEmpty
      else
        for (path, isDirectory) in pathsBelow p.system.tree place path do
          let what : Text := if isDirectory then "removed directory " else "removed "
          report given (what ++ quoted path)
        set { p with system.tree := p.system.tree.prune place }
        return 0

/-- Removes files, and directories where that is asked for. -/
def rm : Tool :=
  withGiven ⟨"rm", "frRdiIv", [("force", 'f'), ("recursive", 'r'), ("dir", 'd'),
    ("verbose", 'v')], false⟩ 1 fun given =>
    if given.operands.isEmpty then
      if given.has 'f' then return 0 else refuseMissing "rm" []
    else forEach given.operands (removePath given)

/-! ### Times and permissions -/

/-- Makes files that are missing. -/
def touch : Tool :=
  withGiven ⟨"touch", "acmd:r:t:hf", [("no-create", 'c'), ("date", 'd'), ("reference", 'r')],
    false⟩ 1 fun given =>
    if given.operands.isEmpty then refuseUsage "touch" "missing file operand" 1
    else
      forEach given.operands fun path => do
        let p ← get
        match p.system.tree.find p.workDir true (textOfRaw path) with
        | .error cause =>
          complain "touch" ("cannot touch ".toList ++ quoted path ++ ": ".toList ++ cause.wording)
          return 1
        | .ok (_, some _) => return 0
        | .ok (place, none) =>
          if given.has 'c' then return 0
          else if path.getLast? = some '/' then
            complain "touch" ("setting times of ".toList ++ quoted path ++ ": ".toList
              ++ Errno.noEntry.wording)
            return 1
          else
            set { p with system.tree := p.system.tree.put place (.file [] false) }
            return 0

/-- What a clause of a mode says about the right to execute: nothing, or what it makes of it. -/
def clauseExecutes? (clause : Text) : Option (Option Bool) :=
  let whom := clause.takeWhile fun c => "ugoa".toList.contains c
  let isForAll := whom.isEmpty || whom.contains 'a' || "ugo".toList.all whom.contains
  match clause.drop whom.length with
  | sign :: letters =>
    let isClear := letters.all fun c => "rwxXst".toList.contains c
    if !("+-=".toList.contains sign) || !isClear then none
    else if sign = '+' then some (if letters.contains 'x' then some true else none)
    else if sign = '-' then some (if letters.contains 'x' && isForAll then some false else none)
    else if letters.contains 'x' then some (some true)
    else some (if isForAll then some false else none)
  | [] => none

/-- What a mode makes of the right to execute, if it is a mode; `old` is what it was. -/
def modeExecutes? (old : Bool) (mode : Text) : Option Bool :=
  if mode.all isOctal && !mode.isEmpty && mode.length ≤ 5 then
    some ((mode.drop (mode.length - 3)).any fun c => (c.toNat - 48) % 2 == 1)
  else
    (Text.splitAt ',' mode).foldlM (fun old clause =>
      (clauseExecutes? clause).map (·.getD old)) old

/-- Changes the permissions of a file, or of all files in a directory. -/
def changeMode (mode : Text) (isDeep : Bool) (path : Text) : Run Nat := do
  let p ← get
  match p.lookUp path with
  | .error cause =>
    complain "chmod" ("cannot access ".toList ++ quoted path ++ ": ".toList ++ cause.wording)
    return 1
  | .ok (place, _) =>
    let changed (e : Place × Entry) : Place × Entry :=
      let isMeant := if isDeep then Tree.isWithin e.1 place else e.1 == place
      match e.2 with
      | .file content old =>
        if isMeant then (e.1, .file content ((modeExecutes? old mode).getD old)) else e
      | _ => e
    set { p with system.tree.entries := p.system.tree.entries.map changed }
    return 0

/-- Whether an argument with a hyphen in front takes rights away. -/
def isRemovingMode (argument : Text) : Bool :=
  match argument with
  | '-' :: c :: rest => (c :: rest).all fun c => "rwxXst,+=ugoa".toList.contains c
  | _ => false

/-- Changes the permissions of files. -/
def chmod : Tool := fun arguments => do
  let removing := (arguments.filter isRemovingMode).take 1
  let usage : Usage := ⟨"chmod", "Rcfv", [("recursive", 'R'), ("verbose", 'v'), ("changes", 'c'),
    ("quiet", 'f'), ("silent", 'f')], false⟩
  withGiven usage 1 (fun given =>
    match removing ++ given.operands with
    | [] => refuseMissing "chmod" []
    | [mode] => refuseMissing "chmod" [mode]
    | mode :: paths => do
      if (modeExecutes? false mode).isNone then
        refuseUsage "chmod" ("invalid mode: ".toList ++ (← inMarks mode)) 1
      else forEach paths (changeMode mode (given.has 'R')))
    (arguments.filter (!isRemovingMode ·))

/-- A mode that adds the right to execute makes files executable. -/
theorem modeExecutes?_add (old : Bool) : modeExecutes? old "+x".toList = some true := by
  cases old <;> decide +kernel

end Tool

end Virtual

end Oneshot
