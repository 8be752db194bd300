import Oneshot.Virtual.Tool.Files

/-!
# Copying, moving and linking

The tools that put files and directories elsewhere. Their last operand is the target: a directory,
below which the others arrive under their own names, or the new name of a single one.

- `copied_of_none`: a copy of nothing changes nothing.
-/

namespace Oneshot

namespace Virtual

namespace Tool

/-- Whether a link stands at a path. -/
def isLink (p : Process) (path : Text) : Bool :=
  match entryAt? p path with
  | .ok (_, some (.link _)) => true
  | _ => false

/-- Where operands arrive, or a complaint. `joinsLinks` says whether a link to a directory counts as
one. -/
def arrivals (tool : String) (given : Given) (joinsLinks : Bool) :
    Run (Option (List (Text × Text))) := do
  let p ← get
  let isDirectory (path : Text) : Bool := p.isDirectory path && (joinsLinks || !isLink p path)
  let join (directory : Text) (sources : List Text) : List (Text × Text) :=
    sources.map fun source => (source, below directory (baseName source))
  let refuseTarget (target : Text) : Run (Option (List (Text × Text))) := do
    let cause : Errno := match p.lookUp target with
      | .error cause => cause
      | .ok _ => .notDirectory
    complain tool ("target ".toList ++ quoted target ++ ": ".toList ++ cause.wording)
    return none
  match given.value? 't', given.operands with
  | _, [] =>
    let _ ← refuseUsage tool "missing file operand" 1
    return none
  | some target, sources =>
    if p.isDirectory target then return some (join target sources) else refuseTarget target
  | none, [source] =>
    if tool = "ln" then return some [(source, baseName source)]
    else
      let _ ← refuseUsage tool
        ("missing destination file operand after ".toList ++ (← inMarks source)) 1
      return none
  | none, operands =>
    let target := (operands.getLast?).getD []
    match operands.dropLast with
    | [source] =>
      let joins := !given.has 'T' && isDirectory target
      return some (if joins then join target [source] else [(source, target)])
    | sources =>
      if p.isDirectory target then return some (join target sources) else refuseTarget target

/-- Does something for each operand and its goal. The status is the worst. -/
def forEachArrival (arrivals? : Option (List (Text × Text))) (f : Text → Text → Run Nat) :
    Run Nat :=
  match arrivals? with
  | none => return 1
  | some pairs => pairs.foldlM (fun status pair => return max status (← f pair.1 pair.2)) 0

/-- The tree with all that lies at or below `source` copied to `target`. -/
def copied (tree : Tree) (source target : Place) : Tree :=
  (tree.entries.filter fun e => Tree.isWithin e.1 source).foldl (fun result e =>
    let place := target ++ e.1.drop source.length
    match e.2, result.get? place with
    | .directory _, some (.directory _) => result
    | .directory _, _ => result.putDirectory place
    | entry, _ => result.put place entry) tree

/-- What is copied of a file: its content, and whether it may be executed. -/
def contentOf (p : Process) (path : Text) (entry : Entry) : Bytes × Bool :=
  match entry with
  | .file content isExecutable => (content, isExecutable)
  | .tool _ => ([], true)
  | _ =>
    match p.system.tree.readFile p.workDir (textOfRaw path) with
    | .ok content => (content, false)
    | .error _ => ([], false)

/-- Copies a file. -/
def copyFile (given : Given) (entry : Entry) (source goal : Text) : Run Nat := do
  let p ← get
  let (content, isExecutable) := contentOf p source entry
  let fault (cause : Errno) : Run Nat := do
    complain "cp" ("cannot create regular file ".toList ++ quoted goal ++ ": ".toList
      ++ cause.wording)
    return 1
  match p.system.tree.find p.workDir true (textOfRaw goal) with
  | .error cause => fault cause
  | .ok (_, some (.directory _)) =>
    complain "cp" ("cannot overwrite directory ".toList ++ quoted goal
      ++ " with non-directory".toList)
    return 1
  | .ok (place, none) =>
    if goal.getLast? = some '/' then fault .notDirectory
    else
      set { p with system.tree := p.system.tree.put place (.file content isExecutable) }
      report given (quoted source ++ " -> ".toList ++ quoted goal)
      return 0
  | .ok (_, some _) =>
    match p.system.tree.writeFile p.workDir (textOfRaw goal) content with
    | .error cause => fault cause
    | .ok (_, tree) =>
      set { p with system.tree := tree }
      report given (quoted source ++ " -> ".toList ++ quoted goal)
      return 0

/-- Copies a directory with all that it holds. -/
def copyDirectory (given : Given) (place : Place) (source goal : Text) : Run Nat := do
  let p ← get
  let refuse (message : Text) : Run Nat := do
    complain "cp" message
    return 1
  match p.system.tree.find p.workDir true (textOfRaw goal) with
  | .error cause =>
    refuse ("cannot create directory ".toList ++ quoted goal ++ ": ".toList ++ cause.wording)
  | .ok (goalPlace, occupant?) =>
    if occupant?.any (!·.isDirectory) then
      refuse ("cannot overwrite non-directory ".toList ++ quoted goal ++ " with directory ".toList
        ++ quoted source)
    else if Tree.isWithin goalPlace place then
      refuse ("cannot copy a directory, ".toList ++ quoted source ++ ", into itself, ".toList
        ++ quoted goal)
    else
      set { p with system.tree := copied p.system.tree place goalPlace }
      report given (quoted source ++ " -> ".toList ++ quoted goal)
      return 0

/-- The copying tool. -/
def cp : Tool :=
  withGiven ⟨"cp", "rRafpvnt:TuidPLHlsxb", [("recursive", 'r'), ("archive", 'a'), ("force", 'f'),
    ("verbose", 'v'), ("no-clobber", 'n'), ("target-directory", 't'),
    ("no-target-directory", 'T'), ("update", 'u')], false⟩ 1 fun given => do
    let isDeep := given.has 'r' || given.has 'R' || given.has 'a'
    let keepsLinks := isDeep || given.has 'd' || given.has 'P'
    forEachArrival (← arrivals "cp" given true) fun source goal => do
      let p ← get
      let found := if keepsLinks && !given.has 'L' then p.lookAt source else p.lookUp source
      match found with
      | .error cause =>
        complain "cp" ("cannot stat ".toList ++ quoted source ++ ": ".toList ++ cause.wording)
        return 1
      | .ok (place, entry) =>
        let goalPlace? := (p.lookUp goal).toOption.map Prod.fst
        if entry.isDirectory && !isDeep then
          complain "cp" ("-r not specified; omitting directory ".toList ++ quoted source)
          return 1
        else if given.has 'n' && goalPlace?.isSome then return 0
        else if goalPlace? = some place && !entry.isDirectory then
          complain "cp" (quoted source ++ " and ".toList ++ quoted goal
            ++ " are the same file".toList)
          return 1
        else
          match entry with
          | .directory _ => copyDirectory given place source goal
          | .link target =>
            changing "cp" ("cannot create symbolic link ".toList ++ quoted goal) fun p =>
              match entryAt? p goal with
              | .error cause => .error cause
              | .ok (place, _) => .ok (p.system.tree.put place (.link target))
          | entry => copyFile given entry source goal

/-- The moving tool. -/
def mv : Tool :=
  withGiven ⟨"mv", "fvnt:Tuib", [("force", 'f'), ("verbose", 'v'), ("no-clobber", 'n'),
    ("target-directory", 't'), ("no-target-directory", 'T'), ("update", 'u')], false⟩ 1
    fun given => do
    forEachArrival (← arrivals "mv" given true) fun source goal => do
      let p ← get
      let refuse (message : Text) : Run Nat := do
        complain "mv" message
        return 1
      match p.lookAt source, p.lookAt goal with
      | .error cause, _ =>
        refuse ("cannot stat ".toList ++ quoted source ++ ": ".toList ++ cause.wording)
      | .ok (place, entry), goalEntry =>
        let goalPlace? := (entryAt? p goal).toOption.map Prod.fst
        let isThere := goalEntry.isOk
        if given.has 'n' && isThere then refuse ("not replacing ".toList ++ quoted goal)
        else if entry.isDirectory && goalPlace?.any (Tree.isWithin · place) then
          refuse ("cannot move ".toList ++ quoted source ++ " to a subdirectory of itself, ".toList
            ++ quoted (if goalPlace? = some place then below goal (baseName source) else goal))
        else if goalPlace? = some place then
          refuse (quoted source ++ " and ".toList ++ quoted goal ++ " are the same file".toList)
        else
          match p.system.tree.rename p.workDir (textOfRaw source) (textOfRaw goal) with
          | .ok tree =>
            set { p with system.tree := tree }
            report given ("renamed ".toList ++ quoted source ++ " -> ".toList ++ quoted goal)
            return 0
          | .error .isDirectory =>
            refuse ("cannot overwrite directory ".toList ++ quoted goal
              ++ " with non-directory".toList)
          | .error .notEmpty =>
            refuse ("cannot overwrite ".toList ++ quoted goal ++ ": ".toList
              ++ Errno.notEmpty.wording)
          | .error cause =>
            if entry.isDirectory && isThere && cause == .notDirectory then
              refuse ("cannot overwrite non-directory ".toList ++ quoted goal
                ++ " with directory ".toList ++ quoted source)
            else
              refuse ("cannot move ".toList ++ quoted source ++ " to ".toList ++ quoted goal
                ++ ": ".toList ++ cause.wording)

/-- Makes a link. A hard link is as good as a copy of the entry. -/
def makeLink (given : Given) (source goal : Text) : Run Nat := do
  let isSymbolic := given.has 's'
  let p ← get
  let refuse (message : Text) : Run Nat := do
    complain "ln" message
    return 1
  let kind : Text := if isSymbolic then "symbolic" else "hard"
  let fault (cause : Errno) : Run Nat :=
    let source : Text :=
      if isSymbolic || cause == .alreadyThere then [] else " => ".toList ++ quoted source
    refuse ("failed to create ".toList ++ kind ++ " link ".toList ++ quoted goal ++ source
      ++ ": ".toList ++ cause.wording)
  match if isSymbolic then .ok ([], .link (textOfRaw source)) else p.lookAt source with
  | .error cause =>
    refuse ("failed to access ".toList ++ quoted source ++ ": ".toList ++ cause.wording)
  | .ok (_, .directory _) =>
    refuse (inMessage source ++ ": hard link not allowed for directory".toList)
  | .ok (_, entry) =>
    match entryAt? p goal with
    | .error cause => fault cause
    | .ok (place, occupant?) =>
      let isFree := occupant?.isNone || given.has 'f' && !occupant?.any (·.isDirectory)
      if !isFree then
        if given.has 'f' then
          refuse (inMessage goal ++ ": cannot overwrite directory".toList)
        else fault .alreadyThere
      else
        set { p with system.tree := p.system.tree.put place entry }
        report given (quoted goal ++ (if isSymbolic then " -> ".toList else " => ".toList)
          ++ quoted source)
        return 0

/-- The linking tool. -/
def ln : Tool :=
  withGiven ⟨"ln", "sfnTvrt:bi", [("symbolic", 's'), ("force", 'f'), ("no-dereference", 'n'),
    ("verbose", 'v'), ("no-target-directory", 'T'), ("target-directory", 't')], false⟩ 1
    fun given => do
    forEachArrival (← arrivals "ln" given (!given.has 'n')) (makeLink given)

/-- A copy of nothing changes nothing. -/
theorem copied_of_none {tree : Tree} {source : Place}
    (h : ∀ e ∈ tree.entries, Tree.isWithin e.1 source = false) (target : Place) :
    copied tree source target = tree := by
  have : tree.entries.filter (fun e => Tree.isWithin e.1 source) = [] := by
    simpa using h
  simp [copied, this]

end Tool

end Virtual

end Oneshot
