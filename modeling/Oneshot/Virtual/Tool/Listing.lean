import Oneshot.Virtual.Tool.Files

/-!
# Names and directories

The tools that list directories, take paths apart and find out where they lead.

- `baseName_root`: the root is its own last name.
-/

namespace Oneshot

namespace Virtual

namespace Tool

/-! ### Listing -/

/-- What stands behind a name in a listing, to tell what it is. -/
def markOf (given : Given) (entry : Entry) : Text :=
  match entry with
  | .directory _ => if given.has 'F' || given.has 'p' then ['/'] else []
  | .link _ => if given.has 'F' then ['@'] else []
  | .file _ true | .tool _ => if given.has 'F' then ['*'] else []
  | _ => []

/-- The names in a directory as they are listed. -/
def listedNames (given : Given) (tree : Tree) (place : Place) : List Text :=
  let names := (tree.namesIn place).map rawOf
  let names := match given.last? "aA" with
    | some 'a' => ['.'] :: ['.', '.'] :: names
    | some _ => names
    | none => names.filter (·.head? != some '.')
  let sorted := if given.has 'U' || given.has 'f' then names else inOrder names
  if given.has 'r' then sorted.reverse else sorted

/-- The lines for the names in a directory. -/
def listing (given : Given) (tree : Tree) (place : Place) : Text :=
  let lineOf (name : Text) : Text :=
    let entry := (tree.get? (place ++ [textOfRaw name])).getD (.directory 0)
    name ++ markOf given entry
  let lines := (listedNames given tree place).map lineOf
  if given.has 'm' then
    if lines.isEmpty then [] else Text.join ", ".toList lines ++ ['\n']
  else lines.flatMap (· ++ ['\n'])

/-- The directories at and below a place, each with its path, at most `depth` deep. -/
def directoriesFrom (given : Given) (tree : Tree) : (depth : Nat) → Place → Text →
    List (Place × Text)
  | 0, place, path => [(place, path)]
  | depth + 1, place, path =>
    let names := (listedNames given tree place).filter fun name =>
      name != ['.'] && name != ['.', '.']
        && ((tree.get? (place ++ [textOfRaw name])).any (·.isDirectory))
    (place, path) :: names.flatMap fun name =>
      directoriesFrom given tree depth (place ++ [textOfRaw name]) (below path name)

/-- Lists files and what directories hold. -/
def ls : Tool :=
  withGiven ⟨"ls", "1aAdFprRUfmlhStiCnsogvXxbqNQLcuHkGZBDT:I:w:", [("all", 'a'),
    ("almost-all", 'A'), ("directory", 'd'), ("classify", 'F'), ("recursive", 'R'),
    ("reverse", 'r')], false⟩ 2 fun given => do
    let operands := if given.operands.isEmpty then [['.']] else given.operands
    let mut files : List (Text × Entry) := []
    let mut directories : List (Text × Place) := []
    let mut status := 0
    for path in operands do
      let p ← get
      match p.lookUp path, p.lookAt path with
      | .ok (place, .directory serial), _ =>
        if given.has 'd' then files := files ++ [(path, .directory serial)]
        else directories := directories ++ [(path, place)]
      | .ok (_, entry), _ => files := files ++ [(path, entry)]
      | .error _, .ok (_, entry) => files := files ++ [(path, entry)]
      | .error cause, .error _ =>
        complain "ls" ("cannot access ".toList ++ quoted path ++ ": ".toList ++ cause.wording)
        status := 2
    let sortedBy {α : Type} (pairs : List (Text × α)) : List (Text × α) :=
      let sorted := pairs.mergeSort fun a b =>
        (compare (a.1.map Char.toNat) (b.1.map Char.toNat)).isLE
      if given.has 'r' then sorted.reverse else sorted
    let tree := (← get).system.tree
    let front := (sortedBy files).flatMap fun (path, entry) =>
      path ++ markOf given entry ++ ['\n']
    let all := (sortedBy directories).flatMap fun (path, place) =>
      if given.has 'R' then directoriesFrom given tree 64 place path else [(place, path)]
    let hasHeads := 1 < operands.length || given.has 'R'
    let sections := all.map fun (place, path) =>
      (if hasHeads then path ++ ":\n".toList else []) ++ listing given tree place
    let sections := if front.isEmpty then sections else front :: sections
    printing "ls" (Text.join ['\n'] sections) status

/-! ### Paths -/

/-- Prints the last names of paths, without an ending. -/
def basename : Tool :=
  withGiven ⟨"basename", "as:z", [("multiple", 'a'), ("suffix", 's'), ("zero", 'z')], true⟩ 1
    fun given => do
    let isMultiple := given.has 'a' || given.has 's'
    let final := if given.has 'z' then '\x00' else '\n'
    let short (suffix path : Text) : Text :=
      let name := baseName path
      (if name = suffix then name else Text.dropEnd suffix name) ++ [final]
    match given.operands with
    | [] => refuseMissing "basename" []
    | path :: rest =>
      if isMultiple then
        let suffix := (given.value? 's').getD []
        printing "basename" ((path :: rest).flatMap (short suffix)) 0
      else
        match rest with
        | _ :: extra :: _ => refuseExtra "basename" extra
        | rest => printing "basename" (short (rest.headD []) path) 0

/-- Prints paths without their last names. -/
def dirname : Tool :=
  withGiven ⟨"dirname", "z", [("zero", 'z')], false⟩ 1 fun given => do
    let final := if given.has 'z' then '\x00' else '\n'
    if given.operands.isEmpty then refuseMissing "dirname" []
    else
      printing "dirname" (given.operands.flatMap fun path => directoryName path ++ [final]) 0

/-- Prints the working directory. -/
def pwd : Tool := fun arguments => do
  let p ← get
  match p.system.tree.placeOf? p.workDir with
  | some place =>
    let known := (p.valueOf? "PWD").getD []
    let isKnown : Bool := match p.lookUp known with
      | .ok (other, _) => other == place && known.head? == some '/'
      | .error _ => false
    let path := if arguments.contains "-L".toList && isKnown then known
      else rawOf (Tree.textOf place)
    printing "pwd" (path ++ ['\n']) 0
  | none =>
    complain "pwd" "couldn't find directory entry in '..' with matching i-node"
    return 1

/-- Where a path leads when all links are followed. Only its last name may be missing. -/
def canonical (p : Process) (mustExist : Bool) (path : Text) : Except Errno Text :=
  match p.system.tree.find p.workDir true (textOfRaw path) with
  | .error cause => .error cause
  | .ok (_, none) => if mustExist then .error .noEntry else found
  | .ok (_, some _) => found
where
  found : Except Errno Text :=
    (p.system.tree.find p.workDir true (textOfRaw path)).map fun f => rawOf (Tree.textOf f.1)

/-- Prints where links lead. -/
def readlink : Tool :=
  withGiven ⟨"readlink", "femnqsvz", [("canonicalize", 'f'), ("canonicalize-existing", 'e'),
    ("canonicalize-missing", 'm'), ("no-newline", 'n')], false⟩ 1 fun given => do
    if given.operands.isEmpty then refuseMissing "readlink" []
    else
      let final : Text := if given.has 'n' then [] else ['\n']
      let mut text : Text := []
      let mut status := 0
      for path in given.operands do
        let p ← get
        if given.has 'f' || given.has 'e' || given.has 'm' then
          match canonical p (given.has 'e') path with
          | .ok found => text := text ++ found ++ final
          | .error _ => status := 1
        else
          match p.lookAt path with
          | .ok (_, .link target) => text := text ++ rawOf target ++ final
          | _ => status := 1
      printing "readlink" text status

/-- Prints where paths lead. -/
def realpath : Tool :=
  withGiven ⟨"realpath", "emsqzLP", [("canonicalize-existing", 'e'),
    ("canonicalize-missing", 'm'), ("quiet", 'q')], false⟩ 1 fun given => do
    if given.operands.isEmpty then refuseMissing "realpath" []
    else
      let mut text : Text := []
      let mut status := 0
      for path in given.operands do
        match canonical (← get) (given.has 'e') path with
        | .ok found => text := text ++ found ++ ['\n']
        | .error cause =>
          if !given.has 'q' then complainOf "realpath" path cause
          status := 1
      printing "realpath" text status

/-- The root is its own last name. -/
theorem baseName_root : baseName ['/'] = ['/'] := by
  decide +kernel

end Tool

end Virtual

end Oneshot
