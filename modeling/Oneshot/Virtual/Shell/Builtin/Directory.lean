import Oneshot.Virtual.Shell.Builtin.Basic

/-!
# Working directories

The commands that change and print the working directory and the permissions that new files lack. A
shell remembers the path by which a script has named its directory, links and all.

- `stepsFrom_append`: the steps of a path are taken one after the other.
-/

namespace Oneshot

namespace Virtual

namespace Shell

/-- The names on a way behind some steps: a point stays, two points go back. -/
def stepsFrom (names : List Text) (steps : List Text) : List Text :=
  steps.foldl (fun names step =>
    if step.isEmpty || step == ['.'] then names
    else if step = ['.', '.'] then names.dropLast
    else names ++ [step]) names

/-- How many slashes a path that begins with one keeps in front. -/
def frontSlashes (path : Text) : Text :=
  match path with
  | '/' :: '/' :: '/' :: _ => ['/']
  | '/' :: '/' :: _ => ['/', '/']
  | _ => ['/']

/-- The path to which another one leads from a directory, without points. A directory without a path
leads nowhere. -/
def logicalPath? (directory path : Text) : Option Text :=
  let whole := if path.head? = some '/' then path else directory ++ '/' :: path
  if whole.head? = some '/' ∧ (path.head? = some '/' ∨ directory ≠ []) then
    let front := frontSlashes (if path.head? = some '/' then path else directory)
    some (front ++ Text.join ['/'] (stepsFrom [] (Text.splitAt '/' whole)))
  else none

/-- The path of the directory that a process works in, if it still has one. -/
def pathOfWorkDir? (p : Process) : Option Text :=
  (p.system.tree.placeOf? p.workDir).map fun place => rawOf (Tree.textOf place)

/-- The path of the working directory, or nothing and a message. -/
def physicalPath : Calm Text := do
  let s ← get
  match pathOfWorkDir? s.toProcess with
  | some path => return path
  | none =>
    complain "getcwd() failed: No such file or directory"
    return []

/-- Goes to the directory at a path, as the script names it or, if `isPhysical` says so, as it
stands in the tree. -/
def goTo (isPhysical : Bool) (path : Text) : Step Bool := do
  let s ← get
  let logical? := if isPhysical then none else logicalPath? s.directory path
  match s.lookUp (logical?.getD path) with
  | .ok (place, .directory serial) =>
    assign "OLDPWD" s.directory true
    modify fun s => { s with workDir := ⟨place, serial⟩ }
    let directory ← match logical? with
      | some directory => pure directory
      | none => physicalPath
    modify ({ · with directory })
    assign "PWD" directory true
    return true
  | _ => return false

/-- Whether a path says where it begins, so that no other directories are searched for it. -/
def isAnchored (path : Text) : Bool :=
  match path with
  | '/' :: _ | ['.'] | '.' :: '/' :: _ | ['.', '.'] | '.' :: '.' :: '/' :: _ => true
  | _ => false

/-- Goes to the first of some paths that is a directory. Those whose flag is set are printed. -/
def goToFirst (isPhysical : Bool) : List (Text × Bool) → Step (Option Bool)
  | [] => return none
  | (path, isShown) :: rest => do
    if (← get).toProcess.isDirectory path then
      return if ← goTo isPhysical path then some isShown else none
    else goToFirst isPhysical rest

/-- Whether the last of some options asks for the path as it stands in the tree. -/
def asksPhysical (options : List (Char × Text)) : Bool :=
  (options.getLast?).any (·.1 == 'P')

/-- Prints the directory that the shell has come to, if that is asked for. -/
def arrive (isShown : Bool) : Step Unit := do
  let s ← get
  printOut (if isShown then s.directory ++ ['\n'] else []) 0

/-- Changes the working directory. -/
def changeDirectory : Builtin := fun arguments => do
  let (options, operands) ← readOptions "LP" [] arguments
  let s ← get
  let isPhysical := asksPhysical options
  let returns := operands.head? = some ['-']
  let path : Text := match operands with
    | [] => (s.get? "HOME").getD []
    | ['-'] :: _ => (s.get? "OLDPWD").getD []
    | path :: _ => path
  let shown? ←
    if isAnchored path then do
      pure (if ← goTo isPhysical path then some false else none)
    else
      let path := if path.isEmpty then ['.'] else path
      let directories := Text.splitAt ':' ((s.get? "CDPATH").getD [])
      goToFirst isPhysical (directories.map fun directory =>
        if directory.isEmpty then (path, false) else (directory ++ '/' :: path, true))
  match shown? with
  | some isShown => arrive (returns || isShown)
  | none =>
    if isAnchored path then abort ("can't cd to ".toList ++ path)
    else if ← goTo isPhysical path then arrive returns
    else abort ("can't cd to ".toList ++ path)

/-- Prints the working directory. -/
def printDirectory : Builtin := fun arguments => do
  let (options, _) ← readOptions "LP" [] arguments
  let s ← get
  let directory :=
    if asksPhysical options then (pathOfWorkDir? s.toProcess).getD [] else s.directory
  printOut (directory ++ ['\n']) 0

/-! ### Permissions of new files -/

/-- The letters of three permissions. -/
def permissionLetters (n : Nat) : Text :=
  (if n / 4 % 2 = 1 then ['r'] else []) ++ (if n / 2 % 2 = 1 then ['w'] else [])
    ++ (if n % 2 = 1 then ['x'] else [])

/-- The permissions that new files have, in letters. -/
def maskLetters (umask : Nat) : Text :=
  let allowed (shift : Nat) : Text := permissionLetters (7 - umask / shift % 8)
  "u=".toList ++ allowed 64 ++ ",g=".toList ++ allowed 8 ++ ",o=".toList ++ allowed 1

/-- The permissions behind a clause such as `g+w`. -/
def applyClause (mode : Nat) (clause : Text) : Option Nat :=
  let whom := clause.takeWhile fun c => "ugoa".toList.contains c
  match clause.drop whom.length with
  | sign :: letters =>
    let bits := (if letters.contains 'r' then 4 else 0) + (if letters.contains 'w' then 2 else 0)
      + (if letters.contains 'x' then 1 else 0)
    let everybody := whom.isEmpty || whom.contains 'a'
    let change (shift : Nat) (who : Char) (mode : Nat) : Nat :=
      let old := mode / shift % 8
      let new :=
        if sign = '+' then old ||| bits else if sign = '-' then old &&& (7 - bits) else bits
      if everybody || whom.contains who then mode + shift * new - shift * old else mode
    if "+-=".toList.contains sign && letters.all fun c => "rwxXst".toList.contains c then
      some (change 64 'u' (change 8 'g' (change 1 'o' mode)))
    else none
  | [] => none

/-- Sets or prints the permissions that new files lack. -/
def setMask : Builtin := fun arguments => do
  let (options, operands) ← readOptions "S" [] arguments
  let umask := (← get).umask
  match operands with
  | [] =>
    let text := if options.isEmpty then
        let digits := Nat.toDigits 8 umask
        List.replicate (4 - digits.length) '0' ++ digits
      else maskLetters umask
    printOut (text ++ ['\n']) 0
  | mask :: _ =>
    if mask.head?.any Char.isDigit then
      if mask.all isOctal then
        modify ({ · with umask := octalOf mask % 512 })
        finish 0
      else abort ("Illegal number: ".toList ++ mask)
    else
      match (Text.splitAt ',' mask).foldlM applyClause (511 - umask) with
      | some mode =>
        modify ({ · with umask := 511 - mode })
        finish 0
      | none => abort ("Illegal mode: ".toList ++ mask)

/-- The steps of a path are taken one after the other. -/
theorem stepsFrom_append (names first second : List Text) :
    stepsFrom names (first ++ second) = stepsFrom (stepsFrom names first) second := by
  simp [stepsFrom]

end Shell

end Virtual

end Oneshot
