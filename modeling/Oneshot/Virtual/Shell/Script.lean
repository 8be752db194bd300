import Oneshot.Virtual.Shell.Compound

/-!
# Shells as programs

A shell takes its options, its script and the script's arguments from its own arguments. It imports
the variables of its environment and finds out where it works before it reads the first line.

- `runShell_environment`: a shell leaves the environment of its process as it was.
-/

namespace Oneshot

namespace Virtual

namespace Shell

/-- The variables that a shell has by itself. Those without a value only have their place. -/
def ownVariables : List ShellVariable :=
  let own (name : String) (value? : Option Text) : ShellVariable :=
    ⟨name.toList, value?, false, false⟩
  [own "IFS" (some " \t\n"), own "MAIL" none, own "MAILPATH" none,
    own "PATH" (some systemSearchPath), own "PS1" (some "# "), own "PS2" (some "> "),
    own "PS4" (some "+ "), own "OPTIND" (some ['1']), own "TERM" none]

/-- The variables of a shell with those of an environment. Other names than those of variables are
dropped. -/
def importVariables (environment : List (Text × Text)) : List ShellVariable :=
  let imported := environment.foldl (fun vars (name, value) =>
    if isName name then putVariable ⟨name, some value, true, false⟩ vars else vars) ownVariables
  let reset (name : Text) (value : Text) (vars : List ShellVariable) : List ShellVariable :=
    let isExported := (variableOf? name vars).any (·.isExported)
    putVariable ⟨name, some value, isExported, false⟩ vars
  putVariable ⟨"PPID", some ['1'], false, false⟩
    (reset "OPTIND" ['1'] (reset "IFS" " \t\n" imported))

/-- A shell that has read nothing yet. -/
def Interpreter.ofProcess (p : Process) : Interpreter where
  toProcess := p
  name := "sh"
  arguments := []
  vars := importVariables p.environment
  functions := []
  aliases := []
  documents := []
  nextDocument := 0
  options := []
  status := 0
  outputStatus := 0
  line := 0
  command := none
  locals := []
  traps := []
  isCopy := false
  loops := 0
  functionDepth := 0
  directory := []
  optionIndex := 1
  optionOffset := none
  lastBackground := 0
  processNumber := p.system.lastProcess
  jobs := []
  umask := 18
  trapStatus := none

/-- Whether a path leads to the directory that a process works in. -/
def leadsHome (p : Process) (path : Text) : Bool :=
  match p.lookUp path with
  | .ok (_, .directory serial) => serial == p.workDir.serial
  | _ => false

/-- Finds out where the shell works: the environment may know a path. -/
def findDirectory : Step Unit := do
  let s ← get
  let known := (s.get? "PWD").getD []
  let directory ←
    if known.head? = some '/' ∧ leadsHome s.toProcess known = true then pure known
    else physicalPath
  modify ({ · with directory })
  assign "PWD" directory true

/-- Switches the options in front of some arguments. What is left is returned, and whether one of
the options says that a script stands among the arguments. -/
def startOptions : (fuel : Nat) → (hasScript : Bool) → List Text → Step (Bool × List Text)
  | 0, hasScript, arguments => return (hasScript, arguments)
  | fuel + 1, hasScript, arguments =>
    let switch (isOn : Bool) (letters rest : Text) (more : List Text) :
        Step (Bool × List Text) := do
      let others := letters.filter fun c => c != 'c' && c != 'l'
      let more ← switchLetters isOn others more
      startOptions fuel (hasScript || letters.contains 'c' && rest.isEmpty) more
    match arguments with
    | ['-'] :: rest | ['-', '-'] :: rest => return (hasScript, rest)
    | ('-' :: letters) :: rest => switch true letters [] rest
    | ('+' :: letters) :: rest => switch false letters [] rest
    | arguments => return (hasScript, arguments)

/-- Runs the script that the arguments of a shell name. -/
def runArguments (e : Engine) (arguments : List Text) : Step Unit := do
  let (hasScript, rest) ← startOptions (arguments.length + 1) false arguments
  if hasScript then
    match rest with
    | [] => abort "-c requires an argument"
    | text :: rest =>
      modify fun s => { s with name := rest.headD s.name, arguments := rest.drop 1 }
      runText e false text
  else
    let s ← get
    match if s.has 's' then [] else rest with
    | [] =>
      modify ({ · with arguments := rest })
      let text ← unreadInput
      takeInput text.length
      runFile e false text
    | path :: arguments =>
      let content := match s.openPath path .read with
        | .ok (file, p) => p.system.unread file
        | .error cause => .error cause
      match content with
      | .ok text =>
        modify ({ · with name := path, arguments })
        runFile e false text
      | .error .isDirectory => return
      | .error cause => abort (openFault false path cause)

/-- The system with one more process. -/
def withProcess (system : System) : System :=
  let number := system.lastProcess + 1
  { system with lastProcess := number, running := number :: system.running }

/-- Runs a shell in a process. -/
def runShell (e : Engine) (arguments : List Text) : Run Ended := do
  let p ← get
  let body : Step Unit := do
    findDirectory
    modify fun s => { s with name := s.calledAs }
    runArguments e arguments
  let (ended, s) := (toEnd e body).run (.ofProcess { p with system := withProcess p.system })
  set { p with system := { s.system with running := s.system.running.drop 1 } }
  return ended

/-- A shell leaves the environment of its process as it was. -/
theorem runShell_environment (e : Engine) (arguments : List Text) (p : Process) :
    ((runShell e arguments).run p).2.environment = p.environment := rfl

end Shell

end Virtual

end Oneshot
