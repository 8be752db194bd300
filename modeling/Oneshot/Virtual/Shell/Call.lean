import Oneshot.Virtual.Shell.Builtin.Directory
import Oneshot.Virtual.Shell.Builtin.Print
import Oneshot.Virtual.Shell.Builtin.Signal
import Oneshot.Virtual.Shell.Builtin.Variable
import Oneshot.Virtual.Shell.Redirect

/-!
# Carrying out a command

The name of a command stands for a function, a command of the shell or a program. Functions run with
arguments of their own, programs as processes of their own. Some commands of the shell are special:
where they fail, the script ends.

- `builtinKind?_exit`: the command that ends the shell is special.
-/

namespace Oneshot

namespace Virtual

namespace Shell

/-! ### The course of a script -/

/-- Ends the shell. -/
def exitShell : Builtin := fun arguments => do
  let s ← get
  finish (← countOr (s.trapStatus.getD s.status) arguments)
  throw .ended

/-- Leaves the running function. -/
def returnFrom : Builtin := fun arguments => do
  finish (← countOr (← get).status arguments)
  throw .returned

/-- Leaves a round or all rounds of some loops. -/
def leaveLoops (flow : Nat → Flow) : Builtin := fun arguments => do
  let count ← countOr 1 arguments
  if count = 0 then abort "Illegal number: 0"
  let loops := (← get).loops
  finish 0
  if 0 < loops then throw (flow (min count loops))

/-- The commands of the shell that run no other commands. -/
def plainBuiltins : List (String × Builtin) :=
  let first : List (String × Builtin) :=
    [(":", fun _ => finish 0), ("true", fun _ => finish 0), ("false", fun _ => finish 1),
      ("echo", printText), ("printf", printFormat), ("test", decideCondition),
      ("[", decideBetweenBrackets), ("exit", exitShell), ("return", returnFrom),
      ("break", leaveLoops .leaveLoops), ("continue", leaveLoops .nextRound),
      ("alias", setAliases), ("unalias", removeAliases), ("hash", hash), ("cd", changeDirectory),
      ("chdir", changeDirectory)]
  let second : List (String × Builtin) :=
    [("pwd", printDirectory), ("umask", setMask), ("export", exportVariables),
      ("readonly", protectVariables), ("local", declareLocal), ("unset", remove),
      ("set", setShell), ("shift", shift), ("getopts", getOption), ("read", readFields),
      ("kill", kill), ("trap", trap), ("wait", wait), ("times", times), ("ulimit", limits),
      ("jobs", listJobs), ("fg", continueJobs), ("bg", continueJobs)]
  first ++ second

/-- The commands of the shell that run other commands, or look for them. -/
def runningBuiltins : List String :=
  [".", "command", "eval", "exec", "type"]

/-- The special commands of the shell. -/
def specialBuiltins : List String :=
  [".", ":", "break", "continue", "eval", "exec", "exit", "export", "local", "readonly", "return",
    "set", "shift", "times", "trap", "unset"]

/-- The commands of which an argument that looks like an assignment is expanded like one. -/
def assigningBuiltins : List String :=
  ["alias", "export", "local", "readonly"]

/-- Whether a name is that of a special command of the shell, if it is that of one at all. -/
def builtinKind? (name : Text) : Option Bool :=
  let name := String.ofList name
  if (List.lookup name plainBuiltins).isSome || runningBuiltins.contains name then
    some (specialBuiltins.contains name)
  else none

/-! ### Programs -/

/-- Runs a program as a process of its own. -/
def asChild (run : Run Ended) : Calm Ended := do
  let s ← get
  let (ended, p) := run.run { s.toProcess with environment := s.childEnvironment }
  set { s with system := p.system }
  return ended

/-- Takes notice of how a child has ended. -/
def noteEnd (ended : Ended) : Calm Unit := do
  match ended with
  | .exited _ => pure ()
  | .killed signal =>
    let wording := signalWording signal
    if !wording.isEmpty then put 2 (wording ++ ['\n'])
  finish (statusOf ended)

/-- Complains of a program that cannot be started. -/
def refuseProgram (name : Text) (cause : Errno) (status : Nat) : Calm Unit := do
  complain (name ++ ": ".toList ++ startFault cause)
  finish status

/-- Runs the program of a name. -/
def runProgram (e : Engine) (searchPath name : Text) (arguments : List Text) : Step Unit := do
  let s ← get
  let isFound := if name.contains '/' then .ok name else s.find searchPath name
  match isFound with
  | .error cause => refuseProgram name cause 127
  | .ok _ =>
    match startedFor s.toProcess searchPath name arguments with
    | .error cause => refuseProgram name cause (startStatus cause)
    | .ok started => noteEnd (← asChild (runStarted e.run started))

/-- Runs a program in place of the shell. -/
def replaceShell (e : Engine) (arguments : List Text) : Step Unit := do
  let s ← get
  match arguments with
  | [] => finish 0
  | name :: arguments =>
    match startedFor s.toProcess s.searchPath name arguments with
    | .error cause =>
      refuseProgram name cause (startStatus cause)
      throw .ended
    | .ok started => throw (.replaced (← asChild (runStarted e.run started)))

/-! ### Scripts -/

/-- Runs a step, which a command to return leaves. -/
def untilReturn (body : Step Unit) : Step Unit :=
  tryCatch body fun
    | .returned => return
    | flow => throw flow

/-- Runs a function. -/
def callFunction (e : Engine) (tested : Bool) (body : Command) (arguments : List Text) :
    Step Unit := do
  let s ← get
  set { s with
    arguments, optionIndex := 1, optionOffset := none, loops := 0
    functionDepth := s.functionDepth + 1 }
  ensuring (untilReturn (e.exec tested body)) do
    modify ({ · with
      arguments := s.arguments, optionIndex := s.optionIndex, optionOffset := s.optionOffset
      loops := s.loops, functionDepth := s.functionDepth })

/-- Runs a body under a name, which messages repeat. -/
def underName (name : Text) (body : Step Unit) : Step Unit := do
  let s ← get
  set { s with command := some name }
  ensuring body (modify ({ · with command := s.command }))

/-- The path of a script that is read into the shell. -/
def scriptPath (name : Text) : Step Text := do
  let s ← get
  let isFile (path : Text) : Bool := match s.lookUp path with
    | .ok (_, .file ..) | .ok (_, .tool _) => true
    | _ => false
  if name.contains '/' then return name
  else
    match (placesAlong s.searchPath name).find? isFile with
    | some path => return path
    | none => abort (name ++ ": not found".toList)

/-- Runs the commands of a file in the shell itself. -/
def readScript (e : Engine) (arguments : List Text) : Step Unit := do
  let (_, operands) ← readOptions [] [] arguments
  match operands with
  | [] => finish 0
  | name :: _ =>
    let path ← scriptPath name
    let s ← get
    let content := match s.openPath path .read with
      | .ok (file, p) => p.system.unread file
      | .error cause => .error cause
    match content with
    | .ok text => untilReturn (underName path (runFile e false text))
    | .error .isDirectory => finish 0
    | .error cause => abort (openFault false path cause)

/-- Runs a command of the shell that runs others or looks for them. -/
def runRunning (e : Engine) (tested : Bool) (name : Text) (arguments : List Text) :
    Step Unit := do
  let s ← get
  match String.ofList name with
  | "." => readScript e arguments
  | "eval" => runText e tested (Text.join [' '] arguments)
  | "exec" => replaceShell e arguments
  | "type" =>
    let (_, names) ← readOptions [] [] arguments
    describe builtinKind? true s.searchPath names
  | _ =>
    let (options, operands) ← readOptions "pvV" [] arguments
    let asks (letter : Char) : Bool := options.any (·.1 == letter)
    if (asks 'v' || asks 'V') && !operands.isEmpty then
      let searchPath := if asks 'p' then systemSearchPath else s.searchPath
      describe builtinKind? (asks 'V') searchPath (operands.take 1)
    else finish 0

/-- Runs a command of the shell. One that is not special only fails. -/
def runBuiltin (e : Engine) (tested isSpecial : Bool) (name : Text) (arguments : List Text) :
    Step Unit := do
  let body : Step Unit := match List.lookup (String.ofList name) plainBuiltins with
    | some builtin => builtin arguments
    | none => runRunning e tested name arguments
  tryCatch (underName name body) fun
    | .failed => if isSpecial then throw .failed else return
    | flow => throw flow

/-- The command that ends the shell is special. -/
theorem builtinKind?_exit : builtinKind? "exit".toList = some true := by
  decide +kernel

end Shell

end Virtual

end Oneshot
