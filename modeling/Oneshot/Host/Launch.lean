import Oneshot.Host.Files

/-!
# Launching commands

A command whose first argument is an absolute path is launched as it is. Any other program is looked
up first: as it stands if its name has a directory part, else along the search path of the runner.
What a child writes into collected streams has to be UTF-8, and its line ends are read as LF.
-/

namespace Oneshot

namespace Command

/-- The search path where the environment has none. -/
def defaultSearchPath : Text :=
  "/bin:/usr/bin"

/-- The place of a program in a directory of the search path. -/
def placeIn (directory program : Text) : Text :=
  match directory.getLast? with
  | none => program
  | some '/' => directory ++ program
  | some _ => directory ++ ['/'] ++ program

/-- The first of some places at which an executable stands. -/
def firstExecutable : List Text → Routine (Option Text)
  | [] => return none
  | place :: rest => do
    if ← Routine.request (.isExecutable place) then return some place
    else firstExecutable rest

/-- The place of a program that is not named by an absolute path. -/
def lookUp (program : Text) : Routine (Option Text) := do
  if program.contains '/' then firstExecutable [program]
  else
    let vars ← Routine.request .environment
    let searchPath := (vars.get? "PATH").getD defaultSearchPath
    if searchPath.isEmpty then return none
    else firstExecutable ((Text.firsts (Text.splitAt ':' searchPath)).map (placeIn · program))

/-- A command that has run to its end. The texts are empty unless its output was collected. -/
structure Completed where
  arguments : List Text
  status : Int
  output : Text
  errors : Text
deriving DecidableEq, Repr

/-- The text that a child has written into a collected stream. -/
def collectedText (bytes : Bytes) : Action Text :=
  match Utf8.decode bytes with
  | .ok text => pure (Text.unifyNewlines text)
  | .error fault => Action.escape (.undecodable fault)

/-- Launches arguments of which the first is the place of the program. -/
def launch (arguments : List Text) (vars : Option Variables) (captured : Bool) :
    Action (Except LaunchFault Completed) := do
  match ← Action.ask (.launch ⟨arguments, vars, captured⟩) with
  | .error (.os e) => return .error (.os e)
  | .error .nulByte => Action.escape .nulByte
  | .error .illegalVariable => Action.escape .illegalVariable
  | .ok finished =>
    if captured then
      let output ← collectedText finished.output
      let errors ← collectedText finished.errors
      return .ok ⟨arguments, finished.status, output, errors⟩
    else return .ok ⟨arguments, finished.status, [], []⟩

/-- Runs a command to its end, in the given environment or in that of the runner. -/
def run (arguments : List Text) (vars : Option Variables) (captured : Bool) :
    Action (Except LaunchFault Completed) := do
  match arguments with
  | [] => Action.escape .emptyCommand
  | program :: rest =>
    let path := Path.ofText program
    if path.isAbsolute then launch (path.text :: rest) vars captured
    else
      match ← ExceptT.lift (lookUp program) with
      | some place => launch (place :: rest) vars captured
      | none => return .error (.notOnPath program)

end Command

end Oneshot
