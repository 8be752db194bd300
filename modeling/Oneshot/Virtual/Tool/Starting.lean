import Oneshot.Virtual.Format
import Oneshot.Virtual.Shell.Search
import Oneshot.Virtual.Tool.Basic

/-!
# Tools that start others

Some tools start a command in their place, in another environment or under other conditions, and
tell how it has ended. The command is looked for along the search path.

- `environmentWith_get`: a variable that is set has its value.
-/

namespace Oneshot

namespace Virtual

namespace Tool

/-- What runs a tool with arguments. -/
abbrev Start := (tool : Text) → List Text → Run Ended

/-- A tool that starts others. -/
abbrev Starter := List Text → Run Ended

/-- Runs a body as a process of its own: all that is left of it is what it has done to the system.
-/
def apart {α : Type} (change : Process → Process) (body : Run α) : Run α := do
  let p ← get
  let (a, q) := body.run (change p)
  set { p with system := q.system }
  return a

/-- The search path of a process. -/
def searchPathOf (p : Process) : Text :=
  (p.valueOf? "PATH").getD "/bin:/usr/bin"

/-- Starts a command in a process that has been changed for it, unless it cannot be started. -/
def startCommand (start : Start) (change : Process → Process) (name : Text)
    (arguments : List Text) : Run (Except Errno Ended) := do
  let p := change (← get)
  match Shell.startedFor p (searchPathOf p) name arguments with
  | .error cause => return .error cause
  | .ok started => return .ok (← apart change (Shell.runStarted start started))

/-- Refuses a command that cannot be started. -/
def refuseCommand (tool : String) (message : Text) (cause : Errno) : Run Ended := do
  complain tool (message ++ ": ".toList ++ cause.wording)
  return .exited (if cause = .noEntry then 127 else 126)

/-- A tool that ends with a status. -/
def exiting (tool : Tool) : Starter := fun arguments => do
  return .exited (← tool arguments)

/-- A tool that starts the command behind its options, and is gone then. `least` operands stand in
front of the command; without a command, `otherwise` is done. `refusal` says that the command of a
name cannot be started. -/
def startingBehind (u : Usage) (start : Start) (least : Nat) (refusal : Text → Run Text)
    (otherwise : Run Nat) : Starter := fun arguments => do
  match u.read arguments with
  | .error message => return .exited (← refuseUsage u.tool message 125)
  | .ok given =>
    match given.operands.drop least with
    | [] => return .exited (← otherwise)
    | name :: arguments =>
      match ← startCommand start id name arguments with
      | .error cause => refuseCommand u.tool (← refusal name) cause
      | .ok ended => return ended

/-! ### Environments -/

/-- An environment in which a variable has a value. -/
def environmentWith (name value : Text) : List (Text × Text) → List (Text × Text)
  | [] => [(name, value)]
  | (n, v) :: rest =>
    if n = name then (n, value) :: rest else (n, v) :: environmentWith name value rest

/-- A variable that is set has its value. -/
theorem environmentWith_get (name value : Text) (environment : List (Text × Text)) :
    List.lookup name (environmentWith name value environment) = some value := by
  induction environment with
  | nil => simp [environmentWith]
  | cons v rest ih =>
    obtain ⟨n, old⟩ := v
    by_cases h : n = name
    · simp [environmentWith, h]
    · have : (name == n) = false := by simp [Ne.symm h]
      simp [environmentWith, h, List.lookup_cons, this, ih]

/-- Words between blanks. -/
def wordsOf (s : Text) : List Text :=
  (Text.splitAt ' ' (s.map fun c => if isSpace c then ' ' else c)).filter (!·.isEmpty)

/-- The variables that operands set, and what is left of the operands. -/
def settingsIn : List Text → List (Text × Text) × List Text
  | [] => ([], [])
  | operand :: rest =>
    let name := operand.takeWhile (· != '=')
    match operand.drop name.length with
    | _ :: value =>
      let (settings, rest) := settingsIn rest
      ((name, value) :: settings, rest)
    | [] => ([], operand :: rest)

/-- The lines of an environment. -/
def environmentText (final : Char) (environment : List (Text × Text)) : Text :=
  environment.flatMap fun (name, value) => name ++ '=' :: value ++ [final]

/-- Starts a command in another environment, or prints the environment. -/
def env (start : Start) : Starter := fun arguments => do
  let u : Usage := ⟨"env", "i0u:C:S:v", [("ignore-environment", 'i'), ("null", '0'), ("unset", 'u'),
    ("chdir", 'C'), ("split-string", 'S'), ("debug", 'v')], true⟩
  match u.read arguments with
  | .error message => return .exited (← refuseUsage "env" message 125)
  | .ok given =>
    let operands := (given.value? 'S').elim [] wordsOf ++ given.operands
    let startsEmpty := given.has 'i' || operands.head? == some ['-']
    let operands := if operands.head? == some ['-'] then operands.drop 1 else operands
    let (settings, command) := settingsIn operands
    let p ← get
    let unset := given.values 'u'
    let kept := if startsEmpty then [] else p.environment.filter fun v => !unset.contains v.1
    let environment := settings.foldl (fun all (name, value) => environmentWith name value all) kept
    match command with
    | [] =>
      let final := if given.has '0' then '\x00' else '\n'
      return .exited (← printing "env" (environmentText final environment) 0)
    | name :: arguments =>
      match ← startCommand start ({ · with environment }) name arguments with
      | .ok ended => return ended
      | .error cause =>
        let ended ← refuseCommand "env" (← inMarks name) cause
        if cause = .noEntry && name.any isSpace then
          complain "env" "use -[v]S to pass options in shebang lines"
        return ended

/-- Prints the environment, or the values of variables. -/
def printenv : Tool :=
  withGiven ⟨"printenv", "0", [("null", '0')], true⟩ 2 fun given => do
    let final := if given.has '0' then '\x00' else '\n'
    let p ← get
    if given.operands.isEmpty then printing "printenv" (environmentText final p.environment) 0
    else
      let values := given.operands.filterMap p.valueOf?
      printing "printenv" (values.flatMap (· ++ [final]))
        (statusFor (values.length == given.operands.length))

/-! ### Conditions -/

/-- Says that a command has failed to run. -/
def failedToRun (name : Text) : Run Text := do
  return "failed to run command ".toList ++ (← inMarks name)

/-- Starts a command that goes on when the terminal is gone. -/
def nohup (start : Start) : Starter :=
  startingBehind ⟨"nohup", "", [], true⟩ start 0
    (fun name => return "failed to run command ".toList ++ quoted name)
    (refuseUsage "nohup" "missing operand" 125)

/-- Starts a command with another priority, or prints the priority. -/
def nice (start : Start) : Starter :=
  startingBehind ⟨"nice", "n:", [("adjustment", 'n')], true⟩ start 0 inMarks
    (printing "nice" "0\n" 0)

/-- Starts a command whose output is buffered in another way. -/
def stdbuf (start : Start) : Starter :=
  startingBehind ⟨"stdbuf", "i:o:e:", [("input", 'i'), ("output", 'o'), ("error", 'e')], true⟩
    start 0 failedToRun (refuseUsage "stdbuf" "missing operand" 125)

/-- Starts a command in a session of its own. -/
def setsid (start : Start) : Starter :=
  startingBehind ⟨"setsid", "cfw", [("ctty", 'c'), ("fork", 'f'), ("wait", 'w')], true⟩ start 0
    (fun name => return "failed to execute ".toList ++ name)
    (refuseUsage "setsid" "no command specified" 1)

/-- Whether a text says how long something may take. -/
def isInterval (s : Text) : Bool :=
  let number := if (s.getLast?).any ("smhd".toList.contains ·) then s.dropLast else s
  match readFloat number with
  | some (x, rest) => rest.isEmpty && 0 ≤ x
  | none => false

/-- Starts a command that may take only so long. Here commands take no time. -/
def timeout (start : Start) : Starter := fun arguments => do
  let u : Usage := ⟨"timeout", "k:s:vpf", [("kill-after", 'k'), ("signal", 's'), ("verbose", 'v'),
    ("preserve-status", 'p'), ("foreground", 'f')], true⟩
  let lacksCommand : Run Nat := do
    pointToHelp "timeout"
    return 125
  match (u.read arguments).toOption.map (·.operands) with
  | some (interval :: _ :: _) =>
    if isInterval interval then startingBehind u start 1 failedToRun lacksCommand arguments
    else
      let message := "invalid time interval ".toList ++ (← inMarks interval)
      return .exited (← refuseUsage "timeout" message 125)
  | _ => startingBehind u start 1 failedToRun lacksCommand arguments

/-! ### Looking for programs -/

/-- Prints where programs stand. -/
def which : Tool :=
  withGiven ⟨"which", "as", [], true⟩ 2 fun given => do
    let p ← get
    let isProgram (path : Text) : Bool := match p.lookUp path with
      | .ok (_, .tool _) | .ok (_, .file _ true) => true
      | _ => false
    let placesOf (name : Text) : List Text :=
      let places := if name.contains '/' then [name]
        else (Text.splitAt ':' (searchPathOf p)).map fun directory =>
          (if directory.isEmpty then ['.'] else directory) ++ '/' :: name
      let found := places.filter isProgram
      if given.has 'a' then found else found.take 1
    let all := given.operands.map placesOf
    let text := if given.has 's' then [] else all.flatten.flatMap (· ++ ['\n'])
    printing "which" text (statusFor (!all.isEmpty && all.all (!·.isEmpty)))

end Tool

end Virtual

end Oneshot
