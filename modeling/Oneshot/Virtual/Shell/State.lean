import Oneshot.Virtual.Process
import Oneshot.Virtual.Shell.Field
import Oneshot.Virtual.Shell.Syntax

/-!
# A process that runs a script

Beyond what every process has, a shell keeps its variables, functions and aliases, its options, the
signals that it traps, and where in the script it is.

- `get?_put`: a variable that is set has its value.
-/

namespace Oneshot

namespace Virtual

namespace Shell

/-- A variable of a shell. One without a value is only marked for what it will be. -/
structure ShellVariable where
  name : Text
  value? : Option Text
  isExported : Bool
  isReadOnly : Bool
deriving DecidableEq, Repr

/-- A function of a script, and the line where it begins. -/
structure ShellFunction where
  name : Text
  body : Command

/-- The state of a shell. -/
structure Interpreter extends Process where
  /-- The name under which the script runs. -/
  name : Text
  arguments : List Text
  vars : List ShellVariable
  functions : List ShellFunction
  aliases : List (Text × Text)
  /-- The documents of what has been read of the script, and the number of the next one. -/
  documents : List (Nat × Word)
  nextDocument : Nat
  /-- The letters of the options that are on. -/
  options : List Char
  status : Nat
  /-- The status of the command of which a word has taken the output last. -/
  outputStatus : Nat
  /-- The line of the command that is run. -/
  line : Nat
  /-- The command of the shell that is run, which messages name. -/
  command : Option Text
  /-- For each function that is running, its own variables with what they were before. -/
  locals : List (List (Text × Option ShellVariable))
  /-- What is done when a signal arrives; the number zero stands for the end of the shell. -/
  traps : List (Nat × Text)
  /-- Whether this is a copy of the shell, to which no signals are sent. -/
  isCopy : Bool
  loops : Nat
  functionDepth : Nat
  /-- The path of the working directory as the script has named it. -/
  directory : Text
  /-- The number of the argument at which the reading of options goes on, and how much of the one in
  front of it has been taken, if it is not done. -/
  optionIndex : Nat
  optionOffset : Option Nat
  /-- The process that was started last without being waited for. -/
  lastBackground : Nat
  /-- The number under which the shell runs. -/
  processNumber : Nat
  /-- The processes that nobody has waited for yet, each with its status. -/
  jobs : List (Nat × Nat)
  umask : Nat
  /-- While the shell does what a trap says: the status before it. -/
  trapStatus : Option Nat

/-- What breaks off the course of a script. -/
inductive Flow where
  /-- The shell ends with its status. -/
  | ended
  /-- The shell cannot go on, and ends with its status unless somebody takes notice. -/
  | failed
  | killed (signal : Nat)
  /-- Another program has run in place of the shell. -/
  | replaced (ended : Ended)
  | leaveLoops (count : Nat)
  | nextRound (count : Nat)
  | returned
deriving DecidableEq, Repr

/-- A step of a shell after which the script goes on. -/
abbrev Calm (α : Type) := StateM Interpreter α

/-- A step of a shell that may break off the course of the script. -/
abbrev Step (α : Type) := ExceptT Flow (StateM Interpreter) α

/-- How the parts of a word are expanded. -/
structure Mode where
  /-- Whether positional parameters come as fields of their own. -/
  inFields : Bool
  /-- Whether unquoted text is cut as if it were the value of a parameter. -/
  isCut : Bool
deriving DecidableEq, Repr

/-- The parts of a script that call each other: commands, words, and programs of the system that run
as processes of their own. -/
structure Engine where
  exec : (tested : Bool) → Command → Step Unit
  expand : Mode → Word → Step (List Stretch)
  run : (program : Text) → List Text → Run Ended

/-! ### Variables -/

/-- What some variables say of a name. -/
def variableOf? (name : Text) (vars : List ShellVariable) : Option ShellVariable :=
  vars.find? (·.name == name)

/-- Variables with one in place of that of its name, or at the end. -/
def putVariable (v : ShellVariable) : List ShellVariable → List ShellVariable
  | [] => [v]
  | w :: rest => if w.name = v.name then v :: rest else w :: putVariable v rest

/-- Where a variable stands in an environment: by its name, in one of thirty-nine rows. -/
def rowOf (name : Text) : Nat :=
  (name.foldl (fun sum c => sum + c.toNat) ((name.headD '\x00').toNat * 16)) % 39

namespace Interpreter

/-- The value of a variable. -/
def get? (s : Interpreter) (name : Text) : Option Text :=
  (variableOf? name s.vars).bind (·.value?)

/-- The shell with a variable. -/
def put (s : Interpreter) (v : ShellVariable) : Interpreter :=
  { s with vars := putVariable v s.vars }

/-- Whether an option is on. -/
def has (s : Interpreter) (option : Char) : Bool :=
  s.options.contains option

/-- The environment of a child. -/
def childEnvironment (s : Interpreter) : List (Text × Text) :=
  let exported := s.vars.filterMap fun v =>
    if v.isExported then v.value?.map (v.name, ·) else none
  exported.mergeSort fun a b => rowOf a.1 ≤ rowOf b.1

/-- The characters at which a value is cut into fields. -/
def separators (s : Interpreter) : Text :=
  (s.get? "IFS").getD " \t\n"

/-- A variable that is set has its value. -/
theorem get?_put (s : Interpreter) (v : ShellVariable) : (s.put v).get? v.name = v.value? := by
  simp only [get?, put, variableOf?]
  induction s.vars with
  | nil => simp [putVariable]
  | cons w rest ih =>
    by_cases h : w.name = v.name
    · simp [putVariable, h]
    · have hb : (w.name == v.name) = false := by simpa using h
      simp [putVariable, h, hb, ih]

end Interpreter

/-! ### Messages and ends -/

/-- A step of the process below the shell. -/
def inProcess {α : Type} (step : Run α) : Calm α := do
  let s ← get
  let (a, p) := step.run s.toProcess
  set { s with toProcess := p }
  return a

/-- Prints on a descriptor, as far as that is possible. -/
def put (descriptor : Nat) (text : Text) : Calm Unit :=
  inProcess (say descriptor text)

/-- Prints a message of the shell about the line that is run. -/
def complain (message : Text) : Calm Unit := do
  let s ← get
  let about := s.command.elim [] fun name => name ++ ": ".toList
  put 2 (s.name ++ ": ".toList ++ Text.ofNat s.line ++ ": ".toList ++ about ++ message ++ ['\n'])

/-- Sets the status. -/
def finish (status : Nat) : Calm Unit :=
  modify ({ · with status })

/-- Breaks off with a message. -/
def abort {α : Type} (message : Text) : Step α := do
  complain message
  finish 2
  throw .failed

/-- Lets the reading of options go on at the argument of a number. -/
def startOptionsAt (value : Text) : Step Unit :=
  match natOf? value with
  | some n => modify ({ · with optionIndex := max n 1, optionOffset := none })
  | none => abort ("Illegal number: ".toList ++ value)

/-- Sets a variable. One that is exported stays so. -/
def assign (name value : Text) (exported : Bool) : Step Unit := do
  if !isName name then abort (name ++ ": bad variable name".toList)
  let s ← get
  let old? := variableOf? name s.vars
  if old?.any (·.isReadOnly) then abort (name ++ ": is read only".toList)
  let isExported := exported || s.has 'a' || old?.any (·.isExported)
  set (s.put ⟨name, some value, isExported, false⟩)
  if name = "OPTIND".toList then startOptionsAt value

/-- Removes a variable. -/
def unset (name : Text) : Step Unit := do
  if !isName name then abort (name ++ ": bad variable name".toList)
  if name = "OPTIND".toList then startOptionsAt []
  let s ← get
  if (variableOf? name s.vars).any (·.isReadOnly) then abort (name ++ ": is read only".toList)
  set { s with vars := s.vars.filter (·.name != name) }

/-- Keeps a variable as it is, to be put back when the running function ends. -/
def keepLocal (name : Text) : Calm Unit :=
  modify fun s =>
    match s.locals with
    | [] => s
    | frame :: rest => { s with locals := ((name, variableOf? name s.vars) :: frame) :: rest }

/-- Opens a range of variables that are put back behind it. -/
def openLocals : Calm Unit :=
  modify fun s => { s with locals := [] :: s.locals }

/-- Puts back the variables of the innermost range. -/
def closeLocals : Calm Unit :=
  modify fun s =>
    match s.locals with
    | [] => s
    | frame :: rest => { s with
        locals := rest
        vars := frame.foldl (fun vars (name, former?) =>
          match former? with
          | some former => putVariable former vars
          | none => vars.filter (·.name != name)) s.vars }

/-- Runs a step and tells how it ended. -/
def outcomeOf {α : Type} (body : Step α) : Step (Except Flow α) :=
  ExceptT.mk do
    let outcome ← ExceptT.run body
    return .ok outcome

/-- Goes on as a step ended. -/
def resume {α : Type} (outcome : Except Flow α) : Step α :=
  ExceptT.mk (return outcome)

/-- Runs a step, and another one behind it however the first one ended. -/
def ensuring {α : Type} (body : Step α) (after : Calm Unit) : Step α := do
  let outcome ← outcomeOf body
  after
  resume outcome

end Shell

end Virtual

end Oneshot
