import Oneshot.Virtual.Shell.Search
import Oneshot.Virtual.Tool.Basic
import Oneshot.Virtual.Tool.Awk.Machine

/-!
# Where programs about records read and print

Records come from the inputs that the arguments name, from other files and from what commands print.
Text that goes into a command is kept until the command is to read it.

- `setPlace_variable`: to set a place that is a variable is to set the variable.
-/

namespace Oneshot

namespace Virtual

namespace Tool

namespace Awk

/-- The parts of a program that call each other. -/
structure Interpreter where
  eval : Expr → Step Value
  exec : Statement → Step Unit
  functions : List Function
  run : (program : Text) → List Text → Run Ended

/-! ### Commands and files -/

/-- Runs a command with a process that has been changed for it. -/
def runCommand (i : Interpreter) (command : Text) (change : Process → Process) : Step Nat :=
  inProcess do
    let p ← get
    let (ended, q) := (Shell.runStarted i.run ⟨"sh", "sh", ["-c", command]⟩).run (change p)
    set { p with system := q.system }
    match ended with
    | .exited status => return status
    | .killed signal => return 256 + signal

/-- What a command prints. What has been printed before is written first. -/
def outputOf (i : Interpreter) (command : Text) : Step Text := do
  flush
  let m ← get
  let (reader, writer, system) := m.process.system.addStream []
  set { m with process.system := system }
  let _ ← runCommand i command (·.redirect 1 writer)
  match (← get).process.system.unread reader with
  | .ok text => return text
  | .error _ => return []

/-- Lets a command read what has been printed for it. -/
def feed (i : Interpreter) (command text : Text) : Step Nat := do
  let m ← get
  let (reader, _, system) := m.process.system.addStream text
  set { m with process.system := system }
  runCommand i command (·.redirect 0 reader)

/-- Prints a text into a file, which is opened when something is printed into it first. -/
def printIntoFile (path : Text) (appends : Bool) (text : Text) : Step Unit := do
  if path = "/dev/stdout".toList ∨ path = ['-'] then printOut text
  else if path = "/dev/stderr".toList then inProcess (say 2 text)
  else
    let m ← get
    let index ← match List.lookup path m.outlets with
      | some (.file index) => pure index
      | _ =>
        match m.process.openPath path (if appends then .append else .replace) with
        | .ok (index, p) =>
          set { m with
            process := { m.process with system := p.system }
            outlets := (path, .file index) :: m.outlets }
          pure index
        | .error cause =>
          throw (.failed ("cannot open \"".toList ++ path ++ "\" for output (".toList
            ++ cause.wording ++ [')']))
    let m ← get
    match m.process.system.write index text with
    | .ok system => set { m with process.system := system }
    | .error _ => return

/-- Prints a text for a command. What has been printed before its first text is written first. -/
def printForCommand (command text : Text) : Step Unit := do
  let pieces ← match List.lookup command (← get).outlets with
    | some (.command pieces) => pure pieces
    | _ => do
      flush
      pure []
  modify fun m => { m with
    outlets := m.outlets.filter (·.1 != command) ++ [(command, .command (text :: pieces))] }

/-- Closes a file or a command, and tells how that went. -/
def close (i : Interpreter) (name : Text) : Step Int := do
  let m ← get
  let isInput := (List.lookup name m.inputs).isSome
  let outlet? := List.lookup name m.outlets
  set { m with
    inputs := m.inputs.filter (·.1 != name), outlets := m.outlets.filter (·.1 != name) }
  match outlet? with
  | some (.command pieces) => return (← feed i name pieces.reverse.flatten)
  | some (.file _) => return 0
  | none => return if isInput then 0 else -1

/-- Prints a text where a statement says. -/
def printTo (i : Interpreter) (destination? : Option Destination) (text : Text) : Step Unit := do
  match destination? with
  | none => printOut text
  | some (.file path) => printIntoFile (← textOf (← i.eval path)) false text
  | some (.append path) => printIntoFile (← textOf (← i.eval path)) true text
  | some (.command command) => printForCommand (← textOf (← i.eval command)) text

/-! ### Records -/

/-- Takes the next argument that names an input, and opens it. Arguments that set variables do so.
-/
def openNext : (fuel : Nat) → Step Bool
  | 0 => return false
  | fuel + 1 => do
    let m ← get
    let count := wholePart (m.plain "ARGC").toNumber
    if count ≤ m.argument then
      if m.hasInput then return false
      else
        let text ← inProcess (readAll 0)
        modify ({ · with rest? := some (text.toOption.getD []), hasInput := true })
        setPlain "FILENAME" (.text ['-'])
        return true
    else
      set { m with argument := m.argument + 1 }
      let operands ← entriesOf (← arrayOf "ARGV")
      let operand ← textOf ((List.lookup (Text.ofNat m.argument) operands).getD .unset)
      let name := operand.takeWhile Shell.isNameChar
      let isSetting :=
        (operand.head?).any Shell.isNameStart && (operand.drop name.length).head? == some '='
      if operand.isEmpty then openNext fuel
      else if isSetting then
        let value := operand.drop (name.length + 1)
        setValue name (.input (unescape (value.length + 1) value))
        openNext fuel
      else
        match ← inProcess (readOperand operand) with
        | .ok text =>
          modify ({ · with rest? := some text, hasInput := true })
          setPlain "FILENAME" (.input operand)
          setPlain "FNR" (.number 0)
          return true
        | .error .isDirectory => throw (.failed "read error (Is a directory)")
        | .error cause =>
          throw (.failed ("cannot open \"".toList ++ operand ++ "\" (".toList ++ cause.wording
            ++ [')']))

/-- The next record of the inputs, if there is one. -/
def nextRecord? : (fuel : Nat) → Step (Option Text)
  | 0 => return none
  | fuel + 1 => do
    let m ← get
    match m.rest? with
    | none => if ← openNext 100000 then nextRecord? fuel else return none
    | some rest =>
      match firstRecord? (m.plainText "RS") rest with
      | some (record, rest) =>
        set { m with rest? := some rest }
        countUp "NR"
        countUp "FNR"
        return some record
      | none =>
        set { m with rest? := none }
        nextRecord? fuel

/-- How many inputs a program has at most. -/
def inputLimit : Nat := 100000

/-- Sets a place. -/
def setPlace (i : Interpreter) (place : Expr) (v : Value) : Step Unit := do
  match place with
  | .variable name => setValue name v
  | .field number => setField (← fieldNumber (← i.eval number)) v
  | .element array subscript =>
    let texts ← subscript.mapM fun e => do textOf (← i.eval e)
    let number ← arrayOf array
    let key := Text.join ((← get).plainText "SUBSEP") texts
    setEntries number (putEntry key v (← entriesOf number))
  | _ => return

/-- Takes a record into a place, or as the current one. -/
def takeInto (i : Interpreter) (place? : Option Expr) (record : Text) : Step Unit :=
  match place? with
  | some place => setPlace i place (.input record)
  | none => setRecord (.input record)

/-- Takes the next record of a file or of the output of a command. `content` reads it when it is
used first. -/
def takeFrom (i : Interpreter) (place? : Option Expr) (name : Text)
    (content : Step (Option Text)) (counts : Bool) : Step Value := do
  let rest? ← match List.lookup name (← get).inputs with
    | some rest => pure (some rest)
    | none => content
  match rest? with
  | none => return .number (-1)
  | some rest =>
    let m ← get
    let keep (rest : Text) : Step Unit :=
      modify fun m => { m with inputs := (name, rest) :: m.inputs.filter (·.1 != name) }
    match firstRecord? (m.plainText "RS") rest with
    | none =>
      keep []
      return .number 0
    | some (record, rest) =>
      keep rest
      if counts then countUp "NR"
      takeInto i place? record
      return .number 1

/-- To set a place that is a variable is to set the variable. -/
theorem setPlace_variable (i : Interpreter) (name : Text) (v : Value) :
    setPlace i (.variable name) v = setValue name v := rfl

end Awk

end Tool

end Virtual

end Oneshot
