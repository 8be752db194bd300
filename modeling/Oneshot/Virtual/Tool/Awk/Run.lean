import Oneshot.Virtual.Tool.Awk.Execution
import Oneshot.Virtual.Tool.Awk.Grammar

/-!
# Programs about records as a tool

The tool reads a program and lets it work on its inputs, record by record. The rules for the
beginning come before the first record and those for the end behind the last one; a fault ends
everything.

- `applyRules_nil`: without rules nothing happens to a record.
-/

namespace Oneshot

namespace Virtual

namespace Tool

namespace Awk

/-! ### Rules -/

/-- Carries out the action of a rule on the current record. -/
def act (i : Interpreter) (action? : Option Statement) : Step Unit :=
  match action? with
  | some action => i.exec action
  | none => i.exec (.print [] none)

/-- Applies a rule to the current record. The number of the rule says which range is meant. -/
def applyRule (i : Interpreter) (number : Nat) (rule : Rule) : Step Unit := do
  match rule.pattern with
  | .begin | .final => return
  | .always => act i rule.action?
  | .when test => if ← holds i test then act i rule.action?
  | .range first last =>
    let isInside := (← get).ranges.contains number
    if ← (if isInside then return true else holds i first) then
      let ends ← holds i last
      modify fun m =>
        let others := m.ranges.filter (· != number)
        { m with ranges := if ends then others else number :: others }
      act i rule.action?

/-- Applies rules to the current record, one after the other. -/
def applyRules (i : Interpreter) : List (Rule × Nat) → Step Unit
  | [] => return
  | (rule, number) :: rest => do
    applyRule i number rule
    applyRules i rest

/-- Without rules nothing happens to a record. -/
theorem applyRules_nil (i : Interpreter) : applyRules i [] = pure () := rfl

/-- Applies rules to all records. -/
def eachRecord (i : Interpreter) (rules : List (Rule × Nat)) : (fuel : Nat) → Step Unit
  | 0 => return
  | fuel + 1 => do
    match ← nextRecord? inputLimit with
    | none => return
    | some record =>
      setRecord (.input record)
      ExceptT.mk do
        match ← (applyRules i rules).run with
        | .error .next => return .ok ()
        | .error .nextFile =>
          modify ({ · with rest? := none })
          return .ok ()
        | outcome => return outcome
      eachRecord i rules fuel

/-- The actions of the rules for the beginning or for the end. -/
def edgeActions (isEnd : Bool) (rules : List Rule) : List Statement :=
  rules.filterMap fun rule =>
    match rule.pattern with
    | .begin => if isEnd then none else rule.action?
    | .final => if isEnd then rule.action? else none
    | _ => none

/-- Whether a rule is meant for records. -/
def isForRecords (rule : Rule) : Bool :=
  match rule.pattern with
  | .begin | .final => false
  | _ => true

/-- Runs a part of a program up to its end, and tells whether it has been broken off, or with what
message it has failed. -/
def settle (part : Step Unit) : StateM Machine (Except Text Bool) := do
  match ← part.run with
  | .error .exit => return .ok true
  | .error (.failed message) => return .error message
  | _ => return .ok false

/-- Runs the rules of a program. -/
def runRules (i : Interpreter) (rules : List Rule) : StateM Machine (Except Text Unit) := do
  let actions := edgeActions true rules
  let forRecords := rules.zipIdx.filter fun r => isForRecords r.1
  match ← settle ((edgeActions false rules).forM i.exec) with
  | .error message => return .error message
  | .ok isOver =>
    let records ← if isOver || forRecords.isEmpty && actions.isEmpty then pure (.ok isOver)
      else settle (eachRecord i forRecords roundLimit)
    match records with
    | .error message => return .error message
    | .ok _ => return (← settle (actions.forM i.exec)).map fun _ => ()

/-- Lets all commands read what has been printed for them. -/
def feedAll (i : Interpreter) : List (Text × Outlet) → Step Unit
  | [] => return
  | (command, .command pieces) :: rest => do
    let _ ← feed i command pieces.reverse.flatten
    feedAll i rest
  | _ :: rest => feedAll i rest

/-! ### The tool -/

/-- What a call of the tool asks for. -/
structure Order where
  /-- The paths of the files that hold the program. -/
  paths : List Text
  /-- Variables that are set before the program begins. -/
  settings : List (Text × Text)
  operands : List Text

/-- The name and the value of a setting, if it is one. -/
def setting? (s : Text) : Option (Text × Text) :=
  let name := s.takeWhile Shell.isNameChar
  match s.drop name.length with
  | '=' :: value =>
    if (name.head?).any Shell.isNameStart then some (name, unescape (value.length + 1) value)
    else none
  | _ => none

/-- The order of an option with its value. -/
def Order.add (order : Order) (letter : Char) (value : Text) : Except Text Order :=
  match letter with
  | 'f' => .ok { order with paths := order.paths ++ [value] }
  | 'F' =>
    let separator := unescape (value.length + 1) value
    .ok { order with settings := order.settings ++ [("FS".toList, separator)] }
  | _ =>
    match setting? value with
    | some setting => .ok { order with settings := order.settings ++ [setting] }
    | none => .error ("improper assignment: -v ".toList ++ value)

/-- Reads the arguments of a call. -/
def readOrder (order : Order) : List Text → Except Text Order
  | ['-', '-'] :: rest => .ok { order with operands := rest }
  | ['-', letter] :: value :: rest =>
    if "fFv".toList.contains letter then do readOrder (← order.add letter value) rest
    else .error ("not an option: ".toList ++ ['-', letter])
  | ['-', letter] :: [] =>
    if "fFv".toList.contains letter then
      .error ("option -".toList ++ letter :: " lacks argument".toList)
    else .error ("not an option: ".toList ++ ['-', letter])
  | ('-' :: letter :: value) :: rest =>
    if "fFv".toList.contains letter then do readOrder (← order.add letter value) rest
    else .error ("not an option: ".toList ++ '-' :: letter :: value)
  | rest => .ok { order with operands := rest }

/-- The contents of the files of a program, one after the other. -/
def readParts : List Text → Run (Except Text Text)
  | [] => return .ok []
  | path :: rest => do
    match ← readOperand path with
    | .error cause =>
      return .error ("cannot open \"".toList ++ path ++ "\" (".toList ++ cause.wording ++ [')'])
    | .ok text => return (← readParts rest).map (text ++ ·)

/-- The variables with which a program begins. -/
def firstVariables (settings : List (Text × Text)) (operandCount : Nat) : List (Text × Binding) :=
  let texts : List (String × String) :=
    [("FS", " "), ("OFS", " "), ("ORS", "\n"), ("RS", "\n"), ("SUBSEP", "\x1c"),
      ("CONVFMT", "%.6g"), ("OFMT", "%.6g"), ("FILENAME", "")]
  let numbers : List (String × Float) :=
    [("NR", 0), ("FNR", 0), ("RSTART", 0), ("RLENGTH", -1), ("ARGC", Float.ofNat operandCount)]
  let all := texts.map (fun (n, s) => (n.toList, Binding.scalar (.text s.toList)))
    ++ numbers.map fun (n, x) => (n.toList, Binding.scalar (.number x))
  let arrays := [("ARGV".toList, Binding.array 0), ("ENVIRON".toList, .array 1)]
  settings.foldl (fun all (name, value) => bind name (.scalar (.input value)) all) (all ++ arrays)

/-- The machine with which a program begins. -/
def firstMachine (p : Process) (lines : Nat) (settings : List (Text × Text))
    (operands : List Text) : Machine :=
  let arguments := ("awk".toList :: operands).zipIdx.map fun (s, k) => (Text.ofNat k, Value.input s)
  let environment := p.environment.map fun (name, value) => (name, Value.input value)
  { process := p
    globals := firstVariables settings (operands.length + 1)
    frames := []
    arrays := [(0, arguments), (1, environment)]
    nextArray := 2
    record := .unset
    fields := []
    printed := []
    outlets := []
    inputs := []
    rest? := none
    argument := 1
    hasInput := false
    ranges := []
    status := 0
    lines }

/-- How deep calls nest in a program. -/
def callDepth : Nat := 3000

/-- Runs a program on its inputs. -/
def runProgram (start : (program : Text) → List Text → Run Ended) (program : Program) (lines : Nat)
    (settings : List (Text × Text)) (operands : List Text) : Run Nat := do
  let i := interpreter program.functions start callDepth
  let (outcome, m) := (runRules i program.rules).run (firstMachine (← get) lines settings operands)
  let finish : Step Unit := do
    if let .error message := outcome then inProcess (complain "awk" message)
    feedAll i m.outlets
    flush
  let (_, m) := finish.run.run m
  set m.process
  return if outcome.isOk then m.status else 2

/-- What is said about the ways to call the tool. -/
def usageText : Text :=
  "Usage: mawk [Options] [Program] [file ...]

Program:
    The -f option value is the name of a file containing program text.
    If no -f option is given, a \"--\" ends option processing; the following
    parameters are the program text.

Options:
    -f program-file  Program  text is read from file instead of from the
                     command-line.  Multiple -f options are accepted.
    -F value         sets the field separator, FS, to value.
    -v var=value     assigns value to program variable var.
    --               unambiguous end of options.

    Implementation-specific options are prefixed with \"-W\".  They can be
    abbreviated:

    -W version       show version information and exit.
    -W dump          show assembler-like listing of program and exit.
    -W help          show this message and exit.
    -W interactive   set unbuffered output, line-buffered input.
    -W exec file     use file as program as well as last option.
    -W random=number set initial random seed.
    -W sprintf=number adjust size of sprintf buffer.
    -W posix_space   do not consider \"\\n\" a space.
    -W usage         show this message and exit.
".toList

/-- Runs a program about records. -/
def run (start : (program : Text) → List Text → Run Ended) : Tool := fun arguments => do
  let fail (message : Text) : Run Nat := do
    complain "awk" message
    return 2
  match readOrder ⟨[], [], []⟩ arguments with
  | .error message => fail message
  | .ok order =>
    match order.paths, order.operands with
    | [], [] =>
      if arguments.isEmpty then say 2 usageText
      return 0
    | [], text :: operands => runText fail text order.settings operands
    | paths, operands =>
      match ← readParts paths with
      | .error message => fail message
      | .ok text => runText fail text order.settings operands
where
  /-- Runs the program of a text. -/
  runText (fail : Text → Run Nat) (text : Text) (settings : List (Text × Text))
      (operands : List Text) : Run Nat :=
    match readProgram text with
    | .error fault => fail fault.message
    | .ok program => runProgram start program (lineCount text) settings operands

end Awk

end Tool

end Virtual

end Oneshot
