import Oneshot.Virtual.Process
import Oneshot.Virtual.Tool.Awk.Matching
import Oneshot.Virtual.Tool.Awk.Value

/-!
# A program about records at work

A machine holds the current record with its fields, the variables and arrays of the program, and
what has been read and printed. The record and its fields follow each other: who sets one changes
the other.

- `fieldsBy_nil`: an empty record has no fields.
-/

namespace Oneshot

namespace Virtual

namespace Tool

namespace Awk

/-- What a name stands for. -/
inductive Binding where
  | scalar (v : Value)
  | array (number : Nat)
  /-- Nothing yet; if it becomes an array, it is that of a number. -/
  | undecided (number : Nat)

/-- Where printed text goes. -/
inductive Outlet where
  /-- To an open file. -/
  | file (index : Nat)
  /-- Into a command that reads it in the end; the pieces are in reverse. -/
  | command (pieces : List Text)

/-- The state of a program at work. -/
structure Machine where
  process : Process
  globals : List (Text × Binding)
  /-- The variables of the functions that run, the innermost first. -/
  frames : List (List (Text × Binding))
  /-- Arrays by their numbers. Each entry has a subscript. -/
  arrays : List (Nat × List (Text × Value))
  nextArray : Nat
  record : Value
  fields : List Value
  /-- What is printed and has not been written yet, the last of it first. -/
  printed : List Text
  outlets : List (Text × Outlet)
  /-- What is left of files and of the outputs of commands. -/
  inputs : List (Text × Text)
  /-- What is left of the current input, if there is one, and the number of the next argument. -/
  rest? : Option Text
  argument : Nat
  /-- Whether any argument has named an input. -/
  hasInput : Bool
  /-- The rules whose ranges have begun. -/
  ranges : List Nat
  status : Nat
  /-- How many lines the program has. -/
  lines : Nat

/-- What breaks off the course of a program. -/
inductive Flow where
  | next
  | nextFile
  | exit
  | returned (v : Value)
  | leaveLoop
  | nextRound
  /-- A fault, with what is said of it. -/
  | failed (message : Text)

/-- A step of a program. -/
abbrev Step (α : Type) := ExceptT Flow (StateM Machine) α

/-- A step of the process below the program. -/
def inProcess {α : Type} (step : Run α) : Step α := do
  let m ← get
  let (a, process) := step.run m.process
  set { m with process }
  return a

/-! ### Variables -/

/-- Bindings with one for a name. -/
def bind (name : Text) (b : Binding) : List (Text × Binding) → List (Text × Binding)
  | [] => [(name, b)]
  | (n, old) :: rest => if n = name then (n, b) :: rest else (n, old) :: bind name b rest

/-- What a name stands for, if that is known. -/
def Machine.binding? (m : Machine) (name : Text) : Option Binding :=
  match (m.frames.head?).bind (List.lookup name) with
  | some b => some b
  | none => List.lookup name m.globals

/-- Binds a name, where it is bound already or among the variables of the whole program. -/
def setBinding (name : Text) (b : Binding) : Step Unit :=
  modify fun m =>
    match m.frames with
    | frame :: frames =>
      if (List.lookup name frame).isSome then { m with frames := bind name b frame :: frames }
      else { m with globals := bind name b m.globals }
    | [] => { m with globals := bind name b m.globals }

/-- The value of a variable that no rule treats specially. -/
def Machine.plain (m : Machine) (name : String) : Value :=
  match List.lookup name.toList m.globals with
  | some (.scalar v) => v
  | _ => .unset

/-- The format in which numbers become texts. -/
def Machine.conversion (m : Machine) : Text :=
  (m.plain "CONVFMT").toText "%.6g"

/-- The text of a variable that no rule treats specially. -/
def Machine.plainText (m : Machine) (name : String) : Text :=
  (m.plain name).toText m.conversion

/-- A value as a text. -/
def textOf (v : Value) : Step Text := do
  return v.toText (← get).conversion

/-- The number of the array of a name. -/
def arrayOf (name : Text) : Step Nat := do
  let m ← get
  match m.binding? name with
  | some (.array number) => return number
  | some (.scalar _) =>
    throw (.failed ("type error in arg(1) in call to ".toList ++ name))
  | some (.undecided number) =>
    setBinding name (.array number)
    return number
  | none =>
    set { m with nextArray := m.nextArray + 1 }
    setBinding name (.array m.nextArray)
    return m.nextArray

/-- The entries of an array. -/
def entriesOf (number : Nat) : Step (List (Text × Value)) := do
  return (List.lookup number (← get).arrays).getD []

/-- Sets the entries of an array. -/
def setEntries (number : Nat) (entries : List (Text × Value)) : Step Unit :=
  modify fun m => { m with
    arrays := (number, entries) :: m.arrays.filter (·.1 != number) }

/-- Entries with one for a subscript. -/
def putEntry (key : Text) (v : Value) : List (Text × Value) → List (Text × Value)
  | [] => [(key, v)]
  | (k, old) :: rest => if k = key then (k, v) :: rest else (k, old) :: putEntry key v rest

/-! ### Records and fields -/

/-- The fields of a text by a separator. -/
def fieldsBy (separator s : Text) : List Text :=
  if s.isEmpty then []
  else
    match separator with
    | [' '] => ((Text.splitAt ' ' (s.map fun c => if c = '\t' ∨ c = '\n' then ' ' else c))).filter
        (!·.isEmpty)
    | [] => s.map fun c => [c]
    | [c] => Text.splitAt c s
    | source =>
      match readRegex source with
      | .ok regex => piecesBetween regex s
      | .error _ => [s]

/-- Sets the record, and its fields with it. -/
def setRecord (v : Value) : Step Unit := do
  let m ← get
  let fields := fieldsBy (m.plainText "FS") (v.toText m.conversion)
  set { m with record := v, fields := fields.map .input }

/-- Sets the fields, and the record with them. -/
def setFields (fields : List Value) : Step Unit := do
  let m ← get
  let texts := fields.map (·.toText m.conversion)
  set { m with fields, record := .input (Text.join (m.plainText "OFS") texts) }

/-- A fault while a program runs, with the record at which it happens. -/
def failAtRecord {α : Type} (message : Text) : Step α := do
  let m ← get
  let place := "\n\tFILENAME=\"".toList ++ m.plainText "FILENAME" ++ "\" FNR=".toList
    ++ m.plainText "FNR" ++ " NR=".toList ++ m.plainText "NR"
  throw (.failed ("run time error: ".toList ++ message ++ place))

/-- The number of a field that a value names. -/
def fieldNumber (v : Value) : Step Nat := do
  let number := wholePart v.toNumber
  if number < 0 then failAtRecord ("negative field index $".toList ++ Text.ofInt number)
  else return number.toNat

/-- The field of a number; the record has the number zero. -/
def fieldAt (number : Nat) : Step Value := do
  let m ← get
  if number = 0 then return m.record else return (m.fields[number - 1]?).getD .unset

/-- Fields of some count: some are cut off, or empty ones are added. -/
def resized (count : Nat) (fields : List Value) : List Value :=
  fields.take count ++ List.replicate (count - fields.length) .unset

/-- Sets a field. -/
def setField (number : Nat) (v : Value) : Step Unit := do
  if number = 0 then setRecord v
  else
    let m ← get
    setFields ((resized (max number m.fields.length) m.fields).set (number - 1) v)

/-! ### Getting and setting -/

/-- The value of a variable. -/
def valueOf (name : Text) : Step Value := do
  let m ← get
  match m.binding? name with
  | some (.scalar v) => return v
  | some _ => return .unset
  | none => if name = "NF".toList then return .ofNat m.fields.length else return .unset

/-- Sets a variable. -/
def setValue (name : Text) (v : Value) : Step Unit := do
  if name = "NF".toList && ((← get).binding? name).isNone then
    setFields (resized (wholePart v.toNumber).toNat (← get).fields)
  else setBinding name (.scalar v)

/-- Sets a variable of the whole program that no rule treats specially. -/
def setPlain (name : String) (v : Value) : Step Unit :=
  modify fun m => { m with globals := bind name.toList (.scalar v) m.globals }

/-- One more than the number of a variable that no rule treats specially. -/
def countUp (name : String) : Step Unit := do
  setPlain name (.number ((← get).plain name |>.toNumber |> (· + 1)))

/-! ### Reading records -/

/-- The first record of a text by a separator, and what is left. -/
def firstRecord? (separator s : Text) : Option (Text × Text) :=
  if s.isEmpty then none
  else
    match separator with
    | [] =>
      match s.dropWhile (· == '\n') with
      | [] => none
      | s =>
        match Text.cutFirst? "\n\n".toList s with
        | some (record, rest) => some (record, rest.dropWhile (· == '\n'))
        | none => some (Text.dropEndWhile (· == '\n') s, [])
    | [c] =>
      let record := s.takeWhile (· != c)
      some (record, s.drop (record.length + 1))
    | source =>
      match (readRegex source).toOption.bind fun regex =>
        (regex.allMatches false s).find? fun m => !m.text.isEmpty with
      | some m => some (s.take m.start, m.stop.rest)
      | none => some (s, [])

/-- Prints a text into what is written in the end. -/
def printOut (text : Text) : Step Unit :=
  modify fun m => { m with printed := text :: m.printed }

/-- Writes what has been printed. -/
def flush : Step Unit := do
  let m ← get
  let text := m.printed.reverse.flatten
  set { m with printed := [] }
  if !text.isEmpty then inProcess (say 1 text)

/-- An empty record has no fields. -/
theorem fieldsBy_nil (separator : Text) : fieldsBy separator [] = [] := rfl

end Awk

end Tool

end Virtual

end Oneshot
