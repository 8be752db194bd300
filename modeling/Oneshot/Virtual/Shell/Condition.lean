import Oneshot.Virtual.Process
import Oneshot.Virtual.Shell.Arithmetic

/-!
# Conditions

What `test` and `[` decide: about texts, whole numbers and files, negated, joined and grouped. How
the first arguments are read depends on how many there are.

- `decide_empty`: without arguments nothing holds.
-/

namespace Oneshot

namespace Virtual

namespace Shell

namespace Condition

/-- Why a condition cannot be decided. -/
inductive Fault where
  | notNumber (text : Text)
  | unexpectedOperator (text : Text)
  | argumentExpected (operator : Text)
  | closeExpected
deriving DecidableEq, Repr

/-- What the shell says of a condition that cannot be decided. -/
def Fault.message : Fault → Text
  | .notNumber text => "Illegal number: ".toList ++ text
  | .unexpectedOperator text => text ++ ": unexpected operator".toList
  | .argumentExpected operator => operator ++ ": argument expected".toList
  | .closeExpected => "closing paren expected"

/-- What an argument can be. -/
inductive Kind where
  | operand
  | unary
  | binary
  | not | both | either | open | close
  /-- There is no argument. -/
  | absent
deriving DecidableEq, Repr

/-- The letters of the conditions on a single operand. -/
def unaryLetters : Text :=
  "rwxefdcbpugkstznhOGLS"

/-- The conditions on two operands. -/
def binaryOperators : List String :=
  ["=", "!=", "<", ">", "-eq", "-ne", "-ge", "-gt", "-le", "-lt", "-nt", "-ot", "-ef"]

/-- What a text is where an operator may stand. -/
def kindOf (s : Text) : Kind :=
  match s with
  | ['!'] => .not
  | ['('] => .open
  | [')'] => .close
  | ['-', 'a'] => .both
  | ['-', 'o'] => .either
  | ['-', c] => if unaryLetters.contains c then .unary else .operand
  | s => if binaryOperators.any (·.toList == s) then .binary else .operand

/-- What the first of some arguments is. -/
def lex : List Text → Kind
  | [] => .absent
  | s :: rest =>
    match kindOf s with
    | .unary =>
      let isOperand : Bool := match rest with
        | [] => true
        | [_] => false
        | next :: _ => kindOf next == .binary
      if isOperand then .operand else .unary
    | .open => if rest.isEmpty then .operand else .open
    | kind => kind

/-- A decision: the arguments from the one that is looked at. -/
abbrev Decide (α : Type) := StateT (List Text) (Except Fault) α

/-- The number that an operand denotes. -/
def number (s : Text) : Except Fault Int :=
  let digits := (s.dropWhile isSpace).dropWhile fun c => c == '-' || c == '+'
  let isDecimal := (digits.takeWhile fun c => !isSpace c).all Char.isDigit
  match if isDecimal && digits.head?.any Char.isDigit then some s else none with
  | none => .error (.notNumber s)
  | some s =>
    let body := (digits.takeWhile Char.isDigit)
    let rest := digits.drop body.length
    let isNegative := (s.dropWhile isSpace).head? = some '-'
    if !rest.all isSpace then .error (.notNumber s)
    else if Arithmetic.greatest < (natOf body : Int) then .error (.notNumber s)
    else .ok (if isNegative then -(natOf body : Int) else natOf body)

/-- Whether a file may be used in some way by an account that may do everything: only what nobody
may execute is not executable. -/
def isUsable (letter : Char) (entry : Entry) : Bool :=
  match entry with
  | .file _ isExecutable => letter != 'x' || isExecutable
  | .device _ => letter != 'x'
  | _ => true

/-- What a device is for the process that opens it. -/
def deviceHas (p : Process) (letter : Char) (device : Device) : Bool :=
  match device with
  | .descriptor n =>
    match (p.fileOf? n).bind (p.system.opened[·]?) with
    | some file =>
      match file.target with
      | .stream _ => letter == 'p'
      | .file _ => letter == 'f'
      | .directory _ => letter == 'd'
      | .device _ => letter == 'c'
    | none => false
  | _ => letter == 'c'

/-- Whether a condition on the file at a path holds. -/
def fileHas (p : Process) (letter : Char) (path : Text) : Bool :=
  if letter == 'h' || letter == 'L' then
    match p.lookAt path with
    | .ok (_, .link _) => true
    | _ => false
  else
    match p.lookUp path with
    | .error _ => false
    | .ok (_, entry) =>
      if "eOG".toList.contains letter then true
      else if "rwx".toList.contains letter then isUsable letter entry
      else
        match entry with
        | .directory _ => letter == 'd' || letter == 's'
        | .file content _ => letter == 'f' || letter == 's' && !content.isEmpty
        | .tool _ => letter == 'f' || letter == 's'
        | .device device => deviceHas p letter device
        | .link _ => false

/-- A condition on a single operand. -/
def unary (p : Process) (operator operand : Text) : Except Fault Bool :=
  match operator with
  | ['-', 'n'] => .ok (!operand.isEmpty)
  | ['-', 'z'] => .ok operand.isEmpty
  | ['-', 't'] => (number operand).map fun _ => false
  | operator => .ok (fileHas p (operator.getD 1 'e') operand)

/-- Whether two paths lead to the same place. -/
def isSameFile (p : Process) (left right : Text) : Bool :=
  match p.lookUp left, p.lookUp right with
  | .ok (a, _), .ok (b, _) => a == b
  | _, _ => false

/-- A condition on two operands. -/
def binary (p : Process) (left operator right : Text) : Except Fault Bool :=
  let compare (holds : Int → Int → Bool) : Except Fault Bool := do
    let a ← number left
    let b ← number right
    return holds a b
  let order := Ord.compare (left.map Char.toNat) (right.map Char.toNat)
  match String.ofList operator with
  | "=" => .ok (left == right)
  | "!=" => .ok (left != right)
  | "<" => .ok order.isLT
  | ">" => .ok order.isGT
  | "-eq" => compare (· == ·)
  | "-ne" => compare (· != ·)
  | "-lt" => compare (· < ·)
  | "-le" => compare (· ≤ ·)
  | "-gt" => compare (· > ·)
  | "-ge" => compare (· ≥ ·)
  | "-ef" => .ok (isSameFile p left right)
  | _ => .ok false

/-- The argument that is looked at. -/
def current : Decide Text := do
  return (← get).headD []

/-- Looks at the argument behind. -/
def step : Decide Unit :=
  modify (·.drop 1)

/-- What the argument behind the one that is looked at is. -/
def ahead : Decide Kind := do
  return lex ((← get).drop 1)

mutual

/-- A disjunction, whose first argument is of the given kind. -/
def disjunction (p : Process) (fuel : Nat) (kind : Kind) : Decide Bool :=
  match fuel with
  | 0 => return false
  | fuel + 1 => do
    let holds ← conjunction p fuel kind
    if (← ahead) = .either then
      step
      step
      let others ← disjunction p fuel (lex (← get))
      return holds || others
    else return holds
termination_by structural fuel

/-- A conjunction. -/
def conjunction (p : Process) (fuel : Nat) (kind : Kind) : Decide Bool :=
  match fuel with
  | 0 => return false
  | fuel + 1 => do
    let holds ← negation p fuel kind
    if (← ahead) = .both then
      step
      step
      let others ← conjunction p fuel (lex (← get))
      return holds && others
    else return holds
termination_by structural fuel

/-- A condition, perhaps negated. -/
def negation (p : Process) (fuel : Nat) (kind : Kind) : Decide Bool :=
  match fuel with
  | 0 => return false
  | fuel + 1 => do
    if kind = .not then
      let next ← ahead
      if next ≠ .absent then step
      return !(← negation p fuel next)
    else primary p fuel kind
termination_by structural fuel

/-- A single condition, or one between parentheses. -/
def primary (p : Process) (fuel : Nat) (kind : Kind) : Decide Bool :=
  match fuel with
  | 0 => return false
  | fuel + 1 => do
    match kind with
    | .absent => return false
    | .open =>
      step
      let inner := lex (← get)
      if inner = .close then return false
      else
        let holds ← disjunction p fuel inner
        step
        if lex (← get) = .close then return holds else throw .closeExpected
    | .unary =>
      let operator ← current
      step
      match ← get with
      | [] => throw (.argumentExpected operator)
      | operand :: _ => unary p operator operand
    | _ =>
      let left ← current
      if (← ahead) = .binary then
        step
        let operator ← current
        step
        match ← get with
        | [] => throw (.argumentExpected operator)
        | right :: _ => binary p left operator right
      else return !left.isEmpty
termination_by structural fuel

end

/-- Decides arguments of which the first is of the given kind. -/
def decideAll (p : Process) (arguments : List Text) (kind : Kind) : Except Fault Bool := do
  let (holds, left) ← (disjunction p (4 * arguments.length + 8) kind).run arguments
  match left with
  | s :: _ :: _ => throw (.unexpectedOperator s)
  | _ => return holds

/-- Whether the condition that arguments state holds. -/
def decide (p : Process) (arguments : List Text) : Except Fault Bool :=
  match arguments with
  | [] => .ok false
  | arguments =>
    let isShort := arguments.length = 3 ∨ arguments.length = 4
    if arguments.length = 3 ∧ (arguments[1]?.map kindOf) = some .binary then
      decideAll p arguments .operand
    else if isShort ∧ arguments.head? = some ['('] ∧ arguments.getLast? = some [')'] then
      let inner := (arguments.drop 1).dropLast
      decideAll p inner (lex inner)
    else if isShort ∧ arguments.head? = some ['!'] then
      let rest := arguments.drop 1
      (decideAll p rest (lex rest)).map (!·)
    else decideAll p arguments (lex arguments)

/-- Without arguments nothing holds. -/
theorem decide_empty (p : Process) : decide p [] = .ok false := rfl

end Condition

end Shell

end Virtual

end Oneshot
