import Oneshot.Virtual.Tool.Awk.Matching

/-!
# Expressions of programs about records

Operators bind at levels, from choices down to powers. What stands side by side without an operator
is joined. Where something is printed, a sign of comparison names a file instead, unless it stands
between parentheses.

- `readLevel_out`: without fuel nothing is read.
-/

namespace Oneshot

namespace Virtual

namespace Tool

namespace Awk

/-- What a statement stands in. -/
inductive Scope where
  | records
  /-- The beginning or the end. -/
  | edge
  | function
deriving DecidableEq, Repr

/-- What is left of a program, and where in it the reader is. -/
structure Reading where
  rest : List Placed
  line : Nat
  /-- How many blocks and how many loops are open. -/
  depth : Nat
  loops : Nat
  scope : Scope
  /-- The functions that are called, the last of them first. -/
  called : List Text

/-- A step of reading. -/
abbrev Read (α : Type) := StateT Reading (Except Fault) α

/-- Refuses a program with a message about the current line. -/
def refuseWith {α : Type} (message : Text) : Read α := do
  faultAt (← get).line message

/-- Refuses a program at the next token. -/
def refuse {α : Type} : Read α := do
  let r ← get
  match r.rest with
  | p :: _ =>
    let near : Text := if p.token matches .newline then "end of line" else p.written
    faultAt p.line ("syntax error at or near ".toList ++ near)
  | [] =>
    if 0 < r.depth then faultAt (r.line + 1) "missing \x7d near end of file"
    else refuseWith "syntax error at or near end of line"

/-- The next token. -/
def look : Read (Option Token) := do
  return (← get).rest.head?.map (·.token)

/-- Goes on behind the next token. -/
def skip : Read Unit :=
  modify fun r =>
    match r.rest with
    | [] => r
    | p :: rest => { r with rest, line := p.line }

/-- Whether the next token is a symbol. -/
def sees (symbol : String) : Read Bool := do
  return (← look).any (·.isSymbol symbol)

/-- Takes a symbol, if it is next. -/
def takeIf (symbol : String) : Read Bool := do
  if ← sees symbol then
    skip
    return true
  else return false

/-- Takes a symbol that has to be next. -/
def expect (symbol : String) : Read Unit := do
  if !(← takeIf symbol) then refuse

/-- Takes line ends. -/
def skipLines : (fuel : Nat) → Read Unit
  | 0 => return
  | fuel + 1 => do
    match ← look with
    | some .newline =>
      skip
      skipLines fuel
    | _ => return

/-- Takes all line ends in front. -/
def skipAllLines : Read Unit := do
  skipLines (← get).rest.length

/-- Takes a name that has to be next. -/
def takeName : Read Text := do
  match ← look with
  | some (.name s) | some (.callee s) =>
    skip
    return s
  | _ => refuse

/-- The first of some symbols that is next, with what it stands for. -/
def takeOneOf {α : Type} (all : List (String × α)) : Read (Option α) := do
  match ← look with
  | some (.symbol s) =>
    match List.lookup (String.ofList s) all with
    | some a =>
      skip
      return some a
    | none => return none
  | _ => return none

/-- The signs that set a place. -/
def assignSigns : List (String × Option Arithmetic) :=
  [("=", none), ("+=", some .add), ("-=", some .subtract), ("*=", some .multiply),
    ("/=", some .divide), ("%=", some .remainder), ("^=", some .power)]

/-- The signs of comparisons. -/
def comparisonSigns (inPrint : Bool) : List (String × Comparison) :=
  let all : List (String × Comparison) :=
    [("<", .less), ("<=", .atMost), ("==", .equal), ("!=", .different)]
  if inPrint then all else (">", .greater) :: (">=", .atLeast) :: all

/-- Whether a token may begin an operand that is joined to the one in front. -/
def beginsJoined : Token → Bool
  | .number _ | .text _ | .regex _ | .name _ | .callee _ | .builtin _ => true
  | .symbol s => ["$", "!", "(", "-", "+", "++", "--"].contains (String.ofList s)
  | _ => false

/-- Whether a token may go on with a joined text. Signs of numbers belong to sums, and a denial to a
comparison. -/
def goesOnJoined (t : Token) : Bool :=
  beginsJoined t && !t.isSymbol "-" && !t.isSymbol "+" && !t.isSymbol "!"

/-- Refuses a text that is no expression to match. -/
def checkRegex (source : Text) : Read Unit :=
  match readRegex source with
  | .ok _ => return
  | .error message => refuseWith message

/-- Refuses a number of arguments that a function of every program does not take. -/
def checkCount (name : Text) (count : Nat) : Read Unit :=
  match List.lookup (String.ofList name) builtinFunctions with
  | some (least, most) =>
    if least ≤ count && count ≤ most then return
    else refuseWith ("wrong number of arguments in call to ".toList ++ name)
  | none => return

/-- The levels at which operators bind. -/
inductive Level where
  | whole | choice | either | both | member | matching | comparison | joined | sum | product
  | signed | power | primary
deriving DecidableEq, Repr

mutual

/-- The expression at a level. -/
def readLevel (inPrint : Bool) (fuel : Nat) (level : Level) : Read Expr :=
  match fuel with
  | 0 => refuse
  | fuel + 1 => do
    match level with
    | .whole =>
      let left ← readLevel inPrint fuel .choice
      if !left.isPlace then return left
      else
        match ← takeOneOf assignSigns with
        | some operation? =>
          skipAllLines
          return .assign operation? left (← readLevel inPrint fuel .whole)
        | none => return left
    | .choice =>
      let test ← readLevel inPrint fuel .either
      if ← takeIf "?" then
        skipAllLines
        let whenTrue ← readLevel inPrint fuel .whole
        skipAllLines
        expect ":"
        skipAllLines
        return .choice test whenTrue (← readLevel inPrint fuel .whole)
      else return test
    | .signed =>
      if ← takeIf "!" then return .negation (← readLevel inPrint fuel .signed)
      else if ← takeIf "-" then return .negative (← readLevel inPrint fuel .signed)
      else if ← takeIf "+" then return .positive (← readLevel inPrint fuel .signed)
      else readLevel inPrint fuel .power
    | .power =>
      let base ← readShifted inPrint fuel
      if ← takeIf "^" then
        return .arithmetic .power base (← readLevel inPrint fuel .signed)
      else return base
    | .primary => readPrimary inPrint fuel
    | .either => readRest inPrint fuel level (← readLevel inPrint fuel .both)
    | .both => readRest inPrint fuel level (← readLevel inPrint fuel .member)
    | .member => readRest inPrint fuel level (← readLevel inPrint fuel .matching)
    | .matching => readRest inPrint fuel level (← readLevel inPrint fuel .comparison)
    | .comparison => readRest inPrint fuel level (← readLevel inPrint fuel .joined)
    | .joined => readRest inPrint fuel level (← readLevel inPrint fuel .sum)
    | .sum => readRest inPrint fuel level (← readLevel inPrint fuel .product)
    | .product => readRest inPrint fuel level (← readLevel inPrint fuel .signed)

/-- What follows an operand at a level whose operators bind to the left. -/
def readRest (inPrint : Bool) (fuel : Nat) (level : Level) (left : Expr) : Read Expr :=
  match fuel with
  | 0 => refuse
  | fuel + 1 => do
    match level with
    | .either =>
      if ← takeIf "||" then
        skipAllLines
        readRest inPrint fuel level (.either left (← readLevel inPrint fuel .both))
      else return left
    | .both =>
      if ← takeIf "&&" then
        skipAllLines
        readRest inPrint fuel level (.both left (← readLevel inPrint fuel .member))
      else return left
    | .member =>
      if (← look).any (·.isKeyword "in") then
        skip
        let array ← takeName
        let subscript := match left with
          | .group all => all
          | e => [e]
        readRest inPrint fuel level (.member subscript array)
      else return left
    | .matching =>
      match ← takeOneOf [("~", false), ("!~", true)] with
      | some isOpposite =>
        let right ← readLevel inPrint fuel .comparison
        if let .text source := right then checkRegex source
        readRest inPrint fuel level (.matching isOpposite left right)
      | none => return left
    | .comparison =>
      match (← get).rest with
      | bar :: word :: _ =>
        if bar.token.isSymbol "|" && word.token.isKeyword "getline" then
          skip
          skip
          let place? ← readPlace? inPrint fuel
          readRest inPrint fuel level (.getFromCommand place? left)
        else
          match ← takeOneOf (comparisonSigns inPrint) with
          | some comparison =>
            return .compare comparison left (← readLevel inPrint fuel .joined)
          | none => return left
      | _ => return left
    | .joined =>
      if (← look).any goesOnJoined then
        readRest inPrint fuel level (.joined left (← readLevel inPrint fuel .sum))
      else return left
    | .sum =>
      match ← takeOneOf [("+", Arithmetic.add), ("-", .subtract)] with
      | some operation =>
        let right ← readLevel inPrint fuel .product
        readRest inPrint fuel level (.arithmetic operation left right)
      | none => return left
    | .product =>
      match ← takeOneOf [("*", Arithmetic.multiply), ("/", .divide), ("%", .remainder)] with
      | some operation =>
        let right ← readLevel inPrint fuel .signed
        readRest inPrint fuel level (.arithmetic operation left right)
      | none => return left
    | _ => return left

/-- An operand whose place may go up or down. -/
def readShifted (inPrint : Bool) (fuel : Nat) : Read Expr :=
  match fuel with
  | 0 => refuse
  | fuel + 1 => do
    match ← takeOneOf [("++", Shift.up), ("--", .down)] with
    | some shift =>
      let place ← readPrimary inPrint fuel
      if place.isPlace then return .shift shift true place else refuse
    | none =>
      let e ← readPrimary inPrint fuel
      if !e.isPlace then return e
      else
        match ← takeOneOf [("++", Shift.up), ("--", .down)] with
        | some shift => return .shift shift false e
        | none => return e

/-- The place that takes a record, if there is one. -/
def readPlace? (inPrint : Bool) (fuel : Nat) : Read (Option Expr) :=
  match fuel with
  | 0 => refuse
  | fuel + 1 => do
    match ← look with
    | some (.name _) => return some (← readPrimary inPrint fuel)
    | some t => if t.isSymbol "$" then return some (← readPrimary inPrint fuel) else return none
    | none => return none

/-- Expressions between commas up to a closing symbol, which is taken. -/
def readListed (fuel : Nat) (closing : String) : Read (List Expr) :=
  match fuel with
  | 0 => refuse
  | fuel + 1 => do
    skipAllLines
    if ← takeIf closing then return []
    else
      let first ← readLevel false fuel .whole
      skipAllLines
      if ← takeIf "," then
        skipAllLines
        if ← sees closing then refuse else return first :: (← readListed fuel closing)
      else
        expect closing
        return [first]

/-- An operand. -/
def readPrimary (inPrint : Bool) (fuel : Nat) : Read Expr :=
  match fuel with
  | 0 => refuse
  | fuel + 1 => do
    match ← look with
    | some (.number x) =>
      skip
      return .number x
    | some (.text s) =>
      skip
      return .text s
    | some (.regex source) =>
      skip
      checkRegex source
      return .regex source
    | some (.name s) =>
      skip
      if ← takeIf "[" then return .element s (← readListed fuel "]") else return .variable s
    | some (.callee s) =>
      skip
      expect "("
      modify fun r => { r with called := s :: r.called }
      return .call s (← readListed fuel ")")
    | some (.builtin s) =>
      skip
      if ← takeIf "(" then
        let arguments ← readListed fuel ")"
        checkCount s arguments.length
        return .builtin s arguments
      else if s = "length".toList then return .builtin s []
      else refuse
    | some t =>
      if t.isSymbol "$" then
        skip
        match ← takeOneOf [("++", Shift.up), ("--", .down)] with
        | some shift => return .field (.shift shift true (← readPrimary inPrint fuel))
        | none =>
          if ← takeIf "-" then return .field (.negative (← readPrimary inPrint fuel))
          else return .field (← readPrimary inPrint fuel)
      else if t.isSymbol "(" then
        skip
        match ← readListed fuel ")" with
        | [] => refuse
        | all => return .group all
      else if t.isSymbol "-" then
        skip
        return .negative (← readLevel inPrint fuel .power)
      else if t.isSymbol "+" then
        skip
        return .positive (← readLevel inPrint fuel .power)
      else if t.isSymbol "!" then
        skip
        return .negation (← readLevel inPrint fuel .power)
      else if t.isKeyword "getline" then
        skip
        let place? ← readPlace? inPrint fuel
        if ← takeIf "<" then return .getFromFile place? (← readPrimary inPrint fuel)
        else return .getRecord place?
      else refuse
    | none => refuse

end

/-- How much fuel is enough for what is left. -/
def enoughFuel : Read Nat := do
  return 20 * (← get).rest.length + 40

/-- An expression. -/
def readExpr (inPrint : Bool) : Read Expr := do
  readLevel inPrint (← enoughFuel) .whole

/-- Without fuel nothing is read. -/
theorem readLevel_out (inPrint : Bool) (level : Level) : readLevel inPrint 0 level = refuse := by
  unfold readLevel
  rfl

end Awk

end Tool

end Virtual

end Oneshot
