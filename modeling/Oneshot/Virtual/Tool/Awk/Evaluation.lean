import Oneshot.Virtual.Tool.Awk.Channel

/-!
# Values of expressions

Expressions have values, and to find them out may change the machine: places take values, records
are read, functions run. Programs have functions of their own for cutting and searching texts.

- `positionOf_self`: a text is found at its own beginning.
- `evalExpr_text`: a text stands for itself.
-/

namespace Oneshot

namespace Virtual

namespace Tool

namespace Awk

/-! ### Functions on texts -/

/-- The part of a text from a position on, with at most some characters. Positions begin at one. -/
def partOf (s : Text) (start : Float) (count? : Option Float) : Text :=
  let first := wholePart start.round
  let behind : Int := match count? with
    | none => (s.length : Int) + 1
    | some count => wholePart (start + count).round
  let low := max first 1
  let high := min behind (s.length + 1)
  (s.drop (low - 1).toNat).take (high - low).toNat

/-- The position of the first occurrence of a text in another one, counted from one; zero if there
is none. -/
def positionOf (part : Text) : (position : Nat) → Text → Nat
  | position, [] => if part.isEmpty then position else 0
  | position, c :: s =>
    if part.isPrefixOf (c :: s) then position else positionOf part (position + 1) s

/-- The number by which an array puts a subscript into one of its rows. -/
def rowOf (subscript : Text) : Nat :=
  (subscript.foldl (fun h c => ((h ^^^ c.toNat) * 16777619) % Nat.pow 2 32) 2166136261) % 64

/-- The subscripts of an array in the order in which a loop takes them. -/
def loopOrder (entries : List (Text × Value)) : List Text :=
  ((entries.map Prod.fst).reverse).mergeSort fun a b => rowOf a ≤ rowOf b

/-- A function on numbers. -/
def numberFunction? (name : Text) : Option (Float → Float) :=
  match String.ofList name with
  | "sin" => some Float.sin
  | "cos" => some Float.cos
  | "exp" => some Float.exp
  | "log" => some Float.log
  | "sqrt" => some Float.sqrt
  | "int" => some fun x => if x < 0 then x.ceil else x.floor
  | _ => none

/-- A text is found at its own beginning. -/
theorem positionOf_self (s : Text) (position : Nat) : positionOf s position s = position := by
  cases s <;> simp [positionOf]

/-! ### Expressions -/

/-- The source of an expression that is matched. -/
def sourceOf (i : Interpreter) (e : Expr) : Step Text := do
  match e with
  | .regex source | .group [.regex source] => return source
  | e => textOf (← i.eval e)

/-- The expression that is matched. -/
def regexOf (i : Interpreter) (e : Expr) : Step Regex := do
  match readRegex (← sourceOf i e) with
  | .ok regex => return regex
  | .error message =>
    let line := "line ".toList ++ Text.ofNat (← get).lines
    throw (.failed (line ++ ": ".toList ++ message))

/-- The text of a subscript. -/
def subscriptOf (i : Interpreter) (subscript : List Expr) : Step Text := do
  let texts ← subscript.mapM fun e => do textOf (← i.eval e)
  return Text.join ((← get).plainText "SUBSEP") texts

/-- What an argument of a function stands for: an array, if it is the name of one. -/
def argumentOf (i : Interpreter) (e : Expr) : Step Binding := do
  match e with
  | .variable name =>
    let m ← get
    match m.binding? name with
    | some (.scalar v) => return .scalar v
    | some b => return b
    | none =>
      if name = "NF".toList then return .scalar (← i.eval e)
      else
        set { m with nextArray := m.nextArray + 1 }
        setBinding name (.undecided m.nextArray)
        return .undecided m.nextArray
  | e => return .scalar (← i.eval e)

/-- Calls a function. -/
def callFunction (i : Interpreter) (name : Text) (arguments : List Expr) : Step Value := do
  match i.functions.find? (·.name == name) with
  | none => throw (.failed ("function ".toList ++ name ++ " never defined".toList))
  | some f =>
    let given ← arguments.mapM (argumentOf i)
    let m ← get
    let missing := f.parameters.length - given.length
    let fresh := (List.range missing).map fun k => Binding.undecided (m.nextArray + k)
    set { m with
      nextArray := m.nextArray + missing
      frames := f.parameters.zip (given ++ fresh) :: m.frames }
    let result ← ExceptT.mk do
      let outcome ← (i.exec f.body).run
      modify fun m => { m with frames := m.frames.drop 1 }
      match outcome with
      | .ok () => return .ok Value.unset
      | .error (.returned v) => return .ok v
      | .error flow => return .error flow
    return result

/-- Replaces matches in a place. -/
def callSubstitute (i : Interpreter) (isGlobal : Bool) (arguments : List Expr) : Step Value := do
  match arguments with
  | pattern :: template :: rest =>
    let regex ← regexOf i pattern
    let template ← textOf (← i.eval template)
    let place := rest.headD (.field (.number 0))
    let (count, text) := substitute isGlobal regex template (← textOf (← i.eval place))
    if 0 < count then setPlace i place (.text text)
    return .ofNat count
  | _ => return .ofNat 0

/-- Cuts a text into the elements of an array. -/
def callSplit (i : Interpreter) (arguments : List Expr) : Step Value := do
  match arguments with
  | text :: .variable array :: rest =>
    let text ← textOf (← i.eval text)
    let separator ← match rest with
      | [] => pure ((← get).plainText "FS")
      | e :: _ => sourceOf i e
    let pieces := fieldsBy separator text
    setEntries (← arrayOf array)
      (pieces.zipIdx.map fun (piece, k) => (Text.ofNat (k + 1), Value.input piece))
    return .ofNat pieces.length
  | _ => return .ofNat 0

/-- A fault for a format for which there are not enough values. -/
def failFormat {α : Type} (function : String) (template : Text) : Step α :=
  failAtRecord ("not enough arguments passed to ".toList ++ function.toList ++ "(\"".toList
    ++ template ++ "\")".toList)

/-- Calls a function that every program has. -/
def callBuiltin (i : Interpreter) (name : Text) (arguments : List Expr) : Step Value := do
  let argument (k : Nat) : Step Value :=
    match arguments[k]? with
    | some e => i.eval e
    | none => return .unset
  let textArgument (k : Nat) : Step Text := do textOf (← argument k)
  match String.ofList name with
  | "length" =>
    match arguments with
    | [] => return .ofNat (← textOf (← fieldAt 0)).length
    | [.variable name] =>
      match (← get).binding? name with
      | some (.array number) | some (.undecided number) =>
        return .ofNat (← entriesOf number).length
      | _ => return .ofNat (← textArgument 0).length
    | _ => return .ofNat (← textArgument 0).length
  | "substr" =>
    let s ← textArgument 0
    let start := (← argument 1).toNumber
    let count? ← if 2 < arguments.length then do pure (some (← argument 2).toNumber) else pure none
    return .text (partOf s start count?)
  | "index" =>
    let s ← textArgument 0
    return .ofNat (positionOf (← textArgument 1) 1 s)
  | "split" => callSplit i arguments
  | "sub" => callSubstitute i false arguments
  | "gsub" => callSubstitute i true arguments
  | "match" =>
    let s ← textArgument 0
    let regex ← regexOf i (arguments[1]?.getD (.regex []))
    let found := placeOfMatch regex s
    setPlain "RSTART" (.ofNat (found.elim 0 (·.1)))
    setPlain "RLENGTH" (found.elim (.number (-1)) fun f => .ofNat f.2)
    return .ofNat (found.elim 0 (·.1))
  | "sprintf" =>
    let values ← (arguments.drop 1).mapM i.eval
    let template ← textArgument 0
    match format (← get).conversion (template.length + 1) template values with
    | .ok text => return .text text
    | .error _ => failFormat "sprintf" template
  | "tolower" => return .text ((← textArgument 0).map Char.toLower)
  | "toupper" => return .text ((← textArgument 0).map Char.toUpper)
  | "atan2" =>
    let y := (← argument 0).toNumber
    return .number (Float.atan2 y (← argument 1).toNumber)
  | "system" =>
    let command ← textArgument 0
    flush
    let status ← runCommand i command id
    return .ofNat status
  | "close" => return .number (Float.ofInt (← close i (← textArgument 0)))
  | "fflush" =>
    flush
    return .ofNat 0
  | _ =>
    match numberFunction? name with
    | some f => return .number (f (← argument 0).toNumber)
    | none => return .ofNat 0

/-- Whether an expression counts as true. -/
def holds (i : Interpreter) (e : Expr) : Step Bool := do
  return (← i.eval e).isTrue

/-- The value of an expression. -/
def evalExpr (i : Interpreter) (e : Expr) : Step Value := do
  match e with
  | .number x => return .number x
  | .text s => return .text s
  | .regex _ => return .ofBool (matchesIn (← regexOf i e) (← textOf (← fieldAt 0)))
  | .variable name => valueOf name
  | .element array subscript =>
    let key ← subscriptOf i subscript
    let number ← arrayOf array
    let entries ← entriesOf number
    match List.lookup key entries with
    | some v => return v
    | none =>
      setEntries number (putEntry key .unset entries)
      return .unset
  | .field number => fieldAt (← fieldNumber (← i.eval number))
  | .assign operation? place value =>
    let v ← i.eval value
    let v ← match operation? with
      | none => pure v
      | some operation => do
        pure (.number (operation.apply (← i.eval place).toNumber v.toNumber))
    setPlace i place v
    return v
  | .shift shift isBefore place =>
    let x := (← i.eval place).toNumber
    let y := match shift with
      | .up => x + 1
      | .down => x - 1
    setPlace i place (.number y)
    return .number (if isBefore then y else x)
  | .negative e => return .number (0 - (← i.eval e).toNumber)
  | .positive e => return .number (← i.eval e).toNumber
  | .negation e => return .ofBool !(← holds i e)
  | .arithmetic operation left right =>
    let x := (← i.eval left).toNumber
    return .number (operation.apply x (← i.eval right).toNumber)
  | .compare comparison left right =>
    let a ← i.eval left
    let b ← i.eval right
    return .ofBool (Value.compares (← get).conversion comparison a b)
  | .joined left right =>
    let a ← textOf (← i.eval left)
    return .text (a ++ (← textOf (← i.eval right)))
  | .both left right =>
    if ← holds i left then return .ofBool (← holds i right) else return .ofBool false
  | .either left right =>
    if ← holds i left then return .ofBool true else return .ofBool (← holds i right)
  | .choice test whenTrue whenFalse =>
    if ← holds i test then i.eval whenTrue else i.eval whenFalse
  | .matching isOpposite left right =>
    let s ← textOf (← i.eval left)
    return .ofBool (matchesIn (← regexOf i right) s != isOpposite)
  | .member subscript array =>
    let key ← subscriptOf i subscript
    return .ofBool (List.lookup key (← entriesOf (← arrayOf array))).isSome
  | .call name arguments => callFunction i name arguments
  | .builtin name arguments => callBuiltin i name arguments
  | .getRecord place? =>
    match ← nextRecord? inputLimit with
    | none => return .number 0
    | some record =>
      takeInto i place? record
      return .number 1
  | .getFromFile place? path =>
    let path ← textOf (← i.eval path)
    takeFrom i place? path (do return (← inProcess (readOperand path)).toOption) false
  | .getFromCommand place? command =>
    let command ← textOf (← i.eval command)
    takeFrom i place? command (do return some (← outputOf i command)) true
  | .group all => return (← all.mapM i.eval).getLast?.getD .unset

/-- A text stands for itself. -/
theorem evalExpr_text (i : Interpreter) (s : Text) : evalExpr i (.text s) = pure (.text s) := rfl

end Awk

end Tool

end Virtual

end Oneshot
