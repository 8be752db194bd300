import Oneshot.Virtual.Format
import Oneshot.Virtual.Regex.Reader
import Oneshot.Virtual.Tool.Basic

/-!
# Numbers

The tools that print rows of numbers and that evaluate expressions.

- `decimalOf?_nil`: without digits there is no number.
-/

namespace Oneshot

namespace Virtual

namespace Tool

/-! ### Rows of numbers -/

/-- A decimal number: a count of steps, of which ten to the power `places` make one. -/
structure Decimal where
  steps : Int
  places : Nat
deriving DecidableEq, Repr

/-- The number that a text writes. -/
def decimalOf? (s : Text) : Option Decimal :=
  let (negative, s) := match s with
    | '-' :: t => (true, t)
    | '+' :: t => (false, t)
    | t => (false, t)
  let whole := s.takeWhile Char.isDigit
  let (fraction, rest) := match s.drop whole.length with
    | '.' :: t => (t.takeWhile Char.isDigit, t.dropWhile Char.isDigit)
    | t => ([], t)
  let power? : Option Int := match rest with
    | [] => some 0
    | e :: digits =>
      if e ≠ 'e' ∧ e ≠ 'E' then none
      else
        match digits with
        | '-' :: digits => (natOf? digits).map fun n => -(n : Int)
        | '+' :: digits => (natOf? digits).map fun n => (n : Int)
        | digits => (natOf? digits).map fun n => (n : Int)
  if whole.isEmpty && fraction.isEmpty then none
  else
    power?.map fun power =>
      let n : Int := natOf (whole ++ fraction)
      let n := if negative then -n else n
      let places : Int := fraction.length - power
      if 0 ≤ places then ⟨n, places.toNat⟩ else ⟨n * Nat.pow 10 (-places).toNat, 0⟩

/-- A number with more places. -/
def Decimal.widen (d : Decimal) (places : Nat) : Int :=
  d.steps * Nat.pow 10 (places - d.places)

/-- A count of steps in decimal digits. -/
def decimalText (places : Nat) (steps : Int) : Text :=
  let digits := Text.ofNat steps.natAbs
  let digits := List.replicate (places + 1 - digits.length) '0' ++ digits
  let front := digits.take (digits.length - places)
  (if steps < 0 then ['-'] else []) ++ front
    ++ if places = 0 then [] else '.' :: digits.drop front.length

/-- The numbers from `first` to `last`, at most `fuel` of them. -/
def rowFrom (step last : Int) : (fuel : Nat) → (first : Int) → List Int
  | 0, _ => []
  | fuel + 1, first =>
    if (0 < step && last < first) || (step < 0 && first < last) then []
    else first :: rowFrom step last fuel (first + step)

/-- The longest row of numbers. -/
def rowLimit : Nat := 1000000

/-- A format with one conversion: what stands in front, the conversion, and what stands behind. -/
def readFormat? (s : Text) : Option (Text × Conversion × Text) :=
  let front := s.takeWhile (· != '%')
  match s.drop front.length with
  | '%' :: rest =>
    let flags := rest.takeWhile fun c => "-+ #0'".toList.contains c
    let rest := rest.drop flags.length
    let width := rest.takeWhile Char.isDigit
    let rest := rest.drop width.length
    let (precision?, rest) : Option Nat × Text := match rest with
      | '.' :: t => (some (natOf (t.takeWhile Char.isDigit)), t.dropWhile Char.isDigit)
      | t => (none, t)
    match rest with
    | letter :: rest =>
      if "aAeEfFgG".toList.contains letter then
        some (front, ⟨flags, natOf width, precision?, letter⟩, rest)
      else none
    | [] => none
  | _ => none

/-- A number by a conversion. -/
def formatDecimal (c : Conversion) (places : Nat) (steps : Int) : Text :=
  c.float (let x := Float.ofScientific steps.natAbs true places
    if steps < 0 then -x else x)

/-- Prints rows of numbers. -/
def seq : Tool := fun arguments => do
  let isNumber (a : Text) : Bool := match a with
    | '-' :: c :: _ => c.isDigit || c == '.'
    | _ => false
  let options := arguments.takeWhile fun a => a.head? == some '-' && !isNumber a
  let takesNext := match options.getLast? with
    | some ['-', 's'] | some ['-', 'f'] => 1
    | _ => 0
  let split := if options.contains "--".toList then arguments.length
    else options.length + takesNext
  let usage : Usage := ⟨"seq", "s:f:w", [("separator", 's'), ("format", 'f'),
    ("equal-width", 'w')], true⟩
  withGiven usage 1 (fun given => do
    let operands := given.operands ++ arguments.drop split
    let decimals := operands.map fun operand => (operand, decimalOf? operand)
    match decimals.find? (·.2.isNone), operands with
    | some (operand, _), _ =>
      refuseUsage "seq" ("invalid floating point argument: ".toList ++ (← inMarks operand)) 1
    | none, [] => refuseMissing "seq" []
    | none, _ :: _ :: _ :: extra :: _ => refuseExtra "seq" extra
    | none, _ =>
      let values := decimals.filterMap Prod.snd
      let (first, step, last) : Decimal × Decimal × Decimal := match values with
        | [last] => (⟨1, 0⟩, ⟨1, 0⟩, last)
        | [first, last] => (first, ⟨1, 0⟩, last)
        | first :: step :: last :: _ => (first, step, last)
        | [] => (⟨1, 0⟩, ⟨1, 0⟩, ⟨0, 0⟩)
      if step.steps = 0 then
        refuseUsage "seq" ("invalid Zero increment value: ".toList
          ++ (← inMarks (operands.getD 1 []))) 1
      else
        let places := max first.places step.places
        let fine := max places last.places
        let row := rowFrom (step.widen fine) (last.widen fine) rowLimit (first.widen fine)
        let shown := row.map fun (n : Int) => n / Nat.pow 10 (fine - places)
        let plain := shown.map (decimalText places)
        let ends := [decimalText places (first.widen places), decimalText places
          ((last.widen fine) / Nat.pow 10 (fine - places))]
        let width := ((ends ++ plain).map List.length).foldl max 0
        let filled (s : Text) : Text := match s with
          | '-' :: digits => '-' :: List.replicate (width - s.length) '0' ++ digits
          | digits => List.replicate (width - s.length) '0' ++ digits
        let separator := (given.value? 's').getD ['\n']
        match given.value? 'f' with
        | some format =>
          match readFormat? format with
          | some (front, c, behind) =>
            let texts := shown.map fun n => front ++ formatDecimal c places n ++ behind
            printing "seq" (if texts.isEmpty then [] else Text.join separator texts ++ ['\n']) 0
          | none =>
            complain "seq" ("format ".toList ++ (← inMarks format)
              ++ " has no % directive".toList)
            return 1
        | none =>
          let texts := if given.has 'w' then plain.map filled else plain
          printing "seq" (if texts.isEmpty then [] else Text.join separator texts ++ ['\n']) 0)
    (arguments.take split)

/-! ### Expressions -/

/-- Why an expression has no value. -/
inductive ExprFault where
  | missing (behind : Text)
  | unexpected (argument : Text)
  | closeExpected (behind : Text)
  | notInteger
  | divisionByZero
  | badPattern (fault : Regex.Fault)
deriving DecidableEq, Repr

/-- An evaluation of arguments: those in front, the last first, and those that are left. -/
abbrev ExprStep (α : Type) := StateT (List Text × List Text) (Except ExprFault) α

namespace ExprStep

/-- Takes the next argument. -/
def take : ExprStep Text := do
  let (front, rest) ← get
  match rest with
  | [] => throw (.missing (front.headD []))
  | argument :: rest =>
    set (argument :: front, rest)
    return argument

/-- Takes the next argument if it is one of some. -/
def takeOneOf (all : List String) : ExprStep (Option String) := do
  let (front, rest) ← get
  match rest with
  | [] => return none
  | argument :: rest =>
    if all.contains (String.ofList argument) then
      set (argument :: front, rest)
      return some (String.ofList argument)
    else return none

end ExprStep

/-- The whole number that a value is. -/
def integerOf? (s : Text) : Option Int :=
  match s with
  | '-' :: digits => (natOf? digits).map fun n => -(n : Int)
  | digits => (natOf? digits).map fun n => (n : Int)

/-- The whole number that a value has to be. -/
def needInteger (s : Text) : ExprStep Int :=
  match integerOf? s with
  | some n => return n
  | none => throw .notInteger

/-- Whether a value counts as none. -/
def isNull (s : Text) : Bool :=
  s.isEmpty || integerOf? s == some 0

/-- The value of a match: the first group of the pattern, or the length of the match. -/
def matchValue (wide : Bool) (subject pattern : Text) : ExprStep Text := do
  let (chars, back) := charsOf wide subject
  match Regex.read ⟨false, false, false⟩ (charsOf wide pattern).1 with
  | .error fault => throw (.badPattern fault)
  | .ok r =>
    let hasGroup := 0 < r.groupCount
    match r.matchStart? false chars with
    | none => return if hasGroup then [] else ['0']
    | some m => return if hasGroup then back (m.group 1) else Text.ofNat m.stop.position

/-- Values in their order: as numbers if both are. -/
def compareValues (a b : Text) : Ordering :=
  match integerOf? a, integerOf? b with
  | some x, some y => compare x y
  | _, _ => compare (a.map Char.toNat) (b.map Char.toNat)

/-- One for a condition that holds. -/
def truthText (b : Bool) : Text :=
  if b then ['1'] else ['0']

/-- The operators between values, from those that bind loosely to those that bind closely. -/
def exprOperators : List (List String) :=
  [["|"], ["&"], ["<", "<=", "=", "==", "!=", ">=", ">"], ["+", "-"], ["*", "/", "%"], [":"]]

/-- The value of an operator. -/
def applyOperator (wide : Bool) (operator : String) (a b : Text) : ExprStep Text := do
  let number (f : Int → Int → Int) : ExprStep Text := do
    return Text.ofInt (f (← needInteger a) (← needInteger b))
  let divide (f : Int → Int → Int) : ExprStep Text := do
    let x ← needInteger a
    let y ← needInteger b
    if y = 0 then throw .divisionByZero else return Text.ofInt (f x y)
  match operator with
  | "|" => return if !isNull a then a else if !isNull b then b else ['0']
  | "&" => return if isNull a || isNull b then ['0'] else a
  | "<" => return truthText (compareValues a b == .lt)
  | "<=" => return truthText (compareValues a b != .gt)
  | "=" | "==" => return truthText (compareValues a b == .eq)
  | "!=" => return truthText (compareValues a b != .eq)
  | ">=" => return truthText (compareValues a b != .lt)
  | ">" => return truthText (compareValues a b == .gt)
  | "+" => number (· + ·)
  | "-" => number (· - ·)
  | "*" => number (· * ·)
  | "/" => divide Int.tdiv
  | "%" => divide Int.tmod
  | _ => matchValue wide a b

mutual

/-- The value of operands with operators of some levels between them. -/
def evalLevels (wide : Bool) (fuel : Nat) (levels : List (List String)) : ExprStep Text :=
  match fuel with
  | 0 => throw (.missing [])
  | fuel + 1 =>
    match levels with
    | [] => evalPrimary wide fuel
    | operators :: closer => do
      let first ← evalLevels wide fuel closer
      evalRest wide fuel operators closer first
termination_by structural fuel

/-- The value of `first` with the operators that follow. -/
def evalRest (wide : Bool) (fuel : Nat) (operators : List String) (closer : List (List String))
    (first : Text) : ExprStep Text :=
  match fuel with
  | 0 => return first
  | fuel + 1 => do
    match ← ExprStep.takeOneOf operators with
    | none => return first
    | some operator =>
      let second ← evalLevels wide fuel closer
      evalRest wide fuel operators closer (← applyOperator wide operator first second)
termination_by structural fuel

/-- The value of a function, of a group or of an argument. -/
def evalPrimary (wide : Bool) (fuel : Nat) : ExprStep Text :=
  match fuel with
  | 0 => throw (.missing [])
  | fuel + 1 => do
    let argument ← ExprStep.take
    let chars (s : Text) : Text := (charsOf wide s).1
    match String.ofList argument with
    | "(" =>
      let value ← evalLevels wide fuel exprOperators
      match (← get).2 with
      | [')'] :: rest =>
        modify fun s => ([')'] :: s.1, rest)
        return value
      | [] => throw (.closeExpected ((← get).1.headD []))
      | other :: _ => throw (.unexpected other)
    | ")" => throw (.unexpected argument)
    | "+" => ExprStep.take
    | "length" => return Text.ofNat (chars (← evalPrimary wide fuel)).length
    | "index" =>
      let text := chars (← evalPrimary wide fuel)
      let wanted := chars (← evalPrimary wide fuel)
      return Text.ofNat ((text.findIdx? wanted.contains).elim 0 (· + 1))
    | "match" =>
      let text ← evalPrimary wide fuel
      matchValue wide text (← evalPrimary wide fuel)
    | "substr" =>
      let text ← evalPrimary wide fuel
      let start ← evalPrimary wide fuel
      let count ← evalPrimary wide fuel
      let (text, back) := charsOf wide text
      match integerOf? start, integerOf? count with
      | some (Int.ofNat (i + 1)), some (Int.ofNat n) => return back ((text.drop i).take n)
      | _, _ => return []
    | _ => return argument
termination_by structural fuel

end

/-- What is said of an expression without a value. -/
def ExprFault.message : ExprFault → Run Text
  | .missing behind => do
    return "syntax error: missing argument after ".toList ++ (← inMarks behind)
  | .unexpected argument => do
    return "syntax error: unexpected argument ".toList ++ (← inMarks argument)
  | .closeExpected behind => do
    return "syntax error: expecting ')' after ".toList ++ (← inMarks behind)
  | .notInteger => return "non-integer argument"
  | .divisionByZero => return "division by zero"
  | .badPattern fault => return fault.message

/-- Evaluates an expression. -/
def expr : Tool := fun arguments => do
  let arguments := if arguments.head? = some ['-', '-'] then arguments.drop 1 else arguments
  if arguments.isEmpty then refuseUsage "expr" "missing operand" 2
  else
    let fault (fault : ExprFault) : Run Nat := do
      complain "expr" (← fault.message)
      return 2
    match (evalLevels (← isWide) (20 * arguments.length + 20) exprOperators).run
        ([], arguments) with
    | .error f => fault f
    | .ok (value, _, []) =>
      let status ← printing "expr" (value ++ ['\n']) 0
      return max status (if isNull value then 1 else 0)
    | .ok (_, _, extra :: _) => fault (.unexpected extra)

/-- Without digits there is no number. -/
theorem decimalOf?_nil : decimalOf? [] = none := rfl

end Tool

end Virtual

end Oneshot
