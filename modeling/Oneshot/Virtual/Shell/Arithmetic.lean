import Oneshot.Virtual.Shell.Syntax

/-!
# Arithmetic

Expressions over whole numbers of sixty-four bits, which wrap around. Variables may be read and set,
so the value of an expression comes with what it sets, and a part that does not count because of a
condition sets nothing.

- `wrap_wrap`: a number that fits is not changed.
- `combine?_isSome`: only division refuses its operands.
-/

namespace Oneshot

namespace Virtual

namespace Shell

namespace Arithmetic

/-- A whole number in the range of sixty-four bits. -/
def wrap (n : Int) : Int :=
  Int.bmod n (Nat.pow 2 64)

/-- The greatest number. -/
def greatest : Int := Nat.pow 2 63 - 1

/-- A sign between two operands. -/
inductive Operator where
  | times | divide | remainder | plus | minus | left | right | less | lessEqual | greater
  | greaterEqual | equal | unequal | bitAnd | bitXor | bitOr
deriving DecidableEq, Repr

/-- How loosely an operator binds. -/
def Operator.rank : Operator → Nat
  | .times | .divide | .remainder => 0
  | .plus | .minus => 1
  | .left | .right => 2
  | .less | .lessEqual | .greater | .greaterEqual => 3
  | .equal | .unequal => 4
  | .bitAnd => 5
  | .bitXor => 6
  | .bitOr => 7

/-- A number without its sign, as bits. -/
def bitsOf (n : Int) : Nat :=
  (n % Nat.pow 2 64).toNat

/-- One for a condition that holds, zero for one that does not. -/
def ofBool (b : Bool) : Int :=
  if b then 1 else 0

/-- The value of an operator, unless it divides by zero. -/
def Operator.combine? (operator : Operator) (a b : Int) : Option Int :=
  match operator with
  | .times => some (wrap (a * b))
  | .divide => if b = 0 then none else some (wrap (Int.tdiv a b))
  | .remainder => if b = 0 then none else some (wrap (Int.tmod a b))
  | .plus => some (wrap (a + b))
  | .minus => some (wrap (a - b))
  | .left => some (wrap (a * Nat.pow 2 (bitsOf b % 64)))
  | .right => some (Int.fdiv a (Nat.pow 2 (bitsOf b % 64)))
  | .less => some (ofBool (a < b))
  | .lessEqual => some (ofBool (a ≤ b))
  | .greater => some (ofBool (b < a))
  | .greaterEqual => some (ofBool (b ≤ a))
  | .equal => some (ofBool (a = b))
  | .unequal => some (ofBool (a ≠ b))
  | .bitAnd => some (wrap (bitsOf a &&& bitsOf b : Nat))
  | .bitXor => some (wrap (bitsOf a ^^^ bitsOf b : Nat))
  | .bitOr => some (wrap (bitsOf a ||| bitsOf b : Nat))

/-- A symbol of an expression. -/
inductive Symbol where
  | number (n : Int)
  | name (name : Text)
  | operator (operator : Operator)
  /-- An assignment, which may compute with the value that was there. -/
  | assign (operator? : Option Operator)
  | not | complement | both | either | question | colon | open | close
  /-- A character that belongs to no symbol. -/
  | unknown
deriving DecidableEq, Repr

/-- The value of a digit in some base up to sixteen. -/
def digitValue? (base : Nat) (c : Char) : Option Nat :=
  let value :=
    if c.isDigit then c.toNat - 48
    else if 'a' ≤ c && c ≤ 'f' then c.toNat - 87
    else if 'A' ≤ c && c ≤ 'F' then c.toNat - 55
    else base
  if value < base then some value else none

/-- The number that the digits in front denote, in a base, and what is left behind them. -/
def readDigits (base : Nat) (s : Text) : Nat × Text :=
  let digits := s.takeWhile fun c => (digitValue? base c).isSome
  (digits.foldl (fun n c => n * base + (digitValue? base c).getD 0) 0, s.drop digits.length)

/-- The number in front, with a zero before octal and an `x` before hexadecimal digits, and what is
left behind it. -/
def readNumber (s : Text) : Nat × Text :=
  match s with
  | '0' :: x :: d :: rest =>
    if (x = 'x' ∨ x = 'X') ∧ (digitValue? 16 d).isSome = true then readDigits 16 (d :: rest)
    else readDigits 8 s
  | '0' :: _ => readDigits 8 s
  | _ => readDigits 10 s

/-- The signs, the longer ones first. -/
def signs : List (String × Symbol) :=
  [("<<=", .assign (some .left)), (">>=", .assign (some .right)),
    ("<<", .operator .left), (">>", .operator .right), ("<=", .operator .lessEqual),
    (">=", .operator .greaterEqual), ("==", .operator .equal), ("!=", .operator .unequal),
    ("&&", .both), ("||", .either), ("*=", .assign (some .times)), ("/=", .assign (some .divide)),
    ("%=", .assign (some .remainder)), ("+=", .assign (some .plus)),
    ("-=", .assign (some .minus)), ("&=", .assign (some .bitAnd)),
    ("^=", .assign (some .bitXor)), ("|=", .assign (some .bitOr)),
    ("<", .operator .less), (">", .operator .greater), ("&", .operator .bitAnd),
    ("|", .operator .bitOr), ("^", .operator .bitXor), ("*", .operator .times),
    ("/", .operator .divide), ("%", .operator .remainder), ("+", .operator .plus),
    ("-", .operator .minus), ("=", .assign none), ("!", .not), ("~", .complement),
    ("?", .question), (":", .colon), ("(", .open), (")", .close)]

/-- The symbols of an expression that has at most `fuel` characters. -/
def symbolsWithin : (fuel : Nat) → Text → List Symbol
  | 0, _ => []
  | _, [] => []
  | fuel + 1, c :: s =>
    if c = ' ' ∨ c = '\t' ∨ c = '\n' then symbolsWithin fuel s
    else if c.isDigit then
      let (n, rest) := readNumber (c :: s)
      .number (min n greatest) :: symbolsWithin fuel rest
    else if isNameStart c then
      .name ((c :: s).takeWhile isNameChar) :: symbolsWithin fuel (s.dropWhile isNameChar)
    else
      match signs.find? fun sign => sign.1.toList.isPrefixOf (c :: s) with
      | some (text, symbol) => symbol :: symbolsWithin fuel ((c :: s).drop text.length)
      | none => [.unknown]

/-- Why an expression has no value. -/
inductive Fault where
  | primaryExpected
  | closeExpected
  | colonExpected
  | endExpected
  | divisionByZero
  /-- The value of a variable is no number. -/
  | notNumber (value : Text)
deriving DecidableEq, Repr

/-- How an evaluation stands: the symbols that are left, and the variables that were set, the last
first. -/
structure State where
  left : List Symbol
  settings : List (Text × Int)

/-- An evaluation. -/
abbrev Eval (α : Type) := StateT State (Except Fault) α

/-- The whole number that a text denotes, with blanks around it; no digits at all denote zero. -/
def numberOf? (s : Text) : Option Int :=
  let s := s.dropWhile isSpace
  let (negative, digits) := match s with
    | '-' :: t => (true, t)
    | '+' :: t => (false, t)
    | t => (false, t)
  let (n, rest) := readNumber digits
  if digits.isEmpty then (if s.isEmpty then some 0 else none)
  else if !(digits.head?.any Char.isDigit) || !(rest.all isSpace) then none
  else some (if negative then max (-(n : Int)) (-(Nat.pow 2 63)) else min (n : Int) greatest)

/-- The value of a variable. -/
def valueOf (value? : Text → Option Text) (name : Text) : Eval Int := do
  match List.lookup name (← get).settings with
  | some n => return n
  | none =>
    let text := (value? name).getD []
    match numberOf? text with
    | some n => return n
    | none => throw (.notNumber text)

/-- Takes the next symbol. -/
def takeSymbol : Eval (Option Symbol) := do
  let s ← get
  match s.left with
  | [] => return none
  | symbol :: left =>
    set { s with left }
    return some symbol

/-- The next symbol, which is not taken. -/
def nextSymbol : Eval (Option Symbol) := do
  return (← get).left.head?

/-- Applies an operator, unless the result does not count. -/
def applyTo (counts : Bool) (operator : Operator) (a b : Int) : Eval Int :=
  if counts then
    match operator.combine? a b with
    | some n => return n
    | none => throw .divisionByZero
  else return b

mutual

/-- The value of an operand. -/
def primary (value? : Text → Option Text) (fuel : Nat) (counts : Bool) : Eval Int :=
  match fuel with
  | 0 => throw .primaryExpected
  | fuel + 1 => do
    match ← takeSymbol with
    | some (.number n) => return n
    | some (.name name) => if counts then valueOf value? name else return 0
    | some .open =>
      let n ← assignment value? fuel counts
      if (← takeSymbol) = some .close then return n else throw .closeExpected
    | some (.operator .plus) => primary value? fuel counts
    | some (.operator .minus) => return wrap (-(← primary value? fuel counts))
    | some .not => return ofBool ((← primary value? fuel counts) = 0)
    | some .complement => return wrap (-(← primary value? fuel counts) - 1)
    | _ => throw .primaryExpected
termination_by structural fuel

/-- The value of operands with operators between them that bind closer than `rank`, of which the
first operand is given. -/
def operatorsFrom (value? : Text → Option Text) (fuel : Nat) (counts : Bool) (rank : Nat)
    (a : Int) : Eval Int :=
  match fuel with
  | 0 => throw .primaryExpected
  | fuel + 1 => do
    match ← nextSymbol with
    | some (.operator operator) =>
      if operator.rank < rank then
        let _ ← takeSymbol
        let b ← primary value? fuel counts
        let b ← operatorsFrom value? fuel counts operator.rank b
        let n ← applyTo counts operator a b
        operatorsFrom value? fuel counts rank n
      else return a
    | _ => return a
termination_by structural fuel

/-- The value of a conjunction. -/
def conjunction (value? : Text → Option Text) (fuel : Nat) (counts : Bool) : Eval Int :=
  match fuel with
  | 0 => throw .primaryExpected
  | fuel + 1 => do
    let a ← primary value? fuel counts
    let a ← operatorsFrom value? fuel counts 8 a
    if (← nextSymbol) = some .both then
      let _ ← takeSymbol
      let b ← conjunction value? fuel (counts && a != 0)
      return ofBool (a ≠ 0 ∧ b ≠ 0)
    else return a
termination_by structural fuel

/-- The value of a disjunction. -/
def disjunction (value? : Text → Option Text) (fuel : Nat) (counts : Bool) : Eval Int :=
  match fuel with
  | 0 => throw .primaryExpected
  | fuel + 1 => do
    let a ← conjunction value? fuel counts
    if (← nextSymbol) = some .either then
      let _ ← takeSymbol
      let b ← disjunction value? fuel (counts && a == 0)
      return ofBool (a ≠ 0 ∨ b ≠ 0)
    else return a
termination_by structural fuel

/-- The value of a conditional. -/
def conditional (value? : Text → Option Text) (fuel : Nat) (counts : Bool) : Eval Int :=
  match fuel with
  | 0 => throw .primaryExpected
  | fuel + 1 => do
    let a ← disjunction value? fuel counts
    if (← nextSymbol) = some .question then
      let _ ← takeSymbol
      let b ← assignment value? fuel (counts && a != 0)
      if (← takeSymbol) ≠ some .colon then throw .colonExpected
      let c ← conditional value? fuel (counts && a == 0)
      return if a ≠ 0 then b else c
    else return a
termination_by structural fuel

/-- The value of an assignment. -/
def assignment (value? : Text → Option Text) (fuel : Nat) (counts : Bool) : Eval Int :=
  match fuel with
  | 0 => throw .primaryExpected
  | fuel + 1 => do
    match (← get).left with
    | .name name :: .assign operator? :: rest =>
      modify ({ · with left := rest })
      let n ← assignment value? fuel counts
      if counts then
        let n ← match operator? with
          | none => pure n
          | some operator => do applyTo counts operator (← valueOf value? name) n
        modify fun s => { s with settings := (name, n) :: s.settings }
        return n
      else return n
    | _ => conditional value? fuel counts
termination_by structural fuel

end

/-- The value of an expression, and the variables that it sets in their order. -/
def eval (value? : Text → Option Text) (expression : Text) :
    Except Fault (Int × List (Text × Int)) := do
  let symbols := symbolsWithin expression.length expression
  let (n, s) ← (assignment value? (8 * symbols.length + 16) true).run ⟨symbols, []⟩
  if s.left.isEmpty then return (n, s.settings.reverse) else throw .endExpected

/-- What the shell says of an expression without a value. -/
def Fault.message (expression : Text) : Fault → Text
  | .notNumber value => "Illegal number: ".toList ++ value
  | fault =>
    let text : Text := match fault with
      | .primaryExpected => "expecting primary"
      | .closeExpected => "expecting ')'"
      | .colonExpected => "expecting ':'"
      | .endExpected => "expecting EOF"
      | .divisionByZero | .notNumber _ => "division by zero"
    "arithmetic expression: ".toList ++ text ++ ": \"".toList ++ expression ++ ['"']

/-- A number that fits is not changed. -/
theorem wrap_wrap (n : Int) : wrap (wrap n) = wrap n := by
  simp [wrap, Int.bmod_bmod]

/-- Only division refuses its operands. -/
theorem combine?_isSome {operator : Operator} (a b : Int)
    (h : (operator ≠ .divide ∧ operator ≠ .remainder) ∨ b ≠ 0) :
    (operator.combine? a b).isSome = true := by
  cases operator <;> simp_all [Operator.combine?]

end Arithmetic

end Shell

end Virtual

end Oneshot
