import Oneshot.Virtual.Regex.Reader

/-!
# Programs about records

A program is a row of rules. A rule has a pattern, which says for which records it is meant, and an
action, which says what is done then. Actions are made of statements, and these of expressions.

- `isPlace_variable`: a variable can take a value.
-/

namespace Oneshot

namespace Virtual

namespace Tool

namespace Awk

/-- An operation on two numbers. -/
inductive Arithmetic where
  | add | subtract | multiply | divide | remainder | power
deriving DecidableEq, Repr

/-- A comparison. -/
inductive Comparison where
  | less | atMost | equal | different | atLeast | greater
deriving DecidableEq, Repr

/-- What is done to a place that holds a number. -/
inductive Shift where
  | up | down
deriving DecidableEq, Repr

/-- An expression. -/
inductive Expr where
  | number (x : Float)
  | text (s : Text)
  /-- An expression that stands for whether the record matches. -/
  | regex (source : Text)
  | variable (name : Text)
  | element (array : Text) (subscript : List Expr)
  | field (number : Expr)
  | assign (operation? : Option Arithmetic) (place value : Expr)
  /-- A place whose number goes up or down before it is used, or behind that. -/
  | shift (shift : Shift) (isBefore : Bool) (place : Expr)
  | negative (e : Expr)
  | positive (e : Expr)
  | negation (e : Expr)
  | arithmetic (operation : Arithmetic) (left right : Expr)
  | compare (comparison : Comparison) (left right : Expr)
  | joined (left right : Expr)
  | both (left right : Expr)
  | either (left right : Expr)
  | choice (test whenTrue whenFalse : Expr)
  | matching (isOpposite : Bool) (left right : Expr)
  | member (subscript : List Expr) (array : Text)
  | call (name : Text) (arguments : List Expr)
  | builtin (name : Text) (arguments : List Expr)
  /-- Takes the next record. -/
  | getRecord (place? : Option Expr)
  /-- Takes the next record of a file. -/
  | getFromFile (place? : Option Expr) (path : Expr)
  /-- Takes the next record of what a command prints. -/
  | getFromCommand (place? : Option Expr) (command : Expr)
  /-- Expressions between parentheses. -/
  | group (all : List Expr)

/-- Where something is printed. -/
inductive Destination where
  | file (path : Expr)
  | append (path : Expr)
  | command (command : Expr)

/-- A statement. -/
inductive Statement where
  | nothing
  | block (all : List Statement)
  | eval (e : Expr)
  | print (all : List Expr) (destination? : Option Destination)
  | printf (all : List Expr) (destination? : Option Destination)
  | conditional (test : Expr) (thenDo : Statement) (elseDo? : Option Statement)
  | repeat (test : Expr) (body : Statement)
  | repeatFirst (body : Statement) (test : Expr)
  | count (first : Statement) (test? : Option Expr) (next body : Statement)
  | each (name array : Text) (body : Statement)
  | next
  | nextFile
  | exit (status? : Option Expr)
  | return (value? : Option Expr)
  | break
  | continue
  | delete (array : Text) (subscript? : Option (List Expr))

/-- For which records a rule is meant. -/
inductive Pattern where
  | begin
  | final
  | always
  | when (test : Expr)
  /-- From a record to another one. -/
  | range (first last : Expr)

/-- A rule. Without an action the record is printed. -/
structure Rule where
  pattern : Pattern
  action? : Option Statement

/-- A function of a program. -/
structure Function where
  name : Text
  parameters : List Text
  body : Statement

/-- A program. -/
structure Program where
  rules : List Rule
  functions : List Function

/-- Whether an expression is a place that can take a value. -/
def Expr.isPlace : Expr → Bool
  | .variable _ | .element _ _ | .field _ => true
  | _ => false

/-- A variable can take a value. -/
theorem isPlace_variable (name : Text) : (Expr.variable name).isPlace = true := rfl

end Awk

end Tool

end Virtual

end Oneshot
