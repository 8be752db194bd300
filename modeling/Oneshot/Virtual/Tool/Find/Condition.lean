import Oneshot.Virtual.Regex.Reader
import Oneshot.Virtual.Tool.Basic

/-!
# What is looked for in a tree

What is looked for is an expression of conditions and actions. Its operators are a denial,
conjunctions that need no sign, disjunctions, and rows of which the last part counts.

- `readRow_out`: without fuel nothing is read.
-/

namespace Oneshot

namespace Virtual

namespace Tool

namespace Find

/-- How a number is compared with another one. -/
inductive Sense where
  | exactly | more | fewer
deriving DecidableEq, Repr

/-- Whether a number is as it should be. -/
def Sense.holds (sense : Sense) (wanted actual : Nat) : Bool :=
  match sense with
  | .exactly => actual == wanted
  | .more => wanted < actual
  | .fewer => actual < wanted

/-- How the bits of a mode are compared with others. -/
inductive ModeSense where
  | exactly | all | any
deriving DecidableEq, Repr

/-- A condition or an action. -/
inductive Expr where
  | always (holds : Bool)
  /-- The last name of the path, or the whole path, is of some shape. -/
  | named (isWhole foldsCase : Bool) (shape : List Shell.PatternItem)
  | matching (foldsCase : Bool) (regex : Regex)
  | ofKind (letters : List Char)
  | empty
  | size (sense : Sense) (unit wanted : Nat)
  /-- The age in days or minutes, which is always zero. -/
  | age (sense : Sense) (wanted : Nat)
  | mode (sense : ModeSense) (bits : Nat)
  /-- What may be read, written or executed. -/
  | usable (letter : Char)
  | print (final : Char)
  | printf (format : Text)
  | delete
  /-- Starts a command with the path in it. -/
  | exec (inDirectory : Bool) (command : List Text)
  /-- Starts a command in the end with all paths behind it. -/
  | execAll (command : List Text)
  | prune
  | quit
  | negation (e : Expr)
  | both (left right : Expr)
  | either (left right : Expr)
  /-- One after the other. -/
  | row (left right : Expr)

/-- Whether an expression does something with what is found, so that it need not be printed. -/
def Expr.acts : Expr → Bool
  | .print _ | .printf _ | .delete | .exec _ _ | .execAll _ | .quit => true
  | .negation e => e.acts
  | .both left right | .either left right | .row left right => left.acts || right.acts
  | _ => false

/-- Whether an expression removes what is found. -/
def Expr.deletes : Expr → Bool
  | .delete => true
  | .negation e => e.deletes
  | .both left right | .either left right | .row left right => left.deletes || right.deletes
  | _ => false

/-- How far a search goes. -/
structure Range where
  least : Nat
  most? : Option Nat
  /-- Whether what a directory holds comes before the directory. -/
  isDeepFirst : Bool
  /-- Whether links are followed, at all and where the search starts. -/
  followsAll : Bool
  followsStart : Bool

/-- What is left of the arguments, and the range as far as it is known. -/
structure Reading where
  arguments : List Text
  range : Range

/-- A step of reading; an error is what is said of the arguments. -/
abbrev Read (α : Type) := StateT Reading (Except Text) α

/-- Refuses the arguments. -/
def refuse {α : Type} (message : Text) : Read α :=
  throw message

/-- The next argument. -/
def look : Read (Option Text) := do
  return (← get).arguments.head?

/-- Goes on behind the next argument. -/
def skip : Read Unit :=
  modify fun r => { r with arguments := r.arguments.drop 1 }

/-- The argument of a condition. -/
def takeValue (name : Text) : Read Text := do
  match ← look with
  | some value =>
    skip
    return value
  | none => refuse ("missing argument to `".toList ++ name ++ ['\''])

/-- A number with a sign that says how it is compared. -/
def readSense (s : Text) : Sense × Text :=
  match s with
  | '+' :: rest => (.more, rest)
  | '-' :: rest => (.fewer, rest)
  | s => (.exactly, s)

/-- A number that an option takes. -/
def takeDepth (name : Text) : Read Nat := do
  let value ← takeValue name
  match natOf? value with
  | some n => return n
  | none =>
    refuse ("Expected a positive decimal integer argument to ".toList ++ name
      ++ ", but got ".toList ++ rawOf "‘" ++ value ++ rawOf "’")

/-- Changes the range. -/
def limit (change : Range → Range) : Read Expr := do
  modify fun r => { r with range := change r.range }
  return .always true

/-- The shape of a pattern, in lower case if case is of no matter. -/
def shapeOf (foldsCase : Bool) (pattern : Text) : List Shell.PatternItem :=
  let pattern := if foldsCase then pattern.map Char.toLower else pattern
  let rec glyphs : Text → List Shell.Glyph
    | '\\' :: c :: rest => ⟨c, true⟩ :: glyphs rest
    | c :: rest => ⟨c, false⟩ :: glyphs rest
    | [] => []
  Shell.itemsOf (glyphs pattern)

/-- The letters of kinds of files. -/
def readKinds : (mayGoOn : Bool) → Text → Except Text (List Char)
  | _, [] => .ok []
  | true, c :: rest =>
    if "bcdpflsD".toList.contains c then (readKinds false rest).map (c :: ·)
    else .error ("Unknown argument to -type: ".toList ++ [c])
  | false, ',' :: rest => readKinds true rest
  | false, _ :: _ => .error "Must separate multiple arguments to -type using: ','"

/-- A condition on the size. -/
def readSize (value : Text) : Except Text Expr :=
  let (sense, rest) := readSense value
  let digits := rest.takeWhile Char.isDigit
  let unit? : Option Nat := match rest.drop digits.length with
    | [] | ['b'] => some 512
    | ['c'] => some 1
    | ['w'] => some 2
    | ['k'] => some 1024
    | ['M'] => some (Nat.pow 1024 2)
    | ['G'] => some (Nat.pow 1024 3)
    | _ => none
  match natOf? digits, unit? with
  | some n, some unit => .ok (.size sense unit n)
  | _, _ => .error ("invalid -size type `".toList ++ (value.getLast?).toList ++ ['\''])

/-- A condition on the mode. -/
def readMode (value : Text) : Except Text Expr :=
  let (sense, rest) : ModeSense × Text := match value with
    | '-' :: rest => (.all, rest)
    | '/' :: rest => (.any, rest)
    | rest => (.exactly, rest)
  if !rest.isEmpty && rest.all isOctal then .ok (.mode sense (octalOf rest))
  else if ["u+x", "+x", "a+x", "u=x", "a=x"].contains (String.ofList rest) then
    .ok (.mode sense (if rest.head? = some 'u' then 0o100 else 0o111))
  else .error ("invalid mode ".toList ++ rawOf "‘" ++ value ++ rawOf "’")

/-- The command of an action, up to its end, and whether it takes all paths at once. -/
def readCommand (name : Text) : (taken : List Text) → List Text →
    Except Text ((Bool × List Text) × List Text)
  | _, [] => .error ("missing argument to `".toList ++ name ++ ['\''])
  | taken, [';'] :: rest => .ok ((false, taken.reverse), rest)
  | ['\x7b', '\x7d'] :: taken, ['+'] :: rest => .ok ((true, taken.reverse), rest)
  | taken, argument :: rest => readCommand name (argument :: taken) rest

/-- A condition, an action or an option, whose name has been taken. -/
def readNamed (name : Text) : Read Expr := do
  let pattern (isWhole foldsCase : Bool) : Read Expr := do
    return .named isWhole foldsCase (shapeOf foldsCase (← takeValue name))
  let regex (foldsCase : Bool) : Read Expr := do
    match Regex.read ⟨false, true, false⟩ (← takeValue name) with
    | .ok r => return .matching foldsCase r
    | .error fault => refuse fault.message
  let exec (inDirectory : Bool) : Read Expr := do
    let ((isAll, command), rest) ← readCommand name [] (← get).arguments
    modify fun r => { r with arguments := rest }
    return if !isAll then .exec inDirectory command
      else if inDirectory then .exec true (command ++ ["\x7b\x7d".toList])
      else .execAll command
  let age : Read Expr := do
    let value ← takeValue name
    let (sense, digits) := readSense value
    match natOf? digits with
    | some n => return .age sense n
    | none =>
      refuse ("invalid argument `".toList ++ value ++ "' to `".toList ++ name ++ ['\''])
  match String.ofList name with
  | "-true" => return .always true
  | "-false" => return .always false
  | "-name" => pattern false false
  | "-iname" => pattern false true
  | "-path" | "-wholename" => pattern true false
  | "-ipath" | "-iwholename" => pattern true true
  | "-regex" => regex false
  | "-iregex" => regex true
  | "-type" => return .ofKind (← readKinds true (← takeValue name))
  | "-empty" => return .empty
  | "-size" => do readSize (← takeValue name)
  | "-mtime" | "-atime" | "-ctime" | "-mmin" | "-amin" | "-cmin" => age
  | "-newer" | "-anewer" | "-cnewer" =>
    let _ ← takeValue name
    return .always false
  | "-perm" => do readMode (← takeValue name)
  | "-executable" => return .usable 'x'
  | "-readable" => return .usable 'r'
  | "-writable" => return .usable 'w'
  | "-print" => return .print '\n'
  | "-print0" => return .print '\x00'
  | "-printf" => return .printf (← takeValue name)
  | "-delete" => return .delete
  | "-exec" | "-ok" => exec false
  | "-execdir" | "-okdir" => exec true
  | "-prune" => return .prune
  | "-quit" => return .quit
  | "-maxdepth" =>
    let n ← takeDepth name
    limit ({ · with most? := some n })
  | "-mindepth" =>
    let n ← takeDepth name
    limit ({ · with least := n })
  | "-depth" | "-d" => limit ({ · with isDeepFirst := true })
  | "-follow" => limit ({ · with followsAll := true, followsStart := true })
  | "-mount" | "-xdev" | "-noleaf" | "-daystart" | "-warn" | "-nowarn" => return .always true
  | _ => refuse ("unknown predicate `".toList ++ name ++ ['\''])

/-- What is said of a sign that has nothing in front of it. -/
def nothingBefore (sign : Text) : Text :=
  "invalid expression; you have used a binary operator '".toList ++ sign
    ++ "' with nothing before it.".toList

/-- Whether an argument is a sign that joins expressions. -/
def joins (s : Text) : Bool :=
  ["-o", "-or", "-a", "-and", ","].contains (String.ofList s)

mutual

/-- A row of expressions. -/
def readRow (fuel : Nat) : Read Expr :=
  match fuel with
  | 0 => refuse []
  | fuel + 1 => do
    let first ← readEither fuel
    if (← look) = some [','] then
      skip
      return .row first (← readRow fuel)
    else return first
termination_by structural fuel

/-- Expressions of which one is enough. -/
def readEither (fuel : Nat) : Read Expr :=
  match fuel with
  | 0 => refuse []
  | fuel + 1 => do
    let first ← readBoth fuel
    match ← look with
    | some sign =>
      if sign = "-o".toList ∨ sign = "-or".toList then
        skip
        if (← look).isNone then refuse ("expected an expression after '".toList ++ sign ++ ['\''])
        return .either first (← readEither fuel)
      else return first
    | none => return first
termination_by structural fuel

/-- Expressions that hold together, with or without a sign between them. -/
def readBoth (fuel : Nat) : Read Expr :=
  match fuel with
  | 0 => refuse []
  | fuel + 1 => do
    let first ← readSingle fuel
    match ← look with
    | some sign =>
      if sign = "-a".toList ∨ sign = "-and".toList then
        skip
        if (← look).isNone then refuse ("expected an expression after '".toList ++ sign ++ ['\''])
        return .both first (← readBoth fuel)
      else if joins sign || sign == [')'] then return first
      else return .both first (← readBoth fuel)
    | none => return first
termination_by structural fuel

/-- A condition, an action, or an expression between parentheses, perhaps denied. -/
def readSingle (fuel : Nat) : Read Expr :=
  match fuel with
  | 0 => refuse []
  | fuel + 1 => do
    match ← look with
    | none => return .always true
    | some argument =>
      if joins argument then refuse (nothingBefore argument)
      skip
      if argument = ['!'] ∨ argument = "-not".toList then
        if (← look).isNone then
          refuse ("expected an expression after '".toList ++ argument ++ ['\''])
        return .negation (← readSingle fuel)
      else if argument = ['('] then
        if (← look) = some [')'] then
          refuse "invalid expression; empty parentheses are not allowed."
        let inner ← readRow fuel
        if (← look) = some [')'] then
          skip
          return inner
        else
          refuse "invalid expression; I was expecting to find a ')' somewhere but did not see one."
      else if argument = [')'] then refuse "you have too many ')'"
      else if argument.head? = some '-' then readNamed argument
      else refuse ("paths must precede expression: `".toList ++ argument ++ ['\''])
termination_by structural fuel

end

/-- The expression of some arguments, with its range. Without arguments everything is found. -/
def readExpression (range : Range) (arguments : List Text) : Except Text (Expr × Range) := do
  if arguments.isEmpty then return (.always true, range)
  else
    let (e, r) ← (readRow (4 * arguments.length + 8)).run ⟨arguments, range⟩
    match r.arguments with
    | [] => return (e, r.range)
    | _ => .error "you have too many ')'"

/-- Without fuel nothing is read. -/
theorem readRow_out : readRow 0 = refuse [] := by
  unfold readRow
  rfl

end Find

end Tool

end Virtual

end Oneshot
