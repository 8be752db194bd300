import Oneshot.Virtual.Shell.Builtin.Basic
import Oneshot.Virtual.Shell.Condition
import Oneshot.Virtual.Shell.Printf
import Oneshot.Virtual.Shell.Search

/-!
# Texts, conditions and names

The commands that print texts, that decide conditions, and that tell what a name stands for.

- `aliasListing_nil`: without aliases nothing is listed.
-/

namespace Oneshot

namespace Virtual

namespace Shell

/-- Prints a text. -/
def printText : Builtin := fun arguments =>
  printOut (echo arguments) 0

/-- Prints by a format. -/
def printFormat : Builtin := fun arguments => do
  let (_, operands) ← readOptions [] [] arguments
  match operands with
  | [] => abort "usage: printf format [arg ...]"
  | format :: values =>
    let printed := printf format values
    printed.warnings.forM fun warning => complain warning.message
    match printed.fault with
    | none => printOut printed.text.reverse (if printed.warnings.isEmpty then 0 else 1)
    | some fault =>
      complain fault.message
      printOut printed.text.reverse 0
      finish 2

/-- Decides a condition. -/
def decideCondition (arguments : List Text) : Step Unit := do
  match Condition.decide (← get).toProcess arguments with
  | .ok true => finish 0
  | .ok false => finish 1
  | .error fault => abort fault.message

/-- Decides a condition that stands between brackets. -/
def decideBetweenBrackets : Builtin := fun arguments =>
  if arguments.getLast? = some [']'] then decideCondition arguments.dropLast
  else abort "missing ]"

/-! ### Aliases -/

/-- An alias as a script would set it. -/
def aliasText (name value : Text) : Text :=
  name ++ '=' :: inApostrophes value

/-- All aliases, in the order of their rows. -/
def aliasListing (aliases : List (Text × Text)) : Text :=
  (aliases.mergeSort fun a b => rowOf a.1 ≤ rowOf b.1).flatMap fun (name, value) =>
    aliasText name value ++ ['\n']

/-- Sets an alias. -/
def putAlias (name value : Text) : List (Text × Text) → List (Text × Text)
  | [] => [(name, value)]
  | (n, v) :: rest => if n = name then (n, value) :: rest else (n, v) :: putAlias name value rest

/-- Sets, shows or lists aliases. -/
def setAliases : Builtin := fun arguments => do
  if arguments.isEmpty then printOut (aliasListing (← get).aliases) 0
  else
    let mut shown : Text := []
    let mut status := 0
    for argument in arguments do
      let name := argument.takeWhile (· != '=')
      match name, argument.drop name.length with
      | _ :: _, _ :: value => modify fun s => { s with aliases := putAlias name value s.aliases }
      | _, _ =>
        match List.lookup argument (← get).aliases with
        | some value => shown := shown ++ aliasText argument value ++ ['\n']
        | none =>
          put 2 ("alias: ".toList ++ argument ++ " not found\n".toList)
          status := 1
    printOut shown status

/-- Removes aliases. -/
def removeAliases : Builtin := fun arguments => do
  let (options, names) ← readOptions "a" [] arguments
  if !options.isEmpty then
    modify ({ · with aliases := [] })
    finish 0
  else
    let mut status := 0
    for name in names do
      if (List.lookup name (← get).aliases).isNone then
        put 2 ("unalias: ".toList ++ name ++ " not found\n".toList)
        status := 1
      modify fun s => { s with aliases := s.aliases.filter (·.1 != name) }
    finish status

/-! ### Names -/

/-- The words that have a meaning of their own where a command begins. -/
def keywords : List String :=
  ["!", "case", "do", "done", "elif", "else", "esac", "fi", "for", "if", "in", "then", "until",
    "while", "\x7b", "\x7d"]

/-- What the shell knows of a name. -/
inductive Meaning where
  | keyword
  | alias (value : Text)
  | function
  | builtin (isSpecial : Bool)
  | program (path : Text)
  | unknown
deriving DecidableEq, Repr

/-- What a name stands for. `builtin?` says which names are commands of the shell, and which of them
are special. -/
def Interpreter.meaningOf (s : Interpreter) (builtin? : Text → Option Bool) (searchPath name : Text) :
    Meaning :=
  if keywords.contains (String.ofList name) then .keyword
  else
    match List.lookup name s.aliases with
    | some value => .alias value
    | none =>
      if name.contains '/' then
        match s.lookUp name with
        | .ok _ => .program name
        | .error _ => .unknown
      else
        match builtin? name with
        | some true => .builtin true
        | builtin? =>
          if s.functions.any (·.name == name) then .function
          else
            match builtin?, s.find searchPath name with
            | some isSpecial, _ => .builtin isSpecial
            | none, .ok path => .program path
            | none, .error _ => .unknown

/-- What is said about a name, in a sentence or in a word. -/
def Meaning.text (name : Text) (inSentence : Bool) (meaning : Meaning) : Text :=
  let sentence : Text := match meaning with
    | .keyword => " is a shell keyword"
    | .alias value => " is an alias for ".toList ++ value
    | .function => " is a shell function"
    | .builtin isSpecial => " is a ".toList ++ (if isSpecial then "special ".toList else [])
        ++ "shell builtin".toList
    | .program path => " is ".toList ++ path
    | .unknown => ": not found"
  let word : Text := match meaning with
    | .alias value => "alias ".toList ++ aliasText name value
    | .program path => path
    | .unknown => []
    | _ => name
  if inSentence then name ++ sentence ++ ['\n']
  else if meaning = .unknown then [] else word ++ ['\n']

/-- Tells what names stand for. -/
def describe (builtin? : Text → Option Bool) (inSentences : Bool) (searchPath : Text)
    (names : List Text) : Step Unit := do
  let s ← get
  let meanings := names.map fun name => (name, s.meaningOf builtin? searchPath name)
  printOut (meanings.flatMap fun (name, meaning) => meaning.text name inSentences)
    (if meanings.any fun m => m.2 == .unknown then 127 else 0)

/-- Forgets or checks where programs stand, which the shell looks up whenever it needs to know. -/
def hash : Builtin := fun arguments => do
  let (options, names) ← readOptions "rv" [] arguments
  finish 0
  if !options.any (·.1 == 'r') then
    for name in names do
      let s ← get
      match s.find s.searchPath name with
      | .ok _ => pure ()
      | .error cause =>
        complain (name ++ ": ".toList ++ startFault cause)
        finish 1

/-- Without aliases nothing is listed. -/
theorem aliasListing_nil : aliasListing [] = [] := by
  simp [aliasListing]

end Shell

end Virtual

end Oneshot
