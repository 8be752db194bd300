import Oneshot.Virtual.Shell.Fork

/-!
# Options and numbers of the shell's commands

The commands that a shell carries out itself read their options in the same way, and break off with
the same messages where they cannot be read.

- `splitOptions_operand`: options end at the first operand.
-/

namespace Oneshot

namespace Virtual

namespace Shell

/-- A command that the shell carries out itself. -/
abbrev Builtin := List Text → Step Unit

/-- The options of one argument, and how many arguments behind it they take. Those in `withValue`
take what stands behind them, or the next argument. -/
def optionsOf (plain withValue : Text) : Text → List Text →
    Except Text (List (Char × Text) × Nat)
  | [], _ => .ok ([], 0)
  | c :: rest, behind =>
    if withValue.contains c then
      if rest.isEmpty then
        match behind with
        | value :: _ => .ok ([(c, value)], 1)
        | [] => .error ("No arg for -".toList ++ c :: " option".toList)
      else .ok ([(c, rest)], 0)
    else if plain.contains c then
      (optionsOf plain withValue rest behind).map fun (options, taken) =>
        ((c, []) :: options, taken)
    else .error ("Illegal option -".toList ++ [c])

/-- The options in front of some arguments, and the operands behind them. -/
def splitOptions (plain withValue : Text) :
    (skip : Nat) → List Text → Except Text (List (Char × Text) × List Text)
  | _, [] => .ok ([], [])
  | skip + 1, _ :: rest => splitOptions plain withValue skip rest
  | 0, argument :: rest =>
    match argument with
    | ['-', '-'] => .ok ([], rest)
    | '-' :: c :: letters => do
      let (options, taken) ← optionsOf plain withValue (c :: letters) rest
      let (more, operands) ← splitOptions plain withValue taken rest
      return (options ++ more, operands)
    | _ => .ok ([], argument :: rest)

/-- The options of a command, and its operands. -/
def readOptions (plain withValue : Text) (arguments : List Text) :
    Step (List (Char × Text) × List Text) :=
  match splitOptions plain withValue 0 arguments with
  | .ok result => return result
  | .error message => abort message

/-- The number that an argument denotes, which a command needs. -/
def readCount (argument : Text) : Step Nat :=
  match natOf? argument with
  | some n =>
    if n < Nat.pow 2 31 then return n else abort ("Illegal number: ".toList ++ argument)
  | none => abort ("Illegal number: ".toList ++ argument)

/-- The number that the first argument denotes, or `default` without one. -/
def countOr (default : Nat) (arguments : List Text) : Step Nat :=
  match arguments with
  | [] => return default
  | argument :: _ => readCount argument

/-- Prints on a descriptor, and says whether that was possible. -/
def printsOn (descriptor : Nat) (text : Text) : Calm Bool := do
  let written ← inProcess (tell descriptor text)
  return written.isOk

/-- Prints the output of a command of the shell; the status says whether that was possible. -/
def printOut (text : Text) (status : Nat) : Step Unit := do
  if text.isEmpty then finish status
  else if ← printsOn 1 text then finish status
  else
    let command := (← get).command.getD []
    complain (command ++ ": I/O error".toList)
    finish (status ||| 1)

/-- A text between apostrophes, as the shell reads it; apostrophes in it stand between quotation
marks. It has at most `fuel` characters. -/
def quoteWithin : (fuel : Nat) → Text → Text
  | 0, _ => []
  | fuel + 1, s =>
    let plain := s.takeWhile (· != '\'')
    let rest := s.drop plain.length
    let marks := rest.takeWhile (· == '\'')
    let behind := rest.drop marks.length
    '\'' :: plain ++ ['\''] ++ (if marks.isEmpty then [] else '"' :: marks ++ ['"'])
      ++ (if behind.isEmpty then [] else quoteWithin fuel behind)

/-- A text between apostrophes, as the shell reads it. -/
def inApostrophes (s : Text) : Text :=
  quoteWithin (s.length + 1) s

/-- Options end at the first operand. -/
theorem splitOptions_operand (plain withValue : Text) {c : Char} {text : Text} (h : c ≠ '-')
    (rest : List Text) :
    splitOptions plain withValue 0 ((c :: text) :: rest) = .ok ([], (c :: text) :: rest) := by
  simp only [splitOptions]
  split <;> simp_all

end Shell

end Virtual

end Oneshot
