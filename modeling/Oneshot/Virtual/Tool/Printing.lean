import Oneshot.Virtual.Shell.Condition
import Oneshot.Virtual.Shell.Pattern
import Oneshot.Virtual.Shell.Printf
import Oneshot.Virtual.Tool.Basic

/-!
# Texts and conditions from tools

The tools that print their arguments and that decide conditions. They do what the commands of a
shell do that have the same names, with options and words of their own.

- `echo_plain`: arguments that are no options are printed with blanks between them.
-/

namespace Oneshot

namespace Virtual

namespace Tool

/-- Whether an argument is a row of options of the tool that prints its arguments. -/
def isEchoOption (s : Text) : Bool :=
  match s with
  | '-' :: c :: letters => (c :: letters).all ("neE".toList.contains ·)
  | _ => false

/-- The letters of the options in front of some arguments, and what is left. -/
def echoOptions : List Text → Text × List Text
  | [] => ([], [])
  | argument :: rest =>
    if isEchoOption argument then
      let (letters, rest) := echoOptions rest
      (argument.drop 1 ++ letters, rest)
    else ([], argument :: rest)

/-- The number of a hexadecimal digit. -/
def hexValue (c : Char) : Nat :=
  if c.isDigit then c.toNat - 48 else (c.toLower.toNat - 87)

/-- Whether a character is a hexadecimal digit. -/
def isHexDigit (c : Char) : Bool :=
  Shell.inNamedClass "xdigit".toList c

/-- A text with its escapes resolved, and whether printing goes on behind it. -/
def resolveEscapes : (fuel : Nat) → Text → Text × Bool
  | 0, s => (s, true)
  | _, [] => ([], true)
  | _ + 1, '\\' :: 'c' :: _ => ([], false)
  | fuel + 1, '\\' :: c :: rest =>
    let goOn (chars : Text) (rest : Text) : Text × Bool :=
      let (text, more) := resolveEscapes fuel rest
      (chars ++ text, more)
    if c = 'x' && (rest.head?).any isHexDigit then
      let digits := (rest.take 2).takeWhile isHexDigit
      goOn [Char.ofNat (digits.foldl (fun n d => 16 * n + hexValue d) 0)] (rest.drop digits.length)
    else if c = '0' then
      let digits := (rest.take 3).takeWhile isOctal
      goOn [Shell.octalByte digits] (rest.drop digits.length)
    else if isOctal c then
      let digits := ((c :: rest).take 3).takeWhile isOctal
      goOn [Shell.octalByte digits] ((c :: rest).drop digits.length)
    else
      match Shell.escapedChar? c with
      | some d => goOn [d] rest
      | none => goOn ['\\', c] rest
  | fuel + 1, c :: rest =>
    let (text, more) := resolveEscapes fuel rest
    (c :: text, more)

/-- Prints its arguments. -/
def echo : Tool := fun arguments =>
  let (letters, words) := echoOptions arguments
  let line := Text.join [' '] words
  let resolves := (letters.reverse.find? (· != 'n')) == some 'e'
  let (text, goesOn) := if resolves then resolveEscapes (line.length + 1) line else (line, true)
  printing "echo" (text ++ if goesOn && !letters.contains 'n' then ['\n'] else []) 0

/-- Arguments that are no options are printed with blanks between them. -/
theorem echo_plain {word : Text} {words : List Text} (h : isEchoOption word = false) :
    echo (word :: words) = printing "echo" (Text.join [' '] (word :: words) ++ ['\n']) 0 := by
  simp [echo, echoOptions, h]

/-- What the tool says of an argument that should be a number. -/
def numberMessage (w : Shell.Warning) : Run Text := do
  let cause : Text := match w.fault with
    | .noNumber => ": expected a numeric value"
    | .goesOn => ": value not completely converted"
    | .tooLarge => ": Numerical result out of range"
  return (← inMarks w.argument) ++ cause

/-- What the tool says of a format. -/
def formatMessage : Shell.FormatFault → Text
  | .noLetter => "%: invalid conversion specification"
  | .noConversion spelling => spelling ++ ": invalid conversion specification".toList

/-- Prints by a format. -/
def printf : Tool := fun arguments => do
  let arguments := if arguments.head? = some "--".toList then arguments.drop 1 else arguments
  match arguments with
  | [] => refuseUsage "printf" "missing operand" 1
  | format :: values =>
    let printed := Shell.printf format values
    for warning in printed.warnings do
      complain "printf" (← numberMessage warning)
    match printed.fault, printed.arguments with
    | some fault, _ => complain "printf" (formatMessage fault)
    | none, [] => pure ()
    | none, value :: _ =>
      complain "printf" ("warning: ignoring excess arguments, starting with ".toList
        ++ (← inMarks value))
    let status := if printed.warnings.isEmpty && printed.fault.isNone then 0 else 1
    printing "printf" printed.text.reverse status

/-- What the tool says of a condition that cannot be decided. -/
def conditionMessage : Shell.Condition.Fault → Run Text
  | .notNumber text => do return "invalid integer ".toList ++ (← inMarks text)
  | .unexpectedOperator text => do return "extra argument ".toList ++ (← inMarks text)
  | .argumentExpected operator => do return "missing argument after ".toList ++ (← inMarks operator)
  | .closeExpected => do return (← inMarks [')']) ++ " expected".toList

/-- Decides a condition. -/
def decideFor (tool : String) (arguments : List Text) : Run Nat := do
  match Shell.Condition.decide (← get) arguments with
  | .ok b => return statusFor b
  | .error fault =>
    complain tool (← conditionMessage fault)
    return 2

/-- Decides the condition that the arguments state. -/
def test : Tool := decideFor "test"

/-- Decides the condition that the arguments state in front of a bracket. -/
def bracket : Tool := fun arguments => do
  if arguments.getLast? = some [']'] then decideFor "[" arguments.dropLast
  else
    complain "[" ("missing ".toList ++ (← inMarks [']']))
    return 2

end Tool

end Virtual

end Oneshot
