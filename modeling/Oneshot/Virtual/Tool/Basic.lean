import Oneshot.Virtual.Process
import Oneshot.Virtual.Tool.Usage

/-!
# Tools

A tool is a program of the system: it gets arguments, acts on a process, and ends with a status.
Here is what tools have in common: how they complain, how they write names in messages, and how they
read their inputs and print.

- `inMessage_plain`: a name of plain letters stands for itself in a message.
-/

namespace Oneshot

namespace Virtual

/-- A program of the system. -/
abbrev Tool := List Text → Run Nat

namespace Tool

/-! ### Names in messages -/

/-- A character that may stand in a name between quotation marks. -/
def isMild (c : Char) : Bool :=
  c.isAlphanum || 0x7f < c.toNat || "#~ '%+,-./:]_@\x7b\x7d".toList.contains c

/-- A character that needs no quotes in a name. -/
def isPlain (c : Char) : Bool :=
  isMild c && c != ' ' && c != '\''

/-- The escape of a control character. -/
def controlEscape (c : Char) : Text :=
  '\\' :: match c with
    | '\x07' => ['a']
    | '\x08' => ['b']
    | '\t' => ['t']
    | '\n' => ['n']
    | '\x0b' => ['v']
    | '\x0c' => ['f']
    | '\r' => ['r']
    | c =>
      let digits := Nat.toDigits 8 c.toNat
      List.replicate (3 - digits.length) '0' ++ digits

/-- The pieces of a name between apostrophes. Control characters stand in quotes of their own. -/
def quotedPieces (isControl : Char → Bool) : (inEscape : Bool) → Text → Text
  | inEscape, [] => if inEscape then "''" else ['\'']
  | inEscape, c :: rest =>
    if isControl c then
      (if inEscape then [] else "'$'".toList) ++ controlEscape c
        ++ quotedPieces isControl true rest
    else
      let front : Text := if inEscape then "''" else []
      let piece : Text := if c = '\'' then "'\\''" else [c]
      match rest, inEscape with
      | [], true => front ++ piece ++ ['\'']
      | rest, _ => front ++ piece ++ quotedPieces isControl false rest

/-- Whether a character has no printed form. -/
def isUnprinted (c : Char) : Bool :=
  c < ' ' || c == '\x7f'

/-- A name between quotes, as a script could write it. -/
def quoted (name : Text) : Text :=
  if name.contains '\'' && name.all isMild then '"' :: name ++ ['"']
  else '\'' :: quotedPieces isUnprinted false name

/-- A name as it stands in a message: between quotes only if it needs them. -/
def inMessage (name : Text) : Text :=
  let startsOdd := name.head? == some '#' || name.head? == some '~'
  let isLone := name == ['\x7b'] || name == ['\x7d']
  if !name.isEmpty && name.all isPlain && !startsOdd && !isLone then name else quoted name

/-- Whether the environment asks for characters of more than one byte. -/
def isWide : Run Bool := do
  let p ← get
  let language := (["LC_ALL", "LC_CTYPE", "LANG"].filterMap fun v =>
    (p.valueOf? v.toList).filter (!·.isEmpty)).headD []
  return "UTF-8".toList.isSuffixOf language

/-- A name between the quotation marks of the language that the environment asks for. -/
def inMarks (name : Text) : Run Text := do
  let escaped := name.flatMap fun c => if isUnprinted c then controlEscape c else [c]
  return if ← isWide then rawOf "‘" ++ escaped ++ rawOf "’" else '\'' :: escaped ++ ['\'']

/-- The characters of a text of bytes, and the way back to bytes. -/
def charsOf (wide : Bool) (raw : Text) : Text × (Text → Text) :=
  match if wide then Utf8.decode (bytesOf raw) else .ok raw with
  | .ok s => if wide then (s, rawOf) else (raw, id)
  | .error _ => (raw, id)

/-- A name of plain letters stands for itself in a message. -/
theorem inMessage_plain {c : Char} {rest : Text} (hc : c.isAlphanum = true)
    (hr : ∀ d ∈ rest, isPlain d = true) : inMessage (c :: rest) = c :: rest := by
  have hplain : isPlain c = true := by
    have h1 : c ≠ ' ' := by rintro rfl; exact absurd hc (by decide)
    have h2 : c ≠ '\'' := by rintro rfl; exact absurd hc (by decide)
    simp [isPlain, isMild, hc, h1, h2]
  have h3 : c ≠ '#' := by rintro rfl; exact absurd hc (by decide)
  have h4 : c ≠ '~' := by rintro rfl; exact absurd hc (by decide)
  have h5 : c ≠ '\x7b' := by rintro rfl; exact absurd hc (by decide)
  have h6 : c ≠ '\x7d' := by rintro rfl; exact absurd hc (by decide)
  have hall : (c :: rest).all isPlain = true := by
    simpa [hplain] using hr
  simp [inMessage, hall, h3, h4, h5, h6]

/-! ### Complaints -/

/-- The tools that call themselves by their last names, wherever they stand. -/
def briefTools : List String :=
  ["awk", "rev", "setsid"]

/-- What a tool calls itself: the name under which it has been started. -/
def ownName (tool : String) : Run Text := do
  let name := (← get).calledAs
  if name.isEmpty then return tool.toList
  else if briefTools.contains tool then
    return ((Text.splitAt '/' name).getLast?).getD tool.toList
  else return name

/-- Prints a message of a tool. -/
def complain (tool : String) (message : Text) : Run Unit := do
  say 2 ((← ownName tool) ++ ": ".toList ++ message ++ ['\n'])

/-- Prints a message of a tool about a name. -/
def complainOf (tool : String) (name : Text) (cause : Errno) : Run Unit :=
  complain tool (inMessage name ++ ": ".toList ++ cause.wording)

/-- Prints where help can be found. -/
def pointToHelp (tool : String) : Run Unit := do
  say 2 ("Try '".toList ++ (← ownName tool) ++ " --help' for more information.\n".toList)

/-- Refuses arguments. -/
def refuseUsage (tool : String) (message : Text) (status : Nat) : Run Nat := do
  complain tool message
  pointToHelp tool
  return status

/-- Refuses arguments that lack an operand behind others. -/
def refuseMissing (tool : String) (operands : List Text) : Run Nat :=
  match operands.getLast? with
  | none => refuseUsage tool "missing operand" 1
  | some last => do refuseUsage tool ("missing operand after ".toList ++ (← inMarks last)) 1

/-- Refuses arguments of which one is too many. -/
def refuseExtra (tool : String) (operand : Text) : Run Nat := do
  refuseUsage tool ("extra operand ".toList ++ (← inMarks operand)) 1

/-- Reads the arguments of a tool, or ends with a status. -/
def withGiven (u : Usage) (failure : Nat) (body : Given → Run Nat) : Tool := fun arguments => do
  match u.read arguments with
  | .ok given => body given
  | .error message => refuseUsage u.tool message failure

/-! ### Input and output -/

/-- Prints the output of a tool and ends with a status, unless it cannot be printed. -/
def printing (tool : String) (text : Text) (status : Nat) : Run Nat := do
  if text.isEmpty then return status
  else
    match ← tell 1 text with
    | .ok () => return status
    | .error cause =>
      complain tool ("write error: ".toList ++ cause.wording)
      return max status 1

/-- The content of a file. -/
def readPath (path : Text) : Run (Except Errno Text) := do
  let p ← get
  match p.openPath path .read with
  | .error cause => return .error cause
  | .ok (file, q) =>
    set { p with system := q.system }
    return q.system.unread file

/-- The content of an operand: of a file, or of standard input for a hyphen. -/
def readOperand (operand : Text) : Run (Except Errno Text) :=
  if operand = ['-'] then readAll 0 else readPath operand

/-- The contents of some operands, with a complaint about each that cannot be read; and whether all
could be. -/
def readOperandsWith (complaint : Text → Errno → Run Unit) (operands : List Text) :
    Run (List (Text × Text) × Bool) := do
  let mut contents : List (Text × Text) := []
  let mut isWhole := true
  for operand in if operands.isEmpty then [['-']] else operands do
    match ← readOperand operand with
    | .ok text => contents := contents ++ [(operand, text)]
    | .error cause =>
      complaint operand cause
      isWhole := false
  return (contents, isWhole)

/-- The contents of some operands, with the usual complaint about each that cannot be read. -/
def readOperands (tool : String) (operands : List Text) : Run (List (Text × Text) × Bool) :=
  readOperandsWith (complainOf tool) operands

/-- The status of a tool that has done all it should, or not. -/
def statusFor (isWhole : Bool) : Nat :=
  if isWhole then 0 else 1

/-- Does something to each operand. The status is the worst. -/
def forEach (operands : List Text) (f : Text → Run Nat) : Run Nat :=
  operands.foldlM (fun status operand => return max status (← f operand)) 0

/-- A line with its line end. -/
def endedLine (line : Text) : Text :=
  if line.getLast? = some '\n' then line else line ++ ['\n']

/-- A number on the right of a field. -/
def rightAligned (width n : Nat) : Text :=
  let digits := Text.ofNat n
  List.replicate (width - digits.length) ' ' ++ digits

end Tool

end Virtual

end Oneshot
