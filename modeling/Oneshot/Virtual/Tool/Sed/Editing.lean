import Oneshot.Virtual.Tool.Sed.Commands

/-!
# Editing lines

An editor takes one line after the other into its space, runs the commands of a script on it, and
prints what the space holds then. A second space holds what commands put aside.

- `splitLines_flatten`: the lines of a text with their ends make up the text.
- `hits_line`: a number is the address of the line that has it.
-/

namespace Oneshot

namespace Virtual

namespace Tool

namespace Sed

/-- A line, and whether its end is there. -/
structure Line where
  text : Text
  isEnded : Bool
deriving DecidableEq, Repr

/-- The lines of a text. -/
def splitLines (delimiter : Char) (s : Text) : List Line :=
  s.foldr (fun c lines =>
    if c = delimiter then ⟨[], true⟩ :: lines
    else
      match lines with
      | [] => [⟨[c], false⟩]
      | line :: rest => { line with text := c :: line.text } :: rest) []

/-- A line as it stands in a text. -/
def Line.whole (delimiter : Char) (l : Line) : Text :=
  if l.isEnded then l.text ++ [delimiter] else l.text

/-- Two lines as one, with an end between them. -/
def Line.joined (l : Line) (delimiter : Char) (next : Line) : Line :=
  ⟨l.text ++ delimiter :: next.text, next.isEnded⟩

/-- What has been printed somewhere, the last of it first, and whether its last line lacks its end.
-/
structure Sink where
  pieces : List Text
  lacksEnd : Bool

/-- All that has been printed. -/
def Sink.content (s : Sink) : Text :=
  s.pieces.reverse.flatten

/-- What is printed behind the space. -/
inductive Appendix where
  | text (text : Text)
  | file (path : Text)

/-- An editor at work. -/
structure Editor where
  /-- The name of the input, the lines that are left of it, and the inputs that follow. -/
  name : Text
  lines : List Line
  inputs : List (Text × List Line)
  number : Nat
  space : Line
  hold : Line
  /-- Whether something has been replaced since a line was read or a branch asked for that. -/
  isReplaced : Bool
  /-- The commands whose lines have begun and not ended, by their places, and the number of the last
  line where it is known. -/
  ranges : List (Nat × Option Nat)
  /-- The expression that was used last. -/
  pattern : Pattern
  queue : List Appendix
  output : Sink
  files : List (Text × Sink)
  /-- How many lines have been read of files that are read line by line. -/
  taken : List (Text × Nat)

/-- What stays the same while lines are edited. -/
structure Setting where
  script : Script
  isQuiet : Bool
  delimiter : Char
  /-- How long the lines are in which a space is shown. -/
  width : Nat
  /-- The bytes of a text. -/
  bytes : Text → Text
  /-- The content of a file, if it can be read. -/
  content? : Text → Option Text

/-- A step of editing. -/
abbrev Edit (α : Type) := StateM Editor α

/-! ### Printing -/

/-- Prints into a sink. -/
def Sink.add (s : Sink) (delimiter : Char) (text : Text) (isEnded : Bool) : Sink :=
  let front : Text := if s.lacksEnd then [delimiter] else []
  ⟨(front ++ text ++ if isEnded then [delimiter] else []) :: s.pieces, !isEnded⟩

/-- Prints a text as it is, behind a whole line. -/
def Sink.addText (s : Sink) (delimiter : Char) (text : Text) : Sink :=
  { s.add delimiter text false with lacksEnd := false }

/-- Prints a line. -/
def printLine (g : Setting) (text : Text) (isEnded : Bool) : Edit Unit :=
  modify fun e => { e with output := e.output.add g.delimiter (g.bytes text) isEnded }

/-- Prints a text as it is. -/
def printText (g : Setting) (text : Text) : Edit Unit :=
  modify fun e => { e with output := e.output.addText g.delimiter text }

/-- Prints the space. -/
def printSpace (g : Setting) : Edit Unit := do
  let e ← get
  printLine g e.space.text e.space.isEnded

/-- Prints a line into the file at a path. -/
def printInto (g : Setting) (path text : Text) (isEnded : Bool) : Edit Unit := do
  if path = "/dev/stdout".toList then
    let whole : Line := ⟨g.bytes text, isEnded⟩
    modify fun e => { e with output.pieces := whole.whole g.delimiter :: e.output.pieces }
  else
    modify fun e => { e with files := e.files.map fun (name, sink) =>
      (name, if name = path then sink.add g.delimiter (g.bytes text) isEnded else sink) }

/-- Prints what waits behind the space. -/
def printQueue (g : Setting) : Edit Unit := do
  let e ← get
  set { e with queue := [] }
  for appendix in e.queue do
    match appendix with
    | .text text => printText g (g.bytes text)
    | .file path => printText g ((g.content? path).getD [])

/-! ### Lines -/

/-- Whether no line is left. -/
def Editor.isAtEnd (e : Editor) : Bool :=
  e.lines.isEmpty && e.inputs.all (·.2.isEmpty)

/-- Goes on to the next input that has a line. -/
def nextInput (e : Editor) : List (Text × List Line) → Editor
  | [] => { e with lines := [], inputs := [] }
  | (name, lines) :: rest =>
    if lines.isEmpty then nextInput { e with name } rest
    else { e with name, lines, inputs := rest }

/-- Takes the next line, if there is one, and makes a space of it. -/
def takeLine (g : Setting) (join : Line → Line → Line) : Edit Bool := do
  printQueue g
  let e ← get
  let e := if e.lines.isEmpty then nextInput e e.inputs else e
  match e.lines with
  | [] => return false
  | line :: lines =>
    set { e with lines, number := e.number + 1, space := join e.space line, isReplaced := false }
    return true

/-! ### Lines that are meant -/

/-- The expression that a pattern means, which is the one that is used last from now on. -/
def resolve (pattern : Pattern) : Edit Pattern := do
  match pattern with
  | some p =>
    modify ({ · with pattern := some p })
    return some p
  | none => return (← get).pattern

/-- Whether an expression matches in the space. -/
def matchesSpace (pattern : Pattern) : Edit Bool := do
  match ← resolve pattern with
  | none => return false
  | some (regex, folds) => return (regex.find? folds (← get).space.text).isSome

/-- Whether an address is that of the line. -/
def hits (address : Address) : Edit Bool := do
  let e ← get
  match address with
  | .line number => return number == e.number
  | .last => return e.isAtEnd
  | .every first step => return first ≤ e.number && (e.number - first) % step == 0
  | .matching pattern => matchesSpace pattern

/-- Remembers that the lines of the command at a place have begun, or that they have ended. -/
def markRange (place : Nat) (range? : Option (Option Nat)) : Edit Unit :=
  modify fun e =>
    let others := e.ranges.filter (·.1 != place)
    { e with ranges := range?.elim others fun range => (place, range) :: others }

/-- Begins the lines of a command at the current one. -/
def beginRange (place : Nat) (reach : Reach) : Edit Unit := do
  let n := (← get).number
  match reach with
  | .upTo (.line stop) => if n < stop then markRange place (some (some stop))
  | .upTo _ => markRange place (some none)
  | .more count => if 0 < count then markRange place (some (some (n + count)))
  | .multipleOf count =>
    if 0 < count && n % count != 0 then
      markRange place (some (some (n + (count - n % count))))

/-- Whether a selection takes in the line for the command at a place, not regarding opposites. -/
def covers (place : Nat) (selection : Selection) : Edit Bool := do
  match selection.start?, selection.reach? with
  | none, _ => return true
  | some start, none => hits start
  | some start, some reach =>
    let e ← get
    match List.lookup place e.ranges with
    | none =>
      if ← hits start then
        beginRange place reach
        return true
      else return false
    | some (some stop) =>
      if stop ≤ e.number then markRange place none
      if e.number ≤ stop then return true
      else if ← hits start then
        beginRange place reach
        return true
      else return false
    | some none =>
      match reach with
      | .upTo address => if ← hits address then markRange place none
      | _ => pure ()
      return true

/-- Whether a command is meant for the line. -/
def selects (place : Nat) (selection : Selection) : Edit Bool := do
  return (← covers place selection) != selection.isOpposite

/-- The ranges that have begun in front of the first line. -/
def firstRanges (script : Script) : List (Nat × Option Nat) :=
  script.commands.zipIdx.filterMap fun (c, place) =>
    match c.selection.start? with
    | some (.line 0) => some (place, none)
    | _ => none

/-- The lines of a text with their ends make up the text. -/
theorem splitLines_flatten (delimiter : Char) (s : Text) :
    ((splitLines delimiter s).map (·.whole delimiter)).flatten = s := by
  induction s with
  | nil => rfl
  | cons c s ih =>
    simp only [splitLines, List.foldr_cons] at ih ⊢
    split
    · next h =>
      subst h
      simpa [Line.whole] using ih
    · split
      · next h =>
        rw [h] at ih
        simpa [Line.whole] using ih
      · next line rest h =>
        rw [h] at ih
        obtain ⟨text, isEnded⟩ := line
        cases isEnded <;> simpa [Line.whole] using ih

/-- A number is the address of the line that has it. -/
theorem hits_line (number : Nat) (e : Editor) :
    ((hits (.line number)).run e).1 = (number == e.number) := rfl

end Sed

end Tool

end Virtual

end Oneshot
