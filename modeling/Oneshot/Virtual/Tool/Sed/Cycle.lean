import Oneshot.Virtual.Tool.Sed.Editing

/-!
# Running a script on lines

The commands of a script act on the space one after the other. At the end of the script the space is
printed, unless a command has said otherwise, and the next line is taken.

- `perform_nothing`: a command that does nothing leaves the editor as it is.
-/

namespace Oneshot

namespace Virtual

namespace Tool

namespace Sed

/-- Where a script goes on. -/
inductive Course where
  | at (place : Nat)
  /-- With the next line. -/
  | cycle (prints : Bool)
  /-- From its beginning with the space as it is. -/
  | again
  | quit (status : Nat) (prints : Bool)

/-- The text in which matches have been replaced. The matches in front of a number stay. -/
def replaceMatches (s : Substitution) (text : Text) (position count : Nat) : List Regex.Match → Text
  | [] => text.drop position
  | m :: rest =>
    if count + 1 < s.first then replaceMatches s text position (count + 1) rest
    else
      let front := (text.drop position).take (m.start - position)
      let behind :=
        if s.isGlobal then replaceMatches s text m.stop.position (count + 1) rest
        else text.drop m.stop.position
      front ++ render m .asIs .asIs s.pieces ++ behind

/-- Substitutes in the space. -/
def substitute (g : Setting) (s : Substitution) : Edit Unit := do
  match ← resolve s.pattern with
  | none => return
  | some (regex, folds) =>
    let e ← get
    let found := regex.allMatches folds e.space.text
    if s.first ≤ found.length then
      let text := replaceMatches s e.space.text 0 0 found
      set { e with space.text := text, isReplaced := true }
      if s.prints then printSpace g
      match s.file? with
      | some path => printInto g path text e.space.isEnded
      | none => return

/-- A byte as it is shown. -/
def shownByte (c : Char) : Text :=
  if c = '\\' then "\\\\"
  else if ' ' ≤ c ∧ c < '\x7f' then [c]
  else
    match c with
    | '\x07' => "\\a"
    | '\x08' => "\\b"
    | '\x0c' => "\\f"
    | '\n' => "\\n"
    | '\r' => "\\r"
    | '\t' => "\\t"
    | '\x0b' => "\\v"
    | c =>
      let digits := Nat.toDigits 8 c.toNat
      '\\' :: List.replicate (3 - digits.length) '0' ++ digits

/-- Shown bytes in lines that are at most `width` long. `count` is how long the line is so far. -/
def folded (width : Nat) : (count : Nat) → List Text → Text
  | _, [] => ['$']
  | count, shown :: rest =>
    if width < count + shown.length && 0 < width then
      "\\\n".toList ++ shown ++ folded width shown.length rest
    else shown ++ folded width (count + shown.length) rest

/-- The part of the space up to its first line end. -/
def firstLine (text : Text) : Text :=
  text.takeWhile (· != '\n')

/-- Carries out the command at a place. -/
def perform (g : Setting) (place : Nat) (verb : Verb) : Edit Course := do
  let e ← get
  let goOn : Course := .at (place + 1)
  let setSpace (text : Text) : Edit Course := do
    set { e with space.text := text }
    return goOn
  let branch (label : Text) : Course :=
    .at ((g.script.placeOf? label).getD g.script.commands.length)
  match verb with
  | .nothing | .opens | .closes | .label _ => return goOn
  | .delete => return .cycle false
  | .deleteLine =>
    if e.space.text.contains '\n' then
      set { e with space.text := e.space.text.drop ((firstLine e.space.text).length + 1) }
      return .again
    else return .cycle false
  | .print =>
    printSpace g
    return goOn
  | .printLine =>
    printLine g (firstLine e.space.text) (e.space.isEnded || e.space.text.contains '\n')
    return goOn
  | .next =>
    if e.isAtEnd then return .quit 0 true
    else
      if !g.isQuiet then printSpace g
      let _ ← takeLine g fun _ line => line
      return goOn
  | .append =>
    if e.isAtEnd then return .quit 0 true
    else
      let _ ← takeLine g fun space line => space.joined g.delimiter line
      return goOn
  | .hold =>
    set { e with hold := e.space }
    return goOn
  | .holdMore =>
    set { e with hold := e.hold.joined g.delimiter e.space }
    return goOn
  | .fetch =>
    set { e with space := e.hold }
    return goOn
  | .fetchMore =>
    set { e with space := e.space.joined g.delimiter e.hold }
    return goOn
  | .exchange =>
    set { e with space := e.hold, hold := e.space }
    return goOn
  | .clear => setSpace []
  | .number =>
    printText g (Text.ofNat e.number ++ ['\n'])
    return goOn
  | .name =>
    printText g (e.name ++ ['\n'])
    return goOn
  | .list width? =>
    let width := width?.getD g.width
    printText g (folded (width - 1) 0 ((g.bytes e.space.text).map shownByte) ++ ['\n'])
    return goOn
  | .quit status isSilent => return .quit status !isSilent
  | .addBehind text =>
    set { e with queue := e.queue ++ [Appendix.text text] }
    return goOn
  | .addBefore text =>
    printText g (g.bytes text)
    return goOn
  | .change text =>
    if (List.lookup place e.ranges).isNone then printText g (g.bytes text)
    return .cycle false
  | .readFile path =>
    set { e with queue := e.queue ++ [Appendix.file path] }
    return goOn
  | .readLine path =>
    let count := (List.lookup path e.taken).getD 0
    match (splitLines g.delimiter ((g.content? path).getD []))[count]? with
    | none => return goOn
    | some line =>
      set { e with
        queue := e.queue ++ [Appendix.text (line.whole g.delimiter)]
        taken := (path, count + 1) :: e.taken.filter (·.1 != path) }
      return goOn
  | .write path =>
    printInto g path e.space.text e.space.isEnded
    return goOn
  | .writeLine path =>
    printInto g path (firstLine e.space.text) true
    return goOn
  | .substitute s =>
    substitute g s
    return goOn
  | .exchangeChars pairs => setSpace (e.space.text.map fun c => (List.lookup c pairs).getD c)
  | .branch label => return branch label
  | .branchIf label =>
    set { e with isReplaced := false }
    return if e.isReplaced then branch label else goOn
  | .branchUnless label =>
    set { e with isReplaced := false }
    return if e.isReplaced then goOn else branch label

/-- Runs the script from a place on to the end of a cycle, with at most `fuel` commands. -/
def runFrom (g : Setting) : (fuel : Nat) → (place : Nat) → Edit Course
  | 0, _ => return .quit 4 false
  | fuel + 1, place => do
    match g.script.commands[place]? with
    | none => return .cycle true
    | some c =>
      if ← selects place c.selection then
        match ← perform g place c.verb with
        | .at place => runFrom g fuel place
        | course => return course
      else
        match c.verb with
        | .opens =>
          runFrom g fuel (Script.behindBlock 0 place (g.script.commands.drop place))
        | _ => runFrom g fuel (place + 1)

/-- How many commands are run for a line before the editor is taken for one that never ends. -/
def commandLimit : Nat := 1000000

/-- Runs the script for all lines. `isSpaceKept` says whether a line is already in the space. -/
def runCycles (g : Setting) : (fuel : Nat) → (isSpaceKept : Bool) → Edit (Option Nat)
  | 0, _ => return none
  | fuel + 1, isSpaceKept => do
    let isThere ← if isSpaceKept then pure true else takeLine g fun _ line => line
    if !isThere then return none
    else
      match ← runFrom g commandLimit 0 with
      | .cycle prints =>
        if prints && !g.isQuiet then printSpace g
        printQueue g
        runCycles g fuel false
      | .again | .at _ =>
        printQueue g
        runCycles g fuel true
      | .quit status prints =>
        if prints && !g.isQuiet then printSpace g
        printQueue g
        return some status

/-- Edits inputs. The status is there if the script has ended before them. -/
def edit (g : Setting) (files : List (Text × Sink)) (inputs : List (Text × List Line)) :
    Option Nat × Editor :=
  let start : Editor :=
    ⟨['-'], [], inputs, 0, ⟨[], true⟩, ⟨[], true⟩, false, firstRanges g.script, none, [],
      ⟨[], false⟩, files, []⟩
  (runCycles g commandLimit false).run start

/-- A command that does nothing leaves the editor as it is. -/
theorem perform_nothing (g : Setting) (place : Nat) (e : Editor) :
    (perform g place .nothing).run e = (.at (place + 1), e) := rfl

end Sed

end Tool

end Virtual

end Oneshot
