import Oneshot.Virtual.Regex.Reader
import Oneshot.Virtual.Tool.Lines

/-!
# Searching

The tool that prints the lines of its inputs in which a pattern matches.

- `selects_not`: a line is selected by a search or by its opposite.
-/

namespace Oneshot

namespace Virtual

namespace Tool

namespace Grep

/-- How lines are searched. -/
structure Search where
  pattern : Regex
  folds : Bool
  /-- Whether a match has to be a word. -/
  inWords : Bool
  /-- Whether a match has to be the line. -/
  isWhole : Bool
  isOpposite : Bool

/-- Whether a match stands between the edges of words. -/
def isWord (start stop : Regex.Spot) : Bool :=
  !start.isBehindWord && !stop.isBeforeWord

/-- The first match from a spot on that counts. -/
def Search.findFrom (s : Search) : (fuel : Nat) → Regex.Spot → Option Regex.Match
  | 0, _ => none
  | fuel + 1, spot =>
    let stops := s.pattern.ends s.folds { spot with groups := [] }
    let good := stops.find? fun (stop : Regex.Spot) =>
      (!s.inWords || isWord spot stop) && (!s.isWhole || spot.front.isEmpty && stop.rest.isEmpty)
    match good with
    | some stop => some ⟨spot.position, stop⟩
    | none => if spot.rest.isEmpty then none else Search.findFrom s fuel spot.next

/-- The texts of all matches in a line that are not empty. -/
def Search.parts (s : Search) : (fuel : Nat) → Regex.Spot → List Text
  | 0, _ => []
  | fuel + 1, spot =>
    match s.findFrom (spot.rest.length + 1) spot with
    | none => []
    | some m =>
      if m.text.isEmpty then
        if m.stop.rest.isEmpty then [] else Search.parts s fuel m.stop.next
      else m.text :: Search.parts s fuel m.stop

/-- Whether a line is selected. -/
def Search.selects (s : Search) (line : Text) : Bool :=
  (s.findFrom (line.length + 1) (.start line)).isSome != s.isOpposite

/-- How a pattern is written. -/
inductive Style where
  | basic
  | extended
  /-- It stands for itself. -/
  | fixed
deriving DecidableEq, Repr

/-- The expression of patterns that stand on lines of their own. -/
def readPatterns (style : Style) (patterns : Text) : Except Regex.Fault Regex := do
  let read (pattern : Text) : Except Regex.Fault Regex :=
    if style = .fixed then .ok (Regex.joinParts (pattern.reverse.map .char))
    else Regex.read ⟨style == .extended, style == .extended, false⟩ pattern
  match ← (Text.splitAt '\n' patterns).mapM read with
  | [] => return .empty
  | r :: rest => return rest.foldl .either r

/-- A line of an input: its number, whether it is selected, and whether it is shown. -/
structure Shown where
  number : Nat
  isSelected : Bool
  line : Text

/-- The lines that are shown, with some in front of and behind those that are selected. -/
def withContext (before after : Nat) (lines : List Shown) : List Shown :=
  let selected := (lines.filter (·.isSelected)).map (·.number)
  lines.filter fun l =>
    selected.any fun n => l.number ≤ n + after && n ≤ l.number + before

/-- What is printed for the lines of an input; `front` stands in front of each. -/
def render (given : Given) (s : Search) (back : Text → Text) (hasContext : Bool) (name : Text) :
    (previous? : Option Nat) → List Shown → Text
  | _, [] => []
  | previous?, l :: rest =>
    let separator := if l.isSelected then ':' else '-'
    let front := (if name.isEmpty then [] else name ++ [separator])
      ++ if given.has 'n' then Text.ofNat l.number ++ [separator] else []
    let gap := if hasContext && previous?.any (· + 1 < l.number) then "--\n".toList else []
    let body :=
      if given.has 'o' then
        if l.isSelected && !s.isOpposite then
          (s.parts (l.line.length + 1) (.start l.line)).flatMap fun part =>
            front ++ back part ++ ['\n']
        else []
      else front ++ back l.line ++ ['\n']
    gap ++ body ++ render given s back hasContext name (some l.number) rest

/-- The files at and below an operand, with the names under which they are searched. -/
def filesBelow (p : Process) (path : Text) : List Text :=
  match p.lookUp path with
  | .ok (place, .directory _) =>
    (p.system.tree.entries.filter fun e =>
      Tree.isWithin e.1 place && !e.2.isDirectory && e.1 != place).map fun e =>
        let rest := rawOf (Text.join ['/'] (e.1.drop place.length))
        Text.dropEndWhile (· == '/') path ++ '/' :: rest
  | _ => [path]

/-- Whether a name is among those that are searched. -/
def isIncluded (given : Given) (path : Text) : Bool :=
  let name := (Text.splitAt '/' path).getLast?.getD []
  let hits (pattern : Text) : Bool :=
    Shell.matchesItems (Shell.itemsOf (pattern.map fun c => ⟨c, false⟩)) name
  let includes := given.values '+'
  (includes.isEmpty || includes.any hits) && !(given.values '~').any hits

/-- Prints how the tool is used. -/
def refuse : Run Nat := do
  say 2 "Usage: grep [OPTION]... PATTERNS [FILE]...\n"
  say 2 "Try 'grep --help' for more information.\n"
  return 2

/-- What the tool is called and which options it takes. -/
def usage : Usage :=
  ⟨"grep", "EFGPivclLnoqswxe:f:m:hHrRA:B:C:baIUzd:D:+:~:*::", [("extended-regexp", 'E'),
    ("fixed-strings", 'F'), ("basic-regexp", 'G'), ("ignore-case", 'i'), ("invert-match", 'v'),
    ("count", 'c'), ("files-with-matches", 'l'), ("files-without-match", 'L'),
    ("line-number", 'n'), ("only-matching", 'o'), ("quiet", 'q'), ("silent", 'q'),
    ("no-messages", 's'), ("word-regexp", 'w'), ("line-regexp", 'x'), ("regexp", 'e'),
    ("file", 'f'), ("max-count", 'm'), ("no-filename", 'h'), ("with-filename", 'H'),
    ("recursive", 'r'), ("after-context", 'A'), ("before-context", 'B'), ("context", 'C'),
    ("text", 'a'), ("include", '+'), ("exclude", '~'), ("color", '*'), ("colour", '*')], false⟩

/-- The patterns of a call, and the operands that are left. -/
def patternsOf (given : Given) : Run (Option (Text × List Text)) := do
  let fromFiles ← (given.values 'f').mapM fun path => do
    return Text.dropEnd ['\n'] ((← readOperand path).toOption.getD [])
  let written := given.values 'e' ++ fromFiles
  if !written.isEmpty then return some (Text.join ['\n'] written, given.operands)
  else
    match given.operands with
    | [] => return none
    | pattern :: operands => return some (pattern, operands)

/-- What a search has found so far: what is printed, whether anything was selected, and whether
anything went wrong. -/
structure Findings where
  text : Text
  isFound : Bool
  isFaulty : Bool

/-- Searches one input. -/
def searchInput (given : Given) (s : Search) (wide hasNames : Bool) (operand content : Text)
    (found : Findings) : Run Findings := do
  let name : Text := if operand = ['-'] then "(standard input)" else operand
  let (chars, back) := charsOf wide content
  let isBinary := !given.has 'a' && (content.contains '\x00'
    || wide && (Utf8.decode (bytesOf content)).isOk == false)
  let lines : List Shown := (plainLines chars).zipIdx.map fun (line, i) =>
    ⟨i + 1, s.selects line, line⟩
  let most? := (given.value? 'm').map natOf
  let chosen := lines.filter (·.isSelected)
  let count := most?.elim chosen.length (min chosen.length)
  let last := if count < chosen.length then (chosen[count - 1]?).elim 0 (·.number) else lines.length
  let lines :=
    if most?.isSome then lines.filter fun l => l.number ≤ last || !l.isSelected else lines
  let number (letter : Char) : Nat :=
    ((given.value? letter).orElse fun _ => given.value? 'C').elim 0 natOf
  let hasContext := given.has 'A' || given.has 'B' || given.has 'C'
  let isFound := found.isFound || 0 < count
  let add (text : Text) : Findings := { found with text := found.text ++ text, isFound }
  let front := if hasNames then name ++ [':'] else []
  if given.has 'q' then return add []
  else if given.has 'l' then return add (if 0 < count then name ++ ['\n'] else [])
  else if given.has 'L' then return add (if count = 0 then name ++ ['\n'] else [])
  else if given.has 'c' then return add (front ++ Text.ofNat count ++ ['\n'])
  else if isBinary && 0 < count then
    complain "grep" (name ++ ": binary file matches".toList)
    return add []
  else if count = 0 then return add []
  else
    let shown := withContext (number 'B') (number 'A') lines
    let shown := if most?.isSome then shown.filter (·.number ≤ last + number 'A') else shown
    let gap := if hasContext && !found.text.isEmpty then "--\n".toList else []
    return add (gap ++ render given s back hasContext (if hasNames then name else []) none shown)

/-- Searches the inputs of a call. -/
def search (given : Given) (s : Search) (operands : List Text) : Run Nat := do
  let isDeep := given.has 'r' || given.has 'R'
  let operands := if operands.isEmpty then if isDeep then [['.']] else [['-']] else operands
  let p ← get
  let files := if isDeep then
      operands.flatMap fun o => (filesBelow p o).filter (isIncluded given)
    else operands
  let files := if isDeep && given.operands.length ≤ 1 && operands = [['.']] then
      files.map fun f => if "./".toList.isPrefixOf f then f.drop 2 else f
    else files
  let hasNames := match given.last? "hH" with
    | some 'h' => false
    | some _ => true
    | none => 1 < operands.length || isDeep
  let wide ← isWide
  let mut found : Findings := ⟨[], false, false⟩
  for operand in files do
    match ← readOperand operand with
    | .error cause =>
      if !given.has 's' then complain "grep" (operand ++ ": ".toList ++ cause.wording)
      found := { found with isFaulty := true }
    | .ok content => found ← searchInput given s wide hasNames operand content found
  let status := if found.isFound && (!found.isFaulty || given.has 'q') then 0
    else if found.isFaulty then 2 else 1
  printing "grep" found.text status

/-- Prints the lines in which patterns match. -/
def run (style? : Option Style) : Tool := fun arguments => do
  if style?.isSome then modify ({ · with calledAs := "grep" })
  match usage.read arguments with
  | .error message =>
    complain "grep" message
    refuse
  | .ok given =>
    match ← patternsOf given with
    | none => refuse
    | some (patterns, operands) =>
      let style := match given.last? "EFGP" with
        | some 'E' | some 'P' => .extended
        | some 'F' => .fixed
        | some _ => .basic
        | none => style?.getD .basic
      match readPatterns style (charsOf (← isWide) patterns).1 with
      | .error fault =>
        complain "grep" fault.message
        return 2
      | .ok pattern =>
        let s : Search := ⟨pattern, given.has 'i', given.has 'w', given.has 'x', given.has 'v'⟩
        search given s operands

/-- A line is selected by a search or by its opposite. -/
theorem selects_not (s : Search) (line : Text) (h : s.isOpposite = false) :
    Search.selects { s with isOpposite := true } line = !s.selects line := by
  have hf : ∀ (fuel : Nat) (spot : Regex.Spot),
      Search.findFrom { s with isOpposite := true } fuel spot = s.findFrom fuel spot := by
    intro fuel
    induction fuel with
    | zero => intro spot; rfl
    | succ fuel ih => intro spot; simp only [Search.findFrom, ih]
  simp [Search.selects, hf, h]

end Grep

end Tool

end Virtual

end Oneshot
