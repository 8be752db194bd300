import Oneshot.Virtual.Tool.Sed.Reader

/-!
# How commands of the line editor are written

Each letter has a rule of its own for what stands behind it: nothing, a number, a text, the name of
a file or of a label, or texts between signs.

- `readScript_nil`: an empty text is the script without commands.
-/

namespace Oneshot

namespace Virtual

namespace Tool

namespace Sed

/-- A word that ends where a blank, a line or a command ends. -/
def readLabel : Read Text := do
  skipBlanks
  takeWhile fun c => !isSpace c && c != ';' && c != '\x7d'

/-- The path that fills the rest of a line. -/
def readFileName : Read Text := do
  skipBlanks
  let path ← takeWhile (· != '\n')
  skip
  if path.isEmpty then refuse "missing filename in r/R/w/W commands" else return path

/-- The text of a command up to a line end that no backslash hides. -/
def readLines : (fuel : Nat) → Read Text
  | 0 => return []
  | fuel + 1 => do
    match ← take with
    | none => return ['\n']
    | some '\n' => return ['\n']
    | some '\\' =>
      match ← take with
      | none => return ['\n']
      | some c => return (control? c).getD c :: (← readLines fuel)
    | some c => return c :: (← readLines fuel)

/-- The text of a command that adds one. -/
def readText : Read Text := do
  skipBlanks
  let fuel := (← get).rest.length + 1
  match ← look with
  | none => refuse "expected \\ after `a', `c' or `i'"
  | some '\\' =>
    skip
    let r ← get
    skipBlanks
    match ← look with
    | none => return []
    | some '\n' =>
      skip
      readLines fuel
    | some _ =>
      set r
      readLines fuel
  | some _ => readLines fuel

/-- What the flags of a substitution say. -/
structure Flags where
  folds : Bool
  isGlobal : Bool
  prints : Bool
  first? : Option Nat
  file? : Option Text

/-- Reads the flags of a substitution. -/
def readFlags : (fuel : Nat) → Flags → Read Flags
  | 0, flags => return flags
  | fuel + 1, flags => do
    match ← look with
    | none | some '\x7d' | some '#' => return flags
    | some c =>
      if c.isDigit then
        let n ← takeNumber
        if flags.first?.isSome then refuse "multiple number options to `s' command"
        else if n = 0 then refuse "number option to `s' command may not be zero"
        else readFlags fuel { flags with first? := some n }
      else
        skip
        match c with
        | '\n' | ';' => return flags
        | 'i' | 'I' => readFlags fuel { flags with folds := true }
        | 'm' | 'M' | ' ' | '\t' | '\r' | 'e' => readFlags fuel flags
        | 'g' =>
          if flags.isGlobal then refuse "multiple `g' options to `s' command"
          else readFlags fuel { flags with isGlobal := true }
        | 'p' =>
          if flags.prints then refuse "multiple `p' options to `s' command"
          else readFlags fuel { flags with prints := true }
        | 'w' => return { flags with file? := some (← readFileName) }
        | _ => refuse "unknown option to `s'"

/-- The texts on both sides of the middle one of three signs. -/
def readPair (letter : Char) (inRegex : Bool) : Read (Text × Text) := do
  let fault := "unterminated `".toList ++ letter :: "' command".toList
  match ← take with
  | none => refuse fault
  | some sign =>
    let fuel := (← get).rest.length + 1
    match ← readSign sign inRegex fuel [] with
    | none => refuse fault
    | some first =>
      match ← readSign sign false fuel [] with
      | none => refuse fault
      | some second => return (first, second)

/-- The largest number of a group that pieces name. -/
def lastGroup (pieces : List Piece) : Nat :=
  pieces.foldl (fun n piece =>
    match piece with
    | .group number => max n number
    | _ => n) 0

/-- A substitution. -/
def readSubstitution : Read Substitution := do
  let (before, after) ← readPair 's' true
  let flags ← readFlags ((← get).rest.length + 1) ⟨false, false, false, none, none⟩
  let pattern ← readPattern flags.folds before
  let pieces := readPieces (after.length + 1) after
  let count := pattern.elim 9 fun p => p.1.groupCount
  let last := lastGroup pieces
  if count < last then
    refuse ("invalid reference \\".toList ++ Text.ofNat last ++ " on `s' command's RHS".toList)
  else
    return ⟨pattern, pieces, flags.first?.getD 1, flags.isGlobal, flags.prints, flags.file?⟩

/-- The characters of a row that others take the places of. -/
def rowChars : Text → Text
  | '\\' :: c :: rest => (control? c).getD c :: rowChars rest
  | c :: rest => c :: rowChars rest
  | [] => []

/-- The characters that are exchanged, each with the one that takes its place. -/
def readExchange : Read (List (Char × Char)) := do
  let (before, after) ← readPair 'y' false
  let source := rowChars before
  let target := rowChars after
  if source.length ≠ target.length then
    refuse "strings for `y' command are different lengths"
  else
    endCommand
    return source.zip target

/-- What the command of a letter does that has nothing behind it. -/
def bareVerb? (letter : Char) : Option Verb :=
  match letter with
  | 'd' => some .delete
  | 'D' => some .deleteLine
  | 'p' => some .print
  | 'P' => some .printLine
  | 'n' => some .next
  | 'N' => some .append
  | 'h' => some .hold
  | 'H' => some .holdMore
  | 'g' => some .fetch
  | 'G' => some .fetchMore
  | 'x' => some .exchange
  | 'z' => some .clear
  | '=' => some .number
  | 'F' => some .name
  | _ => none

/-- A number behind a command, if there is one. -/
def readCount? : Read (Option Nat) := do
  skipBlanks
  let digits ← takeWhile Char.isDigit
  endCommand
  return natOf? digits

/-- The rest of a command whose letter has been taken. -/
def readVerb (selection : Selection) (letter : Char) : Read Verb := do
  match bareVerb? letter with
  | some verb =>
    endCommand
    return verb
  | none =>
    match letter with
    | '\x7b' =>
      modify fun r => { r with blocks := r.rest.length :: r.blocks }
      return .opens
    | '\x7d' =>
      let r ← get
      if r.blocks.isEmpty then refuse "unexpected `\x7d'"
      else if selection.start?.isSome then refuse "\x7d doesn't want any addresses"
      else
        set { r with blocks := r.blocks.drop 1 }
        endCommand
        return .closes
    | 'a' => return .addBehind (← readText)
    | 'i' => return .addBefore (← readText)
    | 'c' => return .change (← readText)
    | ':' =>
      if selection.start?.isSome then refuse ": doesn't want any addresses"
      let label ← readLabel
      if label.isEmpty then refuse "\":\" lacks a label"
      return .label label
    | 'b' => return .branch (← readLabel)
    | 't' => return .branchIf (← readLabel)
    | 'T' => return .branchUnless (← readLabel)
    | 'l' => return .list (← readCount?)
    | 'r' => return .readFile (← readFileName)
    | 'R' => return .readLine (← readFileName)
    | 'w' => return .write (← readFileName)
    | 'W' => return .writeLine (← readFileName)
    | 's' => return .substitute (← readSubstitution)
    | 'y' => return .exchangeChars (← readExchange)
    | 'v' =>
      let _ ← readLabel
      return .nothing
    | letter =>
      if letter = 'q' ∨ letter = 'Q' then
        if selection.reach?.isSome then refuse "command only uses one address"
        return .quit ((← readCount?).getD 0) (letter == 'Q')
      else refuse ("unknown command: `".toList ++ [letter, '\''])

/-- Whether a selection begins in front of the first line without waiting for an expression. -/
def beginsTooEarly (selection : Selection) : Bool :=
  match selection.start?, selection.reach? with
  | some (.line 0), some (.upTo (.matching _)) => false
  | some (.line 0), _ => true
  | _, _ => false

/-- A command. -/
def readCommand : Read Command := do
  let selection ← readSelection
  let letter? ← take
  if beginsTooEarly selection then refuse "invalid usage of line address 0"
  match letter? with
  | none => refuse "missing command"
  | some letter => return ⟨selection, ← readVerb selection letter⟩

/-- The commands of a text. -/
def readCommands : (fuel : Nat) → Read (List Command)
  | 0 => return []
  | fuel + 1 => do
    let _ ← takeWhile fun c => isSpace c || c == ';'
    match ← look with
    | none => return []
    | some '#' =>
      let _ ← takeWhile (· != '\n')
      readCommands fuel
    | some _ =>
      let command ← readCommand
      return command :: (← readCommands fuel)

/-- A part of a script, and the path of the file that holds it, if one does. -/
structure Part where
  path? : Option Text
  text : Text

/-- What is said of a fault in the part of a number; `left` is how much of it had not been read. -/
def faultMessage (parts : List Part) (number : Nat) (fault : Fault) : Text :=
  match parts[number]? with
  | none => fault.message
  | some part =>
    let count := part.text.length - fault.left
    let place := match part.path? with
      | some path =>
        let lines := ((part.text.take count).filter (· == '\n')).length
        "file ".toList ++ path ++ " line ".toList ++ Text.ofNat (lines + 1)
      | none =>
        let index := ((parts.take (number + 1)).filter (·.path?.isNone)).length
        "-e expression #".toList ++ Text.ofNat index ++ ", char ".toList ++ Text.ofNat count
    place ++ ": ".toList ++ fault.message

/-- The commands of some parts, of which the first has a number. A block may begin in one and end in
another; `blocks` are those that are open. -/
def readParts (isExtended : Bool) (parts : List Part) : (number : Nat) → (blocks : List Nat) →
    List Part → Except Text (List Command)
  | number, blocks, [] =>
    if blocks.isEmpty then .ok []
    else
      let last := number - 1
      let left := match parts[last]? with
        | some ⟨none, text⟩ => text.length
        | _ => blocks.headD 0
      .error (faultMessage parts last ⟨"unmatched `\x7b'", left⟩)
  | number, blocks, part :: rest =>
    match (readCommands (part.text.length + 1)).run ⟨part.text, isExtended, blocks⟩ with
    | .error fault => .error (faultMessage parts number fault)
    | .ok (commands, r) =>
      (readParts isExtended parts (number + 1) r.blocks rest).map (commands ++ ·)

/-- Whether a text says at its beginning that nothing is printed without being asked for. -/
def asksForQuiet (text : Text) : Bool :=
  "#n".toList.isPrefixOf text

/-- The script of some parts, or what is said of its fault and the status that remains of it. -/
def readScript (isExtended : Bool) (parts : List Part) : Except (Text × Nat) Script :=
  match readParts isExtended parts 0 [] parts with
  | .error message => .error (message, 1)
  | .ok commands =>
    let script : Script := ⟨commands, (parts.head?).any fun part => asksForQuiet part.text⟩
    match script.missingLabel? with
    | some label => .error ("can't find label for jump to `".toList ++ label ++ ['\''], 4)
    | none => .ok script

/-- An empty text is the script without commands. -/
theorem readScript_nil (isExtended : Bool) :
    (readScript isExtended [⟨none, []⟩]).map (·.commands.length) = .ok 0 := rfl

end Sed

end Tool

end Virtual

end Oneshot
