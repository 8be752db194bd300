import Oneshot.Virtual.Tool.Difference
import Oneshot.Virtual.Tool.Files

/-!
# Comparing files

The tools that tell whether files differ, at which byte, or in which lines.

- `firstDifference_self`: a text does not differ from itself.
-/

namespace Oneshot

namespace Virtual

namespace Tool

/-- Points to the help of a tool that names itself before it does so. -/
def refuseNamed (tool : String) (message : Text) : Run Nat := do
  complain tool message
  complain tool ("Try '".toList ++ (← ownName tool) ++ " --help' for more information.".toList)
  return 2

/-! ### Byte by byte -/

/-- The first place at which two texts differ: how many characters and how many line ends stand in
front of it, and the characters there, of which one may be missing. -/
def firstDifference? : (position lines : Nat) → Text → Text →
    Option (Nat × Nat × Option Char × Option Char)
  | _, _, [], [] => none
  | position, lines, a :: s, b :: t =>
    if a = b then firstDifference? (position + 1) (if a = '\n' then lines + 1 else lines) s t
    else some (position, lines, some a, some b)
  | position, lines, s, t => some (position, lines, s.head?, t.head?)

/-- A text does not differ from itself. -/
theorem firstDifference_self (s : Text) (position lines : Nat) :
    firstDifference? position lines s s = none := by
  induction s generalizing position lines with
  | nil => rfl
  | cons c s ih => simp [firstDifference?, ih]

/-- All places at which two texts differ, with the bytes there in octal. -/
def allDifferences (width : Nat) : (position : Nat) → Text → Text → Text
  | position, a :: s, b :: t =>
    let rest := allDifferences width (position + 1) s t
    let octal (c : Char) : Text :=
      let digits := Nat.toDigits 8 c.toNat
      List.replicate (3 - digits.length) ' ' ++ digits
    if a = b then rest
    else rightAligned width position ++ ' ' :: octal a ++ ' ' :: octal b ++ '\n' :: rest
  | _, _, _ => []

/-- What is said of a text that ends where it is the beginning of another one. -/
def endMessage (name text : Text) : Text :=
  let lines := (text.filter (· == '\n')).length
  let place : Text := if text.isEmpty then " which is empty"
    else if text.getLast? = some '\n' then
      " after byte ".toList ++ Text.ofNat text.length ++ ", line ".toList ++ Text.ofNat lines
    else " after byte ".toList ++ Text.ofNat text.length ++ ", in line ".toList
      ++ Text.ofNat (lines + 1)
  "EOF on ".toList ++ name ++ place

/-- Compares two files byte by byte. -/
def cmp : Tool := fun arguments => do
  let u : Usage := ⟨"cmp", "bi:ln:sv", [("print-bytes", 'b'), ("ignore-initial", 'i'),
    ("verbose", 'l'), ("bytes", 'n'), ("quiet", 's'), ("silent", 's')], false⟩
  match u.read arguments with
  | .error message => refuseNamed "cmp" message
  | .ok given =>
    match given.operands with
    | [] => refuseNamed "cmp" "missing operand after 'cmp'"
    | left :: rest =>
      if rest.isEmpty && given.options.isEmpty then
        refuseNamed "cmp" ("missing operand after '".toList ++ left ++ ['\''])
      else
        let right := rest.headD ['-']
        match ← readOperand left, ← readOperand right with
        | .error cause, _ => fail left cause
        | _, .error cause => fail right cause
        | .ok a, .ok b =>
          let most := (given.value? 'n').bind natOf?
          let cut (s : Text) : Text := most.elim s s.take
          compareTexts given left right (cut a) (cut b)
where
  /-- Complains of a file that cannot be read. -/
  fail (name : Text) (cause : Errno) : Run Nat := do
    complain "cmp" (name ++ ": ".toList ++ cause.wording)
    return 2
  /-- Prints how two texts differ. -/
  compareTexts (given : Given) (left right a b : Text) : Run Nat := do
    match firstDifference? 0 0 a b with
    | none => return 0
    | some (position, lines, some _, some _) =>
      if given.has 's' then return 1
      else if given.has 'l' then
        let width := (Text.ofNat (min a.length b.length)).length
        printing "cmp" (allDifferences width 1 a b) 1
      else
        printing "cmp" (left ++ ' ' :: right ++ " differ: byte ".toList ++ Text.ofNat (position + 1)
          ++ ", line ".toList ++ Text.ofNat (lines + 1) ++ ['\n']) 1
    | some (_, _, a?, _) =>
      if !given.has 's' then
        complain "cmp" (if a?.isNone then endMessage left a else endMessage right b)
      return 1

/-! ### Line by line -/

/-- The lines of a text, each with its line end. -/
def wholeLines : (line : Text) → Text → List Text
  | [], [] => []
  | line, [] => [line.reverse]
  | line, c :: rest =>
    if c = '\n' then (c :: line).reverse :: wholeLines [] rest else wholeLines (c :: line) rest

/-- What is compared of a line. -/
def comparedLine (given : Given) (line : Text) : Text :=
  let line := if given.has 'i' then line.map Char.toLower else line
  if given.has 'w' then line.filter (!isSpace ·)
  else if given.has 'b' then Text.join [' '] ((Text.splitAt ' ' (line.map fun c =>
    if isSpace c then ' ' else c)).filter (!·.isEmpty))
  else line

/-- The name of a file in the head of a section. -/
def headName (labels : List Text) (index : Nat) (path : Text) : Text :=
  (labels[index]?).getD (path ++ "\t1970-01-01 00:00:00.000000000 +0000".toList)

/-- Prints how two texts differ, and tells whether they do. `head` stands in front of what is
printed. -/
def compareLines (given : Given) (head left right a b : Text) : Run Nat := do
  let changes := Difference.changes (comparedLine given) (wholeLines [] a) (wholeLines [] b)
  let isBinary := a != b && (a.contains '\x00' || b.contains '\x00')
  if changes.isEmpty || a == b then
    if given.has 's' then
      printing "diff" ("Files ".toList ++ left ++ " and ".toList ++ right
        ++ " are identical\n".toList) 0
    else return 0
  else if given.has 'q' || isBinary && !given.has 'a' then
    let kind : Text := if given.has 'q' then "Files " else "Binary files "
    printing "diff" (kind ++ left ++ " and ".toList ++ right ++ " differ\n".toList)
      (if given.has 'q' then 1 else 2)
  else
    let context? := if given.has 'U' then (given.value? 'U').bind natOf?
      else if given.has 'u' then some 3 else none
    match context? with
    | none => printing "diff" (head ++ changes.flatMap (·.plain)) 1
    | some context =>
      let labels := given.values 'L'
      let names := "--- ".toList ++ headName labels 0 left ++ "\n+++ ".toList
        ++ headName labels 1 right ++ ['\n']
      let sections := (Difference.clusters context changes).flatMap
        (Difference.unified context (wholeLines [] a))
      printing "diff" (head ++ names ++ sections) 1

/-- The names in a directory, in the order of their bytes. -/
def namesAt (p : Process) (path : Text) : List Text :=
  match p.lookUp path with
  | .ok (place, .directory _) => inOrder ((p.system.tree.namesIn place).map rawOf)
  | _ => []

/-- Compares two files or directories, at most `fuel` directories deep. `options` is the command as
it is repeated in front of files of directories, and `isInside` tells whether these are such. -/
def comparePaths (given : Given) (options : Text) : (fuel : Nat) → (isInside : Bool) →
    (left right : Text) → Run Nat
  | 0, _, _, _ => return 2
  | fuel + 1, isInside, left, right => do
    let p ← get
    match p.isDirectory left, p.isDirectory right with
    | true, true =>
      if isInside && !given.has 'r' then
        printing "diff" ("Common subdirectories: ".toList ++ left ++ " and ".toList ++ right
          ++ ['\n']) 0
      else
        let old := namesAt p left
        let new := namesAt p right
        let all := inOrder (old ++ new.filter (!old.contains ·))
        all.foldlM (fun status name => do
          let only (directory : Text) : Run Nat :=
            printing "diff" ("Only in ".toList ++ directory ++ ": ".toList ++ name ++ ['\n']) 1
          let next ← if given.has 'N' || old.contains name && new.contains name then
              comparePaths given options fuel true (below left name) (below right name)
            else if old.contains name then only left
            else only right
          return max status next) 0
    | true, false =>
      if isInside then kinds left "directory" right "regular file"
      else comparePaths given options fuel false (below left (baseName right)) right
    | false, true =>
      if isInside then kinds left "regular file" right "directory"
      else comparePaths given options fuel false left (below right (baseName left))
    | false, false =>
      let read (path : Text) : Run (Except Errno Text) := do
        match ← readOperand path with
        | .error .noEntry => return if given.has 'N' then .ok [] else .error .noEntry
        | result => return result
      let a ← read left
      let b ← read right
      for (path, result) in [(left, a), (right, b)] do
        if let .error cause := result then
          complain "diff" (path ++ ": ".toList ++ cause.wording)
      match a, b with
      | .ok a, .ok b =>
        let head := if isInside then
            "diff ".toList ++ options ++ left ++ ' ' :: right ++ ['\n']
          else []
        compareLines given head left right a b
      | _, _ => return 2
where
  /-- Prints that two files are not of the same kind. -/
  kinds (left leftKind right rightKind : Text) : Run Nat :=
    printing "diff" ("File ".toList ++ left ++ " is a ".toList ++ leftKind ++ " while file ".toList
      ++ right ++ " is a ".toList ++ rightKind ++ ['\n']) 1

/-- Compares files or directories line by line. -/
def diff : Tool := fun arguments => do
  let u : Usage := ⟨"diff", "abBiNqrsuU:wL:", [("text", 'a'), ("ignore-space-change", 'b'),
    ("ignore-case", 'i'), ("new-file", 'N'), ("brief", 'q'), ("recursive", 'r'),
    ("report-identical-files", 's'), ("unified", 'u'), ("ignore-all-space", 'w'), ("label", 'L')],
    false⟩
  match u.read arguments with
  | .error message => refuseNamed "diff" message
  | .ok given =>
    match given.operands with
    | [left, right] =>
      let options := (arguments.filter fun s => s.head? == some '-' && 1 < s.length).flatMap
        (· ++ [' '])
      comparePaths given options 100 false left right
    | _ :: _ :: extra :: _ => refuseNamed "diff" ("extra operand '".toList ++ extra ++ ['\''])
    | [left] => refuseNamed "diff" ("missing operand after '".toList ++ left ++ ['\''])
    | [] => refuseNamed "diff" "missing operand after 'diff'"

end Tool

end Virtual

end Oneshot
