import Oneshot.Virtual.Tool.Basic

/-!
# Lines

The tools that pass on lines, or some of them, and that count and number them.

- `firstLines_zero`: without any lines there is no text.
-/

namespace Oneshot

namespace Virtual

namespace Tool

/-! ### Passing on -/

/-- A character that makes itself seen: control characters and bytes beyond the letters in signs. -/
def visible (c : Char) : Text :=
  let low (n : Nat) : Text :=
    if n < 32 then ['^', Char.ofNat (n + 64)] else if n = 127 then "^?" else [Char.ofNat n]
  if c = '\n' || c = '\t' then [c]
  else if c.toNat < 128 then low c.toNat
  else "M-".toList ++ low (c.toNat - 128)

/-- Text with numbers in front of its lines, of which the first is `n`. -/
def numbered (isMeant : Text → Bool) : (n : Nat) → List Text → List Text
  | _, [] => []
  | n, line :: rest =>
    if isMeant line then (rightAligned 6 n ++ '\t' :: line) :: numbered isMeant (n + 1) rest
    else line :: numbered isMeant n rest

/-- Lines of which no two empty ones follow each other. -/
def squeezed : List Text → List Text
  | ['\n'] :: ['\n'] :: rest => squeezed (['\n'] :: rest)
  | line :: rest => line :: squeezed rest
  | [] => []
termination_by lines => lines.length

/-- Text as the options of the printing tool ask for it. -/
def decorated (given : Given) (text : Text) : Text :=
  let asks (letters : String) : Bool := letters.toList.any given.has
  let lines := rawLines text
  let lines := if given.has 's' then squeezed lines else lines
  let lines := lines.map fun line =>
    let seen := if asks "vAet" then line.flatMap visible else line
    let tabs := if asks "TAt" then seen.flatMap fun c => if c = '\t' then "^I" else [c] else seen
    if asks "EAe" && tabs.getLast? = some '\n' then tabs.dropLast ++ "$\n".toList else tabs
  let lines :=
    if given.has 'b' then numbered (fun line => line != ['\n'] && line != "$\n".toList) 1 lines
    else if given.has 'n' then numbered (fun _ => true) 1 lines
    else lines
  lines.flatten

/-- Prints files one after the other. -/
def cat : Tool :=
  withGiven ⟨"cat", "nbsvETAetu", [("number", 'n'), ("number-nonblank", 'b'),
    ("squeeze-blank", 's'), ("show-ends", 'E'), ("show-tabs", 'T'), ("show-all", 'A'),
    ("show-nonprinting", 'v')], false⟩ 1 fun given => do
    let operands := if given.operands.isEmpty then [['-']] else given.operands
    if given.options.isEmpty then
      forEach operands fun operand => do
        match ← readOperand operand with
        | .ok text => printing "cat" text 0
        | .error cause =>
          complainOf "cat" operand cause
          return 1
    else
      let (contents, isWhole) ← readOperands "cat" operands
      printing "cat" (decorated given (contents.flatMap (·.2))) (statusFor isWhole)

/-- Prints the lines of files, the last first. -/
def tac : Tool :=
  withGiven ⟨"tac", "brs:", [], false⟩ 1 fun given => do
    let (contents, isWhole) ← readOperands "tac" given.operands
    printing "tac" (contents.flatMap fun c => (rawLines c.2).reverse.flatten) (statusFor isWhole)

/-- Prints the lines of files with their numbers. -/
def nl : Tool :=
  withGiven ⟨"nl", "b:w:s:v:i:n:hfp", [("body-numbering", 'b'), ("number-width", 'w'),
    ("number-separator", 's')], false⟩ 1 fun given => do
    let (contents, isWhole) ← readOperands "nl" given.operands
    let width := (given.value? 'w').elim 6 natOf
    let separator := (given.value? 's').getD ['\t']
    let all := given.value? 'b' = some ['a']
    let start := (given.value? 'v').elim 1 natOf
    let blanks : Text := List.replicate (width + separator.length) ' '
    let (text, _) := (rawLines (contents.flatMap (·.2))).foldl (fun (text, n) line =>
      if all || line != ['\n'] then
        (text ++ rightAligned width n ++ separator ++ endedLine line, n + 1)
      else (text ++ blanks ++ ['\n'], n)) (([] : Text), start)
    printing "nl" text (statusFor isWhole)

/-- Copies the input to files and to the output. -/
def tee : Tool :=
  withGiven ⟨"tee", "aip", [("append", 'a')], false⟩ 1 fun given => do
    let text ← readAll 0
    let text := text.toOption.getD []
    let status ← forEach given.operands fun path => do
      let p ← get
      match p.openPath path (if given.has 'a' then .append else .replace) with
      | .error cause =>
        complainOf "tee" path cause
        return 1
      | .ok (file, q) =>
        match q.system.write file text with
        | .ok system =>
          set { p with system }
          return 0
        | .error cause =>
          complainOf "tee" path cause
          return 1
    printing "tee" text status

/-! ### Beginnings and ends -/

/-- The beginning of a text with some line ends. -/
def firstLines : (count : Nat) → Text → Text
  | 0, _ => []
  | _, [] => []
  | count + 1, c :: s => c :: firstLines (if c = '\n' then count else count + 1) s
termination_by structural _ s => s

/-- How many bytes or lines are asked for. -/
structure Amount where
  count : Nat
  inLines : Bool
  /-- Whether the count is one of those to leave out. -/
  isReversed : Bool

/-- The number that digits with a suffix denote. -/
def scaledNumber? (s : Text) : Option Nat :=
  let digits := s.takeWhile Char.isDigit
  let factor? : Option Nat := match String.ofList (s.drop digits.length) with
    | "" => some 1
    | "b" => some 512
    | "k" | "K" | "KiB" => some 1024
    | "kB" | "KB" => some 1000
    | "m" | "M" | "MiB" => some (1024 * 1024)
    | "MB" => some 1000000
    | "G" | "GiB" => some (1024 * 1024 * 1024)
    | _ => none
  if digits.isEmpty then none else factor?.map (natOf digits * ·)

/-- The amount that some options ask for, or what is wrong with it. `sign` stands in front of a
number that is counted from the other end. -/
def amountOf (given : Given) (sign : Char) : Except Text Amount :=
  match (given.options.filter fun o => o.1 == 'n' || o.1 == 'c').getLast? with
  | none => .ok ⟨10, true, false⟩
  | some (letter, value) =>
    let inLines := letter == 'n'
    let isReversed := value.head? = some sign
    let digits := if isReversed || value.head? == some '-' || value.head? == some '+' then
      value.drop 1 else value
    match scaledNumber? digits with
    | some count => .ok ⟨count, inLines, isReversed⟩
    | none =>
      .error ("invalid number of ".toList ++ (if inLines then "lines" else "bytes").toList
        ++ ": ".toList)

/-- The value of the option that cannot be read. -/
def amountValue (given : Given) : Text :=
  ((given.options.filter fun o => o.1 == 'n' || o.1 == 'c').getLast?).elim [] (·.2)

/-- The beginning of a text. -/
def beginning (a : Amount) (text : Text) : Text :=
  let lines := rawLines text
  match a.inLines, a.isReversed with
  | true, false => firstLines a.count text
  | true, true => (lines.take (lines.length - a.count)).flatten
  | false, false => text.take a.count
  | false, true => text.take (text.length - a.count)

/-- The end of a text. -/
def ending (a : Amount) (text : Text) : Text :=
  let lines := rawLines text
  match a.inLines, a.isReversed with
  | true, false => (lines.drop (lines.length - a.count)).flatten
  | true, true => (lines.drop (a.count - 1)).flatten
  | false, false => text.drop (text.length - a.count)
  | false, true => text.drop (a.count - 1)

/-- Arguments of which the first may be a bare number behind a sign. -/
def withBareNumber (signs : String) (arguments : List Text) : List Text :=
  match arguments with
  | (sign :: digits) :: rest =>
    if signs.toList.contains sign && digits.all Char.isDigit && !digits.isEmpty then
      ['-', 'n'] :: (if sign = '+' then sign :: digits else digits) :: rest
    else arguments
  | _ => arguments

/-- Prints a part of each file, behind its name if there are several. -/
def printParts (tool : String) (sign : Char) (part : Amount → Text → Text) : Tool :=
  withGiven ⟨tool, "n:c:qvfFz", [("lines", 'n'), ("bytes", 'c'), ("quiet", 'q'),
    ("silent", 'q'), ("verbose", 'v'), ("follow", 'f')], false⟩ 1 fun given => do
    match amountOf given sign with
    | .error message =>
      complain tool (message ++ (← inMarks (amountValue given)))
      return 1
    | .ok amount =>
      let operands := if given.operands.isEmpty then [['-']] else given.operands
      let hasHeads := given.last? "qv" = some 'v'
        || 1 < operands.length && given.last? "qv" ≠ some 'q'
      let mut text : Text := []
      let mut isWhole := true
      for operand in operands do
        let name : Text := if operand = ['-'] then "standard input" else operand
        let head := (if text.isEmpty then [] else ['\n']) ++ "==> ".toList ++ name
          ++ " <==\n".toList
        match ← if operand = ['-'] then peek 0 else readPath operand with
        | .ok content =>
          let found := part amount content
          if operand = ['-'] then
            let isMovable := tool == "head" && (← isSeekable 0)
            consume 0 (if isMovable then found.length else content.length)
          text := text ++ (if hasHeads then head else []) ++ found
        | .error .isDirectory =>
          complain tool ("error reading ".toList ++ quoted operand ++ ": Is a directory".toList)
          if hasHeads then text := text ++ head
          isWhole := false
        | .error cause =>
          complain tool ("cannot open ".toList ++ quoted operand ++ " for reading: ".toList
            ++ cause.wording)
          isWhole := false
      printing tool text (statusFor isWhole)

/-- Prints the beginnings of files. -/
def head : Tool := fun arguments =>
  printParts "head" '-' beginning (withBareNumber "-" arguments)

/-- Prints the ends of files. -/
def tail : Tool := fun arguments =>
  printParts "tail" '+' ending (withBareNumber "-+" arguments)

/-! ### Counting -/

/-- The words of a text. -/
def countWords (text : Text) : Nat :=
  (text.foldl (fun (count, inWord) c =>
    if isSpace c then (count, false) else if inWord then (count, true) else (count + 1, true))
    ((0 : Nat), false)).1

/-- The characters of a text: the bytes that do not continue one. -/
def countChars (text : Text) : Nat :=
  text.countP fun c => c.toNat < 0x80 || 0xc0 ≤ c.toNat

/-- What is counted of a text: lines, words, characters, bytes, and the longest line. -/
def countsOf (text : Text) : List Nat :=
  [text.count '\n', countWords text, countChars text, text.length,
    ((plainLines text).map countChars).foldl max 0]

/-- Which counts are asked for. -/
def countsAsked (given : Given) : List Bool :=
  if given.options.isEmpty then [true, true, false, true, false] else "lwmcL".toList.map given.has

/-- Counts lines, words and bytes. -/
def wc : Tool :=
  withGiven ⟨"wc", "lwmcL", [("lines", 'l'), ("words", 'w'), ("chars", 'm'), ("bytes", 'c'),
    ("max-line-length", 'L')], false⟩ 1 fun given => do
    let asked := countsAsked given
    let operands := if given.operands.isEmpty then [['-']] else given.operands
    let hasStdin := operands.contains ['-']
    let isFile ← isSeekable 0
    let mut rows : List (List Nat × Text) := []
    let mut isWhole := true
    let mut hasOdd := hasStdin && !isFile
    for operand in operands do
      match ← readOperand operand with
      | .ok text => rows := rows ++ [(countsOf text, operand)]
      | .error cause =>
        complainOf "wc" operand cause
        isWhole := false
        if cause = .isDirectory then
          rows := rows ++ [([0, 0, 0, 0, 0], operand)]
          hasOdd := true
    let size := rows.foldl (fun n row => n + row.1.getD 3 0) 0
    let isSingle := operands.length = 1 && asked.count true = 1
    let width := if isSingle then 1 else max (Text.ofNat size).length (if hasOdd then 7 else 1)
    let chosen (counts : List Nat) : List Nat :=
      ((counts.zip asked).filter (·.2)).map Prod.fst
    let row (counts : List Nat) (name : Text) : Text :=
      Text.join [' '] ((chosen counts).map (rightAligned width)) ++ name ++ ['\n']
    let total := rows.foldl (fun sum row =>
      ((sum.zip row.1).zipIdx).map fun ((a, b), i) => if i = 4 then max a b else a + b)
      [0, 0, 0, 0, 0]
    let body := rows.flatMap fun (counts, name) =>
      row counts (if given.operands.isEmpty then [] else ' ' :: inMessage name)
    let final := if 1 < operands.length then row total " total" else []
    printing "wc" (body ++ final) (statusFor isWhole)

/-- No lines are at the beginning of every text. -/
theorem firstLines_zero (text : Text) : firstLines 0 text = [] := by
  cases text <;> rfl

end Tool

end Virtual

end Oneshot
