import Oneshot.Virtual.Tool.Lines

/-!
# Columns

The tools that cut lines into parts, and that put lines side by side.

- `Selection.covers_complement`: a part is selected by a list or by its complement.
-/

namespace Oneshot

namespace Virtual

namespace Tool

/-! ### Selections -/

/-- Some positions in a line: ranges of which the last may be open. -/
structure Selection where
  ranges : List (Nat × Option Nat)
  isComplement : Bool

/-- Whether a position is selected. -/
def Selection.covers (s : Selection) (position : Nat) : Bool :=
  s.isComplement != s.ranges.any fun (first, last?) =>
    first ≤ position && last?.all (position ≤ ·)

/-- The ranges that a list names, or what is wrong with it. -/
def rangesOf (inFields : Bool) (list : Text) : Except (Text × Bool) (List (Nat × Option Nat)) :=
  (list.splitBy fun a b => isSeparator a == isSeparator b).filter (!·.all isSeparator) |>.mapM range
where
  isSeparator (c : Char) : Bool := c == ',' || c == ' ' || c == '\t'
  fault (item : Text) : Text × Bool :=
    let what := if inFields then "invalid field value " else "invalid byte or character range "
    (what.toList ++ item, true)
  zero : Text × Bool :=
    (if inFields then "fields are numbered from 1".toList
      else "byte/character positions are numbered from 1".toList, false)
  range (item : Text) : Except (Text × Bool) (Nat × Option Nat) :=
    let first := item.takeWhile Char.isDigit
    match item.drop first.length with
    | [] =>
      if first.isEmpty then .error (fault item)
      else if natOf first = 0 then .error zero else .ok (natOf first, some (natOf first))
    | '-' :: last =>
      if !last.all Char.isDigit then .error (fault item)
      else if first.isEmpty && last.isEmpty then
        .error ("invalid range with no endpoint: -".toList, false)
      else if !first.isEmpty && natOf first = 0 then .error zero
      else if !first.isEmpty && !last.isEmpty && natOf last < natOf first then
        .error ("invalid decreasing range".toList, false)
      else .ok (if first.isEmpty then 1 else natOf first, natOf? last)
    | _ => .error (fault item)

/-- The selected members of a list. -/
def selected {α : Type} (s : Selection) (items : List α) : List α :=
  (items.zipIdx.filter fun (_, i) => s.covers (i + 1)).map Prod.fst

/-- The selected bytes of a line. What is not adjacent stands on both sides of `joint`. -/
def selectedBytes (s : Selection) (joint : Text) (line : Text) : Text :=
  (line.zipIdx.foldl (fun (text, wasChosen, isFirst) (c, i) =>
    if s.covers (i + 1) then
      (text ++ (if wasChosen || isFirst then [] else joint) ++ [c], true, false)
    else (text, false, isFirst)) (([] : Text), true, true)).1

/-- What is left of a line when its parts are cut out. -/
def cutLine (given : Given) (s : Selection) (delimiter : Char) (line : Text) : Option Text :=
  if given.has 'f' then
    if line.contains delimiter then
      let joint := (given.value? 'O').getD [delimiter]
      some (Text.join joint (selected s (Text.splitAt delimiter line)))
    else if given.has 's' then none
    else some line
  else some (selectedBytes s ((given.value? 'O').getD []) line)

/-- Prints parts of lines. -/
def cut : Tool :=
  withGiven ⟨"cut", "b:c:f:d:snzCO:", [("bytes", 'b'), ("characters", 'c'), ("fields", 'f'),
    ("delimiter", 'd'), ("only-delimited", 's'), ("complement", 'C'),
    ("output-delimiter", 'O')], false⟩ 1 fun given => do
    match given.options.filter fun o => "bcf".toList.contains o.1 with
    | [] => refuseUsage "cut" "you must specify a list of bytes, characters, or fields" 1
    | [(letter, list)] =>
      let delimiter := (given.value? 'd').getD ['\t']
      if 1 < (textOfRaw delimiter).length then
        refuseUsage "cut" "the delimiter must be a single character" 1
      else
        match rangesOf (letter == 'f') list with
        | .error (message, isQuoted) =>
          if isQuoted then
            let words := (Text.splitAt ' ' message).dropLast
            let item := ((Text.splitAt ' ' message).getLast?).getD []
            refuseUsage "cut" (Text.join [' '] words ++ ' ' :: (← inMarks item)) 1
          else refuseUsage "cut" message 1
        | .ok ranges =>
          let s : Selection := ⟨ranges, given.has 'C'⟩
          let (contents, isWhole) ← readOperands "cut" given.operands
          let lines := contents.flatMap fun c => plainLines c.2
          let cutLines := lines.filterMap (cutLine given s (delimiter.headD '\x00'))
          printing "cut" (Text.ended cutLines) (statusFor isWhole)
    | _ => refuseUsage "cut" "only one type of list may be specified" 1

/-! ### Side by side -/

/-- The delimiters of a list, with escapes. -/
def delimitersOf : Text → List Text
  | '\\' :: 'n' :: rest => ['\n'] :: delimitersOf rest
  | '\\' :: 't' :: rest => ['\t'] :: delimitersOf rest
  | '\\' :: '0' :: rest => [] :: delimitersOf rest
  | '\\' :: c :: rest => [c] :: delimitersOf rest
  | c :: rest => [c] :: delimitersOf rest
  | [] => []

/-- Texts joined by delimiters that are used in turn. -/
def joinInTurn (delimiters : List Text) (texts : List Text) : Text :=
  texts.zipIdx.flatMap fun (text, i) =>
    if i = 0 then text else (delimiters.getD ((i - 1) % max delimiters.length 1) []) ++ text

/-- Lines made of those of some columns, of which the longest has at most `fuel`. -/
def pasteRows (delimiters : List Text) : (fuel : Nat) → List (List Text) → List Text
  | 0, _ => []
  | fuel + 1, columns =>
    if columns.all List.isEmpty then []
    else
      joinInTurn delimiters (columns.map fun column => column.headD [])
        :: pasteRows delimiters fuel (columns.map List.tail)

/-- Prints lines side by side. -/
def paste : Tool :=
  withGiven ⟨"paste", "d:sz", [("delimiters", 'd'), ("serial", 's')], false⟩ 1 fun given => do
    let delimiters := delimitersOf ((given.value? 'd').getD ['\t'])
    let (contents, isWhole) ← readOperands "paste" given.operands
    let columns := contents.map fun c => plainLines c.2
    if !isWhole && !given.has 's' then return 1
    let rows := if given.has 's' then columns.map (joinInTurn delimiters)
      else pasteRows delimiters ((columns.map List.length).foldl max 0) columns
    printing "paste" (Text.ended rows) (statusFor isWhole)

/-- The lines of two sorted texts, each with the number of its column: in the first text only, in
the second only, or in both. -/
def mergeColumns : List Text → List Text → List (Nat × Text)
  | [], ys => ys.map (2, ·)
  | xs, [] => xs.map (1, ·)
  | x :: xs, y :: ys =>
    match compare (x.map Char.toNat) (y.map Char.toNat) with
    | .lt => (1, x) :: mergeColumns xs (y :: ys)
    | .gt => (2, y) :: mergeColumns (x :: xs) ys
    | .eq => (3, x) :: mergeColumns xs ys
termination_by xs ys => xs.length + ys.length

/-- Tells which lines two sorted files have in common. -/
def comm : Tool :=
  withGiven ⟨"comm", "123z", [], false⟩ 1 fun given => do
    match given.operands with
    | [first, second] =>
      match ← readOperand first, ← readOperand second with
      | .ok a, .ok b =>
        let hides (column : Nat) : Bool := given.has (Char.ofNat (48 + column))
        let row (column : Nat) (line : Text) : Text :=
          let tabs := ((List.range (column - 1)).filter fun i => !hides (i + 1)).length
          if hides column then [] else List.replicate tabs '\t' ++ line ++ ['\n']
        let lines := mergeColumns (plainLines a) (plainLines b)
        printing "comm" (lines.flatMap fun (column, line) => row column line) 0
      | .error cause, _ =>
        complainOf "comm" first cause
        return 1
      | _, .error cause =>
        complainOf "comm" second cause
        return 1
    | _ :: _ :: extra :: _ => refuseExtra "comm" extra
    | operands => refuseMissing "comm" operands

/-! ### Width -/

/-- The pieces of a line, each at most `width` long, broken at blanks if that is asked for. The line
has at most `fuel` characters. -/
def foldLine (width : Nat) (atBlanks : Bool) : (fuel : Nat) → Text → List Text
  | 0, line => [line]
  | fuel + 1, line =>
    if line.length ≤ width then [line]
    else
      let piece := line.take width
      let kept := Text.dropEndWhile (fun c => c != ' ' && c != '\t') piece
      let piece := if atBlanks && !kept.isEmpty then kept else piece
      piece :: foldLine width atBlanks fuel (line.drop piece.length)

/-- Breaks long lines. -/
def fold : Tool :=
  withGiven ⟨"fold", "w:sbc", [("width", 'w'), ("spaces", 's'), ("bytes", 'b')], false⟩ 1
    fun given => do
    let value := (given.value? 'w').getD "80"
    match natOf? value with
    | some (width + 1) =>
      let (contents, isWhole) ← readOperands "fold" given.operands
      let fold (line : Text) : Text :=
        let plain := Text.dropEnd ['\n'] line
        Text.join ['\n'] (foldLine (width + 1) (given.has 's') plain.length plain)
          ++ line.drop plain.length
      printing "fold" (contents.flatMap fun c => (rawLines c.2).flatMap fold) (statusFor isWhole)
    | _ =>
      complain "fold" ("invalid number of columns: ".toList ++ (← inMarks value))
      return 1

/-- Prints each line backwards. -/
def rev : Tool := fun arguments => do
  let complaint (path : Text) (cause : Errno) : Run Unit :=
    complain "rev" ("cannot open ".toList ++ path ++ ": ".toList ++ cause.wording)
  let (contents, isWhole) ← readOperandsWith complaint arguments
  let turned (line : Text) : Text :=
    let plain := Text.dropEnd ['\n'] line
    rawOf (textOfRaw plain).reverse ++ line.drop plain.length
  printing "rev" (contents.flatMap fun c => (rawLines c.2).flatMap turned) (statusFor isWhole)

/-- A part is selected by a list or by its complement. -/
theorem Selection.covers_complement (ranges : List (Nat × Option Nat)) (position : Nat) :
    (Selection.mk ranges true).covers position = !(Selection.mk ranges false).covers position := by
  simp [Selection.covers]

end Tool

end Virtual

end Oneshot
