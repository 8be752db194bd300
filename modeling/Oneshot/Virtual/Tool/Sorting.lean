import Oneshot.Virtual.Format
import Oneshot.Virtual.Tool.Lines

/-!
# Sorting

The tools that order lines and that join equal ones. A line is compared by its keys, one after the
other, and at last by its bytes.

- `orderBy_nil`: without keys, all lines are alike.
-/

namespace Oneshot

namespace Virtual

namespace Tool

/-! ### Keys -/

/-- Where a key begins or ends: a field, and a character in it; zero stands for its end. -/
structure KeyPlace where
  field : Nat
  char : Nat
deriving DecidableEq, Repr

/-- A key: where it begins and ends, and the letters of how it is compared. -/
structure Key where
  start : KeyPlace
  stop? : Option KeyPlace
  letters : Text
deriving DecidableEq, Repr

/-- The letters that say how a key is compared. -/
def keyLetters : Text :=
  "bdfgihMnRrV"

/-- A place of a key, the letters behind it, and what is left. -/
def readPlace (s : Text) (charDefault : Nat) : Option (KeyPlace × Text × Text) :=
  let field := s.takeWhile Char.isDigit
  let s := s.drop field.length
  let (char, s) := match s with
    | '.' :: t => (some (t.takeWhile Char.isDigit), t.dropWhile Char.isDigit)
    | t => (none, t)
  let letters := s.takeWhile keyLetters.contains
  if field.isEmpty || char = some [] then none
  else some (⟨natOf field, char.elim charDefault natOf⟩, letters, s.drop letters.length)

/-- The key that a text describes, or what is wrong with it. -/
def readKey (s : Text) : Except Text Key :=
  match readPlace s 1 with
  | none => .error "invalid number at field start: invalid count at start of "
  | some (⟨0, _⟩, _, _) => .error "field number is zero: invalid field specification "
  | some (start, letters, []) => .ok ⟨start, none, letters⟩
  | some (start, letters, ',' :: rest) =>
    match readPlace rest 0 with
    | some (stop, more, []) => .ok ⟨start, some stop, letters ++ more⟩
    | _ => .error "invalid number after ',': invalid count at start of "
  | some _ => .error "stray character in field spec: invalid field specification "

/-- A blank between fields. -/
def isFieldBlank (c : Char) : Bool :=
  c == ' ' || c == '\t' || c == '\n'

/-- How many characters of a line stand in front of a field. -/
def fieldStart (delimiter? : Option Char) : (count : Nat) → Text → Nat
  | 0, _ => 0
  | count + 1, line =>
    let taken := match delimiter? with
      | some d => (line.takeWhile (· != d)).length + 1
      | none =>
        let blanks := (line.takeWhile isFieldBlank).length
        blanks + ((line.drop blanks).takeWhile (!isFieldBlank ·)).length
    taken + fieldStart delimiter? count (line.drop taken)

/-- The part of a line that a key is about. -/
def keyText (delimiter? : Option Char) (skipsBlanks : Bool) (key : Key) (line : Text) : Text :=
  let blanksAt (i : Nat) : Nat :=
    if skipsBlanks then ((line.drop i).takeWhile isFieldBlank).length else 0
  let first := fieldStart delimiter? (key.start.field - 1) line
  let first := first + blanksAt first + (key.start.char - 1)
  let last := match key.stop? with
    | none => line.length
    | some ⟨field, 0⟩ =>
      let stop := fieldStart delimiter? field line
      if delimiter?.isSome then stop - 1 else stop
    | some ⟨field, char⟩ =>
      let start := fieldStart delimiter? (field - 1) line
      start + blanksAt start + char
  (line.take last).drop first

/-! ### Comparison -/

/-- The number in front of a text: whether it is negative, its digits, and its decimal places. -/
def leadingNumber (s : Text) : Bool × Text × Text :=
  let s := s.dropWhile isFieldBlank
  let (negative, s) := match s with
    | '-' :: t => (true, t)
    | t => (false, t)
  let whole := s.takeWhile Char.isDigit
  let places := match s.drop whole.length with
    | '.' :: t => t.takeWhile Char.isDigit
    | _ => []
  (negative, whole, places)

/-- A number as a count of decimal steps, of which `places` make one place. -/
def scaledValue (places : Nat) (number : Bool × Text × Text) : Int :=
  let (negative, whole, fraction) := number
  let digits := fraction ++ List.replicate (places - fraction.length) '0'
  let n : Int := natOf (whole ++ digits)
  if negative then -n else n

/-- Texts in the order of the numbers in front of them. -/
def compareNumbers (a b : Text) : Ordering :=
  let x := leadingNumber a
  let y := leadingNumber b
  let places := max x.2.2.length y.2.2.length
  compare (scaledValue places x) (scaledValue places y)

/-- The rank of the unit behind a number. -/
def unitRank (s : Text) : Nat :=
  let s := (s.dropWhile isFieldBlank).dropWhile fun c => c.isDigit || c == '-' || c == '.'
  match s.head? with
  | some 'K' | some 'k' => 1
  | some c => (("KMGTPEZY".toList.idxOf? c).map (· + 1)).getD 0
  | none => 0

/-- Texts in the order of their numbers with units. -/
def compareSizes (a b : Text) : Ordering :=
  let sign (s : Text) : Int :=
    let (negative, whole, places) := leadingNumber s
    if natOf (whole ++ places) = 0 then 0 else if negative then -1 else 1
  match compare (sign a) (sign b) with
  | .eq =>
    let byUnit := compare (unitRank a) (unitRank b)
    let byUnit := if sign a < 0 then byUnit.swap else byUnit
    byUnit.then (compareNumbers a b)
  | order => order

/-- Texts in the order of their floating-point numbers; those without one come first. -/
def compareFloats (a b : Text) : Ordering :=
  let value (s : Text) : Option Float := (readFloat (s.dropWhile isFieldBlank)).map Prod.fst
  match value a, value b with
  | none, none => .eq
  | none, some _ => .lt
  | some _, none => .gt
  | some x, some y => if x < y then .lt else if y < x then .gt else .eq

/-- The pieces of a version: digits, and what is none. -/
def versionPieces (s : Text) : List Text :=
  s.splitBy fun a b => a.isDigit == b.isDigit

/-- Versions in their order: digits count as numbers. -/
def comparePieces : List Text → List Text → Ordering
  | [], [] => .eq
  | [], _ => .lt
  | _, [] => .gt
  | a :: as, b :: bs =>
    let areNumbers := a.head?.any Char.isDigit && b.head?.any Char.isDigit
    let order := if areNumbers then compare (natOf a) (natOf b)
      else compare (a.map Char.toNat) (b.map Char.toNat)
    order.then (comparePieces as bs)

/-- The number of a month, or zero. -/
def monthOf (s : Text) : Nat :=
  let months := ["JAN", "FEB", "MAR", "APR", "MAY", "JUN", "JUL", "AUG", "SEP", "OCT", "NOV", "DEC"]
  let name := ((s.dropWhile isFieldBlank).take 3).map Char.toUpper
  ((months.idxOf? (String.ofList name)).map (· + 1)).getD 0

/-- Texts in the order of their bytes, some of which may be left out or count as others. -/
def compareTexts (letters a b : Text) : Ordering :=
  let seen (s : Text) : List Nat :=
    let s := if letters.contains 'd' then s.filter fun c => c.isAlphanum || isFieldBlank c else s
    let s := if letters.contains 'i' then s.filter fun c => ' ' ≤ c && c ≤ '~' else s
    s.map fun c => if letters.contains 'f' then c.toUpper.toNat else c.toNat
  compare (seen a) (seen b)

/-- Texts in the order that some letters ask for. -/
def compareBy (letters a b : Text) : Ordering :=
  let order :=
    if letters.contains 'n' then compareNumbers a b
    else if letters.contains 'h' then compareSizes a b
    else if letters.contains 'g' then compareFloats a b
    else if letters.contains 'V' then comparePieces (versionPieces a) (versionPieces b)
    else if letters.contains 'M' then compare (monthOf a) (monthOf b)
    else compareTexts letters a b
  if letters.contains 'r' then order.swap else order

/-- Lines in the order of some keys. -/
def orderBy (delimiter? : Option Char) (keys : List Key) (a b : Text) : Ordering :=
  keys.foldl (fun order key =>
    let text := keyText delimiter? (key.letters.contains 'b') key
    order.then (compareBy key.letters (text a) (text b))) .eq

/-- Lines of which no two neighbours are alike. -/
def withoutRepeats (alike : Text → Text → Bool) : List Text → List Text
  | [] => []
  | line :: rest =>
    match withoutRepeats alike rest with
    | [] => [line]
    | next :: others => if alike line next then line :: others else line :: next :: others

/-- Sorts lines. -/
def sort : Tool :=
  withGiven ⟨"sort", "bdfgihMnRrVk:t:o:uscCmzS:T:", [("key", 'k'), ("field-separator", 't'),
    ("numeric-sort", 'n'), ("reverse", 'r'), ("unique", 'u'), ("output", 'o'), ("stable", 's'),
    ("ignore-case", 'f'), ("version-sort", 'V'), ("human-numeric-sort", 'h'),
    ("general-numeric-sort", 'g'), ("check", 'c'), ("ignore-leading-blanks", 'b')], false⟩ 2
    fun given => do
    let shared := keyLetters.filter given.has
    match (given.values 'k').mapM fun k => (readKey k).mapError (·, k) with
    | .error (message, key) =>
      complain "sort" (message ++ (← inMarks key))
      return 2
    | .ok keys =>
      let keys := keys.map fun key =>
        if key.letters.isEmpty then { key with letters := shared } else key
      let keys := if keys.isEmpty then [⟨⟨1, 1⟩, none, shared⟩] else keys
      let delimiter? := (given.value? 't').bind fun t => if t = "\\0".toList then some '\x00' else
        t.head?
      let mut lines : List Text := []
      for operand in if given.operands.isEmpty then [['-']] else given.operands do
        match ← readOperand operand with
        | .ok text => lines := lines ++ plainLines text
        | .error cause =>
          let what := if cause == .isDirectory then "read failed: " else "cannot read: "
          complain "sort" (what.toList ++ inMessage operand ++ ": ".toList ++ cause.wording)
          return 2
      let byKeys := orderBy delimiter? keys
      let whole (a b : Text) : Ordering :=
        let order := compare (a.map Char.toNat) (b.map Char.toNat)
        if given.has 'r' then order.swap else order
      let order (a b : Text) : Ordering :=
        if given.has 'u' || given.has 's' then byKeys a b else (byKeys a b).then (whole a b)
      if given.has 'c' || given.has 'C' then
        let bad? := ((lines.zip (lines.drop 1)).zipIdx).find? fun ((a, b), _) =>
          order a b == .gt || given.has 'u' && order a b == .eq
        match bad? with
        | none => return 0
        | some ((_, line), i) =>
          if given.has 'c' then
            let name := given.operands.headD ['-']
            complain "sort" (name ++ ':' :: Text.ofNat (i + 2) ++ ": disorder: ".toList ++ line)
          return 1
      else
        let sorted := lines.mergeSort fun a b => (order a b).isLE
        let sorted := if given.has 'u' then withoutRepeats (fun a b => byKeys a b == .eq) sorted
          else sorted
        let text := Text.ended sorted
        match given.value? 'o' with
        | none => printing "sort" text 0
        | some path =>
          let p ← get
          match p.openPath path .replace with
          | .ok (file, q) =>
            set { p with system := (q.system.write file text).toOption.getD q.system }
            return 0
          | .error cause =>
            complain "sort" ("open failed: ".toList ++ inMessage path ++ ": ".toList
              ++ cause.wording)
            return 2

/-! ### Repeats -/

/-- The part of a line by which it is compared with its neighbour. -/
def comparedPart (given : Given) (line : Text) : Text :=
  let number (letter : Char) : Option Nat := (given.value? letter).map natOf
  let line := line.drop (fieldStart none ((number 'f').getD 0) line)
  let line := line.drop ((number 's').getD 0)
  let line := (number 'w').elim line line.take
  if given.has 'i' then line.map Char.toLower else line

/-- Joins or counts equal neighbours. -/
def uniq : Tool :=
  withGiven ⟨"uniq", "cduDif:s:w:z", [("count", 'c'), ("repeated", 'd'), ("unique", 'u'),
    ("ignore-case", 'i'), ("skip-fields", 'f'), ("skip-chars", 's'), ("check-chars", 'w')],
    false⟩ 1 fun given => do
    match given.operands with
    | _ :: _ :: extra :: _ => refuseExtra "uniq" extra
    | operands =>
      let input := operands.headD ['-']
      match ← readOperand input with
      | .error cause =>
        complainOf "uniq" input cause
        return 1
      | .ok text =>
        let alike (a b : Text) : Bool := comparedPart given a == comparedPart given b
        let shown := ((plainLines text).splitBy alike).filter fun group =>
          (!given.has 'd' && !given.has 'D' || 1 < group.length)
            && (!given.has 'u' || group.length == 1)
        let lines := shown.flatMap fun group =>
          if given.has 'D' then group
          else
            let line := group.headD []
            [if given.has 'c' then rightAligned 7 group.length ++ ' ' :: line else line]
        match operands[1]? with
        | none => printing "uniq" (Text.ended lines) 0
        | some path =>
          let p ← get
          match p.openPath path .replace with
          | .ok (file, q) =>
            let system := (q.system.write file (Text.ended lines)).toOption.getD q.system
            set { p with system }
            return 0
          | .error cause =>
            complainOf "uniq" path cause
            return 1

/-- Without keys, all lines are alike. -/
theorem orderBy_nil (delimiter? : Option Char) (a b : Text) : orderBy delimiter? [] a b = .eq := rfl

end Tool

end Virtual

end Oneshot
