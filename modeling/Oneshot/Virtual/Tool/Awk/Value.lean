import Oneshot.Virtual.Format
import Oneshot.Virtual.Regex.Reader
import Oneshot.Virtual.Tool.Awk.Syntax

/-!
# Values of programs about records

A value is a number or a text, and each can be taken for the other. What comes from outside counts
as a number where it looks like one.

- `isTrue_text`: a text of the program counts as true if it is not empty.
-/

namespace Oneshot

namespace Virtual

namespace Tool

namespace Awk

/-- A value. -/
inductive Value where
  | unset
  | number (x : Float)
  | text (s : Text)
  /-- A text from outside, which may look like a number. -/
  | input (s : Text)

/-- A blank around a number. -/
def isPadding (c : Char) : Bool :=
  c == ' ' || c == '\t' || c == '\n' || c == '\r' || c == '\x0b' || c == '\x0c'

/-- Whether a number is written in front of a text. -/
def beginsNumber (s : Text) : Bool :=
  let s := match s with
    | '-' :: s | '+' :: s => s
    | s => s
  match s with
  | '.' :: c :: _ => c.isDigit
  | c :: _ => c.isDigit
  | [] => false

/-- The number that a text begins with, or zero. -/
def numberIn (s : Text) : Float :=
  let s := s.dropWhile isPadding
  if beginsNumber s then (readFloat s).elim 0 (·.1) else 0

/-- The number that a text is, if it is one. -/
def wholeNumber? (s : Text) : Option Float :=
  let s := s.dropWhile isPadding
  if beginsNumber s then
    match readFloat s with
    | some (x, rest) => if rest.all isPadding then some x else none
    | none => none
  else none

/-- The whole part of a number. Numbers that are too large are cut to what sixty-four bits hold. -/
def wholePart (x : Float) : Int :=
  let bound : Int := Nat.pow 2 63
  match Conversion.Stored.ofFloat x with
  | .notNumber => -bound
  | .infinite negative => if negative then -bound else bound - 1
  | .finite negative steps exponent =>
    let (n, d) := Conversion.fractionOf steps exponent
    let whole : Int := n / d
    if negative then max (-whole) (-bound) else min whole (bound - 1)

/-- Whether a number is whole and fits into sixty-four bits. -/
def isWhole (x : Float) : Bool :=
  x == Float.ofInt (wholePart x) && x.abs < 9223372036854775808.0

/-- The parts of a format in front of and behind its first conversion. -/
structure FormatPart where
  front : Text
  flags : Text
  /-- The width and the precision as they are written, a star for an argument. -/
  width : Text
  precision? : Option Text
  letter : Char
  rest : Text

/-- The first conversion of a format. Two percent signs stand for one. -/
def nextConversion? : (fuel : Nat) → (front : Text) → Text → Except Text FormatPart
  | 0, front, s => .error (front.reverse ++ s)
  | _, front, [] => .error front.reverse
  | fuel + 1, front, '%' :: '%' :: rest => nextConversion? fuel ('%' :: front) rest
  | _ + 1, front, '%' :: rest =>
    let flags := rest.takeWhile ("-+ #0".toList.contains ·)
    let isMeasure (c : Char) : Bool := c.isDigit || c == '*'
    let rest := rest.drop flags.length
    let width := rest.takeWhile isMeasure
    let rest := rest.drop width.length
    let (precision?, rest) := match rest with
      | '.' :: more => (some (more.takeWhile isMeasure), more.dropWhile isMeasure)
      | more => (none, more)
    match rest.dropWhile (fun c => c == 'l' || c == 'h') with
    | [] => .error (front.reverse ++ '%' :: flags ++ width)
    | letter :: rest => .ok ⟨front.reverse, flags, width, precision?, letter, rest⟩
  | fuel + 1, front, c :: rest => nextConversion? fuel (c :: front) rest

/-- A number as a format of one conversion writes it. -/
def formatNumber (format : Text) (x : Float) : Text :=
  match nextConversion? (format.length + 1) [] format with
  | .error text => text
  | .ok part =>
    let c : Conversion := ⟨part.flags, natOf part.width, part.precision?.map natOf, part.letter⟩
    let body :=
      if "eEfFgG".toList.contains part.letter then c.float x
      else if "di".toList.contains part.letter then c.integer (wholePart x)
      else c.natural ((wholePart x) % Nat.pow 2 64).toNat
    part.front ++ body ++ part.rest

/-- The text of a number. -/
def numberText (format : Text) (x : Float) : Text :=
  if isWhole x then Text.ofInt (wholePart x)
  else if x.isNaN then "-nan"
  else formatNumber format x

namespace Value

/-- A value as a number. -/
def toNumber : Value → Float
  | .unset => 0
  | .number x => x
  | .text s | .input s => numberIn s

/-- A value as a text; a format says how numbers are written that are not whole. -/
def toText (format : Text) : Value → Text
  | .unset => []
  | .number x => numberText format x
  | .text s | .input s => s

/-- The number of a value that counts as one. -/
def asNumber? : Value → Option Float
  | .unset => some 0
  | .number x => some x
  | .text _ => none
  | .input s => wholeNumber? s

/-- Whether a value counts as true. -/
def isTrue : Value → Bool
  | .unset => false
  | .number x => x != 0
  | .text s => !s.isEmpty
  | .input s =>
    match wholeNumber? s with
    | some x => x != 0
    | none => !s.isEmpty

/-- The value of a condition. -/
def ofBool (b : Bool) : Value :=
  .number (if b then 1 else 0)

/-- The value of a whole number. -/
def ofNat (n : Nat) : Value :=
  .number (Float.ofNat n)

/-- Whether a comparison holds of two values: of numbers, if both count as numbers, and otherwise of
texts. -/
def compares (format : Text) (comparison : Comparison) (a b : Value) : Bool :=
  match a.asNumber?, b.asNumber? with
  | some x, some y =>
    match comparison with
    | .less => x < y
    | .atMost => x <= y
    | .equal => x == y
    | .different => x != y
    | .atLeast => x >= y
    | .greater => x > y
  | _, _ =>
    let numbers (v : Value) : List Nat := (v.toText format).map Char.toNat
    match comparison, compare (numbers a) (numbers b) with
    | .less, .lt | .atMost, .lt | .atMost, .eq | .equal, .eq | .atLeast, .eq | .atLeast, .gt
    | .greater, .gt | .different, .lt | .different, .gt => true
    | _, _ => false

end Value

/-- The rest of a division toward zero. -/
def restOf (x y : Float) : Float :=
  if y == 0 then 0.0 / 0.0
  else
    match Conversion.Stored.ofFloat x, Conversion.Stored.ofFloat y with
    | .finite negative steps exponent, .finite _ otherSteps otherExponent =>
      let low := min exponent otherExponent
      let divisor := otherSteps * Nat.pow 2 (otherExponent - low).toNat
      let n := steps * Nat.pow 2 (exponent - low).toNat % divisor
      let size := Float.scaleB (Float.ofNat n) low
      if negative then -size else size
    | .finite .., .infinite _ => x
    | _, _ => 0.0 / 0.0

/-- The result of an operation. -/
def Arithmetic.apply (operation : Arithmetic) (x y : Float) : Float :=
  match operation with
  | .add => x + y
  | .subtract => x - y
  | .multiply => x * y
  | .divide => x / y
  | .remainder => restOf x y
  | .power => x ^ y

/-! ### Formats -/

/-- A width or a precision: a number, or the next argument. -/
def readMeasure? (s : Text) (values : List Value) : Option (Int × List Value) :=
  if s.contains '*' then
    match values with
    | [] => none
    | v :: values => some (wholePart v.toNumber, values)
  else some (natOf s, values)

/-- The text of a conversion with its width and precision, applied to a value. -/
def converted (numbers : Text) (part : FormatPart) (width : Int) (precision? : Option Int)
    (v : Value) : Text :=
  let flags := if width < 0 then '-' :: part.flags else part.flags
  let precision? := precision?.bind fun p => if p < 0 then none else some p.toNat
  let c : Conversion := ⟨flags, width.natAbs, precision?, part.letter⟩
  if "eEfFgGaA".toList.contains part.letter then c.float v.toNumber
  else if "di".toList.contains part.letter then
    { c with letter := 'd' }.integer (wholePart v.toNumber)
  else if "uxXo".toList.contains part.letter then
    c.natural (wholePart v.toNumber % Nat.pow 2 64).toNat
  else if part.letter = 's' then c.text (v.toText numbers)
  else if part.letter = 'c' then
    match v with
    | .number x => c.pad false [] [Char.ofNat (wholePart x % 256).toNat]
    | v => c.pad false [] ((v.toText numbers).take 1)
  else ['%', part.letter]

/-- The text of a format with values. If there are too few of them, the error is the text in front
of the first conversion that lacks one. -/
def format (numbers : Text) : (fuel : Nat) → Text → List Value → Except Text Text
  | 0, _, _ => .ok []
  | fuel + 1, s, values =>
    match nextConversion? (s.length + 1) [] s with
    | .error text => .ok text
    | .ok part =>
      let measures? : Option (Int × Option Int × Value × List Value) := do
        let (width, values) ← readMeasure? part.width values
        let (precision?, values) ← match part.precision? with
          | none => some (none, values)
          | some p =>
            (readMeasure? p values).map fun (precision, values) => (some precision, values)
        let v ← values.head?
        return (width, precision?, v, values.drop 1)
      match measures? with
      | none => .error part.front
      | some (width, precision?, v, values) =>
        let text := part.front ++ converted numbers part width precision? v
        match format numbers fuel part.rest values with
        | .ok more => .ok (text ++ more)
        | .error more => .error (text ++ more)

/-- A text of the program counts as true if it is not empty. -/
theorem isTrue_text (s : Text) : (Value.text s).isTrue = !s.isEmpty := rfl

end Awk

end Tool

end Virtual

end Oneshot
