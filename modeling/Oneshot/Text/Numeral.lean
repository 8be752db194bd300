import Oneshot.Text.Blank
import Oneshot.Text.Quoted
import Oneshot.Text.Word

/-!
# Numerals

A numeral is a text that denotes a whole number: a sign that may be missing, and decimal digits of
any script, in groups with single low lines between them. Blanks around it do not count. A numeral
may have so many digits and no more. Beside the decimal digits there are digit signs, such as raised
and circled digits, of which no numeral can be made.

- `digitValue?_of_isDigit` and `digitValue?_lt`: the ASCII digits have their usual values, and no
  digit has a value of ten or more.
- `isDigitSign_of_isDigit`: every ASCII digit is a digit sign.
- `wholeNumber_of_long`: a numeral with too many digits denotes nothing.
-/

namespace Oneshot

namespace Text

/-- The zeros of the decimal digits of Unicode 14. The other nine digits of a script follow its
zero. -/
def decimalZeros : List Nat :=
  [
    0x30, 0x660, 0x6F0, 0x7C0, 0x966, 0x9E6, 0xA66, 0xAE6, 0xB66, 0xBE6, 0xC66, 0xCE6, 0xD66,
    0xDE6, 0xE50, 0xED0, 0xF20, 0x1040, 0x1090, 0x17E0, 0x1810, 0x1946, 0x19D0, 0x1A80, 0x1A90,
    0x1B50, 0x1BB0, 0x1C40, 0x1C50, 0xA620, 0xA8D0, 0xA900, 0xA9D0, 0xA9F0, 0xAA50, 0xABF0, 0xFF10,
    0x104A0, 0x10D30, 0x11066, 0x110F0, 0x11136, 0x111D0, 0x112F0, 0x11450, 0x114D0, 0x11650,
    0x116C0, 0x11730, 0x118E0, 0x11950, 0x11C50, 0x11D50, 0x11DA0, 0x16A60, 0x16AC0, 0x16B50,
    0x1D7CE, 0x1D7D8, 0x1D7E2, 0x1D7EC, 0x1D7F6, 0x1E140, 0x1E2F0, 0x1E950, 0x1FBF0
  ]

/-- The digit signs of Unicode 14 that are no decimal digits. -/
def digitSignRanges : List (Nat × Nat) :=
  [
    (0xB2, 0xB3), (0xB9, 0xB9), (0x1369, 0x1371), (0x19DA, 0x19DA), (0x2070, 0x2070),
    (0x2074, 0x2079), (0x2080, 0x2089), (0x2460, 0x2468), (0x2474, 0x247C), (0x2488, 0x2490),
    (0x24EA, 0x24EA), (0x24F5, 0x24FD), (0x24FF, 0x24FF), (0x2776, 0x277E), (0x2780, 0x2788),
    (0x278A, 0x2792), (0x10A40, 0x10A43), (0x10E60, 0x10E68), (0x11052, 0x1105A),
    (0x1F100, 0x1F10A)
  ]

/-- The value of a decimal digit. -/
def digitValue? (c : Char) : Option Nat :=
  (decimalZeros.find? fun start => start ≤ c.toNat && c.toNat < start + 10).map (c.toNat - ·)

/-- Whether a character is a decimal digit or another digit sign. -/
def isDigitSign (c : Char) : Bool :=
  (digitValue? c).isSome || inRanges digitSignRanges c.toNat

/-- Why a text denotes no whole number. -/
inductive NumeralFault where
  | malformed (s : Text)
  | tooManyDigits (count : Nat)
deriving DecidableEq, Repr

/-- How many digits a numeral may have. -/
def digitLimit : Nat := 4300

/-- The wording of a fault. A text that is no numeral is quoted, as far as 200 characters go. -/
def NumeralFault.message : NumeralFault → Text
  | .malformed s =>
    "invalid literal for int() with base 10: ".toList ++ (quoted s).take 200
  | .tooManyDigits count =>
    "Exceeds the limit (".toList ++ ofNat digitLimit
      ++ " digits) for integer string conversion: value has ".toList ++ ofNat count
      ++ " digits; use sys.set_int_max_str_digits() to increase the limit".toList

/-- Whether a character may stand around a numeral. Of ASCII, the information separators may not. -/
def isNumeralBlank (c : Char) : Bool :=
  isBlank c && !(0x1C ≤ c.toNat && c.toNat ≤ 0x1F)

/-- The digits that stand here, in groups with single low lines between them, and what is left. -/
def digitGroups? (s : Text) : Option (List Nat × Text) :=
  let run := s.takeWhile fun c => c == '_' || (digitValue? c).isSome
  if (splitAt '_' run).any List.isEmpty then none
  else some (run.filterMap digitValue?, s.drop run.length)

/-- The number that decimal digits denote. -/
def decimalNumber (digits : List Nat) : Nat :=
  digits.foldl (fun n digit => n * 10 + digit) 0

/-- Whether a minus stands in front of a text, and the text without its sign. -/
def cutSign : Text → Bool × Text
  | '-' :: s => (true, s)
  | '+' :: s => (false, s)
  | s => (false, s)

/-- The whole number that a text denotes. Too many digits are noticed before what follows them. -/
def wholeNumber (s : Text) : Except NumeralFault Int :=
  let (isNegative, unsigned) := cutSign (s.dropWhile isNumeralBlank)
  match digitGroups? unsigned with
  | none => .error (.malformed s)
  | some (digits, rest) =>
    if digitLimit < digits.length then .error (.tooManyDigits digits.length)
    else if rest.all isNumeralBlank then
      .ok (if isNegative then -(decimalNumber digits : Int) else decimalNumber digits)
    else .error (.malformed s)

/-- The ASCII digits have their usual values. -/
theorem digitValue?_of_isDigit {c : Char} (h : c.isDigit = true) :
    digitValue? c = some (c.toNat - 0x30) := by
  have bounds : 0x30 ≤ c.toNat ∧ c.toNat ≤ 0x39 := by
    simpa [Char.isDigit, UInt32.le_iff_toNat_le] using h
  have found : decimalZeros.find? (fun start => start ≤ c.toNat && c.toNat < start + 10)
      = some 0x30 := by
    refine List.find?_cons_of_pos ?_
    simp only [Bool.and_eq_true, decide_eq_true_eq]
    omega
  simp [digitValue?, found]

/-- No digit has a value of ten or more. -/
theorem digitValue?_lt {c : Char} {n : Nat} (h : digitValue? c = some n) : n < 10 := by
  simp only [digitValue?, Option.map_eq_some_iff] at h
  obtain ⟨start, found, rfl⟩ := h
  have bounds := List.find?_some found
  simp only [Bool.and_eq_true, decide_eq_true_eq] at bounds
  omega

/-- Every ASCII digit is a digit sign. -/
theorem isDigitSign_of_isDigit {c : Char} (h : c.isDigit = true) : isDigitSign c = true := by
  simp [isDigitSign, digitValue?_of_isDigit h]

/-- A numeral with too many digits denotes nothing, whatever stands behind them. -/
theorem wholeNumber_of_long {s rest : Text} {digits : List Nat}
    (hdigits : digitGroups? (cutSign (s.dropWhile isNumeralBlank)).2 = some (digits, rest))
    (hlong : digitLimit < digits.length) :
    wholeNumber s = .error (.tooManyDigits digits.length) := by
  simp [wholeNumber, hdigits, hlong]

end Text

end Oneshot
