import Oneshot.Settings.Value
import Oneshot.Toml.Quoted

/-!
# Numbers, dates and times of a TOML document

A number is read as far as it goes: a digit follows directly or behind one underscore. Whole numbers
can be hexadecimal, octal or binary; a fraction or an exponent makes a number a floating-point one.
A date must be one of the calendar. What a date or a time says is not kept, because no setting
takes one. A decimal number may have so many digits and no more.

- `digitsBehind_append`: the digits that are read are digits.
-/

namespace Oneshot

namespace Toml

/-- The digits that go on behind a digit, and what is left. -/
def digitsBehind (isDigit : Char → Bool) : Text → Text × Text
  | '_' :: c :: s =>
    if isDigit c then
      let (digits, rest) := digitsBehind isDigit s
      (c :: digits, rest)
    else ([], '_' :: c :: s)
  | c :: s =>
    if isDigit c then
      let (digits, rest) := digitsBehind isDigit s
      (c :: digits, rest)
    else ([], c :: s)
  | [] => ([], [])

/-- The digits that stand here, at least one, and what is left. -/
def digits? (isDigit : Char → Bool) : Text → Option (Text × Text)
  | c :: s =>
    if isDigit c then
      let (digits, rest) := digitsBehind isDigit s
      some (c :: digits, rest)
    else none
  | [] => none

/-- The number that digits denote in a base. -/
def natOfDigits (base : Nat) (digits : Text) : Nat :=
  digits.foldl (fun n c => n * base + (hexDigitValue? c).getD 0) 0

/-- A whole number in another base than ten. -/
def readRadix? : Text → Option (Read Value)
  | '0' :: 'x' :: s => within 16 (fun c => (hexDigitValue? c).isSome) s
  | '0' :: 'o' :: s => within 8 (fun c => '0' ≤ c ∧ c ≤ '7') s
  | '0' :: 'b' :: s => within 2 (fun c => c == '0' || c == '1') s
  | _ => none
where
  /-- The number in the given base. -/
  within (base : Nat) (isDigit : Char → Bool) (s : Text) : Option (Read Value) :=
    (digits? isDigit s).map fun (digits, rest) => ⟨.int (natOfDigits base digits), rest⟩

/-- The digits in front of the point: a zero alone, or digits of which the first is not zero. -/
def wholeDigits? : Text → Option (Text × Text)
  | '0' :: s => some (['0'], s)
  | s => digits? Char.isDigit s

/-- The digits behind a point, if they stand here. -/
def fraction? : Text → Option (Text × Text)
  | '.' :: s => digits? Char.isDigit s
  | _ => none

/-- An exponent of ten, if one stands here. -/
def exponent? : Text → Option (Int × Text)
  | c :: s =>
    if c = 'e' ∨ c = 'E' then
      let (negative, s) := Text.cutSign s
      (digits? Char.isDigit s).map fun (digits, rest) =>
        let n : Int := natOfDigits 10 digits
        (if negative then -n else n, rest)
    else none
  | [] => none

/-- A decimal number. -/
def readDecimal? (s : Text) : Option (Reading Value) :=
  let (negative, s) := Text.cutSign s
  (wholeDigits? s).map fun (whole, s) =>
    let fraction := fraction? s
    let s := (fraction.map Prod.snd).getD s
    let places := (fraction.map Prod.fst).getD []
    let exponent := exponent? s
    let s := (exponent.map Prod.snd).getD s
    if fraction.isNone && exponent.isNone then
      if Text.digitLimit < whole.length then .stop (.tooManyDigits whole.length) s
      else
        let n : Int := natOfDigits 10 whole
        .ok ⟨.int (if negative then -n else n), s⟩
    else
      let power := (exponent.map Prod.fst).getD 0 - places.length
      .ok ⟨.real (Real.ofDecimal negative (natOfDigits 10 (whole ++ places)) power), s⟩

/-- An infinity, or what is no number. -/
def readNotFinite? (s : Text) : Option (Read Value) :=
  match (Text.cutSign s).2 with
  | 'i' :: 'n' :: 'f' :: rest => some ⟨.real .notFinite, rest⟩
  | 'n' :: 'a' :: 'n' :: rest => some ⟨.real .notFinite, rest⟩
  | _ => none

/-- The number that stands here, if one does. -/
def readNumber? (s : Text) : Option (Reading Value) :=
  (readRadix? s).map .ok <|> readDecimal? s <|> (readNotFinite? s).map .ok

/-! ### Dates and times -/

/-- The number that two digits denote. -/
def pair? (a b : Char) : Option Nat :=
  if a.isDigit && b.isDigit then some (natOfDigits 10 [a, b]) else none

/-- What is left behind a time of the day. -/
def skipTime? : Text → Option Text
  | a :: b :: ':' :: c :: d :: ':' :: e :: f :: rest =>
    match pair? a b, pair? c d, pair? e f with
    | some hour, some minute, some second =>
      if hour < 24 ∧ minute < 60 ∧ second < 60 then
        match rest with
        | '.' :: g :: s => some (if g.isDigit then s.dropWhile Char.isDigit else rest)
        | _ => some rest
      else none
    | _, _, _ => none
  | _ => none

/-- What is left behind an offset from universal time, if one stands here. -/
def skipOffset : Text → Text
  | 'Z' :: rest => rest
  | 'z' :: rest => rest
  | sign :: a :: b :: ':' :: c :: d :: rest =>
    match pair? a b, pair? c d with
    | some hour, some minute =>
      if (sign = '+' ∨ sign = '-') ∧ hour < 24 ∧ minute < 60 then rest
      else sign :: a :: b :: ':' :: c :: d :: rest
    | _, _ => sign :: a :: b :: ':' :: c :: d :: rest
  | rest => rest

/-- Whether a year has a 29th of February. -/
def isLeapYear (year : Nat) : Bool :=
  year % 4 == 0 && (year % 100 != 0 || year % 400 == 0)

/-- The number of days of a month. -/
def daysOf (year month : Nat) : Nat :=
  if month = 2 then if isLeapYear year then 29 else 28
  else if month = 4 ∨ month = 6 ∨ month = 9 ∨ month = 11 then 30
  else 31

/-- A date, or a date and a time. -/
def readDate? : Text → Option (Reading Value)
  | y :: y' :: y'' :: y''' :: '-' :: m :: m' :: '-' :: d :: d' :: rest =>
    match pair? y y', pair? y'' y''', pair? m m', pair? d d' with
    | some century, some year, some month, some day =>
      if 1 ≤ month ∧ month ≤ 12 ∧ 1 ≤ day ∧ day ≤ 31 then
        let year := century * 100 + year
        if year = 0 ∨ daysOf year month < day then some (.stop .invalidDate rest)
        else some (.ok ⟨.moment, behindDate rest⟩)
      else none
    | _, _, _, _ => none
  | _ => none
where
  /-- What is left when the time that may follow a date is read as well. -/
  behindDate (rest : Text) : Text :=
    match rest with
    | c :: s =>
      if c = 'T' ∨ c = 't' ∨ c = ' ' then ((skipTime? s).map skipOffset).getD rest else rest
    | [] => rest

/-- The date or time that stands here, if one does. -/
def readMoment? (s : Text) : Option (Reading Value) :=
  readDate? s <|> (skipTime? s).map fun rest => .ok ⟨.moment, rest⟩

/-- The digits that are read are digits. -/
theorem digitsBehind_append {isDigit : Char → Bool} (s : Text) :
    ∀ c ∈ (digitsBehind isDigit s).1, isDigit c = true := by
  fun_induction digitsBehind isDigit s <;> simp_all

end Toml

end Oneshot
