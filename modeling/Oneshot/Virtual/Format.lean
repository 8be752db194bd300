import Oneshot.Virtual.Raw

/-!
# Conversions

How values are written in a field: a conversion has flags, a width, a precision and a letter. Whole
numbers are written in some base, floating-point numbers in decimal places or with an exponent,
rounded exactly.

- `le_length_pad`: a field is at least as wide as it says.
-/

namespace Oneshot

namespace Virtual

/-- A conversion of a format. A width or a precision may be left to an argument. -/
structure Conversion where
  flags : Text
  width : Nat
  precision : Option Nat
  letter : Char
deriving DecidableEq, Repr

namespace Conversion

/-- Whether a conversion has a flag. -/
def has (c : Conversion) (flag : Char) : Bool :=
  c.flags.contains flag

/-- A sign and what follows it, in a field of the conversion's width. -/
def pad (c : Conversion) (zeros : Bool) (sign body : Text) : Text :=
  let missing := c.width - (sign.length + body.length)
  if c.has '-' then sign ++ body ++ List.replicate missing ' '
  else if zeros then sign ++ List.replicate missing '0' ++ body
  else List.replicate missing ' ' ++ sign ++ body

/-- A text, cut to the precision. -/
def text (c : Conversion) (s : Text) : Text :=
  c.pad false [] (c.precision.elim s s.take)

/-- The sign in front of a number. -/
def sign (c : Conversion) (negative : Bool) : Text :=
  if negative then ['-'] else if c.has '+' then ['+'] else if c.has ' ' then [' '] else []

/-- Digits, filled up to the precision. -/
def digits (c : Conversion) (n base : Nat) : Text :=
  let digits := if n = 0 ∧ c.precision = some 0 then [] else Nat.toDigits base n
  List.replicate (c.precision.getD 1 - digits.length) '0' ++ digits

/-- A whole number in decimal digits. -/
def integer (c : Conversion) (n : Int) : Text :=
  c.pad (c.has '0' && c.precision.isNone) (c.sign (n < 0)) (c.digits n.natAbs 10)

/-- A number without a sign, in the base that the letter names. -/
def natural (c : Conversion) (n : Nat) : Text :=
  let zeros := c.has '0' && c.precision.isNone
  match c.letter with
  | 'o' =>
    let body := c.digits n 8
    c.pad zeros [] (if c.has '#' && body.head? != some '0' then '0' :: body else body)
  | 'x' => c.pad zeros (if c.has '#' && n != 0 then "0x".toList else []) (c.digits n 16)
  | 'X' =>
    c.pad zeros (if c.has '#' && n != 0 then "0X".toList else [])
      ((c.digits n 16).map Char.toUpper)
  | _ => c.pad zeros [] (c.digits n 10)

/-! ### Floating-point numbers -/

/-- A floating-point number as it is stored. -/
inductive Stored where
  | notNumber
  | infinite (negative : Bool)
  /-- A whole number of steps, where a step is a power of two. -/
  | finite (negative : Bool) (steps : Nat) (exponent : Int)
deriving DecidableEq, Repr

/-- How a floating-point number is stored. -/
def Stored.ofFloat (x : Float) : Stored :=
  let bits := x.toBits.toNat
  let negative := Nat.pow 2 63 ≤ bits
  let exponent : Nat := bits / Nat.pow 2 52 % 2048
  let fraction := bits % Nat.pow 2 52
  if exponent = 2047 then if fraction = 0 then .infinite negative else .notNumber
  else if exponent = 0 then .finite negative fraction (-1074)
  else .finite negative (Nat.pow 2 52 + fraction) ((exponent : Int) - 1075)

/-- The quotient of two numbers, rounded to the nearest whole number, a half to the even one. -/
def roundedDiv (n d : Nat) : Nat :=
  let q := n / d
  let r := n % d
  if 2 * r < d ∨ (2 * r = d ∧ q % 2 = 0) then q else q + 1

/-- A fraction for a number of steps. -/
def fractionOf (steps : Nat) (exponent : Int) : Nat × Nat :=
  if 0 ≤ exponent then (steps * Nat.pow 2 exponent.toNat, 1)
  else (steps, Nat.pow 2 (-exponent).toNat)

/-- The digits of a fraction with some decimal places, with a point between if one is asked for. -/
def fixed (places : Nat) (point : Bool) (n d : Nat) : Text :=
  let all := Text.ofNat (roundedDiv (n * Nat.pow 10 places) d)
  let all := List.replicate (places + 1 - all.length) '0' ++ all
  let front := all.take (all.length - places)
  front ++ (if 0 < places || point then ['.'] else []) ++ all.drop front.length

/-- A fraction times a power of ten. -/
def scaled (power : Int) (n d : Nat) : Nat × Nat :=
  if 0 ≤ power then (n * Nat.pow 10 power.toNat, d) else (n, d * Nat.pow 10 (-power).toNat)

/-- The decimal exponent of a fraction that is not zero, as long as it has at most `fuel` places. -/
def exponentOf (n d : Nat) : Int :=
  if d ≤ n then (Nat.toDigits 10 (n / d)).length - 1
  else -((Nat.toDigits 10 ((d - 1) / n)).length : Int)

/-- The digits of a fraction, of which one stands in front of the point, and its exponent. -/
def scientific (places n d : Nat) : Text × Int :=
  if n = 0 then (List.replicate (places + 1) '0', 0)
  else
    let exponent := exponentOf n d
    let (a, b) := scaled (places - exponent) n d
    let digits := Text.ofNat (roundedDiv a b)
    if places + 1 < digits.length then (digits.dropLast, exponent + 1) else (digits, exponent)

/-- An exponent, with its sign and at least two digits. -/
def exponentText (mark : Char) (exponent : Int) : Text :=
  let digits := Text.ofNat exponent.natAbs
  mark :: (if exponent < 0 then '-' else '+')
    :: (List.replicate (2 - digits.length) '0' ++ digits)

/-- A digit, the digits behind the point, and an exponent. -/
def withExponent (mark : Char) (point : Bool) (digits : Text) (exponent : Int) : Text :=
  digits.take 1 ++ (if 1 < digits.length || point then ['.'] else []) ++ digits.drop 1
    ++ exponentText mark exponent

/-- A text of digits with a point, without the zeros at its end. -/
def withoutZeros (s : Text) : Text :=
  if s.contains '.' then Text.dropEnd ['.'] (Text.dropEndWhile (· == '0') s) else s

/-- A fraction in whichever way is shorter. -/
def general (c : Conversion) (mark : Char) (n d : Nat) : Text :=
  let places := max (c.precision.getD 6) 1
  let (digits, exponent) := scientific (places - 1) n d
  if exponent < -4 ∨ (places : Int) ≤ exponent then
    let digits :=
      if c.has '#' then digits else digits.take 1 ++ Text.dropEndWhile (· == '0') (digits.drop 1)
    withExponent mark (c.has '#') digits exponent
  else
    let text := fixed (places - 1 - exponent).toNat (c.has '#') n d
    if c.has '#' then text else withoutZeros text

/-- A number of steps in hexadecimal digits. -/
def hexadecimal (c : Conversion) (steps : Nat) (exponent : Int) : Text :=
  if steps = 0 then "0x0p+0"
  else
    let bits := (Nat.toDigits 2 steps).length
    let scaledUp := steps * Nat.pow 2 (53 - bits)
    let exponent := exponent - (53 - bits : Nat) + 52
    let places := c.precision.getD 13
    let rounded :=
      if places < 13 then roundedDiv scaledUp (Nat.pow 16 (13 - places)) else scaledUp
    let digits := Nat.toDigits 16 rounded
    let rest := if c.precision.isNone then Text.dropEndWhile (· == '0') (digits.drop 1)
      else digits.drop 1
    let sign : Text := if exponent < 0 then ['-'] else ['+']
    "0x".toList ++ digits.take 1 ++ (if rest.isEmpty then [] else '.' :: rest) ++ ['p'] ++ sign
      ++ Text.ofNat exponent.natAbs

/-- A floating-point number as the letter says. -/
def float (c : Conversion) (x : Float) : Text :=
  let lower := c.letter.toLower
  let cased (s : Text) : Text := if c.letter.isUpper then s.map Char.toUpper else s
  match Stored.ofFloat x with
  | .notNumber => c.pad false (c.sign false) (cased "nan")
  | .infinite negative => c.pad false (c.sign negative) (cased "inf")
  | .finite negative steps exponent =>
    let (n, d) := fractionOf steps exponent
    let places := c.precision.getD 6
    let body :=
      match lower with
      | 'f' => fixed places (c.has '#') n d
      | 'e' =>
        let (digits, exponent) := scientific places n d
        withExponent 'e' (c.has '#') digits exponent
      | 'a' => c.hexadecimal steps exponent
      | _ => c.general 'e' n d
    c.pad (c.has '0') (c.sign negative) (cased body)

/-- A field is at least as wide as it says. -/
theorem le_length_pad (c : Conversion) (zeros : Bool) (sign body : Text) :
    c.width ≤ (c.pad zeros sign body).length := by
  unfold pad
  split
  · simp
    omega
  · split <;> simp <;> omega

end Conversion

/-- The floating-point number that the characters in front denote, and what is left behind them. -/
def readFloat (s : Text) : Option (Float × Text) :=
  let (negative, s) := match s with
    | '-' :: t => (true, t)
    | '+' :: t => (false, t)
    | t => (false, t)
  let signed (x : Float) : Float := if negative then -x else x
  let startsWith (word : String) : Bool := word.toList.isPrefixOf (s.map Char.toLower)
  if startsWith "infinity" then some (signed (1 / 0), s.drop 8)
  else if startsWith "inf" then some (signed (1 / 0), s.drop 3)
  else if startsWith "nan" then some (signed (0 / 0), s.drop 3)
  else if startsWith "0x" && (s.drop 2).head?.any isHexDigit then
    let digits := (s.drop 2).takeWhile isHexDigit
    let n := digits.foldl (fun n c => n * 16 + hexDigitValue c) 0
    some (signed (Float.ofNat n), s.drop (2 + digits.length))
  else
    let front := s.takeWhile Char.isDigit
    let s := s.drop front.length
    let (behind, s) := match s with
      | '.' :: t => (t.takeWhile Char.isDigit, t.dropWhile Char.isDigit)
      | t => ([], t)
    if front.isEmpty && behind.isEmpty then none
    else
      let (power, s) := readPower s
      let mantissa := natOf (front ++ behind)
      let power := power - behind.length
      some (signed (Float.ofScientific mantissa (power < 0) power.natAbs), s)
where
  isHexDigit (c : Char) : Bool :=
    c.isDigit || ('a' ≤ c && c ≤ 'f') || ('A' ≤ c && c ≤ 'F')
  hexDigitValue (c : Char) : Nat :=
    if c.isDigit then c.toNat - 48 else c.toLower.toNat - 87
  /-- The power of ten behind a number. -/
  readPower (s : Text) : Int × Text :=
    match s with
    | e :: t =>
      let (negative, u) := match t with
        | '-' :: u => (true, u)
        | '+' :: u => (false, u)
        | u => (false, u)
      let digits := u.takeWhile Char.isDigit
      if (e = 'e' ∨ e = 'E') ∧ digits ≠ [] then
        let power : Int := min (natOf digits) 100000
        (if negative then -power else power, u.drop digits.length)
      else (0, s)
    | [] => (0, [])

end Virtual

end Oneshot
