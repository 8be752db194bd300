import Oneshot.Virtual.Format
import Oneshot.Virtual.Shell.Arithmetic

/-!
# What `echo` and `printf` print

Both resolve escapes: a backslash and a letter, or up to three octal digits. `printf` uses its
format again as long as arguments are left.

- `resolve_plain`: a text without backslashes is printed as it is.
-/

namespace Oneshot

namespace Virtual

namespace Shell

/-- The number that octal digits denote, as a byte. -/
def octalByte (digits : Text) : Char :=
  Char.ofNat (octalOf digits % 256)

/-- The character of an escape with a letter. -/
def escapedChar? (c : Char) : Option Char :=
  match c with
  | '\\' => some '\\'
  | 'a' => some '\x07'
  | 'b' => some '\x08'
  | 'e' => some '\x1b'
  | 'f' => some '\x0c'
  | 'n' => some '\n'
  | 'r' => some '\r'
  | 't' => some '\t'
  | 'v' => some '\x0b'
  | _ => none

/-- The character of the escape behind a backslash, and how many characters it takes. -/
def escape? (s : Text) : Option (Char × Nat) :=
  match s with
  | [] => none
  | c :: _ =>
    if isOctal c then
      let digits := (s.take 3).takeWhile isOctal
      some (octalByte digits, digits.length)
    else (escapedChar? c).map (·, 1)

/-- The text of an argument with its escapes resolved, and whether printing goes on behind it;
`skip` characters belong to an escape in front. -/
def resolveArgument : (skip : Nat) → Text → Text × Bool
  | _, [] => ([], true)
  | skip + 1, _ :: s => resolveArgument skip s
  | 0, c :: s =>
    if c = '\\' then
      if s.head? = some 'c' then ([], false)
      else
        let isZero := s.head? = some '0' && (s.drop 1).head?.any isOctal
        match escape? (if isZero then s.drop 1 else s) with
        | some (d, length) =>
          let (rest, more) := resolveArgument (if isZero then length + 1 else length) s
          (d :: rest, more)
        | none =>
          let (rest, more) := resolveArgument 0 s
          (c :: rest, more)
    else
      let (rest, more) := resolveArgument 0 s
      (c :: rest, more)

/-- The arguments of `echo` one after the other, and whether a line end follows. -/
def echoText : List Text → Text × Bool
  | [] => ([], true)
  | [argument] => resolveArgument 0 argument
  | argument :: rest =>
    match resolveArgument 0 argument with
    | (text, false) => (text, false)
    | (text, true) =>
      let (more, goesOn) := echoText rest
      (text ++ ' ' :: more, goesOn)

/-- What the shell's `echo` prints. -/
def echo (arguments : List Text) : Text :=
  let (endsLine, arguments) :=
    if arguments.head? = some "-n".toList then (false, arguments.drop 1) else (true, arguments)
  let (text, goesOn) := echoText arguments
  text ++ (if endsLine && goesOn then ['\n'] else [])

/-- A text without backslashes is printed as it is. -/
theorem resolve_plain {s : Text} (h : '\\' ∉ s) : resolveArgument 0 s = (s, true) := by
  induction s with
  | nil => rfl
  | cons c s ih =>
    simp only [List.mem_cons, not_or] at h
    have hc : c ≠ '\\' := fun e => h.1 e.symm
    simp [resolveArgument, hc, ih h.2]

/-! ### Formats -/

/-- What is wrong with an argument that should be a number. -/
inductive NumberFault where
  | noNumber
  /-- Something stands behind the number. -/
  | goesOn
  | tooLarge
deriving DecidableEq, Repr

/-- An argument with what is wrong with it. -/
structure Warning where
  argument : Text
  fault : NumberFault
deriving DecidableEq, Repr

/-- What the shell says of an argument. -/
def Warning.message (w : Warning) : Text :=
  let cause : Text := match w.fault with
    | .noNumber => ": expected numeric value"
    | .goesOn => ": not completely converted"
    | .tooLarge => ": Numerical result out of range"
  w.argument ++ cause

/-- Why a format cannot be used up to its end. -/
inductive FormatFault where
  | noLetter
  /-- A conversion that does not exist, as it is written. -/
  | noConversion (spelling : Text)
deriving DecidableEq, Repr

/-- What the shell says of a format. -/
def FormatFault.message : FormatFault → Text
  | .noLetter => "missing format character"
  | .noConversion spelling => spelling ++ ": invalid directive".toList

/-- What a format has printed: the text, what is said about arguments, and why printing has stopped
short, if it has. -/
structure Printed where
  /-- The text in reverse. -/
  text : Text
  warnings : List Warning
  fault : Option FormatFault
  arguments : List Text

/-- A step of printing; it breaks off without a fault where an argument asks for that. -/
abbrev Print (α : Type) := ExceptT (Option FormatFault) (StateM Printed) α

namespace Printed

/-- Prints a text. -/
def emit (text : Text) : Print Unit :=
  modify fun p => { p with text := text.reverse ++ p.text }

/-- Says something about an argument. -/
def warn (argument : Text) (fault : NumberFault) : Print Unit :=
  modify fun p => { p with warnings := p.warnings ++ [Warning.mk argument fault] }

/-- Stops with a fault. -/
def stop {α : Type} (fault : FormatFault) : Print α :=
  throw (some fault)

/-- The next argument, which may be missing. -/
def argument? : Print (Option Text) := do
  let p ← get
  set { p with arguments := p.arguments.drop 1 }
  return p.arguments.head?

/-- Says what is wrong with a number of which `rest` was not read. -/
def checkNumber (s rest : Text) : Print Unit := do
  if !rest.isEmpty then warn s (if rest = s then .noNumber else .goesOn)

/-- The whole number that an argument denotes; a quotation mark in front stands for the number of
the character behind it. -/
def integer (signed : Bool) : Print Int := do
  match ← argument? with
  | none => return 0
  | some s =>
    match s with
    | '"' :: rest | '\'' :: rest => return (rest.headD '\x00').toNat
    | s =>
      let body := s.dropWhile isSpace
      let (negative, digits) := match body with
        | '-' :: t => (true, t)
        | '+' :: t => (false, t)
        | t => (false, t)
      if digits.head?.any Char.isDigit then
        let (n, rest) := Arithmetic.readNumber digits
        let limit : Nat :=
          if !signed then Nat.pow 2 64 - 1
          else if negative then Nat.pow 2 63 else Nat.pow 2 63 - 1
        if limit < n then
          if rest.isEmpty then warn s .tooLarge else checkNumber s rest
          return if signed && negative then -(limit : Int) else limit
        else
          checkNumber s rest
          return if negative then -(n : Int) else n
      else
        checkNumber s s
        return 0

/-- The floating-point number that an argument denotes. -/
def float : Print Float := do
  match ← argument? with
  | none => return 0
  | some s =>
    match s with
    | '"' :: rest | '\'' :: rest => return Float.ofNat (rest.headD '\x00').toNat
    | s =>
      match readFloat (s.dropWhile isSpace) with
      | none =>
        checkNumber s s
        return 0
      | some (x, rest) =>
        if rest.isEmpty && !x.isFinite && s.any Char.isDigit then warn s .tooLarge
        else checkNumber s rest
        return x

/-- A number of a conversion, which may be left to an argument, and what is left behind it. -/
def measure (s : Text) : Print (Option Int × Text) := do
  match s with
  | '*' :: rest => return (some (← integer true), rest)
  | s =>
    let digits := s.takeWhile Char.isDigit
    return (natOf? digits |>.map fun n => (n : Int), s.drop digits.length)

/-- The conversion behind a percent sign, and what is left behind it. -/
def conversion (s : Text) : Print (Conversion × Text) := do
  let flags := s.takeWhile fun c => "-+ #0".toList.contains c
  let (width?, rest) ← measure (s.drop flags.length)
  let (precision?, rest) ← match rest with
    | '.' :: rest => do
      let (precision?, rest) ← measure rest
      pure (some (precision?.getD 0), rest)
    | rest => pure (none, rest)
  match rest with
  | [] => stop .noLetter
  | letter :: rest =>
    let width := width?.getD 0
    let flags := if width < 0 then '-' :: flags else flags
    let precision := precision?.bind fun n => if n < 0 then none else some n.toNat
    return (⟨flags, width.natAbs, precision, letter⟩, rest)

/-- Prints an argument by a conversion, of which `spelling` is the text. -/
def convert (c : Conversion) (spelling : Text) : Print Unit := do
  let letter := c.letter
  if letter = 's' then emit (c.text ((← argument?).getD []))
  else if letter = 'c' then
    emit (c.pad false [] [((← argument?).getD []).headD '\x00'])
  else if letter = 'b' then
    let (text, goesOn) := resolveArgument 0 ((← argument?).getD [])
    emit (c.text text)
    if !goesOn then throw none
  else if letter = 'd' ∨ letter = 'i' then emit (c.integer (← integer true))
  else if "ouxX".toList.contains letter then
    emit (c.natural (Arithmetic.bitsOf (← integer false)))
  else if "aAeEfFgG".toList.contains letter then emit (c.float (← float))
  else stop (.noConversion spelling)

/-- Prints by a format once; it has at most `fuel` characters. -/
def once : (fuel : Nat) → Text → Print Unit
  | 0, _ => return
  | _, [] => return
  | fuel + 1, c :: s => do
    if c = '\\' then
      match escape? s with
      | some (d, length) =>
        emit [d]
        once fuel (s.drop length)
      | none =>
        emit [c]
        once fuel s
    else if c = '%' ∧ s.head? = some '%' then
      emit [c]
      once fuel (s.drop 1)
    else if c = '%' then
      let (conversion, rest) ← conversion s
      convert conversion (c :: s.take (s.length - rest.length))
      once fuel rest
    else
      emit [c]
      once fuel s

/-- Prints by a format, again as long as it takes arguments and some are left. -/
def all : (fuel : Nat) → Text → Print Unit
  | 0, _ => return
  | fuel + 1, format => do
    let before := (← get).arguments.length
    once format.length format
    let after := (← get).arguments.length
    if after < before && 0 < after then all fuel format

end Printed

/-- What `printf` prints for a format and arguments. -/
def printf (format : Text) (arguments : List Text) : Printed :=
  let start : Printed := ⟨[], [], none, arguments⟩
  let (ended, p) := (Printed.all (arguments.length + 1) format).run.run start
  match ended with
  | .ok () => p
  | .error fault => { p with fault }

end Shell

end Virtual

end Oneshot
