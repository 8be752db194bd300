import Oneshot.Toml.Basic

/-!
# Strings of a TOML document

A string stands between quotes, where a backslash begins an escape, or between apostrophes, where
every character stands for itself. Either kind may run over several lines when its mark is written
three times; up to two more marks may then stand in front of the last three.
-/

namespace Oneshot

namespace Toml

/-- What a string skips at a place: nothing, or the blanks behind a backslash that ends a line. -/
inductive Skip where
  | nothing
  /-- Blanks up to the end of the line. -/
  | toLineEnd
  /-- Blanks and line ends up to the next text. -/
  | toText
deriving DecidableEq, Repr

/-- The value of a hexadecimal digit. -/
def hexDigitValue? (c : Char) : Option Nat :=
  if c.isDigit then some (c.toNat - 48)
  else if 'a' ≤ c ∧ c ≤ 'f' then some (c.toNat - 87)
  else if 'A' ≤ c ∧ c ≤ 'F' then some (c.toNat - 55)
  else none

/-- The character whose number is written with these hexadecimal digits. -/
def charOfHex? (digits : Text) : Option Char :=
  (digits.mapM hexDigitValue?).bind fun values =>
    let n := values.foldl (fun n d => n * 16 + d) 0
    if n.isValidChar then some (Char.ofNat n) else none

/-- The character that a one-letter escape stands for. -/
def escaped? (c : Char) : Option Char :=
  match c with
  | 'b' => some '\x08'
  | 't' => some '\t'
  | 'n' => some '\n'
  | 'f' => some '\x0c'
  | 'r' => some '\r'
  | '"' => some '"'
  | '\\' => some '\\'
  | _ => none

/-- The end of a string that runs over several lines, behind its last three marks: up to two more
marks belong to the string. -/
def extraMarks (mark : Char) : Text → Read Text
  | c :: d :: s =>
    if c = mark then if d = mark then ⟨[mark, mark], s⟩ else ⟨[mark], d :: s⟩ else ⟨[], c :: d :: s⟩
  | [c] => if c = mark then ⟨[mark], []⟩ else ⟨[], [c]⟩
  | [] => ⟨[], []⟩

/-- Puts a character, if an escape has given one, in front of the rest of a string. -/
def withChar (c? : Option Char) (here : Text) (rest : Reading Text) : Reading Text :=
  match c? with
  | some c => rest.map (c :: ·)
  | none => .stop .invalidEscape here

/-- The rest of a string between quotes. -/
def readEscaped (multiline : Bool) : Skip → Text → Reading Text
  | _, [] => .stop .unterminatedText []
  | .toLineEnd, c :: s =>
    if isSpace c then readEscaped multiline .toLineEnd s
    else if c = '\n' then readEscaped multiline .toText s
    else .stop .invalidEscape (c :: s)
  | skip, c :: s =>
    if skip = .toText ∧ (isSpace c || c == '\n') = true then readEscaped multiline .toText s
    else if c = '"' then
      if multiline then
        match s with
        | '"' :: '"' :: rest => .ok (extraMarks '"' rest)
        | _ => (readEscaped multiline .nothing s).map ('"' :: ·)
      else .ok ⟨[], s⟩
    else if c = '\\' then
      match s with
      | 'u' :: a :: b :: d :: e :: rest =>
        withChar (charOfHex? [a, b, d, e]) s (readEscaped multiline .nothing rest)
      | 'U' :: a :: b :: d :: e :: f :: g :: h :: i :: rest =>
        withChar (charOfHex? [a, b, d, e, f, g, h, i]) s (readEscaped multiline .nothing rest)
      | d :: rest =>
        if multiline && isSpace d then readEscaped multiline .toLineEnd rest
        else if multiline && d == '\n' then readEscaped multiline .toText rest
        else withChar (escaped? d) s (readEscaped multiline .nothing rest)
      | [] => .stop .unterminatedText []
    else if isControl c && !(multiline && c == '\n') then .stop .invalidCharacter (c :: s)
    else (readEscaped multiline .nothing s).map (c :: ·)

/-- The rest of a string between apostrophes. -/
def readLiteral (multiline : Bool) : Text → Reading Text
  | [] => .stop .unterminatedText []
  | c :: s =>
    if c = '\'' then
      if multiline then
        match s with
        | '\'' :: '\'' :: rest => .ok (extraMarks '\'' rest)
        | _ => (readLiteral multiline s).map ('\'' :: ·)
      else .ok ⟨[], s⟩
    else if isControl c && !(multiline && c == '\n') then .stop .invalidCharacter (c :: s)
    else (readLiteral multiline s).map (c :: ·)

/-- The rest behind a line end, if one stands here. -/
def skipLineEnd : Text → Text
  | '\n' :: s => s
  | s => s

/-- The string that stands here, if one does. -/
def readString? : Text → Option (Reading Text)
  | '"' :: '"' :: '"' :: s => some (readEscaped true .nothing (skipLineEnd s))
  | '"' :: s => some (readEscaped false .nothing s)
  | '\'' :: '\'' :: '\'' :: s => some (readLiteral true (skipLineEnd s))
  | '\'' :: s => some (readLiteral false s)
  | _ => none

/-! ### Keys -/

/-- A character of a key that is written without quotes. -/
def isBareKeyChar (c : Char) : Bool :=
  c.isAlphanum || c == '-' || c == '_'

/-- One part of a key: bare, or a string on one line. -/
def readKeyPart : Text → Reading Text
  | '"' :: s => readEscaped false .nothing s
  | '\'' :: s => readLiteral false s
  | s =>
    let part := s.takeWhile isBareKeyChar
    if part.isEmpty then .stop .invalidKey s else .ok ⟨part, s.dropWhile isBareKeyChar⟩

/-- The parts of a key, with dots between them, and the blanks behind it. There are at most `fuel`
further parts. -/
def readKeyParts : (fuel : Nat) → Text → Reading (List Text)
  | fuel, s =>
    match readKeyPart s with
    | .error e => .error e
    | .ok part =>
      match fuel, skipBlanks part.rest with
      | fuel + 1, '.' :: rest => (readKeyParts fuel (skipBlanks rest)).map (part.value :: ·)
      | _, rest => .ok ⟨[part.value], rest⟩

/-- A key. -/
def readKey (s : Text) : Reading (List Text) :=
  readKeyParts s.length s

end Toml

end Oneshot
