import Oneshot.Virtual.Tool.Sed.Script

/-!
# How scripts of the line editor are written

A command is a letter with what belongs to it, behind the lines for which it is meant. Expressions
and their replacements stand between signs that the script chooses. A fault is told with the number
of characters that have been read up to it.

- `readSign_of_ne`: a character that means nothing of its own belongs to a text between signs.
-/

namespace Oneshot

namespace Virtual

namespace Tool

namespace Sed

/-- Why a script cannot be read, and how much of it is left there. -/
structure Fault where
  message : Text
  left : Nat

/-- What is left of a script, how its expressions are written, and how much was left where the
blocks begin that are open. -/
structure Reading where
  rest : Text
  isExtended : Bool
  blocks : List Nat

/-- A step of reading. -/
abbrev Read (α : Type) := StateT Reading (Except Fault) α

/-- Refuses a script. -/
def refuse {α : Type} (message : Text) : Read α := do
  throw ⟨message, (← get).rest.length⟩

/-- The next character. -/
def look : Read (Option Char) := do
  return (← get).rest.head?

/-- Goes on behind the next character. -/
def skip : Read Unit :=
  modify fun r => { r with rest := r.rest.drop 1 }

/-- Takes the next character. -/
def take : Read (Option Char) := do
  let c? ← look
  skip
  return c?

/-- Takes the characters in front that are all of a kind. -/
def takeWhile (isMeant : Char → Bool) : Read Text := do
  let r ← get
  let front := r.rest.takeWhile isMeant
  set { r with rest := r.rest.drop front.length }
  return front

/-- A character that may stand between the parts of a command. -/
def isBlank (c : Char) : Bool :=
  c == ' ' || c == '\t'

/-- Goes on behind blanks. -/
def skipBlanks : Read Unit := do
  let _ ← takeWhile isBlank

/-- The number in front, which is zero if there is none. -/
def takeNumber : Read Nat := do
  return natOf (← takeWhile Char.isDigit)

/-- The end of a command. -/
def endCommand : Read Unit := do
  skipBlanks
  match ← look with
  | none | some '\x7d' | some '#' => return
  | some c =>
    skip
    if c ≠ '\n' ∧ c ≠ ';' then refuse "extra characters after command"

/-! ### Texts between signs -/

/-- The character that a letter behind a backslash stands for. -/
def control? (c : Char) : Option Char :=
  match c with
  | 'a' => some '\x07'
  | 'f' => some '\x0c'
  | 'n' => some '\n'
  | 'r' => some '\r'
  | 't' => some '\t'
  | 'v' => some '\x0b'
  | _ => none

/-- The value of a digit. -/
def digitValue (c : Char) : Nat :=
  if c.isDigit then c.toNat - 48 else c.toLower.toNat - 87

/-- A digit of a number that is written with a base. -/
def isDigitOf (base : Nat) (c : Char) : Bool :=
  (c.isDigit || 'a' ≤ c.toLower && c.toLower ≤ 'f') && digitValue c < base

/-- The character whose number stands behind a backslash, and what is left. -/
def numbered? (s : Text) : Option (Char × Text) :=
  let read (base count : Nat) (rest : Text) : Option (Char × Text) :=
    let digits := (rest.take count).takeWhile (isDigitOf base)
    if digits.isEmpty then none
    else
      let n := digits.foldl (fun n c => n * base + digitValue c) 0
      some (Char.ofNat (n % 256), rest.drop digits.length)
  match s with
  | 'x' :: rest => read 16 2 rest
  | 'o' :: rest => read 8 3 rest
  | 'd' :: rest => read 10 3 rest
  | 'c' :: c :: rest => some (Char.ofNat (c.toUpper.toNat ^^^ 64), rest)
  | _ => none

/-- What a set between brackets holds in front, up to its end, and what is left. -/
def setText (s : Text) : Text × Text :=
  let start : Text := match s with
    | '^' :: ']' :: _ => "^]"
    | '^' :: _ => "^"
    | ']' :: _ => "]"
    | _ => []
  go (s.length + 1) start.reverse (s.drop start.length)
where
  /-- Goes on inside of the set, behind what is in reverse. -/
  go : (fuel : Nat) → Text → Text → Text × Text
  | 0, front, s => (front.reverse, s)
  | _, front, [] => (front.reverse, [])
  | _, front, ']' :: rest => ((']' :: front).reverse, rest)
  | fuel + 1, front, '[' :: c :: rest =>
    if c = ':' ∨ c = '.' ∨ c = '=' then
      let name := match Text.cutFirst? [c, ']'] rest with
        | some (name, _) => name ++ [c, ']']
        | none => rest
      go fuel (name.reverse ++ c :: '[' :: front) (rest.drop name.length)
    else go fuel ('[' :: front) (c :: rest)
  | fuel + 1, front, c :: rest => go fuel (c :: front) rest

/-- The text up to a sign, which is taken, behind what is in reverse. In an expression a set may
hold the sign. Without the sign there is none. -/
def readSign (sign : Char) (inRegex : Bool) : (fuel : Nat) → Text → Read (Option Text)
  | 0, _ => return none
  | fuel + 1, front => do
    match ← look with
    | none | some '\n' => return none
    | some c =>
      skip
      if c = sign then return some front.reverse
      else if c = '\\' then
        match ← take with
        | none => return none
        | some d =>
          if d = '\n' then readSign sign inRegex fuel ((if inRegex then [d] else [d, c]) ++ front)
          else if d = sign && (inRegex || d != '&') then readSign sign inRegex fuel (d :: front)
          else readSign sign inRegex fuel (d :: c :: front)
      else if c = '[' && inRegex then
        let r ← get
        let (set, rest) := setText r.rest
        MonadState.set { r with rest }
        readSign sign inRegex fuel (set.reverse ++ c :: front)
      else readSign sign inRegex fuel (c :: front)

/-- An expression in which numbers of characters are replaced by the characters. -/
def withoutNumbers : (fuel : Nat) → Text → Text
  | 0, s => s
  | _, [] => []
  | fuel + 1, '\\' :: rest =>
    match numbered? rest, rest with
    | some (c, rest), _ =>
      (if c.isAlphanum then [c] else ['\\', c]) ++ withoutNumbers fuel rest
    | none, c :: rest => '\\' :: c :: withoutNumbers fuel rest
    | none, [] => ['\\']
  | fuel + 1, c :: rest => c :: withoutNumbers fuel rest

/-- The expression of a text; an empty text is the last one that was used. -/
def readPattern (folds : Bool) (text : Text) : Read Pattern := do
  let r ← get
  if text.isEmpty then return none
  else
    match Regex.read ⟨r.isExtended, false, true⟩ (withoutNumbers (text.length + 1) text) with
    | .ok regex => return some (regex, folds)
    | .error fault => refuse fault.message

/-- The pieces of a replacement. -/
def readPieces : (fuel : Nat) → Text → List Piece
  | 0, _ => []
  | _, [] => []
  | fuel + 1, '&' :: rest => .group 0 :: readPieces fuel rest
  | fuel + 1, '\\' :: rest =>
    match numbered? rest, rest with
    | some (c, rest), _ => .char c :: readPieces fuel rest
    | none, [] => [.char '\\']
    | none, c :: rest =>
      let piece : Piece :=
        if c.isDigit then .group (c.toNat - 48)
        else
          match c with
          | 'U' => .casing .upper
          | 'L' => .casing .lower
          | 'u' => .casing .upperOnce
          | 'l' => .casing .lowerOnce
          | 'E' => .casing .asIs
          | c => .char ((control? c).getD c)
      piece :: readPieces fuel rest
  | fuel + 1, c :: rest => .char c :: readPieces fuel rest

/-! ### Addresses -/

/-- The signs behind the expression of an address: whether it takes no notice of case. -/
def readAddressFlags : (fuel : Nat) → (folds : Bool) → Read Bool
  | 0, folds => return folds
  | fuel + 1, folds => do
    skipBlanks
    match ← look with
    | some 'I' =>
      skip
      readAddressFlags fuel true
    | some 'M' =>
      skip
      readAddressFlags fuel folds
    | _ => return folds

/-- The reach in front, if there is one. A mere address is a reach up to it. -/
def readReach? : Read (Option Reach) := do
  match ← look with
  | some '$' =>
    skip
    return some (.upTo .last)
  | some '+' =>
    skip
    skipBlanks
    return some (.more (← takeNumber))
  | some '~' =>
    skip
    skipBlanks
    return some (.multipleOf (← takeNumber))
  | some c =>
    if c = '/' ∨ c = '\\' then
      skip
      let sign ← if c = '/' then pure c else do pure ((← take).getD '\n')
      match ← readSign sign true ((← get).rest.length + 1) [] with
      | none => refuse "unterminated address regex"
      | some text =>
        let folds ← readAddressFlags ((← get).rest.length + 1) false
        return some (.upTo (.matching (← readPattern folds text)))
    else if c.isDigit then
      let first ← takeNumber
      skipBlanks
      if (← look) = some '~' then
        skip
        skipBlanks
        let step ← takeNumber
        return some (.upTo (if step = 0 then .line first else .every first step))
      else return some (.upTo (.line first))
    else return none
  | none => return none

/-- The lines for which a command is meant. -/
def readSelection : Read Selection := do
  let start? ← readReach?
  let selection : Selection ← match start? with
    | none => pure ⟨none, none, false⟩
    | some (.upTo start) => do
      skipBlanks
      if (← look) = some ',' then
        skip
        skipBlanks
        match ← readReach? with
        | none =>
          skip
          refuse "unexpected `,'"
        | some reach => pure ⟨some start, some reach, false⟩
      else pure ⟨some start, none, false⟩
    | some _ => refuse "invalid usage of +N or ~N as first address"
  skipBlanks
  if (← look) = some '!' then
    skip
    skipBlanks
    if (← look) = some '!' then
      skip
      refuse "multiple `!'s"
    else return { selection with isOpposite := true }
  else return selection

/-- A character that means nothing of its own belongs to a text between signs. -/
theorem readSign_of_ne {sign c : Char} (h : c ≠ sign) (hn : c ≠ '\n') (hb : c ≠ '\\')
    (isExtended : Bool) (blocks : List Nat) (fuel : Nat) (front rest : Text) :
    (readSign sign false (fuel + 1) front).run ⟨c :: rest, isExtended, blocks⟩
      = (readSign sign false fuel (c :: front)).run ⟨rest, isExtended, blocks⟩ := by
  simp [readSign, look, skip, h, hb]

end Sed

end Tool

end Virtual

end Oneshot
