import Oneshot.Virtual.Shell.Syntax

/-!
# The source of a script

A reader takes a script character by character and keeps count of its lines. The text of an alias is
put in front of what is left; a mark behind it tells where it ends, since an alias is not used again
inside its own text.

- `withoutMarks_eq_self`: marks are only taken where they stand.
-/

namespace Oneshot

namespace Virtual

namespace Shell

/-- A document that is still to be read: its number, the line that ends it, whether tabs in front of
its lines are dropped, and whether nothing in it is expanded. -/
structure Pending where
  number : Nat
  final : Text
  dropsTabs : Bool
  isLiteral : Bool

/-- How a token is read in place of a word, if it is read again. -/
inductive Token where
  | word (word : Word)
  /-- An operator, or a word that has a meaning of its own at its place. -/
  | sign (text : Text)
  | lineEnd
  | final
  /-- A redirection, and whether a document drops tabs. -/
  | redirect (descriptor : Nat) (direction : Direction) (dropsTabs : Bool)

/-- What a reader knows. -/
structure Source where
  rest : Text
  line : Nat
  /-- A token that is read again. -/
  held : Option Token
  /-- The number of the next document. -/
  nextDocument : Nat
  pending : List Pending
  documents : List (Nat × Word)
  aliases : List (Text × Text)
  /-- The aliases whose texts are being read, the innermost first. -/
  inUse : List Text
  /-- Whether the next word may be an alias because an alias with a blank at its end is in front. -/
  allowsAlias : Bool

/-- A reader, which may fail with a message. -/
abbrev Read (α : Type) := ExceptT Text (StateM Source) α

/-- Fails with a message. -/
def refuse {α : Type} (message : Text) : Read α :=
  throw message

/-- The source of a text. -/
def Source.ofText (text : Text) (line nextDocument : Nat) (aliases : List (Text × Text)) :
    Source :=
  ⟨text, line, none, nextDocument, [], [], aliases, [], false⟩

/-- The mark behind the text of an alias. -/
def aliasEnd : Char := Char.ofNat 0x100

/-- The mark behind the text of an alias that ends with a blank. -/
def openAliasEnd : Char := Char.ofNat 0x101

/-- Whether a character is a mark and no byte. -/
def isMark (c : Char) : Bool :=
  0x100 ≤ c.toNat

/-- The source with the marks in front of it taken. -/
def Source.withoutMarks (s : Source) : Source :=
  let marks := s.rest.takeWhile isMark
  if marks.isEmpty then s
  else { s with
    rest := s.rest.drop marks.length
    inUse := s.inUse.drop marks.length
    allowsAlias := s.allowsAlias || marks.contains openAliasEnd }

/-- Takes a character. -/
def next : Read (Option Char) := do
  let s := (← get).withoutMarks
  match s.rest with
  | [] =>
    set s
    return none
  | c :: rest =>
    set { s with rest, line := if c = '\n' then s.line + 1 else s.line }
    return some c

/-- Takes the line ends in front that a backslash hides. -/
def skipHidden : (fuel : Nat) → Read Unit
  | 0 => return
  | fuel + 1 => do
    let s := (← get).withoutMarks
    match s.rest with
    | '\\' :: '\n' :: rest =>
      set { s with rest, line := s.line + 1 }
      skipHidden fuel
    | _ => set s

/-- The character in front, which is not taken. Hidden line ends are. -/
def look : Read (Option Char) := do
  skipHidden ((← get).rest.length + 1)
  return (← get).rest.head?

/-- Takes the character in front, behind hidden line ends. -/
def take : Read (Option Char) := do
  let c ← look
  match c with
  | none => return none
  | some _ => next

/-- Takes the character in front if it is `c`. -/
def takeIf (c : Char) : Read Bool := do
  if (← look) = some c then
    let _ ← next
    return true
  else return false

/-- Takes the characters in front that satisfy `p`. -/
def takeWhile (p : Char → Bool) : (fuel : Nat) → Read Text
  | 0 => return []
  | fuel + 1 => do
    match ← look with
    | some c =>
      if p c then
        let _ ← next
        return c :: (← takeWhile p fuel)
      else return []
    | none => return []

/-- Takes all the characters in front that satisfy `p`. -/
def takeAll (p : Char → Bool) : Read Text := do
  takeWhile p ((← get).rest.length + 1)

/-- A source whose first character is a byte has no marks in front. -/
theorem withoutMarks_eq_self {s : Source} {c : Char} (h : s.rest.head? = some c)
    (hm : isMark c = false) : s.withoutMarks = s := by
  obtain ⟨rest, hr⟩ : ∃ rest, s.rest = c :: rest := by
    cases hs : s.rest with
    | nil => simp [hs] at h
    | cons d rest =>
      simp only [hs, List.head?_cons, Option.some.injEq] at h
      exact ⟨rest, by rw [h]⟩
  simp [Source.withoutMarks, hr, hm]

end Shell

end Virtual

end Oneshot
