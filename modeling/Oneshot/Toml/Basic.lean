import Oneshot.Text.Numeral

/-!
# Reading TOML

A reader takes what is left of a document and returns what it has read together with what is then
left. This module holds the faults, the result of a reader, and what may stand between two tokens:
blanks, line ends and comments.

- `length_skipBlanks` and `length_skipGaps`: skipping never makes the rest longer.
-/

namespace Oneshot

namespace Toml

/-- What is wrong with a document. -/
inductive Defect where
  | invalidStatement
  | invalidValue
  | invalidDate
  | invalidKey
  | invalidCharacter
  | invalidEscape
  | unterminatedText
  | unclosedArray
  | unclosedTable
  | unclosedHeader
  | missingEquals
  | missingLineEnd
  | alreadyDefined
  /-- A whole number with this many decimal digits. -/
  | tooManyDigits (count : Nat)
deriving DecidableEq, Repr

/-- A defect and how much of the document is left where it shows. -/
structure Fault where
  defect : Defect
  remaining : Nat
deriving DecidableEq, Repr

/-- The wording of a defect. -/
def Defect.message : Defect → Text
  | .invalidStatement => "invalid statement"
  | .invalidValue => "invalid value"
  | .invalidDate => "invalid date"
  | .invalidKey => "invalid key"
  | .invalidCharacter => "invalid character"
  | .invalidEscape => "invalid escape"
  | .unterminatedText => "unterminated string"
  | .unclosedArray => "unclosed array"
  | .unclosedTable => "unclosed inline table"
  | .unclosedHeader => "unclosed header"
  | .missingEquals => "expected '=' after a key"
  | .missingLineEnd => "expected the end of the line"
  | .alreadyDefined => "already defined"
  | .tooManyDigits count => (Text.NumeralFault.tooManyDigits count).message

/-- The line of the document on which a fault lies, counted from one. -/
def Fault.line (source : Text) (f : Fault) : Nat :=
  ((source.take (source.length - f.remaining)).filter (· == '\n')).length + 1

/-- The wording of a fault in a document. -/
def Fault.message (source : Text) (f : Fault) : Text :=
  f.defect.message ++ " (line ".toList ++ Text.ofNat (f.line source) ++ [')']

/-- What has been read and what is left. -/
structure Read (α : Type) where
  value : α
  rest : Text
deriving Repr

/-- The outcome of a reader. -/
abbrev Reading (α : Type) := Except Fault (Read α)

namespace Reading

/-- The outcome with a function applied to what has been read. -/
def map {α β : Type} (f : α → β) : Reading α → Reading β
  | .ok r => .ok ⟨f r.value, r.rest⟩
  | .error e => .error e

/-- The outcome that stops in front of `rest` because of a defect. -/
def stop {α : Type} (defect : Defect) (rest : Text) : Reading α :=
  .error ⟨defect, rest.length⟩

end Reading

/-- A blank within a line. -/
def isSpace (c : Char) : Bool :=
  c == ' ' || c == '\t'

/-- A control character that no comment and no one-line string may hold. -/
def isControl (c : Char) : Bool :=
  (c.toNat < 0x20 && c != '\t') || c.toNat == 0x7F

/-- The rest behind the blanks in front of it. -/
def skipBlanks (s : Text) : Text :=
  s.dropWhile isSpace

/-- The rest behind a comment, if one stands here; its line end stays. -/
def skipComment : Text → Except Fault Text
  | '#' :: s =>
    let rest := s.dropWhile (· != '\n')
    if (s.takeWhile (· != '\n')).any isControl then .error ⟨.invalidCharacter, s.length⟩
    else .ok rest
  | s => .ok s

/-- The rest behind blanks, line ends and comments. -/
def skipGaps : (inComment : Bool) → Text → Except Fault Text
  | _, [] => .ok []
  | true, c :: s =>
    if c = '\n' then skipGaps false s
    else if isControl c then .error ⟨.invalidCharacter, s.length + 1⟩
    else skipGaps true s
  | false, c :: s =>
    if isSpace c || c == '\n' then skipGaps false s
    else if c = '#' then skipGaps true s
    else .ok (c :: s)

theorem length_skipBlanks (s : Text) : (skipBlanks s).length ≤ s.length :=
  (List.dropWhile_suffix isSpace).length_le

theorem length_skipGaps {inComment : Bool} {s rest : Text} (h : skipGaps inComment s = .ok rest) :
    rest.length ≤ s.length := by
  induction s generalizing inComment with
  | nil =>
    cases inComment <;> simp only [skipGaps, Except.ok.injEq] at h <;> simp [← h]
  | cons c s ih =>
    have step {b : Bool} (h : skipGaps b s = .ok rest) : rest.length ≤ (c :: s).length :=
      Nat.le_succ_of_le (ih h)
    cases inComment with
    | true =>
      simp only [skipGaps] at h
      split at h
      · exact step h
      · split at h
        · simp at h
        · exact step h
    | false =>
      simp only [skipGaps] at h
      split at h
      · exact step h
      · split at h
        · exact step h
        · simp only [Except.ok.injEq] at h
          simp [← h]

end Toml

end Oneshot
