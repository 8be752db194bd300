import Oneshot.Text.Basic

/-!
# Blanks

A blank is a character of Unicode's `White_Space` or one of the four information separators. Texts
are trimmed of blanks at both ends and cut into words at runs of blanks.

- `trimStart_of_isBlank` and `trimStart_of_not_isBlank`: what is removed in front.
- `isBlank_of_isWhitespace`: every character that is white space to Lean is a blank.
-/

namespace Oneshot

/-- The blank characters. -/
def isBlank (c : Char) : Bool :=
  let n := c.toNat
  (0x09 ≤ n && n ≤ 0x0D) || (0x1C ≤ n && n ≤ 0x20) || n == 0x85 || n == 0xA0 || n == 0x1680
    || (0x2000 ≤ n && n ≤ 0x200A) || n == 0x2028 || n == 0x2029 || n == 0x202F || n == 0x205F
    || n == 0x3000

namespace Text

/-- The text without the blanks at its start. -/
def trimStart (s : Text) : Text :=
  s.dropWhile isBlank

/-- The text without the blanks at its end. -/
def trimEnd (s : Text) : Text :=
  dropEndWhile isBlank s

/-- The text without the blanks at either end. -/
def trim (s : Text) : Text :=
  trimEnd (trimStart s)

/-- The maximal runs of other characters between the blanks. `word` holds, in reverse, the part of
the current run that has been read. -/
def wordsFrom (word : Text) : Text → List Text
  | [] => if word.isEmpty then [] else [word.reverse]
  | c :: cs =>
    if isBlank c then
      if word.isEmpty then wordsFrom [] cs else word.reverse :: wordsFrom [] cs
    else wordsFrom (c :: word) cs

/-- The maximal runs of other characters between the blanks. -/
def words (s : Text) : List Text :=
  wordsFrom [] s

/-- The words of the text with one space between neighbours. -/
def singleSpaced (s : Text) : Text :=
  join [' '] (words s)

@[simp] theorem trimStart_of_isBlank {c : Char} {s : Text} (h : isBlank c = true) :
    trimStart (c :: s) = trimStart s := by
  simp [trimStart, h]

@[simp] theorem trimStart_of_not_isBlank {c : Char} {s : Text} (h : isBlank c = false) :
    trimStart (c :: s) = c :: s := by
  simp [trimStart, h]

end Text

/-- The four blanks that Lean counts as white space are blanks here. -/
theorem isBlank_of_isWhitespace {c : Char} (h : c.isWhitespace = true) : isBlank c = true := by
  simp only [Char.isWhitespace, Bool.or_eq_true, decide_eq_true_eq] at h
  rcases h with ((rfl | rfl) | rfl) | rfl <;> decide

end Oneshot
