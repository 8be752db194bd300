import Oneshot.Text.Printable
import Oneshot.Text.Utf8

/-!
# Quoted texts

Messages of the system show a path between quotation marks. The marks are apostrophes, unless the
text holds an apostrophe and no double quote; the mark, the backslash and the characters that are
not printable are written as escapes.

- `quoted_of_plain`: a text of plain characters stands between apostrophes as it is.
-/

namespace Oneshot

namespace Text

/-- The lower-case hexadecimal digits of `n`, padded with zeros to `width` digits. -/
def hex : (width : Nat) → Nat → Text
  | 0, _ => []
  | width + 1, n => hex width (n / 16) ++ [Utf8.hexDigit (n % 16)]

/-- One character between quotation marks `mark`. -/
def quotedChar (mark c : Char) : Text :=
  if c = mark ∨ c = '\\' then ['\\', c]
  else if c = '\n' then ['\\', 'n']
  else if c = '\r' then ['\\', 'r']
  else if c = '\t' then ['\\', 't']
  else if isPrintable c then [c]
  else if c.toNat < 0x100 then '\\' :: 'x' :: hex 2 c.toNat
  else if c.toNat < 0x10000 then '\\' :: 'u' :: hex 4 c.toNat
  else '\\' :: 'U' :: hex 8 c.toNat

/-- The quotation mark for a text. -/
def quotationMark (s : Text) : Char :=
  if s.contains '\'' && !s.contains '"' then '"' else '\''

/-- The text between quotation marks. -/
def quoted (s : Text) : Text :=
  let mark := quotationMark s
  mark :: s.flatMap (quotedChar mark) ++ [mark]

/-- A text of printable characters without apostrophe and backslash is quoted by two marks. -/
theorem quoted_of_plain {s : Text}
    (h : ∀ c ∈ s, c ≠ '\'' ∧ c ≠ '\\' ∧ isPrintable c = true) :
    quoted s = '\'' :: s ++ ['\''] := by
  have hm : quotationMark s = '\'' := by
    have : s.contains '\'' = false := by
      cases hc : s.contains '\''
      · rfl
      · exact absurd rfl (h _ (by simpa using hc)).1
    unfold quotationMark
    rw [this]
    rfl
  have hs : s.flatMap (quotedChar '\'') = s := by
    clear hm
    induction s with
    | nil => rfl
    | cons c cs ih =>
      obtain ⟨h1, h2, h3⟩ := h c (by simp)
      have hn : c ≠ '\n' := by rintro rfl; exact absurd h3 (by decide)
      have hr : c ≠ '\r' := by rintro rfl; exact absurd h3 (by decide)
      have ht : c ≠ '\t' := by rintro rfl; exact absurd h3 (by decide)
      have hc : quotedChar '\'' c = [c] := by simp [quotedChar, h1, h2, hn, hr, ht, h3]
      rw [List.flatMap_cons, hc, ih fun d hd => h d (List.mem_cons_of_mem _ hd)]
      rfl
  simp [quoted, hm, hs]

end Text

end Oneshot
