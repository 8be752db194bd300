import Oneshot.Text.Basic

/-!
# Lines

A text is cut into lines at every kind of line boundary that Unicode knows and at the information
separators; the boundaries themselves are dropped, and CR LF counts as one. Text that comes from a
file or from a child process first has its CR LF and CR turned into LF.

- `not_isBoundary_of_mem_lines`: no line holds a boundary.
- `cr_not_mem_unifyNewlines`: no CR is left.
-/

namespace Oneshot

/-- The characters at which a text is cut into lines. -/
def isBoundary (c : Char) : Bool :=
  let n := c.toNat
  (0x0A ≤ n && n ≤ 0x0D) || (0x1C ≤ n && n ≤ 0x1E) || n == 0x85 || n == 0x2028 || n == 0x2029

namespace Text

/-- The lines of the text whose first line begins with `line`, given in reverse. -/
def linesFrom (line : Text) : Text → List Text
  | [] => if line.isEmpty then [] else [line.reverse]
  | '\r' :: '\n' :: cs => line.reverse :: linesFrom [] cs
  | c :: cs =>
    if isBoundary c then line.reverse :: linesFrom [] cs else linesFrom (c :: line) cs

/-- The lines of a text. A boundary at the very end opens no further line. -/
def lines (s : Text) : List Text :=
  linesFrom [] s

/-- The text with CR LF and lone CR turned into LF. -/
def unifyNewlines : Text → Text
  | [] => []
  | '\r' :: '\n' :: cs => '\n' :: unifyNewlines cs
  | c :: cs => (if c = '\r' then '\n' else c) :: unifyNewlines cs

theorem not_isBoundary_of_mem_linesFrom {line s l : Text}
    (hline : ∀ c ∈ line, isBoundary c = false) (h : l ∈ linesFrom line s) :
    ∀ c ∈ l, isBoundary c = false := by
  fun_induction linesFrom line s with
  | case1 line he => simp at h
  | case2 line he =>
    simp only [List.mem_singleton] at h
    subst h
    simpa using hline
  | case3 line cs ih =>
    rcases List.mem_cons.1 h with rfl | h
    · simpa using hline
    · exact ih (by simp) h
  | case4 line c cs _ hc ih =>
    rcases List.mem_cons.1 h with rfl | h
    · simpa using hline
    · exact ih (by simp) h
  | case5 line c cs _ hc ih =>
    refine ih ?_ h
    intro d hd
    rcases List.mem_cons.1 hd with rfl | hd
    · simpa using hc
    · exact hline d hd

/-- No line of a text holds a line boundary. -/
theorem not_isBoundary_of_mem_lines {s l : Text} (h : l ∈ lines s) :
    ∀ c ∈ l, isBoundary c = false :=
  not_isBoundary_of_mem_linesFrom (by simp) h

/-- No CR is left once the newlines are unified. -/
theorem cr_not_mem_unifyNewlines (s : Text) : '\r' ∉ unifyNewlines s := by
  fun_induction unifyNewlines s with
  | case1 => simp
  | case2 cs ih => simpa using ih
  | case3 c cs _ ih =>
    simp only [List.mem_cons, not_or]
    refine ⟨?_, ih⟩
    split
    · decide
    · next hc => exact fun h => hc h.symm

end Text

end Oneshot
