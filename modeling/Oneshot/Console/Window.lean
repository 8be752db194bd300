import Oneshot.Failure

/-!
# The window

Two variables can say how large the window is in which lines are shown. Lines are never broken, so
that the width matters only where there is none: in a window without columns nothing is shown. The
value of a variable counts where it is made of digit signs alone; it is a fault if no number can be
made of them.

- `sizeOf?_of_not_isDigitSign`: a value that holds anything but digit signs says nothing.
- `shows_of_columns`: a window that has columns, or says nothing of them, shows every line.
-/

namespace Oneshot

namespace Console

/-- What the environment says of the window. -/
structure Window where
  columns : Option Int
  rows : Option Int
deriving DecidableEq, Repr

namespace Window

/-- The size that the value of a variable gives. -/
def sizeOf? (value : Option Text) : Except Text.NumeralFault (Option Int) :=
  match value with
  | some value =>
    if !value.isEmpty && value.all Text.isDigitSign then (Text.wholeNumber value).map some
    else .ok none
  | none => .ok none

/-- The window that the environment describes; its columns are looked at first. -/
def ofVariables (vars : Variables) : Except Text.NumeralFault Window := do
  let columns ← sizeOf? (vars.get? "COLUMNS")
  let rows ← sizeOf? (vars.get? "LINES")
  return ⟨columns, rows⟩

/-- Whether lines are shown. A terminal that understands no escape sequences has columns, unless
both sizes are given. -/
def shows (window : Window) (onDumbTerminal : Bool) : Bool :=
  window.columns != some 0 || (onDumbTerminal && window.rows.isNone)

/-- The window of this run. -/
def opened : Action Window := do
  match ofVariables (← Action.ask .environment) with
  | .ok window => return window
  | .error fault => Action.escape (.numeral fault)

/-- A variable that is not set says nothing. -/
theorem sizeOf?_none : sizeOf? none = .ok none := rfl

/-- A value that holds anything but digit signs says nothing. -/
theorem sizeOf?_of_not_isDigitSign {value : Text} {c : Char} (h : c ∈ value)
    (hc : Text.isDigitSign c = false) : sizeOf? (some value) = .ok none := by
  have : value.all Text.isDigitSign = false := by
    rw [List.all_eq_false]
    exact ⟨c, h, by simp [hc]⟩
  simp [sizeOf?, this]

/-- A window that has columns, or says nothing of them, shows every line. -/
theorem shows_of_columns {window : Window} (h : window.columns ≠ some 0) (onDumbTerminal : Bool) :
    window.shows onDumbTerminal = true := by
  simp [shows, h]

end Window

end Console

end Oneshot
