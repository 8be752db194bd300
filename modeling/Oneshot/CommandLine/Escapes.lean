import Oneshot.Text.Basic

/-!
# Escape sequences and control characters

What a command prints on a stream that is no terminal goes out without the control sequences that
set colours and move the cursor: ESC, an opening bracket, digits, semicolons and question marks, and
one letter.
What is said about wrong usage shows control characters by their numbers instead.

- `withoutEscapes_of_not_mem`: a text without ESC is unchanged.
- `withVisibleControls_of_not_control`: a text without control characters is unchanged.
-/

namespace Oneshot

namespace Text

/-- A character between the opening bracket of a control sequence and its letter. -/
def isSequenceParameter (c : Char) : Bool :=
  c.isDigit || c == ';' || c == '?'

/-- The length of the control sequence that begins here. -/
def sequenceLength? : Text → Option Nat
  | '\x1b' :: '[' :: s =>
    let parameters := s.takeWhile isSequenceParameter
    match s.drop parameters.length with
    | c :: _ => if c.isAlpha then some (parameters.length + 3) else none
    | [] => none
  | _ => none

/-- The text without control sequences, `skip` characters of which belong to one that has begun
before. -/
def withoutEscapesFrom : (skip : Nat) → Text → Text
  | _, [] => []
  | skip + 1, _ :: s => withoutEscapesFrom skip s
  | 0, c :: s =>
    match sequenceLength? (c :: s) with
    | some length => withoutEscapesFrom (length - 1) s
    | none => c :: withoutEscapesFrom 0 s

/-- The text without control sequences. -/
def withoutEscapes (s : Text) : Text :=
  withoutEscapesFrom 0 s

/-- Whether a character is a control character. -/
def isControl (c : Char) : Bool :=
  c.toNat < 0x20 || (0x7F ≤ c.toNat && c.toNat < 0xA0)

/-- The number of a character in two hexadecimal digits, behind a backslash and an `x`. -/
def controlEscape (c : Char) : Text :=
  ['\\', 'x', Nat.digitChar (c.toNat / 16), Nat.digitChar (c.toNat % 16)]

/-- The text with each control character shown by its number. -/
def withVisibleControls (s : Text) : Text :=
  s.flatMap fun c => if isControl c then controlEscape c else [c]

/-- A text without control characters is unchanged. -/
theorem withVisibleControls_of_not_control {s : Text} (h : ∀ c ∈ s, isControl c = false) :
    withVisibleControls s = s := by
  induction s with
  | nil => rfl
  | cons c cs ih =>
    have hc := h c (by simp)
    have hcs := ih fun d hd => h d (List.mem_cons_of_mem _ hd)
    simp only [withVisibleControls] at hcs
    simp [withVisibleControls, hc, hcs]

/-- A text without ESC is unchanged. -/
theorem withoutEscapes_of_not_mem {s : Text} (h : '\x1b' ∉ s) : withoutEscapes s = s := by
  have step : ∀ s : Text, '\x1b' ∉ s → withoutEscapesFrom 0 s = s := by
    intro s
    induction s with
    | nil => exact fun _ => rfl
    | cons c cs ih =>
      intro h
      simp only [List.mem_cons, not_or] at h
      have hn : sequenceLength? (c :: cs) = none := by
        unfold sequenceLength?
        split
        · next heq => exact absurd (List.cons.inj heq).1.symm h.1
        · rfl
      rw [withoutEscapesFrom, hn, ih h.2]
  exact step s h

end Text

end Oneshot
