import Oneshot.Text.Basic

/-!
# Shell words

A command is reported as a line that a shell would read back as the same words. A word of safe
characters stands for itself; any other is put between apostrophes, and an apostrophe inside it is
written as `'"'"'`.

- `shellWord_of_safe`: safe words are unchanged.
-/

namespace Oneshot

/-- The characters that mean nothing to a shell. -/
def isShellSafe (c : Char) : Bool :=
  c.isAlphanum || "_@%+=:,./-".toList.contains c

namespace Text

/-- One word as a shell reads it back. -/
def shellWord (s : Text) : Text :=
  if s.isEmpty then ['\'', '\'']
  else if s.all isShellSafe then s
  else '\'' :: s.flatMap (fun c => if c = '\'' then "'\"'\"'".toList else [c]) ++ ['\'']

/-- The words of a command on one line. -/
def shellLine (words : List Text) : Text :=
  join [' '] (words.map shellWord)

theorem shellWord_of_safe {s : Text} (hs : s ≠ []) (h : s.all isShellSafe = true) :
    shellWord s = s := by
  simp [shellWord, hs, h]

end Text

end Oneshot
