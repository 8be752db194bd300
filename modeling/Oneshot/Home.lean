import Oneshot.Failure

/-!
# Home directories

A path whose first part begins with a tilde stands below a home directory: the runner's own for a
tilde alone, that of an account for a tilde with a name. The runner's own is taken from its
environment, and from the records of the system only where the environment does not name it.
-/

namespace Oneshot

namespace Path

/-- The home directory that a part with a tilde stands for, as it is recorded. -/
def recordedHome (part : Text) : Action (Option Text) := do
  match part.drop 1 with
  | [] =>
    match (← Action.ask .environment).get? "HOME" with
    | some home => return some home
    | none => Action.ask (.accountHome none)
  | account =>
    if account.contains '\x00' then Action.escape .nulByte
    else Action.ask (.accountHome (some account))

/-- The path with its tilde replaced. -/
def expandHome (p : Path) : Action Path := do
  match p.anchor, p.parts with
  | [], first :: rest =>
    if ['~'].isPrefixOf first then
      match ← recordedHome first with
      | some home =>
        let home := Text.dropEndWhile (· == '/') home
        let home := if home.isEmpty then ['/'] else home
        if ['~'].isPrefixOf home then Action.escape .noHome
        else return (Path.ofText home).join ⟨[], rest⟩
      | none => Action.escape .noHome
    else return p
  | _, _ => return p

end Path

end Oneshot
