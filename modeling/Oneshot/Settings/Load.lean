import Oneshot.Host.Files
import Oneshot.Settings.Layer
import Oneshot.Text.Blank
import Oneshot.Text.Lowercase
import Oneshot.Toml.Document

/-!
# Loading settings

The settings of a run come from a file in the cache directory, if there is one, and from two
variables of the environment, which override the file.

- `find?_environmentLayer`: what the environment sets.
-/

namespace Oneshot

namespace Settings

/-- The name of the settings file in a cache directory. -/
def fileName : Text :=
  "config.toml"

/-- The variable that names the compiler. -/
def compilerVariable : Text :=
  "SNIPPET_RUNNER_COMPILER"

/-- The variable that switches raising of errors. -/
def raiseVariable : Text :=
  "SNIPPET_RUNNER_RAISE"

/-- The words, in lower case, with which the environment switches on. -/
def truthyWords : List Text :=
  ["1", "true", "yes", "on"]

/-- Whether the value of a variable switches on. -/
def isTruthy (value : Text) : Bool :=
  truthyWords.elem (Text.lower (Text.trim value))

/-- The compiler that the environment names, if it is not blank. -/
def compilerOf (vars : Variables) : Option Text :=
  let compiler := Text.trim ((vars.get? compilerVariable).getD [])
  if compiler.isEmpty then none else some compiler

/-- The layer of settings that the environment makes. -/
def environmentLayer (vars : Variables) : Entries :=
  let compiler : Entries :=
    match compilerOf vars with
    | some compiler => [("toolchain", .table [("compiler", .text compiler)])]
    | none => []
  let raiseErrors : Entries :=
    match vars.get? raiseVariable with
    | some value => [("raise_errors", .bool (isTruthy value))]
    | none => []
  compiler ++ raiseErrors

/-- The layer of settings that a file makes; where there is no file it is empty. -/
def fileLayer (file : Path) : Action Entries := do
  if ← Action.orEscape (Files.isFile file) then
    let refused (e : OsError) : RunError := .unreadableSettings file (.os e)
    let bytes ← Action.reporting refused (← Action.ask (.read file.text))
    match Utf8.decode bytes with
    | .error fault => Action.escape (.undecodable fault)
    | .ok source =>
      match Toml.read source with
      | .ok entries => return entries
      | .error ⟨.tooManyDigits count, _⟩ => Action.escape (.numeral (.tooManyDigits count))
      | .error fault => Action.fail (.unreadableSettings file (.malformed source fault))
  else return []

/-- The settings of a run: the file of the cache directory, when one is given, under the
environment. -/
def load (cacheRoot : Option Path) (vars : Variables) : Action Settings := do
  let file ← match cacheRoot with
    | some root => fileLayer (root.child fileName)
    | none => pure []
  match ofEntries ((Entries.merge [] file).merge (environmentLayer vars)) with
  | .passed settings => return settings
  | .failed faults =>
    Action.fail (.invalidSettings faults (← Action.ask (.validatorText faults)))

/-- The environment sets the section of the toolchain and the switch for errors, nothing else. -/
theorem find?_environmentLayer (vars : Variables) (key : Text) :
    (environmentLayer vars).find? key
      = if key = "toolchain".toList then
          (compilerOf vars).map fun compiler => .table [("compiler", .text compiler)]
        else if key = "raise_errors".toList then
          (vars.get? raiseVariable).map fun value => .bool (isTruthy value)
        else none := by
  have hne : "toolchain".toList ≠ "raise_errors".toList := by decide
  simp only [environmentLayer]
  generalize "toolchain".toList = t at hne ⊢
  generalize "raise_errors".toList = r at hne ⊢
  generalize compilerOf vars = compiler
  generalize vars.get? raiseVariable = raised
  cases compiler <;> cases raised <;>
    simp only [List.nil_append, List.cons_append, Entries.find?, Option.map_none, Option.map_some]
  all_goals
    by_cases ht : key = t
    · subst ht
      simp [hne.symm]
    · by_cases hr : key = r
      · subst hr
        simp [ht, hne]
      · simp [ht, hr, Ne.symm ht, Ne.symm hr]

end Settings

end Oneshot
