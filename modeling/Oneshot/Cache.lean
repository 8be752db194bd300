import Oneshot.Home
import Oneshot.Host.Files
import Oneshot.Program
import Oneshot.Text.Blank

/-!
# The cache

The cache is a directory that holds a prelude and the shared libraries of crates. A missing cache is
built in a staging directory beside its place and then renamed into it, so it never shows without
its prelude. Where another run is faster, the staging directory is discarded and the prelude of the
other run is used. A prelude that is there is never written again.

- `ensure_eq`: a cache is built if it is missing, and completed in any case.
-/

namespace Oneshot

/-- The parts of a cache that is ready for use. -/
structure Cache where
  root : Path
  preludePath : Path
  artifactsDir : Path
  prelude : Text
deriving DecidableEq, Repr

namespace Cache

/-- The cache at `root` with the prelude `prelude`. -/
def ofRoot (root : Path) (prelude : Text) : Cache where
  root := root
  preludePath := root.child "prelude"
  artifactsDir := root.child "dy-cache"
  prelude := prelude

/-- The variables that can name the directory in which the cache lies, the stronger one first. -/
def rootVariables : List Text :=
  ["SNIPPET_RUNNER_HOME", "XDG_CONFIG_HOME"]

/-- The directory in which the cache lies: the first of the variables that is set and not empty
names it, and otherwise it is `.config` in the home directory. -/
def baseDir (vars : Variables) : Action Path :=
  match (rootVariables.filterMap vars.get?).find? (!·.isEmpty) with
  | some value => (Path.ofText value).expandHome
  | none => return (← (Path.ofText "~").expandHome).child ".config"

/-- The place of the cache where no other is asked for. -/
def defaultRoot (vars : Variables) : Action Path :=
  return (← baseDir vars).child "runner"

/-- Makes a directory of the cache. -/
def makePart (path : Path) : Action Unit := do
  Action.reporting (.cacheNotCreated path) (← ExceptT.lift (Files.makeDirs path))

/-- Fills a staging directory and renames it to `root`. The value is the refusal of the rename, if
it is refused. -/
def publishFrom (staging root : Path) : Action (Except Refusal Unit) := do
  let prelude := staging.child "prelude"
  let content := Utf8.encode Program.defaultPrelude
  Action.reporting (.preludeNotWritten prelude) (← Action.ask (.create prelude.text content))
  makePart (staging.child "dy-cache")
  Action.ask (.rename staging.text root.text)

/-- Builds a cache beside `root` and renames it into place. A cache that has come to be there in the
meantime stays. -/
def publish (root : Path) : Action Unit := do
  makePart root.parent
  let label := ['.'] ++ root.name ++ ['-']
  let staging ← Action.reporting (.cacheNotCreated root)
    (← Action.ask (.makeStaging root.parent.text label))
  let staging := Path.ofText staging
  let renamed ← tryCatch (publishFrom staging root) fun failure => do
    match failure with
    | .reported _ => Action.ask (.discard staging.text)
    | .escaped _ => pure ()
    throw failure
  match renamed with
  | .ok () => return ()
  | .error (.os e) =>
    Action.ask (.discard staging.text)
    if ← Action.orEscape (Files.isDir root) then return ()
    else Action.fail (.cacheNotCreated root e)
  | .error _ => Action.escape .nulByte

/-- Reads the prelude of a cache. A blank one is refused. -/
def loadPrelude (path : Path) : Action Text := do
  let text ← Files.readText path (.preludeNotRead path)
  if (Text.trim text).isEmpty then Action.fail (.preludeBlank path) else return text

/-- The cache at `root`, built there if it is missing. -/
def ensure (root : Path) : Action Cache := do
  if !(← Action.orEscape (Files.isDir root)) then publish root
  makePart (root.child "dy-cache")
  return ofRoot root (← loadPrelude (root.child "prelude"))

/-- What is left to do once the directory of a cache is there. -/
def complete (root : Path) : Action Cache := do
  makePart (root.child "dy-cache")
  return ofRoot root (← loadPrelude (root.child "prelude"))

theorem ensure_eq (root : Path) : ensure root = (do
    if !(← Action.orEscape (Files.isDir root)) then publish root
    complete root) :=
  rfl

end Cache

end Oneshot
