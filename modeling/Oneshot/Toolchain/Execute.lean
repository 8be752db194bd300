import Oneshot.Toolchain.Compile

/-!
# Running an artifact

An artifact runs with the streams of the runner, with the arguments it was given, and with a search
path on which the loader finds its libraries. Its exit status becomes that of the runner.

- `get?_runVariables`: which variable an artifact sees changed.
-/

namespace Oneshot

/-- The exit status that stands for how a child has ended: its own, or 128 and the number of the
signal that has ended it. -/
def exitCodeOf (status : Int) : Int :=
  if status < 0 then 128 - status else status

namespace Toolchain

/-- The value of the variable that holds the loader's search path. Where that is the search path for
programs too, its entries are kept at the end. -/
def searchPathValue (searchPath : Text) (platform : Platform) (vars : Variables) : Text :=
  if platform.libraryVariable = "PATH".toList then
    match vars.get? "PATH" with
    | none | some [] => searchPath
    | some entries => Text.join [platform.pathSeparator] [searchPath, entries]
  else searchPath

/-- The environment of an artifact. -/
def runVariables (searchPath : Text) (platform : Platform) (vars : Variables) : Variables :=
  vars.set platform.libraryVariable (searchPathValue searchPath platform vars)

/-- The working directory. -/
def workDir : Action Path := do
  match ← Action.ask .workDir with
  | .ok text => return Path.ofText text
  | .error (.os e) => Action.escape (.os e)
  | .error _ => Action.escape .nulByte

/-- The path as seen from the root. -/
def absolutePath (path : Path) : Action Path := do
  if path.isAbsolute then return path else return (← workDir).join path

/-- Runs an executable to its end. The value is the exit status that stands for how it has ended.
The directory of the runtime libraries is asked for unless it is given. -/
def launchArtifact (cache : Cache) (settings : Settings) (platform : Platform)
    (runtime? : Option Path) (executable : Path) (arguments : List Text) : Action Int := do
  let runtime ← match runtime? with
    | some dir => pure dir
    | none => runtimeDir settings.toolchain.compiler platform
  let searchPath := librarySearchPath runtime cache platform
  let vars := runVariables searchPath platform (← Action.ask .environment)
  let executable ← absolutePath executable
  let command := executable.text :: arguments
  if !(← Action.orEscape (Files.isFile executable)) then
    Action.fail (.artifactMissing executable command)
  match ← Command.run command (some vars) false with
  | .error fault => Action.fail (.artifactNotLaunched executable command fault)
  | .ok done => return exitCodeOf done.status

/-- An artifact sees the loader's search path changed and nothing else. -/
theorem get?_runVariables (searchPath name : Text) (platform : Platform) (vars : Variables) :
    (runVariables searchPath platform vars).get? name
      = if platform.libraryVariable = name then some (searchPathValue searchPath platform vars)
        else vars.get? name :=
  Variables.get?_set ..

end Toolchain

end Oneshot
