import Oneshot.Cache
import Oneshot.Host.Launch
import Oneshot.Toolchain.Scratch

/-!
# Compiling a program

The compiler is called with the flags of the settings, the directory of the cached libraries, one
library for each declared crate, and the scratch paths at the end. What it writes is collected; it
is shown only if the compiler rejects the program.

The compiler is also asked for the directory of the toolchain's runtime libraries, which an artifact
needs when it runs.
-/

namespace Oneshot

namespace Toolchain

/-- The shared library of a crate in the cache. -/
def libraryOf (cache : Cache) (platform : Platform) (crate : Text) : Path :=
  cache.artifactsDir.child (platform.libraryName crate)

/-- The arguments that link the declared crates. -/
def linkArguments (cache : Cache) (platform : Platform) (crates : List Text) : List Text :=
  crates.flatMap fun crate =>
    ["--extern".toList, crate ++ ['='] ++ (libraryOf cache platform crate).text]

/-- The command that compiles an artifact. -/
def compileCommand (cache : Cache) (toolchain : ToolchainSettings) (platform : Platform)
    (inColor : Bool) (crates : List Text) (artifact : Artifact) : List Text :=
  [toolchain.compiler]
    ++ toolchain.codegenFlags.flatMap (fun flag => ["-C".toList, flag])
    ++ ["-L".toList, cache.artifactsDir.text]
    ++ linkArguments cache platform crates
    ++ (if inColor then ["--color".toList, "always".toList] else [])
    ++ ["-o".toList, artifact.executable.text, artifact.source.text]

/-- Whether the compiler is asked for colour. -/
def wantsColor : ColorChoice → Action Bool
  | .always => return true
  | .never => return false
  | .auto => Action.ask (.isTerminal .errors)

/-- The command that compiles an artifact under the given settings. -/
def plannedCommand (cache : Cache) (settings : Settings) (platform : Platform)
    (crates : List Text) (artifact : Artifact) : Action (List Text) := do
  let inColor ← wantsColor settings.output.compilerColor
  return compileCommand cache settings.toolchain platform inColor crates artifact

/-- Where the program of a script and its executable are written; a script without a place below the
scratch directory is reported. -/
def artifactFor (script workDir : Path) (settings : Settings) (platform : Platform) :
    Action Artifact :=
  match Scratch.paths? script workDir settings.toolchain platform with
  | some artifact => pure artifact
  | none => Action.fail (.noScratchPath script)

/-- Writes a program to its scratch path. -/
def writeSource (source : Path) (program : Text) : Action Unit := do
  Action.reporting (.scratchNotWritten source) (← ExceptT.lift (Files.makeDirs source.parent))
  Action.reporting (.scratchNotWritten source)
    (← Action.ask (.write source.text (Utf8.encode program)))

/-- Runs the compiler on an artifact whose source is written. -/
def compile (command : List Text) (artifact : Artifact) : Action Artifact := do
  match ← Command.run command none true with
  | .error (.notOnPath _) => Action.fail (.compilerNotFound command)
  | .error (.os e) =>
    if e.cause = .noEntry then Action.fail (.compilerNotFound command)
    else Action.fail (.compilerNotInvoked command e)
  | .ok done =>
    if done.status = 0 then return artifact
    else Action.fail (.compilerRejected done.errors done.status)

/-- Writes the program of a script and compiles it. The files stay, so that they can be looked at
after the run. -/
def buildProgram (cache : Cache) (settings : Settings) (platform : Platform) (workDir : Path)
    (crates : List Text) (program : Text) (script : Path) : Action Artifact := do
  let artifact ← artifactFor script workDir settings platform
  writeSource artifact.source program
  compile (← plannedCommand cache settings platform crates artifact) artifact

/-- The path that the compiler prints when it is asked for `item`. -/
def printedPath (compiler item : Text) : Action Path := do
  let command := [compiler, "--print".toList, item]
  match ← Command.run command none true with
  | .error fault => Action.fail (.queryNotLaunched item command fault)
  | .ok done =>
    let value := Text.trim done.output
    if done.status = 0 ∧ value ≠ [] then return Path.ofText value
    else
      let errors := Text.trim done.errors
      let detail :=
        if errors.isEmpty then "exit status ".toList ++ Text.ofInt done.status else errors
      Action.fail (.queryFailed item command detail)

/-- The root directory of the toolchain. -/
def sysroot (compiler : Text) : Action Path :=
  printedPath compiler "sysroot"

/-- The directory of the toolchain's runtime libraries. -/
def runtimeDir (compiler : Text) (platform : Platform) : Action Path :=
  match platform.runtimeSubdirectory with
  | none => printedPath compiler "target-libdir"
  | some subdirectory => return (← sysroot compiler).child subdirectory

/-- The search path of the loader: the runtime libraries of the toolchain, then the cache. -/
def librarySearchPath (runtimeDir : Path) (cache : Cache) (platform : Platform) : Text :=
  Text.join [platform.pathSeparator] [runtimeDir.text, cache.artifactsDir.text]

end Toolchain

end Oneshot
