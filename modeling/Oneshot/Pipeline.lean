import Oneshot.Text.ShellWord
import Oneshot.Toolchain.Execute

/-!
# The pipeline

A script goes through the stages one after the other: it is checked and read, analysed, made into a
program, compiled and run. Each stage reports an event. Up to the program an error ends the
pipeline; from there on it ends in one of three outcomes.
-/

namespace Oneshot

/-- How a run ends once there is a program. -/
inductive Outcome where
  /-- The compiler has rejected the program. -/
  | compileFailed (written : Text) (status : Int)
  /-- The compiler or the artifact could not be launched. -/
  | launchFailed (message : Text)
  /-- The artifact has run. -/
  | completed (exitCode : Int)
deriving DecidableEq, Repr

namespace Outcome

/-- The name of an outcome. -/
def name : Outcome → Text
  | .compileFailed .. => "CompileFailed"
  | .launchFailed _ => "LaunchFailed"
  | .completed _ => "Completed"

/-- The exit status of a run with this outcome. -/
def exitCode : Outcome → Int
  | .completed code => code
  | _ => 1

/-- The error that an outcome stands for, if it is a failure. -/
def error? : Outcome → Option RunError
  | .compileFailed written status => some (.compilerRejected written status)
  | .launchFailed message => some (.launchFailed message)
  | .completed _ => none

end Outcome

/-- What the pipeline reports on its way. -/
inductive Event where
  | analyzed (analysis : Analysis)
  | missingLibrary (crate : Text) (library : Path)
  | scratch (source : Path)
  | compiling (command : List Text)
  | running (executable : Path)
  /-- The end of the pipeline, and whether it got as far as running the artifact. -/
  | done (outcome : Outcome) (hasRun : Bool)
deriving DecidableEq, Repr

namespace Event

/-- The name of the stage that reports an event. -/
def stage : Event → Text
  | .analyzed _ => "analyze"
  | .missingLibrary .. => "missing-dep"
  | .scratch _ => "scratch"
  | .compiling _ => "compile"
  | .running _ => "run"
  | .done .. => "done"

/-- The crates of an analysis in a report. -/
def crateList (crates : List Text) : Text :=
  let names := Text.join [','] crates
  if names.isEmpty then ['-'] else names

/-- What a stage says about its event. -/
def detail : Event → Text
  | .analyzed analysis =>
    "entry_point=".toList ++ (if analysis.hasEntryPoint then "True".toList else "False".toList)
      ++ " imports=".toList ++ Text.ofNat analysis.importLines.length
      ++ " deps=".toList ++ crateList analysis.crates
  | .missingLibrary crate library => crate ++ " (".toList ++ library.text ++ [')']
  | .scratch source => source.text
  | .compiling command => "command=".toList ++ Text.shellLine command
  | .running executable => "artifact=".toList ++ executable.text
  | .done outcome hasRun =>
    "outcome=".toList ++ outcome.name
      ++ (if hasRun then " exit=".toList ++ Text.ofInt outcome.exitCode else [])

end Event

/-- A script with its text, its analysis and its program. -/
structure Prepared where
  script : Path
  text : Text
  analysis : Analysis
  program : Program
deriving DecidableEq, Repr

/-- The extension of a script. -/
def scriptExtension : Text :=
  ".rs"

/-- The script, if it has the extension. -/
def checkScript (script : Path) (extension : Text) : Except RunError Path :=
  if script.extension = extension then .ok script else .error (.wrongExtension script extension)

/-- What a pipeline works with. -/
structure Pipeline where
  cache : Cache
  settings : Settings
  platform : Platform
  /-- The directory that holds the scratch directory; by default the working directory. -/
  workDir : Option Path
  /-- Receives the events. -/
  report : Event → Action Unit

namespace Pipeline

/-- Reads a script and makes its program. -/
def prepare (p : Pipeline) (script : Path) : Action Prepared := do
  match checkScript script scriptExtension with
  | .error e => Action.fail e
  | .ok _ =>
    let text ← Files.readText script (.snippetNotRead script)
    match Snippet.analyze p.settings.policy text with
    | .error e => Action.fail (.declaration e)
    | .ok analysis =>
      p.report (.analyzed analysis)
      return ⟨script, text, analysis,
        Program.ofSnippet p.settings.policy analysis p.cache.prelude text⟩

/-- Reports the crates whose libraries the cache does not hold. -/
def reportMissing (p : Pipeline) : List Text → Action Unit
  | [] => return ()
  | crate :: rest => do
    let library := Toolchain.libraryOf p.cache p.platform crate
    if !(← Action.orEscape (Files.isFile library)) then p.report (.missingLibrary crate library)
    reportMissing p rest

/-- The outcome in which compiling ends, if a failure is one. -/
def outcomeOf (failure : Failure) : Option Outcome :=
  match failure with
  | .reported (.compilerRejected written status) => some (.compileFailed written status)
  | .reported e => if e.kind = .launch then some (.launchFailed e.message) else none
  | .escaped _ => none

/-- The value of an action, or the outcome that its failure stands for. -/
def orOutcome {α : Type} (action : Action α) : Action (Except Outcome α) :=
  tryCatch (return .ok (← action)) fun failure =>
    match outcomeOf failure with
    | some outcome => return .error outcome
    | none => throw failure

/-- Compiles the program of a script. -/
def build (p : Pipeline) (prepared : Prepared) : Action (Except Outcome Artifact) := do
  let workDir ← match p.workDir with
    | some dir => pure dir
    | none => Toolchain.workDir
  let crates := prepared.analysis.crates
  let planned ← Toolchain.artifactFor prepared.script workDir p.settings p.platform
  let command ← Toolchain.plannedCommand p.cache p.settings p.platform crates planned
  p.reportMissing (Text.firsts crates)
  p.report (.scratch planned.source)
  p.report (.compiling command)
  orOutcome (Toolchain.buildProgram p.cache p.settings p.platform workDir crates
    prepared.program.text prepared.script)

/-- Runs the artifact of a script. -/
def execute (p : Pipeline) (artifact : Artifact) (arguments : List Text) : Action Outcome := do
  p.report (.running artifact.executable)
  let launch :=
    Toolchain.launchArtifact p.cache p.settings p.platform none artifact.executable arguments
  match ← orOutcome launch with
  | .ok code => return .completed code
  | .error outcome => return outcome

/-- Takes a script through all stages. -/
def run (p : Pipeline) (script : Path) (arguments : List Text) : Action Outcome := do
  let prepared ← p.prepare script
  match ← p.build prepared with
  | .error outcome =>
    p.report (.done outcome false)
    return outcome
  | .ok artifact =>
    let outcome ← p.execute artifact arguments
    p.report (.done outcome true)
    return outcome

end Pipeline

end Oneshot
