import Oneshot.CommandLine.Help
import Oneshot.Console.Log
import Oneshot.Pipeline
import Oneshot.Settings.Load

/-!
# The commands

`run` compiles a script and runs it, `expand` prints its program, and `cache` prints where the cache
lies. A wrong script is told before any settings are read. An error of the runner is shown and sets
the exit status; where the settings say so, it is raised instead, which only errors behind the
loading of the settings can be.
-/

namespace Oneshot

namespace CommandLine

/-- What `run` is asked for. -/
structure RunRequest where
  script : Option Path
  arguments : List Text
  verbose : Bool
  emoji : Option Bool
  color : Option Bool
  showExpanded : Bool
  cacheDir : Option Path
deriving DecidableEq, Repr

/-- What `expand` is asked for. -/
structure ExpandRequest where
  script : Option Path
  bodyOnly : Bool
  cacheDir : Option Path
deriving DecidableEq, Repr

/-- Prints a line on a stream. Control sequences are printed on a terminal only. -/
def echoOn (channel : Channel) (line : Text) : Action Unit := do
  let shown := if ← Action.ask (.isTerminal channel) then line else Text.withoutEscapes line
  Action.ask (.print channel (shown ++ ['\n']))

/-- Prints a line on standard output. -/
def echo (line : Text) : Action Unit :=
  echoOn .output line

/-- The cache directory that is asked for, or the usual one. -/
def cacheRoot (asked : Option Path) : Action Path := do
  match asked with
  | some root => return root
  | none => Cache.defaultRoot (← Action.ask .environment)

/-- The script, if one is given and it has the right extension. -/
def requireScript (script : Option Path) : Action Path :=
  match script with
  | none => Action.fail .missingScript
  | some script =>
    match checkScript script scriptExtension with
    | .ok script => pure script
    | .error e => Action.fail e

/-- The value of an action. An error of the runner is shown by the logger that is then opened, and
the exit status is the other value; where `raised` says so, it is raised. -/
def reportingTo {α : Type} (opening : Action Logger) (raised : RunError → Bool)
    (action : Action α) : Action (Except Int α) :=
  tryCatch (return .ok (← action)) fun failure => do
    match failure with
    | .reported e =>
      if raised e then throw failure
      else
        let logger ← opening
        return .error (← ExceptT.lift (logger.report e.diagnostic))
    | .escaped _ => throw failure

/-- The output settings with what the command line asks for. -/
def withRequest (output : OutputSettings) (r : RunRequest) : OutputSettings :=
  { output with
    verbose := output.verbose || r.verbose
    showExpanded := output.showExpanded || r.showExpanded
    emoji := r.emoji.getD output.emoji
    color := r.color.getD output.color }

/-- The logger that output settings ask for. -/
def loggerOf (output : OutputSettings) : Action Logger :=
  Logger.opened output.emoji output.color output.verbose

/-- The cache at `root`, with a debug line about it. -/
def openCache (root : Path) (logger : Logger) : Action Cache := do
  let cache ← Cache.ensure root
  ExceptT.lift (logger.note ("cache: root=".toList ++ cache.root.text ++ " artifacts=".toList
    ++ cache.artifactsDir.text))
  return cache

/-- What is said about an event of the pipeline. -/
def sayEvent (logger : Logger) (showExpanded : Bool) (event : Event) : Routine Unit := do
  logger.note (event.stage ++ ": ".toList ++ event.detail)
  match event with
  | .missingLibrary .. =>
    logger.warn ("no shared library for ".toList ++ event.detail
      ++ "; build it into the artifact cache first".toList)
  | .scratch _ =>
    if showExpanded then
      logger.info ("***expanded code is in ".toList ++ event.detail ++ "***".toList)
  | _ => return ()

/-- Compiles a script and runs it on a platform. The value is the exit status. -/
def runOn (platform : Platform) (r : RunRequest) : Action Int := do
  let root ← cacheRoot r.cacheDir
  let loaded ← reportingTo Logger.plain (fun _ => false) do
    let script ← requireScript r.script
    return (script, ← Settings.load (some root) (← Action.ask .environment))
  match loaded with
  | .error code => return code
  | .ok (script, settings) =>
    let settings := { settings with output := withRequest settings.output r }
    let logger ← loggerOf settings.output
    let raised (_ : RunError) : Bool := settings.raiseErrors
    let ended ← reportingTo (pure logger) raised do
      let cache ← openCache root logger
      let pipeline : Pipeline :=
        ⟨cache, settings, platform, none,
          fun event => ExceptT.lift (sayEvent logger settings.output.showExpanded event)⟩
      pipeline.run script r.arguments
    match ended with
    | .error code => return code
    | .ok outcome =>
      match outcome.error? with
      | none => return outcome.exitCode
      | some e =>
        match ← reportingTo (α := Empty) (pure logger) raised (Action.fail e) with
        | .error code => return code
        | .ok impossible => nomatch impossible

/-- The lines that `expand` prints of a program. -/
def expandedLines (policy : Policy) (program : Program) (bodyOnly : Bool) : Action (List Text) :=
  if !bodyOnly then pure [Text.dropEndWhile (· == '\n') program.text]
  else if program.wrapped then
    match Program.unwrap policy program.text with
    | some lines => pure lines
    | none => Action.escape .noWrapper
  else pure (Text.lines program.text)

/-- Prints each of some lines. -/
def echoAll : List Text → Action Unit
  | [] => return ()
  | line :: rest => do
    echo line
    echoAll rest

/-- Prints the program of a script. The value is the exit status. -/
def expand (r : ExpandRequest) : Action Int := do
  let root ← cacheRoot r.cacheDir
  let logger ← Logger.plain
  let loaded ← reportingTo (pure logger) (fun _ => false) do
    let script ← requireScript r.script
    return (script, ← Settings.load (some root) (← Action.ask .environment))
  match loaded with
  | .error code => return code
  | .ok (script, settings) =>
    let prepared ← reportingTo (pure logger) (fun _ => settings.raiseErrors) do
      let cache ← openCache root logger
      let pipeline : Pipeline := ⟨cache, settings, .linux, none, fun _ => pure ()⟩
      pipeline.prepare script
    match prepared with
    | .error code => return code
    | .ok prepared =>
      echoAll (← expandedLines settings.policy prepared.program r.bodyOnly)
      return 0

/-- Prints where the cache lies. The value is the exit status. -/
def printCache (cacheDir : Option Path) : Action Int := do
  let logger ← Logger.plain
  let ensured ← reportingTo (pure logger) (fun _ => false) do
    Cache.ensure (← cacheRoot cacheDir)
  match ensured with
  | .error code => return code
  | .ok cache =>
    echo ("root: ".toList ++ cache.root.text)
    echo ("prelude: ".toList ++ cache.preludePath.text)
    echo ("artifacts: ".toList ++ cache.artifactsDir.text)
    return 0

end CommandLine

end Oneshot
