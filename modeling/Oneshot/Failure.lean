import Oneshot.Host.Routine
import Oneshot.Path
import Oneshot.Settings.Check
import Oneshot.Snippet.Analysis
import Oneshot.Text.Utf8
import Oneshot.Toml.Basic

/-!
# Failures

A run can fail in two ways. A reported error is one the runner knows about: it has a kind, a message
and an exit status, and the user sees it as a diagnostic. Anything else escapes: a condition of the
host that no stage expects.

`Action` is a routine that may fail. A stage that expects a refusal of the system says which error
it reports for it (`Action.reporting`); a refusal that it does not expect escapes.
-/

namespace Oneshot

/-- The kinds of reported errors. -/
inductive ErrorKind where
  | general
  | usage
  | config
  | filesystem
  | parse
  | compile
  | launch
deriving DecidableEq, Repr

/-- The words for the kinds. -/
def ErrorKind.word : ErrorKind → Text
  | .general => "error"
  | .usage => "usage"
  | .config => "config"
  | .filesystem => "filesystem"
  | .parse => "parse"
  | .compile => "compile"
  | .launch => "launch"

/-- Why a text file cannot be read. -/
inductive ReadFault where
  | os (e : OsError)
  | undecodable (fault : Utf8.Fault)
deriving DecidableEq, Repr

/-- The wording of a read fault. -/
def ReadFault.message : ReadFault → Text
  | .os e => e.message
  | .undecodable fault => fault.message

/-- Why a command has not run. -/
inductive LaunchFault where
  /-- The name of the program leads to no executable. -/
  | notOnPath (program : Text)
  | os (e : OsError)
deriving DecidableEq, Repr

/-- The wording of a launch fault. -/
def LaunchFault.message : LaunchFault → Text
  | .notOnPath program => "Executable '".toList ++ program ++ "' was not found on PATH".toList
  | .os e => e.message

/-- Whether the program to launch is missing. -/
def LaunchFault.isMissing : LaunchFault → Bool
  | .notOnPath _ => true
  | .os e => e.cause == .noEntry

/-- Why a settings file cannot be read. -/
inductive SettingsFileFault where
  | os (e : OsError)
  | malformed (source : Text) (fault : Toml.Fault)
deriving DecidableEq, Repr

/-- The wording of a fault of a settings file. -/
def SettingsFileFault.message : SettingsFileFault → Text
  | .os e => e.message
  | .malformed source fault => fault.message source

/-- The errors that the runner reports. -/
inductive RunError where
  | missingScript
  | wrongExtension (script : Path) (extension : Text)
  | unreadableSettings (file : Path) (fault : SettingsFileFault)
  /-- The settings do not pass the check; the validator has its own words for the faults. -/
  | invalidSettings (faults : List SettingsFault) (detail : Text)
  | cacheNotCreated (path : Path) (cause : OsError)
  | preludeNotWritten (path : Path) (cause : OsError)
  | preludeNotRead (path : Path) (cause : ReadFault)
  | preludeBlank (path : Path)
  | snippetNotRead (path : Path) (cause : ReadFault)
  | noScratchPath (script : Path)
  | scratchNotWritten (path : Path) (cause : OsError)
  | declaration (e : DeclarationError)
  /-- The compiler has ended with a status other than zero; what it wrote is kept as it is. -/
  | compilerRejected (written : Text) (status : Int)
  | compilerNotFound (command : List Text)
  | compilerNotInvoked (command : List Text) (cause : OsError)
  | queryNotLaunched (item : Text) (command : List Text) (cause : LaunchFault)
  | queryFailed (item : Text) (command : List Text) (detail : Text)
  | artifactMissing (executable : Path) (command : List Text)
  | artifactNotLaunched (executable : Path) (command : List Text) (cause : LaunchFault)
  /-- A launch failure of which only the message is known. -/
  | launchFailed (message : Text)
deriving DecidableEq, Repr

namespace RunError

/-- The kind of an error. -/
def kind : RunError → ErrorKind
  | .missingScript | .wrongExtension .. => .usage
  | .unreadableSettings .. | .invalidSettings .. => .config
  | .cacheNotCreated .. | .preludeNotWritten .. | .preludeNotRead .. | .preludeBlank ..
  | .snippetNotRead .. | .noScratchPath .. | .scratchNotWritten .. => .filesystem
  | .declaration .. => .parse
  | .compilerRejected .. => .compile
  | .compilerNotFound .. | .compilerNotInvoked .. | .queryNotLaunched .. | .queryFailed ..
  | .artifactMissing .. | .artifactNotLaunched .. | .launchFailed .. => .launch

/-- The program that a command names. -/
def programOf (command : List Text) : Text :=
  command.head?.getD []

/-- The wording of an error that concerns a path: what cannot be done, the path, and the cause. -/
def withCause (headline : Text) (path : Path) (cause : Text) : Text :=
  headline ++ [' '] ++ path.text ++ ": ".toList ++ cause

/-- The wording of an error. -/
def message : RunError → Text
  | .missingScript => "please supply a source file"
  | .wrongExtension script extension =>
    script.text ++ ": must have extension ".toList ++ extension
  | .unreadableSettings file fault => withCause "cannot load configuration at" file fault.message
  | .invalidSettings _ detail => "invalid configuration: ".toList ++ detail
  | .cacheNotCreated path cause => withCause "cannot create cache directory" path cause.message
  | .preludeNotWritten path cause => withCause "cannot write prelude" path cause.message
  | .preludeNotRead path cause => withCause "cannot read prelude" path cause.message
  | .preludeBlank path =>
    "prelude ".toList ++ path.text ++ " is empty; remove ".toList ++ path.parent.text
      ++ " to regenerate it".toList
  | .snippetNotRead path cause => withCause "cannot read" path cause.message
  | .noScratchPath script => "cannot derive a scratch path from ".toList ++ script.text
  | .scratchNotWritten path cause => withCause "cannot write scratch source" path cause.message
  | .declaration e => e.message
  | .compilerRejected _ status => "compiler exited with status ".toList ++ Text.ofInt status
  | .compilerNotFound command =>
    "compiler '".toList ++ programOf command ++ "' was not found on PATH".toList
  | .compilerNotInvoked command cause =>
    "cannot invoke compiler '".toList ++ programOf command ++ "': ".toList ++ cause.message
  | .queryNotLaunched item command cause =>
    "cannot query ".toList ++ item ++ " from '".toList ++ programOf command ++ "': ".toList
      ++ cause.message
  | .queryFailed item command detail =>
    "cannot query ".toList ++ item ++ " from '".toList ++ programOf command ++ "': ".toList
      ++ detail
  | .artifactMissing executable _ => withCause "cannot run" executable "no such file"
  | .artifactNotLaunched executable _ cause => withCause "cannot run" executable cause.message
  | .launchFailed message => message

/-- The exit status of a run that ends with an error. -/
def exitCode (_ : RunError) : Int := 1

/-- The path that a filesystem error is about. -/
def path? : RunError → Option Path
  | .cacheNotCreated path _ | .preludeNotWritten path _ | .preludeNotRead path _
  | .preludeBlank path | .snippetNotRead path _ | .scratchNotWritten path _ => some path
  | .noScratchPath script => some script
  | _ => none

/-- The command that a launch error is about; it is empty where only a message is known. -/
def command : RunError → List Text
  | .compilerNotFound command | .compilerNotInvoked command _ | .queryNotLaunched _ command _
  | .queryFailed _ command _ | .artifactMissing _ command | .artifactNotLaunched _ command _ =>
    command
  | _ => []

end RunError

/-- Conditions that no stage expects. -/
inductive Escape where
  | undecodable (fault : Utf8.Fault)
  | nulByte
  | illegalVariable
  | emptyCommand
  | noWrapper
  | noHome
  /-- What stands for a number in a settings file or in the environment denotes none. -/
  | numeral (fault : Text.NumeralFault)
  | launch (fault : LaunchFault)
  | os (e : OsError)
deriving DecidableEq, Repr

/-- The wording of an escaped condition. -/
def Escape.message : Escape → Text
  | .undecodable fault => fault.message
  | .nulByte => "embedded null byte"
  | .illegalVariable => "illegal environment variable name"
  | .emptyCommand => "subprocess command requires at least one argument"
  | .noWrapper => "program does not contain a generated run() wrapper"
  | .noHome => "Could not determine home directory."
  | .numeral fault => fault.message
  | .launch fault => fault.message
  | .os e => e.message

/-- How a run fails. -/
inductive Failure where
  | reported (e : RunError)
  | escaped (e : Escape)
deriving DecidableEq, Repr

/-- A routine that may fail. -/
abbrev Action (α : Type) := ExceptT Failure Routine α

namespace Action

/-- The reply to a request. -/
def ask (r : Request) : Action r.Reply :=
  ExceptT.lift (Routine.request r)

/-- Ends with a reported error. -/
def fail {α : Type} (e : RunError) : Action α :=
  throw (.reported e)

/-- Ends with an escaped condition. -/
def escape {α : Type} (e : Escape) : Action α :=
  throw (.escaped e)

/-- The value of a reply; a refusal of the system is reported as `wrap` says. -/
def reporting {α : Type} (wrap : OsError → RunError) : Except Refusal α → Action α
  | .ok x => pure x
  | .error (.os e) => fail (wrap e)
  | .error .nulByte => escape .nulByte
  | .error .illegalVariable => escape .illegalVariable

end Action

end Oneshot
