import Oneshot.CommandLine.App

/-!
# The command line program

The program answers the requests of the command line with the files, the variables and the streams
of the process it runs in. It starts no child processes: that request is refused, as by a system
that does not know it, so `expand` and `cache` do all of their work and `run` stops in front of the
compiler.
-/

namespace Oneshot

namespace Terminal

/-- The cause of an error of the system. -/
def causeOf : IO.Error → Errno
  | .noFileOrDirectory .. => .noEntry
  | .alreadyExists .. => .alreadyThere
  | .permissionDenied .. => .accessDenied
  | .inappropriateType _ code _ => if code = 20 then .notDirectory else .isDirectory
  | .resourceBusy .. => .busy
  | .hardwareFault .. => .inputOutput
  | .unsatisfiedConstraints .. => .notEmpty
  | .invalidArgument _ code _ => if code = 36 then .nameTooLong else .invalid
  | .resourceExhausted .. => .noSpace
  | e => .other 0 e.toString.toList

/-- The reply to a request about a path. -/
def onPath {α : Type} (path : Text) (action : String → IO α) : IO (Except Refusal α) := do
  if path.contains '\x00' then return .error .nulByte
  else
    try
      return .ok (← action (String.ofList path))
    catch e => return .error (.os ⟨causeOf e, some path, none⟩)

/-- What stands at a path. -/
def kindAt (path : String) : IO FileKind := do
  let place ← IO.FS.realPath path
  match (← place.metadata).type with
  | .file => return .file
  | .dir => return .directory
  | _ => return .other

/-- The bytes of a file. -/
def contentAt (path : String) : IO Bytes :=
  return (← IO.FS.readBinFile path).toList

/-- The variables of the environment that matter to the runner. -/
def knownVariables : List String :=
  ["SNIPPET_RUNNER_HOME", "XDG_CONFIG_HOME", "HOME", "PATH", "SNIPPET_RUNNER_COMPILER",
    "SNIPPET_RUNNER_RAISE", "TERM", "TTY_COMPATIBLE", "FORCE_COLOR", "LD_LIBRARY_PATH", "COLUMNS",
    "LINES", "_SNIPPET_RUNNER_COMPLETE"]

/-- The environment, as far as it matters to the runner. -/
def environment : IO Variables := do
  let found ← knownVariables.filterMapM fun name => do
    return (← IO.getEnv name).map fun value => (name.toList, value.toList)
  return found

/-- The home directory of an account in the list of accounts. -/
def recordedHome (account : Text) : IO (Option Text) := do
  try
    let lines := (← IO.FS.lines "/etc/passwd").toList
    let records := lines.map fun line => Text.splitAt ':' line.toList
    return (records.find? (·.head? = some account)).bind (·[5]?)
  catch _ => return none

/-- The characters of random names. -/
def nameChars : Text :=
  "abcdefghijklmnopqrstuvwxyz0123456789_"

/-- Makes a directory with a random name; a name that is taken is tried again `left` times. -/
def makeStaging (parent label : Text) : (left : Nat) → IO (Except Refusal Text)
  | 0 => return .error (.os ⟨.alreadyThere, some parent, none⟩)
  | left + 1 => do
    let ending ← (List.replicate 8 ()).mapM fun _ => do
      return nameChars.getD (← IO.rand 0 (nameChars.length - 1)) 'a'
    let path := if parent.isEmpty then label ++ ending else parent ++ '/' :: label ++ ending
    match ← onPath path (IO.FS.createDir ·) with
    | .ok () => return .ok path
    | .error (.os e) =>
      if e.cause = .alreadyThere then makeStaging parent label left else return .error (.os e)
    | .error e => return .error e

/-- The ways to the faults in the settings, each on a line of its own. -/
def faultLines (faults : List SettingsFault) : Text :=
  Text.join ['\n'] (faults.map fun fault =>
    Text.join ['.'] (fault.place.map fun
      | .key name => name
      | .index i => Text.ofNat i))

/-- Answers a request in the process that the program runs in. -/
def answer : (r : Request) → IO r.Reply
  | .kind path => onPath path kindAt
  | .isExecutable path => do
    match ← onPath path kindAt with
    | .ok kind => return kind == .file
    | .error _ => return false
  | .isReadable path => do
    match ← onPath path (IO.FS.Handle.mk · .read) with
    | .ok _ => return true
    | .error (.os e) => return e.cause == .isDirectory
    | .error _ => return false
  | .makeDir path => onPath path (IO.FS.createDir ·)
  | .makeStaging parent label => makeStaging parent label 100
  | .read path => onPath path contentAt
  | .write path content => onPath path (IO.FS.writeBinFile · ⟨content.toArray⟩)
  | .create path content => onPath path fun path => do
    let handle ← IO.FS.Handle.mk path .writeNew
    handle.write ⟨content.toArray⟩
  | .rename old new => do
    match ← onPath old (IO.FS.rename · (String.ofList new)) with
    | .error (.os e) => return .error (.os { e with target := some new })
    | reply => return reply
  | .discard path => do
    try
      IO.FS.removeDirAll (String.ofList path)
    catch _ => return
  | .launch command =>
    return .error (.os ⟨.other 38 "Function not implemented", command.arguments.head?, none⟩)
  | .workDir => do
    try
      return .ok (← IO.currentDir).toString.toList
    catch e => return .error (.os ⟨causeOf e, none, none⟩)
  | .environment => environment
  | .accountHome none => return none
  | .accountHome (some account) => recordedHome account
  | .isTerminal .output => do (← IO.getStdout).isTty
  | .isTerminal .errors => do (← IO.getStderr).isTty
  | .validatorText faults => return faultLines faults
  | .print .output text => IO.print (String.ofList text)
  | .print .errors text => IO.eprint (String.ofList text)
  | .announce _ _ => return

end Terminal

end Oneshot

/-- Runs the command line. The exit status is that of the command; a failure that nothing expects is
told and ends with status 1. -/
def main (words : List String) : IO UInt32 := do
  let ended ← Oneshot.Routine.interpret Oneshot.Terminal.answer
    (Oneshot.CommandLine.start .linux (words.map String.toList)).run
  match ended with
  | .ok status => return UInt32.ofNat (status % 256).toNat
  | .error (.reported e) =>
    IO.eprintln (String.ofList e.message)
    return 1
  | .error (.escaped e) =>
    IO.eprintln (String.ofList e.message)
    return 1
