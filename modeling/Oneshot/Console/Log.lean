import Oneshot.Console.Highlight
import Oneshot.Console.Window
import Oneshot.Text.Lowercase

/-!
# Diagnostics

What the runner says about itself goes to standard error, so that it never mixes with the output of
the program that is run. A failure is one line, except that the compiler's own output is repeated as
it came.
-/

namespace Oneshot

namespace Console

/-- The weight of a message. -/
inductive Level where
  | info
  | warning
  | error
deriving DecidableEq, Repr

/-- The sign in front of a message. -/
def Level.mark : Level → Text
  | .info => "ℹ️ "
  | .warning => "⚠️ "
  | .error => "❌ "

/-- The colour of a message. -/
def Level.color : Level → Color
  | .info => .cyan
  | .warning => .yellow
  | .error => .red

/-- Whether the environment describes a terminal that understands no escape sequences. -/
def isDumb (vars : Variables) : Bool :=
  ["dumb".toList, "unknown".toList].elem (Text.lower ((vars.get? "TERM").getD []))

/-- Whether debug lines are written for a terminal: two variables can decide it, and otherwise it is
as the system says. -/
def treatsAsTerminal (vars : Variables) (isTerminal : Bool) : Bool :=
  match vars.get? "TTY_COMPATIBLE" with
  | some ['0'] => false
  | some ['1'] => true
  | _ =>
    match vars.get? "FORCE_COLOR" with
    | some value => !value.isEmpty
    | none => isTerminal

/-- What is made of the style of a message. -/
def messageRendering (wantsColor isTerminal : Bool) (vars : Variables) : Rendering :=
  if wantsColor && isTerminal && !isDumb vars then .color else .plain

/-- What is made of the styles of a debug line. -/
def debugRendering (wantsColor isTerminal : Bool) (vars : Variables) : Rendering :=
  if !treatsAsTerminal vars isTerminal || isDumb vars then .plain
  else if wantsColor then .color
  else .monochrome

/-- A message of the given weight as it is printed. -/
def messageText (level : Level) (withMark : Bool) (rendering : Rendering) (message : Text) : Text :=
  let mark := if withMark then level.mark else []
  render rendering [⟨mark ++ message, ⟨false, false, some level.color⟩⟩]

/-- Prints a message. Where it is not said whether colour is wanted, a terminal gets it. -/
def printMessage (window : Window) (level : Level) (withMark : Bool) (wantsColor : Option Bool)
    (message : Text) : Routine Unit := do
  let isTerminal ← Routine.request (.isTerminal .errors)
  let vars ← Routine.request .environment
  if window.shows (isTerminal && isDumb vars) then
    let rendering := messageRendering (wantsColor.getD isTerminal) isTerminal vars
    Routine.request (.print .errors (messageText level withMark rendering message))

end Console

/-- How the runner speaks. -/
structure Logger where
  emoji : Bool
  color : Bool
  debug : Bool
  /-- The window in which its lines are shown. -/
  window : Console.Window
deriving DecidableEq, Repr

/-- What is shown of an error. -/
structure Diagnostic where
  kind : ErrorKind
  message : Text
  exitCode : Int
  /-- Output of the compiler that is shown in place of the message. -/
  replayed : Option Text
deriving DecidableEq, Repr

/-- What is shown of an error of the runner. -/
def RunError.diagnostic (e : RunError) : Diagnostic where
  kind := e.kind
  message := e.message
  exitCode := e.exitCode
  replayed :=
    match e with
    | .compilerRejected written _ => some written
    | _ => none

namespace Logger

/-- A logger for the window of this run. -/
def opened (emoji color debug : Bool) : Action Logger :=
  return ⟨emoji, color, debug, ← Console.Window.opened⟩

/-- The logger of a command that has no settings yet. -/
def plain : Action Logger :=
  opened false true false

/-- The name of the program in its messages. -/
def programName : Text :=
  "snippet-runner"

/-- Says what has gone wrong. -/
def error (logger : Logger) (message : Text) : Routine Unit :=
  Console.printMessage logger.window .error false (some logger.color)
    (programName ++ " error: ".toList ++ message)

/-- Says what may be wrong. -/
def warn (logger : Logger) (message : Text) : Routine Unit :=
  Console.printMessage logger.window .warning logger.emoji (some logger.color) message

/-- Says what the user has asked to be told. -/
def info (logger : Logger) (message : Text) : Routine Unit :=
  Console.printMessage logger.window .info logger.emoji (some logger.color) message

/-- Says what happens, if debug lines are wanted. -/
def note (logger : Logger) (message : Text) : Routine Unit := do
  if logger.debug then
    let isTerminal ← Routine.request (.isTerminal .errors)
    let vars ← Routine.request .environment
    let isDumbTerminal := Console.treatsAsTerminal vars isTerminal && Console.isDumb vars
    if logger.window.shows isDumbTerminal then
      let rendering := Console.debugRendering logger.color isTerminal vars
      Routine.request (.print .errors (Console.render rendering (Console.debugPieces message)))

/-- Shows an error. The value is the exit status. -/
def report (logger : Logger) (d : Diagnostic) : Routine Int := do
  match d.replayed with
  | some written => Routine.request (.print .errors written)
  | none => logger.error d.message
  logger.note ("failure: kind=".toList ++ d.kind.word ++ " exit=".toList ++ Text.ofInt d.exitCode)
  return d.exitCode

end Logger

end Oneshot
