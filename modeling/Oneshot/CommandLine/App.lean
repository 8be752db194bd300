import Oneshot.CommandLine.Commands
import Oneshot.CommandLine.Escapes

/-!
# The command line

The words of a command line choose a command and what it is asked for. A fault in them is shown with
the usage of the command it concerns and ends with status 2; a request for help is answered before
any value is looked at, once the words can be read at all. Help and usage are set in lines of the
width that the command line is given.

A shell asks a program for help with the words of its command line by a variable of the environment,
and it is answered before the words are looked at. The value names what is wanted and, behind a low
line, the shell. The program completes words for no shell: whoever asks is told so, and nothing else
happens.

- `completionAnswer?_of_unset`: a program that is not asked goes on.
-/

namespace Oneshot

namespace CommandLine

/-- Prints what is wrong with the words of a command, and which commands may have been meant. -/
def refuseNear (width : Nat) (spec : Spec) (fault : UsageFault) (similarCommands : List Text) :
    Action Int := do
  Action.ask (.print .errors (spec.faultText width fault similarCommands))
  return 2

/-- Prints what is wrong with the words of a command. -/
def refuse (width : Nat) (spec : Spec) (fault : UsageFault) : Action Int :=
  refuseNear width spec fault []

/-- Prints a help page. -/
def showHelp (page : Text) : Action Int := do
  Action.ask (.print .output page)
  return 0

/-- The fault of a word that is given as a path for the option or the argument `name`: no path holds
a NUL, and what stands at the path, if anything does, may be read. -/
def pathFault? (name path : Text) : Action (Option UsageFault) := do
  if path.contains '\x00' then return some (.noPath name)
  else
    match ← Action.ask (.kind path) with
    | .error _ => return none
    | .ok _ =>
      if ← Action.ask (.isReadable path) then return none
      else return some (.unreadablePath name path)

/-- The first fault of some paths, each with the name of the option or argument for which it is
given. -/
def firstPathFault? : List (Text × Option Text) → Action (Option UsageFault)
  | [] => return none
  | (_, none) :: rest => firstPathFault? rest
  | (name, some path) :: rest => do
    match ← pathFault? name path with
    | some fault => return some fault
    | none => firstPathFault? rest

/-- The fault in the values that were given: the cache directory is looked at before the script. -/
def Given.fault? (given : Given) (script : Option Text) : Action (Option UsageFault) :=
  firstPathFault? [("--cache-dir", given.value? .cacheDir), ("script", script)]

/-- What `run` is asked for by the words of its command line. -/
def runRequest (given : Given) : RunRequest where
  script := given.arguments.head?.map .ofText
  arguments := given.arguments.drop 1
  verbose := given.has .verbose
  emoji := given.switch? .emoji
  color := given.switch? .color
  showExpanded := given.has .showExpanded
  cacheDir := (given.value? .cacheDir).map .ofText

/-- Reads the words of a command and goes on with what was given, unless a fault or a request for
help comes first. -/
def withWords (width : Nat) (spec : Spec) (page : Text) (words : List Text)
    (next : Given → Action Int) : Action Int :=
  match spec.parse words with
  | .error misuse => refuse width spec misuse.fault
  | .ok given => if given.has .help then showHelp page else next given

/-- The command `run`. -/
def runCommand (platform : Platform) (width : Nat) (words : List Text) : Action Int :=
  withWords width runSpec (runHelp width) words fun given => do
    match ← given.fault? given.arguments.head? with
    | some fault => refuse width runSpec fault
    | none => runOn platform (runRequest given)

/-- The command `expand`. -/
def expandCommand (width : Nat) (words : List Text) : Action Int :=
  withWords width expandSpec (expandHelp width) words fun given => do
    match ← given.fault? given.arguments.head?, given.arguments.drop 1 with
    | some fault, _ => refuse width expandSpec fault
    | none, [] =>
      expand ⟨given.arguments.head?.map .ofText, given.has .body,
        (given.value? .cacheDir).map .ofText⟩
    | none, extra => refuse width expandSpec (.extraArguments extra)

/-- The command `cache`. -/
def cacheCommand (width : Nat) (words : List Text) : Action Int :=
  withWords width cacheSpec (cacheHelp width) words fun given => do
    match ← given.fault? none, given.arguments with
    | some fault, _ => refuse width cacheSpec fault
    | none, [] => printCache ((given.value? .cacheDir).map .ofText)
    | none, extra => refuse width cacheSpec (.extraArguments extra)

/-- The commands by name. -/
def commands (platform : Platform) (width : Nat) : List (Text × (List Text → Action Int)) :=
  [("run", runCommand platform width), ("expand", expandCommand width),
    ("cache", cacheCommand width)]

/-- The commands that may have been meant by the first of some words. -/
def commandsNear (platform : Platform) (width : Nat) : List Text → List Text
  | [] => []
  | word :: _ => Text.closeTo word ((commands platform width).map Prod.fst)

/-- Chooses a command. A word that begins like an option stands for one even behind two dashes; the
commands that are suggested are then those like the first word that is left. -/
def dispatch (platform : Platform) (width : Nat) : List Text → Action Int
  | [] => refuse width program .missingCommand
  | name :: words =>
    match List.lookup name (commands platform width) with
    | some command => command words
    | none =>
      match program.parse (name :: words) with
      | .error misuse =>
        refuseNear width program misuse.fault (commandsNear platform width misuse.rest)
      | .ok given =>
        if given.has .help then showHelp (programHelp width)
        else
          refuseNear width program (.noSuchCommand name)
            (commandsNear platform width given.arguments)

/-- The variable by which a shell asks for completion. -/
def completionVariable : Text :=
  "_SNIPPET_RUNNER_COMPLETE"

/-- What a shell is told that asks for completion; an empty value asks for nothing. -/
def completionAnswer? (vars : Variables) : Option Text :=
  match (vars.get? completionVariable).getD [] with
  | [] => none
  | instruction =>
    match Text.cutFirst? ['_'] instruction with
    | none => some "Invalid completion instruction."
    | some (_, shell) => some ("Shell ".toList ++ shell ++ " not supported.".toList)

/-- A program that is not asked for completion goes on. -/
theorem completionAnswer?_of_unset {vars : Variables} (h : vars.get? completionVariable = none) :
    completionAnswer? vars = none := by
  simp [completionAnswer?, h]

/-- The program on the words of its command line, on a platform and with pages of a given width. The
value is the exit status. -/
def startOn (platform : Platform) (width : Nat) (words : List Text) : Action Int := do
  match completionAnswer? (← Action.ask .environment) with
  | some answer =>
    echoOn .errors answer
    return 1
  | none =>
    if words.isEmpty then
      Action.ask (.print .errors (programHelp width))
      return 2
    else
      withWords width program (programHelp width) words fun given =>
        dispatch platform width given.arguments

/-- The program on the words of its command line, on a platform and with pages as wide as the
terminal. -/
def start (platform : Platform) (words : List Text) : Action Int := do
  startOn platform (pageWidth (← Action.ask .environment)) words

end CommandLine

end Oneshot
