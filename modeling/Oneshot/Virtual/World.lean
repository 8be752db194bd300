import Oneshot.Host.Routine
import Oneshot.Virtual.Account

/-!
# A host in memory

A world stands in for a host where programs are tried out, with the tools that scripts call. What is
proved of the runner holds for every host and does not look at worlds.

A world is all that requests to the host can find and change: a tree, the environment, and what has
been printed. `World.answer` answers requests as an operating system does. How children behave is
left to a launcher, so that a statement about the runner can assume what it needs of them.

- `answer_environment`: the environment is that of the world.
- `answerAmid_none`: a world in which nobody else acts.
-/

namespace Oneshot

namespace Virtual

/-- A host in memory. -/
structure World where
  tree : Tree
  workDir : WorkDir
  vars : Variables
  /-- Whether standard error is a terminal. -/
  isTerminal : Bool
  /-- The ends of the names that staging directories get, in the order in which they are tried. -/
  endings : Nat → Text
  /-- What the runner has printed. -/
  output : Text
  errors : Text
  /-- What children have printed into the streams of the runner. -/
  childOutput : Bytes
  childErrors : Bytes
  /-- The events that were announced. -/
  announced : List (Text × Text)

/-- How children behave: what a command leaves behind, and the tree behind it. -/
abbrev Launcher := World → Launch → Except Refusal (Finished × Tree)

namespace World

/-- A refusal of the system about a path. -/
def refusal (cause : Errno) (path : Text) : Refusal :=
  .os ⟨cause, some path, none⟩

/-- The result of an operation on a path. A path with a NUL reaches no operation. -/
def onPath {α : Type} (path : Text) (result : Except Errno α) : Except Refusal α :=
  if path.contains '\x00' then .error .nulByte
  else
    match result with
    | .ok x => .ok x
    | .error cause => .error (refusal cause path)

/-- The kind of an entry. -/
def kindOf : Entry → FileKind
  | .directory _ => .directory
  | .file .. | .tool _ => .file
  | .link _ | .device _ => .other

/-- The place that a name has in a directory. -/
def pathIn (directory name : Text) : Text :=
  if directory.getLast? = some '/' ∨ directory = [] then directory ++ name
  else directory ++ ['/'] ++ name

/-- Makes the first directory of those to try that is not taken; there are `left` more. -/
def makeStaging (w : World) (parent label : Text) :
    (tried left : Nat) → Except Refusal (Text × Tree)
  | _, 0 => .error (refusal .alreadyThere (pathIn parent label))
  | tried, left + 1 =>
    let path := pathIn parent (label ++ w.endings tried)
    match onPath path (w.tree.mkdir w.workDir path) with
    | .ok tree => .ok (path, tree)
    | .error (.os e) =>
      if e.cause = .alreadyThere then makeStaging w parent label (tried + 1) left
      else .error (.os e)
    | .error e => .error e

/-- The world behind an operation that changes the tree. -/
def changed (result : Except Refusal Tree) : StateM World (Except Refusal Unit) :=
  match result with
  | .ok tree => do
    modify ({ · with tree })
    return .ok ()
  | .error e => return .error e

/-- Runs a command. What it prints joins the streams of the runner, unless it is collected. -/
def launch (launcher : Launcher) (command : Launch) : StateM World (Except Refusal Finished) := do
  let w ← get
  match launcher w command with
  | .error e => return .error e
  | .ok (finished, tree) =>
    if command.captured then
      set { w with tree }
      return .ok finished
    else
      set { w with
        tree
        childOutput := w.childOutput ++ finished.output
        childErrors := w.childErrors ++ finished.errors }
      return .ok ⟨finished.status, [], []⟩

/-- The first line of what the validator says of so many faults. -/
def validatorLine (count : Nat) : Text :=
  Text.ofNat count ++ " validation error".toList ++ (if count = 1 then [] else ['s'])
    ++ " for RunnerConfig".toList

/-- Answers a request. -/
def answer (launcher : Launcher) : (r : Request) → StateM World r.Reply
  | .kind path => do
    let w ← get
    return (onPath path (w.tree.lookUp w.workDir path)).map fun found => kindOf found.2
  | .isExecutable path => do
    let w ← get
    return !path.contains '\x00' && w.tree.isExecutable w.workDir path
  | .isReadable _ => return true
  | .makeDir path => do
    let w ← get
    changed (onPath path (w.tree.mkdir w.workDir path))
  | .makeStaging parent label => do
    let w ← get
    match makeStaging w parent label 0 (w.tree.entries.length + 1) with
    | .error e => return .error e
    | .ok (path, tree) =>
      set { w with tree }
      return .ok path
  | .read path => do
    let w ← get
    return onPath path (w.tree.readFile w.workDir path)
  | .write path content => do
    let w ← get
    changed (onPath path ((w.tree.writeFile w.workDir path content).map Prod.snd))
  | .create path content => do
    let w ← get
    changed (onPath path (w.tree.createFile w.workDir path content))
  | .rename old new => do
    let w ← get
    if old.contains '\x00' || new.contains '\x00' then return .error .nulByte
    else
      match w.tree.rename w.workDir old new with
      | .error cause => return .error (.os ⟨cause, some old, some new⟩)
      | .ok tree => changed (.ok tree)
  | .discard path => do
    let w ← get
    if !path.contains '\x00' then set { w with tree := w.tree.discard w.workDir path }
  | .launch command => launch launcher command
  | .workDir => do
    let w ← get
    match w.tree.placeOf? w.workDir with
    | some place => return .ok (Tree.textOf place)
    | none => return .error (.os ⟨.noEntry, none, none⟩)
  | .environment => do return (← get).vars
  | .accountHome none => do return Account.ownHome? (← get).tree
  | .accountHome (some account) => do return Account.homeOf? (← get).tree account
  | .isTerminal .output => return false
  | .isTerminal .errors => do return (← get).isTerminal
  | .validatorText faults => return validatorLine faults.length
  | .print .output text => modify fun w => { w with output := w.output ++ text }
  | .print .errors text => modify fun w => { w with errors := w.errors ++ text }
  | .announce stage detail =>
    modify fun w => { w with announced := w.announced ++ [(stage, detail)] }

/-- Answers a request in a world in which others act in front of it. -/
def answerAmid (others : Request → World → World) (launcher : Launcher) (r : Request) :
    StateM World r.Reply := do
  modify (others r)
  answer launcher r

/-- The environment is that of the world. -/
theorem answer_environment (launcher : Launcher) (w : World) :
    (answer launcher .environment).run w = (w.vars, w) := rfl

/-- A world in which nobody else acts. -/
theorem answerAmid_none (launcher : Launcher) (r : Request) (w : World) :
    (answerAmid (fun _ w => w) launcher r).run w = (answer launcher r).run w := rfl

end World

end Virtual

end Oneshot
