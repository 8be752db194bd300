import Oneshot.Virtual.Raw
import Oneshot.Virtual.Shell.State
import Oneshot.Virtual.Tree

/-!
# Looking for commands

The name of a command stands for a function of the script, a command of the shell itself, or a
program. A name without a slash is looked for along the search path; only a file that may be
executed is found there.

An executable file is a tool of the system, or its first line names the interpreter that reads it.
Only so much of the file is looked at: an interpreter whose name does not end there is none, while
the argument behind its name is cut off. An interpreter may itself be a file with such a line.

- `resolve_tool`: a tool is started as it is.
- `resolve_missing`: a path that leads nowhere is refused for that, however deep it stands.
- `locate_nil`: where no directory is searched, nothing is found.
-/

namespace Oneshot

namespace Virtual

/-! ### Executable files -/

/-- How many bytes of a file are looked at for the interpreter. -/
def firstLineLimit : Nat := 256

/-- A blank of a first line. -/
def isLineBlank (c : Char) : Bool :=
  c == ' ' || c == '\t'

/-- Whether a character ends the name of an interpreter. -/
def endsInterpreter (c : Char) : Bool :=
  isLineBlank c || c == '\x00'

/-- The first line behind its mark. `s` is what is looked at behind the mark. Where no line ends
there, the last byte of the space for it does not count, and NULs stand behind a short file. -/
def firstLine? (s : Text) : Option Text :=
  if s.contains '\n' then some (s.takeWhile (· != '\n'))
  else
    let padded := s ++ List.replicate (firstLineLimit - 2 - s.length) '\x00'
    if (padded.dropWhile isLineBlank).any endsInterpreter then some (padded.take (firstLineLimit - 3))
    else none

/-- The interpreter that the first line of a file names, and the argument behind its name. -/
def interpreterLine? (content : Text) : Option (Text × Option Text) :=
  match content.take firstLineLimit with
  | '#' :: '!' :: s =>
    match (firstLine? s).map fun line => (Text.dropEndWhile isLineBlank line).dropWhile isLineBlank with
    | none | some [] => none
    | some line =>
      let interpreter := line.takeWhile (!endsInterpreter ·)
      match line.drop interpreter.length with
      | c :: rest =>
        let option := (rest.dropWhile isLineBlank).takeWhile (· != '\x00')
        some (interpreter, if isLineBlank c then some option else none)
      | [] => some (interpreter, none)
  | _ => none

/-- A program that is started: the tool that runs it, the name under which it is started, and its
arguments. -/
structure Started where
  tool : Text
  name : Text
  arguments : List Text
deriving DecidableEq, Repr

/-- What runs when the executable at a path is started under a name, following at most `depth`
files. An interpreter without a name stands for the working directory, which cannot be started. -/
def resolve (tree : Tree) (workDir : WorkDir) :
    (depth : Nat) → (name path : Text) → List Text → Except Errno Started
  | 0, _, path, _ =>
    match tree.lookUp workDir (textOfRaw path) with
    | .error e => .error e
    | .ok (_, .tool _) | .ok (_, .file _ true) => .error .linkLoop
    | .ok _ => .error .accessDenied
  | depth + 1, name, path, arguments =>
    match tree.lookUp workDir (textOfRaw path) with
    | .error e => .error e
    | .ok (_, .tool tool) => .ok ⟨tool, name, arguments⟩
    | .ok (_, .file content true) =>
      match interpreterLine? (rawOfBytes content) with
      | none => .error .notExecutable
      | some ([], _) => .error .accessDenied
      | some (interpreter, option?) =>
        resolve tree workDir depth interpreter interpreter (option?.toList ++ path :: arguments)
    | .ok _ => .error .accessDenied

/-- How many files are followed: five with a first line, and a tool. -/
def interpreterLimit : Nat := 6

/-- A tool is started as it is. -/
theorem resolve_tool {tree : Tree} {workDir : WorkDir} {place : Place} {path tool : Text}
    (h : tree.lookUp workDir (textOfRaw path) = .ok (place, .tool tool)) (depth : Nat)
    (name : Text) (arguments : List Text) :
    resolve tree workDir (depth + 1) name path arguments = .ok ⟨tool, name, arguments⟩ := by
  simp [resolve, h]

/-- A path that leads nowhere is refused for that. -/
theorem resolve_missing {tree : Tree} {workDir : WorkDir} {path : Text} {e : Errno}
    (h : tree.lookUp workDir (textOfRaw path) = .error e) (depth : Nat) (name : Text)
    (arguments : List Text) :
    resolve tree workDir depth name path arguments = .error e := by
  cases depth <;> simp [resolve, h]

/-! ### Commands -/

namespace Shell

/-- Where a program without a slash in its name may stand. An empty directory stands for the one in
which the shell works. -/
def placesAlong (searchPath name : Text) : List Text :=
  (Text.splitAt ':' searchPath).map fun directory =>
    if directory.isEmpty then name else directory ++ '/' :: name

/-- The search path of a shell. -/
def Interpreter.searchPath (s : Interpreter) : Text :=
  (s.get? "PATH").getD []

/-- The search path that every system has. -/
def systemSearchPath : Text :=
  "/usr/local/sbin:/usr/local/bin:/usr/sbin:/usr/bin:/sbin:/bin"

/-- Whether a cause only says that nothing stands at a path. -/
def isAbsent (cause : Errno) : Bool :=
  cause == .noEntry || cause == .notDirectory

/-- The first of some paths at which an executable file stands. If there is none, `cause` tells why,
unless a better cause is met. -/
def locate (p : Process) (cause : Errno) : List Text → Except Errno Text
  | [] => .error cause
  | path :: rest =>
    match p.lookUp path with
    | .error e => locate p (if isAbsent e then cause else e) rest
    | .ok (_, .tool _) => .ok path
    | .ok (_, .file _ true) => .ok path
    | .ok _ => locate p .accessDenied rest

/-- Where the program of a name stands. -/
def Interpreter.find (s : Interpreter) (searchPath name : Text) : Except Errno Text :=
  locate s.toProcess .noEntry (placesAlong searchPath name)

/-- What is said of a program that cannot be started. -/
def startFault (cause : Errno) : Text :=
  if isAbsent cause then "not found" else cause.wording

/-- What runs when the file at a path is started under a name. A file that names no interpreter is
read by the shell. -/
def startedBy (p : Process) (name path : Text) (arguments : List Text) : Except Errno Started :=
  match resolve p.system.tree p.workDir interpreterLimit name path arguments with
  | .error .notExecutable => .ok ⟨"sh", "/bin/sh", path :: arguments⟩
  | started => started

/-- What runs of the first program that can be started at some paths. -/
def firstStarted (p : Process) (name : Text) (arguments : List Text) (cause : Errno) :
    List Text → Except Errno Started
  | [] => .error cause
  | path :: rest =>
    match startedBy p name path arguments with
    | .ok started => .ok started
    | .error e => firstStarted p name arguments (if isAbsent e then cause else e) rest

/-- What runs when a program is started, which is looked for along a search path if its name has no
slash. -/
def startedFor (p : Process) (searchPath name : Text) (arguments : List Text) :
    Except Errno Started :=
  if name.contains '/' then startedBy p name name arguments
  else firstStarted p name arguments .noEntry (placesAlong searchPath name)

/-- Runs a program that is started; `run` runs its tool. -/
def runStarted (run : (tool : Text) → List Text → Run Ended) (started : Started) : Run Ended := do
  modify ({ · with calledAs := started.name })
  run started.tool started.arguments

/-- The status for a program that cannot be started. -/
def startStatus (cause : Errno) : Nat :=
  if isAbsent cause || cause == .linkLoop || cause == .nameTooLong then 127 else 126

/-- Where no directory is searched, nothing is found. -/
theorem locate_nil (p : Process) (cause : Errno) : locate p cause [] = .error cause := rfl

end Shell

end Virtual

end Oneshot
