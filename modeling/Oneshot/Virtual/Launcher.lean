import Oneshot.Virtual.Shell.Script
import Oneshot.Virtual.Tool.Awk.Run
import Oneshot.Virtual.Tool.Batch
import Oneshot.Virtual.Tool.Columns
import Oneshot.Virtual.Tool.Comparing
import Oneshot.Virtual.Tool.Dump
import Oneshot.Virtual.Tool.Facts
import Oneshot.Virtual.Tool.Find.Run
import Oneshot.Virtual.Tool.Grep
import Oneshot.Virtual.Tool.Lines
import Oneshot.Virtual.Tool.Listing
import Oneshot.Virtual.Tool.Making
import Oneshot.Virtual.Tool.Numbers
import Oneshot.Virtual.Tool.Printing
import Oneshot.Virtual.Tool.Sed.Run
import Oneshot.Virtual.Tool.Sorting
import Oneshot.Virtual.Tool.Translate
import Oneshot.Virtual.World

/-!
# Tools, and children in memory

The tools of the system have their names, and there is an engine in which scripts run: a script runs
tools, and one of the tools reads scripts. A command is launched as the system launches one: the
environment is checked, a name without a slash is looked up along the search path of the child, and
the file found is run by the tool that reads it.

- `runTool_sh`: the tool that reads scripts is the shell.
- `runScripts_nul`: a command with a NUL is not launched.
-/

namespace Oneshot

namespace Virtual

/-! ### Tools -/

/-- The tools that start no others, by their names. -/
def plainTools : List (String × Tool) :=
  let files : List (String × Tool) :=
    [("mkdir", Tool.mkdir), ("rmdir", Tool.rmdir), ("rm", Tool.rm), ("touch", Tool.touch),
      ("chmod", Tool.chmod), ("cp", Tool.cp), ("mv", Tool.mv), ("ln", Tool.ln), ("ls", Tool.ls),
      ("basename", Tool.basename), ("dirname", Tool.dirname), ("pwd", Tool.pwd),
      ("readlink", Tool.readlink), ("realpath", Tool.realpath)]
  let blocks : List (String × Tool) :=
    [("mktemp", Tool.mktemp), ("truncate", Tool.truncate), ("install", Tool.install),
      ("dd", Tool.dd), ("stat", Tool.stat), ("cmp", Tool.cmp), ("diff", Tool.diff)]
  let lines : List (String × Tool) :=
    [("cat", Tool.cat), ("tac", Tool.tac), ("nl", Tool.nl), ("tee", Tool.tee),
      ("head", Tool.head), ("tail", Tool.tail), ("wc", Tool.wc), ("cut", Tool.cut),
      ("paste", Tool.paste), ("comm", Tool.comm), ("fold", Tool.fold), ("rev", Tool.rev),
      ("sort", Tool.sort), ("uniq", Tool.uniq)]
  let texts : List (String × Tool) :=
    [("tr", Tool.tr), ("base64", Tool.base64), ("od", Tool.od), ("seq", Tool.seq),
      ("expr", Tool.expr), ("sed", Tool.Sed.run), ("grep", Tool.Grep.run none),
      ("egrep", Tool.Grep.run (some .extended)), ("fgrep", Tool.Grep.run (some .fixed)),
      ("echo", Tool.echo), ("printf", Tool.printf), ("test", Tool.test), ("[", Tool.bracket)]
  let facts : List (String × Tool) :=
    [("true", Tool.idle 0), ("false", Tool.idle 1), ("sync", Tool.idle 0), ("sleep", Tool.sleep),
      ("whoami", Tool.whoami), ("id", Tool.identity), ("uname", Tool.uname),
      ("arch", Tool.printLine "arch" "x86_64" 0), ("nproc", Tool.printLine "nproc" ['1'] 0),
      ("hostname", Tool.printLine "hostname" "localhost" 0),
      ("tty", Tool.printLine "tty" "not a tty" 1), ("yes", Tool.yes), ("date", Tool.date)]
  files ++ blocks ++ lines ++ texts ++ facts

/-- The tools that start others or look for them, by their names. -/
def startingTools (start : Tool.Start) : List (String × Tool.Starter) :=
  [("awk", Tool.exiting (Tool.Awk.run start)), ("mawk", Tool.exiting (Tool.Awk.run start)),
    ("xargs", Tool.exiting (Tool.Batch.run start)), ("find", Tool.exiting (Tool.Find.run start)),
    ("env", Tool.env start), ("nohup", Tool.nohup start), ("nice", Tool.nice start),
    ("stdbuf", Tool.stdbuf start), ("setsid", Tool.setsid start),
    ("timeout", Tool.timeout start), ("printenv", Tool.exiting Tool.printenv),
    ("which", Tool.exiting Tool.which)]

/-- The names of the tool that reads scripts. -/
def shellNames : List String :=
  ["sh", "dash", "bash"]

/-- Runs a tool to its end. -/
def runTool (e : Shell.Engine) (name : Text) (arguments : List Text) : Run Ended := do
  let name := String.ofList name
  if shellNames.contains name then Shell.runShell e arguments
  else
    match List.lookup name plainTools, List.lookup name (startingTools e.run) with
    | some tool, _ => return .exited (← tool arguments)
    | none, some tool => tool arguments
    | none, none => return .exited 127

/-- The engine of scripts that nest at most `depth` deep. What nests deeper is killed, like a
process whose stack is full. -/
def engine : (depth : Nat) → Shell.Engine
  | 0 => ⟨fun _ _ => throw (.killed 11), fun _ _ => throw (.killed 11),
      fun _ _ => return .killed 11⟩
  | depth + 1 =>
    let e := engine depth
    ⟨Shell.exec e, Shell.expandParts e, runTool e⟩

/-- How deep scripts nest. -/
def nestingLimit : Nat := 6000

/-- The names of all tools. -/
def toolNames : List Text :=
  let starting := startingTools fun _ _ => return .exited 0
  (shellNames ++ plainTools.map Prod.fst ++ starting.map Prod.fst).map String.toList

/-- The tool that reads scripts is the shell. -/
theorem runTool_sh (e : Shell.Engine) (arguments : List Text) :
    runTool e "sh".toList arguments = Shell.runShell e arguments := by
  simp [runTool, shellNames]

/-! ### Children -/

/-- The search path of a child whose environment has none. -/
def childSearchPath : Text :=
  "/bin:/usr/bin"

/-- The paths at which a program is tried. -/
def candidates (program : Text) (vars : Variables) : List Text :=
  if program.contains '/' then [program]
  else
    (Text.splitAt ':' ((vars.get? "PATH").getD childSearchPath)).map
      (World.pathIn · program)

/-- What runs of the first program found at some paths. Where there is none, a cause other than
absence counts before it. -/
def firstStarted (w : World) (name : Text) (arguments : List Text) :
    List Text → Except Errno Started
  | [] => .error .noEntry
  | path :: rest =>
    match resolve w.tree w.workDir interpreterLimit name (rawOf path) arguments with
    | .ok started => .ok started
    | .error cause =>
      match firstStarted w name arguments rest with
      | .ok started => .ok started
      | .error other =>
        if !Shell.isAbsent cause || rest.isEmpty then .error cause else .error other

/-- The system in which a tool starts: its input is empty, and two streams take what it prints. -/
def firstSystem (tree : Tree) : System where
  tree := tree
  opened := #[⟨.device .null, 0, true, false, false⟩, ⟨.stream 0, 0, false, true, false⟩,
    ⟨.stream 1, 0, false, true, false⟩]
  streams := #[.empty, .empty]
  lastProcess := Shell.firstProcessNumber - 1
  running := []
  sent := []

/-- The process in which a tool starts. -/
def firstProcess (w : World) (vars : Variables) : Process where
  system := firstSystem w.tree
  calledAs := []
  workDir := w.workDir
  descriptors := [(0, 0), (1, 1), (2, 2)]
  environment := vars.map fun (name, value) => (rawOf name, rawOf value)

/-- The bytes that a stream has taken. -/
def streamBytes (system : System) (index : Nat) : Bytes :=
  bytesOf ((system.streams[index]?).getD .empty).content

/-- Whether a text of a command holds a NUL. -/
def holdsNul (command : Launch) (vars : Variables) : Bool :=
  command.arguments.any (·.contains '\x00')
    || vars.any fun (name, value) => name.contains '\x00' || value.contains '\x00'

/-- The launcher whose children are tools and scripts that run on the tree of the world. -/
def runScripts : Launcher := fun w command =>
  let vars := command.vars.getD w.vars
  if vars.any fun v => v.1.contains '=' then .error .illegalVariable
  else if holdsNul command vars then .error .nulByte
  else
    let program := command.arguments.headD []
    let arguments := (command.arguments.drop 1).map rawOf
    match firstStarted w (rawOf program) arguments (candidates program vars) with
    | .error cause => .error (.os ⟨cause, some program, none⟩)
    | .ok started =>
      let (ended, p) :=
        (Shell.runStarted (runTool (engine nestingLimit)) started).run (firstProcess w vars)
      let status : Int := match ended with
        | .exited status => status
        | .killed signal => -signal
      .ok (⟨status, streamBytes p.system 0, streamBytes p.system 1⟩, p.system.tree)

/-- A command with a NUL is not launched. -/
theorem runScripts_nul {w : World} {command : Launch}
    (hname : (command.vars.getD w.vars).any (fun v => v.1.contains '=') = false)
    (hnul : holdsNul command (command.vars.getD w.vars) = true) :
    runScripts w command = .error .nulByte := by
  simp only [runScripts, hname, hnul, Bool.false_eq_true, if_false, if_true]

end Virtual

end Oneshot
