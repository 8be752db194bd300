import Oneshot.Virtual.Shell.Grammar
import Oneshot.Virtual.Shell.State

/-!
# Shells and their copies

A shell reads a script line by line and runs what it has read before it reads on. A copy of a shell
shares the system with it and nothing else: what the copy sets is forgotten when it ends.

A signal is named by number or by name. One that is sent to a shell is on its way until the shell
looks for it between two commands: it is trapped, ignored, or ends the shell.

- `inCopy_keeps`: a copy leaves everything of its shell alone but the system.
- `signalOf?_zero`: the number zero stands for the end of the shell.
-/

namespace Oneshot

namespace Virtual

namespace Shell

/-- The status by which a shell knows how a child has ended. -/
def statusOf : Ended → Nat
  | .exited status => status
  | .killed signal => 128 + signal

/-- Takes what a reader has learnt about documents. -/
def keepDocuments (source : Source) : Calm Unit :=
  modify fun s => { s with
    documents := source.documents ++ s.documents, nextDocument := source.nextDocument }

/-- The lines of a text of which some have been read, up to the end of the last of them. -/
def linesRead (before after : Text) : Text :=
  let count := before.length - after.length
  let isWhole := count = 0 ∨ (before.take count).getLast? = some '\n'
  before.take count ++ if isWhole then [] else
    let more := after.takeWhile (· != '\n')
    more ++ (after.drop more.length).take 1

/-- Reads the next commands of a source and runs them, until there are none. The lines of a file are
shown as they are read, where an option asks for that. Without any command the status is zero. -/
def runSource (e : Engine) (tested isFile : Bool) :
    (fuel : Nat) → (hasRun : Bool) → Source → Step Unit
  | 0, _, _ => return
  | fuel + 1, hasRun, source => do
    let s ← get
    let (result, next) :=
      readLine.run.run { source with aliases := s.aliases, nextDocument := s.nextDocument }
    keepDocuments next
    if isFile && s.has 'v' then put 2 (linesRead source.rest next.rest)
    let next := { next with documents := [] }
    match result with
    | .error message =>
      modify ({ · with line := next.line })
      abort ("Syntax error: ".toList ++ message)
    | .ok none => if !hasRun then finish 0
    | .ok (some .empty) => runSource e tested isFile fuel hasRun next
    | .ok (some command) =>
      e.exec tested command
      runSource e tested isFile fuel true next

/-- Runs the commands of a text, which has lines of its own. -/
def runText (e : Engine) (tested : Bool) (text : Text) : Step Unit := do
  runSource e tested false (text.length + 2) false (.ofText text 1 (← get).nextDocument [])

/-- Runs the commands of a file. -/
def runFile (e : Engine) (tested : Bool) (text : Text) : Step Unit := do
  runSource e tested true (text.length + 2) false (.ofText text 1 (← get).nextDocument [])

/-- Runs what is to be done at the end of a shell. Only an explicit end in it changes the status. -/
def runFinalTrap (e : Engine) : Step Unit := do
  let s ← get
  match List.lookup 0 s.traps with
  | none => return
  | some action =>
    set { s with traps := s.traps.filter (·.1 != 0), trapStatus := some s.status }
    match ← outcomeOf (runText e false action) with
    | .ok () | .error .returned | .error (.leaveLoops _) | .error (.nextRound _) => finish s.status
    | .error .ended | .error .failed => return
    | .error flow => throw flow

/-- Runs a body to the end of the shell, with what is to be done there. -/
def toEnd (e : Engine) (body : Step Unit) : Calm Ended := do
  let body : Step Unit := do
    match ← outcomeOf body with
    | .error (.killed signal) => throw (.killed signal)
    | .error (.replaced ended) => throw (.replaced ended)
    | _ => runFinalTrap e
  match ← body.run with
  | .error (.killed signal) => return .killed signal
  | .error (.replaced ended) => return ended
  | _ => return .exited ((← get).status % 256)

/-- What a copy of a shell does about signals: those that are ignored stay so. -/
def forgetTraps : Calm Unit :=
  modify fun s => { s with
    traps := s.traps.filter fun t => t.2.isEmpty && t.1 != 0
    isCopy := true }

/-- Runs a body in a copy of the shell. -/
def inCopy (e : Engine) (body : Step Unit) : Calm Ended := do
  let s ← get
  forgetTraps
  let ended ← toEnd e body
  modify fun t => { s with system := t.system }
  return ended

/-- A copy leaves everything of its shell alone but the system. -/
theorem inCopy_keeps (e : Engine) (body : Step Unit) (s : Interpreter) :
    ((inCopy e body).run s).2 = { s with system := ((inCopy e body).run s).2.system } := by
  simp only [inCopy, StateT.run_bind, StateT.run_get, StateT.run_modify, StateT.run_pure]
  rfl

/-! ### Signals -/

/-- How many signals there are, with the number zero. -/
def signalCount : Nat := 65

/-- The names of the signals in the order of their numbers, as far as they are the same everywhere.
-/
def plainSignalNames : List Text :=
  Text.splitAt ' ' ("EXIT HUP INT QUIT ILL TRAP ABRT BUS FPE KILL USR1 SEGV USR2 PIPE ALRM".toList
    ++ " TERM 16 CHLD CONT STOP TSTP TTIN TTOU URG XCPU XFSZ VTALRM PROF WINCH".toList
    ++ " IO PWR SYS 32 33 RTMIN".toList)

/-- The name of a signal. -/
def signalName (signal : Nat) : Text :=
  match plainSignalNames[signal]? with
  | some name => name
  | none =>
    if signal < 50 then "RTMIN+".toList ++ Text.ofNat (signal - 34)
    else if signal < 64 then "RTMAX-".toList ++ Text.ofNat (64 - signal)
    else "RTMAX"

/-- The signal of a number or a name, from the number `least` on. -/
def signalOf? (least : Nat) (name : Text) : Option Nat :=
  match natOf? name with
  | some n => if n < signalCount then some n else none
  | none =>
    ((List.range signalCount).drop least).find? fun n => signalName n == name.map Char.toUpper

/-- What is said about a child that a signal has ended. -/
def signalWording (signal : Nat) : Text :=
  let wordings : List String :=
    ["", "Hangup", "", "Quit", "Illegal instruction", "Trace/breakpoint trap", "Aborted",
      "Bus error", "Floating point exception", "Killed", "User defined signal 1",
      "Segmentation fault", "User defined signal 2", "", "Alarm clock", "Terminated"]
  let more : List String :=
    ["Stack fault", "", "", "", "", "", "", "", "CPU time limit exceeded",
      "File size limit exceeded", "Virtual timer expired", "Profiling timer expired", "",
      "I/O possible", "Power failure", "Bad system call", "Unknown signal 32", "Unknown signal 33"]
  match (wordings ++ more)[signal]? with
  | some wording => wording.toList
  | none => "Real-time signal ".toList ++ Text.ofNat (signal - 34)

/-- Whether a signal leaves a process as it is: no signal at all, or one that is ignored or stops.
-/
def isHarmless (signal : Nat) : Bool :=
  [0, 17, 18, 19, 20, 21, 22, 23, 28].contains signal

/-- What is done when a signal arrives, if it is not left to the system. -/
def Interpreter.trapOf? (s : Interpreter) (signal : Nat) : Option Text :=
  List.lookup signal s.traps

/-- Takes the first of some signals that is for the shell. -/
def takeSignal (number : Nat) : List (Nat × Nat) → Option (Nat × List (Nat × Nat))
  | [] => none
  | (target, signal) :: rest =>
    if target = number then some (signal, rest)
    else (takeSignal number rest).map fun (found, others) => (found, (target, signal) :: others)

/-- Does what a trap says. The status behind it is the one before it. -/
def runTrap (e : Engine) (action : Text) : Step Unit := do
  let s ← get
  set { s with trapStatus := some s.status }
  runText e false action
  modify ({ · with status := s.status, trapStatus := s.trapStatus })

/-- Does what the traps say of the signals that have arrived. A copy of a shell leaves them to the
shell. There are at most `fuel` of them. -/
def takeSignals (e : Engine) : (fuel : Nat) → Step Unit
  | 0 => return
  | fuel + 1 => do
    let s ← get
    if s.system.sent.isEmpty || s.isCopy then return
    else
      match takeSignal s.processNumber s.system.sent with
      | none => return
      | some (signal, sent) =>
        set { s with system.sent := sent }
        match if signal = 9 then none else s.trapOf? signal with
        | some action => if !action.isEmpty then runTrap e action
        | none => if !isHarmless signal then throw (.killed signal)
        takeSignals e fuel

/-- Sends a signal to the shell itself. A copy of a shell leaves it to the shell. -/
def signalItself (signal : Nat) : Step Unit := do
  let s ← get
  if s.isCopy || signal != 9 && (s.trapOf? signal).isSome then
    set { s with system.sent := s.system.sent ++ [(s.processNumber, signal)] }
  else if !isHarmless signal then throw (.killed signal)

/-- The number zero stands for the end of the shell. -/
theorem signalOf?_zero : signalOf? 0 "EXIT".toList = some 0 := by
  decide +kernel

end Shell

end Virtual

end Oneshot
