import Oneshot.Virtual.Shell.Simple

/-!
# Compound commands

Commands are joined, repeated, chosen and put into copies of the shell. The commands of a pipeline
run one after the other, each with the output of the one in front as its input. A command that
nobody waits for has ended before the script goes on.

- `execute_empty`: a command that is empty does nothing.
-/

namespace Oneshot

namespace Virtual

namespace Shell

/-- How many rounds a loop makes before its shell is taken for one that never ends. -/
def roundLimit : Nat := 100000000

/-- Ends the shell if the last command has failed and that is to end it. -/
def stopIfFailed (tested : Bool) : Step Unit := do
  let s ← get
  if s.has 'e' && !tested && s.status != 0 then throw .ended

/-- Whether a loop goes on after a round. -/
def goesOn (round : Step Unit) : Step Bool := do
  match ← outcomeOf round with
  | .ok () => return true
  | .error (.leaveLoops count) =>
    if count ≤ 1 then return false else throw (.leaveLoops (count - 1))
  | .error (.nextRound count) =>
    if count ≤ 1 then return true else throw (.nextRound (count - 1))
  | .error flow => throw flow

/-- Runs a body inside of a loop. -/
def inLoop (body : Step Unit) : Step Unit := do
  modify fun s => { s with loops := s.loops + 1 }
  ensuring body (modify fun s => { s with loops := s.loops - 1 })

/-- Runs the rounds of a loop; `status` is that of the last round. -/
def runRounds (e : Engine) (tested untilTrue : Bool) (test body : Command) :
    (fuel : Nat) → (status : Nat) → Step Unit
  | 0, _ => throw (.killed 9)
  | fuel + 1, status => do
    match ← outcomeOf (e.exec true test) with
    | .error (.nextRound count) =>
      if count ≤ 1 then runRounds e tested untilTrue test body fuel status
      else throw (.nextRound (count - 1))
    | .error (.leaveLoops count) =>
      if count ≤ 1 then finish status else throw (.leaveLoops (count - 1))
    | .error flow => throw flow
    | .ok () =>
      if ((← get).status == 0) == untilTrue then finish status
      else if ← goesOn (e.exec tested body) then
        runRounds e tested untilTrue test body fuel (← get).status

/-- Runs a command for each of some values. -/
def runEach (e : Engine) (tested : Bool) (name : Text) (body : Command) : List Text → Step Unit
  | [] => return
  | value :: rest => do
    assign name value false
    if ← goesOn (e.exec tested body) then runEach e tested name body rest

/-- Whether one of some patterns matches a text. -/
def matchesAny (e : Engine) (text : Text) : List Word → Step Bool
  | [] => return false
  | word :: rest => do
    if matchesItems (← expandPattern e word) text then return true
    else matchesAny e text rest

/-- Runs the first branch of which a pattern matches a text. -/
def runBranches (e : Engine) (tested : Bool) (text : Text) :
    List (List Word × Command) → Step Unit
  | [] => finish 0
  | (patterns, body) :: rest => do
    if ← matchesAny e text patterns then
      match body with
      | .empty => finish 0
      | body => e.exec tested body
    else runBranches e tested text rest

/-- Leads a descriptor to an open file. -/
def leadTo (descriptor file : Nat) : Calm Unit :=
  modify fun s => { s with toProcess := s.toProcess.redirect descriptor file }

/-- Leads the input to an open file, if one is given. -/
def takeInputFrom : Option Nat → Calm Unit
  | none => return
  | some file => leadTo 0 file

/-- Runs the commands of a pipeline. The first of them reads from `input?`, if that is given. -/
def runStages (e : Engine) (tested : Bool) (input? : Option Nat) : List Command → Step Unit
  | [] => return
  | [last] => do
    noteEnd (← inCopy e do
      takeInputFrom input?
      e.exec tested last)
  | command :: rest => do
    let s ← get
    let (reader, writer, system) := s.system.addStream []
    set { s with system }
    let ended ← inCopy e do
      takeInputFrom input?
      leadTo 1 writer
      e.exec tested command
    noteEnd ended
    runStages e tested (some reader) rest

/-- Leads descriptors as redirections say, or ends the shell. -/
def redirectOrEnd (e : Engine) (redirections : List Redirection) : Step Unit := do
  if !(← redirectTo e redirections) then
    finish 2
    throw .ended

/-- Runs a command that nobody waits for. Its input is empty. -/
def runBackground (e : Engine) (command : Command) (redirections : List Redirection) :
    Step Unit := do
  let s ← get
  let number := s.system.lastProcess + 1
  set { s with system.lastProcess := number }
  let ended ← inCopy e do
    let _ ← redirect 0 (.file "/dev/null".toList .read)
    redirectOrEnd e redirections
    e.exec false command
  modify fun s => { s with
    jobs := s.jobs ++ [(number, statusOf ended)], lastBackground := number, status := 0 }

/-- Defines a function. -/
def define (name : Text) (body : Command) : Calm Unit :=
  modify fun s => { s with
    functions := ⟨name, body⟩ :: s.functions.filter (·.name != name), status := 0 }

/-- Runs a command, without regard to signals. -/
def execute (e : Engine) (tested : Bool) (command : Command) : Step Unit := do
  let atLine (line : Nat) : Calm Unit := modify ({ · with line })
  match command with
  | .empty => return
  | .simple line assignments words redirections =>
    atLine line
    runSimple e tested assignments words redirections
    stopIfFailed tested
  | .pipeline commands =>
    runStages e tested none commands
    stopIfFailed tested
  | .negated command =>
    e.exec true command
    finish (if (← get).status = 0 then 1 else 0)
  | .background line command redirections =>
    atLine line
    runBackground e command redirections
  | .sequence first second =>
    e.exec tested first
    e.exec tested second
  | .both first second =>
    e.exec true first
    if (← get).status = 0 then e.exec tested second
  | .either first second =>
    e.exec true first
    if (← get).status ≠ 0 then e.exec tested second
  | .conditional test thenDo elseDo? =>
    e.exec true test
    if (← get).status = 0 then e.exec tested thenDo
    else
      match elseDo? with
      | some elseDo => e.exec tested elseDo
      | none => finish 0
  | .loop untilTrue test body => inLoop (runRounds e tested untilTrue test body roundLimit 0)
  | .each line name words? body =>
    atLine line
    let values ← match words? with
      | some words => expandAll e words
      | none => do pure (← get).arguments
    if values.isEmpty then finish 0 else inLoop (runEach e tested name body values)
  | .choose line word branches =>
    atLine line
    runBranches e tested (← expandText e word) branches
  | .subshell line body redirections =>
    atLine line
    noteEnd (← inCopy e do
      redirectOrEnd e redirections
      e.exec tested body)
    stopIfFailed tested
  | .redirected line body redirections =>
    atLine line
    withRedirections e redirections (e.exec tested body)
  | .define _ name body => define name body

/-- How many signals are taken between two commands. -/
def signalLimit : Nat := 1000

/-- Runs a command, with a look at the signals that have arrived before and behind it. An option
lets the shell read commands without running them. -/
def exec (e : Engine) (tested : Bool) (command : Command) : Step Unit := do
  if !(← get).has 'n' then
    takeSignals e signalLimit
    execute e tested command
  takeSignals e signalLimit

/-- A command that is empty does nothing. -/
theorem execute_empty (e : Engine) (tested : Bool) : execute e tested .empty = pure () := rfl

end Shell

end Virtual

end Oneshot
