import Oneshot.Virtual.Shell.Builtin.Basic

/-!
# Traps and other processes

The commands that send and trap signals, and that wait for other processes. A job is a process that
was started without being waited for.

- `trapListing_nil`: where nothing is trapped, nothing is listed.
-/

namespace Oneshot

namespace Virtual

namespace Shell

/-! ### Jobs -/

/-- The process of a job, which a percent sign and a number name, or a sign for one of the last two.
-/
def jobOf (name : Text) : Step Nat := do
  let numbers := (← get).jobs.map (·.1)
  let last (back : Nat) (fault : String) : Step Nat :=
    match numbers.reverse[back]? with
    | some number => return number
    | none => abort fault.toList
  match name with
  | ['%'] | ['%', '%'] | ['%', '+'] => last 0 "No current job"
  | ['%', '-'] => last 1 "No previous job"
  | name =>
    let found? := (natOf? (name.drop 1)).bind fun n =>
      if name.head? ≠ some '%' ∨ n = 0 then none else numbers[n - 1]?
    match found? with
    | some number => return number
    | none => abort ("No such job: ".toList ++ name)

/-- Lists jobs. All of them have ended by the time that somebody asks, so nothing is to be said. -/
def listJobs : Builtin := fun arguments => do
  let (_, operands) ← readOptions "lp" [] arguments
  for operand in operands do
    let _ ← jobOf operand
  finish 0

/-- Continues jobs, which needs control over them that no script has. -/
def continueJobs : Builtin := fun arguments => do
  let (_, operands) ← readOptions [] [] arguments
  let name := operands.headD ['%']
  let _ ← jobOf name
  abort ("job ".toList ++ operands.headD "(null)" ++ " not created under job control".toList)

/-! ### Sending -/

/-- Sends a signal to a process. -/
def sendTo (signal number : Nat) : Step Bool := do
  let s ← get
  if number = s.processNumber then
    signalItself signal
    return true
  else if number ≠ 0 ∧ s.system.running.contains number then
    set { s with system.sent := s.system.sent ++ [(number, signal)] }
    return true
  else if s.jobs.any (·.1 == number) then return true
  else
    complain "No such process\n"
    return false

/-- Sends a signal to processes, and to all of them also if one is not there. -/
def sendToAll (signal : Nat) (targets : List Text) : Step Unit := do
  let reached ← targets.mapM fun target => do
    if target.head? = some '%' then
      let _ ← jobOf target
      complain "No such process\n"
      return false
    let digits := if target.head? = some '-' then target.drop 1 else target
    sendTo signal (← readCount digits)
  finish (if reached.all id then 0 else 1)

/-- What is said of a command that nobody understands. -/
def killUsage : Text :=
  "Usage: kill [-s sigspec | -signum | -sigspec] [pid | job]... or\nkill -l [exitstatus]"

/-- Lists the names of the signals, or the name of the one behind a number or a status. -/
def listSignals (operands : List Text) : Step Unit := do
  match operands with
  | [] =>
    let names := (List.range signalCount).drop 1 |>.map signalName
    printOut (Text.ended (['0'] :: names)) 0
  | operand :: _ =>
    let n ← readCount operand
    let signal := if 128 < n then n - 128 else n
    if 0 < signal ∧ signal < signalCount then printOut (signalName signal ++ ['\n']) 0
    else abort ("invalid signal number or exit status: ".toList ++ operand)

/-- Sends a signal to processes, the one to end if no other is named; or lists the signals. -/
def kill : Builtin := fun arguments => do
  let named? := match arguments with
    | ('-' :: name) :: rest => (signalOf? 1 name).map (·, rest)
    | _ => none
  match named? with
  | some (_, []) => abort killUsage
  | some (signal, targets) => sendToAll signal targets
  | none =>
    let (options, operands) ← readOptions "l" "s" arguments
    let signals ← (options.filter (·.1 == 's')).mapM fun (_, name) =>
      match signalOf? 1 name with
      | some signal => pure signal
      | none => abort ("invalid signal number or name: ".toList ++ name)
    if options.any (·.1 == 'l') then
      if signals.isEmpty then listSignals operands else abort killUsage
    else if operands.isEmpty then abort killUsage
    else sendToAll (signals.getLast?.getD 15) operands

/-! ### Trapping -/

/-- Traps as a script would set them. -/
def trapListing (traps : List (Nat × Text)) : Text :=
  (traps.mergeSort fun a b => a.1 ≤ b.1).flatMap fun (signal, action) =>
    "trap -- ".toList ++ inApostrophes action ++ ' ' :: signalName signal ++ ['\n']

/-- Sets what is done when some signals arrive; without an action, nothing special is. -/
def setTraps (action? : Option Text) : List Text → Step Unit
  | [] => finish 0
  | name :: rest => do
    match signalOf? 0 name with
    | none =>
      put 2 ("trap: ".toList ++ name ++ ": bad trap\n".toList)
      finish 1
    | some signal =>
      modify fun s =>
        let others := s.traps.filter (·.1 != signal)
        { s with traps := action?.elim others fun action => (signal, action) :: others }
      setTraps action? rest

/-- Says what is done when signals arrive. -/
def trap : Builtin := fun arguments => do
  let (_, operands) ← readOptions [] [] arguments
  match operands with
  | [] => printOut (trapListing (← get).traps) 0
  | [_] => setTraps none operands
  | action :: names =>
    if (natOf? action).any (· < signalCount) then setTraps none operands
    else setTraps (if action = ['-'] then none else some action) names

/-! ### Waiting -/

/-- Waits for processes. All of them have ended by themselves, so only their statuses are taken. -/
def wait : Builtin := fun arguments => do
  let (_, operands) ← readOptions [] [] arguments
  if operands.isEmpty then
    modify ({ · with jobs := [] })
    finish 0
  else
    for operand in operands do
      let number ← if operand.head? = some '%' then jobOf operand else readCount operand
      match List.lookup number (← get).jobs with
      | some status =>
        modify fun s => { s with jobs := s.jobs.filter (·.1 != number) }
        finish status
      | none => finish 127

/-- Prints how much time has been used, which nobody measures. -/
def times : Builtin := fun _ => do
  let row : Text := "0m0.000000s 0m0.000000s\n"
  printOut (row ++ row) 0

/-- Prints a limit; there are none. -/
def limits : Builtin := fun arguments => do
  let (_, operands) ← readOptions "HSatfdsmclpnvwr" [] arguments
  if operands.isEmpty then printOut "unlimited\n" 0 else finish 0

/-- Where nothing is trapped, nothing is listed. -/
theorem trapListing_nil : trapListing [] = [] := by
  simp [trapListing]

end Shell

end Virtual

end Oneshot
