import Oneshot.Virtual.Tool.Awk.Evaluation

/-!
# Carrying out statements

Statements change the machine and print. What leaves a loop, a rule or a function breaks off all
that stands around it, up to there.

- `exec_nothing`: a statement that does nothing changes nothing.
-/

namespace Oneshot

namespace Virtual

namespace Tool

namespace Awk

/-- How many rounds a loop makes before its program is taken for one that never ends. -/
def roundLimit : Nat := 100000000

/-- Runs a round of a loop, and tells whether the loop goes on. -/
def goesOn (round : Step Unit) : Step Bool :=
  ExceptT.mk do
    match ← round.run with
    | .ok () | .error .nextRound => return .ok true
    | .error .leaveLoop => return .ok false
    | .error flow => return .error flow

/-- Runs rounds as long as a test holds. -/
def runRounds (test : Step Bool) (round next : Step Unit) : (fuel : Nat) → Step Unit
  | 0 => throw (.failed "endless loop")
  | fuel + 1 => do
    if ← test then
      if ← goesOn round then
        next
        runRounds test round next fuel

/-- The text that a statement prints. -/
def printedText (i : Interpreter) (all : List Expr) : Step Text := do
  let texts ← match all with
    | [] => do pure [← textOf (← fieldAt 0)]
    | all => do
      let numbers := ((← get).plain "OFMT").toText "%.6g"
      all.mapM fun e => do return (← i.eval e).toText numbers
  let m ← get
  return Text.join (m.plainText "OFS") texts ++ m.plainText "ORS"

/-- Runs a statement. -/
def execStatement (i : Interpreter) (statement : Statement) : Step Unit := do
  match statement with
  | .nothing => return
  | .block all => all.forM i.exec
  | .eval e =>
    let _ ← i.eval e
  | .print all destination? => printTo i destination? (← printedText i all)
  | .printf all destination? =>
    let values ← (all.drop 1).mapM i.eval
    let template ← match all with
      | e :: _ => textOf (← i.eval e)
      | [] => pure []
    match format (← get).conversion (template.length + 1) template values with
    | .ok text => printTo i destination? text
    | .error text =>
      printTo i destination? text
      failFormat "printf" template
  | .conditional test thenDo elseDo? =>
    if ← holds i test then i.exec thenDo
    else
      match elseDo? with
      | some elseDo => i.exec elseDo
      | none => return
  | .repeat test body => runRounds (holds i test) (i.exec body) (return) roundLimit
  | .repeatFirst body test =>
    if ← goesOn (i.exec body) then
      runRounds (holds i test) (i.exec body) (return) roundLimit
  | .count first test? step body =>
    i.exec first
    let test : Step Bool := match test? with
      | some test => holds i test
      | none => return true
    runRounds test (i.exec body) (i.exec step) roundLimit
  | .each name array body =>
    let keys := loopOrder (← entriesOf (← arrayOf array))
    let rec visit : List Text → Step Unit
      | [] => return
      | key :: rest => do
        setValue name (.input key)
        if ← goesOn (i.exec body) then visit rest
    visit keys
  | .next => throw .next
  | .nextFile => throw .nextFile
  | .exit status? =>
    match status? with
    | some e =>
      let status := (wholePart (← i.eval e).toNumber % 256).toNat
      modify ({ · with status })
    | none => pure ()
    throw .exit
  | .return value? =>
    match value? with
    | some e => throw (.returned (← i.eval e))
    | none => throw (.returned .unset)
  | .break => throw .leaveLoop
  | .continue => throw .nextRound
  | .delete array subscript? =>
    let number ← arrayOf array
    match subscript? with
    | none => setEntries number []
    | some subscript =>
      let key ← subscriptOf i subscript
      setEntries number ((← entriesOf number).filter (·.1 != key))

/-- The interpreter of a program whose calls nest at most `depth` deep. -/
def interpreter (functions : List Function) (run : Text → List Text → Run Ended) :
    (depth : Nat) → Interpreter
  | 0 => ⟨fun _ => throw (.failed "function call nesting too deep"),
      fun _ => throw (.failed "function call nesting too deep"), functions, run⟩
  | depth + 1 =>
    let i := interpreter functions run depth
    ⟨evalExpr i, execStatement i, functions, run⟩

/-- A statement that does nothing changes nothing. -/
theorem exec_nothing (i : Interpreter) : execStatement i .nothing = pure () := rfl

end Awk

end Tool

end Virtual

end Oneshot
