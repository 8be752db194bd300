import Oneshot.Virtual.Shell.Call

/-!
# Simple commands

A simple command has words, redirections and assignments, which are expanded in this order. The
assignments of a function, a program or an ordinary command of the shell hold for that command only;
those of a special command, and those without a command, stay.

- `fill_of_le`: no more words are expanded than are needed.
-/

namespace Oneshot

namespace Virtual

namespace Shell

/-- What carries out a command. -/
inductive Callee where
  /-- There is no command, only what surrounds it. -/
  | nobody
  | function (body : Command)
  | builtin (name : Text)
  | program

/-- A simple command whose words have been expanded. -/
structure Call where
  callee : Callee
  /-- All fields, as they are traced. -/
  fields : List Text
  /-- The name of the command and its arguments. -/
  words : List Text
  /-- Whether it is special, if it is a command of the shell. -/
  isSpecial : Bool
  /-- Whether its assignments hold for it only. -/
  isLocal : Bool
  searchPath? : Option Text

/-- What a name stands for. -/
def calleeOf (s : Interpreter) (skipsFunctions : Bool) (name : Text) : Callee :=
  match if skipsFunctions then none else s.functions.find? (·.name == name) with
  | some f => .function f.body
  | none => if (builtinKind? name).isSome then .builtin name else .program

/-- Expands words until there are enough fields. The words that are left are returned, too. -/
def fill (e : Engine) (count : Nat) : List Text → List Word → Step (List Text × List Word)
  | fields, [] => return (fields, [])
  | fields, word :: rest => do
    if count ≤ fields.length then return (fields, word :: rest)
    else fill e count (fields ++ (← expandFields e word)) rest

/-- The place of the name behind the command that runs another one, if it does run one, and whether
the name is looked for where every system keeps its programs. -/
def skipOptions (e : Engine) : (fuel : Nat) → (place : Nat) → (isSystem : Bool) → List Text →
    List Word → Step (Option (Nat × Bool) × List Text × List Word)
  | 0, _, _, fields, words => return (none, fields, words)
  | fuel + 1, place, isSystem, fields, words => do
    let (fields, words) ← fill e (place + 2) fields words
    match fields[place + 1]? with
    | none => return (none, fields, words)
    | some ['-', '-'] =>
      let (fields, words) ← fill e (place + 3) fields words
      if place + 2 < fields.length then return (some (place + 2, isSystem), fields, words)
      else return (none, fields, words)
    | some ('-' :: c :: letters) =>
      if (c :: letters).all (· == 'p') then skipOptions e fuel (place + 1) true fields words
      else return (none, fields, words)
    | some _ => return (some (place + 1, isSystem), fields, words)

/-- What carries out the command whose name stands at a place among some fields. -/
def findCallee (e : Engine) : (fuel : Nat) → (place : Nat) → Call → List Word →
    Step (Call × List Word)
  | 0, _, call, words => return (call, words)
  | fuel + 1, place, call, words => do
    let name := (call.fields[place]?).getD []
    let callee := calleeOf (← get) (0 < place) name
    let call := { call with callee, words := call.fields.drop place }
    match callee with
    | .builtin name =>
      let isSpecial := if place = 0 then (builtinKind? name).getD false else call.isSpecial
      let call := { call with isSpecial, isLocal := !isSpecial }
      if name = "command".toList then
        let (found, fields, words) ←
          skipOptions e (call.fields.length + words.length + 1) place false call.fields words
        let call := { call with fields, words := fields.drop place }
        match found with
        | none => return (call, words)
        | some (place, isSystem) =>
          let searchPath? := if isSystem then some systemSearchPath else call.searchPath?
          findCallee e fuel place { call with searchPath? } words
      else return (call, words)
    | _ => return (call, words)

/-- The field of a word that looks like an assignment, if the command takes it as one. -/
def expandArgument (e : Engine) (callee : Callee) (word : Word) : Step (List Text) := do
  let assigns := match callee with
    | .builtin name => assigningBuiltins.contains (String.ofList name)
    | _ => false
  match if assigns then assignment? word else none with
  | some (name, value) => return [name ++ '=' :: (← expandValue e value)]
  | none => expandFields e word

/-- Expands the words of a command and finds out what carries it out. -/
def expandCall (e : Engine) (words : List Word) : Step Call := do
  let (fields, words) ← fill e 1 [] words
  let call : Call := ⟨.nobody, fields, [], false, false, none⟩
  if fields.isEmpty then return call
  else
    let (call, words) ← findCallee e (words.length + fields.length + 1) 0
      { call with isLocal := true } words
    let more := (← words.mapM (expandArgument e call.callee)).flatten
    return { call with fields := call.fields ++ more, words := call.words ++ more }

/-- Shows a command that is about to be carried out. -/
def traceCall (e : Engine) (descriptor? : Option Nat) (assignments : List Text) (call : Call) :
    Step Unit := do
  if (← get).has 'x' then
    match descriptor? with
    | none => return
    | some file =>
      let mark ← expandContent e (((← get).get? "PS4").getD [])
      let fields := assignments ++ call.fields
      let s ← get
      match s.system.write file (mark ++ Text.join [' '] fields ++ ['\n']) with
      | .ok system => set { s with system }
      | .error _ => return

/-- Carries out a command whose surroundings are ready. -/
def carryOut (e : Engine) (tested : Bool) (call : Call) : Step Unit := do
  let s ← get
  let name := call.words.headD []
  let arguments := call.words.drop 1
  match call.callee with
  | .nobody => finish s.outputStatus
  | .function body => callFunction e tested body arguments
  | .builtin name => runBuiltin e tested call.isSpecial name arguments
  | .program => runProgram e (call.searchPath?.getD s.searchPath) name arguments

/-- Whether the redirections of a command stay behind it. -/
def keepsRedirections (call : Call) : Bool :=
  match call.callee with
  | .builtin name => name == "exec".toList
  | _ => false

/-- Makes the assignments of a command. -/
def assignAll (e : Engine) (call : Call) (assignments : List (Text × Word)) : Step (List Text) := do
  let isExported := call.isLocal || (keepsRedirections call && 1 < call.words.length)
  assignments.mapM fun (name, word) => do
    let value ← expandValue e word
    if call.isLocal then keepLocal name
    assign name value isExported
    return name ++ '=' :: value

/-- Runs a simple command. -/
def runSimple (e : Engine) (tested : Bool) (assignments : List (Text × Word)) (words : List Word)
    (redirections : List Redirection) : Step Unit := do
  modify ({ · with outputStatus := 0 })
  let call ← expandCall e words
  let s ← get
  if call.isLocal then openLocals
  let body : Step Unit := do
    if ← redirectTo e redirections then
      let settings ← assignAll e call assignments
      traceCall e (s.fileOf? 2) settings call
      carryOut e tested call
    else
      finish 2
      if call.isSpecial then throw .failed
  ensuring body do
    if !redirections.isEmpty && !keepsRedirections call then restoreDescriptors s.descriptors
    if call.isLocal then closeLocals

/-- No more words are expanded than are needed. -/
theorem fill_of_le (e : Engine) {count : Nat} {fields : List Text} (h : count ≤ fields.length)
    (words : List Word) : fill e count fields words = pure (fields, words) := by
  cases words <;> simp [fill, h]

end Shell

end Virtual

end Oneshot
