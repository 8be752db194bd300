import Oneshot.Virtual.Tool.Awk.Expression

/-!
# Statements and rules of programs about records

A statement ends with a line, a semicolon or the block that it stands in. A program is a row of
rules and functions.

- `readProgram_nil`: an empty text has no rules.
-/

namespace Oneshot

namespace Virtual

namespace Tool

namespace Awk

/-- Whether the next token ends a statement; nothing is taken. -/
def seesEnd : Read Bool := do
  match ← look with
  | none | some .newline => return true
  | some t => return t.isSymbol ";" || t.isSymbol "\x7d"

/-- The end of a statement, with the line ends behind it. A closing brace stays. -/
def endStatement : Read Unit := do
  match ← look with
  | none | some .newline => skipAllLines
  | some t =>
    if t.isSymbol ";" then
      skip
      skipAllLines
    else if !t.isSymbol "\x7d" then refuse

/-- An expression, unless the statement ends in front of it. -/
def readOptional : Read (Option Expr) := do
  if ← seesEnd then return none else return some (← readExpr false)

/-- Expressions between commas in a statement that prints, up to its end or its destination. -/
def readPrinted : (fuel : Nat) → Read (List Expr)
  | 0 => refuse
  | fuel + 1 => do
    let first ← readExpr true
    if ← takeIf "," then
      skipAllLines
      return first :: (← readPrinted fuel)
    else return [first]

/-- Where a statement prints, if it says so. -/
def readDestination? : Read (Option Destination) := do
  let target : Read Expr := readExpr true
  if ← sees ">=" then refuseWith "syntax error at or near ="
  else if ← takeIf ">" then return some (.file (← target))
  else if ← takeIf ">>" then return some (.append (← target))
  else if ← takeIf "|" then return some (.command (← target))
  else return none

/-- What a statement prints, and where. -/
def readPrint : Read (List Expr × Option Destination) := do
  let begins := (← look).any fun t =>
    beginsJoined t || t.isSymbol "(" || t.isKeyword "getline" || t.isSymbol "!"
  let all ← if begins then readPrinted ((← get).rest.length + 1) else pure []
  let all := match all with
    | [.group all] => all
    | all => all
  return (all, ← readDestination?)

/-- The names of a loop over the subscripts of an array, if it is one. -/
def eachNames? : List Placed → Option (Text × Text)
  | name :: word :: array :: close :: _ =>
    match name.token, array.token with
    | .name s, .name a =>
      if word.token.isKeyword "in" && close.token.isSymbol ")" then some (s, a) else none
    | _, _ => none
  | _ => none

/-- A statement that ends with its line. -/
def readSimple : Read Statement := do
  match ← look with
  | some (.keyword word) =>
    match String.ofList word with
    | "print" =>
      skip
      let (all, destination?) ← readPrint
      return .print all destination?
    | "printf" =>
      skip
      let (all, destination?) ← readPrint
      if all.isEmpty then refuse else return .printf all destination?
    | "next" =>
      skip
      if (← get).scope != .records then refuseWith "improper use of next"
      return .next
    | "nextfile" =>
      skip
      if (← get).scope != .records then refuseWith "improper use of nextfile"
      return .nextFile
    | "exit" =>
      skip
      return .exit (← readOptional)
    | "return" =>
      skip
      if (← get).scope != .function then refuseWith "return outside function body"
      return .return (← readOptional)
    | "break" =>
      skip
      if (← get).loops = 0 then refuseWith "break statement outside of loop"
      return .break
    | "continue" =>
      skip
      if (← get).loops = 0 then refuseWith "continue statement outside of loop"
      return .continue
    | "delete" =>
      skip
      let array ← takeName
      if ← takeIf "[" then return .delete array (some (← readListed (← enoughFuel) "]"))
      else return .delete array none
    | _ => return .eval (← readExpr false)
  | _ => return .eval (← readExpr false)

mutual

/-- A statement, with the line ends behind it. -/
def readStatement : (fuel : Nat) → Read Statement
  | 0 => refuse
  | fuel + 1 => do
    match ← look with
    | some (.keyword word) =>
      match String.ofList word with
      | "if" =>
        skip
        expect "("
        let test ← readExpr false
        expect ")"
        skipAllLines
        let thenDo ← readStatement fuel
        let r ← get
        let _ ← takeIf ";"
        skipAllLines
        if (← look).any (·.isKeyword "else") then
          skip
          skipAllLines
          return .conditional test thenDo (some (← readStatement fuel))
        else
          set r
          return .conditional test thenDo none
      | "while" =>
        skip
        expect "("
        let test ← readExpr false
        expect ")"
        if ← takeIf ";" then
          skipAllLines
          return .repeat test .nothing
        else
          skipAllLines
          return .repeat test (← readBody fuel)
      | "do" =>
        skip
        skipAllLines
        let body ← readBody fuel
        let _ ← takeIf ";"
        skipAllLines
        if !(← look).any (·.isKeyword "while") then refuse
        skip
        expect "("
        let test ← readExpr false
        expect ")"
        endStatement
        return .repeatFirst body test
      | "for" =>
        skip
        expect "("
        match eachNames? (← get).rest with
        | some (name, array) =>
          for _ in [0, 1, 2, 3] do skip
          skipAllLines
          return .each name array (← readBody fuel)
        | none =>
          let first ← if ← sees ";" then pure .nothing else readSimple
          expect ";"
          skipAllLines
          let test? ← if ← sees ";" then pure none else do pure (some (← readExpr false))
          expect ";"
          skipAllLines
          let step ← if ← sees ")" then pure .nothing else readSimple
          expect ")"
          if ← takeIf ";" then
            skipAllLines
            return .count first test? step .nothing
          else
            skipAllLines
            return .count first test? step (← readBody fuel)
      | _ => readEnded
    | some t =>
      if t.isSymbol "\x7b" then readBlock fuel
      else if t.isSymbol ";" then
        endStatement
        return .nothing
      else readEnded
    | none => refuse
where
  /-- A simple statement with its end. -/
  readEnded : Read Statement := do
    let statement ← readSimple
    endStatement
    return statement

/-- The body of a loop. -/
def readBody : (fuel : Nat) → Read Statement
  | 0 => refuse
  | fuel + 1 => do
    modify fun r => { r with loops := r.loops + 1 }
    let body ← readStatement fuel
    modify fun r => { r with loops := r.loops - 1 }
    return body

/-- A block, with the line ends behind it. -/
def readBlock : (fuel : Nat) → Read Statement
  | 0 => refuse
  | fuel + 1 => do
    expect "\x7b"
    modify fun r => { r with depth := r.depth + 1 }
    skipAllLines
    let all ← readStatements fuel
    expect "\x7d"
    modify fun r => { r with depth := r.depth - 1 }
    skipAllLines
    return .block all

/-- The statements up to the end of a block. -/
def readStatements : (fuel : Nat) → Read (List Statement)
  | 0 => refuse
  | fuel + 1 => do
    if ← sees "\x7d" then return []
    else
      let statement ← readStatement fuel
      return statement :: (← readStatements fuel)

end

/-- Names between commas up to a closing parenthesis, which is taken. -/
def readNames : (fuel : Nat) → Read (List Text)
  | 0 => refuse
  | fuel + 1 => do
    if ← takeIf ")" then return []
    else
      let name ← takeName
      skipAllLines
      if ← takeIf "," then
        skipAllLines
        return name :: (← readNames fuel)
      else
        expect ")"
        return [name]

/-- Enters what the next statements stand in. -/
def enter (scope : Scope) : Read Unit :=
  modify ({ · with scope })

/-- A rule. -/
def readRule : Read Rule := do
  enter .records
  let fuel ← enoughFuel
  let pattern : Pattern ← match ← look with
    | some (.keyword word) =>
      match String.ofList word with
      | "BEGIN" => do
        skip
        enter .edge
        pure .begin
      | "END" => do
        skip
        enter .edge
        pure .final
      | _ => do pure (.when (← readExpr false))
    | some t =>
      if t.isSymbol "\x7b" then pure .always
      else do
        let first ← readExpr false
        if ← takeIf "," then
          skipAllLines
          pure (.range first (← readExpr false))
        else pure (.when first)
    | none => refuse
  if ← sees "\x7b" then return ⟨pattern, some (← readBlock fuel)⟩
  else
    match pattern with
    | .begin | .final => refuse
    | pattern =>
      endStatement
      return ⟨pattern, none⟩

/-- The rules and functions of a program. -/
def readItems : (fuel : Nat) → Read Program
  | 0 => refuse
  | fuel + 1 => do
    skipAllLines
    if ← takeIf ";" then readItems fuel
    else
      match ← look with
      | none => return ⟨[], []⟩
      | some t =>
        if t.isKeyword "function" then
          skip
          let name ← takeName
          expect "("
          let parameters ← readNames ((← get).rest.length + 1)
          skipAllLines
          enter .function
          let body ← readBlock (← enoughFuel)
          let program ← readItems fuel
          return { program with functions := ⟨name, parameters, body⟩ :: program.functions }
        else
          let rule ← readRule
          let program ← readItems fuel
          return { program with rules := rule :: program.rules }

/-- A fault for each function that is called and not there. -/
def undefinedFault? (program : Program) (line : Nat) (called : List Text) : Option Fault :=
  let missing := called.filter fun name => !program.functions.any (·.name == name)
  let messages := missing.map fun name =>
    "line ".toList ++ Text.ofNat line ++ ": function ".toList ++ name ++ " never defined".toList
  if messages.isEmpty then none else some ⟨Text.join "\nawk: ".toList messages⟩

/-- How many lines a text has, the one behind the last line end too. -/
def lineCount (text : Text) : Nat :=
  (text.filter (· == '\n')).length + 1

/-- The program of a text. -/
def readProgram (text : Text) : Except Fault Program := do
  let tokens ← tokensOf text
  let (program, r) ← (readItems (tokens.length + 2)).run ⟨tokens, 1, 0, 0, .records, []⟩
  match undefinedFault? program (lineCount text + 1) r.called with
  | some fault => throw fault
  | none => return program

/-- An empty text has no rules. -/
theorem readProgram_nil : (readProgram []).toOption.map (·.rules.length) = some 0 := rfl

end Awk

end Tool

end Virtual

end Oneshot
