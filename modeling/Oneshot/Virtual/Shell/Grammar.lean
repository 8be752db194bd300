import Oneshot.Virtual.Shell.Token

/-!
# The grammar of scripts

A script is read one list of commands at a time, since what a command does, such as naming an alias,
changes how the next one is read. Readers that call each other are tied together at a depth: at
depth zero they refuse everything, and one deeper they may use those of the depth below.

- `grammar_succ`: how the depths follow each other.
-/

namespace Oneshot

namespace Virtual

namespace Shell

/-- What closes a list of commands. -/
inductive Ending where
  /-- The end of the line. -/
  | line
  /-- A closing sign; there is at least one command in front of it. -/
  | closed
  /-- A closing sign, behind any number of commands. -/
  | open
deriving DecidableEq, Repr

/-- The readers that call each other. The reader of a list tells whether there is a command in it,
and, where the list ends with the line, nothing at the end of the script. -/
structure Grammar where
  words : WordReaders
  list : Ending → Read (Option Command)
  command : Read Command

namespace Grammar

variable (g : Grammar)

/-- A token at the place of an operator. -/
def operator : Read Token :=
  readToken g.words .operator

/-- Takes a sign that has to stand here. -/
def expect (sign : Text) : Read Unit := do
  match ← g.operator with
  | .sign text =>
    if text = sign then return
    else unexpected (.sign text) (some ('"' :: sign ++ ['"']))
  | token => unexpected token (some ('"' :: sign ++ ['"']))

/-- A list of commands up to a closing sign. -/
def body (ending : Ending) : Read Command := do
  return (← g.list ending).getD .empty

/-- Takes the target of a redirection. -/
def readTarget (descriptor : Nat) (direction : Direction) (dropsTabs : Bool) :
    Read Redirection := do
  match ← g.operator with
  | .word word =>
    if direction = .document then
      let s ← get
      let pending : Pending := ⟨s.nextDocument, literalText word, dropsTabs, hasQuotes word⟩
      set { s with nextDocument := s.nextDocument + 1, pending := s.pending ++ [pending] }
      return .mk descriptor direction [] s.nextDocument
    else return .mk descriptor direction word 0
  | token => unexpected token none

/-- What has been read of a simple command, in reverse. -/
structure SimpleParts where
  assignments : List (Text × Word)
  words : List Word
  redirections : List Redirection

/-- Whether a name can be given to a function. -/
def canNameFunction (special : List Text) (word : Word) : Option Text := do
  let name ← plainText? word
  if isName name && !special.contains name then return name else none

/-- The commands of the shell that no function can replace. -/
def specialNames : List Text :=
  ["break", ":", "continue", ".", "eval", "exec", "exit", "export", "readonly", "return", "set",
    "shift", "times", "trap", "unset"]

/-- The rest of a simple command, or of a function. -/
def readSimple (line : Nat) : (fuel : Nat) → SimpleParts → Read Command
  | 0, _ => refuse "word unexpected"
  | fuel + 1, parts => do
    let finish : Command :=
      .simple line parts.assignments.reverse parts.words.reverse parts.redirections.reverse
    match ← readToken g.words ⟨false, false, parts.words.isEmpty⟩ with
    | .word word =>
      match parts.words, assignment? word with
      | [], some assignment =>
        readSimple line fuel { parts with assignments := assignment :: parts.assignments }
      | _, _ => readSimple line fuel { parts with words := word :: parts.words }
    | .redirect descriptor direction dropsTabs =>
      let redirection ← g.readTarget descriptor direction dropsTabs
      readSimple line fuel { parts with redirections := redirection :: parts.redirections }
    | .sign ['('] =>
      match parts with
      | ⟨[], [word], []⟩ =>
        g.expect [')']
        match canNameFunction specialNames word with
        | none => refuse "Bad function name"
        | some name =>
          let start := (← get).line
          hold (← readToken g.words .command)
          return .define start name (← g.command)
      | _ =>
        hold (.sign ['('])
        return finish
    | token =>
      hold token
      return finish

/-- The redirections behind a command. -/
def readRedirections : (fuel : Nat) → Read (List Redirection)
  | 0 => return []
  | fuel + 1 => do
    match ← readToken g.words ⟨false, true, true⟩ with
    | .redirect descriptor direction dropsTabs =>
      let redirection ← g.readTarget descriptor direction dropsTabs
      return redirection :: (← readRedirections fuel)
    | token =>
      hold token
      return []

/-- A conditional behind its first word, up to the word that closes it. -/
def readConditional : (fuel : Nat) → Read Command
  | 0 => refuse "word unexpected"
  | fuel + 1 => do
    let test ← g.body .closed
    g.expect "then"
    let thenDo ← g.body .closed
    match ← g.operator with
    | .sign text =>
      if text = "elif".toList then return .conditional test thenDo (some (← readConditional fuel))
      else if text = "else".toList then
        return .conditional test thenDo (some (← g.body .closed))
      else
        hold (.sign text)
        return .conditional test thenDo none
    | token =>
      hold token
      return .conditional test thenDo none

/-- The words of a loop over words, and whether the list is closed as it has to be. -/
def readLoopWords : (fuel : Nat) → Read (List Word)
  | 0 => return []
  | fuel + 1 => do
    match ← g.operator with
    | .word word => return word :: (← readLoopWords fuel)
    | .lineEnd | .sign [';'] => return []
    | token => unexpected token none

/-- A loop over words, behind its first word. -/
def readEach (line : Nat) : Read Command := do
  match ← g.operator with
  | .word word =>
    match plainText? word with
    | some name =>
      if isName name then
        let fuel := (← get).rest.length + 2
        let words? ← match ← readToken g.words .command with
          | .sign ['i', 'n'] => do pure (some (← g.readLoopWords fuel))
          | .sign [';'] => pure none
          | token => do
            hold token
            pure none
        match ← readToken g.words .command with
        | .sign ['d', 'o'] => return .each line name words? (← g.body .closed)
        | token => unexpected token (some "\"do\"")
      else refuse "Bad for loop variable"
    | none => refuse "Bad for loop variable"
  | _ => refuse "Bad for loop variable"

/-- The patterns of a branch, of which the first is `first`. -/
def readPatterns : (fuel : Nat) → (first : Token) → Read (List Word)
  | 0, _ => return []
  | fuel + 1, first => do
    let word := match first with
      | .word word => word
      | .sign text => [.chars text false]
      | _ => []
    match ← g.operator with
    | .sign ['|'] => return word :: (← readPatterns fuel (← g.operator))
    | .sign [')'] => return [word]
    | token => unexpected token (some "\")\"")

/-- The branches of a choice, with the word that closes it. -/
def readBranches : (fuel : Nat) → Read (List (List Word × Command))
  | 0 => return []
  | fuel + 1 => do
    let start : Expecting := ⟨true, true, false⟩
    match ← readToken g.words start with
    | .sign ['e', 's', 'a', 'c'] => return []
    | token =>
      let first ← match token with
        | .sign ['('] => g.operator
        | token => pure token
      let patterns ← g.readPatterns ((← get).rest.length + 2) first
      let body ← g.body .open
      match ← readToken g.words start with
      | .sign ['e', 's', 'a', 'c'] => return [(patterns, body)]
      | .sign [';', ';'] => return (patterns, body) :: (← readBranches fuel)
      | token => unexpected token (some "\";;\"")

/-- A choice, behind its first word. -/
def readChoice (line : Nat) : Read Command := do
  match ← g.operator with
  | .word word =>
    match ← readToken g.words .command with
    | .sign ['i', 'n'] => return .choose line word (← g.readBranches ((← get).rest.length + 2))
    | token => unexpected token (some "\"in\"")
  | token => unexpected token (some "word")

/-- A command that a sign begins, up to the sign that closes it; the sign says that there is one. -/
def readCompound (line : Nat) (sign : Text) : Read (Option Command) := do
  let closedBy (final : Text) (command : Command) : Read (Option Command) := do
    g.expect final
    return some command
  let loop (untilTrue : Bool) : Read (Option Command) := do
    let test ← g.body .closed
    g.expect "do"
    closedBy "done" (.loop untilTrue test (← g.body .closed))
  if sign = "if".toList then
    closedBy "fi" (← g.readConditional ((← get).rest.length + 2))
  else if sign = "while".toList then loop false
  else if sign = "until".toList then loop true
  else if sign = "for".toList then closedBy "done" (← g.readEach line)
  else if sign = "case".toList then return some (← g.readChoice line)
  else if sign = ['('] then closedBy ")" (.subshell line (← g.body .closed) [])
  else if sign = "\x7b".toList then closedBy "\x7d" (← g.body .closed)
  else return none

/-- A command. -/
def readCommand : Read Command := do
  let line := (← get).line
  let token ← g.operator
  match token with
  | .word _ | .redirect .. =>
    hold token
    let s ← get
    g.readSimple s.line (s.rest.length + 2) ⟨[], [], []⟩
  | .sign text =>
    match ← g.readCompound line text with
    | none => unexpected token none
    | some command =>
      let redirections ← g.readRedirections ((← get).rest.length + 2)
      match redirections, command with
      | [], command => return command
      | redirections, .subshell line body _ => return .subshell line body redirections
      | redirections, command => return .redirected line command redirections
  | token => unexpected token none

/-- The commands of a pipeline behind the first one. -/
def readStages : (fuel : Nat) → Read (List Command)
  | 0 => return []
  | fuel + 1 => do
    match ← g.operator with
    | .sign ['|'] =>
      hold (← readToken g.words .command)
      let command ← g.command
      return command :: (← readStages fuel)
    | token =>
      hold token
      return []

/-- A pipeline. -/
def readPipeline : Read Command := do
  let token ← g.operator
  let isNegated := match token with
    | .sign ['!'] => true
    | _ => false
  if isNegated then hold (← readToken g.words ⟨false, true, true⟩) else hold token
  let first ← g.command
  let rest ← g.readStages ((← get).rest.length + 2)
  let command := if rest.isEmpty then first else .pipeline (first :: rest)
  return if isNegated then .negated command else command

/-- The pipelines behind `first` that it decides about. -/
def readAlternatives : (fuel : Nat) → (first : Command) → Read Command
  | 0, first => return first
  | fuel + 1, first => do
    match ← g.operator with
    | .sign ['&', '&'] =>
      hold (← readToken g.words .command)
      readAlternatives fuel (.both first (← g.readPipeline))
    | .sign ['|', '|'] =>
      hold (← readToken g.words .command)
      readAlternatives fuel (.either first (← g.readPipeline))
    | token =>
      hold token
      return first

/-- A command that nobody waits for. -/
def inBackground (line : Nat) (command : Command) : Command :=
  match command with
  | .redirected line body redirections => .background line body redirections
  | command => .background line command []

/-- The commands of a list behind those that are there already. -/
def readList (ending : Ending) : (fuel : Nat) → (before : Option Command) → Read (Option Command)
  | 0, before => return before
  | fuel + 1, before => do
    let skipsLines := ending != .line
    let token ← readToken g.words ⟨skipsLines, true, true⟩
    match token with
    | .lineEnd =>
      readDocuments g.words
      return some (before.getD .empty)
    | .final =>
      readDocuments g.words
      hold .final
      return before
    | token =>
      hold token
      if (ending == .open || before.isSome && ending != .line) && token.closesList then
        return before
      else
        let line := (← get).line
        let command ← g.readAlternatives ((← get).rest.length + 2) (← g.readPipeline)
        let last ← g.operator
        let command := match last with
          | .sign ['&'] => inBackground line command
          | _ => command
        let all := match before with
          | none => command
          | some before => .sequence before command
        match last with
        | .final =>
          readDocuments g.words
          hold .final
          return some all
        | .lineEnd =>
          hold .lineEnd
          readList ending fuel (some all)
        | .sign ['&'] | .sign [';'] => readList ending fuel (some all)
        | token =>
          if ending = .line then unexpected token none
          else
            hold token
            return some all

/-- Commands inside of a word. -/
def readInner (isWhole : Bool) : Read Command := do
  let commands ← g.body .open
  if !isWhole then g.expect [')']
  return commands

end Grammar

/-- The readers of a depth. -/
def grammar : (depth : Nat) → Grammar
  | 0 =>
    let tooDeep {α : Type} : Read α := refuse "Out of space"
    ⟨⟨fun _ => tooDeep, fun _ => tooDeep⟩, fun _ => tooDeep, tooDeep⟩
  | depth + 1 =>
    let g := grammar depth
    { words := ⟨readParts g.words, g.readInner⟩
      list := fun ending => do g.readList ending ((← get).rest.length + 2) none
      command := g.readCommand }

/-- How deep the commands of a script may nest. -/
def depthLimit : Nat := 600

/-- The readers of scripts. -/
def scriptGrammar : Grammar :=
  grammar depthLimit

/-- Reads the commands up to the end of the next line. At the end of the script there are none. -/
def readLine : Read (Option Command) := do
  modify ({ · with held := none, pending := [] })
  scriptGrammar.list .line

/-- How the depths follow each other. -/
theorem grammar_succ (depth : Nat) : (grammar (depth + 1)).command = (grammar depth).readCommand :=
  rfl

end Shell

end Virtual

end Oneshot
