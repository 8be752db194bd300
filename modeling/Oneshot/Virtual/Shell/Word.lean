import Oneshot.Virtual.Shell.Source

/-!
# Words of a script

A word is read up to a blank or an operator. What quotes and expansions hold is read by rules of its
own, which the context says; commands inside of a word are left to a given reader.
-/

namespace Oneshot

namespace Virtual

namespace Shell

/-- Where the parts of a word are read. -/
inductive Context where
  /-- Outside of quotes. -/
  | plain
  /-- Between double quotes. -/
  | quotes
  /-- In the word of an expansion between braces; what is quoted there stands between quotes. -/
  | braces (quoted : Bool)
  /-- In a document. -/
  | document
  /-- In the word of an expansion between braces in a document. -/
  | documentBraces
  | arithmetic
deriving DecidableEq, Repr

/-- Whether literal text is quoted in a context. -/
def Context.isQuoted : Context → Bool
  | .plain => false
  | .braces quoted => quoted
  | _ => true

/-- Whether a context ends with a closing brace. -/
def Context.hasBraces : Context → Bool
  | .braces _ | .documentBraces => true
  | _ => false

/-- The context of a word between braces; a pattern is read as if nothing were quoted. -/
def Context.inBraces (context : Context) (isPattern : Bool) : Context :=
  if isPattern then .braces false
  else
    match context with
    | .plain => .braces false
    | .braces quoted => .braces quoted
    | .document | .documentBraces => .documentBraces
    | .quotes | .arithmetic => .braces true

/-- The readers of what a word can hold: the parts of a word in a context, and commands, either up
to the end of the source or up to a closing parenthesis. -/
structure WordReaders where
  parts : Context → Read Word
  commands : (isWhole : Bool) → Read Command

/-- A character at which a word ends. -/
def endsWord (c : Char) : Bool :=
  " \t\n;&|<>()".toList.contains c

/-- A character behind other parts, which are in reverse. -/
def addChar (c : Char) (quoted : Bool) : Word → Word
  | .chars text q :: rest =>
    if q = quoted then .chars (c :: text) q :: rest else .chars [c] quoted :: .chars text q :: rest
  | rest => .chars [c] quoted :: rest

/-- The parts in order, with their characters in order. -/
def inReadingOrder (parts : Word) : Word :=
  (parts.map fun
    | .chars text quoted => .chars text.reverse quoted
    | part => part).reverse

/-- Parts that are in order, put behind others that are in reverse. -/
def addParts (added : Word) (parts : Word) : Word :=
  added.foldl (fun parts part =>
    match part with
    | .chars text quoted => .chars text.reverse quoted :: parts
    | part => part :: parts) parts

/-- What a reader says when the script ends inside of a word. -/
def Context.endFault : Context → Text
  | .plain => "Unterminated quoted string"
  | .quotes | .braces true => "Unterminated quoted string"
  | .braces false | .documentBraces | .document => "Missing '\x7d'"
  | .arithmetic => "Missing '))'"

/-- The text between apostrophes, of which the first has been taken. -/
def readApostrophes : (fuel : Nat) → Read Text
  | 0 => refuse "Unterminated quoted string"
  | fuel + 1 => do
    match ← next with
    | none => refuse "Unterminated quoted string"
    | some '\'' => return []
    | some c => return c :: (← readApostrophes fuel)

/-- The text up to the mark that ends a command in the old style, with its escapes resolved. -/
def readOldStyle (quoted : Bool) : (fuel : Nat) → Read Text
  | 0 => refuse "EOF in backquote substitution"
  | fuel + 1 => do
    match ← take with
    | none => refuse "EOF in backquote substitution"
    | some '\\' =>
      match ← next with
      | none => refuse "EOF in backquote substitution"
      | some c =>
        let rest ← readOldStyle quoted fuel
        if c = '\\' || c = '$' || isBackquote c || quoted && c == '"' then return c :: rest
        else return '\\' :: c :: rest
    | some c => if isBackquote c then return [] else return c :: (← readOldStyle quoted fuel)

/-- Commands in the old style. They are read as a source with lines of its own. -/
def readOldCommands (readers : WordReaders) (quoted : Bool) : Read Command := do
  let text ← readOldStyle quoted ((← get).rest.length + 1)
  let s ← get
  set { s with rest := text, line := 1, held := none, pending := [], inUse := [] }
  let commands ← readers.commands true
  modify fun t => { s with nextDocument := t.nextDocument, documents := t.documents }
  return commands

/-- Commands between parentheses, of which the first has been taken. -/
def readNewCommands (readers : WordReaders) : Read Command := do
  let pending := (← get).pending
  modify ({ · with pending := [], held := none })
  let commands ← readers.commands false
  modify ({ · with pending, held := none })
  return commands

/-- The operation that a sign in front names, whether it is followed by a pattern, and whether the
expansion ends with the sign. -/
def readOperation : Read (Operation × Bool × Bool) := do
  let ofSign (c : Option Char) (orEmpty : Bool) : Operation × Bool × Bool :=
    match c with
    | some '\x7d' => (.value, false, !orEmpty)
    | some '-' => (.default orEmpty, false, false)
    | some '+' => (.alternative orEmpty, false, false)
    | some '?' => (.complain orEmpty, false, false)
    | some '=' => (.assign orEmpty, false, false)
    | _ => (.unknown, false, false)
  match ← take with
  | some ':' => return ofSign (← take) true
  | some '#' => return (.cutStart (← takeIf '#'), true, false)
  | some '%' => return (.cutEnd (← takeIf '%'), true, false)
  | c => return ofSign c false

/-- A parameter between braces, of which the first has been taken. -/
def readBraces (readers : WordReaders) (context : Context) : Read Part := do
  let finish (name : Text) (operation : Operation) (isPattern : Bool) : Read Part := do
    let word ← readers.parts (context.inBraces isPattern)
    return .parameter name operation word context.isQuoted
  let operate (name : Text) : Read Part := do
    let (operation, isPattern, isDone) ← readOperation
    if isDone then return .parameter name operation [] context.isQuoted
    else finish name operation isPattern
  /- A length is asked for only if nothing stands behind the name. -/
  let measure (name : Text) : Read Part := do
    if (← look) = some '\x7d' then finish name .length false else finish name .unknown false
  let name (c : Char) : Read Text := do
    if isNameStart c then takeAll isNameChar else takeAll Char.isDigit
  match ← look with
  | none => finish [] .unknown false
  | some c =>
    if isNameStart c || c.isDigit then operate (← name c)
    else if c = '\x7d' then finish [] .unknown false
    else
      let _ ← next
      if c = '#' then
        match ← look with
        | some d =>
          if isNameStart d || d.isDigit then measure (← name d)
          else
            let _ ← next
            if d ≠ '\x7d' && (← look) = some '\x7d' then
              if isSpecialName d then finish [d] .length false else finish [] .unknown false
            else
              modify fun s => { s with rest := d :: s.rest }
              operate ['#']
        | none => finish [] .unknown false
      else if isSpecialName c then operate [c]
      else finish [] .unknown false

/-- The part that a dollar sign begins, which has been taken. -/
def readDollar (readers : WordReaders) (context : Context) : Read Part := do
  let quoted := context.isQuoted
  match ← look with
  | some '(' =>
    let _ ← next
    if ← takeIf '(' then return .arithmetic (← readers.parts .arithmetic) quoted
    else return .output (← readNewCommands readers) quoted
  | some '\x7b' =>
    let _ ← next
    readBraces readers context
  | some c =>
    if isNameStart c then return .parameter (← takeAll isNameChar) .value [] quoted
    else if isSpecialName c then
      let _ ← next
      return .parameter [c] .value [] quoted
    else return .chars ['$'] quoted
  | none => return .chars ['$'] quoted

/-- Whether a backslash keeps its place in front of a character. -/
def Context.keepsBackslash (context : Context) (c : Char) : Bool :=
  context.isQuoted && c != '\\' && !isBackquote c && c != '$'
    && (c != '"' || context == .document) && (c != '\x7d' || !context.hasBraces)

/-- What a backslash and the character behind it stand for, behind other parts. -/
def readBackslash (context : Context) (parts : Word) : Read Word := do
  match ← next with
  | none => return addChar '\\' true parts
  | some '\n' => return parts
  | some c =>
    if context.keepsBackslash c then return addChar c true (addChar '\\' true parts)
    else return addChar c true parts

/-- The mark of a pair of quotes around some parts. All positional parameters alone make as many
fields as there are, also none. -/
def quotesAround : Word → Word
  | [.parameter ['@'] .value [] _] => []
  | _ => [.quotes]

/-- The parts of a word from here on, behind others that are in reverse. What closes the context is
taken. `inner` says whether quotes inside of quoted braces are open, and `depth` how many
parentheses are in arithmetic. -/
def readPartsFrom (readers : WordReaders) (context : Context) :
    (fuel : Nat) → (inner : Bool) → (depth : Nat) → Word → Read Word
  | 0, _, _, _ => refuse context.endFault
  | fuel + 1, inner, depth, parts => do
    let goOn := readPartsFrom readers context fuel inner depth
    match ← look with
    | none =>
      if context = .plain ∨ context = .document then return inReadingOrder parts
      else refuse context.endFault
    | some c =>
      if context = .plain ∧ endsWord c = true then return inReadingOrder parts
      else
        let _ ← next
        if c = '\\' then goOn (← readBackslash context parts)
        else if c = '$' then
          match ← readDollar readers context with
          | .chars text quoted => goOn (text.foldl (fun parts c => addChar c quoted parts) parts)
          | part => goOn (part :: parts)
        else if isBackquote c then
          goOn (.output (← readOldCommands readers context.isQuoted) context.isQuoted :: parts)
        else if c = '\x7d' ∧ context.hasBraces = true ∧ inner = false then
          return inReadingOrder parts
        else if c = '"' then
          match context with
          | .plain | .braces false =>
            let quoted ← readers.parts .quotes
            goOn (addParts quoted (quotesAround quoted ++ parts))
          | .quotes => return inReadingOrder parts
          | .braces true | .documentBraces =>
            readPartsFrom readers context fuel (!inner) depth (.quotes :: parts)
          | .document | .arithmetic => goOn (addChar c true parts)
        else if c = '\'' ∧ context.isQuoted = false then
          let text ← readApostrophes ((← get).rest.length + 1)
          goOn (text.foldl (fun parts c => addChar c true parts) (.quotes :: parts))
        else if c = '(' ∧ context = .arithmetic then
          readPartsFrom readers context fuel inner (depth + 1) (addChar c true parts)
        else if c = ')' ∧ context = .arithmetic then
          if 0 < depth then
            readPartsFrom readers context fuel inner (depth - 1) (addChar c true parts)
          else if ← takeIf ')' then return inReadingOrder parts
          else goOn (addChar c true parts)
        else goOn (addChar c context.isQuoted parts)

/-- The parts of a word from here on. -/
def readParts (readers : WordReaders) (context : Context) : Read Word := do
  readPartsFrom readers context ((← get).rest.length + 1) false 0 []

/-! ### Documents -/

/-- Whether a text ends with a backslash that hides the line end behind it. -/
def endsHidden (line : Text) : Bool :=
  ((line.reverse.takeWhile (· == '\\')).length) % 2 == 1

/-- The lines of a document up to its last one. `isHidden` says whether the line end in front is
hidden. -/
def readDocument (pending : Pending) : (fuel : Nat) → (isHidden : Bool) → Read Text
  | 0, _ => return []
  | fuel + 1, isHidden => do
    let s := (← get).withoutMarks
    let line := s.rest.takeWhile (· != '\n')
    let rest := s.rest.drop line.length
    if s.rest.isEmpty then return []
    else
      set { s with rest := rest.drop 1, line := if rest.isEmpty then s.line else s.line + 1 }
      let line :=
        if pending.dropsTabs && !isHidden then line.dropWhile (· == '\t') else line
      if line = pending.final && !isHidden then return []
      else
        let more ← readDocument pending fuel (!pending.isLiteral && endsHidden line)
        return line ++ (if rest.isEmpty then [] else ['\n']) ++ more

/-- Reads the documents that begin behind a line end. -/
def readDocuments (readers : WordReaders) : Read Unit := do
  let waiting := (← get).pending
  modify ({ · with pending := [] })
  for pending in waiting do
    let start := (← get).line
    let text ← readDocument pending ((← get).rest.length + 1) false
    let word ←
      if pending.isLiteral then pure [Part.chars text true]
      else do
        let s ← get
        set { s with rest := text, line := start, held := none, pending := [], inUse := [] }
        let word ← readers.parts .document
        modify fun t => { s with nextDocument := t.nextDocument, documents := t.documents }
        pure word
    modify fun s => { s with documents := (pending.number, word) :: s.documents }

end Shell

end Virtual

end Oneshot
