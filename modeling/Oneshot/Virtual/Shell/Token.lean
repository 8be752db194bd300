import Oneshot.Virtual.Shell.Word

/-!
# Tokens of a script

A script is a row of words, signs, redirections and line ends. Whether a word is a sign, such as the
beginning of a loop, or stands for the text of an alias, depends on the place at which it is read.

- `signOf?_word`: quoted words are never signs.
-/

namespace Oneshot

namespace Virtual

namespace Shell

/-- The words that are signs at the place of a command. -/
def reservedWords : List Text :=
  ["!", "case", "do", "done", "elif", "else", "esac", "fi", "for", "if", "in", "then", "until",
    "while", "\x7b", "\x7d"]

/-- The signs that close a list of commands. -/
def closingSigns : List Text :=
  [")", ";;", "do", "done", "elif", "else", "esac", "fi", "then", "\x7d"]

/-- Whether a token closes a list of commands. -/
def Token.closesList : Token → Bool
  | .final => true
  | .sign text => closingSigns.contains text
  | _ => false

/-- What a message calls a token. -/
def Token.description : Token → Text
  | .final => "end of file"
  | .lineEnd => "newline"
  | .word _ => "word"
  | .redirect .. => "redirection"
  | .sign text => '"' :: text ++ ['"']

/-- Fails at a token, where another one may be expected. -/
def unexpected {α : Type} (token : Token) (expected : Option Text) : Read α :=
  let message := token.description ++ " unexpected".toList ++
    (expected.elim [] fun text => " (expecting ".toList ++ text ++ [')'])
  refuse (message.take 63)

/-- The sign that a token is at the place of a command. -/
def signOf? (token : Token) : Option Text :=
  match token with
  | .word word => (plainText? word).bind fun text =>
    if reservedWords.contains text then some text else none
  | _ => none

/-- What is to be done about a token: line ends in front of it, signs and aliases. -/
structure Expecting where
  skipsLines : Bool
  takesSigns : Bool
  takesAliases : Bool

/-- The place of a command, with line ends in front. -/
def Expecting.command : Expecting := ⟨true, true, true⟩

/-- The place of an operator. -/
def Expecting.operator : Expecting := ⟨false, false, false⟩

/-- Takes a comment. -/
def skipComment : (fuel : Nat) → Read Unit
  | 0 => return
  | fuel + 1 => do
    match (← get).withoutMarks.rest.head? with
    | none | some '\n' => return
    | some _ =>
      let _ ← next
      skipComment fuel

/-- A redirection behind its descriptor, of which the sign is `c`. -/
def readRedirection (descriptor? : Option Nat) (c : Char) : Read Token := do
  let _ ← next
  if c = '>' then
    let descriptor := descriptor?.getD 1
    if ← takeIf '>' then return .redirect descriptor .append false
    else if ← takeIf '|' then return .redirect descriptor .overwrite false
    else if ← takeIf '&' then return .redirect descriptor .duplicate false
    else return .redirect descriptor .output false
  else
    let descriptor := descriptor?.getD 0
    if ← takeIf '<' then return .redirect descriptor .document (← takeIf '-')
    else if ← takeIf '&' then return .redirect descriptor .duplicate false
    else if ← takeIf '>' then return .redirect descriptor .both false
    else return .redirect descriptor .input false

/-- The descriptor that a word names if it is a single digit. -/
def descriptorOf? (word : Word) : Option Nat :=
  match plainText? word with
  | some [d] => if d.isDigit then some (d.toNat - 48) else none
  | _ => none

/-- A token that begins with a word, or a redirection with its descriptor. -/
def readWordToken (readers : WordReaders) : Read Token := do
  let word ← readers.parts .plain
  match ← look with
  | some c =>
    if c = '>' ∨ c = '<' then
      match word, descriptorOf? word with
      | [], _ => readRedirection none c
      | _, some descriptor => readRedirection (some descriptor) c
      | _, none => return .word word
    else return .word word
  | none => return .word word

/-- A token as it stands in the source. -/
def readRaw (readers : WordReaders) : (fuel : Nat) → Read Token
  | 0 => return .final
  | fuel + 1 => do
    match ← look with
    | none => return .final
    | some c =>
      if c = ' ' ∨ c = '\t' then
        let _ ← next
        readRaw readers fuel
      else if c = '#' then
        skipComment ((← get).rest.length + 1)
        readRaw readers fuel
      else if c = '\n' then
        let _ ← next
        return .lineEnd
      else if c = '&' ∨ c = '|' ∨ c = ';' then
        let _ ← next
        if ← takeIf c then return .sign [c, c] else return .sign [c]
      else if c = '(' ∨ c = ')' then
        let _ ← next
        return .sign [c]
      else readWordToken readers

/-- The next token in the source, or the one that is read again. -/
def readHeld (readers : WordReaders) : Read Token := do
  match (← get).held with
  | some token =>
    modify ({ · with held := none })
    return token
  | none => readRaw readers ((← get).rest.length + 1)

/-- The next token behind line ends, with the documents that begin there. -/
def readBehindLines (readers : WordReaders) : (fuel : Nat) → Read Token
  | 0 => return .final
  | fuel + 1 => do
    match ← readHeld readers with
    | .lineEnd =>
      readDocuments readers
      readBehindLines readers fuel
    | token => return token

/-- The text of the alias that a token names, unless it is in use. -/
def aliasOf? (s : Source) (token : Token) : Option (Text × Text) :=
  match token with
  | .word word => do
    let name ← plainText? word
    if s.inUse.contains name then none else return (name, ← List.lookup name s.aliases)
  | _ => none

/-- Puts the text of an alias in front of what is left. -/
def useAlias (name text : Text) : Read Unit :=
  modify fun s =>
    if text.isEmpty then s
    else
      let isOpen := text.getLast?.any fun c => c == ' ' || c == '\t'
      { s with
        rest := text ++ (if isOpen then openAliasEnd else aliasEnd) :: s.rest
        inUse := name :: s.inUse }

/-- The next token, read as its place asks for. -/
def readTokenWithin (readers : WordReaders) : (fuel : Nat) → Expecting → Read Token
  | 0, _ => return .final
  | fuel + 1, expecting => do
    let token ← if expecting.skipsLines then readBehindLines readers ((← get).rest.length + 2)
      else readHeld readers
    let s ← get
    let takesAliases := expecting.takesAliases || s.allowsAlias
    set { s with allowsAlias := false }
    match signOf? token, aliasOf? s token with
    | some sign, alias? =>
      if expecting.takesSigns then return .sign sign
      else
        match alias? with
        | some (name, text) =>
          if takesAliases then
            useAlias name text
            readTokenWithin readers fuel expecting
          else return token
        | none => return token
    | none, some (name, text) =>
      if takesAliases then
        useAlias name text
        readTokenWithin readers fuel expecting
      else return token
    | none, none => return token

/-- The next token, read as its place asks for. -/
def readToken (readers : WordReaders) (expecting : Expecting) : Read Token := do
  let s ← get
  readTokenWithin readers (s.rest.length + s.aliases.length + 2) expecting

/-- Reads a token again. -/
def hold (token : Token) : Read Unit :=
  modify ({ · with held := some token })

/-- Quoted words are never signs. -/
theorem signOf?_word {word : Word} (h : plainText? word = none) : signOf? (.word word) = none := by
  simp [signOf?, h]

end Shell

end Virtual

end Oneshot
