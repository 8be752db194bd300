import Oneshot.Virtual.Raw

/-!
# Shell scripts

The commands of a shell script as they are read. A word is a list of parts; quoted parts are not cut
into fields, and nothing in them is a pattern. The documents that stand in a script are kept apart
and named by number, since they are read only behind the command that they belong to.
-/

namespace Oneshot

namespace Virtual

namespace Shell

/-- What happens to the value of a parameter when it is expanded. -/
inductive Operation where
  | value
  /-- The length of the value. -/
  | length
  /-- Another word where the parameter is unset, or empty if `orEmpty` says so. -/
  | default (orEmpty : Bool)
  /-- As `default`, and the word becomes the value. -/
  | assign (orEmpty : Bool)
  /-- Another word where the parameter is set. -/
  | alternative (orEmpty : Bool)
  /-- The end of the script, with a message, where the parameter is unset. -/
  | complain (orEmpty : Bool)
  /-- The value without what a pattern matches at its start. -/
  | cutStart (longest : Bool)
  /-- The value without what a pattern matches at its end. -/
  | cutEnd (longest : Bool)
  /-- None that the shell knows. -/
  | unknown
deriving DecidableEq, Repr

/-- How a redirection opens its target. -/
inductive Direction where
  | input
  | output
  /-- As `output`, also over a file that is protected. -/
  | overwrite
  | append
  /-- To read and to write. -/
  | both
  /-- The target is a document of the script. -/
  | document
  /-- The target is the number of another descriptor, or a hyphen that closes. -/
  | duplicate
deriving DecidableEq, Repr

mutual

/-- A part of a word. -/
inductive Part where
  | chars (text : Text) (quoted : Bool)
  /-- A pair of quotes, which makes a field even around nothing. -/
  | quotes
  | parameter (name : Text) (operation : Operation) (word : List Part) (quoted : Bool)
  /-- The output of commands. -/
  | output (commands : Command) (quoted : Bool)
  | arithmetic (expression : List Part) (quoted : Bool)

/-- A redirection of a descriptor. The target of one to a document is its number. -/
inductive Redirection where
  | mk (descriptor : Nat) (direction : Direction) (target : List Part) (document : Nat)

/-- A command, with its line where a message may name it. -/
inductive Command where
  /-- Assignments, words and redirections. -/
  | simple (line : Nat) (assignments : List (Text × List Part)) (words : List (List Part))
      (redirections : List Redirection)
  /-- Commands of which each takes the output of the one in front. -/
  | pipeline (commands : List Command)
  | negated (command : Command)
  /-- A command that nobody waits for. -/
  | background (line : Nat) (command : Command) (redirections : List Redirection)
  | sequence (first second : Command)
  | both (first second : Command)
  | either (first second : Command)
  | conditional (test thenDo : Command) (elseDo : Option Command)
  | loop (untilTrue : Bool) (test body : Command)
  /-- A loop over words; without words, over the positional parameters. -/
  | each (line : Nat) (name : Text) (words : Option (List (List Part))) (body : Command)
  | choose (line : Nat) (word : List Part) (branches : List (List (List Part) × Command))
  /-- Commands in a copy of the shell. -/
  | subshell (line : Nat) (body : Command) (redirections : List Redirection)
  | redirected (line : Nat) (body : Command) (redirections : List Redirection)
  | define (line : Nat) (name : Text) (body : Command)
  | empty

end

/-- A word of a script. -/
abbrev Word := List Part

instance : Inhabited Command := ⟨.empty⟩

/-- A character that can begin the name of a variable. -/
def isNameStart (c : Char) : Bool :=
  c.isAlpha || c == '_'

/-- A character of the name of a variable. -/
def isNameChar (c : Char) : Bool :=
  c.isAlphanum || c == '_'

/-- Whether a text is the name of a variable. -/
def isName (s : Text) : Bool :=
  s.head?.any isNameStart && s.all isNameChar

/-- A name of one character with a meaning of its own. -/
def isSpecialName (c : Char) : Bool :=
  c.isDigit || "@*#?$!-".toList.contains c

/-- The text of the literal parts of a word. -/
def literalText (word : Word) : Text :=
  word.flatMap fun
    | .chars text _ => text
    | _ => []

/-- Whether a part of a word is quoted. -/
def hasQuotes (word : Word) : Bool :=
  word.any fun
    | .chars _ quoted => quoted
    | .quotes => true
    | _ => false

/-- The text of a word that is nothing but unquoted text. -/
def plainText? (word : Word) : Option Text :=
  match word with
  | [.chars text false] => some text
  | _ => none

/-- The name in front of an equality sign, if a word begins with one, and the word behind it. -/
def assignment? (word : Word) : Option (Text × Word) :=
  match word with
  | .chars text false :: rest =>
    let name := text.takeWhile isNameChar
    match text.drop name.length with
    | '=' :: value =>
      if isName name then
        some (name, if value.isEmpty then rest else .chars value false :: rest)
      else none
    | _ => none
  | _ => none

end Shell

end Virtual

end Oneshot
