import Oneshot.Virtual.Format
import Oneshot.Virtual.Shell.Syntax
import Oneshot.Virtual.Tool.Awk.Syntax

/-!
# Tokens of programs about records

A program is cut into names, numbers, texts, expressions and symbols. A slash begins an expression
where no operand stands in front of it.

- `unescape_plain`: a character that is no backslash stands for itself.
-/

namespace Oneshot

namespace Virtual

namespace Tool

namespace Awk

/-- A token. -/
inductive Token where
  | number (x : Float)
  | text (s : Text)
  | regex (source : Text)
  | name (s : Text)
  /-- A name right in front of an opening parenthesis. -/
  | callee (s : Text)
  | builtin (s : Text)
  | keyword (s : Text)
  | symbol (s : Text)
  | newline
deriving Repr

namespace Token

/-- Whether a token is a symbol. -/
def isSymbol (symbol : String) : Token → Bool
  | .symbol s => s == symbol.toList
  | _ => false

/-- Whether a token is a keyword. -/
def isKeyword (keyword : String) : Token → Bool
  | .keyword s => s == keyword.toList
  | _ => false

/-- Whether an operand may end with a token. -/
def endsOperand : Token → Bool
  | .number _ | .text _ | .regex _ | .name _ | .builtin _ => true
  | .symbol s => ["]", ")", "$", "++", "--"].contains (String.ofList s)
  | _ => false

end Token

/-- A token, the line on which it stands, and how it is written there. -/
structure Placed where
  token : Token
  line : Nat
  written : Text

/-- The words that are no names. -/
def keywords : List String :=
  ["BEGIN", "END", "function", "func", "if", "else", "while", "for", "do", "break", "continue",
    "next", "nextfile", "exit", "return", "delete", "in", "getline", "print", "printf"]

/-- The functions that every program has, with how many arguments they take at least and at most. -/
def builtinFunctions : List (String × Nat × Nat) :=
  let onTexts : List (String × Nat × Nat) :=
    [("length", 0, 1), ("substr", 2, 3), ("index", 2, 2), ("split", 2, 3), ("sub", 2, 3),
      ("gsub", 2, 3), ("match", 2, 2), ("sprintf", 1, 255), ("tolower", 1, 1), ("toupper", 1, 1),
      ("system", 1, 1), ("close", 1, 1), ("fflush", 0, 1)]
  let onNumbers : List (String × Nat × Nat) :=
    [("sin", 1, 1), ("cos", 1, 1), ("atan2", 2, 2), ("exp", 1, 1), ("log", 1, 1), ("sqrt", 1, 1),
      ("int", 1, 1), ("rand", 0, 0), ("srand", 0, 1), ("systime", 0, 0)]
  onTexts ++ onNumbers

/-- The symbols of two characters and of one. -/
def symbols : List String :=
  ["&&", "||", "==", "<=", ">=", "!=", "++", "--", "+=", "-=", "*=", "/=", "%=", "^=", "!~",
    ">>", "\x7b", "\x7d", "(", ")", "[", "]", ";", ",", "+", "-", "*", "/", "%", "^", "!",
    "<", ">", "|", "?", ":", "~", "$", "="]

/-- What a backslash in a text stands for, and what is left. A backslash that means nothing stays.
-/
def escapeIn (s : Text) : Text × Text :=
  match s with
  | [] => (['\\'], [])
  | c :: rest =>
    let digits := (s.take 3).takeWhile isOctal
    if !digits.isEmpty then ([Char.ofNat (octalOf digits % 256)], s.drop digits.length)
    else
      match c with
      | 'n' => (['\n'], rest)
      | 't' => (['\t'], rest)
      | 'r' => (['\r'], rest)
      | 'a' => (['\x07'], rest)
      | 'b' => (['\x08'], rest)
      | 'f' => (['\x0c'], rest)
      | 'v' => (['\x0b'], rest)
      | '\\' => (['\\'], rest)
      | '"' => (['"'], rest)
      | '\n' => ([], rest)
      | c => (['\\', c], rest)

/-- A text in which backslashes have been replaced by what they stand for. -/
def unescape : (fuel : Nat) → Text → Text
  | 0, s => s
  | _, [] => []
  | fuel + 1, '\\' :: rest =>
    let (chars, rest) := escapeIn rest
    chars ++ unescape fuel rest
  | fuel + 1, c :: rest => c :: unescape fuel rest

/-- The text up to a sign on the same line that no backslash hides and that stands in no set, and
what is left behind the sign. -/
def upToSign (sign : Char) (hasSets : Bool) : (fuel : Nat) → (inSet : Bool) → Text →
    Option (Text × Text)
  | 0, _, _ => none
  | _, _, [] => none
  | fuel + 1, inSet, c :: rest =>
    let keep (count : Nat) (inSet : Bool) : Option (Text × Text) :=
      let all := c :: rest
      (upToSign sign hasSets fuel inSet (all.drop count)).map fun (text, rest) =>
        (all.take count ++ text, rest)
    if c = '\\' ∧ rest ≠ [] then keep 2 inSet
    else if c = '\n' then none
    else if c = sign ∧ inSet = false then some ([], rest)
    else if hasSets ∧ c = '[' ∧ inSet = false then
      let start := if rest.head? = some '^' then 2 else 1
      keep (if (rest.drop (start - 1)).head? = some ']' then start + 1 else start) true
    else if hasSets ∧ c = ']' then keep 1 false
    else keep 1 inSet

/-- Why a program cannot be read. -/
structure Fault where
  message : Text

/-- A message about a line. -/
def faultAt {α : Type} (line : Nat) (message : Text) : Except Fault α :=
  .error ⟨"line ".toList ++ Text.ofNat line ++ ": ".toList ++ message⟩

/-- The token of a word. -/
def wordToken (word : Text) (isCall : Bool) : Token :=
  let s := String.ofList word
  if keywords.contains s then .keyword (if s = "func" then "function" else word)
  else if (List.lookup s builtinFunctions).isSome then .builtin word
  else if isCall then .callee word
  else .name word

/-- The tokens of a text; `previous?` is the one in front. -/
def tokensFrom : (fuel : Nat) → (line : Nat) → (previous? : Option Token) → Text →
    Except Fault (List Placed)
  | 0, _, _, _ => .ok []
  | _, _, _, [] => .ok []
  | fuel + 1, line, previous?, c :: rest =>
    let all := c :: rest
    let add (token : Token) (written left : Text) : Except Fault (List Placed) :=
      (tokensFrom fuel line (some token) left).map (⟨token, line, written⟩ :: ·)
    if c = '\n' then
      (tokensFrom fuel (line + 1) (some .newline) rest).map (⟨.newline, line, [c]⟩ :: ·)
    else if c = ' ' ∨ c = '\t' ∨ c = '\r' then tokensFrom fuel line previous? rest
    else if c = '#' then tokensFrom fuel line previous? (rest.dropWhile (· != '\n'))
    else if c = '\\' ∧ rest.head? = some '\n' then
      tokensFrom fuel (line + 1) previous? (rest.drop 1)
    else if c = '"' then
      match upToSign '"' false (rest.length + 1) false rest with
      | none => faultAt line ("runaway string constant \"".toList
          ++ (rest.takeWhile (· != '\n')).take 10 ++ " ...".toList)
      | some (text, left) =>
        add (.text (unescape (text.length + 1) text)) ('"' :: text ++ ['"']) left
    else if c.isDigit || c == '.' && (rest.head?).any Char.isDigit then
      match readFloat all with
      | some (x, left) => add (.number x) (all.take (all.length - left.length)) left
      | none => faultAt line "unexpected character"
    else if Shell.isNameStart c then
      let word := all.takeWhile Shell.isNameChar
      let left := all.drop word.length
      add (wordToken word (left.head? == some '(')) word left
    else if c = '/' ∧ (previous?.any Token.endsOperand) = false then
      match upToSign '/' true (rest.length + 1) false rest with
      | none => faultAt line ("runaway regular expression /".toList
          ++ (rest.takeWhile (· != '\n')).take 10 ++ " ...".toList)
      | some (source, left) => add (.regex source) ('/' :: source ++ ['/']) left
    else
      match symbols.find? fun s => s.toList.isPrefixOf all with
      | some s =>
        add (.symbol s.toList) s.toList (all.drop s.length)
      | none =>
        .error ⟨Text.ofNat line ++ ": unexpected character '".toList ++ [c, '\'']⟩

/-- The tokens of a program. -/
def tokensOf (program : Text) : Except Fault (List Placed) :=
  tokensFrom (program.length + 1) 1 none program

/-- A character that is no backslash stands for itself. -/
theorem unescape_plain {c : Char} (h : c ≠ '\\') (fuel : Nat) (s : Text) :
    unescape (fuel + 1) (c :: s) = c :: unescape fuel s := by
  simp [unescape]

end Awk

end Tool

end Virtual

end Oneshot
