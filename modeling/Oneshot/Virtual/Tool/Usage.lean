import Oneshot.Virtual.Raw

/-!
# Options of tools

Tools read their arguments in the same way: an option is a letter behind a hyphen or a word behind
two, some take a value, and options may stand between the operands unless the tool says otherwise.
A word may be shortened as long as it is clear which one is meant.

- `read_operand`: an argument without a hyphen in front is an operand.
-/

namespace Oneshot

namespace Virtual

namespace Tool

/-- Whether an option takes a value. -/
inductive ValueRule where
  | none
  | required
  /-- Only a value that is written together with the option. -/
  | optional
deriving DecidableEq, Repr

/-- What a tool is called and which options it takes. -/
structure Usage where
  tool : String
  /-- The letters of the options, with a colon behind those that take a value, and two behind those
  that may take one. -/
  letters : String
  /-- The words of options, each with the letter that it stands for. -/
  words : List (String × Char)
  /-- Whether nothing behind the first operand is an option. -/
  stopsAtOperand : Bool

/-- The options and the operands that a tool has been given. -/
structure Given where
  options : List (Char × Text)
  operands : List Text
deriving DecidableEq, Repr

namespace Given

/-- Whether an option is given. -/
def has (g : Given) (letter : Char) : Bool :=
  g.options.any (·.1 == letter)

/-- The value of an option that counts: the last one. -/
def value? (g : Given) (letter : Char) : Option Text :=
  ((g.options.filter (·.1 == letter)).getLast?).map Prod.snd

/-- Which of some options is given last. -/
def last? (g : Given) (letters : String) : Option Char :=
  ((g.options.filter fun o => letters.toList.contains o.1).getLast?).map Prod.fst

/-- All values of an option. -/
def values (g : Given) (letter : Char) : List Text :=
  (g.options.filter (·.1 == letter)).map Prod.snd

end Given

/-- Whether a letter is an option, and whether it takes a value. -/
def ruleOf? (letter : Char) : Text → Option ValueRule
  | [] => none
  | c :: ':' :: ':' :: rest => if c = letter then some .optional else ruleOf? letter rest
  | c :: ':' :: rest => if c = letter then some .required else ruleOf? letter rest
  | c :: rest => if c = letter then some .none else ruleOf? letter rest

namespace Usage

/-- The options of the letters of one argument, and whether the last of them takes the next
argument. -/
def readLetters (u : Usage) : Text → Except Text (List (Char × Text) × Option Char)
  | [] => .ok ([], none)
  | c :: rest =>
    match if c = ':' then none else ruleOf? c u.letters.toList with
    | none => .error ("invalid option -- '".toList ++ [c, '\''])
    | some .none => (u.readLetters rest).map fun (options, open?) => ((c, []) :: options, open?)
    | some .optional => .ok ([(c, rest)], none)
    | some .required => if rest.isEmpty then .ok ([], some c) else .ok ([(c, rest)], none)

/-- The option that a word stands for, which may be shortened. -/
def wordOption (u : Usage) (word : Text) : Except Text (String × Char) :=
  match u.words.filter fun w => word.isPrefixOf w.1.toList with
  | [] => .error ("unrecognized option '--".toList ++ word ++ ['\''])
  | [w] => .ok w
  | w :: more =>
    match (w :: more).find? fun w => w.1.toList == word with
    | some w => .ok w
    | none =>
      if more.all fun v => v.2 == w.2 then .ok w
      else
        let all := (w :: more).flatMap fun v => " '--".toList ++ v.1.toList ++ ['\'']
        .error ("option '--".toList ++ word ++ "' is ambiguous; possibilities:".toList ++ all)

/-- The option of a word, with its value or the news that it takes the next argument. -/
def readWord (u : Usage) (argument : Text) : Except Text (Char × Option Text) := do
  let name := argument.takeWhile (· != '=')
  let value? := (argument.drop name.length).tail?
  let (word, letter) ← u.wordOption name
  let named := "option '--".toList ++ word.toList
  match (ruleOf? letter u.letters.toList).getD .none, value? with
  | .none, some _ => throw (named ++ "' doesn't allow an argument".toList)
  | .none, none => return (letter, some [])
  | .optional, value? => return (letter, some (value?.getD []))
  | .required, value? => return (letter, value?)

/-- The options and operands of some arguments. `open?` is the option that takes the next one, with
what is said if there is none. -/
def readFrom (u : Usage) : (open? : Option (Char × Text)) → List Text → Except Text Given
  | none, [] => .ok ⟨[], []⟩
  | some (_, fault), [] => .error fault
  | some (letter, _), value :: rest =>
    (u.readFrom none rest).map fun g => { g with options := (letter, value) :: g.options }
  | none, argument :: rest =>
    match argument with
    | ['-', '-'] => .ok ⟨[], rest⟩
    | '-' :: '-' :: word =>
      match u.readWord word with
      | .error fault => .error fault
      | .ok (letter, some value) =>
        (u.readFrom none rest).map fun g => { g with options := (letter, value) :: g.options }
      | .ok (letter, none) =>
        let named := "option '--".toList ++ word
        u.readFrom (some (letter, named ++ "' requires an argument".toList)) rest
    | '-' :: c :: letters =>
      match u.readLetters (c :: letters) with
      | .error fault => .error fault
      | .ok (options, open?) =>
        let open? := open?.map fun letter =>
          (letter, "option requires an argument -- '".toList ++ [letter, '\''])
        (u.readFrom open? rest).map fun g => { g with options := options ++ g.options }
    | operand =>
      if u.stopsAtOperand then .ok ⟨[], operand :: rest⟩
      else (u.readFrom none rest).map fun g => { g with operands := operand :: g.operands }

/-- The options and operands of some arguments. -/
def read (u : Usage) (arguments : List Text) : Except Text Given :=
  u.readFrom none arguments

/-- An argument without a hyphen in front is an operand. -/
theorem read_operand {u : Usage} {c : Char} {text : Text} (h : c ≠ '-') :
    u.read [c :: text] = .ok ⟨[], [c :: text]⟩ := by
  simp only [read, readFrom]
  split
  · simp_all
  · simp_all
  · simp_all
  · split <;> rfl

end Usage

end Tool

end Virtual

end Oneshot
