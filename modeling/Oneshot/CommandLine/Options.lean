import Oneshot.CommandLine.Escapes
import Oneshot.CommandLine.Page
import Oneshot.Text.Quoted
import Oneshot.Text.Similar

/-!
# Options of a command line

Each command has its own options. A long option can be given its value behind an equals sign; short
options can be written together. Two dashes end the options. A command either takes options and
arguments in any order or ends its options at the first argument, and it either refuses an option
that it does not know or takes it for an argument.

- `parse_nil`: the empty command line gives nothing.
- `parse_dashes`: what stands behind two dashes is arguments.
-/

namespace Oneshot

namespace CommandLine

/-- What an option stands for. -/
inductive Flag where
  | help
  | verbose
  | emoji (on : Bool)
  | color (on : Bool)
  | showExpanded
  | body
  | cacheDir
deriving DecidableEq, Repr

/-- Whether an option is followed by a value. -/
def Flag.takesValue : Flag → Bool
  | .cacheDir => true
  | _ => false

/-- The options of a command and how it reads them. -/
structure Spec where
  /-- The command with all that stands in front of it. -/
  command : Text
  /-- What follows the command in its usage. -/
  synopsis : Text
  /-- The long options, with their two dashes. -/
  long : List (Text × Flag)
  /-- The short options, without their dash. -/
  short : List (Char × Flag)
  /-- Whether options end at the first argument. -/
  stopsAtArgument : Bool
  /-- Whether an unknown option is taken for an argument. -/
  keepsUnknown : Bool
deriving Repr

/-- What is wrong with a command line. An unknown option can be similar to known ones. -/
inductive UsageFault where
  | noSuchOption (name : Text) (similarOptions : List Text)
  | missingValue (name : Text)
  | superfluousValue (name : Text)
  /-- What is given for an option or an argument is no path, because it holds a NUL. -/
  | noPath (name : Text)
  /-- There is something at a path that is given for an option or an argument, and it may not be
  read. -/
  | unreadablePath (name path : Text)
  | extraArguments (arguments : List Text)
  | noSuchCommand (name : Text)
  | missingCommand
deriving DecidableEq, Repr

namespace UsageFault

/-- Whether the usage of the command is shown with the fault. -/
def showsUsage : UsageFault → Bool
  | .missingValue _ | .superfluousValue _ => false
  | _ => true

/-- What a fault says. -/
def headline : UsageFault → Text
  | .noSuchOption name _ => "No such option: ".toList ++ name
  | .missingValue name => "Option ".toList ++ Text.quoted name ++ " requires an argument.".toList
  | .superfluousValue name =>
    "Option ".toList ++ Text.quoted name ++ " does not take a value.".toList
  | .noPath name =>
    "Invalid value for ".toList ++ Text.quoted name ++ ": Value error, embedded null byte".toList
  | .unreadablePath name path =>
    "Invalid value for ".toList ++ Text.quoted name ++ ": Path ".toList ++ Text.quoted path
      ++ " is not readable.".toList
  | .extraArguments arguments =>
    "Got unexpected extra argument(s) (".toList ++ Text.join [' '] arguments ++ [')']
  | .noSuchCommand name => "No such command ".toList ++ Text.quoted name ++ ['.']
  | .missingCommand => "Missing command."

/-- The options that may have been meant. -/
def possibilities : UsageFault → Text
  | .noSuchOption _ (option :: others) =>
    " (Possible options: ".toList ++ Text.join ", ".toList (option :: others) ++ [')']
  | _ => []

/-- The wording of a fault, with the commands that may have been meant. -/
def message (fault : UsageFault) (similarCommands : List Text) : Text :=
  let suggested :=
    if similarCommands.isEmpty then fault.headline
    else
      Text.dropEndWhile (· == '.') fault.headline ++ ". Did you mean ".toList
        ++ Text.join ", ".toList (similarCommands.map Text.quoted) ++ ['?']
  suggested ++ fault.possibilities

end UsageFault

/-- The usage of a command, on as many lines as it takes. -/
def Spec.usage (width : Nat) (spec : Spec) : List Text :=
  let start := "Usage: ".toList ++ spec.command ++ [' ']
  match fill (width - start.length) spec.synopsis with
  | [] => [start]
  | line :: more => (start ++ line) :: more.map (List.replicate start.length ' ' ++ ·)

/-- What is printed for a fault, with the commands that may have been meant. -/
def Spec.faultText (width : Nat) (spec : Spec) (fault : UsageFault) (similarCommands : List Text) :
    Text :=
  let usage :=
    if fault.showsUsage then
      spec.usage width ++ ["Try '".toList ++ spec.command ++ " --help' for help.".toList, []]
    else []
  Text.ended
    (usage ++ [Text.withVisibleControls ("Error: ".toList ++ fault.message similarCommands)])

/-- The options that were given, each with its value, and the arguments. -/
structure Given where
  options : List (Flag × Text)
  arguments : List Text
deriving DecidableEq, Repr

namespace Given

/-- Options and arguments, and then further ones. -/
def append (g h : Given) : Given :=
  ⟨g.options ++ h.options, g.arguments ++ h.arguments⟩

/-- Whether an option was given. -/
def has (g : Given) (flag : Flag) : Bool :=
  g.options.any (·.1 == flag)

/-- The value of an option; the last one stands. -/
def value? (g : Given) (flag : Flag) : Option Text :=
  (g.options.reverse.find? (·.1 == flag)).map Prod.snd

/-- Which of the two forms of a switch was given last. -/
def switch? (g : Given) (form : Bool → Flag) : Option Bool :=
  (g.options.reverse.find? fun option => option.1 == form true || option.1 == form false).map
    fun option => option.1 == form true

end Given

/-- What one word of the command line amounts to. -/
inductive Word where
  | given (given : Given)
  /-- An option whose value is the next word. -/
  | awaitsValue (name : Text) (flag : Flag)
deriving DecidableEq, Repr

/-- A word with a long option, if the command knows it. -/
def Spec.longOption? (spec : Spec) (word : Text) : Option (Except UsageFault Word) :=
  let (name, value?) : Text × Option Text :=
    match Text.cutFirst? ['='] word with
    | some (name, value) => (name, some value)
    | none => (word, none)
  (List.lookup name spec.long).map fun flag =>
    match flag.takesValue, value? with
    | true, some value => .ok (.given ⟨[(flag, value)], []⟩)
    | true, none => .ok (.awaitsValue name flag)
    | false, some _ => .error (.superfluousValue name)
    | false, none => .ok (.given ⟨[(flag, [])], []⟩)

/-- Texts in the order of their characters. -/
def inOrder (texts : List Text) : List Text :=
  texts.mergeSort fun a b => !(b < a : Bool)

/-- The name of a long option that may be mistyped. -/
def optionName (word : Text) : Text :=
  ((Text.cutFirst? ['='] word).map Prod.fst).getD word

/-- A word of short options, behind its dash. Those that the command does not know are kept together
as one argument, or refused. -/
def Spec.shortOptions (spec : Spec) (letters : Text) : Except UsageFault Word :=
  let unknown := letters.filter fun c => (List.lookup c spec.short).isNone
  match unknown.head?, spec.keepsUnknown with
  | some c, false => .error (.noSuchOption ['-', c] [])
  | _, _ =>
    .ok (.given ⟨(letters.filterMap (List.lookup · spec.short)).map fun flag => (flag, []),
      if unknown.isEmpty then [] else ['-' :: unknown]⟩)

/-- Reads a word that begins with a dash. -/
def Spec.option (spec : Spec) (word : Text) : Except UsageFault Word :=
  match spec.longOption? word with
  | some result => result
  | none =>
    if "--".toList.isPrefixOf word then
      if spec.keepsUnknown then .ok (.given ⟨[], [word]⟩)
      else
        let name := optionName word
        .error (.noSuchOption name (inOrder (Text.closeTo name (spec.long.map Prod.fst))))
    else spec.shortOptions (word.drop 1)

/-- Whether a word is read as an option. -/
def isOption (word : Text) : Bool :=
  ['-'].isPrefixOf word && 1 < word.length

/-- A fault in the words of a command line, and the words behind the one that shows it. -/
structure Misuse where
  fault : UsageFault
  rest : List Text
deriving DecidableEq, Repr

/-- Reads the words of a command line behind what has been read. -/
def Spec.parseFrom (spec : Spec) (before : Given) : List Text → Except Misuse Given
  | [] => .ok before
  | word :: rest =>
    if word = "--".toList then .ok (before.append ⟨[], rest⟩)
    else if isOption word then
      match spec.option word with
      | .error fault => .error ⟨fault, rest⟩
      | .ok (.given given) => spec.parseFrom (before.append given) rest
      | .ok (.awaitsValue name flag) =>
        match rest with
        | [] => .error ⟨.missingValue name, []⟩
        | value :: rest => spec.parseFrom (before.append ⟨[(flag, value)], []⟩) rest
    else if spec.stopsAtArgument then .ok (before.append ⟨[], word :: rest⟩)
    else spec.parseFrom (before.append ⟨[], [word]⟩) rest

/-- Reads the words of a command line. -/
def Spec.parse (spec : Spec) (words : List Text) : Except Misuse Given :=
  spec.parseFrom ⟨[], []⟩ words

theorem parse_nil (spec : Spec) : spec.parse [] = .ok ⟨[], []⟩ := rfl

/-- What stands behind two dashes is arguments. -/
theorem parse_dashes (spec : Spec) (words : List Text) :
    spec.parse ("--".toList :: words) = .ok ⟨[], words⟩ := by
  simp [Spec.parse, Spec.parseFrom, Given.append]

end CommandLine

end Oneshot
