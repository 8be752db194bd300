import Oneshot.Virtual.Shell.Builtin.Basic

/-!
# Variables and options

The commands that set, mark, list and remove variables, that set the options of the shell and its
arguments, and that read options and lines on behalf of a script.

- `nextOption_none`: without arguments there is no option.
-/

namespace Oneshot

namespace Virtual

namespace Shell

/-! ### Listings -/

/-- A variable as a script would set it. -/
def settingText (v : ShellVariable) : Text :=
  v.name ++ v.value?.elim [] fun value => '=' :: inApostrophes value

/-- Lists variables in the order of their names, each behind `headline`. -/
def listing (headline : Text) (vars : List ShellVariable) : Text :=
  let sorted := vars.mergeSort fun a b =>
    (compare (a.name.map Char.toNat) (b.name.map Char.toNat)).isLE
  sorted.flatMap fun v => headline ++ settingText v ++ ['\n']

/-! ### Marks -/

/-- The name in front of an equality sign, and the value behind it. -/
def splitSetting (argument : Text) : Text × Option Text :=
  let name := argument.takeWhile (· != '=')
  match argument.drop name.length with
  | [] => (name, none)
  | _ :: value => (name, some value)

/-- Marks a variable, which need not have a value. -/
def markVariable (mark : ShellVariable → ShellVariable) (argument : Text) : Step Unit := do
  let (name, value?) := splitSetting argument
  match value? with
  | some value => assign name value false
  | none =>
    if !isName name then abort (name ++ ": bad variable name".toList)
    if (variableOf? name (← get).vars).isNone then
      modify (·.put ⟨name, none, false, false⟩)
  modify fun s =>
    match variableOf? name s.vars with
    | some v => s.put (mark v)
    | none => s

/-- Marks variables, or lists those that are marked. -/
def declare (command : Text) (mark : ShellVariable → ShellVariable)
    (isMarked : ShellVariable → Bool) : Builtin := fun arguments => do
  let (options, names) ← readOptions "p" [] arguments
  if !options.isEmpty || names.isEmpty then
    printOut (listing (command ++ [' ']) ((← get).vars.filter isMarked)) 0
  else
    names.forM (markVariable mark)
    finish 0

/-- Exports variables. -/
def exportVariables : Builtin :=
  declare "export" ({ · with isExported := true }) (·.isExported)

/-- Protects variables. -/
def protectVariables : Builtin :=
  declare "readonly" ({ · with isReadOnly := true }) (·.isReadOnly)

/-- Makes variables that are put back when the running function ends. -/
def declareLocal : Builtin := fun arguments => do
  if (← get).locals.isEmpty then abort "not in a function"
  for argument in arguments do
    let (name, value?) := splitSetting argument
    keepLocal name
    match value? with
    | some value => assign name value false
    | none => if !isName name then abort (name ++ ": bad variable name".toList)
  finish 0

/-- Removes variables or functions. -/
def remove : Builtin := fun arguments => do
  let (options, names) ← readOptions "vf" [] arguments
  let isFunction := (options.getLast?).any (·.1 == 'f')
  for name in names do
    if isFunction then
      modify fun s => { s with functions := s.functions.filter (·.name != name) }
    else unset name
  finish 0

/-! ### Options of the shell -/

/-- The names of the options, each with its letter. The last two have none that a script can give.
-/
def optionNames : List (String × Char) :=
  [("errexit", 'e'), ("noglob", 'f'), ("ignoreeof", 'I'), ("interactive", 'i'), ("monitor", 'm'),
    ("noexec", 'n'), ("stdin", 's'), ("xtrace", 'x'), ("verbose", 'v'), ("vi", 'V'), ("emacs", 'E'),
    ("noclobber", 'C'), ("allexport", 'a'), ("notify", 'b'), ("nounset", 'u'), ("privileged", 'p'),
    ("nolog", '\x01'), ("debug", '\x02')]

/-- Turns an option on or off. Without a terminal there is no control of jobs. -/
def switchOption (letter : Char) (isOn : Bool) : Step Unit := do
  if letter = 'm' ∧ isOn = true then complain "can't access tty; job control turned off"
  else
    modify fun s =>
      let others := s.options.filter (· != letter)
      { s with options := if isOn then letter :: others else others }

/-- The options as `set` shows them: what they are, or how to make them so. -/
def optionListing (s : Interpreter) (asCommands : Bool) : Text :=
  let row (name : String) (letter : Char) : Text :=
    let isOn := s.has letter
    if asCommands then
      "set ".toList ++ (if isOn then ['-'] else ['+']) ++ "o ".toList ++ name.toList
    else
      name.toList ++ List.replicate (16 - name.length) ' ' ++ if isOn then "on" else "off"
  let rows := optionNames.flatMap fun (name, letter) => row name letter ++ ['\n']
  if asCommands then rows else "Current option settings\n".toList ++ rows

/-- Switches the options of some letters, of which some take the next argument as a name. What is
left of the arguments is returned. -/
def switchLetters (isOn : Bool) : Text → List Text → Step (List Text)
  | [], rest => return rest
  | 'o' :: letters, rest => do
    match rest with
    | [] => do
      printOut (optionListing (← get) (!isOn)) 0
      switchLetters isOn letters []
    | name :: rest => do
      match List.lookup (String.ofList name) optionNames with
      | some letter => switchOption letter isOn
      | none => abort ("Illegal option -o ".toList ++ name)
      switchLetters isOn letters rest
  | letter :: letters, rest => do
    if optionNames.any fun option => option.2 == letter then switchOption letter isOn
    else abort ("Illegal option -".toList ++ [letter])
    switchLetters isOn letters rest

/-- Gives the shell other arguments. -/
def setArguments (arguments : List Text) : Calm Unit :=
  modify ({ · with arguments, optionIndex := 1, optionOffset := none })

/-- Switches the options in front of some arguments. What is left is returned, and whether a hyphen
has ended the options. `fuel` bounds the number of arguments. -/
def switchOptions : (fuel : Nat) → List Text → Step (List Text × Option Text)
  | 0, arguments => return (arguments, none)
  | fuel + 1, arguments =>
    match arguments with
    | ['-'] :: rest => return (rest, some ['-'])
    | ['-', '-'] :: rest => return (rest, some ['-', '-'])
    | ('-' :: letters) :: rest => do switchOptions fuel (← switchLetters true letters rest)
    | ('+' :: letters) :: rest => do switchOptions fuel (← switchLetters false letters rest)
    | arguments => return (arguments, none)

/-- Lists all variables, or switches options and gives the shell other arguments. -/
def setShell : Builtin := fun arguments => do
  if arguments.isEmpty then printOut (listing [] ((← get).vars.filter (·.value?.isSome))) 0
  else
    finish 0
    let (rest, mark?) ← switchOptions (arguments.length + 1) arguments
    if mark? = some ['-'] then
      modify fun s => { s with options := s.options.filter fun c => c != 'x' && c != 'v' }
    if !rest.isEmpty || mark? == some ['-', '-'] then setArguments rest

/-- Drops arguments of the shell. -/
def shift : Builtin := fun arguments => do
  let count ← countOr 1 arguments
  let all := (← get).arguments
  if all.length < count then abort "can't shift that many"
  setArguments (all.drop count)
  finish 0

/-! ### Options of a script -/

/-- What stands where an option is looked for. -/
inductive OptionFound where
  | option (letter : Char) (value : Text)
  | unknown (letter : Char)
  | valueMissing (letter : Char)
  | none
deriving DecidableEq, Repr

/-- An option, the number of the argument behind it, and how much has been taken of the one in front
of that, unless all of it has. -/
structure OptionStep where
  found : OptionFound
  index : Nat
  offset : Option Nat
deriving DecidableEq, Repr

/-- Whether a letter is an option, and whether it takes a value. -/
def optionKind? (letter : Char) : Text → Option Bool
  | [] => none
  | c :: ':' :: rest => if c = letter then some true else optionKind? letter rest
  | c :: rest => if c = letter then some false else optionKind? letter rest

/-- The option whose letters `rest` begin in the argument in front of the one of number `index`. -/
def optionIn (letters rest : Text) (arguments : List Text) (index : Nat) : OptionStep :=
  match rest with
  | [] => ⟨.none, index, none⟩
  | letter :: rest =>
    let offset := ((arguments[index - 2]?).getD []).length - rest.length
    match optionKind? letter letters with
    | none => ⟨.unknown letter, index, some offset⟩
    | some false => ⟨.option letter [], index, some offset⟩
    | some true =>
      if rest.isEmpty then
        match arguments[index - 1]? with
        | some value => ⟨.option letter value, index + 1, none⟩
        | none => ⟨.valueMissing letter, index, none⟩
      else ⟨.option letter rest, index, none⟩

/-- The next option of some arguments. -/
def nextOption (letters : Text) (arguments : List Text) (index : Nat) (offset : Option Nat) :
    OptionStep :=
  let rest :=
    match offset with
    | some n => if index ≤ 1 then [] else ((arguments[index - 2]?).getD []).drop n
    | none => []
  if !rest.isEmpty then optionIn letters rest arguments index
  else
    match arguments[index - 1]? with
    | some ['-', '-'] => ⟨.none, index + 1, none⟩
    | some ('-' :: c :: rest) => optionIn letters (c :: rest) arguments (index + 1)
    | _ => ⟨.none, index, none⟩

/-- Keeps an option that has been found in the variables of the script. -/
def keepOption (isQuiet : Bool) (name : Text) (step : OptionStep) : Step Unit := do
  let keep (letter : Char) : Step Unit := do
    assign "OPTIND" (Text.ofNat step.index) false
    modify ({ · with optionIndex := step.index, optionOffset := step.offset })
    assign name [letter] false
  let fault (message : Text) : Step Unit := do
    put 2 (message ++ ['\n'])
    unset "OPTARG"
  match step.found with
  | .none => keep '?'
  | .option letter value =>
    assign "OPTARG" value false
    keep letter
  | .unknown letter =>
    if isQuiet then assign "OPTARG" [letter] false
    else fault ("Illegal option -".toList ++ [letter])
    keep '?'
  | .valueMissing letter =>
    if isQuiet then
      assign "OPTARG" [letter] false
      keep ':'
    else
      fault ("No arg for -".toList ++ letter :: " option".toList)
      keep '?'

/-- Reads the next option of the script's arguments. -/
def getOption : Builtin := fun arguments => do
  let (_, operands) ← readOptions [] [] arguments
  match operands with
  | letters :: name :: given =>
    let s ← get
    let all := if given.isEmpty then s.arguments else given
    let isOver := all.length + 1 < s.optionIndex
    let step := nextOption letters all (if isOver then 1 else s.optionIndex)
      (if isOver then none else s.optionOffset)
    keepOption (letters.head? == some ':') name step
    finish (if step.found = .none then 1 else 0)
  | _ => abort "Usage: getopts optstring var [arg...]"

/-! ### Lines -/

/-- A line from the input, in stretches of which those without backslashes may separate fields; how
many characters it takes; and whether it has an end. `current` is the stretch that has begun, in
reverse. -/
def lineStretches (isRaw : Bool) (current : Text) : Text → List Stretch × Nat × Bool
  | [] => ([valueStretch false current.reverse], 0, false)
  | '\n' :: _ => ([valueStretch false current.reverse], 1, true)
  | '\\' :: c :: rest =>
    if isRaw then
      let (stretches, count, isEnded) := lineStretches isRaw ('\\' :: current) (c :: rest)
      (stretches, count + 1, isEnded)
    else
      let (stretches, count, isEnded) := lineStretches isRaw [] rest
      let escaped := if c = '\n' then [] else [whole true [c]]
      (valueStretch false current.reverse :: escaped ++ stretches, count + 2, isEnded)
  | c :: rest =>
    let current := if c = '\x00' || c = '\\' && !isRaw then current else c :: current
    let (stretches, count, isEnded) := lineStretches isRaw current rest
    (stretches, count + 1, isEnded)
termination_by input => input.length

/-- What is left of the input; nothing of it is taken. -/
def unreadInput : Calm Text := do
  match ← inProcess (peek 0) with
  | .ok text => return text
  | .error _ => return []

/-- Takes some of what is left of the input. -/
def takeInput (count : Nat) : Calm Unit :=
  inProcess (consume 0 count)

/-- Reads a line into variables, of which the last takes what is left of it. -/
def readFields : Builtin := fun arguments => do
  let (options, names) ← readOptions "r" "p" arguments
  if names.isEmpty then abort "arg count"
  let input ← unreadInput
  let (stretches, count, isEnded) := lineStretches (options.any (·.1 == 'r')) [] input
  takeInput count
  let fields := lineFields (← get).separators names.length stretches
  for (name, i) in names.zipIdx do
    assign name (fields.getD i []) false
  finish (if isEnded then 0 else 1)

/-- Without arguments there is no option. -/
theorem nextOption_none (letters : Text) (index : Nat) :
    nextOption letters [] index none = ⟨.none, index, none⟩ := by
  simp [nextOption]

end Shell

end Virtual

end Oneshot
