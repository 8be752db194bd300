import Oneshot.Virtual.Account
import Oneshot.Virtual.Process
import Oneshot.Virtual.Shell.Arithmetic
import Oneshot.Virtual.Shell.Fork
import Oneshot.Virtual.Shell.Pattern

/-!
# Expansion

The parts of a word become stretches of text: parameters, the output of commands and the values of
arithmetic expressions take the places of what names them, and a tilde that of a home directory. A
field that holds unquoted signs of a pattern stands for the paths that it matches, in the order of
their bytes; where it matches none, it stands for itself.

- `pathsOf_plain`: a field without such signs stands for itself.
- `tildes_plain`: text without a tilde stays as it is.
-/

namespace Oneshot

namespace Virtual

namespace Shell

/-! ### Paths that a pattern matches -/

/-- Whether a class of characters behind its opening bracket is closed. -/
def closesClass (glyphs : List Glyph) : Bool :=
  let inner := match glyphs with
    | ⟨'!', false⟩ :: rest => rest
    | rest => rest
  (inner.drop 1).any fun g => g.char == ']' && !g.quoted

/-- Whether a name in a path has signs of a pattern. -/
def hasSigns : List Glyph → Bool
  | [] => false
  | g :: rest =>
    !g.quoted && (g.char == '*' || g.char == '?' || g.char == '[' && closesClass rest)
      || hasSigns rest

/-- The names of a path, each with the slashes behind it. -/
def namesOf : (fuel : Nat) → List Glyph → List (List Glyph × Text)
  | 0, _ => []
  | _, [] => []
  | fuel + 1, glyphs =>
    let name := glyphs.takeWhile (·.char != '/')
    let rest := glyphs.drop name.length
    let slashes := rest.takeWhile (·.char == '/')
    (name, slashes.map (·.char)) :: namesOf fuel (rest.drop slashes.length)

/-- The text that a name without signs stands for; a backslash hides itself. -/
def plainName : List Glyph → Text
  | [] => []
  | ⟨'\\', false⟩ :: g :: rest => g.char :: plainName rest
  | g :: rest => g.char :: plainName rest

/-- The paths that the names of a pattern match behind a start that is there. -/
def pathsFrom (p : Process) : (hasMatched : Bool) → (start : Text) → List (List Glyph × Text) →
    List Text
  | hasMatched, start, [] =>
    let isThere : Bool := match p.lookAt start with
      | .ok _ => true
      | .error _ => false
    if !hasMatched || isThere then [start] else []
  | hasMatched, start, (name, slashes) :: rest =>
    if hasSigns name then
      let directory := if start.isEmpty then ['.'] else start
      match p.lookUp directory with
      | .ok (place, .directory _) =>
        let items := itemsOf name
        let names : List Text := (p.system.tree.namesIn place).map rawOf
        let showsHidden := (name.find? fun g => g.quoted || g.char != '\\').any (·.char == '.')
        let all : List Text :=
          if showsHidden then ['.'] :: ['.', '.'] :: names
          else names.filter (·.head? != some '.')
        (all.filter (matchesItems items)).flatMap fun name =>
          pathsFrom p true (start ++ name ++ slashes) rest
      | _ => []
    else pathsFrom p hasMatched (start ++ plainName name ++ slashes) rest

/-- The paths that a field stands for. -/
def pathsOf (p : Process) (field : List Glyph) : List Text :=
  let itself := field.map (·.char)
  if hasSigns field then
    match pathsFrom p false [] (namesOf (field.length + 1) field) with
    | [] => [itself]
    | paths => inOrder paths
  else [itself]

/-- A field without signs of a pattern stands for itself. -/
theorem pathsOf_plain (p : Process) {field : List Glyph} (h : hasSigns field = false) :
    pathsOf p field = [field.map (·.char)] := by
  simp [pathsOf, h]

/-! ### Parameters -/

/-- The number under which the first shell runs. -/
def firstProcessNumber : Nat := 4242

/-- The letters of the options that can be on, in the order in which they are shown. -/
def optionLetters : Text :=
  "pubaCEVvxsnmiIfe"

/-- The value of a parameter that is not the row of all positional parameters. -/
def Interpreter.parameter? (s : Interpreter) (name : Text) : Option Text :=
  match name with
  | ['#'] => some (Text.ofNat s.arguments.length)
  | ['?'] => some (Text.ofNat s.status)
  | ['$'] => some (Text.ofNat s.processNumber)
  | ['!'] => if s.lastBackground = 0 then none else some (Text.ofNat s.lastBackground)
  | ['-'] => some (optionLetters.filter (s.options.contains ·))
  | name =>
    match natOf? name with
    | some 0 => some s.name
    | some n => s.arguments[n - 1]?
    | none => s.get? name

/-- What stands between positional parameters that are joined to one text. -/
def Interpreter.joint (s : Interpreter) : Text :=
  (s.get? "IFS").elim [' '] (·.take 1)

/-- The stretch of a parameter, unless it is unset. -/
def Interpreter.stretchOf? (s : Interpreter) (mode : Mode) (name : Text) (quoted : Bool) :
    Option Stretch :=
  if name = ['@'] ∨ name = ['*'] then
    if mode.inFields ∧ (quoted = false ∨ name = ['@']) then
      let text := Text.join [parameterEnd] s.arguments
      let cut : Cut :=
        if quoted = false then .atSeparators
        else if s.arguments.isEmpty then .never
        else .betweenParameters
      some ⟨cut, itemsOfText quoted text⟩
    else some (valueStretch quoted (Text.join s.joint s.arguments))
  else (s.parameter? name).map (valueStretch quoted)

/-- Breaks off because a parameter is unset. -/
def missing {α : Type} (name : Text) : Step α :=
  abort (name ++ ": parameter not set".toList)

/-- Whether a parameter counts as missing. -/
def isMissing (orEmpty : Bool) (stretch? : Option Stretch) : Bool :=
  match stretch? with
  | none => true
  | some stretch => orEmpty && stretch.items.isEmpty

/-- The value of an arithmetic expression; the variables that it sets are set. -/
def calculate (expression : Text) : Step Int := do
  match Arithmetic.eval (← get).get? expression with
  | .error fault => abort (fault.message expression)
  | .ok (n, settings) =>
    for (name, value) in settings do
      assign name (Text.ofInt value) false
    return n

/-- The stretches of a parameter behind an operation. -/
def expandParameter (e : Engine) (mode : Mode) (name : Text) (operation : Operation)
    (word : Word) (quoted : Bool) : Step (List Stretch) := do
  let s ← get
  let stretch? := s.stretchOf? mode name quoted
  let expandWord : Step (List Stretch) := e.expand ⟨mode.inFields, !quoted⟩ word
  let value : Step Stretch :=
    match stretch? with
    | some stretch => return stretch
    | none => if s.has 'u' then missing name else return ⟨.never, []⟩
  match operation with
  | .unknown => abort "Bad substitution"
  | .value => return [← value]
  | .length =>
    let stretch ← value
    return [valueStretch quoted (Text.ofNat stretch.items.length)]
  | .default orEmpty =>
    if isMissing orEmpty stretch? then expandWord else return stretch?.toList
  | .alternative orEmpty =>
    if isMissing orEmpty stretch? then return [] else expandWord
  | .assign orEmpty =>
    if isMissing orEmpty stretch? then
      assign name (textOf (← e.expand ⟨false, false⟩ word)) false
      return ((← get).stretchOf? mode name quoted).toList
    else return stretch?.toList
  | .complain orEmpty =>
    if isMissing orEmpty stretch? then
      if word.isEmpty then
        abort (name ++ ": parameter not set".toList
          ++ if orEmpty then " or null".toList else [])
      else abort (name ++ ": ".toList ++ textOf (← e.expand ⟨false, false⟩ word))
    else return stretch?.toList
  | .cutStart longest =>
    let stretch ← value
    let pattern := itemsOf (glyphsOf ((← e.expand ⟨false, false⟩ word).flatMap (·.items)))
    return [valueStretch quoted (withoutStart longest pattern (textOfItems stretch.items))]
  | .cutEnd longest =>
    let stretch ← value
    let pattern := itemsOf (glyphsOf ((← e.expand ⟨false, false⟩ word).flatMap (·.items)))
    return [valueStretch quoted (withoutEnd longest pattern (textOfItems stretch.items))]

/-- What commands print, without the line ends at its end. -/
def outputOf (e : Engine) (commands : Command) : Step Text := do
  let s ← get
  let (reader, writer, system) := s.system.addStream []
  set { s with system }
  let ended ← inCopy e do
    modify fun s => { s with toProcess := s.toProcess.redirect 1 writer }
    e.exec false commands
  let s ← get
  let status := statusOf ended
  let text := match s.system.unread reader with
    | .ok text => text
    | .error _ => []
  set { s with outputStatus := status }
  return Text.dropEndWhile (· == '\n') (text.filter (· != '\x00'))

/-- The stretches of a part of a word. -/
def expandPart (e : Engine) (mode : Mode) (part : Part) : Step (List Stretch) :=
  match part with
  | .chars text quoted =>
    return [if mode.isCut && !quoted then valueStretch false text else whole quoted text]
  | .quotes => return [⟨.never, [.mark]⟩]
  | .parameter name operation word quoted => expandParameter e mode name operation word quoted
  | .output commands quoted => return [valueStretch quoted (← outputOf e commands)]
  | .arithmetic expression quoted => do
    let text := textOf (← e.expand ⟨false, false⟩ expression)
    return [valueStretch quoted (Text.ofInt (← calculate text))]

/-! ### Home directories -/

/-- A text in front of which a tilde may stand for a home directory, in pieces that are quoted where
they took its place. In an assignment a tilde may stand behind any colon. `isLast` says whether
nothing follows the text. -/
def tildes (home? : Text → Option Text) (inAssignment isLast : Bool) :
    (fuel : Nat) → (isStart : Bool) → Text → List (Text × Bool)
  | 0, _, text => [(text, false)]
  | fuel + 1, isStart, text =>
    let ends (c : Char) : Bool := c == '/' || inAssignment && c == ':'
    match isStart, text with
    | true, '~' :: rest =>
      let name := rest.takeWhile (!ends ·)
      let behind := rest.drop name.length
      match if behind.isEmpty && !isLast then none else home? name with
      | some home => (home, true) :: tildes home? inAssignment isLast fuel false behind
      | none => (['~'], false) :: tildes home? inAssignment isLast fuel false rest
    | _, text =>
      let front := text.takeWhile (· != ':')
      match text.drop front.length with
      | [] => if text.isEmpty then [] else [(text, false)]
      | colon :: behind =>
        if inAssignment then
          (front ++ [colon], false) :: tildes home? inAssignment isLast fuel true behind
        else [(text, false)]

/-- The home directory that the name behind a tilde stands for. -/
def Interpreter.homeOf? (s : Interpreter) (name : Text) : Option Text :=
  if name.isEmpty then s.get? "HOME"
  else (Account.homeOf? s.system.tree (textOfRaw name)).map rawOf

/-- A word in which tildes stand for home directories. -/
def withHomes (home? : Text → Option Text) (inAssignment : Bool) : (isStart : Bool) → Word → Word
  | _, [] => []
  | isStart, .chars text false :: rest =>
    let pieces := tildes home? inAssignment rest.isEmpty (text.length + 1) isStart text
    pieces.map (fun (text, quoted) => .chars text quoted)
      ++ withHomes home? inAssignment (inAssignment && text.getLast? == some ':') rest
  | _, part :: rest => part :: withHomes home? inAssignment false rest

/-- The stretches of a word. -/
def expandParts (e : Engine) (mode : Mode) (word : Word) : Step (List Stretch) := do
  return (← (withHomes (← get).homeOf? false true word).mapM (expandPart e mode)).flatten

/-! ### Words -/

/-- The text of a word that is not cut into fields. -/
def expandText (e : Engine) (word : Word) : Step Text := do
  return textOf (← e.expand ⟨false, false⟩ word)

/-- The text of a word in a document, where a tilde stands for itself. -/
def expandDocument (e : Engine) (word : Word) : Step Text := do
  return textOf (← word.mapM (expandPart e ⟨false, false⟩)).flatten

/-- A text expanded like a document. One that cannot be read stays as it is. -/
def expandContent (e : Engine) (content : Text) : Step Text := do
  let source : Source := .ofText content 1 (← get).nextDocument []
  let (result, next) := (scriptGrammar.words.parts .document).run.run source
  match result with
  | .ok word =>
    keepDocuments next
    expandDocument e word
  | .error _ => return content

/-- The text of a value that is assigned. -/
def expandValue (e : Engine) (word : Word) : Step Text := do
  let word := withHomes (← get).homeOf? true true word
  return textOf (← word.mapM (expandPart e ⟨false, false⟩)).flatten

/-- The pattern of a word. -/
def expandPattern (e : Engine) (word : Word) : Step (List PatternItem) := do
  return itemsOf (glyphsOf ((← e.expand ⟨false, false⟩ word).flatMap (·.items)))

/-- The fields of a word. -/
def expandFields (e : Engine) (word : Word) : Step (List Text) := do
  let stretches ← e.expand ⟨true, false⟩ word
  let s ← get
  return (fields s.separators stretches).flatMap fun field =>
    if s.has 'f' then [textOfItems field] else pathsOf s.toProcess (glyphsOf field)

/-- The fields of some words. -/
def expandAll (e : Engine) (words : List Word) : Step (List Text) := do
  return (← words.mapM (expandFields e)).flatten

/-- Text without a tilde stays as it is. -/
theorem tildes_plain {home? : Text → Option Text} {c : Char} {text : Text} (h : c ≠ '~')
    (isLast isStart : Bool) (fuel : Nat) :
    tildes home? false isLast (fuel + 1) isStart (c :: text) = [(c :: text, false)] := by
  have hc : ¬ (c = '~') := h
  unfold tildes
  split
  · simp_all
  · simp only [List.isEmpty_cons, Bool.false_eq_true, if_false]
    split <;> rfl

end Shell

end Virtual

end Oneshot
