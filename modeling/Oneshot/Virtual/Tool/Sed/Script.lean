import Oneshot.Virtual.Regex.Reader

/-!
# Scripts of the line editor

A script is a row of commands. Each of them may be restricted to some lines, and the branches and
blocks among them lead to places in the row.

- `render_chars`: a replacement of characters is the text that they make up.
-/

namespace Oneshot

namespace Virtual

namespace Tool

namespace Sed

/-- An expression as it is written in a script, and whether it takes no notice of case. Without one
the last that was used is meant. -/
abbrev Pattern := Option (Regex × Bool)

/-- An address of lines. -/
inductive Address where
  | line (number : Nat)
  | last
  | matching (pattern : Pattern)
  /-- Every line of which the number is `first` and some times `step`. -/
  | every (first step : Nat)

/-- How far the lines reach that begin at an address. -/
inductive Reach where
  | upTo (address : Address)
  /-- Some more lines. -/
  | more (count : Nat)
  /-- Up to a line whose number is a multiple. -/
  | multipleOf (count : Nat)

/-- The lines for which a command is meant. -/
structure Selection where
  start? : Option Address
  reach? : Option Reach
  isOpposite : Bool

/-- What a replacement does to the case of the text behind. -/
inductive Casing where
  | asIs | upper | lower | upperOnce | lowerOnce
deriving DecidableEq, Repr

/-- A piece of a replacement. -/
inductive Piece where
  | char (c : Char)
  /-- What a group has matched. -/
  | group (number : Nat)
  | casing (casing : Casing)
deriving DecidableEq, Repr

/-- A substitution. -/
structure Substitution where
  pattern : Pattern
  pieces : List Piece
  /-- The number of the first match that is replaced. -/
  first : Nat
  /-- Whether all further matches are replaced. -/
  isGlobal : Bool
  /-- How often the result is printed. -/
  prints : Bool
  file? : Option Text

/-- What a command does. -/
inductive Verb where
  | nothing
  | delete | deleteLine | print | printLine | next | append
  | hold | holdMore | fetch | fetchMore | exchange | clear
  | number | name
  | list (width? : Option Nat)
  | quit (status : Nat) (isSilent : Bool)
  | addBehind (text : Text)
  | addBefore (text : Text)
  | change (text : Text)
  | readFile (path : Text)
  | readLine (path : Text)
  | write (path : Text)
  | writeLine (path : Text)
  | substitute (s : Substitution)
  | exchangeChars (pairs : List (Char × Char))
  | label (name : Text)
  /-- Goes on at a label, or at the end of the script. -/
  | branch (label : Text)
  | branchIf (label : Text)
  | branchUnless (label : Text)
  | opens
  | closes

/-- A command of a script. -/
structure Command where
  selection : Selection
  verb : Verb

/-- A script. -/
structure Script where
  commands : List Command
  /-- Whether its first line says that nothing is printed without being asked for. -/
  isQuiet : Bool

namespace Script

/-- The place behind the end of the block that begins at a place, `depth` blocks down. -/
def behindBlock : (depth : Nat) → (place : Nat) → List Command → Nat
  | _, place, [] => place
  | depth, place, c :: rest =>
    match c.verb, depth with
    | .opens, depth => behindBlock (depth + 1) (place + 1) rest
    | .closes, 0 | .closes, 1 => place + 1
    | .closes, depth => behindBlock (depth - 1) (place + 1) rest
    | _, depth => behindBlock depth (place + 1) rest

/-- The place of a label; without a name it is the end of the script. -/
def placeOf? (script : Script) (label : Text) : Option Nat :=
  if label.isEmpty then some script.commands.length
  else script.commands.findIdx? fun c =>
    match c.verb with
    | .label name => name == label
    | _ => false

/-- The first label of a branch that is not in the script. -/
def missingLabel? (script : Script) : Option Text :=
  let labels := script.commands.filterMap fun c =>
    match c.verb with
    | .branch label | .branchIf label | .branchUnless label => some label
    | _ => none
  labels.find? fun label => (script.placeOf? label).isNone

/-- The paths to which commands write. -/
def outputs (script : Script) : List Text :=
  script.commands.filterMap fun c =>
    match c.verb with
    | .write path | .writeLine path => some path
    | .substitute s => s.file?
    | _ => none

end Script

/-- A text in a case. -/
def Casing.apply (casing : Casing) (text : Text) : Text :=
  match casing with
  | .upper => text.map Char.toUpper
  | .lower => text.map Char.toLower
  | _ => text

/-- The text that takes the place of a match. `all` is the case of what follows, and `once` that of
the next character. -/
def render (m : Regex.Match) : (all once : Casing) → List Piece → Text
  | _, _, [] => []
  | all, once, piece :: rest =>
    let add (text : Text) : Text :=
      match once, text with
      | .upperOnce, c :: text => c.toUpper :: all.apply text ++ render m all .asIs rest
      | .lowerOnce, c :: text => c.toLower :: all.apply text ++ render m all .asIs rest
      | once, text => all.apply text ++ render m all once rest
    match piece with
    | .char c => add [c]
    | .group number => add (m.group number)
    | .casing .upperOnce => render m all .upperOnce rest
    | .casing .lowerOnce => render m all .lowerOnce rest
    | .casing casing => render m casing .asIs rest

/-- A replacement of characters is the text that they make up. -/
theorem render_chars (m : Regex.Match) (text : Text) :
    render m .asIs .asIs (text.map .char) = text := by
  induction text with
  | nil => rfl
  | cons c text ih => simp [render, Casing.apply, ih]

end Sed

end Tool

end Virtual

end Oneshot
