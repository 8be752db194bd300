import Oneshot.Settings.Basic
import Oneshot.Settings.Value

/-!
# Checking settings

A document is checked field by field in a fixed order, and every fault is collected: where it lies
and what is wrong there. A missing field takes its default, an unknown one is ignored. A switch can
be written as a truth value, as a whole number 0 or 1, or as one of a few words in any case.

`Settings.ofEntries` checks a document, `Settings.assign` and `Settings.assignIn` check one new
value for a section or for a field and leave everything else as it is, and `Settings.toEntries`
writes settings as a document that passes the check unchanged.
-/

namespace Oneshot

/-- One step on the way to a value in a document. -/
inductive Step where
  | key (name : Text)
  | index (i : Nat)
deriving DecidableEq, Repr

/-- What is wrong with a value. -/
inductive Defect where
  | notText
  | emptyText
  | notList
  | emptyList
  | notTable
  | notPath
  | unknownChoice
  | notSection
  | unreadableSwitch
  | notSwitch
  | unknownField
deriving DecidableEq, Repr

/-- A value that does not pass: the way to it and what is wrong. -/
structure SettingsFault where
  place : List Step
  defect : Defect
deriving DecidableEq, Repr

/-- The outcome of a check. -/
inductive Check (α : Type) where
  /-- The value passes. -/
  | passed (value : α)
  /-- The value does not pass, for these reasons. -/
  | failed (faults : List SettingsFault)
deriving DecidableEq, Repr

namespace Check

/-- A single fault at the value itself. -/
def fault {α : Type} (defect : Defect) : Check α :=
  .failed [⟨[], defect⟩]

/-- The check followed by a function on what has passed. -/
def map {α β : Type} (f : α → β) : Check α → Check β
  | .passed x => .passed (f x)
  | .failed faults => .failed faults

/-- Both checks together; the faults of the first come first. -/
def ap {α β : Type} : Check (α → β) → Check α → Check β
  | .passed f, .passed x => .passed (f x)
  | .passed _, .failed faults => .failed faults
  | .failed faults, .passed _ => .failed faults
  | .failed faults, .failed more => .failed (faults ++ more)

/-- The check of a value that lies one step further on. -/
def within {α : Type} (step : Step) : Check α → Check α
  | .passed x => .passed x
  | .failed faults => .failed (faults.map fun f => { f with place := step :: f.place })

end Check

/-- A text. -/
def Value.toText : Value → Check Text
  | .text s => .passed s
  | _ => .fault .notText

/-- A text that is not empty. -/
def Value.toKeyword : Value → Check Text
  | .text [] => .fault .emptyText
  | .text s => .passed s
  | _ => .fault .notText

/-- The texts of a list whose first item stands at place `i`. -/
def Value.textsFrom (i : Nat) : List Value → Check (List Text)
  | [] => .passed []
  | v :: rest => ((v.toText.within (.index i)).map List.cons).ap (textsFrom (i + 1) rest)

/-- A list of texts. -/
def Value.toTexts : Value → Check (List Text)
  | .list items => textsFrom 0 items
  | _ => .fault .notList

/-- A list of texts that is not empty. -/
def Value.toMarkers (v : Value) : Check (List Text) :=
  match v.toTexts with
  | .passed [] => .fault .emptyList
  | checked => checked

/-- The triggers of a table, entry by entry. -/
def Value.triggersOf : Entries → Check (List Trigger)
  | [] => .passed []
  | (key, v) :: rest =>
    ((v.toTexts.within (.key key)).map fun lines triggers => ⟨key, lines⟩ :: triggers).ap
      (triggersOf rest)

/-- A table of triggers. -/
def Value.toTriggers : Value → Check (List Trigger)
  | .table entries => triggersOf entries
  | _ => .fault .notTable

/-- A path. -/
def Value.toPath : Value → Check Path
  | .text s => .passed (Path.ofText s)
  | _ => .fault .notPath

/-- The words that switch off. -/
def offWords : List Text :=
  ["0", "off", "f", "false", "n", "no"]

/-- The words that switch on. -/
def onWords : List Text :=
  ["1", "on", "t", "true", "y", "yes"]

/-- A whole number as a switch. One that takes more than 64 bits is no switch at all. -/
def switchOfInt (n : Int) : Check Bool :=
  if n = 0 then .passed false
  else if n = 1 then .passed true
  else if -(Nat.pow 2 63 : Int) ≤ n ∧ n < (Nat.pow 2 63 : Int) then .fault .unreadableSwitch
  else .fault .notSwitch

/-- A switch. Case does not matter to its words, blanks around them do. -/
def Value.toSwitch : Value → Check Bool
  | .bool b => .passed b
  | .int n => switchOfInt n
  | .real (.whole n) => if n.natAbs < Nat.pow 2 63 then switchOfInt n else .fault .notSwitch
  | .text s =>
    let word := s.map Char.toLower
    if offWords.elem word then .passed false
    else if onWords.elem word then .passed true
    else .fault .unreadableSwitch
  | _ => .fault .notSwitch

/-- A choice of colour. -/
def Value.toColorChoice : Value → Check ColorChoice
  | .text s =>
    match [ColorChoice.auto, .always, .never].find? fun choice => choice.word == s with
    | some choice => .passed choice
    | none => .fault .unknownChoice
  | _ => .fault .unknownChoice

/-- The field `name` of a section, or its default where the section has no such field. -/
def Entries.field {α : Type} (entries : Entries) (name : Text) (check : Value → Check α)
    (default : α) : Check α :=
  match entries.find? name with
  | some v => (check v).within (.key name)
  | none => .passed default

/-- The entries of a section. -/
def Value.inSection {α : Type} (check : Entries → Check α) : Value → Check α
  | .table entries => check entries
  | _ => .fault .notSection

/-! ### Documents -/

namespace Policy

/-- The policy that a section holds. -/
def ofEntries (entries : Entries) : Check Policy :=
  ((entries.field "entry_markers" Value.toMarkers default.entryMarkers).map Policy.mk)
    |>.ap (entries.field "std_triggers" Value.toTriggers default.triggers)
    |>.ap (entries.field "declaration_keyword" Value.toKeyword default.declarationKeyword)
    |>.ap (entries.field "comment_prefixes" Value.toTexts default.commentStarts)
    |>.ap (entries.field "import_prefixes" Value.toTexts default.importStarts)
    |>.ap (entries.field "declarations_pass_through" Value.toSwitch default.declarationsPassThrough)
    |>.ap (entries.field "indent" Value.toText default.indent)

/-- The policy that a value holds. -/
def ofValue (v : Value) : Check Policy :=
  v.inSection ofEntries

/-- The policy as a section. -/
def toEntries (p : Policy) : Entries :=
  [("entry_markers", .list (p.entryMarkers.map .text)),
    ("std_triggers", .table (p.triggers.map fun t => (t.pattern, .list (t.lines.map .text)))),
    ("declaration_keyword", .text p.declarationKeyword),
    ("comment_prefixes", .list (p.commentStarts.map .text)),
    ("import_prefixes", .list (p.importStarts.map .text)),
    ("declarations_pass_through", .bool p.declarationsPassThrough),
    ("indent", .text p.indent)]

/-- The policy with a new value for one field. -/
def assign (p : Policy) (field : Text) (v : Value) : Check Policy :=
  let set {α : Type} (check : Value → Check α) (f : α → Policy) : Check Policy :=
    ((check v).within (.key field)).map f
  if field = "entry_markers".toList then set Value.toMarkers fun x => { p with entryMarkers := x }
  else if field = "std_triggers".toList then set Value.toTriggers fun x => { p with triggers := x }
  else if field = "declaration_keyword".toList then
    set Value.toKeyword fun x => { p with declarationKeyword := x }
  else if field = "comment_prefixes".toList then
    set Value.toTexts fun x => { p with commentStarts := x }
  else if field = "import_prefixes".toList then
    set Value.toTexts fun x => { p with importStarts := x }
  else if field = "declarations_pass_through".toList then
    set Value.toSwitch fun x => { p with declarationsPassThrough := x }
  else if field = "indent".toList then set Value.toText fun x => { p with indent := x }
  else (Check.fault .unknownField).within (.key field)

end Policy

namespace ToolchainSettings

/-- The toolchain settings that a section holds. -/
def ofEntries (entries : Entries) : Check ToolchainSettings :=
  ((entries.field "compiler" Value.toText default.compiler).map ToolchainSettings.mk)
    |>.ap (entries.field "scratch_dir" Value.toPath default.scratchDir)
    |>.ap (entries.field "codegen_flags" Value.toTexts default.codegenFlags)

/-- The toolchain settings that a value holds. -/
def ofValue (v : Value) : Check ToolchainSettings :=
  v.inSection ofEntries

/-- The toolchain settings as a section. -/
def toEntries (t : ToolchainSettings) : Entries :=
  [("compiler", .text t.compiler), ("scratch_dir", .text t.scratchDir.text),
    ("codegen_flags", .list (t.codegenFlags.map .text))]

/-- The toolchain settings with a new value for one field. -/
def assign (t : ToolchainSettings) (field : Text) (v : Value) : Check ToolchainSettings :=
  let set {α : Type} (check : Value → Check α) (f : α → ToolchainSettings) :
      Check ToolchainSettings :=
    ((check v).within (.key field)).map f
  if field = "compiler".toList then set Value.toText fun x => { t with compiler := x }
  else if field = "scratch_dir".toList then set Value.toPath fun x => { t with scratchDir := x }
  else if field = "codegen_flags".toList then
    set Value.toTexts fun x => { t with codegenFlags := x }
  else (Check.fault .unknownField).within (.key field)

end ToolchainSettings

namespace OutputSettings

/-- The output settings that a section holds. -/
def ofEntries (entries : Entries) : Check OutputSettings :=
  ((entries.field "verbose" Value.toSwitch default.verbose).map OutputSettings.mk)
    |>.ap (entries.field "emoji" Value.toSwitch default.emoji)
    |>.ap (entries.field "color" Value.toSwitch default.color)
    |>.ap (entries.field "compiler_color" Value.toColorChoice default.compilerColor)
    |>.ap (entries.field "show_expanded" Value.toSwitch default.showExpanded)

/-- The output settings that a value holds. -/
def ofValue (v : Value) : Check OutputSettings :=
  v.inSection ofEntries

/-- The output settings as a section. -/
def toEntries (o : OutputSettings) : Entries :=
  [("verbose", .bool o.verbose), ("emoji", .bool o.emoji), ("color", .bool o.color),
    ("compiler_color", .text o.compilerColor.word), ("show_expanded", .bool o.showExpanded)]

/-- The output settings with a new value for one field. -/
def assign (o : OutputSettings) (field : Text) (v : Value) : Check OutputSettings :=
  let set {α : Type} (check : Value → Check α) (f : α → OutputSettings) : Check OutputSettings :=
    ((check v).within (.key field)).map f
  if field = "verbose".toList then set Value.toSwitch fun x => { o with verbose := x }
  else if field = "emoji".toList then set Value.toSwitch fun x => { o with emoji := x }
  else if field = "color".toList then set Value.toSwitch fun x => { o with color := x }
  else if field = "compiler_color".toList then
    set Value.toColorChoice fun x => { o with compilerColor := x }
  else if field = "show_expanded".toList then
    set Value.toSwitch fun x => { o with showExpanded := x }
  else (Check.fault .unknownField).within (.key field)

end OutputSettings

namespace Settings

/-- The settings that a document holds. -/
def ofEntries (entries : Entries) : Check Settings :=
  ((entries.field "policy" Policy.ofValue default.policy).map Settings.mk)
    |>.ap (entries.field "toolchain" ToolchainSettings.ofValue default.toolchain)
    |>.ap (entries.field "output" OutputSettings.ofValue default.output)
    |>.ap (entries.field "raise_errors" Value.toSwitch default.raiseErrors)

/-- The settings that a value holds. -/
def ofValue (v : Value) : Check Settings :=
  v.inSection ofEntries

/-- The settings as a document. -/
def toEntries (s : Settings) : Entries :=
  [("policy", .table s.policy.toEntries), ("toolchain", .table s.toolchain.toEntries),
    ("output", .table s.output.toEntries), ("raise_errors", .bool s.raiseErrors)]

/-- The settings with a new value for a section or for the switch beside the sections. -/
def assign (s : Settings) (field : Text) (v : Value) : Check Settings :=
  let set {α : Type} (check : Value → Check α) (f : α → Settings) : Check Settings :=
    ((check v).within (.key field)).map f
  if field = "policy".toList then set Policy.ofValue fun x => { s with policy := x }
  else if field = "toolchain".toList then
    set ToolchainSettings.ofValue fun x => { s with toolchain := x }
  else if field = "output".toList then set OutputSettings.ofValue fun x => { s with output := x }
  else if field = "raise_errors".toList then
    set Value.toSwitch fun x => { s with raiseErrors := x }
  else (Check.fault .unknownField).within (.key field)

/-- The settings with a new value for one field of a section. -/
def assignIn (s : Settings) (part field : Text) (v : Value) : Check Settings :=
  if part = "policy".toList then (s.policy.assign field v).map fun x => { s with policy := x }
  else if part = "toolchain".toList then
    (s.toolchain.assign field v).map fun x => { s with toolchain := x }
  else if part = "output".toList then
    (s.output.assign field v).map fun x => { s with output := x }
  else (Check.fault .unknownField).within (.key part)

end Settings

end Oneshot
