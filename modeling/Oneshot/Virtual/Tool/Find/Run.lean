import Oneshot.Virtual.Shell.Condition
import Oneshot.Virtual.Tool.Files
import Oneshot.Virtual.Tool.Find.Condition
import Oneshot.Virtual.Tool.Starting
import Oneshot.Virtual.Tool.Status

/-!
# Searching a tree

A search goes through all that lies at and below some paths and does with each file what an
expression says. What a directory holds is found out when the search gets there.

- `visit_over`: a search that is over visits nothing.
-/

namespace Oneshot

namespace Virtual

namespace Tool

namespace Find

/-- A file that has been found: its path, the path at which the search began, and how far below it
lies. -/
structure Found where
  path : Text
  start : Text
  depth : Nat
  entry : Entry
  place : Place

/-- What a search knows beyond its process. -/
structure Search where
  status : Nat
  isOver : Bool
  /-- Whether what the present directory holds is left out. -/
  isPruned : Bool
  /-- The commands that start in the end, with the paths for them, the last of them first. -/
  waiting : List (List Text × List Text)

/-- A step of a search. -/
abbrev Step (α : Type) := StateT Search (StateM Process) α

/-- A step of the process below the search. -/
def inProcess {α : Type} (step : Run α) : Step α := StateT.lift step

/-- Complains; the search goes on, and its status tells. -/
def complainAbout (message : Text) : Step Unit := do
  modify ({ · with status := 1 })
  inProcess (complain "find" message)

/-- The letter of the kind of an entry. -/
def kindOf (entry : Entry) : Char :=
  match entry with
  | .directory _ => 'd'
  | .link _ => 'l'
  | .device _ => 'c'
  | .file _ _ | .tool _ => 'f'

/-- The path below the start of the search. -/
def relative (f : Found) : Text :=
  (f.path.drop f.start.length).dropWhile (· == '/')

/-- The text that a letter behind a percent sign stands for. -/
def partFor (f : Found) (letter : Char) : Text :=
  match letter with
  | 'p' => f.path
  | 'f' => if f.path.all (· == '/') then f.path else baseName f.path
  | 'h' => if f.path.contains '/' then directoryName f.path else ['.']
  | 'P' => relative f
  | 'H' => f.start
  | 'd' => Text.ofNat f.depth
  | 's' => Text.ofNat (byteCount f.entry)
  | 'y' => [kindOf f.entry]
  | 'm' => Nat.toDigits 8 (permissionBits f.entry)
  | 'u' | 'g' => "root"
  | 'U' | 'G' => "0"
  | 'l' =>
    match f.entry with
    | .link target => rawOf target
    | _ => []
  | '%' => "%"
  | other => ['%', other]

/-- A format with its letters and escapes resolved. -/
def formatted (f : Found) : Text → Text
  | '%' :: c :: rest => partFor f c ++ formatted f rest
  | '\\' :: 'n' :: rest => '\n' :: formatted f rest
  | '\\' :: 't' :: rest => '\t' :: formatted f rest
  | '\\' :: '0' :: rest => '\x00' :: formatted f rest
  | '\\' :: '\\' :: rest => '\\' :: formatted f rest
  | c :: rest => c :: formatted f rest
  | [] => []

/-- A word of a command with a path in place of each mark. -/
def withPath (path : Text) : Text → Text
  | '\x7b' :: '\x7d' :: rest => path ++ withPath path rest
  | c :: rest => c :: withPath path rest
  | [] => []

/-- Starts a command, and tells whether it has succeeded. -/
def succeeds (start : Start) (directory? : Option Place) (command : List Text) : Step Bool := do
  let change (p : Process) : Process := match directory? with
    | none => p
    | some place =>
      match p.system.tree.get? place with
      | some (.directory serial) => { p with workDir := ⟨place, serial⟩ }
      | _ => p
  let name := command.headD []
  match ← inProcess (startCommand start change name (command.drop 1)) with
  | .ok ended => return ended == .exited 0
  | .error cause =>
    inProcess do complain "find" ((← inMarks name) ++ ": ".toList ++ cause.wording)
    return false

/-- Where a command starts that is to start in the directory of a file, and the path by which it
knows the file. -/
def surroundings (inDirectory : Bool) (f : Found) : Option Place × Text :=
  if inDirectory then (some f.place.dropLast, "./".toList ++ baseName f.path) else (none, f.path)

/-- Removes a file or an empty directory. -/
def remove (f : Found) : Step Bool := do
  let p ← inProcess get
  if f.entry.isDirectory && p.system.tree.hasChildren f.place then
    complainAbout ("cannot delete ".toList ++ (← inProcess (inMarks f.path)) ++ ": ".toList
      ++ Errno.notEmpty.wording)
    return false
  else if f.path = ['.'] then return true
  else
    inProcess (set { p with system.tree := p.system.tree.erase f.place })
    return true

/-- Whether an expression holds of a file. Its actions are carried out on the way. -/
def holds (start : Start) (f : Found) : Expr → Step Bool
  | .always b => return b
  | .named isWhole foldsCase shape =>
    let name := if isWhole || f.path.all (· == '/') then f.path else baseName f.path
    return Shell.matchesItems shape (if foldsCase then name.map Char.toLower else name)
  | .matching foldsCase regex =>
    return match regex.find? foldsCase f.path with
    | some m => m.start == 0 && m.stop.rest.isEmpty
    | none => false
  | .ofKind letters => return letters.contains (kindOf f.entry)
  | .empty =>
    match f.entry with
    | .file content _ => return content.isEmpty
    | .directory _ => return !(← inProcess get).system.tree.hasChildren f.place
    | _ => return false
  | .size sense unit wanted => return sense.holds wanted ((byteCount f.entry + unit - 1) / unit)
  | .age sense wanted => return sense.holds wanted 0
  | .mode sense bits =>
    let mode := permissionBits f.entry
    return match sense with
    | .exactly => mode == bits
    | .all => mode &&& bits == bits
    | .any => bits == 0 || mode &&& bits != 0
  | .usable letter => return Shell.Condition.fileHas (← inProcess get) letter f.path
  | .print final => do
    inProcess (say 1 (f.path ++ [final]))
    return true
  | .printf format => do
    inProcess (say 1 (formatted f format))
    return true
  | .delete => remove f
  | .exec inDirectory command =>
    let (directory?, path) := surroundings inDirectory f
    succeeds start directory? (command.map (withPath path))
  | .execAll command => do
    modify fun s =>
      let paths := (List.lookup command s.waiting).getD []
      { s with waiting := (command, f.path :: paths) :: s.waiting.filter (·.1 != command) }
    return true
  | .prune => do
    modify ({ · with isPruned := true })
    return true
  | .quit => do
    modify ({ · with isOver := true })
    return true
  | .negation e => return !(← holds start f e)
  | .both left right => do if ← holds start f left then holds start f right else return false
  | .either left right => do if ← holds start f left then return true else holds start f right
  | .row left right => do
    let _ ← holds start f left
    holds start f right

/-- What is searched for, and how far. -/
structure Order where
  start : Start
  expression : Expr
  range : Range

/-- Looks at a file that is as deep as it should be. -/
def consider (order : Order) (f : Found) : Step Unit := do
  modify ({ · with isPruned := false })
  if order.range.least ≤ f.depth && !(← get).isOver then
    let _ ← holds order.start f order.expression

/-- Visits a path with all that lies below it, at most `fuel` directories deep. -/
def visit (order : Order) (begin : Text) : (fuel : Nat) → (depth : Nat) → Text → Step Unit
  | 0, _, _ => return
  | fuel + 1, depth, path => do
    if (← get).isOver then return
    let p ← inProcess get
    let follows := order.range.followsAll || order.range.followsStart && depth == 0
    let target := if follows then p.lookUp path else .error .noEntry
    match target, p.lookAt path with
    | .error _, .error cause =>
      complainAbout ((← inProcess (inMarks path)) ++ ": ".toList ++ cause.wording)
    | .ok (place, entry), _ | .error _, .ok (place, entry) =>
      let f : Found := ⟨path, begin, depth, entry, place⟩
      if !order.range.isDeepFirst then consider order f
      let isPruned := (← get).isPruned && !order.range.isDeepFirst
      let goesDown := entry.isDirectory && !isPruned && order.range.most?.all (depth < ·)
      if goesDown then
        let names := ((← inProcess get).system.tree.namesIn place).map rawOf
        let joined (name : Text) : Text :=
          if path.getLast? = some '/' then path ++ name else path ++ '/' :: name
        names.forM fun name => visit order begin fuel (depth + 1) (joined name)
      if order.range.isDeepFirst then consider order f

/-- Starts the commands that have waited for the end. -/
def startWaiting (start : Start) : Step Unit := do
  for (command, paths) in (← get).waiting.reverse do
    if !(← succeeds start none (command ++ paths.reverse)) then
      modify ({ · with status := 1 })

/-- Whether an argument begins the expression. -/
def beginsExpression (s : Text) : Bool :=
  s.head? == some '-' && 1 < s.length || [['('], [')'], ['!'], [',']].contains s

/-- The options in front of the paths, and what is left. -/
def readFlags (range : Range) : List Text → Range × List Text
  | ['-', 'H'] :: rest => readFlags { range with followsStart := true } rest
  | ['-', 'L'] :: rest => readFlags { range with followsAll := true } rest
  | ['-', 'P'] :: rest => readFlags { range with followsAll := false, followsStart := false } rest
  | ['-', '-'] :: rest => (range, rest)
  | rest => (range, rest)

/-- How deep directories are searched. -/
def depthLimit : Nat := 1000

/-- Searches a tree. -/
def run (start : Start) : Tool := fun arguments => do
  let (range, arguments) := readFlags ⟨0, none, false, false, false⟩ arguments
  let paths := arguments.takeWhile fun s => !beginsExpression s
  match readExpression range (arguments.drop paths.length) with
  | .error message =>
    complain "find" message
    return 1
  | .ok (e, range) =>
    let range := { range with isDeepFirst := range.isDeepFirst || e.deletes }
    let e := if e.acts then e else .both e (.print '\n')
    let search : Step Unit := do
      (if paths.isEmpty then [['.']] else paths).forM fun path =>
        visit ⟨start, e, range⟩ path depthLimit 0 path
      startWaiting start
    let (_, s) ← search.run ⟨0, false, false, []⟩
    return s.status

/-- A search that is over visits nothing. -/
theorem visit_over (order : Order) (begin : Text) (fuel depth : Nat) (path : Text) (s : Search)
    (h : s.isOver = true) : (visit order begin fuel depth path).run s = pure ((), s) := by
  cases fuel with
  | zero => rfl
  | succ fuel =>
    simp only [visit, StateT.run_bind, StateT.run_get, pure_bind, h, if_true]
    rfl

end Find

end Tool

end Virtual

end Oneshot
