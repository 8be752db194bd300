import Oneshot.Virtual.Tool.Starting

/-!
# Commands from items

A tool reads items from its input, between blanks and line ends or between other separators, and
starts a command with them: with all of them at once, with some at a time, or with each in place of
a mark.

- `chunksOf_flatten`: no item gets lost when items are taken some at a time.
-/

namespace Oneshot

namespace Virtual

namespace Tool

namespace Batch

/-- The lines of a text, each as its items, and the quote that nothing closes, if there is one.
Quotes keep blanks inside of an item, and a backslash keeps the character behind it. The items of
the line that has begun are in reverse, and so are the characters of the item that has. -/
def linesOf (isByLine : Bool) : (quote? : Option Char) → (item? : Option Text) →
    (line : List Text) → Text → List (List Text) × Option Char
  | some quote, _, line, [] => (ended none line, some quote)
  | none, item?, line, [] => (ended item? line, none)
  | some quote, item?, line, c :: rest =>
    if c = '\n' then (ended none line, some quote)
    else if c = quote then linesOf isByLine none item? line rest
    else linesOf isByLine (some quote) (some (c :: item?.getD [])) line rest
  | none, item?, line, '\\' :: c :: rest =>
    linesOf isByLine none (some (c :: item?.getD [])) line rest
  | none, item?, line, c :: rest =>
    if c = '\n' then
      let (lines, quote?) := linesOf isByLine none none [] rest
      (ended item? line ++ lines, quote?)
    else if isSpace c && (!isByLine || item?.isNone) then
      linesOf isByLine none none (item?.toList.map List.reverse ++ line) rest
    else if c = '\'' ∨ c = '"' then linesOf isByLine (some c) (some (item?.getD [])) line rest
    else linesOf isByLine none (some (c :: item?.getD [])) line rest
where
  /-- The line that has ended, unless it is empty. -/
  ended (item? : Option Text) (line : List Text) : List (List Text) :=
    let items := (item?.toList.map List.reverse ++ line).reverse
    if items.isEmpty then [] else [items]

/-- The items between separators. Nothing stands behind the last one. -/
def itemsBetween (separator : Char) (s : Text) : List Text :=
  let items := Text.splitAt separator s
  if items.getLast? = some [] then items.dropLast else items

/-- Items some at a time. -/
def chunksOf {α : Type} (count : Nat) (items : List α) : List (List α) :=
  if items.length ≤ count ∨ count = 0 then if items.isEmpty then [] else [items]
  else items.take count :: chunksOf count (items.drop count)
  termination_by items.length
  decreasing_by
    rename_i h
    simp only [not_or, Nat.not_le] at h
    simp only [List.length_drop]
    omega

/-- No item gets lost when items are taken some at a time. -/
theorem chunksOf_flatten {α : Type} (count : Nat) (items : List α) :
    (chunksOf count items).flatten = items := by
  fun_induction chunksOf count items with
  | case1 items h he => simpa using Eq.symm he
  | case2 items h he => simp
  | case3 items h ih => simp [ih]

/-- A text in which another one takes the place of a mark. -/
def replaceMark (mark item : Text) : (fuel : Nat) → Text → Text
  | 0, s => s
  | fuel + 1, s =>
    match Text.cutFirst? mark s with
    | none => s
    | some (front, rest) => front ++ item ++ replaceMark mark item fuel rest

/-- What is read, and how it is handed on. -/
structure Plan where
  /-- What stands in the command for an item, if items take its place. -/
  mark? : Option Text
  separator? : Option Char
  /-- How many items and how many lines go into a command. -/
  itemCount? : Option Nat
  lineCount? : Option Nat

/-- The separator that a value names. -/
def separatorOf (value : Text) : Char :=
  match value with
  | '\\' :: 'n' :: _ => '\n'
  | '\\' :: 't' :: _ => '\t'
  | '\\' :: '0' :: _ => '\x00'
  | value => value.headD '\n'

/-- The plan that options make. -/
def Plan.of (given : Given) : Plan where
  mark? := match given.value? 'I' with
    | some mark => some mark
    | none => (given.value? 'i').map fun mark => if mark.isEmpty then "\x7b\x7d".toList else mark
  separator? := if given.has '0' then some '\x00' else (given.value? 'd').map separatorOf
  itemCount? := (given.value? 'n').bind natOf?
  lineCount? := match given.value? 'L' with
    | some count => natOf? count
    | none => (given.value? 'l').map fun count => (natOf? count).getD 1

/-- The commands for a text, and the quote that nothing closes, if there is one. -/
def Plan.commands (plan : Plan) (runsWithout : Bool) (command : List Text) (s : Text) :
    List (List Text) × Option Char :=
  let (lines, quote?) := match plan.separator? with
    | some separator => ((itemsBetween separator s).map fun item => [item], none)
    | none => linesOf plan.mark?.isSome none none [] s
  match plan.mark? with
  | some mark =>
    let commandFor (item : Text) : List Text :=
      command.map fun word => replaceMark mark item (word.length + 1) word
    (lines.flatten.map commandFor, quote?)
  | none =>
    let batches := match plan.lineCount?, plan.itemCount? with
      | some count, _ => (chunksOf count lines).map List.flatten
      | none, some count => chunksOf count lines.flatten
      | none, none => chunksOf 0 lines.flatten
    let batches := if batches.isEmpty && runsWithout && quote?.isNone then [[]] else batches
    (batches.map (command ++ ·), quote?)

/-- Starts commands one after the other. The status tells whether one has failed; some ends stop
everything. -/
def startAll (start : Start) (shows : Bool) (change : Process → Process) :
    (status : Nat) → List (List Text) → Run Nat
  | status, [] => return status
  | status, command :: rest => do
    if shows then say 2 (Text.join [' '] command ++ ['\n'])
    let name := command.headD []
    let stop (message : Text) (status : Nat) : Run Nat := do
      complain "xargs" (name ++ ": ".toList ++ message)
      return status
    match ← startCommand start change name (command.drop 1) with
    | .error cause => stop cause.wording (if cause = .noEntry then 127 else 126)
    | .ok (.killed signal) => stop ("terminated by signal ".toList ++ Text.ofNat signal) 125
    | .ok (.exited 0) => startAll start shows change status rest
    | .ok (.exited 255) => stop "exited with status 255; aborting" 124
    | .ok (.exited _) => startAll start shows change 123 rest

/-- Starts a command with the items of the input. -/
def run (start : Start) : Tool :=
  withGiven ⟨"xargs", "0a:d:E:e::i::I:L:l::n:P:prs:tx", [("null", '0'), ("arg-file", 'a'),
    ("delimiter", 'd'), ("eof", 'e'), ("replace", 'i'), ("max-lines", 'l'), ("max-args", 'n'),
    ("max-procs", 'P'), ("interactive", 'p'), ("no-run-if-empty", 'r'), ("max-chars", 's'),
    ("verbose", 't'), ("exit", 'x')], true⟩ 1 fun given => do
    let input ← match given.value? 'a' with
      | some path => readPath path
      | none => readAll 0
    let p ← get
    let (change, p) : (Process → Process) × Process :=
      match given.value? 'a', p.openPath "/dev/null".toList .read with
      | none, .ok (index, q) => ((·.redirect 0 index), { p with system := q.system })
      | _, _ => (id, p)
    set p
    let command := if given.operands.isEmpty then ["echo".toList] else given.operands
    match input with
    | .error cause =>
      complain "xargs" ("Cannot open input file ".toList ++ (← inMarks ((given.value? 'a').getD []))
        ++ ": ".toList ++ cause.wording)
      return 1
    | .ok text =>
      if given.has 'n' && (given.last? "nIi").any (· != 'n') then
        complain "xargs" ("warning: options --max-args and --replace/-I/-i are mutually ".toList
          ++ "exclusive, ignoring previous --max-args value".toList)
      let (commands, quote?) := (Plan.of given).commands (!given.has 'r') command text
      if let some quote := quote? then
        let name : Text := if quote = '"' then "double" else "single"
        complain "xargs" ("unmatched ".toList ++ name
          ++ " quote; by default quotes are special ".toList
          ++ "to xargs unless you use the -0 option".toList)
      let status ← startAll start (given.has 't') change 0 commands
      return if quote?.isSome then 1 else status

end Batch

end Tool

end Virtual

end Oneshot
