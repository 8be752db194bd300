import Oneshot.Toml.Number
import Oneshot.Toml.Tree

/-!
# TOML documents

A document is a list of statements, each on a line of its own: an entry, a header that opens a
table, or a header that opens one more table of a list. Entries go into the table that the last
header has opened. The result is a table of values that keeps the order in which the keys came.

- `read_nil`: the empty document is the empty table.
-/

namespace Oneshot

namespace Toml

mutual

/-- The value that stands here. Values are nested at most `fuel` deep. -/
def readValue (fuel : Nat) (s : Text) : Reading Value :=
  match fuel with
  | 0 => .stop .invalidValue s
  | fuel + 1 =>
    match readString? s with
    | some r => r.map .text
    | none =>
      match s with
      | 't' :: 'r' :: 'u' :: 'e' :: rest => .ok ⟨.bool true, rest⟩
      | 'f' :: 'a' :: 'l' :: 's' :: 'e' :: rest => .ok ⟨.bool false, rest⟩
      | '[' :: rest =>
        match skipGaps false rest with
        | .error e => .error e
        | .ok (']' :: rest) => .ok ⟨.list [], rest⟩
        | .ok rest => (readItems fuel rest).map .list
      | '\x7b' :: rest =>
        match skipBlanks rest with
        | '\x7d' :: rest => .ok ⟨.table [], rest⟩
        | rest => (readInline fuel [] rest).map fun b => .table (valuesOf b)
      | _ =>
        match readMoment? s with
        | some r => r
        | none =>
          match readNumber? s with
          | some r => r
          | none => .stop .invalidValue s
termination_by structural fuel

/-- The items of a list from the next one on, up to its closing bracket. -/
def readItems (fuel : Nat) (s : Text) : Reading (List Value) :=
  match fuel with
  | 0 => .stop .unclosedArray s
  | fuel + 1 =>
    match readValue fuel s with
    | .error e => .error e
    | .ok item =>
      match skipGaps false item.rest with
      | .error e => .error e
      | .ok (']' :: rest) => .ok ⟨[item.value], rest⟩
      | .ok (',' :: rest) =>
        match skipGaps false rest with
        | .error e => .error e
        | .ok (']' :: rest) => .ok ⟨[item.value], rest⟩
        | .ok rest => (readItems fuel rest).map (item.value :: ·)
      | .ok rest => .stop .unclosedArray rest
termination_by structural fuel

/-- The entries of an inline table from the next one on, added to those in front, up to its closing
brace. -/
def readInline (fuel : Nat) (branch : Branch) (s : Text) : Reading Branch :=
  match fuel with
  | 0 => .stop .unclosedTable s
  | fuel + 1 =>
    match readEntry fuel s with
    | .error e => .error e
    | .ok entry =>
      match branch.put entry.value.2 entry.value.1 with
      | .error defect => .stop defect entry.rest
      | .ok branch =>
        match skipBlanks entry.rest with
        | '\x7d' :: rest => .ok ⟨branch, rest⟩
        | ',' :: rest => readInline fuel branch (skipBlanks rest)
        | rest => .stop .unclosedTable rest
termination_by structural fuel

/-- A key and its value. -/
def readEntry (fuel : Nat) (s : Text) : Reading (List Text × Value) :=
  match fuel with
  | 0 => .stop .invalidStatement s
  | fuel + 1 =>
    match readKey s with
    | .error e => .error e
    | .ok key =>
      match key.rest with
      | '=' :: rest => (readValue fuel (skipBlanks rest)).map (key.value, ·)
      | rest => .stop .missingEquals rest
termination_by structural fuel

end

/-- The tree read so far and the header in force. -/
structure Progress where
  branch : Branch
  header : List Text

/-- The progress after a header, which ends in as many brackets as it began with. -/
def readHeader (isItem : Bool) (branch : Branch) (s : Text) : Reading Progress :=
  match readKey (skipBlanks s) with
  | .error e => .error e
  | .ok key =>
    let last := key.value.getLast?.getD []
    let opened := if isItem then Branch.openItem last else Branch.openTable last
    match branch.modifyAt opened key.value.dropLast with
    | .error defect => .stop defect key.rest
    | .ok branch =>
      match isItem, key.rest with
      | false, ']' :: rest => .ok ⟨⟨branch, key.value⟩, rest⟩
      | true, ']' :: ']' :: rest => .ok ⟨⟨branch, key.value⟩, rest⟩
      | _, rest => .stop .unclosedHeader rest

/-- The progress after the statement that stands here. A line may hold none. -/
def readStatement (progress : Progress) (s : Text) : Reading Progress :=
  match s with
  | [] => .ok ⟨progress, s⟩
  | '[' :: '[' :: rest => readHeader true progress.branch rest
  | '[' :: rest => readHeader false progress.branch rest
  | c :: _ =>
    if c = '\n' ∨ c = '#' then .ok ⟨progress, s⟩
    else if isBareKeyChar c ∨ c = '"' ∨ c = '\'' then
      match readEntry (2 * s.length + 2) s with
      | .error e => .error e
      | .ok entry =>
        match progress.branch.modifyAt (Branch.put entry.value.2 entry.value.1) progress.header with
        | .error defect => .stop defect entry.rest
        | .ok branch => .ok ⟨{ progress with branch }, entry.rest⟩
    else .stop .invalidStatement s

/-- The tree after all statements; there are at most `fuel` lines. -/
def readStatements : (fuel : Nat) → Progress → Text → Except Fault Branch
  | 0, progress, _ => .ok progress.branch
  | fuel + 1, progress, s =>
    match readStatement progress (skipBlanks s) with
    | .error e => .error e
    | .ok r =>
      match skipComment (skipBlanks r.rest) with
      | .error e => .error e
      | .ok [] => .ok r.value.branch
      | .ok ('\n' :: rest) => readStatements fuel r.value rest
      | .ok rest => .error ⟨.missingLineEnd, rest.length⟩

/-- The text with each pair of CR and LF as one LF. -/
def joinLineEnds : Text → Text
  | '\r' :: '\n' :: s => '\n' :: joinLineEnds s
  | c :: s => c :: joinLineEnds s
  | [] => []

/-- The table that a document denotes. -/
def read (document : Text) : Except Fault Entries :=
  let source := joinLineEnds document
  (readStatements (source.length + 1) ⟨[], []⟩ source).map valuesOf

theorem read_nil : read [] = .ok [] := by
  simp [read, joinLineEnds, readStatements, readStatement, skipBlanks, skipComment, Except.map,
    valuesOf]

end Toml

end Oneshot
