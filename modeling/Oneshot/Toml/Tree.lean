import Oneshot.Settings.Value
import Oneshot.Toml.Basic

/-!
# The tree of a TOML document

Statements add to a tree of tables. A table remembers how it came about, because a header may open a
table only once, and a dotted key may not reach into a table that a header has opened. Values that
stand in one statement, inline tables among them, are leaves: nothing can be added to them later.

- `put_self`: a key under which something stands is refused.
-/

namespace Oneshot

namespace Toml

/-- How a table has come about. -/
inductive Origin where
  /-- On the way to a table that a header has opened. -/
  | passedByHeader
  /-- By a header of its own. -/
  | header
  /-- On the way of a dotted key. -/
  | dottedKey
deriving DecidableEq, Repr

/-- What stands under a key. -/
inductive Node where
  | leaf (value : Value)
  | table (origin : Origin) (entries : List (Text × Node))
  /-- A list of tables that headers have opened; only the last of them is still open. -/
  | tables (closed : List Value) (entries : List (Text × Node))

/-- A table of the tree. -/
abbrev Branch := List (Text × Node)

mutual

/-- The value that a node stands for. -/
def Node.value (node : Node) : Value :=
  match node with
  | .leaf v => v
  | .table _ entries => .table (valuesOf entries)
  | .tables closed entries => .list (closed ++ [.table (valuesOf entries)])
termination_by structural node

/-- The values that the nodes of a table stand for. -/
def valuesOf (entries : List (Text × Node)) : Entries :=
  match entries with
  | [] => []
  | entry :: rest => valueOf entry :: valuesOf rest
termination_by structural entries

/-- The value that an entry stands for. -/
def valueOf (entry : Text × Node) : Text × Value :=
  match entry with
  | (key, node) => (key, node.value)
termination_by structural entry

end

namespace Branch

/-- What stands under a key. -/
def find? (key : Text) : Branch → Option Node
  | [] => none
  | (k, node) :: rest => if k = key then some node else find? key rest

/-- The table with `node` under `key`, in the place of the key or at the end. -/
def set (key : Text) (node : Node) : Branch → Branch
  | [] => [(key, node)]
  | (k, old) :: rest => if k = key then (k, node) :: rest else (k, old) :: set key node rest

/-- The table in which a value stands under a dotted key. -/
def put (value : Value) : (key : List Text) → Branch → Except Defect Branch
  | [], _ => .error .invalidKey
  | [last], branch =>
    match branch.find? last with
    | none => .ok (branch.set last (.leaf value))
    | some _ => .error .alreadyDefined
  | part :: parts, branch =>
    match branch.find? part with
    | none => (put value parts []).map fun b => branch.set part (.table .dottedKey b)
    | some (.table .header _) => .error .alreadyDefined
    | some (.table _ b) => (put value parts b).map fun b => branch.set part (.table .dottedKey b)
    | some _ => .error .alreadyDefined

/-- The table changed by `f` in the table that a header names. Tables that are missing on the way
are added, and a list of tables stands for its last one. -/
def modifyAt (f : Branch → Except Defect Branch) : (header : List Text) → Branch →
    Except Defect Branch
  | [], branch => f branch
  | part :: parts, branch =>
    match branch.find? part with
    | none => (modifyAt f parts []).map fun b => branch.set part (.table .passedByHeader b)
    | some (.table origin b) => (modifyAt f parts b).map fun b => branch.set part (.table origin b)
    | some (.tables closed b) =>
      (modifyAt f parts b).map fun b => branch.set part (.tables closed b)
    | some (.leaf _) => .error .alreadyDefined

/-- The table in which a header opens a table under one key. -/
def openTable (key : Text) (branch : Branch) : Except Defect Branch :=
  match branch.find? key with
  | none => .ok (branch.set key (.table .header []))
  | some (.table .passedByHeader b) => .ok (branch.set key (.table .header b))
  | some _ => .error .alreadyDefined

/-- The table in which a header opens one more table of a list. -/
def openItem (key : Text) (branch : Branch) : Except Defect Branch :=
  match branch.find? key with
  | none => .ok (branch.set key (.tables [] []))
  | some (.tables closed b) => .ok (branch.set key (.tables (closed ++ [.table (valuesOf b)]) []))
  | some _ => .error .alreadyDefined

/-- A key under which something stands is refused. -/
theorem put_self {key : Text} {branch : Branch} {node : Node} (h : branch.find? key = some node)
    (value : Value) : branch.put value [key] = .error .alreadyDefined := by
  simp [put, h]

end Branch

end Toml

end Oneshot
