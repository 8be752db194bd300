import Oneshot.Text.Blank

/-!
# Use lines

A use line of one line is read as a prefix and the items it imports. `use a::b::C;` has the prefix
`a::b::` and the item `C`, `use a::{B, C};` has the prefix `a::` and two items. Nested groups and
whatever else goes over one line are not read, and are left alone.

- `without_eq_self`: a line that imports nothing of the set stays as it is.
-/

namespace Oneshot

/-- A use line that has been read. -/
structure UseLine where
  pathPrefix : Text
  items : List Text
deriving DecidableEq, Repr

namespace UseLine

/-- Reads the tree of a use line, which is what stands between `use ` and the semicolon. -/
def ofTree? (tree : Text) : Option UseLine :=
  if !tree.contains '\x7b' then
    if tree.contains '\x7d' || tree.isEmpty then none
    else
      match Text.cutLast? [':', ':'] tree with
      | some (before, leaf) => some ⟨before ++ [':', ':'], [Text.singleSpaced leaf]⟩
      | none => some ⟨[], [Text.singleSpaced tree]⟩
  else
    let pathPrefix := tree.takeWhile (· != '\x7b')
    let group := (tree.dropWhile (· != '\x7b')).drop 1
    match group.getLast? with
    | some '\x7d' =>
      let inner := group.dropLast
      if inner.contains '\x7b' || inner.contains '\x7d' then none
      else
        some ⟨Text.trim pathPrefix,
          ((Text.splitAt ',' inner).map Text.singleSpaced).filter fun item => !item.isEmpty⟩
    | _ => none

/-- Reads a line. -/
def ofLine? (line : Text) : Option UseLine :=
  let content := Text.trim line
  if "use ".toList.isPrefixOf content && content.getLast? == some ';' then
    ofTree? (Text.trim ((content.drop 4).dropLast))
  else none

/-- The path that an item imports: `self` stands for the prefix itself. -/
def pathOfItem (pathPrefix item : Text) : Text :=
  if item == "self".toList then Text.dropEnd [':', ':'] pathPrefix else pathPrefix ++ item

/-- The paths that a use line imports. -/
def paths (u : UseLine) : List Text :=
  u.items.map (pathOfItem u.pathPrefix)

/-- The line that imports `items` as one group. -/
def render (u : UseLine) : Text :=
  "use ".toList ++ u.pathPrefix ++ ['\x7b'] ++ Text.join [',', ' '] u.items ++ ['\x7d', ';']

/-- The paths that the lines import, line by line. -/
def pathsOf (lines : List Text) : List Text :=
  lines.flatMap fun line => ((ofLine? line).map paths).getD []

/-- The line without the items whose paths are in `imported`: unchanged if it has none of them,
nothing if it has no others. -/
def without (imported : List Text) (line : Text) : Option Text :=
  match ofLine? line with
  | none => some line
  | some u =>
    let remaining := u.items.filter fun item => !imported.elem (pathOfItem u.pathPrefix item)
    if remaining.length = u.items.length then some line
    else if remaining.isEmpty then none
    else some (render ⟨u.pathPrefix, remaining⟩)

/-- A line that imports nothing of the set stays as it is. -/
theorem without_eq_self {imported : List Text} {line : Text}
    (h : ∀ u, ofLine? line = some u → ∀ path ∈ u.paths, path ∉ imported) :
    without imported line = some line := by
  unfold without
  cases hu : ofLine? line with
  | none => rfl
  | some u =>
    have hf : (u.items.filter fun item => !imported.elem (pathOfItem u.pathPrefix item))
        = u.items :=
      List.filter_eq_self.2 fun item hi => by
        simpa using h u hu _ (List.mem_map_of_mem hi)
    simp only
    rw [if_pos (by rw [hf])]

end UseLine

end Oneshot
