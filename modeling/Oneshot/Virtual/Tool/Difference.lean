import Oneshot.Virtual.Raw

/-!
# Differences of texts

Two texts are compared line by line: the longest row of lines that both have in the same order
stays, and what is left makes up the changes, each with what goes and what comes at one place.

- `commonSteps_self`: of two equal rows every line stays.
-/

namespace Oneshot

namespace Virtual

namespace Tool

namespace Difference

/-- What happens to a line on the way from the first text to the second. -/
inductive Step where
  | stays
  | goes
  | comes
deriving DecidableEq, Repr

/-- The lengths of the longest common rows of `line :: a` and all ends of `b`, from those of `a`. -/
def nextLengths (line : Text) : List Text → List Nat → List Nat
  | c :: b, below :: more =>
    let rest := nextLengths line b more
    let diagonal := more.headD 0
    (if c = line then diagonal + 1 else max below (rest.headD 0)) :: rest
  | _, _ => [0]

/-- The lengths of the longest common rows of each end of `a` and each end of `b`, the longest ends
first. -/
def lengths (b : List Text) : List Text → List (List Nat)
  | [] => [List.replicate (b.length + 1) 0]
  | line :: a =>
    let rest := lengths b a
    nextLengths line b (rest.headD []) :: rest

/-- The steps from one row of lines to another, by the lengths of their common rows. -/
def commonSteps : (a b : List Text) → List (List Nat) → List Step
  | [], b, _ => b.map fun _ => .comes
  | a, [], _ => a.map fun _ => .goes
  | x :: a, y :: b, table =>
    if x = y then .stays :: commonSteps a b ((table.drop 1).map (·.drop 1))
    else
      let below := ((table.drop 1).headD []).headD 0
      let beside := ((table.headD []).drop 1).headD 0
      if beside ≤ below then .goes :: commonSteps a (y :: b) (table.drop 1)
      else .comes :: commonSteps (x :: a) b (table.map (·.drop 1))
  termination_by a b => a.length + b.length

/-- Of two equal rows every line stays. -/
theorem commonSteps_self (a : List Text) (table : List (List Nat)) :
    commonSteps a a table = a.map fun _ => .stays := by
  induction a generalizing table with
  | nil => simp [commonSteps]
  | cons x a ih => simp [commonSteps, ih]

/-- The steps from one row of lines to another one that keep as many lines as possible. -/
def stepsBetween (a b : List Text) : List Step :=
  commonSteps a b (lengths b a)

/-- A change: where it begins in both texts, counted from zero, and what goes and comes there. -/
structure Change where
  oldStart : Nat
  newStart : Nat
  gone : List Text
  come : List Text
deriving Repr

/-- A change with one line more in front. -/
def Change.add (change? : Option Change) (oldStart newStart : Nat) (gone come : List Text) :
    Change :=
  match change? with
  | none => ⟨oldStart, newStart, gone, come⟩
  | some c => ⟨oldStart, newStart, gone ++ c.gone, come ++ c.come⟩

/-- The changes that some steps make, from positions on. The first of them begins at once or not at
all, and is kept apart. -/
def changesOf : (oldStart newStart : Nat) → (a b : List Text) → List Step →
    Option Change × List Change
  | i, j, _ :: a, _ :: b, .stays :: steps =>
    let (first?, rest) := changesOf (i + 1) (j + 1) a b steps
    (none, first?.toList ++ rest)
  | i, j, x :: a, b, .goes :: steps =>
    let (first?, rest) := changesOf (i + 1) j a b steps
    (some (Change.add first? i j [x] []), rest)
  | i, j, a, y :: b, .comes :: steps =>
    let (first?, rest) := changesOf i (j + 1) a b steps
    (some (Change.add first? i j [] [y]), rest)
  | _, _, _, _, _ => (none, [])

/-- The changes from one row of lines to another. Lines are compared by what `key` makes of them. -/
def changes (key : Text → Text) (a b : List Text) : List Change :=
  let (first?, rest) := changesOf 0 0 a b (stepsBetween (a.map key) (b.map key))
  first?.toList ++ rest

/-! ### Printing -/

/-- A line behind a sign. One without a line end is marked. -/
def signed (sign line : Text) : Text :=
  if line.getLast? = some '\n' then sign ++ line
  else sign ++ line ++ "\n\\ No newline at end of file\n".toList

/-- The numbers of the first and the last of some lines. -/
def rangeText (start count : Nat) : Text :=
  if count ≤ 1 then Text.ofNat (start + count)
  else Text.ofNat (start + 1) ++ ',' :: Text.ofNat (start + count)

/-- A change as commands of an editor would be numbered. -/
def Change.plain (c : Change) : Text :=
  let letter := if c.gone.isEmpty then 'a' else if c.come.isEmpty then 'd' else 'c'
  let head := rangeText c.oldStart c.gone.length ++ letter :: rangeText c.newStart c.come.length
  head ++ '\n' :: c.gone.flatMap (signed "< ".toList)
    ++ (if letter = 'c' then "---\n".toList else [])
    ++ c.come.flatMap (signed "> ".toList)

/-- Changes that are printed together since little stands between them. -/
def clusters (context : Nat) : List Change → List (List Change)
  | [] => []
  | c :: rest =>
    match clusters context rest with
    | (d :: more) :: others =>
      if d.oldStart - (c.oldStart + c.gone.length) ≤ 2 * context then (c :: d :: more) :: others
      else [c] :: (d :: more) :: others
    | others => [c] :: others

/-- Where a section begins and how long it is. -/
def sectionText (start count : Nat) : Text :=
  if count = 1 then Text.ofNat (start + 1)
  else Text.ofNat (if count = 0 then start else start + 1) ++ ',' :: Text.ofNat count

/-- The lines of a section behind a position of the first text: those between changes and those that
go and come. -/
def sectionLines (a : List Text) (stop : Nat) : (position : Nat) → List Change → Text
  | position, [] => ((a.drop position).take (stop - position)).flatMap (signed [' '])
  | position, c :: rest =>
    ((a.drop position).take (c.oldStart - position)).flatMap (signed [' '])
      ++ c.gone.flatMap (signed ['-']) ++ c.come.flatMap (signed ['+'])
      ++ sectionLines a stop (c.oldStart + c.gone.length) rest

/-- A section: changes with the lines around them. -/
def unified (context : Nat) (a : List Text) (cluster : List Change) : Text :=
  match cluster.head?, cluster.getLast? with
  | some first, some last =>
    let front := min context first.oldStart
    let start := first.oldStart - front
    let stop := min a.length (last.oldStart + last.gone.length + context)
    let growth : Int := cluster.foldl (fun n c => n + c.come.length - c.gone.length) 0
    let count : Int := ((stop - start : Nat) : Int) + growth
    "@@ -".toList ++ sectionText start (stop - start) ++ " +".toList
      ++ sectionText (first.newStart - front) count.toNat ++ " @@\n".toList
      ++ sectionLines a stop start cluster
  | _, _ => []

end Difference

end Tool

end Virtual

end Oneshot
