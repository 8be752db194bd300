import Oneshot.Text.Basic

/-!
# Similar words

How alike two words are: find the longest common run, then do the same with what stands before it
and what stands after it, and count the characters matched in all. Two words are close when twice
that count is at least three fifths of their lengths together. A mistyped option is answered with
the options close to it.
-/

namespace Oneshot

namespace Text

/-- The length of the longest common start of two texts. -/
def commonStart : Text → Text → Nat
  | a :: as, b :: bs => if a = b then commonStart as bs + 1 else 0
  | _, _ => 0

/-- A longest common run of `a` and `b`, as its places in both and its length: the earliest in `a`,
and of those the earliest in `b`. -/
def longestRun (a b : Text) : Nat × Nat × Nat :=
  (List.range a.length).foldl (fun best i =>
    (List.range b.length).foldl (fun (best : Nat × Nat × Nat) j =>
      let n := commonStart (a.drop i) (b.drop j)
      if best.2.2 < n then (i, j, n) else best) best) (0, 0, 0)

/-- How many characters are matched; `fuel` bounds the number of runs taken one inside another. -/
def matchedWithin : (fuel : Nat) → Text → Text → Nat
  | 0, _, _ => 0
  | fuel + 1, a, b =>
    let (i, j, n) := longestRun a b
    if n = 0 then 0
    else
      n + matchedWithin fuel (a.take i) (b.take j)
        + matchedWithin fuel (a.drop (i + n)) (b.drop (j + n))

/-- How many characters of the two words are matched. -/
def matched (a b : Text) : Nat :=
  matchedWithin a.length a b

/-- Whether two words are alike enough to suggest one for the other. -/
def isClose (a b : Text) : Bool :=
  3 * (a.length + b.length) ≤ 10 * matched a b

/-- Whether `a` is more like `word` than `b` is, or as much and later in the order of texts. -/
def isCloserThan (word a b : Text) : Bool :=
  let here := matched a word * (b.length + word.length)
  let there := matched b word * (a.length + word.length)
  there < here || (there == here && !(a < b : Bool))

/-- How many words are suggested at most. -/
def suggestionLimit : Nat := 3

/-- The candidates close to `word`, the closest first. -/
def closeTo (word : Text) (candidates : List Text) : List Text :=
  ((candidates.filter (isClose · word)).mergeSort (isCloserThan word)).take suggestionLimit

end Text

end Oneshot
