import Oneshot.Virtual.Shell.Pattern
import Oneshot.Virtual.Shell.Syntax

/-!
# Regular expressions

An expression matches from a position of a text to others. Of the matches that begin furthest to the
left the longest counts, and inside of it what stands further to the left takes as much as it can.

- `ends_empty`: the empty expression stays where it is.
- `ends_char`: a character goes on by one position.
-/

namespace Oneshot

namespace Virtual

/-- A regular expression. -/
inductive Regex where
  | empty
  | char (c : Char)
  /-- Any character. -/
  | any
  /-- One of some characters, or none of them. -/
  | oneOf (negated : Bool) (members : List Shell.Member)
  | lineStart
  | lineEnd
  | wordStart
  | wordEnd
  /-- The edge of a word, or any other place. -/
  | wordEdge (negated : Bool)
  | sequence (first second : Regex)
  | either (first second : Regex)
  /-- A group, whose match is kept under a number. -/
  | group (number : Nat) (body : Regex)
  /-- At least `least` times, and at most `most?` times. -/
  | repeated (least : Nat) (most? : Option Nat) (body : Regex)
  /-- What a group has matched. -/
  | again (number : Nat)
deriving Repr

namespace Regex

/-- A position in a text: what stands on both sides of it, the front in reverse, and what the groups
have matched, by their first positions and their ends. -/
structure Spot where
  front : Text
  rest : Text
  position : Nat
  groups : List (Nat × Nat × Nat)
deriving DecidableEq, Repr

namespace Spot

/-- The position behind the next character. -/
def next (s : Spot) : Spot :=
  match s.rest with
  | [] => s
  | c :: rest => { s with front := c :: s.front, rest, position := s.position + 1 }

/-- The position behind some characters. -/
def skip : (count : Nat) → Spot → Spot
  | 0, s => s
  | count + 1, s => skip count s.next

/-- The text between two positions, of which the second is at most the one of the spot. -/
def between (s : Spot) (start stop : Nat) : Text :=
  ((s.front.drop (s.position - stop)).take (stop - start)).reverse

/-- What a group has matched. -/
def groupText? (s : Spot) (number : Nat) : Option Text :=
  (List.lookup number s.groups).map fun (start, stop) => s.between start stop

/-- The spot with a group. -/
def keep (s : Spot) (number start : Nat) : Spot :=
  { s with groups := (number, start, s.position) :: s.groups.filter (·.1 != number) }

/-- Whether a letter of a word stands in front. -/
def isBehindWord (s : Spot) : Bool :=
  s.front.head?.any Shell.isNameChar

/-- Whether a letter of a word follows. -/
def isBeforeWord (s : Spot) : Bool :=
  s.rest.head?.any Shell.isNameChar

end Spot

/-- Spots of which no two are at the same position, the first of them kept, and the longest first.
-/
def longestFirst (spots : List Spot) : List Spot :=
  let distinct := spots.foldl (fun kept (s : Spot) =>
    if kept.any fun (t : Spot) => t.position == s.position then kept else s :: kept) []
  distinct.reverse.mergeSort fun a b => b.position ≤ a.position

/-- The spots that `step` reaches from some spots by any number of steps up to `most?`, with those
that were there. Each position is taken once. -/
def closure (step : Spot → List Spot) : (fuel : Nat) → (most? : Option Nat) → List Spot →
    List Spot → List Spot
  | 0, _, seen, _ => seen
  | _, some 0, seen, _ => seen
  | fuel + 1, most?, seen, new =>
    let found := longestFirst (new.flatMap step)
    let fresh := found.filter fun s => !seen.any fun t => t.position == s.position
    if fresh.isEmpty then seen
    else closure step fuel (most?.map (· - 1)) (seen ++ fresh) fresh

/-- The spots that exactly `count` steps reach. -/
def iterate (step : Spot → List Spot) : (count : Nat) → List Spot → List Spot
  | 0, spots => spots
  | count + 1, spots => iterate step count (longestFirst (spots.flatMap step))

/-- Whether a set of characters takes in a character. -/
def takesIn (folds negated : Bool) (members : List Shell.Member) (c : Char) : Bool :=
  let covers (d : Char) : Bool := members.any (·.covers d)
  (covers c || folds && (covers c.toLower || covers c.toUpper)) != negated

/-- The spots at which a match of an expression from a spot may end. Where `folds` is set, capital
and small letters are alike. -/
def ends (folds : Bool) : Regex → Spot → List Spot
  | .empty, s => [s]
  | .char d, s =>
    match s.rest with
    | c :: _ => if c = d || folds && c.toLower == d.toLower then [s.next] else []
    | [] => []
  | .any, s => if s.rest.isEmpty then [] else [s.next]
  | .oneOf negated members, s =>
    match s.rest with
    | c :: _ => if takesIn folds negated members c then [s.next] else []
    | [] => []
  | .lineStart, s => if s.front.isEmpty then [s] else []
  | .lineEnd, s => if s.rest.isEmpty then [s] else []
  | .wordStart, s => if !s.isBehindWord && s.isBeforeWord then [s] else []
  | .wordEnd, s => if s.isBehindWord && !s.isBeforeWord then [s] else []
  | .wordEdge negated, s => if (s.isBehindWord != s.isBeforeWord) != negated then [s] else []
  | .sequence first second, s => longestFirst ((ends folds first s).flatMap (ends folds second))
  | .either first second, s => longestFirst (ends folds first s ++ ends folds second s)
  | .group number body, s => (ends folds body s).map (·.keep number s.position)
  | .repeated least most? body, s =>
    let start := iterate (ends folds body) least [s]
    longestFirst
      (closure (ends folds body) (s.rest.length + 1) (most?.map (· - least)) start start)
  | .again number, s =>
    match s.groupText? number with
    | none => []
    | some text =>
      let same (a b : Char) : Bool := a == b || folds && a.toLower == b.toLower
      if text.length ≤ s.rest.length && (text.zip s.rest).all fun (a, b) => same a b then
        [s.skip text.length]
      else []

/-- A match: where it begins, and the spot at which it ends. -/
structure Match where
  start : Nat
  stop : Spot

namespace Match

/-- The text of a match. -/
def text (m : Match) : Text :=
  m.stop.between m.start m.stop.position

/-- The text of a group of a match; the number zero stands for all of it. -/
def group (m : Match) (number : Nat) : Text :=
  if number = 0 then m.text else (m.stop.groupText? number).getD []

end Match

/-- The first match from a spot on, with at most `fuel` positions tried. -/
def findFrom (r : Regex) (folds : Bool) : (fuel : Nat) → Spot → Option Match
  | 0, _ => none
  | fuel + 1, s =>
    match (r.ends folds { s with groups := [] }).head? with
    | some stop => some ⟨s.position, stop⟩
    | none => if s.rest.isEmpty then none else findFrom r folds fuel s.next

/-- The beginning of a text. -/
def Spot.start (text : Text) : Spot :=
  ⟨[], text, 0, []⟩

/-- The first match in a text. -/
def find? (r : Regex) (folds : Bool) (text : Text) : Option Match :=
  r.findFrom folds (text.length + 1) (.start text)

/-- The longest match that begins where a text begins. -/
def matchStart? (r : Regex) (folds : Bool) (text : Text) : Option Match :=
  (r.ends folds (.start text)).head?.map (⟨0, ·⟩)

/-- All matches from a spot on that do not overlap, with at most `fuel` tries. An empty match right
behind another one does not count. -/
def findAll (r : Regex) (folds : Bool) : (fuel : Nat) → (last? : Option Nat) → Spot → List Match
  | 0, _, _ => []
  | fuel + 1, last?, s =>
    match r.findFrom folds (s.rest.length + 1) s with
    | none => []
    | some m =>
      if m.stop.position = m.start then
        let others :=
          if m.stop.rest.isEmpty then [] else findAll r folds fuel none m.stop.next
        if last? = some m.start then others else m :: others
      else m :: findAll r folds fuel (some m.stop.position) m.stop

/-- All matches in a text that do not overlap. -/
def allMatches (r : Regex) (folds : Bool) (text : Text) : List Match :=
  r.findAll folds (2 * text.length + 2) none (.start text)

/-- The empty expression stays where it is. -/
theorem ends_empty (folds : Bool) (s : Spot) : ends folds .empty s = [s] := rfl

/-- A character goes on by one position. -/
theorem ends_char {c : Char} {s : Spot} {rest : Text} (h : s.rest = c :: rest) :
    ends false (.char c) s = [s.next] := by
  simp [ends, h]

end Regex

end Virtual

end Oneshot
