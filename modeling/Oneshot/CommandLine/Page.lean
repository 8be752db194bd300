import Oneshot.Host.Request
import Oneshot.Text.Numeral

/-!
# Pages

A page is set in lines of a given width. Text is filled into lines word by word; a word may also be
divided behind a hyphen that stands between two letters on either side. A list of definitions has
two columns, and what is too long for the right one goes on below its beginning.

- `fill_flatten`: filling loses no word and changes no order.
-/

namespace Oneshot

namespace CommandLine

/-! ### The width of a page -/

/-- The columns of a terminal of which the environment says nothing. -/
def usualColumns : Nat := 80

/-- The columns that the environment gives a terminal. -/
def terminalColumns (vars : Variables) : Nat :=
  match (vars.get? "COLUMNS").map Text.wholeNumber with
  | some (.ok n) => if 0 < n then n.toNat else usualColumns
  | _ => usualColumns

/-- The width of a page: two columns less than the terminal has, but not below 50. Wide terminals
count as usual ones. -/
def pageWidth (vars : Variables) : Nat :=
  max (min (terminalColumns vars) usualColumns - 2) 50

/-! ### Filling lines -/

/-- A piece of text that stays on one line, and whether a blank stands in front of it where it does
not begin a line. -/
structure Chunk where
  isSpaced : Bool
  text : Text
deriving DecidableEq, Repr

/-- The parts of a word behind which it may be divided. `before` is what has been read of the
current part, in reverse. -/
def divideWord (before : Text) : Text → List Text
  | [] => if before.isEmpty then [] else [before.reverse]
  | '-' :: c :: d :: rest =>
    if (before.take 2).length = 2 ∧ (before.take 2).all Char.isAlpha ∧ c.isAlpha ∧ d.isAlpha then
      ('-' :: before).reverse :: divideWord [] (c :: d :: rest)
    else divideWord ('-' :: before) (c :: d :: rest)
  | c :: rest => divideWord (c :: before) rest

/-- The chunks of a text. -/
def chunksOf (s : Text) : List Chunk :=
  (Text.words s).flatMap fun word =>
    match divideWord [] word with
    | [] => []
    | first :: rest => ⟨true, first⟩ :: rest.map (⟨false, ·⟩)

/-- A line with a chunk at its end. -/
def withChunk (line : Text) (chunk : Chunk) : Text :=
  if line.isEmpty then chunk.text
  else if chunk.isSpaced then line ++ ' ' :: chunk.text
  else line ++ chunk.text

/-- The lines of some chunks, none longer than `width` unless a single chunk is. `line` is the line
that has begun. -/
def fillFrom (width : Nat) (line : Text) : List Chunk → List Text
  | [] => if line.isEmpty then [] else [line]
  | chunk :: rest =>
    if line.isEmpty || (withChunk line chunk).length ≤ width then
      fillFrom width (withChunk line chunk) rest
    else line :: fillFrom width chunk.text rest

/-- The lines of a text. -/
def fill (width : Nat) (s : Text) : List Text :=
  fillFrom width [] (chunksOf s)

/-- Two columns: the entries on the left are padded to the longest of them. -/
def definitions (width : Nat) (entries : List (Text × Text)) : List Text :=
  let first := (entries.map (·.1.length)).foldl max 0 + 2
  entries.flatMap fun (left, right) =>
    match fill (max (width - first - 2) 10) right with
    | [] => [[' ', ' '] ++ left]
    | line :: more =>
      ([' ', ' '] ++ left ++ List.replicate (first - left.length) ' ' ++ line)
        :: more.map (List.replicate (first + 2) ' ' ++ ·)

/-! ### Shortened texts -/

/-- The words of the first sentence, if it takes at most `limit` characters behind the `taken` that
stand in front. -/
def sentenceWithin (limit : Nat) (taken : Nat) : List Text → Option (List Text)
  | [] => some []
  | word :: rest =>
    let taken := taken + word.length + (if taken = 0 then 0 else 1)
    if limit < taken then none
    else if word.getLast? = some '.' then some [word]
    else if taken = limit ∧ rest ≠ [] then none
    else (sentenceWithin limit taken rest).map (word :: ·)

/-- The words that fit in front of an ellipsis. -/
def wordsWithin (limit : Nat) (taken : Nat) : List Text → List Text
  | [] => []
  | word :: rest =>
    let taken := taken + word.length + (if taken = 0 then 0 else 1)
    if limit < taken + 3 then [] else word :: wordsWithin limit taken rest

/-- The first sentence of a text, or as many of its words as fit in front of an ellipsis. -/
def shortened (limit : Nat) (s : Text) : Text :=
  match sentenceWithin limit 0 (Text.words s) with
  | some sentence => Text.join [' '] sentence
  | none => Text.join [' '] (wordsWithin limit 0 (Text.words s)) ++ "...".toList

/-! ### Nothing is lost -/

theorem fillFrom_flatten (width : Nat) (line : Text) (chunks : List Chunk) :
    ((fillFrom width line chunks).flatten).filter (· != ' ')
      = (line ++ chunks.flatMap Chunk.text).filter (· != ' ') := by
  induction chunks generalizing line with
  | nil =>
    by_cases h : line = []
    · simp [fillFrom, h]
    · simp [fillFrom, h]
  | cons chunk rest ih =>
    have hw : (withChunk line chunk).filter (· != ' ')
        = (line ++ chunk.text).filter (· != ' ') := by
      unfold withChunk
      split
      · next h => simp_all
      · split <;> simp
    rw [fillFrom]
    split
    · rw [ih, List.filter_append, hw]
      simp
    · simp [ih]

/-- Filling loses no word and changes no order. -/
theorem fill_flatten (width : Nat) (s : Text) :
    ((fill width s).flatten).filter (· != ' ')
      = ((chunksOf s).flatMap Chunk.text).filter (· != ' ') := by
  simpa only [fill, List.nil_append] using fillFrom_flatten width [] (chunksOf s)

end CommandLine

end Oneshot
