import Oneshot.Virtual.Shell.Pattern

/-!
# Fields

An expanded word is a list of stretches. The characters of unquoted expansions cut it into fields
where they separate, positional parameters come as fields of their own, and all other text stays
whole.

- `fields_whole`: text from the script itself is not cut.
-/

namespace Oneshot

namespace Virtual

namespace Shell

/-- How a stretch of an expanded word is cut into fields. -/
inductive Cut where
  /-- Not at all. -/
  | never
  /-- Where a separator stands. -/
  | atSeparators
  /-- Between the positional parameters. -/
  | betweenParameters
deriving DecidableEq, Repr

/-- An item of an expanded word. -/
inductive Item where
  | glyph (g : Glyph)
  /-- A quotation mark, which makes a field even around nothing. -/
  | mark
deriving DecidableEq, Repr

/-- A stretch of an expanded word. -/
structure Stretch where
  cut : Cut
  items : List Item
deriving DecidableEq, Repr

/-- What stands between positional parameters. No text of a script holds it. -/
def parameterEnd : Char := '\x00'

/-- The items of a text. -/
def itemsOfText (quoted : Bool) (text : Text) : List Item :=
  text.map fun c => .glyph ⟨c, quoted⟩

/-- A stretch that is not cut. -/
def whole (quoted : Bool) (text : Text) : Stretch :=
  ⟨.never, itemsOfText quoted text⟩

/-- The stretch of a value that takes the place of an expansion. -/
def valueStretch (quoted : Bool) (value : Text) : Stretch :=
  ⟨if quoted then .never else .atSeparators, itemsOfText quoted value⟩

/-- The characters of items, with their quotes. -/
def glyphsOf (items : List Item) : List Glyph :=
  items.filterMap fun
    | .glyph g => some g
    | .mark => none

/-- The text of items. -/
def textOfItems (items : List Item) : Text :=
  (glyphsOf items).map (·.char)

/-- The text of stretches. -/
def textOf (stretches : List Stretch) : Text :=
  stretches.flatMap fun s => textOfItems s.items

/-- Where the cutting stands: the fields that are complete, the last of them first; the field that
has begun, in reverse; and whether blanks in front of the next field are skipped. -/
structure Cutting where
  fields : List (List Item)
  current : List Item
  skips : Bool

/-- The cutting behind a complete field. -/
def Cutting.ended (c : Cutting) (skips : Bool) : Cutting :=
  ⟨c.current.reverse :: c.fields, [], skips⟩

/-- A separator that is a blank. -/
def isBlankSeparator (c : Char) : Bool :=
  c == ' ' || c == '\t' || c == '\n' || c == parameterEnd

/-- The cutting behind an item of a stretch that is cut at separators. -/
def cutAt (separates : Char → Bool) (c : Cutting) (item : Item) : Cutting :=
  match item with
  | .mark => ⟨c.fields, item :: c.current, false⟩
  | .glyph g =>
    let isBlank := isBlankSeparator g.char
    if separates g.char then
      if c.skips then ⟨c.fields, c.current, isBlank⟩
      else if isBlank && c.current.isEmpty then ⟨c.fields, [], false⟩
      else c.ended isBlank
    else ⟨c.fields, item :: c.current, false⟩

/-- The cutting behind an item of the positional parameters. -/
def cutBetween (c : Cutting) (item : Item) : Cutting :=
  match item with
  | .glyph ⟨'\x00', _⟩ => c.ended false
  | item => ⟨c.fields, item :: c.current, false⟩

/-- The cutting behind a stretch. -/
def cutStretch (separates : Char → Bool) (c : Cutting) (s : Stretch) : Cutting :=
  let c := { c with skips := false }
  match s.cut with
  | .never => ⟨c.fields, s.items.reverse ++ c.current, false⟩
  | .atSeparators => s.items.foldl (cutAt separates) c
  | .betweenParameters => s.items.foldl cutBetween c

/-- Whether the last stretch that is cut holds the positional parameters. -/
def endsWithParameters (stretches : List Stretch) : Bool :=
  match (stretches.filter (·.cut != .never)).getLast? with
  | some s => s.cut == .betweenParameters
  | none => false

/-- The fields of an expanded word. -/
def fields (separators : Text) (stretches : List Stretch) : List (List Item) :=
  let separates (c : Char) : Bool := separators.contains c || c == parameterEnd
  let c := stretches.foldl (cutStretch separates) ⟨[], [], false⟩
  let c := if endsWithParameters stretches || !c.current.isEmpty then c.ended false else c
  c.fields.reverse

/-- Text from the script itself is not cut. -/
theorem fields_whole (separators : Text) {text : Text} (h : text ≠ []) (quoted : Bool) :
    fields separators [whole quoted text] = [itemsOfText quoted text] := by
  have hi : itemsOfText quoted text ≠ [] := by
    simpa [itemsOfText] using h
  simp [fields, whole, cutStretch, endsWithParameters, Cutting.ended, hi]

/-! ### Fields of a line -/

/-- Where the reading of a line stands: the fields that are complete, the last of them first; the
field that has begun, in reverse; how many fields are left to begin; whether blanks are skipped; and
how much of the last field is kept if nothing else follows. -/
structure Reading where
  fields : List Text
  current : Text
  left : Nat
  skips : Bool
  keep : Option Nat

/-- The reading behind a character that may separate. -/
def readChar (separators : Text) (r : Reading) (c : Char) : Reading :=
  let separates := separators.contains c
  let isBlank := separates && isBlankSeparator c
  let pushed : Reading := { r with current := c :: r.current, skips := false }
  if r.left = 0 then
    if isBlank then { pushed with keep := some (r.keep.getD r.current.length), skips := r.skips }
    else { pushed with keep := if separates && r.skips then r.keep else none }
  else if r.skips then
    if separates then { r with skips := isBlank } else pushed
  else if separates then
    if r.current.isEmpty && isBlank then r
    else if r.left = 1 then
      { pushed with left := 0, keep := some r.current.length, skips := isBlank }
    else
      { r with
        fields := r.current.reverse :: r.fields, current := [], left := r.left - 1
        skips := isBlank }
  else pushed

/-- The first fields of a line of which some stretches may separate; the last field takes what is
left of it. -/
def lineFields (separators : Text) (count : Nat) (stretches : List Stretch) : List Text :=
  let start : Reading := ⟨[], [], count, false, none⟩
  let r := stretches.foldl (fun (r : Reading) (s : Stretch) =>
    let text := textOfItems s.items
    if s.cut = .atSeparators then text.foldl (readChar separators) { r with skips := false }
    else { r with current := text.reverse ++ r.current }) start
  let last := r.current.reverse
  let last := r.keep.elim last last.take
  (if last.isEmpty then r.fields else last :: r.fields).reverse

end Shell

end Virtual

end Oneshot
