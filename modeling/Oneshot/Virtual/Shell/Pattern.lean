import Oneshot.Virtual.Raw

/-!
# Patterns of the shell

A pattern is a list of items: characters, one arbitrary character, any text, and classes of
characters. It is read from marked characters, since quoted ones always stand for themselves.

- `matchesItems_chars`: a pattern of plain characters matches that text only.
- `itemsOf_quoted`: quoted characters make a pattern of plain characters.
-/

namespace Oneshot

namespace Virtual

namespace Shell

/-- A character and whether it is quoted. -/
structure Glyph where
  char : Char
  quoted : Bool
deriving DecidableEq, Repr

/-- What a class of characters is made of. -/
inductive Member where
  | range (lo hi : Char)
  | named (name : Text)
deriving DecidableEq, Repr

/-- An item of a pattern. -/
inductive PatternItem where
  | char (c : Char)
  | anyChar
  | anyText
  /-- One of some characters, or none of them. -/
  | oneOf (negated : Bool) (members : List Member)
deriving DecidableEq, Repr

/-- A control character. -/
def isControl (c : Char) : Bool :=
  c < ' ' || c == '\x7f'

/-- A character that prints a mark. -/
def isGraphic (c : Char) : Bool :=
  '!' ≤ c && c ≤ '~'

/-- The names of the classes of characters. -/
def classNames : List String :=
  ["alpha", "digit", "alnum", "upper", "lower", "space", "blank", "cntrl", "graph", "print",
    "punct", "xdigit"]

/-- Whether a character is in the class of a name. -/
def inNamedClass (name : Text) (c : Char) : Bool :=
  match String.ofList name with
  | "alpha" => c.isAlpha
  | "digit" => c.isDigit
  | "alnum" => c.isAlphanum
  | "upper" => c.isUpper
  | "lower" => c.isLower
  | "space" => isSpace c
  | "blank" => c == ' ' || c == '\t'
  | "cntrl" => isControl c
  | "graph" => isGraphic c
  | "print" => isGraphic c || c == ' '
  | "punct" => isGraphic c && !c.isAlphanum
  | "xdigit" => c.isDigit || ('a' ≤ c && c ≤ 'f') || ('A' ≤ c && c ≤ 'F')
  | _ => false

/-- Whether a member of a class takes in a character. -/
def Member.covers : Member → Char → Bool
  | .range lo hi, c => lo ≤ c && c ≤ hi
  | .named name, c => inNamedClass name c

/-- Whether an item matches a single character. -/
def PatternItem.matchesChar : PatternItem → Char → Bool
  | .char d, c => c == d
  | .anyChar, _ => true
  | .anyText, _ => true
  | .oneOf negated members, c => (members.any (·.covers c)) != negated

/-- Whether a text or one of its ends satisfies `p`. -/
def anyEnd (p : Text → Bool) : Text → Bool
  | [] => p []
  | c :: s => p (c :: s) || anyEnd p s

/-- Whether a pattern matches a whole text. -/
def matchesItems : List PatternItem → Text → Bool
  | [], s => s.isEmpty
  | .anyText :: items, s => anyEnd (matchesItems items) s
  | item :: items, c :: s => item.matchesChar c && matchesItems items s
  | _ :: _, [] => false

/-- The name of a class in front, between its marks, and what is left behind it. -/
def className? (glyphs : List Glyph) : Option (Text × List Glyph) :=
  match glyphs with
  | ⟨':', false⟩ :: rest =>
    let name := rest.takeWhile fun g => g.char.isAlpha
    match rest.drop name.length with
    | ⟨':', false⟩ :: ⟨']', false⟩ :: rest => some (name.map (·.char), rest)
    | _ => none
  | _ => none

/-- The members of a class behind its opening bracket, up to the closing one, and what is left. -/
def classMembers : (fuel : Nat) → (isFirst : Bool) → List Glyph →
    Option (List Member × List Glyph)
  | 0, _, _ => none
  | _, _, [] => none
  | fuel + 1, isFirst, ⟨c, quoted⟩ :: rest =>
    if c = ']' ∧ quoted = false ∧ isFirst = false then some ([], rest)
    else
      let named? := if c = '[' ∧ quoted = false then className? rest else none
      match named? with
      | some (name, rest) =>
        (classMembers fuel false rest).map fun (members, rest) => (.named name :: members, rest)
      | none =>
        match rest with
        | ⟨'-', false⟩ :: ⟨hi, hiQuoted⟩ :: behind =>
          if hi = ']' ∧ hiQuoted = false then
            (classMembers fuel false rest).map fun (members, rest) =>
              (.range c c :: members, rest)
          else
            (classMembers fuel false behind).map fun (members, rest) =>
              (.range c hi :: members, rest)
        | rest =>
          (classMembers fuel false rest).map fun (members, rest) => (.range c c :: members, rest)

/-- The items of a pattern that has at most `fuel` characters. -/
def itemsWithin : (fuel : Nat) → List Glyph → List PatternItem
  | 0, _ => []
  | _, [] => []
  | fuel + 1, ⟨c, true⟩ :: rest => .char c :: itemsWithin fuel rest
  | fuel + 1, ⟨c, false⟩ :: rest =>
    if c = '*' then .anyText :: itemsWithin fuel rest
    else if c = '?' then .anyChar :: itemsWithin fuel rest
    else if c = '[' then
      let (negated, inner) := match rest with
        | ⟨'!', false⟩ :: inner => (true, inner)
        | ⟨'^', false⟩ :: inner => (true, inner)
        | inner => (false, inner)
      match classMembers (inner.length + 1) true inner with
      | some (members, rest) => .oneOf negated members :: itemsWithin fuel rest
      | none => .char c :: itemsWithin fuel rest
    else if c = '\\' then
      match rest with
      | d :: rest => .char d.char :: itemsWithin fuel rest
      | [] => [.char c]
    else .char c :: itemsWithin fuel rest

/-- The items of a pattern. -/
def itemsOf (glyphs : List Glyph) : List PatternItem :=
  itemsWithin glyphs.length glyphs

/-- The beginnings of a text, the shortest first. -/
def beginnings (s : Text) : List Text :=
  (List.range (s.length + 1)).map s.take

/-- The text without the shortest or the longest start that the pattern matches. -/
def withoutStart (longest : Bool) (items : List PatternItem) (s : Text) : Text :=
  let candidates := (beginnings s).filter (matchesItems items)
  match if longest then candidates.getLast? else candidates.head? with
  | some start => s.drop start.length
  | none => s

/-- The text without the shortest or the longest end that the pattern matches. -/
def withoutEnd (longest : Bool) (items : List PatternItem) (s : Text) : Text :=
  let candidates := (beginnings s).filter fun start => matchesItems items (s.drop start.length)
  match if longest then candidates.head? else candidates.getLast? with
  | some start => start
  | none => s

/-- A pattern of plain characters matches that text only. -/
theorem matchesItems_chars (t s : Text) : matchesItems (t.map .char) s = true ↔ s = t := by
  induction t generalizing s with
  | nil => simp [matchesItems]
  | cons c t ih =>
    cases s with
    | nil => simp [matchesItems]
    | cons d s => simp [matchesItems, PatternItem.matchesChar, ih]

/-- Quoted characters make a pattern of plain characters. -/
theorem itemsOf_quoted (t : Text) : itemsOf (t.map fun c => ⟨c, true⟩) = t.map .char := by
  have h (n : Nat) (t : Text) (hn : t.length ≤ n) :
      itemsWithin n (t.map fun c => ⟨c, true⟩) = t.map .char := by
    induction t generalizing n with
    | nil => cases n <;> simp [itemsWithin]
    | cons c t ih =>
      cases n with
      | zero => simp at hn
      | succ n => simp [itemsWithin, ih n (Nat.le_of_succ_le_succ hn)]
  simpa [itemsOf] using h t.length t (Nat.le_refl _)

end Shell

end Virtual

end Oneshot
