import Oneshot.Virtual.Regex.Basic

/-!
# How regular expressions are written

There are two ways to write an expression. In the basic one, groups, choices and counts are marked
by backslashes; in the extended one, the bare signs mark them, and a backslash takes their meaning
away. A text is cut into signs first, which are the same for both; from these the expression is
built.

- `build_chars`: signs that are characters make up the sequence of the characters.
-/

namespace Oneshot

namespace Virtual

namespace Regex

/-- Why a text is no expression. -/
inductive Fault where
  | openBracket
  | openGroup
  | strayClose
  | openCount
  | badCount
  | tooBig
  | nothingToRepeat
  | trailingBackslash
  | badBackReference
  | badRange
  | badClass
deriving DecidableEq, Repr

/-- What is said of a text that is no expression. -/
def Fault.message : Fault → Text
  | .openBracket => "Unmatched [, [^, [:, [., or [="
  | .openGroup => "Unmatched ( or \\("
  | .strayClose => "Unmatched ) or \\)"
  | .openCount => "Unmatched \\\x7b"
  | .badCount => "Invalid content of \\\x7b\\\x7d"
  | .tooBig => "Regular expression too big"
  | .nothingToRepeat => "Invalid preceding regular expression"
  | .trailingBackslash => "Trailing backslash"
  | .badBackReference => "Invalid back reference"
  | .badRange => "Invalid range end"
  | .badClass => "Invalid character class name"

/-- A way to write expressions. -/
structure Dialect where
  isExtended : Bool
  /-- Whether a sign that closes no group stands for itself. -/
  allowsStray : Bool
  /-- Whether a backslash and a letter may stand for a control character. -/
  hasControls : Bool

/-- A sign of an expression. -/
inductive Sign where
  | atom (r : Regex)
  | opens | closes | bar
  | count (least : Nat) (most? : Option Nat)
deriving Repr

/-! ### Sets -/

/-- A character between brackets, which a marked name may stand for, and what is left. -/
def readElement (d : Dialect) (s : Text) : Option (Char × Text) :=
  match s with
  | '[' :: '.' :: c :: '.' :: ']' :: rest => some (c, rest)
  | '\\' :: c :: rest =>
    if d.hasControls then
      match c with
      | 'n' => some ('\n', rest)
      | 't' => some ('\t', rest)
      | '\\' => some ('\\', rest)
      | _ => some ('\\', c :: rest)
    else some ('\\', c :: rest)
  | c :: rest => some (c, rest)
  | [] => none

/-- The members of a set behind its first bracket, up to the last one, and what is left. The text
has at most `fuel` characters. -/
def readMembers (d : Dialect) : (fuel : Nat) → (isFirst : Bool) → Text →
    Except Fault (List Shell.Member × Text)
  | 0, _, _ => .error .openBracket
  | _, _, [] => .error .openBracket
  | fuel + 1, isFirst, s =>
    let add (member : Shell.Member) (rest : Text) : Except Fault (List Shell.Member × Text) :=
      (readMembers d fuel false rest).map fun (members, rest) => (member :: members, rest)
    match s with
    | ']' :: rest => if isFirst then element add s else .ok ([], rest)
    | '[' :: ':' :: rest =>
      let name := rest.takeWhile Char.isAlpha
      match rest.drop name.length with
      | ':' :: ']' :: rest =>
        if Shell.classNames.contains (String.ofList name) then add (.named name) rest
        else .error .badClass
      | _ => .error .openBracket
    | '[' :: '=' :: c :: '=' :: ']' :: rest => add (.range c c) rest
    | s => element add s
where
  /-- A character or a range in front. -/
  element (add : Shell.Member → Text → Except Fault (List Shell.Member × Text)) (s : Text) :
      Except Fault (List Shell.Member × Text) :=
    match readElement d s with
    | none => .error .openBracket
    | some (c, '-' :: ']' :: rest) => add (.range c c) ('-' :: ']' :: rest)
    | some (c, '-' :: rest) =>
      match readElement d rest with
      | none => .error .openBracket
      | some (hi, rest) => if hi < c then .error .badRange else add (.range c hi) rest
    | some (c, rest) => add (.range c c) rest

/-- The set behind its first bracket, and what is left. -/
def readSet (d : Dialect) (s : Text) : Except Fault (Regex × Text) :=
  let (negated, s) := match s with
    | '^' :: rest => (true, rest)
    | s => (false, s)
  (readMembers d (s.length + 1) true s).map fun (members, rest) => (.oneOf negated members, rest)

/-! ### Signs -/

/-- A count behind its opening sign, and what is left; `isClosed` takes the closing sign. -/
def readCount (closing s : Text) : Except Fault ((Nat × Option Nat) × Text) :=
  let least := s.takeWhile Char.isDigit
  let s := s.drop least.length
  let (most?, s) : Option Nat × Text := match s with
    | ',' :: t => (natOf? (t.takeWhile Char.isDigit), t.dropWhile Char.isDigit)
    | t => (natOf? least, t)
  if closing.isPrefixOf s then
    let first := natOf least
    if most?.any (· < first) || (least.isEmpty && s.isEmpty) then .error .badCount
    else if 32767 < max first (most?.getD 0) then .error .tooBig
    else .ok ((first, most?), s.drop closing.length)
  else if (Text.cutFirst? closing s).isNone then .error .openCount
  else .error .badCount

/-- The sign of a backslash and a character, if they make one in every dialect. -/
def sharedEscape? (d : Dialect) (c : Char) : Option Sign :=
  let control? : Option Char := if d.hasControls then match c with
      | 'n' => some '\n'
      | 't' => some '\t'
      | 'f' => some '\x0c'
      | 'v' => some '\x0b'
      | 'a' => some '\x07'
      | 'r' => some '\r'
      | _ => none
    else none
  let word : List Shell.Member := [.named "alnum", .range '_' '_']
  match c, control? with
  | _, some control => some (.atom (.char control))
  | 'w', _ => some (.atom (.oneOf false word))
  | 'W', _ => some (.atom (.oneOf true word))
  | 's', _ => some (.atom (.oneOf false [.named "space"]))
  | 'S', _ => some (.atom (.oneOf true [.named "space"]))
  | 'b', _ => some (.atom (.wordEdge false))
  | 'B', _ => some (.atom (.wordEdge true))
  | '<', _ => some (.atom .wordStart)
  | '>', _ => some (.atom .wordEnd)
  | '\'', _ => some (.atom .lineEnd)
  | c, _ =>
    if c.toNat = 0x60 then some (.atom .lineStart)
    else if '1' ≤ c && c ≤ '9' then some (.atom (.again (c.toNat - 48)))
    else none

/-- The sign of a bare character in the extended dialect, or of one behind a backslash in the basic
one. -/
def markSign? (c : Char) : Option Sign :=
  match c with
  | '(' => some .opens
  | ')' => some .closes
  | '|' => some .bar
  | '+' => some (.count 1 none)
  | '?' => some (.count 0 (some 1))
  | _ => none

/-- Whether an expression or a part of it begins behind a sign. -/
def beginsBehind : Option Sign → Bool
  | none | some .opens | some .bar => true
  | _ => false

/-- Whether a sign cannot be repeated: nothing stands there, or the beginning of a line. -/
def isUnrepeatable : Option Sign → Bool
  | some (.atom .lineStart) => true
  | previous? => beginsBehind previous?

/-- The next sign of a text behind another one, and what is left. -/
def nextSign (d : Dialect) (previous? : Option Sign) (c : Char) (rest : Text) :
    Except Fault (Option Sign × Text) :=
  let char (c : Char) (rest : Text) : Except Fault (Option Sign × Text) :=
    .ok (some (.atom (.char c)), rest)
  let repeats (sign : Sign) (rest : Text) : Except Fault (Option Sign × Text) :=
    if !isUnrepeatable previous? then .ok (some sign, rest)
    else if !d.isExtended then char c rest
    else if d.allowsStray then .ok (none, rest)
    else .error .nothingToRepeat
  match c, rest with
  | '\\', [] => .error .trailingBackslash
  | '\\', e :: rest =>
    if !d.isExtended && e = '\x7b' then
      if isUnrepeatable previous? then char e rest
      else
        (readCount ['\\', '\x7d'] rest).map fun ((least, most?), rest) =>
          (some (.count least most?), rest)
    else
      match if d.isExtended then none else markSign? e with
      | some (.count least most?) =>
        if isUnrepeatable previous? then char e rest
        else .ok (some (.count least most?), rest)
      | some sign => .ok (some sign, rest)
      | none =>
        match sharedEscape? d e with
        | some sign => .ok (some sign, rest)
        | none => char e rest
  | '[', rest => (readSet d rest).map fun (set, rest) => (some (.atom set), rest)
  | '.', rest => .ok (some (.atom .any), rest)
  | '*', rest => repeats (.count 0 none) rest
  | '^', rest =>
    if d.isExtended || beginsBehind previous? then .ok (some (.atom .lineStart), rest)
    else char c rest
  | '$', rest =>
    let isLast := rest.isEmpty || "\\)".toList.isPrefixOf rest || "\\|".toList.isPrefixOf rest
    if d.isExtended || isLast then .ok (some (.atom .lineEnd), rest) else char c rest
  | c, rest =>
    if !d.isExtended then char c rest
    else if c = '\x7b' then
      let count :=
        if isUnrepeatable previous? then .error .nothingToRepeat else readCount ['\x7d'] rest
      match count with
      | .ok ((least, most?), rest) => .ok (some (.count least most?), rest)
      | .error fault =>
        if d.allowsStray && fault != .tooBig then char c rest else .error fault
    else
      match markSign? c with
      | some (.count least most?) => repeats (.count least most?) rest
      | some sign => .ok (some sign, rest)
      | none => char c rest

/-- The signs of a text that has at most `fuel` characters. -/
def signsWithin (d : Dialect) : (fuel : Nat) → Option Sign → Text → Except Fault (List Sign)
  | 0, _, _ => .ok []
  | _, _, [] => .ok []
  | fuel + 1, previous?, c :: rest => do
    let (sign?, rest) ← nextSign d previous? c rest
    match sign? with
    | none => signsWithin d fuel previous? rest
    | some sign => return sign :: (← signsWithin d fuel (some sign) rest)

/-! ### Expressions -/

/-- A group that is being built: its number, the choices that are complete, and the parts of the one
that has begun, in reverse. -/
structure Frame where
  number : Nat
  choices? : Option Regex
  parts : List Regex

/-- The expression of parts in reverse. -/
def joinParts : List Regex → Regex
  | [] => .empty
  | [r] => r
  | r :: rest => .sequence (joinParts rest) r

/-- The expression of a group. -/
def Frame.regex (f : Frame) : Regex :=
  let last := joinParts f.parts
  f.choices?.elim last (.either · last)

/-- What is being built: the innermost group, those around it, how many groups have begun, and which
ones are complete. -/
structure Building where
  frame : Frame
  outer : List Frame
  opened : Nat
  closed : List Nat

/-- The building behind a sign. -/
def addSign (allowsStray : Bool) (b : Building) (sign : Sign) : Except Fault Building :=
  let add (b : Building) (r : Regex) : Building :=
    { b with frame := { b.frame with parts := r :: b.frame.parts } }
  match sign with
  | .atom (.again number) =>
    if b.closed.contains number then .ok (add b (.again number)) else .error .badBackReference
  | .atom r => .ok (add b r)
  | .opens =>
    .ok { b with
      frame := ⟨b.opened + 1, none, []⟩, outer := b.frame :: b.outer, opened := b.opened + 1 }
  | .closes =>
    match b.outer with
    | [] => if allowsStray then .ok (add b (.char ')')) else .error .strayClose
    | frame :: outer =>
      let group : Regex := .group b.frame.number b.frame.regex
      .ok (add { b with frame, outer, closed := b.frame.number :: b.closed } group)
  | .bar => .ok { b with frame := { b.frame with choices? := some b.frame.regex, parts := [] } }
  | .count least most? =>
    match b.frame.parts with
    | r :: rest =>
      .ok { b with frame := { b.frame with parts := .repeated least most? r :: rest } }
    | [] => .error .nothingToRepeat

/-- The expression of some signs. -/
def build (allowsStray : Bool) (signs : List Sign) : Except Fault Regex := do
  let b ← signs.foldlM (addSign allowsStray) ⟨⟨0, none, []⟩, [], 0, []⟩
  if b.outer.isEmpty then return b.frame.regex else throw .openGroup

/-- The expression that a text writes. -/
def read (d : Dialect) (text : Text) : Except Fault Regex := do
  build d.allowsStray (← signsWithin d text.length none text)

/-- How many groups an expression has. -/
def groupCount : Regex → Nat
  | .sequence a b | .either a b => groupCount a + groupCount b
  | .group _ body => groupCount body + 1
  | .repeated _ _ body => groupCount body
  | _ => 0

/-- Signs that are characters make up the sequence of the characters. -/
theorem build_chars (allowsStray : Bool) (text : Text) :
    build allowsStray (text.map fun c => .atom (.char c))
      = .ok (joinParts (text.reverse.map .char)) := by
  have h (text : Text) (parts : List Regex) :
      (text.map fun c => Sign.atom (.char c)).foldlM (addSign allowsStray)
          ⟨⟨0, none, parts⟩, [], 0, []⟩
        = .ok ⟨⟨0, none, text.reverse.map .char ++ parts⟩, [], 0, []⟩ := by
    induction text generalizing parts with
    | nil => rfl
    | cons c text ih =>
      simp only [List.map_cons, List.foldlM_cons, addSign]
      change (text.map fun c => Sign.atom (.char c)).foldlM (addSign allowsStray)
          ⟨⟨0, none, .char c :: parts⟩, [], 0, []⟩ = _
      rw [ih]
      simp
  rw [build, h text []]
  simp [Frame.regex]
  rfl

end Regex

end Virtual

end Oneshot
