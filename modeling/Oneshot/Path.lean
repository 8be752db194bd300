import Oneshot.Text.Basic

/-!
# Paths

A path is an anchor and a list of parts. Reading a path drops empty parts and `.` parts; `..` is
kept, because what it stands for is known to the file system alone. Two leading slashes are an
anchor of their own, three or more count as one. Replacing the extension can leave a last part `.`
or `..`, which is why a part is any text.

- `ofText_text`: a path whose parts are proper names is read back from its text.
- `join_of_anchor`: joining a path that has an anchor replaces the path on the left.
-/

namespace Oneshot

/-- A path: an anchor (`/`, `//` or none) and its parts. -/
structure Path where
  anchor : Text
  parts : List Text
deriving DecidableEq, Repr

namespace Path

/-- The parts that reading keeps. -/
def isKept (part : Text) : Bool :=
  !part.isEmpty && part != ['.']

/-- The anchor of a path text. -/
def anchorOf (s : Text) : Text :=
  let slashes := (s.takeWhile (· == '/')).length
  if slashes = 0 then [] else if slashes = 2 then ['/', '/'] else ['/']

/-- The path that a text denotes. -/
def ofText (s : Text) : Path :=
  ⟨anchorOf s, (Text.splitAt '/' s).filter isKept⟩

/-- The text of a path; the path with neither anchor nor parts is `.`. -/
def text (p : Path) : Text :=
  if p.anchor.isEmpty && p.parts.isEmpty then ['.']
  else p.anchor ++ Text.join ['/'] p.parts

/-- Whether the path has an anchor. -/
def isAbsolute (p : Path) : Bool :=
  !p.anchor.isEmpty

/-- The path `q` taken from `p`: an anchored `q` replaces `p`. -/
def join (p q : Path) : Path :=
  if q.isAbsolute then ⟨q.anchor, q.parts.filter isKept⟩
  else ⟨p.anchor, p.parts ++ q.parts.filter isKept⟩

/-- The path one name below `p`, or wherever the name, read as a path, leads. -/
def child (p : Path) (name : Text) : Path :=
  p.join (ofText name)

/-- The path without its last part; a path without parts is its own parent. -/
def parent (p : Path) : Path :=
  ⟨p.anchor, p.parts.dropLast⟩

/-- The last part, or nothing. -/
def name (p : Path) : Text :=
  p.parts.getLast?.getD []

/-- The place of the last dot of a name that has something on both of its sides, as the number of
characters from the dot to the end. -/
def extensionLength (name : Text) : Nat :=
  let after := (name.reverse.takeWhile (· != '.')).length
  if after = 0 ∨ name.length ≤ after + 1 then 0 else after + 1

/-- The extension of a name, with its dot: what follows the last dot, unless the name begins or
ends with that dot. -/
def extensionOf (name : Text) : Text :=
  name.drop (name.length - extensionLength name)

/-- The extension of the last part. -/
def extension (p : Path) : Text :=
  extensionOf p.name

/-- The path whose last part has `ext` in place of its extension. -/
def withExtension (p : Path) (ext : Text) : Path :=
  ⟨p.anchor, p.parts.dropLast ++ [p.name.take (p.name.length - extensionLength p.name) ++ ext]⟩

/-- The rest of an anchored path below `base`, if `base` has the same anchor and its parts come
first. -/
def below? (p base : Path) : Option Path :=
  if p.anchor == base.anchor && base.parts.isPrefixOf p.parts then
    some ⟨[], p.parts.drop base.parts.length⟩
  else none

/-! ### Reading and writing -/

/-- A part that reading keeps and that holds no separator. -/
def IsName (part : Text) : Prop :=
  isKept part = true ∧ '/' ∉ part

/-- The anchors that reading yields. -/
def IsAnchor (anchor : Text) : Prop :=
  anchor = [] ∨ anchor = ['/'] ∨ anchor = ['/', '/']

theorem takeWhile_slash_join {names : List Text} (h : ∀ n ∈ names, IsName n) :
    (Text.join ['/'] names).takeWhile (· == '/') = [] := by
  cases names with
  | nil => rfl
  | cons n rest =>
    obtain ⟨hk, hs⟩ := h n (by simp)
    cases n with
    | nil => simp [isKept] at hk
    | cons c cs =>
      have hc : c ≠ '/' := fun e => hs (by simp [e])
      cases rest <;> simp [Text.join, hc]

/-- A path whose parts are names is read back from its text. -/
theorem ofText_text {p : Path} (ha : IsAnchor p.anchor) (h : ∀ n ∈ p.parts, IsName n) :
    ofText p.text = p := by
  obtain ⟨anchor, parts⟩ := p
  simp only at ha h
  have hf : parts.filter isKept = parts := List.filter_eq_self.2 fun n hn => (h n hn).1
  have hsplit : (Text.splitAt '/' (Text.join ['/'] parts)).filter isKept = parts := by
    by_cases hp : parts = []
    · subst hp; decide
    · rw [Text.splitAt_join hp fun n hn => (h n hn).2, hf]
  rcases ha with rfl | rfl | rfl
  · by_cases hp : parts = []
    · subst hp; decide
    · have ht : text ⟨[], parts⟩ = Text.join ['/'] parts := by simp [text, hp]
      have hn : anchorOf (Text.join ['/'] parts) = [] := by
        simp only [anchorOf, takeWhile_slash_join h]; rfl
      rw [ht, ofText, hn, hsplit]
  · have ht : text ⟨['/'], parts⟩ = '/' :: Text.join ['/'] parts := by simp [text]
    have hn : anchorOf ('/' :: Text.join ['/'] parts) = ['/'] := by
      simp [anchorOf, takeWhile_slash_join h]
    have hsp : Text.splitAt '/' ('/' :: Text.join ['/'] parts)
        = [] :: Text.splitAt '/' (Text.join ['/'] parts) := by simp [Text.splitAt]
    rw [ht, ofText, hn, hsp, List.filter_cons_of_neg (by decide), hsplit]
  · have ht : text ⟨['/', '/'], parts⟩ = '/' :: '/' :: Text.join ['/'] parts := by simp [text]
    have hn : anchorOf ('/' :: '/' :: Text.join ['/'] parts) = ['/', '/'] := by
      simp [anchorOf, takeWhile_slash_join h]
    have hsp : Text.splitAt '/' ('/' :: '/' :: Text.join ['/'] parts)
        = [] :: [] :: Text.splitAt '/' (Text.join ['/'] parts) := by simp [Text.splitAt]
    rw [ht, ofText, hn, hsp, List.filter_cons_of_neg (by decide),
      List.filter_cons_of_neg (by decide), hsplit]

/-- Joining a path that has an anchor replaces the path on the left. -/
theorem join_of_anchor {q : Path} (p : Path) (h : q.isAbsolute = true) :
    p.join q = ⟨q.anchor, q.parts.filter isKept⟩ := by
  simp [join, h]

end Path

end Oneshot
