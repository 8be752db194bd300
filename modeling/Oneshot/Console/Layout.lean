import Oneshot.Console.Style
import Oneshot.Text.Columns

/-!
# Printed lines

A message is printed as styled pieces. Some control characters are removed from each piece, and a
tab becomes blanks up to the next multiple of eight columns of its line. Nothing is wrapped or cut
off. Styles do not reach across the end of a line, and a styled piece also ends behind a tab.

- `clean_clean`: cleaning twice is cleaning once.
- `render_singleton`: one clean piece of a single line without tabs, on a plain device, is printed
  as it is.
-/

namespace Oneshot

namespace Console

/-- A piece of a message and its style. -/
structure Piece where
  text : Text
  style : Style
deriving DecidableEq, Repr

/-- The control characters that no console is given: BEL, BS, VT, FF and CR. -/
def isRemoved (c : Char) : Bool :=
  [0x07, 0x08, 0x0B, 0x0C, 0x0D].elem c.toNat

/-- The text without the control characters that no console is given. -/
def clean (s : Text) : Text :=
  s.filter (!isRemoved ·)

/-- The lines of some pieces. A line end between two pieces, or within one, separates two lines. -/
def linesOf : List Piece → List (List Piece)
  | [] => [[]]
  | piece :: rest =>
    let after := linesOf rest
    match (Text.splitAt '\n' piece.text).map (⟨·, piece.style⟩ : Text → Piece) with
    | [] => after
    | parts =>
      parts.dropLast.map (fun p => [p])
        ++ ((parts.getLast?.toList ++ after.headD []) :: after.drop 1)

/-- The parts of a text, each of which ends with a tab, except that the last one need not. -/
def tabParts : Text → List Text
  | [] => []
  | c :: s =>
    if c = '\t' then [c] :: tabParts s
    else
      match tabParts s with
      | [] => [[c]]
      | part :: parts => (c :: part) :: parts

/-- The pieces of a line, each cut behind its tabs. -/
def cutAtTabs (line : List Piece) : List Piece :=
  line.flatMap fun piece => (tabParts piece.text).map (⟨·, piece.style⟩)

/-- The distance between two places to which a tab leads. -/
def tabWidth : Nat := 8

/-- The pieces of a line with their tabs replaced by blanks. They are cut behind tabs already;
`column` is where the text `part`, which no tab has ended yet, begins. -/
def expandTabs (column : Nat) (part : Text) : List Piece → List Piece
  | [] => []
  | piece :: rest =>
    if piece.text.getLast? = some '\t' then
      let text := piece.text.dropLast ++ [' ']
      let reached := column + columns (part ++ text)
      let missing := (tabWidth - reached % tabWidth) % tabWidth
      ⟨text ++ List.replicate missing ' ', piece.style⟩ :: expandTabs (reached + missing) [] rest
    else piece :: expandTabs column (part ++ piece.text) rest

/-- One line as a device shows it. -/
def renderLine (rendering : Rendering) (line : List Piece) : Text :=
  (expandTabs 0 [] (cutAtTabs line)).flatMap fun piece => paint rendering piece.style piece.text

/-- A message as a device shows it, with a line end behind it. -/
def render (rendering : Rendering) (pieces : List Piece) : Text :=
  let lines := linesOf (pieces.map fun piece => { piece with text := clean piece.text })
  Text.join ['\n'] (lines.map (renderLine rendering)) ++ ['\n']

/-- Cleaning twice is cleaning once. -/
theorem clean_clean (s : Text) : clean (clean s) = clean s := by
  simp [clean]

theorem tabParts_of_not_mem {s : Text} (h : '\t' ∉ s) :
    tabParts s = if s = [] then [] else [s] := by
  induction s with
  | nil => rfl
  | cons c cs ih =>
    simp only [List.mem_cons, not_or] at h
    have hc : c ≠ '\t' := fun e => h.1 e.symm
    rw [tabParts, ih h.2]
    by_cases hcs : cs = [] <;> simp [hc, hcs]

/-- One clean piece of a single line without tabs is printed as it is on a plain device. -/
theorem render_singleton {s : Text} (hc : ∀ c ∈ s, isRemoved c = false) (hn : '\n' ∉ s)
    (ht : '\t' ∉ s) (style : Style) : render .plain [⟨s, style⟩] = s ++ ['\n'] := by
  have hclean : clean s = s := List.filter_eq_self.2 fun c h => by simp [hc c h]
  have hlast : s.getLast? ≠ some '\t' := fun h => ht (List.mem_of_getLast? h)
  simp only [render, List.map_cons, List.map_nil, hclean, linesOf, Text.splitAt_of_not_mem hn]
  by_cases hs : s = []
  · subst hs
    rfl
  · simp [renderLine, cutAtTabs, tabParts_of_not_mem ht, hs, expandTabs, hlast, paint_plain,
      Text.join]

end Console

end Oneshot
