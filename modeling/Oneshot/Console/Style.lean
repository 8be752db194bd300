import Oneshot.Text.Basic

/-!
# Styles

How a piece of a line looks on a terminal. A style is written as an escape sequence in front of the
text and a reset behind it. A terminal without colour keeps the other attributes.

- `paint_plain`: without escape sequences a piece is its text.
-/

namespace Oneshot

namespace Console

/-- The colours of a terminal. -/
inductive Color where
  | red
  | green
  | yellow
  | blue
  | magenta
  | cyan
deriving DecidableEq, Repr

/-- The code of a colour. -/
def Color.code : Color → Nat
  | .red => 31
  | .green => 32
  | .yellow => 33
  | .blue => 34
  | .magenta => 35
  | .cyan => 36

/-- The name of a colour. -/
def Color.name : Color → Text
  | .red => "red"
  | .green => "green"
  | .yellow => "yellow"
  | .blue => "blue"
  | .magenta => "magenta"
  | .cyan => "cyan"

/-- The look of a piece of text. -/
structure Style where
  bold : Bool
  dim : Bool
  color : Option Color
deriving DecidableEq, Repr

namespace Style

/-- The look of text that nothing is said about. -/
def plain : Style := ⟨false, false, none⟩

/-- A style laid over another: its colour wins. -/
def under (base top : Style) : Style :=
  ⟨base.bold || top.bold, base.dim || top.dim, top.color <|> base.color⟩

/-- The words that describe a style. -/
def description (s : Style) : Text :=
  Text.join [' '] ((if s.bold then ["bold".toList] else [])
    ++ (if s.dim then ["dim".toList] else []) ++ (s.color.map Color.name).toList)

/-- The codes of a style. -/
def codes (s : Style) : List Nat :=
  (if s.bold then [1] else []) ++ (if s.dim then [2] else []) ++ (s.color.map Color.code).toList

end Style

/-- What a device makes of styles. -/
inductive Rendering where
  /-- Text alone. -/
  | plain
  /-- All attributes but colour. -/
  | monochrome
  /-- All attributes. -/
  | color
deriving DecidableEq, Repr

/-- The text with the escape sequences of a style around it. -/
def paint (rendering : Rendering) (style : Style) (text : Text) : Text :=
  let codes :=
    match rendering with
    | .plain => []
    | .monochrome => { style with color := none }.codes
    | .color => style.codes
  if codes.isEmpty || text.isEmpty then text
  else
    ['\x1b', '['] ++ Text.join [';'] (codes.map Text.ofNat) ++ ['m'] ++ text
      ++ ['\x1b', '[', '0', 'm']

/-- Without escape sequences a piece is its text. -/
theorem paint_plain (style : Style) (text : Text) : paint .plain style text = text := by
  simp [paint]

end Console

end Oneshot
