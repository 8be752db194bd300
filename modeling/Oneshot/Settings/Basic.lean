import Oneshot.Path
import Oneshot.Snippet.Policy

/-!
# Settings

What one run is configured with: the policy for snippets, how the compiler is called, what the
runner prints, and whether its errors are raised instead of reported.
-/

namespace Oneshot

/-- How the compiler is called. -/
structure ToolchainSettings where
  compiler : Text
  scratchDir : Path
  codegenFlags : List Text
deriving DecidableEq, Repr

/-- Whether the compiler is asked for colour. -/
inductive ColorChoice where
  /-- Colour if standard error is a terminal. -/
  | auto
  | always
  | never
deriving DecidableEq, Repr

/-- The words for the choices. -/
def ColorChoice.word : ColorChoice → Text
  | .auto => "auto"
  | .always => "always"
  | .never => "never"

/-- What the runner itself prints. -/
structure OutputSettings where
  verbose : Bool
  emoji : Bool
  color : Bool
  compilerColor : ColorChoice
  showExpanded : Bool
deriving DecidableEq, Repr

/-- The settings of one run. -/
structure Settings where
  policy : Policy
  toolchain : ToolchainSettings
  output : OutputSettings
  raiseErrors : Bool
deriving DecidableEq, Repr

/-- How the compiler is called where nothing else is configured. -/
def ToolchainSettings.default : ToolchainSettings where
  compiler := "rustc"
  scratchDir := Path.ofText "temp"
  codegenFlags := ["prefer-dynamic", "debuginfo=0"]

/-- What is printed where nothing else is configured. -/
def OutputSettings.default : OutputSettings where
  verbose := false
  emoji := true
  color := true
  compilerColor := .auto
  showExpanded := false

/-- The settings where nothing else is configured. -/
def Settings.default : Settings where
  policy := .default
  toolchain := .default
  output := .default
  raiseErrors := false

end Oneshot
