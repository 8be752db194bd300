import Oneshot.Platform
import Oneshot.Settings.Basic

/-!
# Scratch paths

The program for a script is written below a scratch directory, at a place that follows the path of
the script: relative to the working directory where the script lies below it, without anchor
otherwise, and without `.` and `..`. The executable stands beside it.

- `place_eq_none`: when a script has no place below the scratch directory.
-/

namespace Oneshot

/-- The program of a script as it is written and the executable that is built from it. -/
structure Artifact where
  source : Path
  executable : Path
deriving DecidableEq, Repr

namespace Scratch

/-- A part that the place of a script keeps. -/
def isKept (part : Text) : Bool :=
  part != ['.'] && part != ['.', '.']

/-- A script's path without its anchor: relative to the working directory where it lies below it. -/
def unanchored (script workDir : Path) : Path :=
  if script.isAbsolute then (script.below? workDir).getD ⟨[], script.parts⟩ else script

/-- The place of a script below a scratch directory, unless no part of its path can be kept. -/
def place? (script workDir : Path) : Option Path :=
  let parts := (unanchored script workDir).parts.filter isKept
  if parts.isEmpty then none else some ⟨[], parts⟩

/-- Where the program of a script and its executable are written. -/
def paths? (script workDir : Path) (toolchain : ToolchainSettings) (platform : Platform) :
    Option Artifact :=
  (place? script workDir).map fun place =>
    let source := (workDir.join toolchain.scratchDir).join place
    ⟨source, source.withExtension platform.executableExtension⟩

/-- A script has no place below the scratch directory when no part of its path can be kept. -/
theorem place_eq_none {script workDir : Path} :
    place? script workDir = none
      ↔ ∀ part ∈ (unanchored script workDir).parts, isKept part = false := by
  simp only [place?]
  split
  · next h => simpa using h
  · next h => simpa using h

end Scratch

end Oneshot
