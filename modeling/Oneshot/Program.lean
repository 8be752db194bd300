import Oneshot.Snippet.Analysis
import Oneshot.Snippet.Division
import Oneshot.Snippet.UseLine

/-!
# Programs

The program that is compiled for a snippet. A snippet with an entry point of its own is compiled as
it stands. Any other is wrapped: prelude, missing imports and the lines in front come first, then a
fallible function that holds the indented body, then an entry point that calls it.

`ofSnippet` writes the program and `unwrap` reads the body back out of one. The two meet in the
lines between the header and the last footer.

- `text_ofSnippet_of_hasEntryPoint`: a snippet with an entry point is unchanged.
- `strip_indented`: removing one indent undoes indenting.
-/

namespace Oneshot

/-- The program for a snippet, and whether it wraps the snippet. -/
structure Program where
  text : Text
  wrapped : Bool
deriving DecidableEq, Repr

namespace Program

/-- The prelude of a new cache. -/
def defaultPrelude : Text :=
  Text.ended [
    "#[allow(unused_imports)]",
    "use std::error::Error;",
    "#[allow(unused_imports)]",
    "use std::fmt::\x7bDebug, Display\x7d;",
    "#[allow(unused_imports)]",
    "use std::io::Write;",
    "",
    "#[allow(unused_macros)]",
    "macro_rules! debug \x7b",
    "    ($x:expr) => \x7b",
    "        println!(\"\x7b\x7d = \x7b:?\x7d\", stringify!($x), $x)",
    "    \x7d;",
    "\x7d"]

/-- The line that opens the fallible function. -/
def header : Text :=
  "fn run() -> Result<(), Box<dyn std::error::Error>> \x7b"

/-- The lines that end the fallible function with success, before they are indented. -/
def footer : List Text :=
  [";", "Ok(())"]

/-- The line that closes the fallible function. -/
def closing : Text :=
  "\x7d"

/-- The entry point of a wrapped program. -/
def entryPoint : Text :=
  Text.ended [
    "fn main() \x7b",
    "    if let Err(err) = run() \x7b",
    "        eprintln!(\"error: \x7b\x7d\", err);",
    "        std::process::exit(1);",
    "    \x7d",
    "\x7d"]

/-- The lines in front that the prelude does not make superfluous. -/
def keptFront (prelude : Text) (front : List Text) : List Text :=
  front.filterMap (UseLine.without (UseLine.pathsOf (Text.lines prelude)))

/-- The import lines of the analysis that neither the prelude nor the lines in front provide, as a
line or path by path. -/
def lackingImports (analysis : Analysis) (prelude : Text) (front : List Text) : List Text :=
  let present := (Text.lines prelude ++ front).map Text.trim
  let imported := UseLine.pathsOf (Text.lines prelude ++ front)
  analysis.importLines.filter fun line =>
    let paths := UseLine.pathsOf [line]
    !(present.elem (Text.trim line) || (!paths.isEmpty && paths.all imported.elem))

/-- The lines of the program that stand before the header. -/
def preamble (policy : Policy) (analysis : Analysis) (prelude text : Text) : List Text :=
  let front := keptFront prelude (Snippet.divide policy text).front
  Text.lines prelude ++ lackingImports analysis prelude front ++ front

/-- The lines of the wrapped program before its entry point. -/
def wrappedLines (policy : Policy) (analysis : Analysis) (prelude text : Text) : List Text :=
  preamble policy analysis prelude text ++ [header]
    ++ (Snippet.divide policy text).body.map (policy.indent ++ ·)
    ++ footer.map (policy.indent ++ ·) ++ [closing, []]

/-- The program for a snippet with the given analysis. -/
def ofSnippet (policy : Policy) (analysis : Analysis) (prelude text : Text) : Program :=
  if analysis.hasEntryPoint then ⟨text, false⟩
  else
    ⟨Text.join ['\n'] (wrappedLines policy analysis prelude text) ++ ['\n'] ++ entryPoint, true⟩

/-- The lines before the last place at which `final` occurs among the lines, if it occurs. -/
def beforeLast? (final : List Text) : List Text → Option (List Text)
  | [] => if final.isEmpty then some [] else none
  | line :: lines =>
    match beforeLast? final lines with
    | some before => some (line :: before)
    | none => if final.isPrefixOf (line :: lines) then some [] else none

/-- The body of the wrapper in a program: the lines between the first header and the last footer
behind it, each without one indent. There is none if the program holds no such wrapper. -/
def unwrap (policy : Policy) (program : Text) : Option (List Text) :=
  match (Text.lines program).dropWhile (· != header) with
  | [] => none
  | _ :: rest =>
    (beforeLast? (footer.map (policy.indent ++ ·)) rest).map fun body =>
      body.map (Text.dropStart policy.indent)

/-- A snippet with an entry point is compiled as it stands. -/
theorem text_ofSnippet_of_hasEntryPoint {analysis : Analysis} (policy : Policy)
    (prelude text : Text) (h : analysis.hasEntryPoint = true) :
    ofSnippet policy analysis prelude text = ⟨text, false⟩ := by
  simp [ofSnippet, h]

/-- Removing one indent undoes indenting. -/
theorem strip_indented (indent : Text) (lines : List Text) :
    (lines.map (indent ++ ·)).map (Text.dropStart indent) = lines := by
  have h : ∀ line, Text.dropStart indent (indent ++ line) = line := fun line => by
    simp [Text.dropStart]
  simp [Function.comp_def, h]

end Program

end Oneshot
