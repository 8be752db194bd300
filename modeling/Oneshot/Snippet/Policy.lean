import Oneshot.Text.Basic

/-!
# Policy

The table of rules by which a snippet is read. Every rule is a literal text: markers of an entry
point, triggers of standard imports, the keyword of a crate declaration, the starts of the lines
that stay in front of the body, and the indent of the body.
-/

namespace Oneshot

/-- Import lines that are needed as soon as the trigger occurs in a snippet. -/
structure Trigger where
  pattern : Text
  lines : List Text
deriving DecidableEq, Repr

/-- The rules by which a snippet is read. -/
structure Policy where
  /-- A snippet in which one of these occurs has an entry point of its own. -/
  entryMarkers : List Text
  /-- The standard imports, in the order in which they are emitted. -/
  triggers : List Trigger
  /-- What stands in front of the name of a declared crate. -/
  declarationKeyword : Text
  /-- The starts of comment lines. -/
  commentStarts : List Text
  /-- The starts of import lines. -/
  importStarts : List Text
  /-- Whether a crate declaration in front of the body stays there. -/
  declarationsPassThrough : Bool
  /-- What each line of the body is indented by. -/
  indent : Text
deriving DecidableEq, Repr

namespace Policy

/-- The rules in force where nothing else is configured. -/
def default : Policy where
  entryMarkers := ["fn main"]
  triggers := [
    ⟨"File::", ["use std::fs::File;", "use std::io::prelude::*;"]⟩,
    ⟨"env::", ["use std::env;"]⟩,
    ⟨"PathBuf::", ["use std::path::PathBuf;"]⟩,
    ⟨"HashMap::", ["use std::collections::HashMap;"]⟩]
  declarationKeyword := "extern crate"
  commentStarts := ["//"]
  importStarts := ["use "]
  declarationsPassThrough := true
  indent := "    "

instance : Inhabited Policy := ⟨default⟩

end Policy

end Oneshot
