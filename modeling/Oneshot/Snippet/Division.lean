import Oneshot.Snippet.Policy
import Oneshot.Text.Blank
import Oneshot.Text.Line

/-!
# Division of a snippet

The lines in front of the body are those that stay at the top level of the program: blank lines,
comments, imports and, if the policy says so, crate declarations. The first line of another kind
begins the body, which then goes on to the end whatever its lines hold.

- `front_append_body`: the two parts together are the lines of the snippet.
-/

namespace Oneshot

namespace Snippet

/-- Whether a line may stand in front of the body. -/
def isFrontLine (policy : Policy) (line : Text) : Bool :=
  let content := Text.trim line
  content.isEmpty
    || policy.commentStarts.any (·.isPrefixOf content)
    || policy.importStarts.any (·.isPrefixOf content)
    || (policy.declarationsPassThrough && policy.declarationKeyword.isPrefixOf content)

/-- A snippet in two parts. -/
structure Division where
  /-- The lines that stay in front. -/
  front : List Text
  /-- The lines that are wrapped. -/
  body : List Text
deriving DecidableEq, Repr

/-- The lines of a snippet, divided where its body begins. -/
def divide (policy : Policy) (text : Text) : Division where
  front := (Text.lines text).takeWhile (isFrontLine policy)
  body := (Text.lines text).dropWhile (isFrontLine policy)

/-- No line is lost or moved. -/
theorem front_append_body (policy : Policy) (text : Text) :
    (divide policy text).front ++ (divide policy text).body = Text.lines text :=
  List.takeWhile_append_dropWhile

end Snippet

end Oneshot
