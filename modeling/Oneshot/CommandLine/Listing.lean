import Oneshot.Text.Lowercase

/-!
# The order of options on a help page

Options are listed by their first long name, or by their first name where they have no long one, or
by the name of what they set; dashes in front and case do not count.
-/

namespace Oneshot

namespace CommandLine

/-- What is known of a parameter of a command. -/
structure Parameter where
  /-- Its names, those that switch on before those that switch off. -/
  names : List Text
  /-- The name of what it sets. -/
  target : Option Text
deriving DecidableEq, Repr

/-- The key by which a parameter is listed. -/
def Parameter.listingKey (p : Parameter) : Text :=
  let name :=
    match p.names.find? ("--".toList.isPrefixOf ·), p.names with
    | some long, _ => long
    | none, first :: _ => first
    | none, [] => p.target.getD []
  Text.lower (name.dropWhile (· == '-'))

end CommandLine

end Oneshot
