import Oneshot.Virtual.Tool.Awk.Token

/-!
# Matching in programs about records

The expressions of programs are extended ones in which every part has something to match. They find
places in texts, cut texts into pieces, and replace what they match.

- `replacement_plain`: what has neither ampersands nor backslashes stands for itself.
-/

namespace Oneshot

namespace Virtual

namespace Tool

namespace Awk

/-! ### Expressions -/

/-- A character of an expression that stands for itself, written as a set. -/
def literal (c : Char) : Text :=
  "[[.".toList ++ c :: ".]]".toList

/-- The text in which no backslash stands in a set, and elsewhere only in front of signs. -/
def plainSets : (fuel : Nat) → (inSet : Bool) → Text → Text
  | 0, _, s => s
  | _, _, [] => []
  | fuel + 1, false, '[' :: '^' :: ']' :: rest => "[^]".toList ++ plainSets fuel true rest
  | fuel + 1, false, '[' :: ']' :: rest => "[]".toList ++ plainSets fuel true rest
  | fuel + 1, false, '[' :: rest => '[' :: plainSets fuel true rest
  | fuel + 1, true, ']' :: rest => ']' :: plainSets fuel false rest
  | fuel + 1, true, '[' :: ':' :: rest =>
    let name := rest.takeWhile (· != ']')
    "[:".toList ++ name ++ [']'] ++ plainSets fuel true (rest.drop (name.length + 1))
  | fuel + 1, true, '\\' :: c :: rest =>
    match escapeIn (c :: rest) with
    | ([d], rest) => "[.".toList ++ d :: ".]".toList ++ plainSets fuel true rest
    | _ => "[.".toList ++ c :: ".]".toList ++ plainSets fuel true rest
  | fuel + 1, false, '\\' :: c :: rest =>
    match escapeIn (c :: rest) with
    | ([d], rest) => literal d ++ plainSets fuel false rest
    | _ => literal c ++ plainSets fuel false rest
  | fuel + 1, inSet, c :: rest => c :: plainSets fuel inSet rest

/-- Whether some part of an expression has nothing to match. `isOpen` says that nothing stands in
front of the signs yet. -/
def lacksOperand : (isOpen : Bool) → List Regex.Sign → Bool
  | isOpen, [] => isOpen
  | _, .atom _ :: rest => lacksOperand false rest
  | _, .opens :: rest => lacksOperand true rest
  | isOpen, .bar :: rest => isOpen || lacksOperand true rest
  | isOpen, .closes :: rest => isOpen || lacksOperand false rest
  | isOpen, .count _ _ :: rest => isOpen || lacksOperand false rest

/-- How expressions are written in programs about records. -/
def dialect : Regex.Dialect :=
  ⟨true, true, true⟩

/-- What is said of a text that is no expression. -/
def regexMessage (source : Text) (fault : Regex.Fault) : Text :=
  let cause : Text := match fault with
    | .openGroup => "missing ')'"
    | .nothingToRepeat => "missing operand"
    | _ => "bad class -- [], [^] or ["
  "regular expression compile failed (".toList ++ cause ++ ")\n".toList ++ source

/-- The expression of a text, or what is said if it is none. -/
def readRegex (source : Text) : Except Text Regex :=
  let plain := plainSets (source.length + 1) false source
  let strict := Regex.signsWithin { dialect with allowsStray := false } plain.length none plain
  let signs := Regex.signsWithin dialect plain.length none plain
  let lacks := match strict, signs with
    | .error .nothingToRepeat, _ => true
    | _, .ok signs => !source.isEmpty && lacksOperand true signs
    | _, _ => false
  match Regex.read dialect plain with
  | .error fault => .error (regexMessage source fault)
  | .ok regex => if lacks then .error (regexMessage source .nothingToRepeat) else .ok regex

/-! ### Places and pieces -/

/-- Where an expression matches: the position, counted from one, and the length. -/
def placeOfMatch (regex : Regex) (s : Text) : Option (Nat × Nat) :=
  (regex.find? false s).map fun m => (m.start + 1, m.text.length)

/-- Whether an expression matches somewhere in a text. -/
def matchesIn (regex : Regex) (s : Text) : Bool :=
  (placeOfMatch regex s).isSome

/-- The pieces of a text between the matches of an expression that are not empty. -/
def piecesBetween (regex : Regex) (s : Text) : List Text :=
  let found := (regex.allMatches false s).filter fun m => !m.text.isEmpty
  let (pieces, last) := found.foldl (fun (pieces, position) m =>
    ((s.drop position).take (m.start - position) :: pieces, m.stop.position)) (([] : List Text), 0)
  (s.drop last :: pieces).reverse

/-! ### Replacing -/

/-- What takes the place of a match: an ampersand stands for the match, unless a backslash hides
it. -/
def replacement (found : Text) : Text → Text
  | '\\' :: '\\' :: '&' :: rest => '\\' :: found ++ replacement found rest
  | '\\' :: '&' :: rest => '&' :: replacement found rest
  | '&' :: rest => found ++ replacement found rest
  | c :: rest => c :: replacement found rest
  | [] => []

/-- A text whose matches have been replaced, behind a position. -/
def replaceAll (template s : Text) : (position : Nat) → List Regex.Match → Text
  | position, [] => s.drop position
  | position, m :: rest =>
    (s.drop position).take (m.start - position) ++ replacement m.text template
      ++ replaceAll template s m.stop.position rest

/-- Replaces the first match of an expression or all of them, and tells how many. -/
def substitute (isGlobal : Bool) (regex : Regex) (template s : Text) : Nat × Text :=
  let found := if isGlobal then regex.allMatches false s else (regex.find? false s).toList
  (found.length, replaceAll template s 0 found)

/-- What has neither ampersands nor backslashes stands for itself. -/
theorem replacement_plain {found template : Text}
    (h : ∀ c ∈ template, c ≠ '&' ∧ c ≠ '\\') : replacement found template = template := by
  induction template with
  | nil => rfl
  | cons c rest ih =>
    simp only [List.mem_cons, forall_eq_or_imp] at h
    simp [replacement, h.1.1, h.1.2, ih h.2]

end Awk

end Tool

end Virtual

end Oneshot
