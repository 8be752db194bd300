import Oneshot.Snippet.Policy
import Oneshot.Text.Blank
import Oneshot.Text.Word

/-!
# Analysis of a snippet

Nothing here reads Rust. Each fact is a literal occurrence, so a trigger inside a comment or a
string literal counts as well. The crates are found by one scan from left to right: at each
occurrence of the keyword that does not continue a word, the name that follows is read, and the
scan goes on behind it.

- `readName_eq`: what a name that has been read says about the text.
- `scanFrom_skip`: passing over characters changes nothing but the place.
-/

namespace Oneshot

/-- Why the crate declared at a place cannot be read. -/
inductive DeclarationDefect where
  /-- No name follows the keyword. -/
  | noName
  /-- The name runs to the end of the text. -/
  | unterminated
deriving DecidableEq, Repr

/-- A declaration that cannot be read: the keyword, its offset in code points and the defect. -/
structure DeclarationError where
  keyword : Text
  offset : Nat
  defect : DeclarationDefect
deriving DecidableEq, Repr

/-- The wording of a declaration error. -/
def DeclarationError.message (e : DeclarationError) : Text :=
  match e.defect with
  | .noName =>
    "'".toList ++ e.keyword ++ "' at offset ".toList ++ Text.ofNat e.offset
      ++ " is not followed by a crate name".toList
  | .unterminated =>
    "'".toList ++ e.keyword ++ "' at offset ".toList ++ Text.ofNat e.offset
      ++ ": crate name runs to end of input".toList

/-- The facts about one snippet. -/
structure Analysis where
  /-- Whether the snippet defines its entry point itself. -/
  hasEntryPoint : Bool
  /-- The triggers that occur, in the order of the policy. -/
  imports : List Trigger
  /-- The declared crates in the order of their declarations, repeats kept. -/
  crates : List Text
deriving DecidableEq, Repr

namespace Analysis

/-- The lines of every needed import, each once, at its first place. -/
def importLines (a : Analysis) : List Text :=
  Text.firsts (a.imports.flatMap Trigger.lines)

end Analysis

namespace Snippet

/-- Whether an entry-point marker occurs in the text. -/
def hasEntryPoint (policy : Policy) (text : Text) : Bool :=
  policy.entryMarkers.any fun marker => Text.occursIn marker text

/-- The triggers of the policy that occur in the text. -/
def neededImports (policy : Policy) (text : Text) : List Trigger :=
  policy.triggers.filter fun trigger => Text.occursIn trigger.pattern text

/-- A name and the text behind it. -/
structure NameRead where
  name : Text
  rest : Text
deriving DecidableEq, Repr

/-- Reads the name at the start of what follows a keyword. Blanks in front of it are skipped, and it
has to be followed by another character. -/
def readName (s : Text) : Except DeclarationDefect NameRead :=
  let start := Text.trimStart s
  let name := start.takeWhile isWordChar
  let rest := start.dropWhile isWordChar
  if name.isEmpty then .error .noName
  else if rest.isEmpty then .error .unterminated
  else .ok ⟨name, rest⟩

/-- Scans the text from the given offset on. `skip` characters are passed over first, and `inWord`
says whether the character in front of the text is a word character. -/
def scanFrom (keyword : Text) : (skip : Nat) → (inWord : Bool) → (offset : Nat) → Text →
    Except DeclarationError (List Text)
  | _, inWord, offset, [] =>
    if keyword.isEmpty && !inWord then .error ⟨keyword, offset, .noName⟩ else .ok []
  | skip + 1, _, offset, c :: cs => scanFrom keyword skip (isWordChar c) (offset + 1) cs
  | 0, inWord, offset, c :: cs =>
    if keyword.isPrefixOf (c :: cs) && !inWord then
      match readName ((c :: cs).drop keyword.length) with
      | .error defect => .error ⟨keyword, offset, defect⟩
      | .ok read =>
        (scanFrom keyword (cs.length - read.rest.length) (isWordChar c) (offset + 1) cs).map
          (read.name :: ·)
    else scanFrom keyword 0 (isWordChar c) (offset + 1) cs

/-- The crates that a text declares, in order. -/
def declaredCrates (policy : Policy) (text : Text) : Except DeclarationError (List Text) :=
  scanFrom policy.declarationKeyword 0 false 0 text

/-- The facts about a snippet, or the first declaration that cannot be read. -/
def analyze (policy : Policy) (text : Text) : Except DeclarationError Analysis :=
  (declaredCrates policy text).map fun crates =>
    { hasEntryPoint := hasEntryPoint policy text
      imports := neededImports policy text
      crates }

/-! ### Names -/

/-- A name that has been read is a run of word characters behind blanks, and stands in front of
another character. -/
theorem readName_eq {s : Text} {r : NameRead} (h : readName s = .ok r) :
    ∃ blanks, s = blanks ++ r.name ++ r.rest ∧ (∀ c ∈ blanks, isBlank c = true)
      ∧ r.name ≠ [] ∧ (∀ c ∈ r.name, isWordChar c = true)
      ∧ ∃ c cs, r.rest = c :: cs ∧ isWordChar c = false := by
  simp only [readName] at h
  split at h
  · simp at h
  · next hn =>
    split at h
    · simp at h
    · next hr =>
      simp only [Except.ok.injEq] at h
      subst h
      refine ⟨s.takeWhile isBlank, ?_, ?_, ?_, ?_, ?_⟩
      · simp [Text.trimStart, List.append_assoc]
      · exact fun c hc => List.all_eq_true.1 List.all_takeWhile c hc
      · simpa using hn
      · exact fun c hc => List.all_eq_true.1 List.all_takeWhile c hc
      · generalize hd : (Text.trimStart s).dropWhile isWordChar = d at hr
        cases d with
        | nil => simp at hr
        | cons c cs =>
          refine ⟨c, cs, by simp, ?_⟩
          have := List.head?_dropWhile_not isWordChar (Text.trimStart s)
          rw [hd] at this
          simpa using this

/-- Passing over characters changes nothing but the place. -/
theorem scanFrom_skip (keyword skipped s : Text) (inWord : Bool) (offset : Nat) :
    scanFrom keyword skipped.length inWord offset (skipped ++ s)
      = scanFrom keyword 0 (skipped.getLast?.elim inWord isWordChar) (offset + skipped.length)
          s := by
  induction skipped generalizing inWord offset with
  | nil => rfl
  | cons c cs ih =>
    simp only [List.length_cons, List.cons_append, scanFrom, ih]
    congr 1
    · cases cs <;> simp [List.getLast?_cons]
    · omega

end Snippet

end Oneshot
