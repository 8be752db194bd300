import Oneshot.Proofs.Program.Layout

/-!
# Characters of the Body

A snippet is cut into lines at every boundary that Unicode knows, and its body is written line by
line with LF. This module compares the two texts character by character: the part of the snippet
that starts at its first body line, and the lines between header and footer joined again.

A boundary other than LF does not survive. It is read as a line end also where it stands in a
literal or in a comment, and an LF takes its place. All other characters do survive, and one LF at
the very end of the snippet is not counted.

* `join_enclosed_lines`: the joined lines are the body text exactly when it holds no other boundary.
* `line_separator_not_kept`: a line separator in a string literal becomes an LF.
-/

namespace Oneshot

namespace Program

variable {policy : Policy} {analysis : Analysis} {prelude text : Text}

/-- The part of the snippet that starts at its first body line. -/
def bodyText (policy : Policy) (text : Text) : Text :=
  Text.dropLines (Snippet.divide policy text).front.length text

/-- Two texts agree character for character, up to one LF at the end of the first one. -/
def SameText (s t : Text) : Prop :=
  s = t ∨ s = t ++ ['\n']

instance (s t : Text) : Decidable (SameText s t) :=
  inferInstanceAs (Decidable (s = t ∨ s = t ++ ['\n']))

/-- The lines between the generated header and the generated footer of a wrapped program are, each
without one indent, `body`. -/
def Encloses (policy : Policy) (analysis : Analysis) (prelude text : Text) (body : List Text) :
    Prop :=
  ∃ between, Text.lines (ofSnippet policy analysis prelude text).text
      = leadingLines policy analysis prelude text
        ++ header :: (between ++ (indentedFooter policy ++ trailer)) ∧
    between.map (Text.dropStart policy.indent) = body

/-- The lines of the body text are the body. -/
theorem lines_bodyText (policy : Policy) (text : Text) :
    Text.lines (bodyText policy text) = (Snippet.divide policy text).body := by
  rw [bodyText, Text.lines_dropLines, ← Snippet.front_append_body policy text, List.drop_left]

theorem cr_not_mem_bodyText (h : '\r' ∉ text) : '\r' ∉ bodyText policy text :=
  fun hmem => h ((Text.dropLines_suffix _ text).mem hmem)

/-- A wrapped program encloses the body of its snippet and nothing else. -/
theorem encloses_iff (h : analysis.hasEntryPoint = false) (hi : Text.Unbroken policy.indent)
    {body : List Text} :
    Encloses policy analysis prelude text body ↔ body = (Snippet.divide policy text).body := by
  simp only [Encloses, lines_ofSnippet h, lines_behindHeader hi]
  constructor
  · rintro ⟨between, hlines, rfl⟩
    have hbetween := List.append_cancel_right (List.cons.inj (List.append_cancel_left hlines)).2
    rw [← hbetween, strip_indented]
  · rintro rfl
    exact ⟨_, rfl, strip_indented policy.indent _⟩

theorem unbroken_default_indent : Text.Unbroken Policy.default.indent := by
  decide

/-- **The enclosed lines, joined, are the body text exactly when it holds no boundary but LF**, up
to one LF at the end of the snippet. Whatever it holds, they are the body text with every boundary
read as LF. -/
theorem join_enclosed_lines (hcr : '\r' ∉ text) (h : analysis.hasEntryPoint = false) :
    ∃ body, (∀ enclosed, Encloses Policy.default analysis prelude text enclosed ↔
        enclosed = body) ∧
      (SameText (bodyText Policy.default text) (Text.join ['\n'] body) ↔
        ∀ c ∈ bodyText Policy.default text, isBoundary c = true → c = '\n') ∧
      Text.join ['\n'] body
        = Text.dropEnd ['\n'] (Text.lfBreaks (bodyText Policy.default text)) := by
  have hjoin : Text.join ['\n'] (Snippet.divide Policy.default text).body
      = Text.dropEnd ['\n'] (Text.lfBreaks (bodyText Policy.default text)) := by
    rw [← lines_bodyText, Text.join_lines (cr_not_mem_bodyText hcr)]
  refine ⟨_, fun enclosed => encloses_iff h unbroken_default_indent, ?_, hjoin⟩
  rw [hjoin]
  exact Text.eq_or_eq_append_lf_iff

/-- The lines of a snippet whose comment holds a form feed, behind two front lines. -/
theorem join_enclosed_lines_form_feed :
    let text : Text := "// doc\nuse std::env;\n\nlet a = 1; // one\x0clet b = 2;\n"
    let analysis : Analysis := ⟨false, [], []⟩
    ∃ body, (∀ enclosed, Encloses Policy.default analysis defaultPrelude text enclosed ↔
        enclosed = body) ∧
      (SameText (bodyText Policy.default text) (Text.join ['\n'] body) ↔
        ∀ c ∈ bodyText Policy.default text, isBoundary c = true → c = '\n') ∧
      Text.join ['\n'] body
        = Text.dropEnd ['\n'] (Text.lfBreaks (bodyText Policy.default text)) := by
  intro text analysis
  exact join_enclosed_lines (by decide) rfl

/-- A line separator in a string literal is not kept: the lines between header and footer, joined,
are not the body text, with or without an LF at its end. -/
theorem line_separator_not_kept :
    let text : Text := "let s = \"a\u2028b\";"
    '\r' ∉ text ∧ Snippet.analyze Policy.default text = .ok ⟨false, [], []⟩ ∧
      ¬ ∃ body, Encloses Policy.default ⟨false, [], []⟩ [] text body ∧
        SameText (bodyText Policy.default text) (Text.join ['\n'] body) := by
  intro text
  refine ⟨by decide, by decide, ?_⟩
  rintro ⟨body, hbody, hkept⟩
  rw [encloses_iff rfl unbroken_default_indent] at hbody
  subst hbody
  revert hkept
  decide

end Program

end Oneshot
