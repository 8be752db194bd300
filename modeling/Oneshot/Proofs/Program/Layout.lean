import Oneshot.Program
import Oneshot.Proofs.Text.Lines

/-!
# Layout of a Wrapped Program

A wrapped program is written as a list of entries joined by LF, and read as a text that is cut at
every kind of line boundary. This module says where the two views meet: at the generated header.

In front of it stand the leading lines. They are the lines of the preamble, which need not be its
entries, because an import line of the policy may hold boundaries itself. Behind the header stand
the body and the footer, each line with one indent, and then the trailer, which is the same for
every snippet. Only an indent that holds a boundary can break these lines.

* `text_ofSnippet`, `lines_ofSnippet`: the program as a text and as lines, split at the header.
* `lines_behindHeader`: the lines behind the header, for an indent without boundary.
* `beforeLast?_behindHeader`: the last footer of a program is the generated one. No indent makes
  the trailer look like a footer, since none of its lines ends with a parenthesis.
-/

namespace Oneshot

namespace Program

variable {policy : Policy} {analysis : Analysis} {prelude text : Text}

/-- The lines of a wrapped program in front of its generated header. -/
def leadingLines (policy : Policy) (analysis : Analysis) (prelude text : Text) : List Text :=
  Text.lines (Text.ended (preamble policy analysis prelude text))

/-- The footer as it stands in a program. -/
def indentedFooter (policy : Policy) : List Text :=
  footer.map (policy.indent ++ ·)

/-- The wrapped program behind its generated header line. -/
def behindHeader (policy : Policy) (text : Text) : Text :=
  Text.ended ((Snippet.divide policy text).body.map (policy.indent ++ ·) ++ indentedFooter policy
    ++ [closing, []]) ++ entryPoint

/-- The lines behind the generated footer. -/
def trailer : List Text :=
  [closing, []] ++ Text.lines entryPoint

/-! ### The program around its header -/

/-- A wrapped program is its preamble, the header and what stands behind it. -/
theorem text_ofSnippet (h : analysis.hasEntryPoint = false) :
    (ofSnippet policy analysis prelude text).text
      = Text.ended (preamble policy analysis prelude text)
        ++ (header ++ '\n' :: behindHeader policy text) := by
  have hne : wrappedLines policy analysis prelude text ≠ [] := by simp [wrappedLines]
  rw [ofSnippet, if_neg (by simp [h])]
  simp only [Text.join_lf_append hne]
  simp [wrappedLines, behindHeader, indentedFooter]

theorem unbroken_header : Text.Unbroken header := by
  decide

/-- The generated header is a line of the program, and the line behind the leading ones. -/
theorem lines_ofSnippet (h : analysis.hasEntryPoint = false) :
    Text.lines (ofSnippet policy analysis prelude text).text
      = leadingLines policy analysis prelude text
        ++ header :: Text.lines (behindHeader policy text) := by
  rw [text_ofSnippet h, Text.lines_ended_append, Text.lines_cons_lf unbroken_header]
  rfl

/-- With an indent that holds no boundary, no line behind the header is broken. -/
theorem lines_behindHeader (hi : Text.Unbroken policy.indent) :
    Text.lines (behindHeader policy text)
      = (Snippet.divide policy text).body.map (policy.indent ++ ·)
        ++ (indentedFooter policy ++ trailer) := by
  have hbody : ∀ l ∈ (Snippet.divide policy text).body, Text.Unbroken l := fun l hl =>
    Text.unbroken_of_mem_lines ((List.dropWhile_suffix _).mem hl)
  have hfooter : ∀ l ∈ footer ++ [closing, []], Text.Unbroken l := by decide
  have hlines : ∀ l ∈ (Snippet.divide policy text).body.map (policy.indent ++ ·)
      ++ indentedFooter policy ++ [closing, []], Text.Unbroken l := by
    intro l hl
    simp only [List.mem_append, indentedFooter, List.mem_map, or_assoc] at hl
    rcases hl with ⟨m, hm, rfl⟩ | ⟨m, hm, rfl⟩ | hl
    · exact Text.unbroken_append.2 ⟨hi, hbody m hm⟩
    · exact Text.unbroken_append.2 ⟨hi, hfooter m (List.mem_append_left _ hm)⟩
    · exact hfooter l (List.mem_append_right _ hl)
  rw [behindHeader, Text.lines_ended_append, Text.lines_ended hlines, trailer]
  simp

/-! ### The last footer -/

/-- What is found as the last occurrence is one. -/
theorem eq_append_of_beforeLast? {final lines before : List Text}
    (h : beforeLast? final lines = some before) : ∃ after, lines = before ++ (final ++ after) := by
  induction lines generalizing before with
  | nil =>
    simp only [beforeLast?] at h
    split at h
    · next hf =>
      obtain rfl := List.isEmpty_iff.1 hf
      exact ⟨[], by simpa using h⟩
    · simp at h
  | cons line lines ih =>
    simp only [beforeLast?] at h
    split at h
    · next before' hb =>
      obtain ⟨after, hafter⟩ := ih hb
      obtain rfl := Option.some.inj h
      exact ⟨after, by simp [hafter]⟩
    · split at h
      · next hp =>
        obtain ⟨after, hafter⟩ := List.isPrefixOf_iff_prefix.1 hp
        obtain rfl := Option.some.inj h
        exact ⟨after, by simp [hafter]⟩
      · simp at h

/-- Lines in front of an occurrence do not matter. -/
theorem beforeLast?_append {final lines before : List Text}
    (h : beforeLast? final lines = some before) (front : List Text) :
    beforeLast? final (front ++ lines) = some (front ++ before) := by
  induction front with
  | nil => exact h
  | cons line front ih => simp [beforeLast?, ih]

/-- Two lines do not follow each other where the second one is absent behind the first place. -/
theorem beforeLast?_pair_eq_none {first second line : Text} {lines : List Text}
    (h : second ∉ lines) : beforeLast? [first, second] (line :: lines) = none := by
  induction lines generalizing line with
  | nil => simp [beforeLast?]
  | cons next lines ih =>
    simp only [List.mem_cons, not_or] at h
    rw [beforeLast?, ih h.2]
    simp [List.cons_prefix_cons, h.1]

/-- The second line of the footer ends with a parenthesis and no line of the trailer does. -/
theorem indentedFooter_not_mem_trailer (indent : Text) : indent ++ "Ok(())".toList ∉ trailer := by
  have htrailer : ∀ l ∈ trailer, l.getLast? ≠ some ')' := by decide
  intro h
  refine htrailer _ h ?_
  rw [List.getLast?_append]
  rfl

/-- **The last footer is the generated one**, whatever the indent and the body are. -/
theorem beforeLast?_behindHeader (policy : Policy) (lines : List Text) :
    beforeLast? (indentedFooter policy) (lines ++ (indentedFooter policy ++ trailer))
      = some lines := by
  have hlast : beforeLast? (indentedFooter policy) (indentedFooter policy ++ trailer)
      = some [] := by
    have hnone : beforeLast? (indentedFooter policy)
        ((policy.indent ++ "Ok(())".toList) :: trailer) = none :=
      beforeLast?_pair_eq_none (indentedFooter_not_mem_trailer policy.indent)
    have hsplit : indentedFooter policy ++ trailer
        = (policy.indent ++ [';']) :: (policy.indent ++ "Ok(())".toList) :: trailer := rfl
    have hprefix : (indentedFooter policy).isPrefixOf (indentedFooter policy ++ trailer) = true :=
      List.isPrefixOf_iff_prefix.2 (List.prefix_append _ _)
    rw [hsplit] at hprefix ⊢
    rw [beforeLast?, hnone]
    exact if_pos hprefix
  simpa using beforeLast?_append hlast lines

end Program

end Oneshot
