import Oneshot.Proofs.Program.Layout

/-!
# Reading the Body Back

`unwrap` knows nothing of the snippet: it looks for the first header from the front and for the
last footer from the back. The body of a wrapped program stands between the generated ones, so it
is read back exactly when these are the ones that are found.

The last footer always is the generated one (`beforeLast?_behindHeader`), so the body itself can
hold whatever it likes. The first header is the generated one unless a line of the preamble equals
it. What remains is the indent: if it holds a boundary, the footer is broken into further lines and
is found nowhere.

* `unwrap_ofSnippet_eq_body_iff`: the body is read back exactly when the indent holds no boundary
  and no line in front of the generated header equals it.
-/

namespace Oneshot

namespace Program

variable {policy : Policy} {analysis : Analysis} {prelude text : Text}

/-- In a program whose first header stands behind `front`, the body is what `rest` holds before
its last footer. -/
theorem unwrap_of_lines {program : Text} {front rest : List Text} (hfront : header ∉ front)
    (h : Text.lines program = front ++ header :: rest) :
    unwrap policy program
      = (beforeLast? (indentedFooter policy) rest).map (·.map (Text.dropStart policy.indent)) := by
  have hdrop : (Text.lines program).dropWhile (· != header) = header :: rest := by
    have hne : ∀ l ∈ front, (l != header) = true := by
      intro l hl
      simpa using fun e : l = header => hfront (e ▸ hl)
    rw [h, List.dropWhile_append_of_pos hne]
    simp
  rw [unwrap, hdrop]
  rfl

/-- A wrapper is found only if its footer is found, line by line. -/
theorem mem_lines_of_unwrap_eq_some {program : Text} {body : List Text}
    (h : unwrap policy program = some body) :
    ∀ line ∈ indentedFooter policy, line ∈ Text.lines program := by
  rw [unwrap] at h
  split at h
  · simp at h
  · next first rest hdrop =>
    obtain ⟨before, hbefore, -⟩ := Option.map_eq_some_iff.1 h
    obtain ⟨after, hafter⟩ := eq_append_of_beforeLast? hbefore
    intro line hline
    have hrest : line ∈ first :: rest := by
      rw [hafter]
      exact List.mem_cons_of_mem _ (List.mem_append_right _ (List.mem_append_left _ hline))
    exact (List.dropWhile_suffix _).mem (hdrop ▸ hrest)

/-- A footer that is indented by a text with a boundary is no pair of lines. -/
theorem unbroken_indent_of_unwrap_eq_some {program : Text} {body : List Text}
    (h : unwrap policy program = some body) : Text.Unbroken policy.indent := by
  have hmem : policy.indent ++ [';'] ∈ Text.lines program :=
    mem_lines_of_unwrap_eq_some h _ (by simp [indentedFooter, footer])
  exact (Text.unbroken_append.1 (Text.unbroken_of_mem_lines hmem)).1

/-- **The body is read back exactly when the indent holds no boundary and no line in front of the
generated header equals it.** The body does not matter, nor does the rest of the indent. -/
theorem unwrap_ofSnippet_eq_body_iff (h : analysis.hasEntryPoint = false) :
    Text.lines (ofSnippet policy analysis prelude text).text
        = leadingLines policy analysis prelude text
          ++ header :: Text.lines (behindHeader policy text) ∧
      (unwrap policy (ofSnippet policy analysis prelude text).text
          = some (Snippet.divide policy text).body ↔
        Text.Unbroken policy.indent ∧ header ∉ leadingLines policy analysis prelude text) := by
  have hlines : Text.lines (ofSnippet policy analysis prelude text).text
      = leadingLines policy analysis prelude text
        ++ header :: Text.lines (behindHeader policy text) := lines_ofSnippet h
  refine ⟨hlines, fun hbody => ?_, fun ⟨hindent, hheader⟩ => ?_⟩
  · have hindent := unbroken_indent_of_unwrap_eq_some hbody
    refine ⟨hindent, fun hmem => ?_⟩
    -- the first header comes too early, and the lines behind it are too many
    obtain ⟨before, after, hleading, hbefore⟩ := List.eq_append_cons_of_mem hmem
    have hearly : Text.lines (ofSnippet policy analysis prelude text).text
        = before ++ header :: ((after
          ++ header :: (Snippet.divide policy text).body.map (policy.indent ++ ·))
            ++ (indentedFooter policy ++ trailer)) := by
      rw [hlines, hleading, lines_behindHeader hindent]
      simp
    rw [unwrap_of_lines hbefore hearly, beforeLast?_behindHeader, Option.map_some,
      Option.some.injEq] at hbody
    have hlength := congrArg List.length hbody
    simp only [List.length_map, List.length_append, List.length_cons] at hlength
    omega
  · rw [unwrap_of_lines hheader hlines, lines_behindHeader hindent, beforeLast?_behindHeader,
      Option.map_some, strip_indented]

/-- The body read back from a program that is not indented at all and whose body imitates the
header, the footer and the blank lines around them. -/
theorem unwrap_ofSnippet_imitation :
    let bare : Policy := { Policy.default with indent := [] }
    let prelude : Text := "use std::io::Write;"
    let text : Text := Text.ended
      ["use std::io::\x7bRead, Write\x7d;", "let x = 1;", header, "", ";", "Ok(())", "\x7d",
        "    ;"]
    unwrap bare (ofSnippet bare ⟨false, bare.triggers.take 1, []⟩ prelude text).text
      = some (Snippet.divide bare text).body := by
  intro bare prelude text
  exact (unwrap_ofSnippet_eq_body_iff rfl).2.2 ⟨by decide, by decide⟩

end Program

end Oneshot
