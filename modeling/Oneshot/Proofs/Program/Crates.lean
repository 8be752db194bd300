import Oneshot.Proofs.Program.Overlap
import Oneshot.Proofs.Snippet.UseDeclaration

/-!
# Crates of a Wrapped Program

The crates that a program is linked with are those that its snippet declares, so the program had
better declare the same. Wrapping takes the text apart into lines, though, and a declaration need
not end with its line: blanks between the keyword and the name may hold line ends. Behind the last
front line such a declaration is torn apart, since the header comes between its two lines.

If every front line can be read on its own, nothing is torn apart. The lines that wrapping adds
declare nothing, the lines it takes away declare nothing, and the others keep what they declare
through line ends, indents and the spacing of use lines.

* `crates_ofSnippet`: a wrapped program declares the crates of its snippet, if every front line can
  be read on its own and use lines that are written anew space the keyword as it is looked for.
* `crates_of_torn_declaration`: a declaration over two lines that makes the program declare `fn`.
-/

namespace Oneshot

namespace Program

open Snippet

variable {analysis : Analysis} {text : Text}

/-! ### What wrapping adds -/

/-- The keyword of a declaration, character by character. -/
theorem declarationKeyword_default : Policy.default.declarationKeyword =
    ['e', 'x', 't', 'e', 'r', 'n', ' ', 'c', 'r', 'a', 't', 'e'] :=
  Text.toList_eq rfl

theorem declares_iff {crates : List Text} :
    declaredCrates Policy.default text = .ok crates ↔ Declares crateKeyword false text crates := by
  have hk : Policy.default.declarationKeyword ≠ [] := by simp [declarationKeyword_default]
  exact declaredCrates_eq_ok_iff hk

/-- An analysis says which crates the text declares. -/
theorem declares_of_analyze (h : analyze Policy.default text = .ok analysis) :
    Declares crateKeyword false text analysis.crates := by
  rw [analyze] at h
  cases hcrates : declaredCrates Policy.default text with
  | error e => simp [hcrates, Except.map] at h
  | ok crates =>
    rw [hcrates] at h
    obtain rfl := Except.ok.inj h
    exact declares_iff.1 hcrates

/-- A text that can be read can be analysed. -/
theorem exists_analyze_of_declares {crates : List Text}
    (h : Declares crateKeyword false text crates) :
    ∃ analysis, analyze Policy.default text = .ok analysis ∧ analysis.crates = crates := by
  rw [analyze, declares_iff.2 h]
  exact ⟨_, rfl, rfl⟩

theorem separates_lf : Separates crateKeyword '\n' :=
  separates_crateKeyword (by simp)

theorem declares_nil_of_generated (h : analyze Policy.default text = .ok analysis) {line : Text}
    (hline : line ∈ generatedImports Policy.default analysis defaultPrelude text) :
    Declares crateKeyword false (line ++ ['\n']) [] := by
  have htable : ∀ line ∈ Policy.default.triggers.flatMap Trigger.lines,
      declaredCrates Policy.default (line ++ ['\n']) = .ok [] := by
    simp only [declaredCrates, declarationKeyword_default]
    decide
  have hmem := importLine_of_analyze h (importLine_of_generated hline)
  exact declares_iff.1 (htable line hmem)

theorem declares_nil_of_prelude {line : Text} (hline : line ∈ Text.lines defaultPrelude) :
    Declares crateKeyword false (line ++ ['\n']) [] := by
  have hall : ∀ line ∈ Text.lines defaultPrelude,
      declaredCrates Policy.default (line ++ ['\n']) = .ok [] := by
    -- the literals are spelled out before anything is evaluated
    simp (disch := rfl) only [declaredCrates, declarationKeyword_default, defaultPrelude,
      Text.toList_eq]
    decide
  exact declares_iff.1 (hall line hline)

theorem declares_nil_of_header : Declares crateKeyword false (header ++ ['\n']) [] := by
  refine declares_iff.1 ?_
  unfold header
  simp (disch := rfl) only [declaredCrates, declarationKeyword_default, Text.toList_eq]
  decide

/-- What stands behind the body declares nothing. -/
theorem declares_nil_behind_body :
    Declares crateKeyword false
      (Text.ended (indentedFooter Policy.default ++ [closing, []]) ++ entryPoint) [] := by
  refine declares_iff.1 ?_
  simp (disch := rfl) only [declaredCrates, declarationKeyword_default, entryPoint, Text.toList_eq]
  decide

/-! ### What wrapping keeps -/

/-- Front lines that can be read one by one declare the same as what is kept of them. -/
theorem declaresEach_keptLines {crates : List Text}
    (h : DeclaresEach crateKeyword '\n' (divide Policy.default text).front crates)
    (hspaced : ∀ line ∈ (divide Policy.default text).front,
      UseLine.without (UseLine.pathsOf (Text.lines defaultPrelude)) line ≠ some line →
        KeywordSpaced "extern" "crate" line) :
    DeclaresEach crateKeyword '\n' (keptLines Policy.default defaultPrelude text) crates := by
  have himported : ∀ path ∈ UseLine.pathsOf (Text.lines defaultPrelude), 'x' ∉ path := by
    simp (disch := rfl) only [defaultPrelude, Text.toList_eq]
    decide
  refine h.filterMap (fun line _ names hnames hnone => ?_)
    fun line hline names hnames entry hentry => ?_
  · exact hnames.unique crateKeyword_ne_nil (declares_nil_of_without_eq_none himported hnone)
  · exact declares_of_without_eq_some himported hentry (hspaced line hline) hnames

/-- A text declares the same if it is written line by line. -/
theorem declares_lines {crates : List Text} (h : Declares crateKeyword false text crates) :
    Declares crateKeyword false (Text.ended (Text.lines text)) crates := by
  by_cases hne : text = []
  · subst hne
    exact h
  · exact (h.concat crateKeyword_ne_nil separates_lf).respaced isWord_extern isWord_crate
      (respaced_lines hne [])

/-- Lines declare the same if they are indented. -/
theorem declares_indented {lines crates : List Text}
    (h : Declares crateKeyword false (Text.ended lines) crates) :
    Declares crateKeyword false (Text.ended (lines.map (Policy.default.indent ++ ·))) crates := by
  have hindent : ∀ c ∈ Policy.default.indent, isBlank c = true :=
    List.all_eq_true.1 (by decide)
  obtain ⟨t, ht, hr⟩ := respaced_indented hindent lines []
  have hblanks : ∀ c ∈ (if lines = [] then [] else Policy.default.indent), isBlank c = true := by
    split
    · simp
    · exact hindent
  rw [ht, declares_blanks_iff hblanks]
  exact h.respaced isWord_extern isWord_crate hr

/-- Ended lines are read on their own, whatever they hold. -/
theorem standalone_ended {lines crates : List Text}
    (h : Declares crateKeyword false (Text.ended lines) crates) :
    Standalone crateKeyword (Text.ended lines) crates := by
  by_cases hne : lines = []
  · subst hne
    rw [h.unique crateKeyword_ne_nil (.done false)]
    exact .nil
  · rw [← Text.join_lf_append hne] at h ⊢
    exact h.standalone crateKeyword_ne_nil separates_lf

/-! ### The crates of the program -/

/-- **A wrapped program declares the crates of its snippet**, if every front line can be read on its
own, and the keyword is spaced as it is looked for in every use line that is written anew. -/
theorem crates_ofSnippet (h : analyze Policy.default text = .ok analysis)
    (hentry : analysis.hasEntryPoint = false)
    (hread : ∀ line ∈ (divide Policy.default text).front,
      ∃ names, declaredCrates Policy.default (line ++ ['\n']) = .ok names)
    (hspaced : ∀ line ∈ (divide Policy.default text).front,
      UseLine.without (UseLine.pathsOf (Text.lines defaultPrelude)) line ≠ some line →
        KeywordSpaced "extern" "crate" line) :
    ∃ analysis', analyze Policy.default
        (ofSnippet Policy.default analysis defaultPrelude text).text = .ok analysis' ∧
      analysis'.crates = analysis.crates := by
  obtain ⟨names, hfront⟩ := DeclaresEach.exists_of_forall fun line hline =>
    (hread line hline).imp fun _ => declares_iff.1
  -- the text declares what its front lines and its body declare
  have hlines := declares_lines (declares_of_analyze h)
  rw [← front_append_body Policy.default, Text.ended_append,
    hfront.standalone crateKeyword_ne_nil separates_lf] at hlines
  obtain ⟨bodyNames, hcrates, hbody⟩ := hlines
  -- and so does the program
  have hprelude : DeclaresEach crateKeyword '\n' (Text.lines defaultPrelude) [] :=
    .of_forall fun line => declares_nil_of_prelude
  have hgenerated : DeclaresEach crateKeyword '\n'
      (generatedImports Policy.default analysis defaultPrelude text) [] :=
    .of_forall fun line => declares_nil_of_generated h
  have hpreamble : DeclaresEach crateKeyword '\n'
      (preamble Policy.default analysis defaultPrelude text) names := by
    rw [preamble_eq]
    exact (hprelude.append hgenerated).append (declaresEach_keptLines hfront hspaced)
  have hheader : Standalone crateKeyword (header ++ ['\n']) [] :=
    declares_nil_of_header.standalone crateKeyword_ne_nil separates_lf
  have hbehind : Declares crateKeyword false (behindHeader Policy.default text) bodyNames := by
    rw [behindHeader, List.append_assoc, Text.ended_append, List.append_assoc,
      standalone_ended (declares_indented hbody)]
    exact ⟨[], by simp, declares_nil_behind_body⟩
  refine exists_analyze_of_declares ?_
  rw [text_ofSnippet hentry, hpreamble.standalone crateKeyword_ne_nil separates_lf, hcrates]
  refine ⟨bodyNames, rfl, ?_⟩
  have hheader_behind := (hheader (behindHeader Policy.default text) bodyNames).2
    ⟨bodyNames, rfl, hbehind⟩
  simpa using hheader_behind

/-- The crates of a program with declarations in front of the body, in it, and in a use line of
which the prelude makes one item superfluous. -/
theorem crates_ofSnippet_group :
    let text : Text := Text.ended
      ["extern crate regex;", "use std::io::\x7bWrite, Read, extern crate serde\x7d;", "let x = 1;",
        "extern crate", "    rand;"]
    let analysis : Analysis := ⟨false, [], ["regex", "serde", "rand"]⟩
    ∃ analysis', analyze Policy.default
        (ofSnippet Policy.default analysis defaultPrelude text).text = .ok analysis' ∧
      analysis'.crates = analysis.crates := by
  intro text analysis
  refine crates_ofSnippet ?_ rfl (fun line hline => ?_) fun line hline _ => ?_
  · simp (disch := rfl) only [text, analysis, Text.toList_eq]
    decide
  · have hread : ∀ line ∈ (divide Policy.default text).front,
        (declaredCrates Policy.default (line ++ ['\n'])).toOption.isSome = true := by
      simp (disch := rfl) only [text, Text.toList_eq]
      decide
    cases hnames : declaredCrates Policy.default (line ++ ['\n']) with
    | error e => simpa [hnames, Except.toOption] using hread line hline
    | ok names => exact ⟨names, rfl⟩
  · have hblank : ∀ line ∈ (divide Policy.default text).front,
        (line.all fun c => isBlank c → c = ' ') ∧ ¬ [' ', ' '] <:+: line := by
      simp (disch := rfl) only [text, Text.toList_eq]
      decide
    exact keywordSpaced_of_single (List.all_iff_forall_prop.1 (hblank line hline).1)
      (hblank line hline).2

/-- A declaration whose name stands on the line behind the front is torn apart by the header: the
text declares `regex`, and the program declares `fn`. -/
theorem crates_of_torn_declaration :
    let text : Text := "extern crate\n    regex;\nlet x = 1;\n"
    let analysis : Analysis := ⟨false, [], ["regex"]⟩
    analyze Policy.default text = .ok analysis ∧ analysis.hasEntryPoint = false ∧
      ∃ analysis', analyze Policy.default
          (ofSnippet Policy.default analysis defaultPrelude text).text = .ok analysis' ∧
        analysis'.crates = ["fn".toList] ∧ analysis'.crates ≠ analysis.crates := by
  intro text analysis
  refine ⟨?_, rfl, ⟨true, [], ["fn"]⟩, ?_, rfl, by decide⟩
  · simp (disch := rfl) only [text, analysis, Text.toList_eq]
    decide
  rw [text_ofSnippet rfl, behindHeader]
  unfold header
  simp (disch := rfl) only [text, analysis, defaultPrelude, entryPoint, closing, Text.toList_eq]
  decide +kernel

end Program

end Oneshot
